import AuctionHooks.EngineError
import AuctionHooks.Table
import AuctionHooks.Text.Blank
import AuctionHooks.Text.LowerCase

/-!
# Stages of an auction request

An auction request passes through nine stages, always in the same order.  Hooks are attached to
stages, and the stage decides whether a hook may reject the request: once the responses have been
gathered there is nothing left to reject, so the last three stages only report.

## Names

Each stage has one name, in lower case with hyphens, and that name is what is written.  Reading is
more lenient (`Stage.ofText`): white space around the name is dropped, case does not matter, and
an underscore stands for a hyphen.
-/

namespace AuctionHooks

inductive Stage where
  | entrypoint
  | rawAuctionRequest
  | processedAuctionRequest
  | bidderRequest
  | rawBidderResponse
  | processedBidderResponse
  | allProcessedBidResponses
  | auctionResponse
  | exitpoint
  deriving DecidableEq, Inhabited, Repr

namespace Stage

/-- All stages, in the order in which a request passes them. -/
def all : List Stage :=
  [entrypoint, rawAuctionRequest, processedAuctionRequest, bidderRequest, rawBidderResponse,
    processedBidderResponse, allProcessedBidResponses, auctionResponse, exitpoint]

theorem mem_all (s : Stage) : s ∈ all := by cases s <;> decide

/-- The place of a stage in the life of a request, counted from zero. -/
def position : Stage → Nat
  | entrypoint => 0
  | rawAuctionRequest => 1
  | processedAuctionRequest => 2
  | bidderRequest => 3
  | rawBidderResponse => 4
  | processedBidderResponse => 5
  | allProcessedBidResponses => 6
  | auctionResponse => 7
  | exitpoint => 8

theorem position_injective {s t : Stage} (h : s.position = t.position) : s = t := by
  cases s <;> cases t <;> simp_all [position]

instance : Ord Stage := ⟨fun s t => compare s.position t.position⟩

instance : Std.TransOrd Stage := inferInstanceAs (Std.TransCmp (compareOn Stage.position))

instance : Std.LawfulEqOrd Stage where
  eq_of_compare h := position_injective (Std.LawfulEqOrd.eq_of_compare (α := Nat) h)

def rejectAllowed : Stage → Bool
  | allProcessedBidResponses | auctionResponse | exitpoint => false
  | _ => true

def name : Stage → String
  | entrypoint => "entrypoint"
  | rawAuctionRequest => "raw-auction-request"
  | processedAuctionRequest => "processed-auction-request"
  | bidderRequest => "bidder-request"
  | rawBidderResponse => "raw-bidder-response"
  | processedBidderResponse => "processed-bidder-response"
  | allProcessedBidResponses => "all-processed-bid-responses"
  | auctionResponse => "auction-response"
  | exitpoint => "exitpoint"

instance : ToString Stage := ⟨name⟩

/-- The text that is compared with the names: trimmed, in lower case, with hyphens. -/
def normalize (cs : List Char) : List Char :=
  (Text.lowerChars (Text.trimChars cs)).map fun c => if c = '_' then '-' else c

/-- The stage that a text names, if it names one. -/
def ofText? (text : String) : Option Stage :=
  let wanted := normalize text.toList
  all.find? fun s => s.name.toList == wanted

def ofText (text : String) : Except EngineError Stage :=
  match ofText? text with
  | some s => .ok s
  | none => .error (.unknownStage text)

end Stage

end AuctionHooks
