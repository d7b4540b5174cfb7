import AuctionHooks.Document.Codec.Config
import AuctionHooks.Document.Codec.Outcome
import AuctionHooks.Document.Read
import AuctionHooks.Proofs.DocumentRecordLaw
import AuctionHooks.Proofs.TableLaw

/-!
# Decoders that undo encoders

Encoders and decoders are put together from the same parts in the same way: leaves, lists, tables,
fields, records.  So whether the two agree is best asked of each way of putting them together, and only
once.  `Decoder.Undoes` is that agreement for a decoder and an encoder, and `RecordReader.Undoes` is the
same for the entries of a record; each combinator of decoders has a lemma that carries the agreement over
from its parts.  For a type of its own, all that is left to check is that its parts are taken apart and
put together in the same order and under the same names.

## What the agreement holds

Beside the reading itself, in whatever order the entries of records were written, it holds that encoded
values can be written (`Value.Fits`).  What agrees on value trees therefore agrees on texts
(`Decoder.Undoes.read`).
-/

namespace AuctionHooks

open Value (Hold Rearranges)

variable {α β : Type}

namespace Decoder

/-- That a decoder undoes an encoder: it reads each encoded value as what was encoded, in whatever order
the entries of records stand, and encoded values can be written in so many levels. -/
structure Undoes (d : Decoder α) (encode : α → Value) (n : Nat) : Prop where
  fits : ∀ a, (encode a).Fits n
  reads : ∀ f a w, (encode a).Rearranges w → d f w = .ok a

variable {d : Decoder α} {encode : α → Value} {n : Nat}

/-- **What is undone as a value is undone as a text**: the compact form of an encoded value, in whatever
order its entries were written, is read as what was encoded. -/
theorem Undoes.read (h : d.Undoes encode n) (hn : n < Json.maxDepth) {a : α} {w : Value}
    (hw : (encode a).Rearranges w) : Json.read d (Json.compact w) = .ok a := by
  have hfits := (h.fits a).rearranged hw
  simp only [Json.read, Json.parse_compact hfits hn, h.reads .json a w hw]

/-! ## Leaves -/

theorem undoes_text (n : Nat) : text.Undoes .text n where
  fits s := .text s
  reads f s w hw := by
    cases hw
    rfl

theorem undoes_natural (n : Nat) : natural.Undoes .natural n where
  fits k := .natural k
  reads f k w hw := by
    cases hw
    rfl

theorem undoes_bool (n : Nat) : bool.Undoes .bool n where
  fits b := .bool b
  reads f b w hw := by
    cases hw
    rfl

/-- The members of an enumeration are told apart by their names. -/
theorem undoes_variant {all : List α} {name : α → String} (n : Nat)
    (h : ∀ a, (all.find? fun b => name b = name a) = some a) :
    (variant all name).Undoes (fun a => .text (name a)) n where
  fits a := .text (name a)
  reads f a w hw := by
    cases hw
    show member all name (name a) = _
    rw [member, h a]

/-! ## Values that are put together -/

theorem Undoes.list (h : d.Undoes encode n) :
    d.list.Undoes (fun l => .list (l.map encode)) (n + 1) where
  fits l := .list fun v hv => by
    obtain ⟨a, -, rfl⟩ := List.mem_map.1 hv
    exact h.fits a
  reads f l w hw := by
    obtain ⟨ws, rfl, hitems⟩ := hw.exists_items
    rw [List.forall₂_map_left_iff] at hitems
    exact mapM_eq_ok_iff.2 (hitems.imp (h.reads f)).flip

/-- What is not `null` is read if it may be absent, too. -/
theorem optional_of_ne_null (d : Decoder α) (f : Format) {v : Value} (h : v ≠ .null) :
    d.optional f v = some <$> d f v := by
  cases v <;> first | exact absurd rfl h | rfl

theorem Undoes.optional (h : d.Undoes encode n) (hnull : ∀ a, encode a ≠ .null) :
    d.optional.Undoes (Value.ofOption encode) n where
  fits o := by
    cases o with
    | none => exact .null
    | some a => exact h.fits a
  reads f o w hw := by
    cases o with
    | none =>
      cases hw
      rfl
    | some a =>
      have hne : w ≠ .null := by
        rintro rfl
        exact hnull a hw.eq_null
      rw [optional_of_ne_null d f hne, h.reads f a w hw]
      rfl

/-- The entries of a table are put into it as they are read. -/
theorem table_record {f : Format} {l : List (String × α)} {es : List (String × Value)}
    (h : List.Forall₂ (fun e e' => e.1 = e'.1 ∧ d f e'.2 = .ok e.2) l es) :
    d.table f (.record es) = .ok (Table.ofList l) := by
  have hfold : ∀ t : Table String α,
      es.foldlM (fun t e => t.insert e.1 <$> d f e.2) t = .ok (t.insertAll l) := by
    induction h with
    | nil => exact fun t => rfl
    | cons hfirst _ ih =>
      intro t
      rw [List.foldlM_cons, hfirst.2, ← hfirst.1]
      exact ih _
  exact hfold ∅

/-- Entries that were encoded one by one are read one by one, in whatever order. -/
theorem Undoes.exists_entries (h : d.Undoes encode n) (f : Format) {l : List (String × α)} {w : Value}
    (hw : (Value.record (l.map fun e => (e.1, encode e.2))).Rearranges w) :
    ∃ l' es, w = .record es ∧ l.Perm l' ∧
      List.Forall₂ (fun e e' => e.1 = e'.1 ∧ d f e'.2 = .ok e.2) l' es := by
  obtain ⟨middle, es, rfl, hperm, hentries⟩ := hw.exists_entries
  have hcomp := congrFun (congrFun
    (List.eq_map_comp_perm fun e : String × α => (e.1, encode e.2)) middle) l
  obtain ⟨l', rfl, hl⟩ := hcomp.mpr hperm.symm
  rw [List.forall₂_map_left_iff] at hentries
  exact ⟨l', es, rfl, hl.symm, hentries.imp fun e e' he => ⟨he.1, h.reads f e.2 e'.2 he.2⟩⟩

theorem Undoes.table (h : d.Undoes encode n) :
    d.table.Undoes (Value.ofTable encode) (n + 1) where
  fits t := .record fun e he => by
    obtain ⟨x, -, rfl⟩ := List.mem_map.1 he
    exact h.fits x.2
  reads f t w hw := by
    obtain ⟨l, es, rfl, hperm, hentries⟩ := h.exists_entries f hw
    rw [table_record hentries, Table.ofList_eq_of_perm hperm]

end Decoder

namespace RecordReader

/-- That a reader undoes what is written as the entries of a record: it reads them from any record that
holds them, and they are named as its fields are. -/
structure Undoes (r : RecordReader α) (entries : α → List (String × Value)) (n : Nat) : Prop where
  fits : ∀ a, ∀ e ∈ entries a, e.2.Fits n
  names : ∀ a, (entries a).map Prod.fst = r.names
  reads : ∀ f a es, Passable es → (es.map Prod.fst).Nodup → Hold es (entries a) →
    r.readEntries f es = .ok a

variable {r : RecordReader α} {s : RecordReader β} {entries : α → List (String × Value)}
  {entries' : β → List (String × Value)} {n : Nat}

/-- A field undoes what its decoder does, under its name. -/
theorem undoes_field {d : Decoder α} {encode : α → Value} (h : d.Undoes encode n) (name : String)
    (absent : RecordLayout → Except DecodeError α) :
    (field name d absent).Undoes (fun a => [(name, encode a)]) n where
  fits a := List.forall_mem_singleton.2 (h.fits a)
  names a := rfl
  reads f a es hpass hnodup hhold := by
    obtain ⟨w, hmem, hw⟩ := hhold _ List.mem_cons_self
    rw [readEntries_field name d absent hpass hnodup, lookup_of_mem hnodup hmem]
    exact h.reads f a w hw

theorem undoes_required {d : Decoder α} {encode : α → Value} (h : d.Undoes encode n)
    (name : String) : (required name d).Undoes (fun a => [(name, encode a)]) n :=
  undoes_field h name _

theorem undoes_withDefault {d : Decoder α} {encode : α → Value} (h : d.Undoes encode n)
    (name : String) (default : α) :
    (withDefault name d default).Undoes (fun a => [(name, encode a)]) n :=
  undoes_field h name _

theorem undoes_optional {d : Decoder α} {encode : α → Value} (h : d.Undoes encode n)
    (hnull : ∀ a, encode a ≠ .null) (name : String) :
    (RecordReader.optional name d).Undoes (fun o => [(name, Value.ofOption encode o)]) n :=
  undoes_field (h.optional hnull) name _

/-- Two readers side by side undo what is written side by side. -/
theorem Undoes.and (hr : r.Undoes entries n) (hs : s.Undoes entries' n)
    (hnames : ∀ name ∈ r.names, name ∉ s.names) :
    (r.and s).Undoes (fun x => entries x.1 ++ entries' x.2) n where
  fits x := List.forall_mem_append.2 ⟨hr.fits x.1, hs.fits x.2⟩
  names x := by
    rw [List.map_append, hr.names, hs.names, names_and]
  reads f x es hpass hnodup hhold := by
    obtain ⟨hholds, hholds'⟩ := List.forall_mem_append.1 hhold
    exact (readEntries_and_iff (fun name hr hs => hnames name hr hs) hpass).2
      ⟨hr.reads f x.1 es hpass hnodup hholds, hs.reads f x.2 es hpass hnodup hholds'⟩

/-- What is made of what is read is undone by taking it apart again. -/
theorem Undoes.map (h : r.Undoes entries n) {make : α → β} (parts : β → α)
    (hmake : ∀ b, make (parts b) = b) :
    (r.map make).Undoes (fun b => entries (parts b)) n where
  fits b := h.fits (parts b)
  names b := h.names (parts b)
  reads f b es hpass hnodup hhold := by
    rw [readEntries_map, h.reads f (parts b) es hpass hnodup hhold]
    show Except.ok (make (parts b)) = _
    rw [hmake]

/-- What a record that fits becomes when it is rearranged: a record that holds its entries, in which no
name stands twice either, and which fits. -/
theorem exists_entries_of_rearranges {es : List (String × Value)} {w : Value}
    (hw : (Value.record es).Rearranges w) (hfits : ∀ e ∈ es, e.2.Fits n)
    (hnodup : (es.map Prod.fst).Nodup) :
    ∃ es', w = .record es' ∧ Hold es' es ∧ (es'.map Prod.fst).Nodup ∧ ∀ e ∈ es', e.2.Fits n := by
  obtain ⟨es', rfl, hhold, hnames⟩ := hw.exists_hold
  cases (Value.Fits.record hfits).rearranged hw with
  | record hfits' => exact ⟨es', rfl, hhold, hnames.nodup_iff.2 hnodup, hfits'⟩

/-- **A record is undone by a reader of its entries.** -/
theorem Undoes.decode (h : r.Undoes entries n) (hnodup : r.names.Nodup) :
    r.decode.Undoes (fun a => .record (entries a)) (n + 1) where
  fits a := .record (h.fits a)
  reads f a w hw := by
    obtain ⟨es, rfl, hhold, hnodup', hfits⟩ :=
      exists_entries_of_rearranges hw (h.fits a) (by rw [h.names]; exact hnodup)
    exact h.reads f a es (fun e he => (hfits e he).isPassable) hnodup' hhold

/-- **A record is undone by two readers, one after the other**, of which each asks for its own part. -/
theorem Undoes.decodeBeside (hr : r.Undoes entries n) (hs : s.Undoes entries' n)
    (hnodup : (r.names ++ s.names).Nodup) :
    (r.decodeBeside s).Undoes (fun x => .record (entries x.1 ++ entries' x.2)) (n + 1) where
  fits x := .record (List.forall_mem_append.2 ⟨hr.fits x.1, hs.fits x.2⟩)
  reads f x w hw := by
    obtain ⟨es, rfl, hhold, hnodup', hfits⟩ := exists_entries_of_rearranges hw
      (List.forall_mem_append.2 ⟨hr.fits x.1, hs.fits x.2⟩)
      (by rw [List.map_append, hr.names, hs.names]; exact hnodup)
    obtain ⟨hholds, hholds'⟩ := List.forall_mem_append.1 hhold
    have hothers : (r.others es).Sublist es := List.filter_sublist
    have hhold' : Hold (r.others es) (entries' x.2) := by
      intro e he
      obtain ⟨w, hmem, hw⟩ := hholds' e he
      have hname : e.1 ∈ s.names := by
        rw [← hs.names x.2]
        exact List.mem_map_of_mem he
      have hnot : e.1 ∉ r.names := fun h => List.disjoint_of_nodup_append hnodup h hname
      exact ⟨w, List.mem_filter.2 ⟨hmem, decide_eq_true hnot⟩, hw⟩
    exact decodeBeside_record (fun e he => (hfits e he).isReadable)
      (fun e he => (hfits e he).isPassable)
      (hr.reads f x.1 es (fun e he => (hfits e he).isPassable) hnodup' hholds)
      (hs.reads f x.2 _ (fun e he => (hfits e (hothers.subset he)).isPassable)
        (hnodup'.sublist (hothers.map Prod.fst)) hhold')

end RecordReader

end AuctionHooks
