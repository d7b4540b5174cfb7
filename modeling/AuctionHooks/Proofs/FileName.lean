import AuctionHooks.Config.Load
import Mathlib.Data.List.TakeWhile
import Mathlib.Data.String.Basic

/-!
# The names of files, and what they end in

The path of an entry of a directory is made by putting the name of the directory in front.  What is
asked of a path later, its ending, is asked of its last part.  So the path has to be taken apart again,
and it has to come apart where it was put together, whatever the name of the directory looks like:
empty, with a slash at its end, with empty parts or dots in it.

It does if the name is one that an entry of a directory can have (`FilePath.IsName`).  Hence the ending
of the path is that of the name (`FilePath.hasEnding_join`), and this is the ending that a reader would
look for: what stands behind the last dot, unless nothing stands in front of it
(`FilePath.ending?_eq_some_iff`).
-/

namespace AuctionHooks.FilePath

/-- That an entry of a directory can have a name: it is a part of a path, and neither the directory
itself nor the one above. -/
structure IsName (name : String) : Prop where
  ne_empty : name ≠ ""
  ne_here : name ≠ "."
  ne_above : name ≠ ".."
  noSlash : '/' ∉ name.toList

/-- That a name has an ending, given in lower case, in any case: the ending is what stands behind the
last dot, and something stands in front of that dot. -/
def EndsIn (name ending : String) : Prop :=
  ∃ stem last, stem ≠ "" ∧ name = stem ++ "." ++ last ∧ '.' ∉ last.toList ∧
    last.toList.map Char.toLower = ending.toList

/-! ## Parts -/

/-- There is always a part to put a character in front of. -/
theorem foldr_split_ne_nil (cs : List Char) {found : List (List Char)} (h : found ≠ []) :
    cs.foldr parts.split found ≠ [] := by
  induction cs with
  | nil => exact h
  | cons c cs ih =>
    obtain ⟨part, rest, hfound⟩ := List.exists_cons_of_ne_nil ih
    rw [List.foldr_cons, hfound, parts.split]
    split <;> exact List.cons_ne_nil _ _

/-- What has been cut off stays as it is. -/
theorem foldr_split_append (cs : List Char) {found : List (List Char)} (h : found ≠ [])
    (behind : List (List Char)) :
    cs.foldr parts.split (found ++ behind) = cs.foldr parts.split found ++ behind := by
  induction cs with
  | nil => rfl
  | cons c cs ih =>
    obtain ⟨part, rest, hfound⟩ := List.exists_cons_of_ne_nil (foldr_split_ne_nil cs h)
    rw [List.foldr_cons, ih, List.foldr_cons, hfound, List.cons_append, parts.split, parts.split]
    split <;> rfl

/-- What has no slash is one part. -/
theorem foldr_split_of_noSlash {cs : List Char} (h : '/' ∉ cs) :
    cs.foldr parts.split [[]] = [cs] := by
  induction cs with
  | nil => rfl
  | cons c cs ih =>
    obtain ⟨hc, hcs⟩ := not_or.1 (mt List.mem_cons.2 h)
    rw [List.foldr_cons, ih hcs, parts.split, if_neg (Ne.symm hc)]

/-- **A path comes apart at each of its slashes.** -/
theorem parts_append_slash (above below : String) :
    parts (above ++ "/" ++ below) = parts above ++ parts below := by
  have hslash : (above ++ "/" ++ below).toList = above.toList ++ '/' :: below.toList := by
    rw [String.toList_append, String.toList_append, List.append_assoc]
    rfl
  obtain ⟨part, rest, hbelow⟩ := List.exists_cons_of_ne_nil
    (foldr_split_ne_nil below.toList (List.cons_ne_nil [] []))
  rw [parts, parts, parts, hslash, List.foldr_append, List.foldr_cons, hbelow, parts.split,
    if_pos rfl, ← List.map_append, ← foldr_split_append above.toList (List.cons_ne_nil [] [])]
  rfl

theorem parts_eq_singleton {name : String} (h : '/' ∉ name.toList) : parts name = [name] := by
  rw [parts, foldr_split_of_noSlash h, List.map_singleton, String.ofList_toList]

/-- Joined to a directory, a name is the last part. -/
theorem exists_parts_join (directory : String) {name : String} (h : '/' ∉ name.toList) :
    ∃ above, parts (join directory name) = above ++ [name] := by
  rw [join]
  split
  · next hends =>
    rcases hends with hempty | hslash
    · refine ⟨[], ?_⟩
      rw [String.isEmpty_iff.1 hempty, String.empty_append, parts_eq_singleton h]
      rfl
    · obtain ⟨before, hbefore⟩ := String.Slice.endsWith_string_iff.1 hslash
      rw [String.copy_toSlice] at hbefore
      have hdirectory : directory = String.ofList before ++ "/" := by
        rw [← String.toList_inj, String.toList_append, String.toList_ofList, hbefore]
      exact ⟨_, by rw [hdirectory, parts_append_slash, parts_eq_singleton h]⟩
  · exact ⟨_, by rw [parts_append_slash, parts_eq_singleton h]⟩

/-- **The path of an entry has the name of the entry**, whatever the directory is called. -/
theorem fileName?_join (directory : String) {name : String} (h : IsName name) :
    fileName? (join directory name) = some name := by
  obtain ⟨above, hparts⟩ := exists_parts_join directory h.noSlash
  have hlast : ((parts (join directory name)).filter fun p => p ≠ "" ∧ p ≠ ".").getLast? =
      some name := by
    rw [hparts, List.filter_append, List.filter_cons_of_pos (by simp [h.ne_empty, h.ne_here])]
    exact List.getLast?_concat ..
  rw [fileName?, hlast]
  split
  · next heq => exact absurd (Option.some.inj heq) h.ne_above
  · rfl

/-! ## Endings -/

/-- Where a dot is found, nothing in front of it is one. -/
theorem of_dropWhile_eq_cons {cs : List Char} {dot : Char} {rest : List Char}
    (h : cs.dropWhile (· ≠ '.') = dot :: rest) :
    cs = cs.takeWhile (· ≠ '.') ++ '.' :: rest ∧ '.' ∉ cs.takeWhile (· ≠ '.') := by
  have hparted := List.takeWhile_append_dropWhile (p := (· ≠ '.')) (l := cs)
  have hhead := List.head?_dropWhile_not (· ≠ '.') cs
  rw [h, List.head?_cons] at hhead
  have hdot : dot = '.' := by simpa using hhead
  rw [h, hdot] at hparted
  refine ⟨hparted.symm, fun hmem => ?_⟩
  simpa using List.mem_takeWhile_imp hmem

/-- **The ending of a name** is what stands behind its last dot, and there is none if nothing stands in
front of that dot. -/
theorem ending?_eq_some_iff {name last : String} :
    ending? name = some last ↔
      ∃ stem, stem ≠ "" ∧ name = stem ++ "." ++ last ∧ '.' ∉ last.toList := by
  rw [ending?]
  constructor
  · intro h
    split at h
    · next dot before rest hdrop =>
      obtain ⟨hparted, hdot⟩ := of_dropWhile_eq_cons hdrop
      have hlast : (name.toList.reverse.takeWhile (· ≠ '.')).reverse = last.toList := by
        rw [← Option.some.inj h, String.toList_ofList]
      refine ⟨String.ofList (before :: rest).reverse, ?_, ?_, ?_⟩
      · simp
      · rw [← String.toList_inj, ← List.reverse_inj, hparted]
        simp [← hlast]
      · rwa [← hlast, List.mem_reverse]
    · cases h
  · rintro ⟨stem, hstem, rfl, hdot⟩
    have hreverse : (stem ++ "." ++ last).toList.reverse =
        last.toList.reverse ++ '.' :: stem.toList.reverse := by
      simp
    have hlast : ∀ c ∈ last.toList.reverse, decide (c ≠ '.') = true := by
      intro c hc
      refine decide_eq_true fun heq => hdot ?_
      rw [← heq]
      exact List.mem_reverse.1 hc
    have hfront : stem.toList.reverse ≠ [] := by
      simpa using hstem
    obtain ⟨before, rest, hbefore⟩ := List.exists_cons_of_ne_nil hfront
    rw [hreverse, List.dropWhile_append_of_pos hlast, List.takeWhile_append_of_pos hlast, hbefore]
    simp

/-- The ending of a path is that of its name. -/
theorem hasEnding_join (directory ending : String) {name : String} (h : IsName name) :
    hasEnding (join directory name) ending = true ↔ EndsIn name ending := by
  rw [hasEnding, fileName?_join directory h, Option.bind_some, Option.any_eq_true]
  constructor
  · rintro ⟨last, hlast, hlower⟩
    obtain ⟨stem, hstem, hname, hdot⟩ := ending?_eq_some_iff.1 hlast
    exact ⟨stem, last, hstem, hname, hdot, of_decide_eq_true hlower⟩
  · rintro ⟨stem, last, hstem, hname, hdot, hlower⟩
    exact ⟨last, ending?_eq_some_iff.2 ⟨stem, hstem, hname, hdot⟩, decide_eq_true hlower⟩

/-- A name by itself is a path with that name. -/
theorem hasEnding_name (ending : String) {name : String} (h : IsName name) :
    hasEnding name ending = true ↔ EndsIn name ending := by
  have hjoin : join "" name = name := String.empty_append
  rw [← hjoin, hasEnding_join "" ending h, hjoin]

end AuctionHooks.FilePath
