import Mathlib.Data.List.Forall2

/-!
# Working through a list, item by item

Files are loaded one after the other, and so are the directives of a filter read, and the entries of a
table; in each case the first that fails is the end of it.  What that comes to is said here for any such
work: either all of it is done, item by item, or the list can be cut at the member that has failed, and
all in front of that member was done.
-/

namespace AuctionHooks

/-! ## Lists that are compared item by item -/

/-- What stands in the second of two lists that are compared item by item has its counterpart in the
first. -/
theorem exists_of_mem_right {α β : Type} {R : α → β → Prop} {l : List α} {m : List β}
    (h : List.Forall₂ R l m) {b : β} (hb : b ∈ m) : ∃ a ∈ l, R a b := by
  induction h with
  | nil => cases hb
  | cons hab _ ih =>
    rcases List.mem_cons.1 hb with rfl | hb
    · exact ⟨_, List.mem_cons_self, hab⟩
    · obtain ⟨a, ha, hR⟩ := ih hb
      exact ⟨a, List.mem_cons_of_mem _ ha, hR⟩

/-- What agrees item by item on two lists is the same along both. -/
theorem map_eq_map_of_forall₂ {α β γ : Type} {R : α → β → Prop} {l : List α} {m : List β} {g : α → γ}
    {g' : β → γ} (h : List.Forall₂ R l m) (hR : ∀ a b, R a b → g a = g' b) : l.map g = m.map g' := by
  rw [← List.forall₂_eq_eq_eq, List.forall₂_map_left_iff, List.forall₂_map_right_iff]
  exact h.imp hR

/-- Each member of a list is matched by something just if some list matches it. -/
theorem exists_forall₂_iff {α β : Type} {R : α → β → Prop} {l : List α} :
    (∃ m, List.Forall₂ R l m) ↔ ∀ a ∈ l, ∃ b, R a b := by
  induction l with
  | nil => simp
  | cons a rest ih =>
    rw [List.forall_mem_cons, ← ih]
    constructor
    · rintro ⟨_, hm⟩
      cases hm with
      | cons hfirst hrest => exact ⟨⟨_, hfirst⟩, _, hrest⟩
    · rintro ⟨⟨b, hb⟩, m, hm⟩
      exact ⟨b :: m, .cons hb hm⟩

/-- What matches a list can itself be matched. -/
theorem forall₂_trans {α β γ : Type} {R : α → β → Prop} {S : β → γ → Prop} {l : List α} {m : List β}
    {n : List γ} (h : List.Forall₂ R l m) (h' : List.Forall₂ S m n) :
    List.Forall₂ (fun a c => ∃ b, R a b ∧ S b c) l n := by
  induction h generalizing n with
  | nil =>
    cases h'
    exact .nil
  | cons hab _ ih =>
    cases h' with
    | cons hbc hrest => exact .cons ⟨_, hab, hbc⟩ (ih hrest)

/-! ## Work that may fail -/

variable {α β ε : Type}

/-- **All of a list is done, or one member of it is the first that fails.** -/
theorem mapM_cases (g : α → Except ε β) (l : List α) :
    (∃ bs, List.Forall₂ (fun a b => g a = .ok b) l bs ∧ l.mapM g = .ok bs) ∨
      ∃ before a after bs e, l = before ++ a :: after ∧
        List.Forall₂ (fun a b => g a = .ok b) before bs ∧ g a = .error e ∧
        l.mapM g = .error e := by
  induction l with
  | nil => exact .inl ⟨[], .nil, rfl⟩
  | cons a rest ih =>
    rw [List.mapM_cons]
    cases ha : g a with
    | error e => exact .inr ⟨[], a, rest, [], e, rfl, .nil, ha, rfl⟩
    | ok b =>
      rcases ih with ⟨bs, hbs, hrest⟩ | ⟨before, a', after, bs, e, rfl, hbs, ha', hrest⟩
      · refine .inl ⟨b :: bs, .cons ha hbs, ?_⟩
        rw [hrest]
        rfl
      · refine .inr ⟨a :: before, a', after, b :: bs, e, rfl, .cons ha hbs, ha', ?_⟩
        rw [hrest]
        rfl

theorem mapM_eq_ok_iff {g : α → Except ε β} {l : List α} {bs : List β} :
    l.mapM g = .ok bs ↔ List.Forall₂ (fun a b => g a = .ok b) l bs := by
  constructor
  · intro h
    rcases mapM_cases g l with ⟨bs', hbs, hall⟩ | ⟨before, a, after, bs', e, -, -, -, hall⟩
    · cases hall.symm.trans h
      exact hbs
    · cases hall.symm.trans h
  · intro h
    induction h with
    | nil => rfl
    | cons hfirst _ ih =>
      rw [List.mapM_cons, hfirst, ih]
      rfl

/-- The error of the whole is that of the first member that has failed. -/
theorem mapM_eq_error_iff {g : α → Except ε β} {l : List α} {e : ε} :
    l.mapM g = .error e ↔
      ∃ before a after, l = before ++ a :: after ∧ (∀ b ∈ before, ∃ c, g b = .ok c) ∧
        g a = .error e := by
  constructor
  · intro h
    rcases mapM_cases g l with ⟨bs, -, hall⟩ | ⟨before, a, after, bs, e', rfl, hbs, ha, hall⟩
    · cases hall.symm.trans h
    · cases hall.symm.trans h
      refine ⟨before, a, after, rfl, fun b hb => ?_, ha⟩
      obtain ⟨c, -, hc⟩ := exists_of_mem_right hbs.flip hb
      exact ⟨c, hc⟩
  · rintro ⟨before, a, after, rfl, hbefore, ha⟩
    induction before with
    | nil =>
      rw [List.nil_append, List.mapM_cons, ha]
      rfl
    | cons b rest ih =>
      obtain ⟨⟨c, hc⟩, hrest⟩ := List.forall_mem_cons.1 hbefore
      rw [List.cons_append, List.mapM_cons, hc, ih hrest]
      rfl

end AuctionHooks
