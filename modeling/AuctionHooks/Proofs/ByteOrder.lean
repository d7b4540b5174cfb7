import AuctionHooks.HookId
import Mathlib.Data.String.Basic

/-!
# The order of texts is the order of their bytes

Tables keep their entries in the order of their keys, and texts are compared character by character.
Where texts are the names of files, or codes that others sort as well, what counts is the order of
their bytes.  The two are the same, for the encoding keeps the order of the characters
(`utf8EncodeChar_append_lt`): a character that takes more bytes begins with a greater one, and of two
that take equally many bytes the leading bytes decide first.

What stands behind the first difference never counts.  That is why the statement on single characters
has to speak of whatever follows them, and why it is enough for whole texts.
-/

namespace AuctionHooks.Text

def bytes (s : String) : List UInt8 := s.toUTF8.data.toList

theorem bytes_eq (s : String) : bytes s = s.toList.flatMap String.utf8EncodeChar := by
  rw [bytes, String.toUTF8_eq_toByteArray, ← String.utf8Encode_toList, List.utf8Encode,
    List.data_toByteArray, List.toList_toArray]

/-! ## Characters -/

/-- The number of a character and its bytes, by how many these are. -/
theorem utf8EncodeChar_cases (c : Char) :
    ∃ n, n = c.val.toNat ∧ n < 1114112 ∧
      ((n ≤ 127 ∧ String.utf8EncodeChar c = [UInt8.ofNat n]) ∨
        (127 < n ∧ n ≤ 2047 ∧ String.utf8EncodeChar c =
          [UInt8.ofNat (n / 64 + 192), UInt8.ofNat (n % 64 + 128)]) ∨
        (2047 < n ∧ n ≤ 65535 ∧ String.utf8EncodeChar c =
          [UInt8.ofNat (n / 4096 + 224), UInt8.ofNat (n / 64 % 64 + 128),
            UInt8.ofNat (n % 64 + 128)]) ∨
        (65535 < n ∧ String.utf8EncodeChar c =
          [UInt8.ofNat (n / 262144 + 240), UInt8.ofNat (n / 4096 % 64 + 128),
            UInt8.ofNat (n / 64 % 64 + 128), UInt8.ofNat (n % 64 + 128)])) := by
  have hn : c.val.toNat < 1114112 := by
    rcases c.valid with h | ⟨-, h⟩
    · exact Nat.lt_trans h (by decide)
    · exact h
  refine ⟨c.val.toNat, rfl, hn, ?_⟩
  rw [String.utf8EncodeChar.eq_1]
  generalize c.val.toNat = n at hn ⊢
  split
  · next h => exact .inl ⟨h, rfl⟩
  · split
    · next h' =>
      have hlead : n / 64 % 32 = n / 64 := Nat.mod_eq_of_lt (by omega)
      exact .inr (.inl ⟨by omega, h', by rw [hlead]⟩)
    · split
      · next h' =>
        have hlead : n / 4096 % 16 = n / 4096 := Nat.mod_eq_of_lt (by omega)
        exact .inr (.inr (.inl ⟨by omega, h', by rw [hlead]⟩))
      · have hlead : n / 262144 % 8 = n / 262144 := Nat.mod_eq_of_lt (by omega)
        exact .inr (.inr (.inr ⟨by omega, by rw [hlead]⟩))

/-- The first bytes decide if they differ. -/
theorem cons_ofNat_lt {m n : Nat} (hn : n < 256) (h : m < n) (xs ys : List UInt8) :
    UInt8.ofNat m :: xs < UInt8.ofNat n :: ys :=
  List.cons_lt_cons_iff.2 (.inl ((UInt8.ofNat_lt_iff_lt (Nat.lt_trans h hn) hn).2 h))

/-- If they do not differ, the bytes behind them decide. -/
theorem cons_ofNat_lt_of_le {m n : Nat} (hn : n < 256) (h : m ≤ n) {xs ys : List UInt8}
    (hrest : m = n → xs < ys) : UInt8.ofNat m :: xs < UInt8.ofNat n :: ys := by
  rcases Nat.lt_or_eq_of_le h with hlt | rfl
  · exact cons_ofNat_lt hn hlt xs ys
  · exact List.cons_lt_cons_iff.2 (.inr ⟨rfl, hrest rfl⟩)

/-- **A lesser character has lesser bytes**, whatever follows. -/
theorem utf8EncodeChar_append_lt {c d : Char} (h : c < d) (xs ys : List UInt8) :
    String.utf8EncodeChar c ++ xs < String.utf8EncodeChar d ++ ys := by
  obtain ⟨m, hm, -, hc⟩ := utf8EncodeChar_cases c
  obtain ⟨n, hn, hmax, hd⟩ := utf8EncodeChar_cases d
  have hlt : m < n := hm ▸ hn ▸ h
  clear hm hn h
  rcases hc with ⟨hm, hc⟩ | ⟨hm, hm', hc⟩ | ⟨hm, hm', hc⟩ | ⟨hm, hc⟩
  · rcases hd with ⟨hn, hd⟩ | ⟨hn, hn', hd⟩ | ⟨hn, hn', hd⟩ | ⟨hn, hd⟩ <;> rw [hc, hd] <;>
      exact cons_ofNat_lt (by omega) (by omega) _ _
  · rcases hd with ⟨hn, hd⟩ | ⟨hn, hn', hd⟩ | ⟨hn, hn', hd⟩ | ⟨hn, hd⟩ <;> rw [hc, hd]
    · omega
    · refine cons_ofNat_lt_of_le (by omega) (by omega) fun hlead => ?_
      exact cons_ofNat_lt (by omega) (by omega) _ _
    · exact cons_ofNat_lt (by omega) (by omega) _ _
    · exact cons_ofNat_lt (by omega) (by omega) _ _
  · rcases hd with ⟨hn, hd⟩ | ⟨hn, hn', hd⟩ | ⟨hn, hn', hd⟩ | ⟨hn, hd⟩ <;> rw [hc, hd]
    · omega
    · omega
    · refine cons_ofNat_lt_of_le (by omega) (by omega) fun hlead => ?_
      refine cons_ofNat_lt_of_le (by omega) (by omega) fun hnext => ?_
      exact cons_ofNat_lt (by omega) (by omega) _ _
    · exact cons_ofNat_lt (by omega) (by omega) _ _
  · rcases hd with ⟨hn, hd⟩ | ⟨hn, hn', hd⟩ | ⟨hn, hn', hd⟩ | ⟨hn, hd⟩ <;> rw [hc, hd]
    · omega
    · omega
    · omega
    · refine cons_ofNat_lt_of_le (by omega) (by omega) fun hlead => ?_
      refine cons_ofNat_lt_of_le (by omega) (by omega) fun hnext => ?_
      refine cons_ofNat_lt_of_le (by omega) (by omega) fun hthird => ?_
      exact cons_ofNat_lt (by omega) (by omega) _ _

/-! ## Texts -/

theorem bytes_lt_of_lt {s t : String} (h : s < t) : bytes s < bytes t := by
  rw [bytes_eq, bytes_eq]
  replace h := String.lt_iff.1 h
  generalize s.toList = cs at h
  generalize t.toList = ds at h
  induction cs generalizing ds with
  | nil =>
    cases ds with
    | nil => exact absurd h (List.lt_irrefl _)
    | cons d ds =>
      rw [List.flatMap_nil, List.flatMap_cons]
      obtain ⟨b, rest, hb⟩ := List.exists_cons_of_ne_nil (String.utf8EncodeChar_ne_nil (c := d))
      rw [hb]
      exact List.nil_lt_cons _ _
  | cons c cs ih =>
    cases ds with
    | nil => exact absurd h (List.not_lt_nil _)
    | cons d ds =>
      rw [List.flatMap_cons, List.flatMap_cons]
      rcases List.cons_lt_cons_iff.1 h with hlt | ⟨rfl, hrest⟩
      · exact utf8EncodeChar_append_lt hlt _ _
      · exact List.append_left_lt (ih ds hrest)

/-- **Texts are in the order of their bytes.** -/
theorem lt_iff_bytes_lt {s t : String} : s < t ↔ bytes s < bytes t := by
  refine ⟨bytes_lt_of_lt, fun h => ?_⟩
  rcases lt_trichotomy s t with hlt | rfl | hgt
  · exact hlt
  · exact absurd h (List.lt_irrefl _)
  · exact absurd h (List.lt_asymm (bytes_lt_of_lt hgt))

/-- A table with texts as its keys has its entries in the order of the bytes of the keys. -/
theorem compare_eq_lt_iff_bytes_lt {s t : String} : compare s t = .lt ↔ bytes s < bytes t :=
  compareOfLessAndEq_eq_lt.trans lt_iff_bytes_lt

end AuctionHooks.Text
