import Mathlib.Tactic.SplitIfs

/-!
# The order of texts is that of their bytes

Texts are compared character by character, while a program that sorts names compares the bytes of their
UTF-8 form. Both orders agree (`utf8Bytes_le_iff`): of two characters the smaller one has the smaller
encoding, and the difference shows before either encoding ends (`encodeChar_append_lt`).
-/

namespace EntityModel

/-- The bytes of a text in UTF-8. -/
def utf8Bytes (s : String) : List UInt8 := s.toByteArray.data.toList

theorem utf8Bytes_eq (s : String) : utf8Bytes s = s.toList.flatMap String.utf8EncodeChar := by
  rw [utf8Bytes, ← String.utf8Encode_toList, List.utf8Encode, List.toList_data_toByteArray]

/-- The leading digit in which two numbers differ, with three digits of six bits at the end. -/
theorem sextets_of_lt {m n : Nat} (h : m < n) :
    m / 262144 < n / 262144 ∨
      (m / 262144 = n / 262144 ∧ m / 4096 % 64 < n / 4096 % 64) ∨
      (m / 4096 = n / 4096 ∧ m / 64 % 64 < n / 64 % 64) ∨
      (m / 64 = n / 64 ∧ m % 64 < n % 64) := by
  omega

theorem ofNat_cons_lt {a b : Nat} (h : a < b) (hb : b < 256) (u v : List UInt8) :
    UInt8.ofNat a :: u < UInt8.ofNat b :: v := by
  refine List.cons_lt_cons_iff.2 (.inl ?_)
  rw [UInt8.lt_iff_toNat_lt, UInt8.toNat_ofNat', UInt8.toNat_ofNat']
  omega

theorem ofNat_cons_lt_of_eq {a b : Nat} (h : a = b) {u v : List UInt8} (huv : u < v) :
    UInt8.ofNat a :: u < UInt8.ofNat b :: v := by
  rw [h]
  exact List.cons_lt_cons_iff.2 (.inr ⟨rfl, huv⟩)

section

variable {m n : Nat} (h : m < n) (u v : List UInt8)
include h

theorem two_bytes_lt (hn : n ≤ 0x7ff) :
    UInt8.ofNat (m / 64 % 0x20 + 0xc0) :: UInt8.ofNat (m % 0x40 + 0x80) :: u <
      UInt8.ofNat (n / 64 % 0x20 + 0xc0) :: UInt8.ofNat (n % 0x40 + 0x80) :: v := by
  rcases sextets_of_lt h with h3 | ⟨h3, h2⟩ | ⟨h2, h1⟩ | ⟨h1, h0⟩
  · omega
  · omega
  · exact ofNat_cons_lt (by omega) (by omega) _ _
  · exact ofNat_cons_lt_of_eq (by omega) (ofNat_cons_lt (by omega) (by omega) _ _)

theorem three_bytes_lt (hn : n ≤ 0xffff) :
    UInt8.ofNat (m / 4096 % 0x10 + 0xe0) :: UInt8.ofNat (m / 64 % 0x40 + 0x80) ::
        UInt8.ofNat (m % 0x40 + 0x80) :: u <
      UInt8.ofNat (n / 4096 % 0x10 + 0xe0) :: UInt8.ofNat (n / 64 % 0x40 + 0x80) ::
        UInt8.ofNat (n % 0x40 + 0x80) :: v := by
  rcases sextets_of_lt h with h3 | ⟨h3, h2⟩ | ⟨h2, h1⟩ | ⟨h1, h0⟩
  · omega
  · exact ofNat_cons_lt (by omega) (by omega) _ _
  · exact ofNat_cons_lt_of_eq (by omega) (ofNat_cons_lt (by omega) (by omega) _ _)
  · exact ofNat_cons_lt_of_eq (by omega)
      (ofNat_cons_lt_of_eq (by omega) (ofNat_cons_lt (by omega) (by omega) _ _))

theorem four_bytes_lt (hn : n < 0x110000) :
    UInt8.ofNat (m / 262144 % 0x08 + 0xf0) :: UInt8.ofNat (m / 4096 % 0x40 + 0x80) ::
        UInt8.ofNat (m / 64 % 0x40 + 0x80) :: UInt8.ofNat (m % 0x40 + 0x80) :: u <
      UInt8.ofNat (n / 262144 % 0x08 + 0xf0) :: UInt8.ofNat (n / 4096 % 0x40 + 0x80) ::
        UInt8.ofNat (n / 64 % 0x40 + 0x80) :: UInt8.ofNat (n % 0x40 + 0x80) :: v := by
  rcases sextets_of_lt h with h3 | ⟨h3, h2⟩ | ⟨h2, h1⟩ | ⟨h1, h0⟩
  · exact ofNat_cons_lt (by omega) (by omega) _ _
  · exact ofNat_cons_lt_of_eq (by omega) (ofNat_cons_lt (by omega) (by omega) _ _)
  · exact ofNat_cons_lt_of_eq (by omega)
      (ofNat_cons_lt_of_eq (by omega) (ofNat_cons_lt (by omega) (by omega) _ _))
  · exact ofNat_cons_lt_of_eq (by omega) (ofNat_cons_lt_of_eq (by omega)
      (ofNat_cons_lt_of_eq (by omega) (ofNat_cons_lt (by omega) (by omega) _ _)))

end

/-- Of two characters the smaller one has the smaller encoding, whatever follows. -/
theorem encodeChar_append_lt {c d : Char} (h : c < d) (u v : List UInt8) :
    String.utf8EncodeChar c ++ u < String.utf8EncodeChar d ++ v := by
  have hlt : c.val.toNat < d.val.toNat := h
  have hd : d.val.toNat < 0x110000 := by
    have hvalid := d.valid
    simp only [UInt32.isValidChar, Nat.isValidChar] at hvalid
    omega
  simp only [String.utf8EncodeChar]
  generalize c.val.toNat = m at hlt ⊢
  generalize d.val.toNat = n at hlt hd ⊢
  -- Encodings of one length hold the digits in their order; a longer one has a larger first byte.
  by_cases m1 : m ≤ 0x7f
  · rw [if_pos m1]
    split_ifs <;> exact ofNat_cons_lt (by omega) (by omega) _ _
  rw [if_neg m1, if_neg (by omega : ¬ n ≤ 0x7f)]
  by_cases m2 : m ≤ 0x7ff
  · rw [if_pos m2]
    split_ifs with n2
    · exact two_bytes_lt hlt u v n2
    · exact ofNat_cons_lt (by omega) (by omega) _ _
    · exact ofNat_cons_lt (by omega) (by omega) _ _
  rw [if_neg m2, if_neg (by omega : ¬ n ≤ 0x7ff)]
  by_cases m3 : m ≤ 0xffff
  · rw [if_pos m3]
    split_ifs with n3
    · exact three_bytes_lt hlt u v n3
    · exact ofNat_cons_lt (by omega) (by omega) _ _
  rw [if_neg m3, if_neg (by omega : ¬ n ≤ 0xffff)]
  exact four_bytes_lt hlt u v hd

theorem flatMap_encodeChar_lt {cs ds : List Char} (h : cs < ds) :
    cs.flatMap String.utf8EncodeChar < ds.flatMap String.utf8EncodeChar := by
  induction cs generalizing ds with
  | nil =>
    cases ds with
    | nil => exact absurd h (List.not_lt_nil [])
    | cons d ds =>
      rw [List.flatMap_cons]
      cases he : String.utf8EncodeChar d with
      | nil => exact absurd (congrArg List.length he) (by simp [Nat.ne_of_gt d.utf8Size_pos])
      | cons b bs => exact List.nil_lt_cons _ _
  | cons c cs ih =>
    cases ds with
    | nil => exact absurd h (List.not_lt_nil _)
    | cons d ds =>
      rw [List.flatMap_cons, List.flatMap_cons]
      rcases List.cons_lt_cons_iff.1 h with hcd | ⟨rfl, hrest⟩
      · exact encodeChar_append_lt hcd _ _
      · exact List.append_left_lt (ih hrest)

theorem utf8Bytes_lt_of_lt {s t : String} (h : s < t) : utf8Bytes s < utf8Bytes t := by
  rw [utf8Bytes_eq, utf8Bytes_eq]
  exact flatMap_encodeChar_lt h

/-- Texts are in order exactly if their bytes are. -/
theorem utf8Bytes_le_iff {s t : String} : utf8Bytes s ≤ utf8Bytes t ↔ s ≤ t := by
  constructor
  · intro h
    exact String.not_lt.1 fun hts => h (utf8Bytes_lt_of_lt hts)
  · intro h hts
    by_cases heq : s = t
    · rw [heq] at hts
      exact List.lt_irrefl _ hts
    · have hst : s < t := Decidable.byContradiction fun hn =>
        heq (String.le_antisymm h (String.not_lt.1 hn))
      exact List.lt_asymm hts (utf8Bytes_lt_of_lt hst)

end EntityModel
