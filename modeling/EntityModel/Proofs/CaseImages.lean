import EntityModel.Text.Alphanumeric
import EntityModel.Text.LetterCase
import Mathlib.Tactic.ByContra

/-!
# What letter case maps to

A character is mapped by an entry of its own, by a run of characters that are all moved alike, or not at all
(`mapCase_cases`). A property of all images is therefore checked on the entries and on the runs, and of a run mostly
on its ends.

Main statements: the capitals of a letter or digit are letters and digits again, but for small letters that have no
capital of their own (`upperChar_isAlphanumeric_iff`); and a character outside ASCII is lowered to text that is not
ASCII either, but for the sign of the kelvin (`lowerChar_of_foreign`).
-/

namespace EntityModel

/-! ## Lists of entries -/

section

variable {α β : Type} [BEq α] [LawfulBEq α] {entries : List (α × β)} {key : α}

theorem mem_of_lookup_eq_some {value : β} (h : entries.lookup key = some value) : (key, value) ∈ entries := by
  obtain ⟨before, after, rfl, -⟩ := List.lookup_eq_some_iff.1 h
  simp

theorem lookup_eq_none_iff_not_mem : entries.lookup key = none ↔ key ∉ entries.map Prod.fst := by
  rw [List.lookup_eq_none_iff, List.mem_map]
  constructor
  · rintro h ⟨e, he, rfl⟩
    simpa using h e he
  · intro h e he
    rw [bne_iff_ne]
    rintro rfl
    exact h ⟨e, he, rfl⟩

end

namespace Text

/-! ## Entries and runs -/

theorem mapCase_cases (expansions : List (Nat × List Nat)) (runs : List CaseRun) (c : Char) :
    (∃ e ∈ expansions, e.1 = c.toNat ∧ mapCase expansions runs c = e.2.map Char.ofNat) ∨
      (∃ run ∈ runs, ∃ d, run.image? c.toNat = some d ∧ mapCase expansions runs c = [d]) ∨
        mapCase expansions runs c = [c] := by
  unfold mapCase
  split
  · next codes hcodes =>
    exact .inl ⟨(c.toNat, codes), mem_of_lookup_eq_some hcodes, rfl, rfl⟩
  · cases himage : runs.findSome? (·.image? c.toNat) with
    | none => exact .inr (.inr rfl)
    | some d =>
      obtain ⟨run, hrun, hd⟩ := List.exists_of_findSome?_eq_some himage
      exact .inr (.inl ⟨run, hrun, d, hd, rfl⟩)

theorem mapCase_ne_nil {expansions : List (Nat × List Nat)} (full : ∀ e ∈ expansions, e.2 ≠ [])
    (runs : List CaseRun) (c : Char) : mapCase expansions runs c ≠ [] := by
  obtain ⟨e, he, -, h⟩ | ⟨run, -, d, -, h⟩ | h := mapCase_cases expansions runs c
  · simpa [h] using full e he
  · simp [h]
  · simp [h]

theorem lowerChar_ne_nil (c : Char) : lowerChar c ≠ [] := mapCase_ne_nil (by decide) _ c

theorem upperChar_ne_nil (c : Char) : upperChar c ≠ [] := mapCase_ne_nil (by decide) _ c

/-- All images of a run lie in the ranges: in one of them with those at its ends, or one by one. -/
def CaseRun.staysIn (ranges : List (Nat × Nat)) (run : CaseRun) : Bool :=
  ranges.any (fun r => (run.last + run.shift).toNat.ble r.2 && r.1.ble (run.first + run.shift).toNat) ||
    (List.range (run.last + 1 - run.first)).all fun k => (run.image? (run.first + k)).all (inRanges ranges)

theorem CaseRun.image?_eq_some_iff {run : CaseRun} {n : Nat} {c : Char} :
    run.image? n = some c ↔
      (run.first ≤ n ∧ n ≤ run.last ∧ (n - run.first) % run.stride = 0) ∧
        Char.ofNat ((n : Int) + run.shift).toNat = c := by
  simp [CaseRun.image?, and_assoc]

/-- No range holds a code point that is no character. -/
def AreCharacters (ranges : List (Nat × Nat)) : Prop :=
  ∀ r ∈ ranges, r.2 < 0xd800 ∨ 0xdfff < r.1 ∧ r.2 < 0x110000

instance (ranges : List (Nat × Nat)) : Decidable (AreCharacters ranges) :=
  inferInstanceAs (Decidable (∀ r ∈ ranges, r.2 < 0xd800 ∨ 0xdfff < r.1 ∧ r.2 < 0x110000))

theorem AreCharacters.toNat_ofNat {ranges : List (Nat × Nat)} (characters : AreCharacters ranges) {r : Nat × Nat}
    (mem : r ∈ ranges) {n : Nat} (low : r.1 ≤ n) (high : n ≤ r.2) : (Char.ofNat n).toNat = n := by
  have valid : n.isValidChar := by
    have := characters r mem
    simp only [Nat.isValidChar]
    omega
  rw [Char.ofNat, dif_pos valid]
  rfl

theorem inRanges_of_staysIn {ranges : List (Nat × Nat)} (characters : AreCharacters ranges) {run : CaseRun}
    (stays : run.staysIn ranges = true) {n : Nat} {c : Char} (image : run.image? n = some c) :
    inRanges ranges c = true := by
  obtain ⟨⟨first, last, -⟩, moved⟩ := CaseRun.image?_eq_some_iff.1 image
  simp only [CaseRun.staysIn, Bool.or_eq_true, List.any_eq_true, Bool.and_eq_true, Nat.ble_eq,
    List.all_eq_true, List.mem_range] at stays
  obtain ⟨r, hr, high, low⟩ | each := stays
  · have hcode : c.toNat = ((n : Int) + run.shift).toNat := by
      rw [← moved]
      exact characters.toNat_ofNat hr (by omega) (by omega)
    exact inRanges_iff.2 ⟨r, hr, by omega, by omega⟩
  · have h := each (n - run.first) (by omega)
    rw [Nat.add_sub_cancel' first, image] at h
    exact h

/-! ## Capitals -/

/-- The small letters without a capital of their own: they are written in capitals as a letter with combining marks,
such as `ǰ` as `J` and a caron. -/
def markedLetters : List Nat :=
  [0x1f0, 0x390, 0x3b0, 0x1e96, 0x1e97, 0x1e98, 0x1e99, 0x1f50, 0x1f52, 0x1f54, 0x1f56, 0x1fb6, 0x1fb7, 0x1fc6,
   0x1fc7, 0x1fd2, 0x1fd3, 0x1fd6, 0x1fd7, 0x1fe2, 0x1fe3, 0x1fe4, 0x1fe6, 0x1fe7, 0x1ff6, 0x1ff7]

/-- The marks that these letters take: grave, acute, diaeresis, ring, caron, comma, macron below and perispomeni. -/
def combiningMarks : List Nat := [0x300, 0x301, 0x308, 0x30a, 0x30c, 0x313, 0x331, 0x342]

theorem areCharacters_alphanumericRanges : AreCharacters alphanumericRanges := by
  decide +kernel

theorem upperRuns_staysIn : upperRuns.all (·.staysIn alphanumericRanges) = true := by
  decide +kernel

theorem upperExpansions_marked :
    upperExpansions.all (fun e => e.2.all fun n => isAlphanumeric (Char.ofNat n) ||
      (e.1 ∈ markedLetters && (Char.ofNat n).toNat ∈ combiningMarks)) = true := by
  decide +kernel

/-- What is no letter or digit in the capitals of one is a mark, and comes from a letter that takes marks. -/
theorem isAlphanumeric_or_mark {c d : Char} (h : isAlphanumeric c = true) (mem : d ∈ upperChar c) :
    isAlphanumeric d = true ∨ c.toNat ∈ markedLetters ∧ d.toNat ∈ combiningMarks := by
  unfold upperChar at mem
  obtain ⟨e, he, hcode, hmap⟩ | ⟨run, hrun, image, himage, hmap⟩ | hmap :=
    mapCase_cases upperExpansions upperRuns c
  · rw [hmap] at mem
    obtain ⟨n, hn, rfl⟩ := List.mem_map.1 mem
    have hchecked := List.all_eq_true.1 (List.all_eq_true.1 upperExpansions_marked e he) n hn
    rw [← hcode]
    simpa using hchecked
  · rw [hmap, List.mem_singleton] at mem
    rw [mem]
    exact .inl (inRanges_of_staysIn areCharacters_alphanumericRanges
      (List.all_eq_true.1 upperRuns_staysIn run hrun) himage)
  · rw [hmap, List.mem_singleton] at mem
    rw [mem]
    exact .inl h

theorem markedLetters_marked :
    markedLetters.all (fun n => (upperChar (Char.ofNat n)).any (!isAlphanumeric ·)) = true := by
  decide +kernel

/-- The capitals of a letter or digit are letters and digits, unless it is a letter that takes marks. -/
theorem upperChar_isAlphanumeric_iff {c : Char} (h : isAlphanumeric c = true) :
    (∀ d ∈ upperChar c, isAlphanumeric d = true) ↔ c.toNat ∉ markedLetters := by
  constructor
  · intro hall hmarked
    have hany := List.all_eq_true.1 markedLetters_marked c.toNat hmarked
    rw [Char.ofNat_toNat] at hany
    obtain ⟨d, hd, hmark⟩ := List.any_eq_true.1 hany
    simp [hall d hd] at hmark
  · intro hplain d hd
    exact (isAlphanumeric_or_mark h hd).resolve_right fun hmark => hplain hmark.1

/-! ## Small letters -/

/-- Text of ASCII characters only. -/
def IsAscii (cs : List Char) : Prop := ∀ c ∈ cs, c.toNat < 128

theorem all_lt_iff_isAscii {cs : List Char} : (cs.all fun c => c.toNat < 128) = true ↔ IsAscii cs := by
  simp only [IsAscii, List.all_eq_true, decide_eq_true_eq]

instance (cs : List Char) : Decidable (IsAscii cs) := decidable_of_iff _ all_lt_iff_isAscii

/-- A letter of ASCII text is one byte. -/
theorem utf8ByteSize_of_ascii {cs : List Char} (ascii : IsAscii cs) : (String.ofList cs).utf8ByteSize = cs.length := by
  induction cs with
  | nil => rfl
  | cons c rest ih =>
    obtain ⟨hc, hrest⟩ := List.forall_mem_cons.1 ascii
    have hone : c.utf8Size = 1 := Char.utf8Size_eq_one_iff.2 (Nat.le_of_lt_succ hc)
    rw [← List.singleton_append, String.ofList_append, String.utf8ByteSize_append, ih hrest, List.length_append,
      ← String.singleton_eq_ofList, String.utf8ByteSize_singleton, hone, List.length_singleton]

/-- All characters outside ASCII. -/
def foreignRanges : List (Nat × Nat) := [(0x80, 0xd7ff), (0xe000, 0x10ffff)]

theorem not_ascii_of_foreign {c : Char} (h : inRanges foreignRanges c = true) : 128 ≤ c.toNat := by
  obtain ⟨r, hr, low, -⟩ := inRanges_iff.1 h
  have hstart : ∀ r ∈ foreignRanges, 128 ≤ r.1 := by decide
  exact Nat.le_trans (hstart r hr) low

/-- A run of small letters starts in ASCII, or stays out of it, or is the sign of the kelvin. -/
theorem lowerRuns_foreign :
    lowerRuns.all (fun run => run.last < 128 || run.staysIn foreignRanges ||
      run.first = run.last && run.image? run.first = some 'k') = true := by
  decide +kernel

/-- A character outside ASCII is lowered to some character outside ASCII, or to `k`. -/
theorem lowerChar_of_foreign {c : Char} (h : 128 ≤ c.toNat) :
    lowerChar c = ['k'] ∨ ∃ d ∈ lowerChar c, 128 ≤ d.toNat := by
  unfold lowerChar
  obtain ⟨e, he, -, hmap⟩ | ⟨run, hrun, d, himage, hmap⟩ | hmap := mapCase_cases lowerExpansions lowerRuns c
  · have hforeign : ∀ e ∈ lowerExpansions, ∃ n ∈ e.2, 128 ≤ (Char.ofNat n).toNat := by decide
    obtain ⟨n, hn, hlow⟩ := hforeign e he
    exact .inr ⟨Char.ofNat n, by rw [hmap]; exact List.mem_map_of_mem hn, hlow⟩
  · have hchecked := List.all_eq_true.1 lowerRuns_foreign run hrun
    simp only [Bool.or_eq_true, Bool.and_eq_true, decide_eq_true_eq] at hchecked
    obtain ⟨⟨first, last, -⟩, -⟩ := CaseRun.image?_eq_some_iff.1 himage
    obtain (hascii | hstays) | ⟨hsingle, hkelvin⟩ := hchecked
    · omega
    · rw [hmap]
      exact .inr ⟨d, List.mem_singleton_self d, not_ascii_of_foreign (inRanges_of_staysIn (by decide) hstays himage)⟩
    · have hn : c.toNat = run.first := by omega
      rw [hn, hkelvin] at himage
      cases himage
      exact .inl hmap
  · rw [hmap]
    exact .inr ⟨c, List.mem_singleton_self c, h⟩

/-- Only ASCII characters are lowered to ASCII text without a `k`. -/
theorem ascii_of_lowerChar {c : Char} (h : ∀ d ∈ lowerChar c, d.toNat < 128 ∧ d ≠ 'k') : c.toNat < 128 := by
  by_contra hc
  obtain hk | ⟨d, hd, hforeign⟩ := lowerChar_of_foreign (Nat.not_lt.1 hc)
  · exact (h 'k' (by simp [hk])).2 rfl
  · exact absurd (h d hd).1 (Nat.not_lt.2 hforeign)

theorem isAscii_of_lowerAfter {before cs : List Char} (h : ∀ d ∈ lowerAfter before cs, d.toNat < 128 ∧ d ≠ 'k') :
    IsAscii cs := by
  induction cs generalizing before with
  | nil => nofun
  | cons c rest ih =>
    rw [lowerAfter] at h
    have hrest : IsAscii rest := ih fun d hd => h d (List.mem_append_right _ hd)
    refine List.forall_mem_cons.2 ⟨?_, hrest⟩
    split at h
    · -- Both small sigmas are Greek letters.
      have hsigma := (h (lowerSigma before rest) (by simp)).1
      unfold lowerSigma at hsigma
      split at hsigma <;> exact absurd hsigma (by decide)
    · exact ascii_of_lowerChar fun d hd => h d (List.mem_append_left _ hd)

/-- Only ASCII text is lowered to ASCII text without a `k`. -/
theorem isAscii_of_lower {cs : List Char} (h : ∀ d ∈ lower cs, d.toNat < 128 ∧ d ≠ 'k') : IsAscii cs :=
  isAscii_of_lowerAfter h

end Text

end EntityModel
