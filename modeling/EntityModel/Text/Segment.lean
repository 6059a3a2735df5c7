/-!
# Cutting text into segments

`splitBy p` cuts at every character that satisfies `p` and keeps empty segments, so text with `n` such
characters has `n + 1` segments (`length_splitBy`) and no segment holds one of them
(`not_of_mem_splitBy`). `splitAtLast` cuts once, at the last occurrence.
-/

namespace EntityModel.Text

/-- The segments between the characters that satisfy `p`. -/
def splitBy (p : Char → Bool) : List Char → List (List Char)
  | [] => [[]]
  | c :: rest =>
    if p c then [] :: splitBy p rest
    else
      match splitBy p rest with
      | [] => [[c]]
      | first :: others => (c :: first) :: others

/-- The segments between the occurrences of a separator. -/
def splitOn (separator : Char) (cs : List Char) : List (List Char) := splitBy (· == separator) cs

/-- The text before and after the last occurrence of a separator. -/
def splitAtLast (separator : Char) : List Char → Option (List Char × List Char)
  | [] => none
  | c :: rest =>
    match splitAtLast separator rest with
    | some (before, after) => some (c :: before, after)
    | none => if c = separator then some ([], rest) else none

theorem splitBy_ne_nil (p : Char → Bool) (cs : List Char) : splitBy p cs ≠ [] := by
  cases cs with
  | nil => simp [splitBy]
  | cons c r =>
    rw [splitBy]
    split
    · simp
    · split <;> simp

theorem length_splitBy (p : Char → Bool) (cs : List Char) :
    (splitBy p cs).length = cs.countP p + 1 := by
  induction cs with
  | nil => rfl
  | cons c r ih =>
    rw [splitBy]
    split
    · next h => simp [ih, h]
    · next h =>
      split
      · next h' => exact absurd h' (splitBy_ne_nil p r)
      · next first others h' => simp [h'] at ih; simp [h, ih]

theorem not_of_mem_splitBy {p : Char → Bool} {cs segment : List Char}
    (hs : segment ∈ splitBy p cs) : ∀ c ∈ segment, p c = false := by
  induction cs generalizing segment with
  | nil => simp [splitBy] at hs; simp [hs]
  | cons c r ih =>
    rw [splitBy] at hs
    split at hs
    · rcases List.mem_cons.1 hs with rfl | hs
      · simp
      · exact ih hs
    · next h =>
      split at hs
      · next h' => exact absurd h' (splitBy_ne_nil p r)
      · next first others h' =>
        rcases List.mem_cons.1 hs with rfl | hs
        · intro d hd
          rcases List.mem_cons.1 hd with rfl | hd
          · simpa using h
          · exact ih (by rw [h']; simp) d hd
        · exact ih (by rw [h']; simp [hs])

/-- Together the segments are the text without its separators. -/
theorem flatten_splitBy (p : Char → Bool) (cs : List Char) :
    (splitBy p cs).flatten = cs.filter fun c => !p c := by
  induction cs with
  | nil => rfl
  | cons c r ih =>
    rw [splitBy]
    split
    · next h => simp [ih, h]
    · next h =>
      cases hr : splitBy p r with
      | nil => exact absurd hr (splitBy_ne_nil p r)
      | cons first others =>
        rw [hr] at ih
        simp [h, ← ih]

/-- A separator between two texts cuts them apart. -/
theorem splitBy_append {p : Char → Bool} {separator : Char} (h : p separator = true) (a b : List Char) :
    splitBy p (a ++ separator :: b) = splitBy p a ++ splitBy p b := by
  induction a with
  | nil => simp [splitBy, h]
  | cons c r ih =>
    rw [List.cons_append, splitBy, splitBy]
    split
    · simp [ih]
    · cases hr : splitBy p r with
      | nil => exact absurd hr (splitBy_ne_nil p r)
      | cons first others => simp [ih, hr]

/-- Text without a separator is one segment. -/
theorem splitOn_of_not_mem {separator : Char} {cs : List Char} (h : separator ∉ cs) :
    splitOn separator cs = [cs] := by
  unfold splitOn
  induction cs with
  | nil => rfl
  | cons c r ih =>
    obtain ⟨hc, hr⟩ := not_or.1 (mt List.mem_cons.2 h)
    simp [splitBy, ih hr, Ne.symm hc]

/-- The first segment ends at the first separator. -/
theorem splitOn_append {separator : Char} {segment : List Char} (h : separator ∉ segment)
    (rest : List Char) : splitOn separator (segment ++ separator :: rest) = segment :: splitOn separator rest := by
  have hcut : splitOn separator (segment ++ separator :: rest) = splitOn separator segment ++ splitOn separator rest :=
    splitBy_append (by simp) segment rest
  rw [hcut, splitOn_of_not_mem h, List.singleton_append]

theorem splitAtLast_eq_none_iff {separator : Char} {cs : List Char} :
    splitAtLast separator cs = none ↔ separator ∉ cs := by
  induction cs with
  | nil => simp [splitAtLast]
  | cons c r ih =>
    rw [splitAtLast]
    cases h : splitAtLast separator r with
    | some parts => simp [h] at ih; simp [ih]
    | none =>
      simp [h] at ih
      by_cases hc : c = separator
      · simp [hc]
      · simp [hc, ih, Ne.symm hc]

/-- What a cut at the last separator returns is the text around it. -/
theorem eq_of_splitAtLast {separator : Char} {cs before after : List Char}
    (h : splitAtLast separator cs = some (before, after)) :
    cs = before ++ separator :: after ∧ separator ∉ after := by
  induction cs generalizing before with
  | nil => simp [splitAtLast] at h
  | cons c r ih =>
    rw [splitAtLast] at h
    split at h
    · next b a hr =>
      cases h
      obtain ⟨rfl, hn⟩ := ih hr
      exact ⟨rfl, hn⟩
    · next hr =>
      split at h
      · next hc => cases h; exact ⟨by simp [hc], splitAtLast_eq_none_iff.1 hr⟩
      · cases h

theorem splitAtLast_append {separator : Char} {before after : List Char}
    (h : separator ∉ after) :
    splitAtLast separator (before ++ separator :: after) = some (before, after) := by
  induction before with
  | nil => simp [splitAtLast, splitAtLast_eq_none_iff.2 h]
  | cons c r ih => simp [splitAtLast, ih]

end EntityModel.Text
