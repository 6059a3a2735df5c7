import EntityModel.Override.Pattern
import Mathlib.Data.List.Forall2

/-!
# What a pattern matches

A pattern matches a name that can be cut into pieces, one for each character of the pattern: any run without a
line break for a `*`, one character but a line break for a `?`, and the character itself for any other.
`Splits` states this with no word about how such a cut is found; the matcher finds one whenever there is one
(`matchesChars_iff_splits`), although it answers for all ends of the name at once and tries no cut at all.
-/

namespace EntityModel.Pattern

/-- The pieces that a character of a pattern stands for. -/
def Stands (p : Char) (piece : List Char) : Prop :=
  if p = '*' then '\n' ∉ piece
  else if p = '?' then ∃ c, c ≠ '\n' ∧ piece = [c]
  else piece = [p]

/-- The name is cut into pieces, one after the other for each character of the pattern. -/
def Splits (pattern name : List Char) : Prop :=
  ∃ pieces, List.Forall₂ Stands pattern pieces ∧ pieces.flatten = name

/-! ## One character -/

theorem stands_star_iff {piece : List Char} : Stands '*' piece ↔ '\n' ∉ piece := Iff.rfl

theorem stands_question_iff {piece : List Char} : Stands '?' piece ↔ ∃ c, c ≠ '\n' ∧ piece = [c] := by
  rw [Stands, if_neg (by decide), if_pos rfl]

theorem stands_literal_iff {p : Char} (hs : p ≠ '*') (hq : p ≠ '?') {piece : List Char} :
    Stands p piece ↔ piece = [p] := by
  rw [Stands, if_neg hs, if_neg hq]

/-! ## Cutting off the first piece -/

theorem splits_nil_iff {name : List Char} : Splits [] name ↔ name = [] := by
  constructor
  · rintro ⟨pieces, hpieces, rfl⟩
    cases hpieces
    rfl
  · rintro rfl
    exact ⟨[], .nil, rfl⟩

theorem splits_cons_iff {p : Char} {pattern name : List Char} :
    Splits (p :: pattern) name ↔
      ∃ piece rest, piece ++ rest = name ∧ Stands p piece ∧ Splits pattern rest := by
  constructor
  · rintro ⟨pieces, hpieces, rfl⟩
    cases hpieces with
    | @cons _ piece _ others hp hothers => exact ⟨piece, others.flatten, rfl, hp, others, hothers, rfl⟩
  · rintro ⟨piece, rest, rfl, hp, others, hothers, rfl⟩
    exact ⟨piece :: others, .cons hp hothers, rfl⟩

/-- The piece of a star is empty, or starts with a character that leaves the rest of it to the same star. -/
theorem splits_star_cons_iff {pattern name : List Char} {c : Char} :
    Splits ('*' :: pattern) (c :: name) ↔
      Splits pattern (c :: name) ∨ (c ≠ '\n' ∧ Splits ('*' :: pattern) name) := by
  simp only [splits_cons_iff, stands_star_iff]
  constructor
  · rintro ⟨piece, rest, hcut, hpiece, hrest⟩
    cases piece with
    | nil =>
      rw [List.nil_append] at hcut
      exact .inl (hcut ▸ hrest)
    | cons d piece =>
      obtain ⟨rfl, rfl⟩ := List.cons.inj hcut
      rw [List.mem_cons, not_or] at hpiece
      exact .inr ⟨Ne.symm hpiece.1, piece, rest, rfl, hpiece.2, hrest⟩
  · rintro (hrest | ⟨hc, piece, rest, rfl, hpiece, hrest⟩)
    · exact ⟨[], c :: name, rfl, List.not_mem_nil, hrest⟩
    · refine ⟨c :: piece, rest, rfl, ?_, hrest⟩
      rw [List.mem_cons, not_or]
      exact ⟨Ne.symm hc, hpiece⟩

/-- A character that stands for single characters takes the first one. -/
theorem splits_single_iff {p : Char} (accepts : Char → Prop)
    (hp : ∀ piece, Stands p piece ↔ ∃ c, accepts c ∧ piece = [c]) {pattern name : List Char} :
    Splits (p :: pattern) name ↔ ∃ c rest, name = c :: rest ∧ accepts c ∧ Splits pattern rest := by
  simp only [splits_cons_iff, hp]
  constructor
  · rintro ⟨_, rest, rfl, ⟨c, hc, rfl⟩, hrest⟩
    exact ⟨c, rest, rfl, hc, hrest⟩
  · rintro ⟨c, rest, rfl, hc, hrest⟩
    exact ⟨[c], rest, rfl, ⟨c, hc, rfl⟩, hrest⟩

/-! ## The matcher -/

/-- A star, when what follows it is matched as it should be. The induction is on the name: either the piece of
the star is empty, or it goes on behind one more character. -/
theorem matchesChars_star_iff {pattern : List Char}
    (ih : ∀ name, matchesChars pattern name = true ↔ Splits pattern name) (name : List Char) :
    matchesChars ('*' :: pattern) name = true ↔ Splits ('*' :: pattern) name := by
  induction name with
  | nil =>
    rw [matchesChars_star_nil, ih, splits_cons_iff]
    constructor
    · intro h
      exact ⟨[], [], rfl, List.not_mem_nil, h⟩
    · rintro ⟨piece, rest, hcut, -, hrest⟩
      rwa [(List.append_eq_nil_iff.1 hcut).2] at hrest
  | cons c name ihname =>
    rw [matchesChars_star_cons, splits_star_cons_iff, Bool.or_eq_true, Bool.and_eq_true, bne_iff_ne, ih,
      ihname]

theorem matchesChars_iff_splits (pattern name : List Char) :
    matchesChars pattern name = true ↔ Splits pattern name := by
  induction pattern generalizing name with
  | nil => rw [matchesChars_nil, List.isEmpty_iff, splits_nil_iff]
  | cons p pattern ih =>
    by_cases hs : p = '*'
    · subst hs
      exact matchesChars_star_iff ih name
    by_cases hq : p = '?'
    · subst hq
      rw [splits_single_iff (· ≠ '\n') fun _ => stands_question_iff]
      cases name with
      | nil => simp
      | cons c name => simp [matchesChars_question_cons, ih]
    · rw [splits_single_iff (· = p) fun piece => by simp [stands_literal_iff hs hq]]
      cases name with
      | nil => simp [matchesChars_literal_nil hs hq]
      | cons c name => simp [matchesChars_literal_cons hs hq, ih]

/-! ## Names without wildcards -/

/-- A pattern without wildcards. -/
def IsLiteral (p : Pattern) : Prop := '*' ∉ p.source.toList ∧ '?' ∉ p.source.toList

instance (p : Pattern) : Decidable p.IsLiteral := inferInstanceAs (Decidable (_ ∧ _))

/-- Every character stands for itself, a wildcard among others. -/
theorem stands_self (p : Char) : Stands p [p] := by
  by_cases hs : p = '*'
  · subst hs
    exact stands_star_iff.2 (by decide)
  by_cases hq : p = '?'
  · subst hq
    exact stands_question_iff.2 ⟨'?', by decide, rfl⟩
  · exact (stands_literal_iff hs hq).2 rfl

/-- A wildcard stands for other text as well. -/
theorem exists_stands_ne {p : Char} (h : p = '*' ∨ p = '?') :
    ∃ piece, Stands p piece ∧ piece ≠ [p] ∧ piece ≠ [] := by
  rcases h with rfl | rfl
  · exact ⟨['*', '*'], stands_star_iff.2 (by decide), by decide, by decide⟩
  · exact ⟨['*'], stands_question_iff.2 ⟨'*', by decide, rfl⟩, by decide, by decide⟩

theorem splits_self (cs : List Char) : Splits cs cs := by
  induction cs with
  | nil => exact splits_nil_iff.2 rfl
  | cons c cs ih => exact splits_cons_iff.2 ⟨[c], cs, rfl, stands_self c, ih⟩

theorem splits_append {front back name name' : List Char} (h : Splits front name) (h' : Splits back name') :
    Splits (front ++ back) (name ++ name') := by
  obtain ⟨pieces, hpieces, rfl⟩ := h
  obtain ⟨others, hothers, rfl⟩ := h'
  exact ⟨pieces ++ others, List.rel_append hpieces hothers, List.flatten_append⟩

theorem splits_literal_iff {cs name : List Char} (hs : '*' ∉ cs) (hq : '?' ∉ cs) :
    Splits cs name ↔ name = cs := by
  induction cs generalizing name with
  | nil => exact splits_nil_iff
  | cons c cs ih =>
    obtain ⟨hcs, hsrest⟩ := not_or.1 (mt List.mem_cons.2 hs)
    obtain ⟨hcq, hqrest⟩ := not_or.1 (mt List.mem_cons.2 hq)
    rw [splits_single_iff (· = c) fun piece => by simp [stands_literal_iff (Ne.symm hcs) (Ne.symm hcq)]]
    constructor
    · rintro ⟨_, rest, rfl, rfl, hrest⟩
      rw [(ih hsrest hqrest).1 hrest]
    · rintro rfl
      exact ⟨c, cs, rfl, rfl, splits_self cs⟩

theorem isMatch_iff_splits (p : Pattern) (name : String) :
    p.isMatch name = true ↔ Splits p.source.toList name.toList :=
  matchesChars_iff_splits _ _

/-- A pattern matches the name that it is written as. -/
theorem isMatch_source (p : Pattern) : p.isMatch p.source = true :=
  (isMatch_iff_splits _ _).2 (splits_self _)

theorem IsLiteral.isMatch_iff {p : Pattern} (h : p.IsLiteral) (name : String) :
    p.isMatch name = true ↔ name = p.source := by
  rw [isMatch_iff_splits, splits_literal_iff h.1 h.2, String.toList_inj]

/-- A pattern with a wildcard matches another name too, and not only the empty one: other text takes the
place of the wildcard, and all other characters stay. -/
theorem exists_isMatch_ne {p : Pattern} (h : ¬ p.IsLiteral) :
    ∃ name, p.isMatch name = true ∧ name ≠ p.source ∧ name ≠ "" := by
  have wildcard : ∃ c ∈ p.source.toList, c = '*' ∨ c = '?' := by
    by_contra none
    exact h ⟨fun hm => none ⟨_, hm, .inl rfl⟩, fun hm => none ⟨_, hm, .inr rfl⟩⟩
  obtain ⟨c, hmem, hc⟩ := wildcard
  obtain ⟨front, back, hsource⟩ := List.append_of_mem hmem
  obtain ⟨piece, hstands, hne, hnonempty⟩ := exists_stands_ne hc
  refine ⟨String.ofList (front ++ (piece ++ back)), ?_, ?_, ?_⟩
  · rw [isMatch_iff_splits, String.toList_ofList, hsource]
    exact splits_append (splits_self front) (splits_cons_iff.2 ⟨piece, back, rfl, hstands, splits_self back⟩)
  · intro he
    have hchars : front ++ (piece ++ back) = front ++ c :: back := by
      rw [← hsource, ← he, String.toList_ofList]
    have hpiece : piece ++ back = [c] ++ back := List.append_cancel_left hchars
    exact hne (List.append_cancel_right hpiece)
  · intro he
    have hchars : front ++ (piece ++ back) = [] := by simpa using congrArg String.toList he
    exact hnonempty (List.append_eq_nil_iff.1 (List.append_eq_nil_iff.1 hchars).2).1

end EntityModel.Pattern
