import EntityModel.Proofs.Wildcards

/-!
# Patterns as regular expressions

A pattern is left to an engine for regular expressions: `expression` writes it as one, anchored at both ends,
with `.*` for a star, `.` for a question mark, and every other character escaped where it means something else.
Of an engine this needs that it finds what such an expression is said to match (`Documented`), as long as the
expression is not too large for it. Nothing else is assumed of an engine; `reference` is one
(`documented_reference`).

Main statement: the expression of a pattern is accepted, and the name has an occurrence of it exactly if it can be
cut into pieces that the characters of the pattern stand for, which is also what the matcher of patterns answers
(`expression_matches_splits`).
-/

namespace EntityModel

namespace Expression

/-! ## What expressions match -/

/-- The steps of an expression take parts of a text, one after the other, between what stands before and after
all of them. -/
inductive Matches : List Item → List Char → List Char → List Char → Prop where
  | nil (before after : List Char) : Matches [] before [] after
  | cons {item : Item} {items : List Item} {before piece rest after : List Char}
      (first : item.takes before piece (rest ++ after) = true) (later : Matches items (before ++ piece) rest after) :
    Matches (item :: items) before (piece ++ rest) after

/-- An expression matches some part of a text. -/
def Occurs (items : List Item) (name : List Char) : Prop :=
  ∃ before piece after, before ++ (piece ++ after) = name ∧ Matches items before piece after

/-- An engine as its documentation has it: it accepts every expression that is not too large for it, and searches
a text for it. -/
structure Documented (fits : List Item → Prop) (engine : String → Option (String → Bool)) : Prop where
  finds : ∀ items, fits items → ∃ found, engine (String.ofList (text items)) = some found ∧
    ∀ name, found name = true ↔ Occurs items name.toList

theorem takes_one_iff {a : Atom} {before piece after : List Char} :
    (Item.one a).takes before piece after = true ↔ ∃ c, piece = [c] ∧ a.accepts c = true := by
  rw [Item.takes, Bool.and_eq_true, beq_iff_eq, List.length_eq_one_iff]
  constructor
  · rintro ⟨⟨c, rfl⟩, h⟩
    exact ⟨c, rfl, by simpa using h⟩
  · rintro ⟨c, rfl, h⟩
    exact ⟨⟨c, rfl⟩, by simpa using h⟩

theorem takes_anchor_iff {before piece after : List Char} :
    (Item.textStart.takes before piece after = true ↔ piece = [] ∧ before = []) ∧
      (Item.textEnd.takes before piece after = true ↔ piece = [] ∧ after = []) := by
  simp [Item.takes]

theorem matches_nil_iff {before piece after : List Char} : Matches [] before piece after ↔ piece = [] := by
  constructor
  · intro h
    cases h
    rfl
  · rintro rfl
    exact .nil before after

theorem matches_cons_iff {item : Item} {items : List Item} {before taken after : List Char} :
    Matches (item :: items) before taken after ↔
      ∃ piece rest, piece ++ rest = taken ∧ item.takes before piece (rest ++ after) = true ∧
        Matches items (before ++ piece) rest after := by
  constructor
  · intro h
    cases h with
    | cons first later => exact ⟨_, _, rfl, first, later⟩
  · rintro ⟨piece, rest, rfl, first, later⟩
    exact .cons first later

end Expression

/-! ## The expression of a pattern -/

namespace Pattern

open Expression

/-- The step that a character of a pattern is written as. -/
def item (p : Char) : Item :=
  if p = '*' then .many .dot else if p = '?' then .one .dot else .one (.literal p)

/-- The steps of the expression of a pattern. -/
def items (p : Pattern) : List Item := .textStart :: (p.source.toList.map item ++ [.textEnd])

theorem text_item (p : Char) : (item p).text = written p := by
  unfold item written
  split
  · rfl
  · split
    · rfl
    · rfl

theorem expression_eq_text (p : Pattern) : p.expression = String.ofList (text p.items) := by
  have hpattern : (p.source.toList.map item).flatMap Item.text = p.source.toList.flatMap written := by
    rw [List.flatMap_map]
    exact List.flatMap_congr fun c _ => text_item c
  rw [expression, text, items, List.flatMap_cons, List.flatMap_append, hpattern]
  rfl

/-- The step of a character takes the pieces that the character stands for, wherever they are. -/
theorem takes_item_iff {p : Char} {before piece after : List Char} :
    (item p).takes before piece after = true ↔ Stands p piece := by
  unfold item
  by_cases hs : p = '*'
  · subst hs
    rw [if_pos rfl, stands_star_iff, Item.takes, List.all_eq_true]
    constructor
    · intro h hmem
      simpa [Atom.accepts] using h _ hmem
    · intro h c hc
      exact bne_iff_ne.2 fun heq => h (heq ▸ hc)
  by_cases hq : p = '?'
  · subst hq
    rw [if_neg (by decide), if_pos rfl, stands_question_iff, takes_one_iff]
    simp [Atom.accepts, and_comm]
  · rw [if_neg hs, if_neg hq, stands_literal_iff hs hq, takes_one_iff]
    simp [Atom.accepts]

/-- Behind the first anchor: the pieces of the pattern up to the end of the name. -/
theorem matches_pattern_iff {pattern before name after : List Char} :
    Matches (pattern.map item ++ [.textEnd]) before name after ↔ Splits pattern name ∧ after = [] := by
  induction pattern generalizing before name with
  | nil =>
    rw [List.map_nil, List.nil_append, matches_cons_iff, splits_nil_iff]
    constructor
    · rintro ⟨piece, rest, rfl, htakes, hrest⟩
      obtain ⟨rfl, hafter⟩ := takes_anchor_iff.2.1 htakes
      exact List.append_eq_nil_iff.1 hafter
    · rintro ⟨rfl, rfl⟩
      exact ⟨[], [], rfl, rfl, matches_nil_iff.2 rfl⟩
  | cons p pattern ih =>
    simp only [List.map_cons, List.cons_append, matches_cons_iff, takes_item_iff, ih, splits_cons_iff]
    constructor
    · rintro ⟨piece, rest, hcut, hp, hrest, hafter⟩
      exact ⟨⟨piece, rest, hcut, hp, hrest⟩, hafter⟩
    · rintro ⟨⟨piece, rest, hcut, hp, hrest⟩, hafter⟩
      exact ⟨piece, rest, hcut, hp, hrest, hafter⟩

theorem occurs_items_iff {p : Pattern} {name : List Char} :
    Occurs p.items name ↔ Splits p.source.toList name := by
  constructor
  · rintro ⟨before, taken, after, rfl, h⟩
    obtain ⟨piece, rest, rfl, htakes, hrest⟩ := matches_cons_iff.1 h
    obtain ⟨rfl, rfl⟩ := takes_anchor_iff.1.1 htakes
    obtain ⟨hsplits, rfl⟩ := matches_pattern_iff.1 hrest
    simpa using hsplits
  · intro h
    refine ⟨[], name, [], by simp, matches_cons_iff.2 ⟨[], name, rfl, rfl, ?_⟩⟩
    exact matches_pattern_iff.2 ⟨h, rfl⟩

end Pattern

/-! ## An engine that is as documented -/

namespace Expression

theorem anyCut_iff {p : List Char → List Char → Bool} {cs : List Char} :
    anyCut p cs = true ↔ ∃ piece rest, piece ++ rest = cs ∧ p piece rest = true := by
  rw [anyCut, List.any_eq_true]
  constructor
  · rintro ⟨i, -, h⟩
    exact ⟨_, _, List.take_append_drop i cs, h⟩
  · rintro ⟨piece, rest, rfl, h⟩
    refine ⟨piece.length, List.mem_range.2 ?_, by simpa using h⟩
    rw [List.length_append]
    omega

theorem matchesFrom_iff {items : List Item} {before cs : List Char} :
    matchesFrom items before cs = true ↔
      ∃ piece after, piece ++ after = cs ∧ Matches items before piece after := by
  induction items generalizing before cs with
  | nil =>
    refine iff_of_true rfl ⟨[], cs, rfl, .nil before cs⟩
  | cons item items ih =>
    simp only [matchesFrom, anyCut_iff, Bool.and_eq_true, ih, matches_cons_iff]
    constructor
    · rintro ⟨piece, _, rfl, htakes, rest, after, rfl, hrest⟩
      exact ⟨piece ++ rest, after, List.append_assoc _ _ _, piece, rest, rfl, htakes, hrest⟩
    · rintro ⟨_, after, rfl, piece, rest, rfl, htakes, hrest⟩
      exact ⟨piece, rest ++ after, (List.append_assoc _ _ _).symm, htakes, rest, after, rfl, hrest⟩

/-- An escaped character starts with no mark that could belong to a step. -/
theorem head?_text_atom (a : Atom) (rest : List Char) :
    (a.text ++ rest).head? ≠ some '^' ∧ (a.text ++ rest).head? ≠ some '$' ∧
      (a.text ++ rest).head? ≠ some '*' := by
  cases a with
  | dot => simp [Atom.text]
  | literal c =>
    by_cases h : c ∈ metaCharacters
    · simp [Atom.text, escape, h]
    · simp only [Atom.text, escape, if_neg h, List.cons_append, List.head?_cons, ne_eq, Option.some.injEq]
      refine ⟨?_, ?_, ?_⟩ <;> rintro rfl <;> exact h (by decide)

theorem head?_text_ne_star (items : List Item) : (text items).head? ≠ some '*' := by
  cases items with
  | nil => simp [text]
  | cons item items =>
    rw [text, List.flatMap_cons]
    cases item with
    | one a => exact (head?_text_atom a _).2.2
    | many a =>
      rw [Item.text, List.append_assoc]
      exact (head?_text_atom a _).2.2
    | textStart => simp [Item.text]
    | textEnd => simp [Item.text]

theorem readAtom_text (a : Atom) (rest : List Char) : readAtom (a.text ++ rest) = some (a, rest) := by
  cases a with
  | dot => rfl
  | literal c =>
    by_cases h : c ∈ metaCharacters
    · simp [Atom.text, escape, readAtom, h]
    · have hdot : c ≠ '.' := by
        rintro rfl
        exact h (by decide)
      have hescape : c ≠ '\\' := by
        rintro rfl
        exact h (by decide)
      simp [Atom.text, escape, readAtom, h, hdot, hescape]

theorem readItem_text (item : Item) {rest : List Char} (h : rest.head? ≠ some '*') :
    readItem (item.text ++ rest) = some (item, rest) := by
  cases item with
  | one a =>
    obtain ⟨hstart, hend, -⟩ := head?_text_atom a rest
    rw [Item.text, readItem, if_neg hstart, if_neg hend, readAtom_text]
    simp [h]
  | many a =>
    obtain ⟨hstart, hend, -⟩ := head?_text_atom a ('*' :: rest)
    rw [Item.text, List.append_assoc, List.singleton_append, readItem, if_neg hstart, if_neg hend,
      readAtom_text]
    simp
  | textStart => rfl
  | textEnd => rfl

/-- The text of an expression is read as that expression. -/
theorem readItems_text {n : Nat} {items : List Item} (h : items.length ≤ n) :
    readItems n (text items) = some items := by
  induction items generalizing n with
  | nil => cases n <;> rfl
  | cons item items ih =>
    obtain ⟨m, rfl⟩ : ∃ m, n = m + 1 := ⟨n - 1, by rw [List.length_cons] at h; omega⟩
    have hread : readItem (text (item :: items)) = some (item, text items) :=
      readItem_text item (head?_text_ne_star items)
    cases hc : text (item :: items) with
    | nil =>
      rw [hc] at hread
      cases hread
    | cons c cs =>
      have hlater : readItems m (text items) = some items := ih (by simpa using h)
      rw [readItems, ← hc, hread]
      simp [hlater]

theorem length_le_length_text (items : List Item) : items.length ≤ (text items).length := by
  have hatom (a : Atom) : 0 < a.text.length := by
    cases a with
    | dot => exact Nat.one_pos
    | literal c =>
      rw [Atom.text, escape]
      split <;> simp
  have hitem (item : Item) : 0 < item.text.length := by
    cases item with
    | one a => exact hatom a
    | many a => simp [Item.text]
    | textStart => exact Nat.one_pos
    | textEnd => exact Nat.one_pos
  induction items with
  | nil => exact Nat.zero_le _
  | cons item items ih =>
    rw [text, List.flatMap_cons, List.length_append, List.length_cons, ← text]
    have := hitem item
    omega

/-- Nothing is too large for the engine that tries all parts. -/
theorem documented_reference : Documented (fun _ => True) reference where
  finds items _ := by
    refine ⟨fun name => anyCut (matchesFrom items) name.toList, ?_, fun name => ?_⟩
    · rw [reference, String.toList_ofList, readItems_text (length_le_length_text items)]
      rfl
    · simp only [anyCut_iff, matchesFrom_iff, Occurs]
      constructor
      · rintro ⟨before, _, hcut, piece, after, rfl, h⟩
        exact ⟨before, piece, after, hcut, h⟩
      · rintro ⟨before, piece, after, hcut, h⟩
        exact ⟨before, _, hcut, piece, after, rfl, h⟩

/-! ## The size of expressions -/

theorem size_replicate (n : Nat) (c : Char) (bytes : Nat) :
    (List.replicate n c).foldl (fun bytes c => bytes + charSize c) bytes = bytes + n * charSize c := by
  induction n generalizing bytes with
  | zero => simp
  | succ n ih =>
    rw [List.replicate_succ, List.foldl_cons, ih, Nat.succ_mul]
    omega

end Expression

/-! ## Patterns left to an engine -/

namespace Pattern

open Expression

/-- A pattern of that many question marks. -/
def marks (n : Nat) : Pattern := ⟨String.ofList (List.replicate n '?')⟩

theorem expression_marks (n : Nat) :
    (marks n).expression = String.ofList ('^' :: List.replicate n '.' ++ ['$']) := by
  have hwritten : (List.replicate n '?').flatMap written = List.replicate n '.' := by
    rw [List.flatMap_replicate, show written '?' = ['.'] from rfl, List.flatten_replicate_singleton]
  rw [expression, marks, String.toList_ofList, hwritten]

theorem size_marks (n : Nat) : Expression.size (marks n).expression = 416 * n + 64 := by
  have hdot : Expression.charSize '.' = 416 := rfl
  have hanchor : Expression.charSize '^' = 32 ∧ Expression.charSize '$' = 32 := by decide
  rw [expression_marks, Expression.size, String.toList_ofList, List.foldl_append, List.foldl_cons, List.foldl_nil,
    List.foldl_cons, Expression.size_replicate, hdot, hanchor.1, hanchor.2]
  omega

theorem dot_not_mem_marks (n : Nat) : '.' ∉ (marks n).source.toList := by
  simp [marks]

/-- **An engine finds what a pattern stands for.** Every pattern whose expression is not too large is accepted,
and matches the names that can be cut into pieces that its characters stand for. The matcher of patterns gives the
same answers. -/
theorem expression_matches_splits {fits : List Item → Prop} {engine : String → Option (String → Bool)}
    (documented : Documented fits engine) (p : Pattern) (small : fits p.items) :
    ∃ found, engine p.expression = some found ∧
      ∀ name : String,
        (found name = true ↔ Splits p.source.toList name.toList) ∧ p.isMatch name = found name := by
  obtain ⟨found, haccepted, hfound⟩ := documented.finds p.items small
  refine ⟨found, by rw [expression_eq_text, haccepted], fun name => ?_⟩
  have hsplits : found name = true ↔ Splits p.source.toList name.toList :=
    (hfound name).trans occurs_items_iff
  have hmatch : p.isMatch name = true ↔ Splits p.source.toList name.toList := matchesChars_iff_splits _ _
  exact ⟨hsplits, Bool.eq_iff_iff.2 (hmatch.trans hsplits.symm)⟩

/-- The keys of all tables, with one more character. -/
def keysPattern : Pattern := ⟨"*.id?"⟩

/-- The pattern finds a key behind a dot, and the dot does not stand for another character. -/
theorem expression_matches_splits_keys :
    Documented (fun _ => True) reference ∧ keysPattern.expression = "^.*\\.id.$" ∧
      ∃ found, reference keysPattern.expression = some found ∧ found "users.id2" = true ∧
        Splits keysPattern.source.toList "users.id2".toList ∧ found "users_id2" = false := by
  obtain ⟨found, haccepted, hfound⟩ := expression_matches_splits documented_reference keysPattern trivial
  have hfound2 : found "users.id2" = true := (hfound "users.id2").2 ▸ by decide
  refine ⟨documented_reference, by decide, found, haccepted, hfound2, (hfound "users.id2").1.1 hfound2, ?_⟩
  exact (hfound "users_id2").2 ▸ by decide

end Pattern

end EntityModel
