import EntityModel.Override.Expression

/-!
# Wildcard patterns

Patterns for names: `*` stands for any run of characters, `?` for one character, neither for a line break,
and every other character for itself. A pattern has to match the whole name. `matchSuffixes` answers for
all ends of the name at once, so that several stars cost no more than one; the equations below say what it
answers for one name. `expression` is what a pattern is compiled from.
-/

namespace EntityModel

/-- A pattern for names, as written. -/
structure Pattern where
  source : String
  deriving DecidableEq, Repr, Inhabited

namespace Pattern

/-- From the answers for what follows one character to those with that character in front: it has to
pass the test. -/
def afterOne (test : Char → Bool) : List Char → List Bool → List Bool
  | c :: name, answers => (test c && answers.tail.headD false) :: afterOne test name answers.tail
  | [], _ => [false]

/-- From the answers for what follows a star to those with the star in front: it may take nothing, or one
more character that is no line break. -/
def afterRun : List Char → List Bool → List Bool
  | c :: name, answers =>
    let later := afterRun name answers.tail
    (answers.headD false || (c != '\n' && later.headD false)) :: later
  | [], answers => [answers.headD false]

/-- For each end of the name, from the whole name to the empty end, whether the pattern matches it. -/
def matchSuffixes : List Char → List Char → List Bool
  | [], name => name.map (fun _ => false) ++ [true]
  | '*' :: pattern, name => afterRun name (matchSuffixes pattern name)
  | '?' :: pattern, name => afterOne (· != '\n') name (matchSuffixes pattern name)
  | p :: pattern, name => afterOne (· == p) name (matchSuffixes pattern name)

/-- Whether the characters of a pattern match those of a name. -/
def matchesChars (pattern name : List Char) : Bool := (matchSuffixes pattern name).headD false

/-- Whether a pattern matches a name. -/
def isMatch (p : Pattern) (name : String) : Bool := matchesChars p.source.toList name.toList

/-- A character of a pattern, written in an expression. -/
def written (p : Char) : List Char :=
  if p = '*' then ['.', '*'] else if p = '?' then ['.'] else Expression.escape p

/-- The expression of a pattern. -/
def expression (p : Pattern) : String := String.ofList ('^' :: p.source.toList.flatMap written ++ ['$'])

/-! ## What the answers are -/

theorem tail_afterOne (test : Char → Bool) (c : Char) (name : List Char) (answers : List Bool) :
    (afterOne test (c :: name) answers).tail = afterOne test name answers.tail := rfl

theorem tail_afterRun (c : Char) (name : List Char) (answers : List Bool) :
    (afterRun (c :: name) answers).tail = afterRun name answers.tail := rfl

/-- The answers for a shorter name are the later answers for a longer one. -/
theorem tail_matchSuffixes (pattern : List Char) (c : Char) (name : List Char) :
    (matchSuffixes pattern (c :: name)).tail = matchSuffixes pattern name := by
  induction pattern with
  | nil => simp [matchSuffixes]
  | cons p pattern ih =>
    by_cases hs : p = '*'
    · subst hs; simp [matchSuffixes, tail_afterRun, ih]
    · by_cases hq : p = '?'
      · subst hq; simp [matchSuffixes, tail_afterOne, ih]
      · simp [matchSuffixes, tail_afterOne, ih]

@[simp] theorem matchesChars_nil (name : List Char) : matchesChars [] name = name.isEmpty := by
  cases name <;> simp [matchesChars, matchSuffixes]

@[simp] theorem matchesChars_star_nil (pattern : List Char) :
    matchesChars ('*' :: pattern) [] = matchesChars pattern [] := by
  simp [matchesChars, matchSuffixes, afterRun]

theorem matchesChars_star_cons (pattern : List Char) (c : Char) (name : List Char) :
    matchesChars ('*' :: pattern) (c :: name) =
      (matchesChars pattern (c :: name) || (c != '\n' && matchesChars ('*' :: pattern) name)) := by
  simp [matchesChars, matchSuffixes, afterRun, tail_matchSuffixes]

@[simp] theorem matchesChars_question_nil (pattern : List Char) :
    matchesChars ('?' :: pattern) [] = false := by
  simp [matchesChars, matchSuffixes, afterOne]

theorem matchesChars_question_cons (pattern : List Char) (c : Char) (name : List Char) :
    matchesChars ('?' :: pattern) (c :: name) = (c != '\n' && matchesChars pattern name) := by
  simp [matchesChars, matchSuffixes, afterOne, tail_matchSuffixes]

theorem matchesChars_literal_nil {p : Char} (hs : p ≠ '*') (hq : p ≠ '?') (pattern : List Char) :
    matchesChars (p :: pattern) [] = false := by
  simp [matchesChars, matchSuffixes, afterOne]

theorem matchesChars_literal_cons {p : Char} (hs : p ≠ '*') (hq : p ≠ '?') (pattern : List Char)
    (c : Char) (name : List Char) :
    matchesChars (p :: pattern) (c :: name) = (c == p && matchesChars pattern name) := by
  simp [matchesChars, matchSuffixes, afterOne, tail_matchSuffixes]

end Pattern

end EntityModel
