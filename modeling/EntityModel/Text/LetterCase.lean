import EntityModel.Text.CaseContext
import EntityModel.Text.CaseTables

/-!
# Letter case

Upper and lower case of characters and of text. One character may become several (`ß` becomes `SS`),
and a capital sigma at the end of a word becomes `ς`, everywhere else `σ`.
-/

namespace EntityModel.Text

/-- The character that a run maps the code point `n` to, if the run holds `n`. -/
def CaseRun.image? (run : CaseRun) (n : Nat) : Option Char :=
  if run.first ≤ n && n ≤ run.last && (n - run.first) % run.stride == 0 then
    some (Char.ofNat ((n : Int) + run.shift).toNat)
  else none

/-- Look a character up among the expansions, then among the runs; others are left alone. -/
def mapCase (expansions : List (Nat × List Nat)) (runs : List CaseRun) (c : Char) : List Char :=
  match expansions.lookup c.toNat with
  | some codes => codes.map Char.ofNat
  | none => [(runs.findSome? (·.image? c.toNat)).getD c]

/-- Upper case of one character. -/
def upperChar (c : Char) : List Char := mapCase upperExpansions upperRuns c

/-- Lower case of one character on its own. -/
def lowerChar (c : Char) : List Char := mapCase lowerExpansions lowerRuns c

/-- Whether a cased character follows once the case-ignorable ones are passed over. -/
def casedAhead (cs : List Char) : Bool :=
  match cs.dropWhile isCaseIgnorable with
  | c :: _ => isCased c
  | [] => false

/-- The lower-case letter of a capital sigma with the given text before it (nearest first) and after it. -/
def lowerSigma (before after : List Char) : Char :=
  if casedAhead before && !casedAhead after then 'ς' else 'σ'

/-- Lower case of the rest of a text; `before` holds what precedes it, nearest first. -/
def lowerAfter (before : List Char) : List Char → List Char
  | [] => []
  | c :: rest =>
    (if c = 'Σ' then [lowerSigma before rest] else lowerChar c) ++ lowerAfter (c :: before) rest

/-- Lower case of a text. -/
def lower (cs : List Char) : List Char := lowerAfter [] cs

/-- Upper case of a text. -/
def upper (cs : List Char) : List Char := cs.flatMap upperChar

/-- Upper case for the first character only. -/
def capitalize : List Char → List Char
  | [] => []
  | c :: rest => upperChar c ++ rest

/-- Lower case for the first character only. -/
def uncapitalize : List Char → List Char
  | [] => []
  | c :: rest => lowerChar c ++ rest

/-! ## ASCII -/

/-- Below the first entry of every table but one run, only that run counts. -/
theorem mapCase_of_lt {expansions : List (Nat × List Nat)} {run : CaseRun} {runs : List CaseRun} {c : Char}
    {n : Nat} (he : expansions.all (n ≤ ·.1) = true) (hr : runs.all (n ≤ ·.first) = true)
    (hc : c.toNat < n) : mapCase expansions (run :: runs) c = [(run.image? c.toNat).getD c] := by
  have absent : expansions.lookup c.toNat = none := by
    refine List.lookup_eq_none_iff.2 fun e h => ?_
    have := List.all_eq_true.1 he e h
    simp only [decide_eq_true_eq] at this
    simp only [bne_iff_ne, ne_eq]
    omega
  have passed : runs.findSome? (·.image? c.toNat) = none := by
    refine List.findSome?_eq_none_iff.2 fun r h => ?_
    have := List.all_eq_true.1 hr r h
    simp only [decide_eq_true_eq] at this
    have : ¬ r.first ≤ c.toNat := by omega
    simp [CaseRun.image?, this]
  simp only [mapCase, absent, List.findSome?_cons, passed]
  cases run.image? c.toNat <;> rfl

/-- What holds of the first 128 characters, one by one, holds of every ASCII character. -/
theorem of_ascii {P : Char → Prop} (table : ∀ n < 128, P (Char.ofNat n)) {c : Char}
    (h : c.toNat < 128) : P c := by
  simpa using table c.toNat h

theorem lowerChar_of_ascii {c : Char} (h : c.toNat < 128) : lowerChar c = [c.toLower] :=
  (mapCase_of_lt (by decide) (by decide) h).trans
    (of_ascii (P := fun c => [((CaseRun.mk 0x41 0x5a 1 32).image? c.toNat).getD c] = [c.toLower])
      (by decide) h)

theorem upperChar_of_ascii {c : Char} (h : c.toNat < 128) : upperChar c = [c.toUpper] :=
  (mapCase_of_lt (by decide) (by decide) h).trans
    (of_ascii (P := fun c => [((CaseRun.mk 0x61 0x7a 1 (-32)).image? c.toNat).getD c] = [c.toUpper])
      (by decide) h)

theorem lowerAfter_of_ascii {cs : List Char} (h : ∀ c ∈ cs, c.toNat < 128) (before : List Char) :
    lowerAfter before cs = cs.map Char.toLower := by
  induction cs generalizing before with
  | nil => rfl
  | cons c rest ih =>
    have hc : c.toNat < 128 := h c (by simp)
    have hs : c ≠ 'Σ' := by rintro rfl; revert hc; decide
    simp [lowerAfter, hs, lowerChar_of_ascii hc, ih (fun d hd => h d (by simp [hd]))]

/-- ASCII text is lowered letter by letter. -/
theorem lower_of_ascii {cs : List Char} (h : ∀ c ∈ cs, c.toNat < 128) :
    lower cs = cs.map Char.toLower :=
  lowerAfter_of_ascii h []

end EntityModel.Text
