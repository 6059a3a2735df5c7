import EntityModel.Naming.Parameter
import EntityModel.Proofs.CaseImages

/-!
# Parameter names and reserved words

A parameter is named by an identifier with a small first letter, which can turn it into a reserved word. Words with a
short form are replaced by it, and no short form is reserved (`shortForms_not_reserved`). So what can be a reserved
word is what has no short form, and that comes from the word itself or from the same word with a capital
(`uncapitalize_eq_iff`).

Main statement: the nine reserved words without a short form, as they are or with a capital, are the identifiers that
get a reserved word as parameter name, and there are no others (`parameter_mem_reservedWords_iff`).
-/

namespace EntityModel

/-! ## First letters -/

namespace Text

theorem lt_of_isLower {c : Char} (h : c.isLower = true) : c.toNat < 128 := by
  have hz : c.toNat ≤ 'z'.toNat := of_decide_eq_true (Bool.and_eq_true_iff.1 h).2
  exact Nat.lt_of_le_of_lt hz (by decide)

theorem eq_or_eq_of_toLower {c d : Char} (hc : c.toNat < 128) (h : c.toLower = d) : c = d ∨ c = d.toUpper := by
  subst h
  exact of_ascii (P := fun c => c = c.toLower ∨ c = c.toLower.toUpper) (by decide) hc

/-- A small ASCII letter is the small letter of itself and of its capital. -/
theorem lowerChar_of_isLower {d : Char} (small : d.isLower = true) :
    lowerChar d = [d] ∧ lowerChar d.toUpper = [d] := by
  have hd : d.toNat < 128 := lt_of_isLower small
  obtain ⟨hself, hascii, hcapital⟩ := of_ascii
    (P := fun d => d.isLower = true → d.toLower = d ∧ d.toUpper.toNat < 128 ∧ d.toUpper.toLower = d)
    (by decide) hd small
  exact ⟨by rw [lowerChar_of_ascii hd, hself], by rw [lowerChar_of_ascii hascii, hcapital]⟩

/-- A word in small ASCII letters comes from itself or from the word with a capital. The letter `k` is left out, since
the sign of the kelvin is lowered to it, too. -/
theorem uncapitalize_eq_iff {d : Char} {rest : List Char} (small : ∀ e ∈ d :: rest, e.isLower = true) (other : d ≠ 'k')
    (cs : List Char) : uncapitalize cs = d :: rest ↔ cs = d :: rest ∨ cs = d.toUpper :: rest := by
  obtain ⟨hself, hcapital⟩ := lowerChar_of_isLower (small d List.mem_cons_self)
  constructor
  · intro h
    cases cs with
    | nil => cases h
    | cons c tail =>
      rw [uncapitalize] at h
      have hc : c.toNat < 128 := by
        by_contra hforeign
        obtain hk | ⟨e, he, hlow⟩ := lowerChar_of_foreign (Nat.not_lt.1 hforeign)
        · rw [hk] at h
          exact other (List.cons.inj h).1.symm
        · have hmem : e ∈ d :: rest := h ▸ List.mem_append_left tail he
          exact absurd (lt_of_isLower (small e hmem)) (Nat.not_lt.2 hlow)
      rw [lowerChar_of_ascii hc, List.singleton_append, List.cons.injEq] at h
      obtain ⟨hletter, rfl⟩ := h
      exact (eq_or_eq_of_toLower hc hletter).imp (congrArg (· :: tail)) (congrArg (· :: tail))
  · rintro (rfl | rfl)
    · rw [uncapitalize, hself, List.singleton_append]
    · rw [uncapitalize, hcapital, List.singleton_append]

end Text

namespace Naming

open Text

/-! ## Reserved words -/

/-- The words that the generated language reserves. -/
def reservedWords : List String :=
  ["break", "case", "chan", "const", "continue", "default", "defer", "else", "fallthrough", "for", "func", "go", "goto",
   "if", "import", "interface", "map", "package", "range", "return", "select", "struct", "switch", "type", "var"]

/-- The reserved words that have no short form. -/
def unshortened : List String := ["break", "chan", "continue", "defer", "else", "fallthrough", "go", "goto", "if"]

/-- A word with a capital first letter. -/
def withCapital (word : String) : String := String.ofList (capitalize word.toList)

theorem mem_unshortened_iff {word : String} :
    word ∈ unshortened ↔ word ∈ reservedWords ∧ shortForms.lookup word = none := by
  have hfilter : unshortened = reservedWords.filter fun word => (shortForms.lookup word).isNone := by decide
  rw [hfilter, List.mem_filter, Option.isNone_iff_eq_none]

/-- No short form is a reserved word. -/
theorem shortForms_not_reserved {word short : String} (h : shortForms.lookup word = some short) :
    short ∉ reservedWords := by
  have hshort : ∀ e ∈ shortForms, e.2 ∉ reservedWords := by decide
  exact hshort (word, short) (mem_of_lookup_eq_some h)

/-- One of these words is a name with a small first letter if the name is the word, as it is or with a capital. -/
theorem ofList_uncapitalize_eq_iff {word : String} (mem : word ∈ unshortened) (name : String) :
    String.ofList (uncapitalize name.toList) = word ↔ name = word ∨ name = withCapital word := by
  have hwords : ∀ word ∈ unshortened,
      word.toList.all (·.isLower) = true ∧ word.toList.head?.any (· ≠ 'k') = true := by decide
  obtain ⟨hsmall, hother⟩ := hwords word mem
  cases hchars : word.toList with
  | nil => simp [hchars] at hother
  | cons d rest =>
    have small : ∀ e ∈ d :: rest, e.isLower = true := List.all_eq_true.1 (hchars ▸ hsmall)
    have other : d ≠ 'k' := by simpa [hchars] using hother
    have hcapital : (withCapital word).toList = d.toUpper :: rest := by
      rw [withCapital, String.toList_ofList, hchars, capitalize,
        upperChar_of_ascii (lt_of_isLower (small d List.mem_cons_self)), List.singleton_append]
    rw [← String.toList_inj, ← String.toList_inj, ← String.toList_inj, String.toList_ofList, hchars, hcapital]
    exact uncapitalize_eq_iff small other name.toList

theorem uncapitalize_mem_unshortened_iff (name : String) :
    String.ofList (uncapitalize name.toList) ∈ unshortened ↔
      name ∈ unshortened ∨ name ∈ unshortened.map withCapital := by
  rw [List.mem_map]
  constructor
  · intro h
    obtain hsame | hcapital := (ofList_uncapitalize_eq_iff h name).1 rfl
    · exact .inl (hsame ▸ h)
    · exact .inr ⟨_, h, hcapital.symm⟩
  · rintro (h | ⟨word, h, hcapital⟩)
    · rwa [(ofList_uncapitalize_eq_iff h name).2 (.inl rfl)]
    · rwa [(ofList_uncapitalize_eq_iff h name).2 (.inr hcapital.symm)]

/-- **Reserved words as parameter names.** An identifier gets a reserved word as parameter name exactly if it is a
reserved word without a short form, or such a word with a capital first letter. -/
theorem parameter_mem_reservedWords_iff (name : String) :
    parameter name ∈ reservedWords ↔ name ∈ unshortened ∨ name ∈ unshortened.map withCapital := by
  rw [← uncapitalize_mem_unshortened_iff, mem_unshortened_iff]
  unfold parameter
  dsimp only
  cases hlookup : shortForms.lookup (String.ofList (uncapitalize name.toList)) with
  | none => simp
  | some short => simpa using shortForms_not_reserved hlookup

/-- The name `Go` is not shortened, and the language reserves `go`. -/
theorem parameter_go_reserved : parameter "Go" = "go" ∧ "go" ∈ reservedWords := by
  decide

end Naming

end EntityModel
