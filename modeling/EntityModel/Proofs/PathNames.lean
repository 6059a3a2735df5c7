import EntityModel.PackagePath
import Mathlib.Data.List.Infix

/-!
# Paths that imply no package name

The name of a package is what is left of a segment of its path without a version behind it, a dot and what
follows, and the decorations `go-` and `-go`. Nothing has to be left: a path may end in a slash, its segment may
start with the dot, or be nothing but decorations. `Nameless` lists what the segment can be then, and these are
all the paths without a name (`name_eq_empty_iff`).
-/

namespace EntityModel.PackagePath

open Text

/-- The segment that names the package, up to its first dot. -/
def stem (path : List Char) : List Char := (namingSegment path).takeWhile (· ≠ '.')

/-- The stems that are nothing but decorations. -/
def bareStems : List (List Char) := [[], ['g', 'o', '-'], ['-', 'g', 'o'], ['g', 'o', '-', '-', 'g', 'o']]

/-- The path implies no package name. -/
def Nameless (path : List Char) : Prop := stem path ∈ bareStems

instance (path : List Char) : Decidable (Nameless path) := inferInstanceAs (Decidable (_ ∈ _))

theorem dropLeadingGo_cases (segment : List Char) :
    segment = ['g', 'o', '-'] ++ dropLeadingGo segment ∨ dropLeadingGo segment = segment := by
  unfold dropLeadingGo
  cases h : ['g', 'o', '-'].isPrefixOf? segment with
  | some rest => exact .inl (List.isPrefixOf?_eq_some_iff_append_eq.1 h).symm
  | none => exact .inr rfl

theorem dropTrailingGo_cases (segment : List Char) :
    segment = dropTrailingGo segment ++ ['-', 'g', 'o'] ∨ dropTrailingGo segment = segment := by
  unfold dropTrailingGo
  cases h : ['-', 'g', 'o'].isSuffixOf? segment with
  | some rest => exact .inl (List.isSuffixOf?_eq_some_iff_append_eq.1 h).symm
  | none => exact .inr rfl

theorem nameChars_eq_nil_iff {path : List Char} : nameChars path = [] ↔ Nameless path := by
  have hname : nameChars path = dropTrailingGo (dropLeadingGo (stem path)) := rfl
  unfold Nameless
  rw [hname]
  constructor
  · intro h
    -- What is left without the first decoration is nothing, or the second decoration.
    have hrest : dropLeadingGo (stem path) = [] ∨ dropLeadingGo (stem path) = ['-', 'g', 'o'] := by
      rcases dropTrailingGo_cases (dropLeadingGo (stem path)) with ht | ht
      · rw [h] at ht
        exact .inr ht
      · exact .inl (ht.symm.trans h)
    rcases dropLeadingGo_cases (stem path) with hl | hl
    · rcases hrest with hr | hr
      · rw [hl, hr]
        decide
      · rw [hl, hr]
        decide
    · rcases hrest with hr | hr
      · rw [← hl, hr]
        decide
      · rw [← hl, hr]
        decide
  · have bare : ∀ s ∈ bareStems, dropTrailingGo (dropLeadingGo s) = [] := by decide
    exact bare (stem path)

theorem name_eq_empty_iff {path : String} : name path = "" ↔ Nameless path.toList := by
  rw [← nameChars_eq_nil_iff, name, ← String.toList_inj, String.toList_ofList]
  rfl

end EntityModel.PackagePath
