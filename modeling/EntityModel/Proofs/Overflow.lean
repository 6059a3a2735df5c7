import EntityModel.Generation.Basic
import EntityModel.Proofs.SourceOrder

/-!
# Dimensions that overflow

The dimensions of a column are added to those of the type of its source in 32-bit words. `resolve?` stops where a sum
is not a word; `resolve` goes on with what is left of it. So `resolve?` is `resolve` where the sum is below the size of
a word, and nothing elsewhere (`Answers.resolve?_eq`), and a catalog has a generation exactly if no column of it
overflows (`ofCatalog?_eq_none_iff`).
-/

namespace EntityModel

/-! ## The steps that add dimensions -/

namespace Column

theorem wrapSlice?_eq (column : Column) (t : TargetType) :
    column.wrapSlice? t =
      if t.depth.toNat + (if column.isSlice ∧ column.isArray = false then 1 else 0) < UInt32.size then
        some (column.wrapSlice t)
      else none := by
  have hone : (1 : UInt32).toNat = 1 := rfl
  unfold wrapSlice? wrapSlice
  by_cases hs : column.isSlice ∧ column.isArray = false
  · have hb : (column.isSlice && !column.isArray) = true := by simpa using hs
    rw [if_pos hb, if_pos hb, if_pos hs, TargetType.slice?, TargetType.hasRoom, hone]
    simp only [decide_eq_true_eq]
  · have hb : ¬ (column.isSlice && !column.isArray) = true := by simpa using hs
    rw [if_neg hb, if_neg hb, if_neg hs, Nat.add_zero, if_pos t.depth.toNat_lt_size]

/-- Array dimensions, import and slice dimension. A native array leaves nothing for the slice dimension to add. -/
theorem wrap?_eq (column : Column) (t : TargetType) (lookup : String → Option Import) :
    ((column.wrapArray? t).bind fun wrapped => column.wrapSlice? (wrapped.withDefaultOrigin lookup)) =
      if t.depth.toNat + (if column.isArray then max 1 column.arrayDims.toNat
          else if column.isSlice then 1 else 0) < UInt32.size then
        some (column.wrapSlice ((column.wrapArray t).withDefaultOrigin lookup))
      else none := by
  have hone : (1 : UInt32).toNat = 1 := rfl
  have hdims : (max column.arrayDims 1).toNat = max 1 column.arrayDims.toNat := by
    rw [toNat_max, hone, Nat.max_comm]
  unfold wrapArray?
  by_cases ha : column.isArray = true
  · have hslice (u : TargetType) : column.wrapSlice? u = some (column.wrapSlice u) := by
      simp [wrapSlice?, wrapSlice, ha]
    simp only [ha, Bool.true_and, if_true, TargetType.hasRoom, hdims, hslice]
    by_cases hroom : t.depth.toNat + max 1 column.arrayDims.toNat < UInt32.size
    · simp [hroom]
    · simp [hroom]
  · have hw : column.wrapArray t = t := by simp [wrapArray, ha]
    simp [ha, hw, wrapSlice?_eq]

/-- The dimensions of the column and of the type of its source are more than a word can count. -/
def Overflows (o : Options) (custom : CustomTypes) (column : Column) : Prop :=
  ∃ source, Answers o custom column source ∧
    UInt32.size ≤ source.type.depth.toNat + source.extraDepth column

end Column

/-! ## Resolution with checked additions -/

namespace Options

theorem resolve?_of_override {o : Options} {column : Column} {rule : Override}
    (h : o.override? column = some rule) (custom : CustomTypes) :
    o.resolve? custom column =
      if rule.type.depth.toNat + (if column.isSlice ∧ column.isArray = false then 1 else 0) < UInt32.size then
        some (o.resolve custom column)
      else none := by
  have hsteps : o.resolve? custom column =
      (column.wrapSlice? (rule.type.withDefaultOrigin (Import.default? o.driver))).map (⟨·, none⟩) := by
    simp only [resolve?, sourceType?, h, Option.bind_eq_bind, Option.bind_some]
    cases column.wrapSlice? (rule.type.withDefaultOrigin (Import.default? o.driver)) <;> rfl
  rw [hsteps, Column.wrapSlice?_eq, TargetType.depth_withDefaultOrigin, resolve_of_override h,
    apply_ite (Option.map _)]
  rfl

theorem resolve?_of_no_override {o : Options} {column : Column} (h : o.override? column = none)
    (custom : CustomTypes) :
    o.resolve? custom column =
      if (o.typeTable.resolve custom column).type.depth.toNat + (if column.isArray then max 1 column.arrayDims.toNat
          else if column.isSlice then 1 else 0) < UInt32.size then
        some (o.resolve custom column)
      else none := by
  have hsteps : o.resolve? custom column =
      ((column.wrapArray? (o.typeTable.resolve custom column).type).bind fun type =>
        column.wrapSlice? (type.withDefaultOrigin (Import.default? o.driver))).map
          (⟨·, (o.typeTable.resolve custom column).diagnostic⟩) := by
    simp only [resolve?, sourceType?, h]
    cases column.wrapArray? (o.typeTable.resolve custom column).type with
    | none => rfl
    | some type =>
      simp only [Option.map_some, Option.bind_eq_bind, Option.bind_some]
      cases column.wrapSlice? (type.withDefaultOrigin (Import.default? o.driver)) <;> rfl
  rw [hsteps, Column.wrap?_eq, resolve_of_no_override h, apply_ite (Option.map _)]
  rfl

end Options

namespace Answers

variable {o : Options} {custom : CustomTypes} {column : Column} {source : TypeSource}

/-- Resolution stops exactly where the dimensions of the column and of the type of its source overflow. -/
theorem resolve?_eq (h : Answers o custom column source) :
    o.resolve? custom column =
      if source.type.depth.toNat + source.extraDepth column < UInt32.size then some (o.resolve custom column)
      else none := by
  cases h with
  | override ho =>
    rw [Options.resolve?_of_override ho]
    rfl
  | @table type ho ht =>
    have hdepth : (o.typeTable.resolve custom column).type.depth = type.depth := by
      simp only [TypeTable.resolve, ht, TargetType.depth_withDefaultOrigin]
    rw [Options.resolve?_of_no_override ho, hdepth]
    rfl
  | custom ho hg hc =>
    rw [Options.resolve?_of_no_override ho, TypeTable.resolve_of_gap hg, TypeTable.resolveGap, hc]
    rfl
  | placeholder ho hg hc =>
    rw [Options.resolve?_of_no_override ho, TypeTable.resolve_of_gap hg, TypeTable.resolveGap, hc]
    rfl

theorem resolve?_eq_none_iff (h : Answers o custom column source) :
    o.resolve? custom column = none ↔ UInt32.size ≤ source.type.depth.toNat + source.extraDepth column := by
  rw [h.resolve?_eq, ← Nat.not_lt]
  split <;> simp [*]

theorem resolve?_eq_some_iff (h : Answers o custom column source) {r : Resolved} :
    o.resolve? custom column = some r ↔
      source.type.depth.toNat + source.extraDepth column < UInt32.size ∧ r = o.resolve custom column := by
  rw [h.resolve?_eq]
  split <;> simp [*, eq_comm]

theorem overflows_iff (h : Answers o custom column source) :
    column.Overflows o custom ↔ UInt32.size ≤ source.type.depth.toNat + source.extraDepth column := by
  constructor
  · rintro ⟨source', h', hsize⟩
    rwa [h'.unique h] at hsize
  · exact fun hsize => ⟨source, h, hsize⟩

end Answers

/-! ## Generations with checked additions -/

theorem Options.isSome_resolve?_iff (o : Options) (custom : CustomTypes) (column : Column) :
    (o.resolve? custom column).isSome = true ↔ ¬ column.Overflows o custom := by
  obtain ⟨source, h⟩ := exists_answers o custom column
  rw [h.overflows_iff, ← h.resolve?_eq_none_iff, Option.isSome_iff_ne_none]

namespace Generation

/-- The columns of a catalog whose dimensions overflow are in its way. -/
theorem ofCatalog?_cases (o : Options) (c : Catalog) :
    (ofCatalog? o c = some (ofCatalog o c) ∧
        ∀ t ∈ c.userTables, ∀ column ∈ t.columns, ¬ column.Overflows o (.ofCatalog o c)) ∨
      (ofCatalog? o c = none ∧
        ∃ t ∈ c.userTables, ∃ column ∈ t.columns, column.Overflows o (.ofCatalog o c)) := by
  have hall : (c.userTables.all fun t => t.columns.all fun column =>
      (o.resolve? (.ofCatalog o c) column).isSome) = true ↔
        ∀ t ∈ c.userTables, ∀ column ∈ t.columns, ¬ column.Overflows o (.ofCatalog o c) := by
    simp only [List.all_eq_true, Options.isSome_resolve?_iff]
  unfold ofCatalog?
  by_cases h : ∀ t ∈ c.userTables, ∀ column ∈ t.columns, ¬ column.Overflows o (.ofCatalog o c)
  · exact .inl ⟨if_pos (hall.2 h), h⟩
  · refine .inr ⟨if_neg (fun hroom => h (hall.1 hroom)), ?_⟩
    simpa only [not_forall, not_not, exists_prop] using h

end Generation

end EntityModel
