import EntityModel.Resolution

/-!
# Columns that look alike

Type tables and overrides do not read the whole of a column. Columns that agree on what these read are alike
(`Column.Alike`), and get the same answer from a table (`Alike.lookup_eq`) and the same rule from overrides
(`Alike.find?_eq`). A report also names the column, and the custom types are asked with the type's own spelling:
where both agree too, the columns come out of a table, the custom types and the placeholder with the same type and
the same report (`Alike.resolve_eq`).
-/

namespace EntityModel

/-- Two columns that type tables and overrides cannot tell apart. Of the type only the spelling counts under which
an engine looks it up, and of the nulls only whether the column as a whole can be null. -/
structure Column.Alike (engine : Engine) (a b : Column) : Prop where
  typeName : engine.normalizeTypeName a.dataType = engine.normalizeTypeName b.dataType
  notNull : a.effectiveNotNull = b.effectiveNotNull
  sign : a.unsigned = b.unsigned
  width : a.length = b.length
  matchName : a.matchName = b.matchName
  table : a.table = b.table

namespace Column.Alike

variable {engine : Engine} {a b : Column}

theorem lookup_eq {table : TypeTable} (h : Alike table.engine a b) : table.lookup a = table.lookup b := by
  unfold TypeTable.lookup
  rw [h.typeName, h.notNull, h.sign, h.width]

theorem isMatch_eq (h : Alike engine a b) (selector : ColumnSelector) (dataType defaultSchema : String) :
    selector.isMatch a dataType defaultSchema = selector.isMatch b dataType defaultSchema := by
  unfold ColumnSelector.isMatch
  rw [h.matchName, h.table, h.notNull, h.sign]

theorem find?_eq (h : Alike engine a b) (rules : List Override) (defaultSchema : String) :
    Override.find? rules engine defaultSchema a = Override.find? rules engine defaultSchema b := by
  have hmatch (rule : Override) (dataType : String) :
      rule.isMatch a dataType defaultSchema = rule.isMatch b dataType defaultSchema :=
    h.isMatch_eq rule.selector dataType defaultSchema
  unfold Override.find?
  simp only [h.typeName, hmatch]

theorem resolve_eq {table : TypeTable} (h : Alike table.engine a b) (name : a.name = b.name)
    (type : a.type = b.type) (custom : CustomTypes) : table.resolve custom a = table.resolve custom b := by
  have hfind (notNull : Bool) : custom.find? a notNull = custom.find? b notNull := by
    unfold CustomTypes.find?
    rw [type]
  have hreport (kind : TypeGap) : table.report kind a = table.report kind b := by
    unfold TypeTable.report Column.tableName Column.dataType
    rw [h.table, name, type]
  have hgap (kind : TypeGap) : table.resolveGap custom kind a = table.resolveGap custom kind b := by
    unfold TypeTable.resolveGap
    rw [h.notNull, hfind, hreport]
  unfold TypeTable.resolve
  rw [h.lookup_eq, hgap, hgap]

end Column.Alike

end EntityModel
