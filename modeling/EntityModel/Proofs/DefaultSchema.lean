import EntityModel.Proofs.OverrideOrder
import EntityModel.Proofs.Wildcards

/-!
# Specifiers without a schema

A specifier of two parts names a table and a column, and takes the default schema for the table. The default
schema is then compared like any other part of a specifier, as a pattern, so a wildcard in it counts as one.

Main statement: the rule of such a specifier applies to the columns of matching tables whose schema is left open
or matched by the default schema, and it stays within the default schema exactly if there is no wildcard in its
name (`ofSpec_stays_within_default_iff`).
-/

namespace EntityModel

open Text

/-- The rule applies only to columns of tables in the default schema: these say so, or leave their schema open. -/
def Override.StaysWithin (rule : Override) (defaultSchema : String) : Prop :=
  ∀ (column : Column) (dataType : String), rule.isMatch column dataType defaultSchema = true →
    ∃ t, column.table = some t ∧ (t.schema = "" ∨ t.schema = defaultSchema)

/-- What the rule of a specifier of two parts applies to. -/
def Override.AppliesToTwoParts (rule : Override) (table column defaultSchema : String) : Prop :=
  ∀ (c : Column) (dataType : String), rule.isMatch c dataType defaultSchema = true ↔
    ∃ t, c.table = some t ∧ (t.schema = "" ∨ Pattern.isMatch ⟨defaultSchema⟩ t.schema = true) ∧
      Pattern.isMatch ⟨table⟩ t.name = true ∧ Pattern.isMatch ⟨column⟩ c.matchName = true

/-! ## The rule of a specifier of two parts -/

/-- A specifier of two parts takes the default schema. -/
theorem named?_twoParts {table column : String} (ht : '.' ∉ table.toList) (hc : '.' ∉ column.toList)
    (defaultSchema : String) :
    ColumnSelector.named? (table ++ "." ++ column) defaultSchema =
      some (.named ⟨none, ⟨defaultSchema⟩, ⟨table⟩⟩ ⟨column⟩) := by
  have hchars : (table ++ "." ++ column).toList = table.toList ++ '.' :: column.toList := by simp
  unfold ColumnSelector.named?
  rw [hchars, splitOn_append ht, splitOn_of_not_mem hc]
  simp

variable {lib : Libraries}

theorem selector_of_twoParts {spec : OverrideSpec} {engine : Engine} {defaultSchema table column : String}
    {rule : Override} (parts : spec.column = table ++ "." ++ column) (ht : '.' ∉ table.toList)
    (hc : '.' ∉ column.toList) (parsed : Override.ofSpec lib spec engine defaultSchema = .ok rule) :
    rule.selector = .named ⟨none, ⟨defaultSchema⟩, ⟨table⟩⟩ ⟨column⟩ := by
  have hne : spec.column ≠ "" := by
    rw [parts]
    intro he
    simpa using congrArg String.toList he
  have hselector := (ofSpec_eq_ok_iff.1 parsed).1
  unfold ColumnSelector.ofSpec at hselector
  rw [if_neg hne] at hselector
  split at hselector
  · have hnamed := named?_of_ofColumnSpec hselector
    rw [parts, named?_twoParts ht hc] at hnamed
    exact (Option.some.inj hnamed).symm
  · cases hselector

/-- A table that leaves its schema open lies in the default schema, which its own pattern matches. -/
theorem isMatch_schemaOr_iff (t : Identifier) (defaultSchema : String) :
    Pattern.isMatch ⟨defaultSchema⟩ (t.schemaOr defaultSchema) = true ↔
      t.schema = "" ∨ Pattern.isMatch ⟨defaultSchema⟩ t.schema = true := by
  unfold Identifier.schemaOr
  by_cases h : t.schema = ""
  · simp [h, Pattern.isMatch_source ⟨defaultSchema⟩]
  · simp [h]

theorem isMatch_named_iff (table column : Pattern) (defaultSchema dataType : String) (c : Column) :
    (ColumnSelector.named ⟨none, ⟨defaultSchema⟩, table⟩ column).isMatch c dataType defaultSchema = true ↔
      ∃ t, c.table = some t ∧ (t.schema = "" ∨ Pattern.isMatch ⟨defaultSchema⟩ t.schema = true) ∧
        table.isMatch t.name = true ∧ column.isMatch c.matchName = true := by
  unfold ColumnSelector.isMatch
  cases ht : c.table with
  | none => simp
  | some t =>
    simp only [TablePattern.isMatch, Bool.and_eq_true, Bool.true_and, isMatch_schemaOr_iff,
      Option.some.injEq, exists_eq_left']
    tauto

theorem appliesToTwoParts {spec : OverrideSpec} {engine : Engine} {defaultSchema table column : String}
    {rule : Override} (parts : spec.column = table ++ "." ++ column) (ht : '.' ∉ table.toList)
    (hc : '.' ∉ column.toList) (parsed : Override.ofSpec lib spec engine defaultSchema = .ok rule) :
    rule.AppliesToTwoParts table column defaultSchema := by
  intro c dataType
  rw [Override.isMatch, selector_of_twoParts parts ht hc parsed]
  exact isMatch_named_iff ⟨table⟩ ⟨column⟩ defaultSchema dataType c

/-! ## Default schemas with and without wildcards -/

variable {rule : Override} {table column defaultSchema : String}

theorem staysWithin_of_literal (applies : rule.AppliesToTwoParts table column defaultSchema)
    (literal : (Pattern.mk defaultSchema).IsLiteral) : rule.StaysWithin defaultSchema := by
  intro c dataType h
  obtain ⟨t, ht, hschema, -, -⟩ := (applies c dataType).1 h
  rw [literal.isMatch_iff] at hschema
  exact ⟨t, ht, hschema⟩

/-- With a wildcard the default schema matches another one, and the rule applies to a column there, in a table
and with a name as they are written in the specifier. -/
theorem not_staysWithin_of_wildcard (applies : rule.AppliesToTwoParts table column defaultSchema)
    (wildcard : ¬ (Pattern.mk defaultSchema).IsLiteral) : ¬ rule.StaysWithin defaultSchema := by
  intro within
  obtain ⟨schema, hmatch, hother, hnonempty⟩ := Pattern.exists_isMatch_ne wildcard
  have hcolumn : rule.isMatch { name := column, table := some { schema, name := table } } "" defaultSchema =
      true := by
    refine (applies _ _).2 ⟨_, rfl, .inr hmatch, Pattern.isMatch_source ⟨table⟩, ?_⟩
    simp only [Column.matchName, if_true]
    exact Pattern.isMatch_source ⟨column⟩
  obtain ⟨t, ht, hschema⟩ := within _ _ hcolumn
  cases ht
  exact hschema.elim hnonempty hother

/-- **Which specifiers stay within the default schema.** The rule of a specifier of two parts applies to the
columns that match in name, of tables that match in name, in the schemas that the default schema matches. So it
stays within the default schema exactly if there is no wildcard in the name of this schema. -/
theorem ofSpec_stays_within_default_iff {spec : OverrideSpec} {engine : Engine}
    (parts : spec.column = table ++ "." ++ column) (whole : '.' ∉ table.toList ∧ '.' ∉ column.toList)
    (parsed : Override.ofSpec lib spec engine defaultSchema = .ok rule) :
    rule.AppliesToTwoParts table column defaultSchema ∧
      (rule.StaysWithin defaultSchema ↔ '*' ∉ defaultSchema.toList ∧ '?' ∉ defaultSchema.toList) := by
  have applies : rule.AppliesToTwoParts table column defaultSchema :=
    appliesToTwoParts parts whole.1 whole.2 parsed
  refine ⟨applies, fun within => ?_, staysWithin_of_literal applies⟩
  by_contra wildcard
  exact not_staysWithin_of_wildcard applies wildcard within

/-- A type for the creation times of orders. -/
def createdSpec : OverrideSpec where
  column := "orders.created_at"
  type := .compact "time.Time"

/-- The rule of this entry where `schema` is the default one. -/
def createdRule (schema : String) : Override where
  selector := .named ⟨none, ⟨schema⟩, ⟨"orders"⟩⟩ ⟨"created_at"⟩
  type := .qualified "time" "Time"

/-- The creation time of orders in a schema. -/
def orderCreated (schema : String) : Column where
  name := "created_at"
  table := some { schema, name := "orders" }

/-- In a default schema without wildcards, orders of other schemas are left alone. -/
theorem ofSpec_stays_within_default_iff_created :
    Override.ofSpec .standard createdSpec .postgresql "shop.eu" = .ok (createdRule "shop.eu") ∧
      (createdRule "shop.eu").isMatch (orderCreated "") "timestamp" "shop.eu" = true ∧
      (createdRule "shop.eu").isMatch (orderCreated "shop.eu") "timestamp" "shop.eu" = true ∧
      (createdRule "shop.eu").StaysWithin "shop.eu" := by
  have parsed : Override.ofSpec .standard createdSpec .postgresql "shop.eu" = .ok (createdRule "shop.eu") := by
    decide
  have parts : createdSpec.column = "orders" ++ "." ++ "created_at" := rfl
  obtain ⟨applies, within⟩ := ofSpec_stays_within_default_iff parts (by decide) parsed
  refine ⟨parsed, (applies _ _).2 ⟨_, rfl, .inl rfl, ?_⟩, (applies _ _).2 ⟨_, rfl, .inr ?_, ?_⟩, within.2 ?_⟩
  all_goals decide

/-- The default schema `tenant_?` takes the orders of `tenant_1` in. -/
theorem ofSpec_leaves_default_schema :
    Override.ofSpec .standard createdSpec .postgresql "tenant_?" = .ok (createdRule "tenant_?") ∧
      (createdRule "tenant_?").isMatch (orderCreated "tenant_1") "timestamp" "tenant_?" = true ∧
      ¬ (createdRule "tenant_?").StaysWithin "tenant_?" := by
  have applies : (createdRule "tenant_?").isMatch (orderCreated "tenant_1") "timestamp" "tenant_?" = true := by
    decide
  refine ⟨by decide, applies, fun within => ?_⟩
  obtain ⟨t, ht, hschema⟩ := within _ _ applies
  cases ht
  exact absurd hschema (by decide)

end EntityModel
