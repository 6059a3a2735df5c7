import EntityModel.Proofs.Settlement
import Mathlib.Data.List.Forall2

/-!
# Which override counts for a column

The entries of the project come before those of the run, and in that one order the first entry that names
columns and applies decides; only if there is none the first entry for a type that applies. `Decides`
states this about the entries as they stand in the documents.

Main statement: the entry that decides gives the column its type, what the project says about columns by
name cannot be changed by more entries in the run, and an entry of the run that names columns comes before
all entries for types (`override?_follows_entries`).
-/

namespace EntityModel

/-! ## The first item of a list with a property -/

/-- An item with a property that no item before it has. -/
def IsFirst {α : Type} (p : α → Prop) (xs : List α) (x : α) : Prop :=
  ∃ before after, xs = before ++ x :: after ∧ p x ∧ ∀ y ∈ before, ¬ p y

theorem isFirst_iff_find? {α : Type} {p : α → Prop} [DecidablePred p] {xs : List α} {x : α} :
    IsFirst p xs x ↔ xs.find? (fun y => decide (p y)) = some x := by
  rw [List.find?_eq_some_iff_append]
  constructor
  · rintro ⟨before, after, rfl, hx, hb⟩
    exact ⟨by simpa using hx, before, after, rfl, by simpa using hb⟩
  · rintro ⟨hx, before, after, rfl, hb⟩
    exact ⟨before, after, rfl, by simpa using hx, by simpa using hb⟩

/-- Searching the items of one kind and then the others is searching the list twice. -/
theorem find?_filter_append {α : Type} (p q : α → Bool) (xs : List α) :
    (xs.filter p ++ xs.filter (!p ·)).find? q =
      (xs.find? fun x => p x && q x).or (xs.find? fun x => !p x && q x) := by
  rw [List.find?_append, List.find?_filter, List.find?_filter]
  simp only [Bool.decide_and, Bool.decide_eq_true]

/-- Lists whose items correspond have corresponding first items, for properties that correspond. -/
theorem rel_find? {α β : Type} {R : α → β → Prop} {p : α → Bool} {q : β → Bool}
    (hpq : ∀ x y, R x y → p x = q y) {xs : List α} {ys : List β} (h : List.Forall₂ R xs ys) :
    Option.Rel R (xs.find? p) (ys.find? q) := by
  induction h with
  | nil => exact .none
  | @cons x y xs ys hxy _ ih =>
    rw [List.find?_cons, List.find?_cons, hpq x y hxy]
    cases q y with
    | true => exact .some hxy
    | false => exact ih

/-! ## Entries and their rules -/

variable {lib : Libraries}

namespace OverrideSpec

/-- The entry names columns; otherwise it is for the columns of a type. -/
def IsNamed (spec : OverrideSpec) : Prop := spec.column ≠ ""

/-- The rule of the entry applies to a column. -/
def Applies (lib : Libraries) (o : Options) (column : Column) (spec : OverrideSpec) : Prop :=
  ∃ rule, Override.ofSpec lib spec o.engine o.defaultSchema = .ok rule ∧
    rule.isMatch column (o.engine.normalizeTypeName column.dataType) o.defaultSchema = true

end OverrideSpec

/-- The entry that decides about a column, if one does. -/
inductive Decides (lib : Libraries) (o : Options) (column : Column) (entries : List OverrideSpec) :
    Option OverrideSpec → Prop where
  | named {spec : OverrideSpec}
      (first : IsFirst (fun s => s.IsNamed ∧ s.Applies lib o column) entries spec) :
    Decides lib o column entries (some spec)
  | typed {spec : OverrideSpec}
      (noNamed : ∀ s ∈ entries, s.IsNamed → ¬ s.Applies lib o column)
      (first : IsFirst (fun s => ¬ s.IsNamed ∧ s.Applies lib o column) entries spec) :
    Decides lib o column entries (some spec)
  | none (nothing : ∀ s ∈ entries, ¬ s.Applies lib o column) : Decides lib o column entries none

theorem ofSpec_eq_ok_iff {spec : OverrideSpec} {engine : Engine} {defaultSchema : String}
    {rule : Override} :
    Override.ofSpec lib spec engine defaultSchema = .ok rule ↔
      ColumnSelector.ofSpec lib spec engine defaultSchema = .ok rule.selector ∧
        spec.type.type = .ok rule.type := by
  constructor
  · intro h
    obtain ⟨selector, hs, h⟩ := bind_eq_ok_iff.1 h
    obtain ⟨type, ht, h⟩ := bind_eq_ok_iff.1 h
    cases h
    exact ⟨hs, ht⟩
  · rintro ⟨hs, ht⟩
    exact bind_eq_ok_iff.2 ⟨_, hs, bind_eq_ok_iff.2 ⟨_, ht, rfl⟩⟩

theorem named?_of_ofColumnSpec {spec defaultSchema : String} {selector : ColumnSelector}
    (h : ColumnSelector.ofColumnSpec lib spec defaultSchema = .ok selector) :
    ColumnSelector.named? spec defaultSchema = some selector := by
  unfold ColumnSelector.ofColumnSpec at h
  split at h
  · cases h
  · next selected hnamed =>
    obtain ⟨_, -, h⟩ := bind_eq_ok_iff.1 h
    cases h
    exact hnamed

/-- A dotted specifier gives a selection by name. -/
theorem exists_eq_named_of_named? {spec defaultSchema : String} {selector : ColumnSelector}
    (h : ColumnSelector.named? spec defaultSchema = some selector) :
    ∃ table column, selector = .named table column := by
  unfold ColumnSelector.named? at h
  split at h
  · cases h; exact ⟨_, _, rfl⟩
  · cases h; exact ⟨_, _, rfl⟩
  · cases h; exact ⟨_, _, rfl⟩
  · cases h

theorem isNamed_of_ofSpec {spec : OverrideSpec} {engine : Engine} {defaultSchema : String}
    {rule : Override} (h : Override.ofSpec lib spec engine defaultSchema = .ok rule) :
    rule.isNamed = true ↔ spec.IsNamed := by
  have hs := (ofSpec_eq_ok_iff.1 h).1
  unfold ColumnSelector.ofSpec at hs
  unfold OverrideSpec.IsNamed Override.isNamed
  by_cases hc : spec.column = ""
  · rw [if_pos hc] at hs
    split at hs
    · cases hs
    · injection hs with hs
      simp [← hs, hc]
  · rw [if_neg hc] at hs
    split at hs
    · obtain ⟨table, column, hn⟩ := exists_eq_named_of_named? (named?_of_ofColumnSpec hs)
      simp [hn, hc]
    · cases hs

theorem applies_iff_of_ofSpec {o : Options} {column : Column} {spec : OverrideSpec} {rule : Override}
    (h : Override.ofSpec lib spec o.engine o.defaultSchema = .ok rule) :
    spec.Applies lib o column ↔
      rule.isMatch column (o.engine.normalizeTypeName column.dataType) o.defaultSchema = true := by
  constructor
  · rintro ⟨rule', h', hm⟩
    rw [h] at h'
    cases h'
    exact hm
  · intro hm
    exact ⟨rule, h, hm⟩

/-- The rules of entries are determined by the entries. -/
theorem RulesOf.unique {engine : Engine} {defaultSchema : String} {entries : List OverrideSpec}
    {rules rules' : List Override} (h : RulesOf lib engine defaultSchema entries rules)
    (h' : RulesOf lib engine defaultSchema entries rules') : rules = rules' :=
  Except.ok.inj ((mapM_eq_ok_iff.2 h).symm.trans (mapM_eq_ok_iff.2 h'))

/-! ## The entry that decides -/

section

variable {o : Options} {column : Column}

open Classical in
/-- The entry that decides is found by two searches, the second one only if the first fails. -/
theorem decides_iff {entries : List OverrideSpec} {decision : Option OverrideSpec} :
    Decides lib o column entries decision ↔
      decision = (entries.find? fun s => decide (s.IsNamed ∧ s.Applies lib o column)).or
        (entries.find? fun s => decide (¬ s.IsNamed ∧ s.Applies lib o column)) := by
  constructor
  · intro h
    cases h with
    | named first => rw [isFirst_iff_find?.1 first, Option.some_or]
    | typed noNamed first =>
      have hn : entries.find? (fun s => decide (s.IsNamed ∧ s.Applies lib o column)) = none := by
        simpa using noNamed
      rw [hn, Option.none_or, isFirst_iff_find?.1 first]
    | none nothing =>
      have hn : entries.find? (fun s => decide (s.IsNamed ∧ s.Applies lib o column)) = none :=
        List.find?_eq_none.2 fun s hs => by simp [nothing s hs]
      have ht : entries.find? (fun s => decide (¬ s.IsNamed ∧ s.Applies lib o column)) = none :=
        List.find?_eq_none.2 fun s hs => by simp [nothing s hs]
      rw [hn, ht, Option.none_or]
  · rintro rfl
    cases hn : entries.find? (fun s => decide (s.IsNamed ∧ s.Applies lib o column)) with
    | some spec => exact .named (isFirst_iff_find?.2 hn)
    | none =>
      have noNamed : ∀ s ∈ entries, s.IsNamed → ¬ s.Applies lib o column := by
        simpa using hn
      cases ht : entries.find? (fun s => decide (¬ s.IsNamed ∧ s.Applies lib o column)) with
      | some spec => exact .typed noNamed (isFirst_iff_find?.2 ht)
      | none =>
        have noTyped : ∀ s ∈ entries, ¬ s.IsNamed → ¬ s.Applies lib o column := by
          simpa using ht
        refine .none fun s hs ha => ?_
        by_cases h : s.IsNamed
        · exact noNamed s hs h ha
        · exact noTyped s hs h ha

/-- The rule that counts is found by the same two searches among the rules. -/
theorem override?_eq_or (o : Options) (column : Column) :
    o.override? column =
      (o.overrides.find? fun r => r.isNamed &&
        r.isMatch column (o.engine.normalizeTypeName column.dataType) o.defaultSchema).or
      (o.overrides.find? fun r => !r.isNamed &&
        r.isMatch column (o.engine.normalizeTypeName column.dataType) o.defaultSchema) :=
  find?_filter_append _ _ _

theorem Option.rel_or {α β : Type} {R : α → β → Prop} {a a' : Option α} {b b' : Option β}
    (h : Option.Rel R a b) (h' : Option.Rel R a' b') : Option.Rel R (a.or a') (b.or b') := by
  cases h with
  | some h => exact .some h
  | none => exact h'

open Classical in
/-- The rule that counts is that of the entry that decides. -/
theorem rel_override? (column : Column) {entries : List OverrideSpec}
    (h : RulesOf lib o.engine o.defaultSchema entries o.overrides) :
    Option.Rel (fun spec rule => Override.ofSpec lib spec o.engine o.defaultSchema = .ok rule)
      ((entries.find? fun s => decide (s.IsNamed ∧ s.Applies lib o column)).or
        (entries.find? fun s => decide (¬ s.IsNamed ∧ s.Applies lib o column)))
      (o.override? column) := by
  rw [override?_eq_or]
  refine Option.rel_or (rel_find? ?_ h) (rel_find? ?_ h)
  · intro spec rule hr
    rw [Bool.eq_iff_iff]
    simp [isNamed_of_ofSpec hr, applies_iff_of_ofSpec hr]
  · intro spec rule hr
    rw [Bool.eq_iff_iff]
    simp [← isNamed_of_ofSpec hr, applies_iff_of_ofSpec hr]

/-- One entry decides, or none, and it gives the column its type. -/
theorem exists_decision {entries : List OverrideSpec}
    (h : RulesOf lib o.engine o.defaultSchema entries o.overrides) :
    ∃ decision, (∀ x, Decides lib o column entries x ↔ x = decision) ∧
      (o.override? column).map (fun rule => .ok rule.type) = decision.map (·.type.type) := by
  classical
  obtain ⟨decision, hd⟩ : ∃ decision, ∀ x, Decides lib o column entries x ↔ x = decision :=
    ⟨_, fun x => decides_iff⟩
  refine ⟨decision, hd, ?_⟩
  have hr := rel_override? column h
  rw [← decides_iff.1 ((hd decision).2 rfl)] at hr
  generalize o.override? column = counts at hr ⊢
  cases hr with
  | none => rfl
  | some hr => simp [(ofSpec_eq_ok_iff.1 hr).2]

/-- A rule by name that applies comes before every rule by type. -/
theorem isNamed_of_override? {spec : OverrideSpec} {entries : List OverrideSpec}
    (h : RulesOf lib o.engine o.defaultSchema entries o.overrides) (hm : spec ∈ entries)
    (hn : spec.IsNamed) (ha : spec.Applies lib o column) :
    ∃ rule, o.override? column = some rule ∧ rule.isNamed = true := by
  obtain ⟨rule, hr, happ⟩ := ha
  obtain ⟨rule', hr', hm'⟩ : ∃ r ∈ o.overrides, Override.ofSpec lib spec o.engine o.defaultSchema = .ok r := by
    obtain ⟨i, hi, rfl⟩ := List.mem_iff_getElem.1 hm
    have hlen := h.length_eq
    exact ⟨o.overrides[i], List.getElem_mem _, (List.forall₂_iff_get.1 h).2 i hi (hlen ▸ hi)⟩
  rw [hr] at hm'
  cases hm'
  cases hf : o.overrides.find? (fun r => r.isNamed &&
      r.isMatch column (o.engine.normalizeTypeName column.dataType) o.defaultSchema) with
  | some first =>
    refine ⟨first, by rw [override?_eq_or, hf, Option.some_or], ?_⟩
    have := List.find?_some hf
    simp at this
    exact this.1
  | none =>
    have := List.find?_eq_none.1 hf rule hr'
    simp [(isNamed_of_ofSpec hr).2 hn, happ] at this

/-- What follows the entries among which one by name applies has no say, in any accepted options with the
same engine and default schema. -/
theorem override?_eq_of_isNamed {o' : Options} {spec : OverrideSpec}
    {entries rest rest' : List OverrideSpec} (he : o'.engine = o.engine)
    (hd : o'.defaultSchema = o.defaultSchema)
    (h : RulesOf lib o.engine o.defaultSchema (entries ++ rest) o.overrides)
    (h' : RulesOf lib o'.engine o'.defaultSchema (entries ++ rest') o'.overrides)
    (hm : spec ∈ entries) (hn : spec.IsNamed) (ha : spec.Applies lib o column) :
    o'.override? column = o.override? column := by
  classical
  have happ : OverrideSpec.Applies lib o' column = OverrideSpec.Applies lib o column := by
    funext s
    simp only [OverrideSpec.Applies, he, hd]
  -- The search among the entries succeeds, so it does not get to what follows.
  obtain ⟨first, hf⟩ : ∃ first,
      entries.find? (fun s => decide (s.IsNamed ∧ s.Applies lib o column)) = some first := by
    rw [← Option.isSome_iff_exists, List.find?_isSome]
    exact ⟨spec, hm, by simpa using ⟨hn, ha⟩⟩
  have hr := rel_override? column h
  have hr' := rel_override? column h'
  rw [List.find?_append, hf, Option.some_or, Option.some_or] at hr
  rw [happ, List.find?_append, hf, Option.some_or, Option.some_or, he, hd] at hr'
  generalize o.override? column = r at hr ⊢
  generalize o'.override? column = r' at hr' ⊢
  cases hr with
  | some hr =>
    cases hr' with
    | some hr' => rw [Except.ok.inj (hr'.symm.trans hr)]

end

/-! ## The order of the entries of two documents -/

/-- How the entries of the project `g` and of the run `d` decide about a column under the options `o` that
the documents settle to. -/
structure EntryOrder (lib : Libraries) (engine : Engine) (fallbackSchema : String) (project : Json)
    (d : OptionsDocument) (g : GlobalOptionsDocument) (o : Options) (column : Column) : Prop where
  /-- One entry decides, or none, and what it states is the type of the rule that counts. -/
  decided : ∃ decision, (∀ x, Decides lib o column (g.overrides ++ d.overrides) x ↔ x = decision) ∧
    (o.override? column).map (fun rule => .ok rule.type) = decision.map (·.type.type)
  /-- What the project says about columns by name stands, whatever entries are appended in the run. -/
  projectFirst : ∀ spec ∈ g.overrides, spec.IsNamed → spec.Applies lib o column →
    ∀ more run' o', Options.readRun run' = .ok { d with overrides := d.overrides ++ more } →
      Options.ofDocumentsIn lib engine fallbackSchema run' project = .ok o' →
        o'.override? column = o.override? column
  /-- What the run says about columns by name comes before all rules by type. -/
  namesFirst : ∀ spec ∈ d.overrides, spec.IsNamed → spec.Applies lib o column →
    ∃ rule, o.override? column = some rule ∧ rule.isNamed = true

/-- **Names before types, the project before the run.** The documents of accepted options can be read, and
their entries decide about every column in this order. -/
theorem override?_follows_entries {engine : Engine} {fallbackSchema : String} {run project : Json}
    {o : Options} (accepted : Options.ofDocumentsIn lib engine fallbackSchema run project = .ok o)
    (column : Column) :
    ∃ d g, Options.readRun run = .ok d ∧ Options.readProject project = .ok g ∧
      EntryOrder lib engine fallbackSchema project d g o column := by
  obtain ⟨d, g, hrun, hproject, hs, -⟩ := Options.ofDocumentsIn_eq_ok_iff.1 accepted
  have hrules : RulesOf lib o.engine o.defaultSchema (g.overrides ++ d.overrides) o.overrides :=
    hs.sameEngine ▸ hs.overrides
  refine ⟨d, g, hrun, hproject, exists_decision hrules, ?_, ?_⟩
  · intro spec hm hn ha more run' o' hrun' accepted'
    obtain ⟨d', g', hrun'', hproject'', hs', -⟩ := Options.ofDocumentsIn_eq_ok_iff.1 accepted'
    rw [hrun'] at hrun''
    rw [hproject] at hproject''
    cases hrun''
    cases hproject''
    have hrules' : RulesOf lib o'.engine o'.defaultSchema
        (g.overrides ++ (d.overrides ++ more)) o'.overrides := hs'.sameEngine ▸ hs'.overrides
    refine override?_eq_of_isNamed ?_ ?_ hrules hrules' hm hn ha
    · rw [hs.sameEngine, hs'.sameEngine]
    · rw [hs.defaultSchema, hs'.defaultSchema]
  · intro spec hm hn ha
    exact isNamed_of_override? hrules (List.mem_append_right _ hm) hn ha

/-- A project that has a type for all texts. -/
def textProject : Json :=
  .object [("overrides", .array
    [.object [("db_type", .string "text"), ("go_type", .string "example.com/project.Text")]])]

/-- A run that has a type for one column by name. -/
def emailRun : Json :=
  .object [("package", .string "db"), ("overrides", .array
    [.object [("column", .string "users.email"), ("go_type", .string "example.com/run.Email")]])]

/-- A column that both speak of. -/
def emailColumn : Column where
  name := "email"
  notNull := true
  table := some { name := "users" }
  type := { name := "text" }

/-- The rule of the run counts for its column, although the project's rule for texts comes first. -/
theorem override?_follows_entries_email :
    ∃ o, Options.ofDocumentsIn .standard .postgresql "public" emailRun textProject = .ok o ∧
      (∃ d g, Options.readRun emailRun = .ok d ∧ Options.readProject textProject = .ok g ∧
        EntryOrder .standard .postgresql "public" textProject d g o emailColumn) ∧
      (o.override? emailColumn).map (·.type.base) = some "Email" :=
  ⟨_, rfl, override?_follows_entries rfl emailColumn, rfl⟩

end EntityModel
