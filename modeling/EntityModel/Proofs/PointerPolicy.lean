import EntityModel.Proofs.Collector
import EntityModel.Proofs.OptionMembers
import EntityModel.Proofs.SourceOrder

/-!
# Where asking for pointers has no effect

A run can ask for pointers in place of wrappers for values that may be null. Only the newest pgx driver and
SQLite honour this. The type tables and the composite types each look at the option on their own; where none
of them honours it (`Options.IgnoresPointers`), two runs that differ in the option alone have one and the
same generation (`ofRequest_ignores_pointers`), with whatever overrides and declared types.
-/

namespace EntityModel

variable {lib : Libraries}

namespace Options

/-- Options with another answer to whether pointers are asked for. -/
def withPointers (o : Options) (b : Bool) : Options := { o with emitPointers := b }

/-- The engines and drivers without pointers for values that may be null. -/
def IgnoresPointers (o : Options) : Prop :=
  o.engine = .mysql ∨ o.engine = .postgresql ∧ o.driver ≠ .pgxV5

/-! ## Options that differ in pointers -/

variable {engine : Engine} {fallbackSchema : String} {d : OptionsDocument} {g : GlobalOptionsDocument}
  {o : Options}

/-- No option but this one is settled from what a document says about pointers. -/
theorem settled_withPointers (h : Settled lib engine fallbackSchema d g o) (b : Bool) :
    Settled lib engine fallbackSchema (d.withPointers b) g (o.withPointers b) :=
  { h with emitPointers := rfl }

theorem ofDocumentsIn_withPointers {run run' project : Json}
    (accepted : ofDocumentsIn lib engine fallbackSchema run project = .ok o) (hd : readRun run = .ok d)
    {b : Bool} (hd' : readRun run' = .ok (d.withPointers b)) :
    ofDocumentsIn lib engine fallbackSchema run' project = .ok (o.withPointers b) := by
  obtain ⟨d', g, hrun, hproject, hs, hv⟩ := ofDocumentsIn_eq_ok_iff.1 accepted
  cases hd.symm.trans hrun
  exact ofDocumentsIn_eq_ok_iff.2 ⟨_, g, hd', hproject, settled_withPointers hs b, hv⟩

theorem driver_ne_pgxV5 (hs : Settled lib engine fallbackSchema d g o) (h : o.IgnoresPointers) :
    o.driver ≠ .pgxV5 := by
  rcases h with hmysql | ⟨-, hne⟩
  · have hd := Driver.resolve_eq_ok_iff.1 hs.driver
    rw [← hs.sameEngine, hmysql] at hd
    rw [Driver.eq_goMysql_of_resolve? hd]
    decide
  · exact hne

end Options

/-! ## The places that look at the option -/

theorem Postgres.Policy.of_ignores_pointers {driver : Driver} (h : driver ≠ .pgxV5) (a b : Bool) :
    Policy.of driver a = Policy.of driver b := by
  have hne : (driver == .pgxV5) = false := beq_eq_false_iff_ne.2 h
  simp [Policy.of, hne]

namespace Options

variable {o : Options} (b : Bool)

theorem typeTable_withPointers (h : o.IgnoresPointers) : (o.withPointers b).typeTable = o.typeTable := by
  show TypeTable.of o.engine o.driver b = TypeTable.of o.engine o.driver o.emitPointers
  rcases h with hmysql | ⟨hpostgres, hne⟩
  · rw [hmysql]
    rfl
  · rw [hpostgres]
    exact congrArg TypeTable.postgres (Postgres.Policy.of_ignores_pointers hne _ _)

theorem nullableComposite_withPointers (h : o.driver ≠ .pgxV5) :
    nullableComposite (o.withPointers b) = nullableComposite o := by
  have hne : (o.withPointers b).driver ≠ .pgxV5 := h
  rw [nullableComposite, nullableComposite, if_neg fun hand => hne hand.1, if_neg fun hand => h hand.1]

theorem ofCatalog_withPointers (h : o.driver ≠ .pgxV5) (c : Catalog) :
    CustomTypes.ofCatalog (o.withPointers b) c = .ofCatalog o c := by
  have hcomposite : CompositeType.customTypes (o.withPointers b) = CompositeType.customTypes o := by
    funext schema t
    rw [CompositeType.customTypes, CompositeType.customTypes, nullableComposite_withPointers b h]
  have hschema : Schema.customTypes (o.withPointers b) = Schema.customTypes o := by
    funext s
    rw [Schema.customTypes, Schema.customTypes, hcomposite]
    rfl
  rw [CustomTypes.ofCatalog, CustomTypes.ofCatalog, hschema]
  rfl

/-! ## From columns to generations -/

theorem resolve_withPointers (h : o.IgnoresPointers) (custom : CustomTypes) (column : Column) :
    (o.withPointers b).resolve custom column = o.resolve custom column := by
  have htable := typeTable_withPointers b h
  cases ho : o.override? column with
  | some rule =>
    have ho' : (o.withPointers b).override? column = some rule := ho
    rw [resolve_of_override ho, resolve_of_override ho']
    rfl
  | none =>
    have ho' : (o.withPointers b).override? column = none := ho
    rw [resolve_of_no_override ho, resolve_of_no_override ho', htable]
    rfl

theorem entityOf_withPointers (h : o.IgnoresPointers) (custom : CustomTypes) :
    (o.withPointers b).entityOf custom = o.entityOf custom := by
  have hfield : (o.withPointers b).fieldOf custom = o.fieldOf custom := by
    funext key column
    rw [fieldOf, fieldOf, resolve_withPointers b h]
    rfl
  funext t
  rw [entityOf, entityOf, hfield]
  rfl

theorem reportsOf_withPointers (h : o.IgnoresPointers) (custom : CustomTypes) :
    (o.withPointers b).reportsOf custom = o.reportsOf custom := by
  have hcolumn : (o.withPointers b).columnReports custom = o.columnReports custom := by
    funext column
    rw [columnReports, columnReports, resolve_withPointers b h]
  funext t
  rw [reportsOf, reportsOf, hcolumn]

theorem generation_withPointers (h : o.IgnoresPointers) (hne : o.driver ≠ .pgxV5) (c : Catalog) :
    Generation.ofCatalog (o.withPointers b) c = .ofCatalog o c := by
  rw [Generation.ofCatalog_eq, Generation.ofCatalog_eq, ofCatalog_withPointers b hne,
    entityOf_withPointers b h, reportsOf_withPointers b h]
  rfl

end Options

/-! ## Requests -/

/-- Two requests that differ at most in whether their options ask for pointers. -/
structure Request.SameButPointers (r r' : Request) : Prop where
  engineName : r'.engineName = r.engineName
  catalog : r'.catalog = r.catalog
  globalOptions : r'.globalOptions = r.globalOptions
  /-- However the documents are written, they are read as the same but for that answer. -/
  options : ∃ d b, Options.readRun r.options = .ok d ∧ Options.readRun r'.options = .ok (d.withPointers b)

/-- In an options document given in place it is one member that is set. -/
theorem sameButPointers_setMember {r : Request} {members : List (String × Json)} {d : OptionsDocument}
    (inPlace : r.options = .object members) (read : Options.readRun r.options = .ok d) (b : Bool) :
    r.SameButPointers { r with options := .object (Json.setMember pointersMember (.bool b) members) } :=
  ⟨rfl, rfl, rfl, d, b, read, readRun_setPointers (inPlace ▸ read) b⟩

theorem Request.SameButPointers.ofRequest {r r' : Request} (h : r.SameButPointers r') {o : Options}
    (accepted : Options.ofRequest lib r = .ok o) : ∃ b, Options.ofRequest lib r' = .ok (o.withPointers b) := by
  obtain ⟨engine, hengine, hdocuments⟩ := bind_eq_ok_iff.1 accepted
  obtain ⟨d, b, hd, hd'⟩ := h.options
  refine ⟨b, bind_eq_ok_iff.2 ⟨engine, by rw [h.engineName, hengine], ?_⟩⟩
  rw [h.catalog, h.globalOptions]
  exact Options.ofDocumentsIn_withPointers hdocuments hd hd'

/-- **Asking for pointers is without effect.** For an engine and driver that ignore it, a request has one
generation for all answers to whether pointers are asked for. -/
theorem ofRequest_ignores_pointers {r : Request} {o : Options} (accepted : Options.ofRequest lib r = .ok o)
    (ignored : o.IgnoresPointers) :
    ∃ g, Generation.ofRequest lib r = .ok g ∧
      ∀ r', r.SameButPointers r' → Generation.ofRequest lib r' = .ok g := by
  obtain ⟨_, _, _, _, hs⟩ := settled_of_ofRequest accepted
  have hne := Options.driver_ne_pgxV5 hs ignored
  refine ⟨_, Generation.ofRequest_of_options accepted, fun r' h => ?_⟩
  obtain ⟨b, accepted'⟩ := h.ofRequest accepted
  rw [Generation.ofRequest_of_options accepted', h.catalog, Options.generation_withPointers b ignored hne]

/-- The options of a run with the older pgx. -/
def contactsMembers : List (String × Json) :=
  [("package", .string "db"), ("sql_package", .string "pgx/v4")]

/-- A table whose columns may all be null, one of them of a composite type. -/
def contactsTable : Table where
  rel := { name := "contacts" }
  columns := [{ name := "email", type := { name := "text" } },
    { name := "home", type := { name := "address" } }]

/-- A request for the entity of this table. -/
def contactsRequest : Request where
  engineName := "postgresql"
  catalog := { schemas := [
    { name := "public", tables := [contactsTable], compositeTypes := [{ name := "address" }] }] }
  options := .object contactsMembers

/-- Neither the text nor the composite value becomes a pointer. -/
theorem ofRequest_ignores_pointers_contacts :
    ∃ g, Generation.ofRequest .standard contactsRequest = .ok g ∧ ∀ b, Generation.ofRequest .standard
      { contactsRequest with
        options := .object (Json.setMember pointersMember (.bool b) contactsMembers) } = .ok g := by
  have accepted : Options.ofRequest .standard contactsRequest =
      .ok { Options.new .postgresql "db" with clientPackage := .pgxV4, driver := .pgxV4 } := by
    decide +kernel
  obtain ⟨g, hg, hsame⟩ := ofRequest_ignores_pointers accepted (.inr ⟨rfl, by decide⟩)
  have read : Options.readRun contactsRequest.options =
      .ok { package := "db", clientPackage := "pgx/v4" } := by decide +kernel
  exact ⟨g, hg, fun b => hsame _ (sameButPointers_setMember rfl read b)⟩

end EntityModel
