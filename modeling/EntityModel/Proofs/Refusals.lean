import EntityModel.Proofs.CaseImages
import EntityModel.Proofs.DefaultSchema
import EntityModel.Proofs.Expressions
import EntityModel.Proofs.OverrideEntries
import EntityModel.Proofs.PackageName

/-!
# Which error is reported

`Requirement` lists what the documents of a run and of a project have to meet, in the order in which it is asked
for. What each requirement asks is said about the documents alone (`Requirement.Asks`), and so is what is
reported where it is not met (`Requirement.Faults`).

Main statement: options are settled exactly if all requirements are met, and otherwise the first that is not met
is reported (`ofDocumentsIn_enforces`). What is said of an override includes that the engine for expressions takes
its patterns, which is more than that the entry is sound (`ofDocuments_refuses_pattern`).
-/

namespace EntityModel

open Text

/-! ## Client packages and drivers -/

namespace ClientPackage

/-- The names that a document may give; a document that gives none has the empty name. -/
def knownNames : List String := ["", "database/sql", "pgx/v4", "pgx/v5"]

/-- The names of the packages that exist for PostgreSQL only. -/
def pgxNames : List String := ["pgx/v4", "pgx/v5"]

theorem ofName?_eq_none_iff {name : String} : ofName? name = none ↔ name ∉ knownNames := by
  rw [ofName?, knownNames]
  split
  · next h => simp [h]
  · next h =>
    rw [List.find?_eq_none]
    simp [h, ClientPackage.name, eq_comm]

theorem ofName?_eq_some_iff {name : String} {package : ClientPackage} :
    ofName? name = some package ↔ package.name = name ∨ (name = "" ∧ package = .standard) := by
  rw [ofName?]
  split
  · next h =>
    subst h
    cases package <;> simp [ClientPackage.name]
  · next h =>
    constructor
    · intro hfind
      exact .inl (by simpa using List.find?_some hfind)
    · rintro (rfl | ⟨hname, -⟩)
      · cases package <;> rfl
      · exact absurd hname h

theorem ofName_eq_ok_iff {name : String} {package : ClientPackage} :
    ofName name = .ok package ↔ ofName? name = some package := by
  unfold ofName
  cases ofName? name <;> simp

theorem mem_pgxNames_of_ofName? {name : String} {package : ClientPackage} (h : ofName? name = some package) :
    name ∈ pgxNames ↔ package ≠ .standard := by
  rcases ofName?_eq_some_iff.1 h with rfl | ⟨rfl, rfl⟩
  · cases package <;> decide
  · decide

end ClientPackage

/-! ## Primary keys -/

namespace PrimaryKey

/-- An entry of a table and a column, with a schema in front if wanted, none of them empty. -/
structure SoundEntry (entry : String) : Prop where
  count : partCount entry = 2 ∨ partCount entry = 3
  full : [] ∉ splitOn '.' entry.toList

/-- What is wrong with an entry. Empty parts are looked for before the parts are counted. -/
inductive RefusedEntry (entry : String) : ConfigError → Prop where
  | emptyPart (empty : [] ∈ splitOn '.' entry.toList) : RefusedEntry entry (.primaryKeyEmptyPart entry)
  | parts (full : [] ∉ splitOn '.' entry.toList) (count : ¬ (partCount entry = 2 ∨ partCount entry = 3)) :
    RefusedEntry entry (.primaryKeyParts entry)

theorem ofEntry_enforces (entry : String) :
    Enforces SoundEntry (AsConfig RefusedEntry) [entry] (ofEntry entry) := by
  unfold ofEntry
  by_cases hempty : [] ∈ splitOn '.' entry.toList
  · rw [if_pos hempty]
    exact .refuse (fun hsound => hsound.full hempty) ⟨_, rfl, .emptyPart hempty⟩
  · rw [if_neg hempty]
    have hcount : ((splitOn '.' entry.toList).map String.ofList).length = partCount entry := by
      rw [List.length_map, length_splitOn]
    have refused (h : ¬ (partCount entry = 2 ∨ partCount entry = 3)) :
        Enforces SoundEntry (AsConfig RefusedEntry) [entry]
          (.error (.config (.primaryKeyParts entry)) : Except Error PrimaryKey) :=
      .refuse (fun hsound => h hsound.count) ⟨_, rfl, .parts hempty h⟩
    match h : (splitOn '.' entry.toList).map String.ofList with
    | [] => exact refused (by simp [← hcount, h])
    | [_] => exact refused (by simp [← hcount, h])
    | [_, _] => exact .accept ⟨by simp [← hcount, h], hempty⟩
    | [_, _, _] => exact .accept ⟨by simp [← hcount, h], hempty⟩
    | _ :: _ :: _ :: _ :: _ => exact refused (by simp [← hcount, h])

end PrimaryKey

/-! ## Initialisms and renames -/

theorem Text.lower_eq_nil_iff {cs : List Char} : lower cs = [] ↔ cs = [] := by
  cases cs with
  | nil => simp [lower, lowerAfter]
  | cons c rest =>
    rw [lower, lowerAfter]
    split <;> simp [lowerChar_ne_nil]

namespace Options

theorem mem_insertWord {w word : String} {words : List String} :
    w ∈ insertWord word words ↔ w = word ∨ w ∈ words := by
  induction words with
  | nil => simp [insertWord]
  | cons v rest ih =>
    rw [insertWord]
    split
    · simp
    · split
      · next h => simp [h]
      · simp only [List.mem_cons, ih]
        tauto

theorem mem_foldl_insertWord {w : String} {words kept : List String} :
    w ∈ words.foldl (fun kept v => insertWord v kept) kept ↔ w ∈ words ∨ w ∈ kept := by
  induction words generalizing kept with
  | nil => simp
  | cons v rest ih =>
    rw [List.foldl_cons, ih, mem_insertWord, List.mem_cons]
    tauto

/-- Lower case makes no word empty. -/
theorem empty_mem_initialismsOf {words : List String} : "" ∈ initialismsOf words ↔ "" ∈ words := by
  rw [initialismsOf, mem_foldl_insertWord]
  have hlower (w : String) : String.ofList (lower w.toList) = "" ↔ w = "" := by
    rw [← String.toList_inj, String.toList_ofList, String.toList_empty, lower_eq_nil_iff,
      ← String.toList_inj, String.toList_empty]
  simp [hlower]

/-- A rename of the settled options: one of the project, or one of the run for a name that the project does not
rename. A rename of the run that the project replaces is not looked at. -/
def Renames (d : OptionsDocument) (g : GlobalOptionsDocument) (r : String × String) : Prop :=
  r ∈ g.renames ∨ (r ∈ d.renames ∧ ∀ q ∈ g.renames, r.1 ≠ q.1)

theorem mem_mergeRenames {d : OptionsDocument} {g : GlobalOptionsDocument} {r : String × String} :
    r ∈ mergeRenames d.renames g.renames ↔ Renames d g r := by
  rw [mergeRenames, Renames, List.mem_append, List.mem_filter, Option.isNone_iff_eq_none,
    List.lookup_eq_none_iff]
  simp only [bne_iff_ne]

end Options

/-! ## The requirements -/

/-- What the documents of a run and of a project have to meet. -/
inductive Requirement where
  | runReadable
  | projectReadable
  | packageNamed
  | clientPackageKnown
  | overridesSound
  | primaryKeysSound
  | driverForEngine
  | packagePlain
  | initialismsNamed
  | renamesNamed
  deriving DecidableEq, Repr

namespace Requirement

/-- The requirements in the order in which they are asked for. -/
def inOrder : List Requirement :=
  [runReadable, projectReadable, packageNamed, clientPackageKnown, overridesSound, primaryKeysSound,
   driverForEngine, packagePlain, initialismsNamed, renamesNamed]

theorem mem_inOrder (c : Requirement) : c ∈ inOrder := by cases c <;> decide

section

variable (lib : Libraries) (engine : Engine) (fallbackSchema : String)

/-- What a requirement asks of documents that can be read. -/
def Asks (d : OptionsDocument) (g : GlobalOptionsDocument) : Requirement → Prop
  | runReadable => True
  | projectReadable => True
  | packageNamed => ∃ package, d.Names package
  | clientPackageKnown => d.clientPackage ∈ ClientPackage.knownNames
  | overridesSound =>
    ∀ spec ∈ g.overrides ++ d.overrides, spec.Sound ∧ spec.Compiles lib (d.defaultSchema.getD fallbackSchema)
  | primaryKeysSound => ∀ entry ∈ d.primaryKeys, PrimaryKey.SoundEntry entry
  | driverForEngine => d.clientPackage ∈ ClientPackage.pgxNames → engine = .postgresql
  | packagePlain =>
    ∀ package, d.Names package → ∀ c ∈ package.toList, ¬ (isBlank c = true ∨ c = '/' ∨ c = '.')
  | initialismsNamed => ∀ words, d.initialisms = some words → "" ∉ words
  | renamesNamed => ∀ r, Options.Renames d g r → r.1 ≠ "" ∧ r.2 ≠ ""

/-- What is reported of documents that can be read where a requirement is not met. Of several overrides or
primary keys the first at fault is reported, of several renames any. -/
inductive Faults (d : OptionsDocument) (g : GlobalOptionsDocument) : Requirement → Error → Prop where
  | packageNamed : Faults d g packageNamed (.config .noDirectoryForPackage)
  | clientPackageKnown : Faults d g clientPackageKnown (.unknownPackage d.clientPackage)
  | overridesSound {spec : OverrideSpec} {e : Error}
      (first : IsFirst (fun spec => ¬ (spec.Sound ∧ spec.Compiles lib (d.defaultSchema.getD fallbackSchema)))
        (g.overrides ++ d.overrides) spec)
      (refused : spec.Refused lib (d.defaultSchema.getD fallbackSchema) e) :
    Faults d g overridesSound e
  | primaryKeysSound {entry : String} {cause : ConfigError}
      (first : IsFirst (fun entry => ¬ PrimaryKey.SoundEntry entry) d.primaryKeys entry)
      (refused : PrimaryKey.RefusedEntry entry cause) :
    Faults d g primaryKeysSound (.config cause)
  | driverForEngine {package : ClientPackage} (named : package.name = d.clientPackage) :
    Faults d g driverForEngine (.config (.driverNeedsPostgresql package engine))
  | packagePlain {package : String} (named : d.Names package) :
    Faults d g packagePlain (.config (.packageNotIdentifier package))
  | initialismsNamed : Faults d g initialismsNamed (.config .emptyInitialism)
  | renamesNamed {source target : String} (counts : Options.Renames d g (source, target))
      (empty : source = "" ∨ target = "") :
    Faults d g renamesNamed (.config (.emptyRename source target))

/-- What a requirement asks of documents as they are handed over. Only documents that can be read say anything. -/
def Met (run project : Json) : Requirement → Prop
  | runReadable => ∃ d, Options.readRun run = .ok d
  | projectReadable => ∃ g, Options.readProject project = .ok g
  | c => ∃ d g, Options.readRun run = .ok d ∧ Options.readProject project = .ok g ∧
      c.Asks lib engine fallbackSchema d g

/-- What is reported of documents as they are handed over where a requirement is not met. -/
inductive Reports (run project : Json) : Requirement → Error → Prop where
  | runReadable {fault : Document.Fault}
      (unread : readOptions {} OptionsDocument.ofNode run = .error fault) :
    Reports run project runReadable (.config (.malformedOptions fault))
  | projectReadable {fault : Document.Fault}
      (unread : readOptions {} GlobalOptionsDocument.ofNode project = .error fault) :
    Reports run project projectReadable (.config (.malformedGlobalOptions fault))
  | documents {d : OptionsDocument} {g : GlobalOptionsDocument} {c : Requirement} {e : Error}
      (readRun : Options.readRun run = .ok d) (readProject : Options.readProject project = .ok g)
      (fault : Faults lib engine fallbackSchema d g c e) :
    Reports run project c e

end

variable {lib : Libraries} {engine : Engine} {fallbackSchema : String} {run project : Json}
  {d : OptionsDocument} {g : GlobalOptionsDocument}

theorem met_iff (hd : Options.readRun run = .ok d) (hg : Options.readProject project = .ok g)
    (c : Requirement) : c.Met lib engine fallbackSchema run project ↔ c.Asks lib engine fallbackSchema d g := by
  have hpair (p : OptionsDocument → GlobalOptionsDocument → Prop) :
      (∃ d' g', Options.readRun run = .ok d' ∧ Options.readProject project = .ok g' ∧ p d' g') ↔ p d g := by
    constructor
    · rintro ⟨d', g', hd', hg', h⟩
      cases hd.symm.trans hd'
      cases hg.symm.trans hg'
      exact h
    · exact fun h => ⟨d, g, hd, hg, h⟩
  cases c with
  | runReadable => exact iff_of_true ⟨d, hd⟩ trivial
  | projectReadable => exact iff_of_true ⟨g, hg⟩ trivial
  | _ => exact hpair _

/-- Only an unknown client package and a pattern that cannot be compiled are reported as something else than an error
of the configuration. -/
theorem Reports.kind {c : Requirement} {e : Error} (h : c.Reports lib engine fallbackSchema run project e) :
    ((∃ name, e = .unknownPackage name) ↔ c = .clientPackageKnown) ∧
      ((∃ source cause, e = .pattern source cause) → c = .overridesSound) ∧
      ((∃ cause, e = .config cause) ↔
        c ≠ .clientPackageKnown ∧ ∀ source cause, e ≠ .pattern source cause) := by
  cases h with
  | runReadable _ => simp
  | projectReadable _ => simp
  | documents _ _ fault =>
    cases fault with
    | overridesSound _ refused =>
      cases refused with
      | pattern _ _ _ _ refused =>
        obtain ⟨cause, -, rfl⟩ := refused
        simp
      | _ => simp
    | _ => simp

/-- Whatever is reported, it is the configuration that is at fault. -/
theorem Reports.exitCode {c : Requirement} {e : Error} (h : c.Reports lib engine fallbackSchema run project e) :
    e.exitCode = Error.configExitCode := by
  obtain ⟨hpackage, -, hconfig⟩ := h.kind
  by_cases hknown : c = clientPackageKnown
  · obtain ⟨name, rfl⟩ := hpackage.2 hknown
    rfl
  · by_cases hpattern : ∃ source cause, e = .pattern source cause
    · obtain ⟨source, cause, rfl⟩ := hpattern
      rfl
    · obtain ⟨cause, rfl⟩ := hconfig.2 ⟨hknown, fun source cause he => hpattern ⟨source, cause, he⟩⟩
      rfl

end Requirement

/-! ## Settling enforces them -/

theorem mapError_eq_error_iff {ε ε' α : Type} {f : ε → ε'} {x : Except ε α} {e' : ε'} :
    x.mapError f = .error e' ↔ ∃ e, x = .error e ∧ f e = e' := by
  cases x <;> simp [Except.mapError]

namespace Options

open Requirement

variable {lib : Libraries} {engine : Engine} {fallbackSchema : String} {d : OptionsDocument} {g : GlobalOptionsDocument}
  {o : Options}

theorem packageOf_enforces :
    Enforces (Asks lib engine fallbackSchema d g) (Faults lib engine fallbackSchema d g) [packageNamed]
      (packageOf d) := by
  cases hpackage : packageOf d with
  | ok package => exact .accept ⟨package, packageOf_eq_ok_iff.1 hpackage⟩
  | error e =>
    rw [eq_of_packageOf_eq_error hpackage]
    refine .refuse ?_ .packageNamed
    rintro ⟨package, hnames⟩
    rw [packageOf_eq_ok_iff.2 hnames] at hpackage
    cases hpackage

theorem clientPackage_enforces :
    Enforces (Asks lib engine fallbackSchema d g) (Faults lib engine fallbackSchema d g) [clientPackageKnown]
      (ClientPackage.ofName d.clientPackage) := by
  unfold ClientPackage.ofName
  cases hname : ClientPackage.ofName? d.clientPackage with
  | some package =>
    refine .accept (by_contra fun h => ?_)
    rw [ClientPackage.ofName?_eq_none_iff.2 h] at hname
    cases hname
  | none => exact .refuse (ClientPackage.ofName?_eq_none_iff.1 hname) .clientPackageKnown

theorem overrides_enforces :
    Enforces (Asks lib engine fallbackSchema d g) (Faults lib engine fallbackSchema d g) [overridesSound]
      ((g.overrides ++ d.overrides).mapM fun spec =>
        Override.ofSpec lib spec engine (d.defaultSchema.getD fallbackSchema)) :=
  (Enforces.mapM (Override.ofSpec_enforces lib engine _) _).collect Iff.rfl fun _ _ first refused =>
    .overridesSound first refused

theorem primaryKeys_enforces :
    Enforces (Asks lib engine fallbackSchema d g) (Faults lib engine fallbackSchema d g) [primaryKeysSound]
      (d.primaryKeys.mapM PrimaryKey.ofEntry) := by
  refine (Enforces.mapM PrimaryKey.ofEntry_enforces _).collect Iff.rfl ?_
  rintro entry e first ⟨cause, rfl, refused⟩
  exact .primaryKeysSound first refused

theorem driver_enforces {package : ClientPackage}
    (hpackage : ClientPackage.ofName d.clientPackage = .ok package) :
    Enforces (Asks lib engine fallbackSchema d g) (Faults lib engine fallbackSchema d g) [driverForEngine]
      (Driver.resolve package engine) := by
  have hname := ClientPackage.ofName_eq_ok_iff.1 hpackage
  have hpgx := ClientPackage.mem_pgxNames_of_ofName? hname
  have hnone : Driver.resolve? package engine = none ↔ package ≠ .standard ∧ engine ≠ .postgresql :=
    Driver.resolve?_eq_none_iff
  unfold Driver.resolve
  cases hdriver : Driver.resolve? package engine with
  | some driver =>
    refine .accept fun hmem => by_contra fun hengine => ?_
    rw [hnone.2 ⟨hpgx.1 hmem, hengine⟩] at hdriver
    cases hdriver
  | none =>
    obtain ⟨hstandard, hengine⟩ := hnone.1 hdriver
    refine .refuse (fun h => hengine (h (hpgx.2 hstandard))) (.driverForEngine ?_)
    rcases ClientPackage.ofName?_eq_some_iff.1 hname with h | ⟨-, h⟩
    · exact h
    · exact absurd h hstandard

/-- What two readable documents say is settled step by step. The driver comes last, and is asked for with the
package that the name of the client package gave. -/
theorem settle_enforces :
    Enforces (Asks lib engine fallbackSchema d g) (Faults lib engine fallbackSchema d g)
      [packageNamed, clientPackageKnown, overridesSound, primaryKeysSound, driverForEngine]
      (settle lib engine fallbackSchema d g) :=
  packageOf_enforces.bind fun _ _ =>
    clientPackage_enforces.bind fun _ hclient =>
      overrides_enforces.bind fun _ _ =>
        primaryKeys_enforces.bind fun _ _ => (driver_enforces hclient).map _

theorem validated_enforces (h : Settled lib engine fallbackSchema d g o) :
    Enforces (Asks lib engine fallbackSchema d g) (Faults lib engine fallbackSchema d g)
      [packagePlain, initialismsNamed, renamesNamed] (o.validated lib) := by
  have hnames : d.Names o.package := packageOf_eq_ok_iff.1 h.package
  refine Enforces.map ?_ fun _ => o
  rw [validate, if_neg hnames.ne_empty]
  refine .guard ?_ (fun _ => .packagePlain hnames) (.guard ?_ (fun _ => .initialismsNamed) ?_)
  · rw [List.any_eq_true]
    constructor
    · rintro ⟨c, hc, hforeign⟩ hplain
      refine hplain _ hnames c hc ?_
      simpa [isForeignToPackage, or_assoc] using hforeign
    · intro hplain
      by_contra hnone
      refine hplain fun package hpackage c hc hforeign => hnone ⟨c, ?_, ?_⟩
      · rwa [← hpackage.unique hnames]
      · simpa [isForeignToPackage, or_assoc] using hforeign
  · -- The words are in lower case by now.
    rw [h.initialisms, Asks]
    cases d.initialisms with
    | some words => simp [empty_mem_initialismsOf]
    | none => simp [defaultInitialisms]
  · have hcounts (r : String × String) : r ∈ o.renames ↔ Renames d g r := by rw [h.renames, mem_mergeRenames]
    cases hfind : (lib.order.visit o.renames).find? fun r => r.1 = "" || r.2 = "" with
    | some r =>
      have hempty : r.1 = "" ∨ r.2 = "" := by simpa using List.find?_some hfind
      have hr : Renames d g r := (hcounts r).1 (lib.order.mem_visit.1 (List.mem_of_find?_eq_some hfind))
      refine .refuse (fun hnamed => ?_) (.renamesNamed hr hempty)
      rcases hempty with hempty | hempty
      · exact (hnamed r hr).1 hempty
      · exact (hnamed r hr).2 hempty
    | none =>
      refine .accept fun r hr => ?_
      simpa [not_or] using List.find?_eq_none.1 hfind r (lib.order.mem_visit.2 ((hcounts r).2 hr))

theorem readRun_enforces {run project : Json} :
    Enforces (Met lib engine fallbackSchema run project) (Reports lib engine fallbackSchema run project)
      [runReadable] (readRun run) := by
  cases hread : readRun run with
  | ok d => exact .accept ⟨d, hread⟩
  | error e =>
    refine .refuse (by simp [Met, hread]) ?_
    obtain ⟨fault, hfault, rfl⟩ := mapError_eq_error_iff.1 hread
    exact .runReadable hfault

theorem readProject_enforces {run project : Json} :
    Enforces (Met lib engine fallbackSchema run project) (Reports lib engine fallbackSchema run project)
      [projectReadable] (readProject project) := by
  cases hread : readProject project with
  | ok g => exact .accept ⟨g, hread⟩
  | error e =>
    refine .refuse (by simp [Met, hread]) ?_
    obtain ⟨fault, hfault, rfl⟩ := mapError_eq_error_iff.1 hread
    exact .projectReadable hfault

/-- Options are settled exactly if all requirements are met, and otherwise the first that is not met is
reported. -/
theorem ofDocumentsIn_enforces (lib : Libraries) (engine : Engine) (fallbackSchema : String)
    (run project : Json) :
    Enforces (Met lib engine fallbackSchema run project) (Reports lib engine fallbackSchema run project) inOrder
      (ofDocumentsIn lib engine fallbackSchema run project) :=
  readRun_enforces.bind fun _ hd => readProject_enforces.bind fun _ hg =>
    Enforces.bind (settle_enforces.congr (met_iff hd hg) fun _ _ => .documents hd hg) fun _ hs =>
      (validated_enforces (settle_eq_ok_iff.1 hs)).congr (met_iff hd hg) fun _ _ => .documents hd hg

theorem exitCode_of_ofDocumentsIn {run project : Json} {e : Error}
    (h : ofDocumentsIn lib engine fallbackSchema run project = .error e) :
    e.exitCode = Error.configExitCode := by
  have henforces := ofDocumentsIn_enforces lib engine fallbackSchema run project
  rw [h] at henforces
  obtain ⟨c, -, reported⟩ := henforces.of_error
  exact reported.exitCode

/-- Options are settled from two documents exactly if all requirements are met. Otherwise the first that is not met
is reported: as an unknown package where it is the client package, as a pattern where it is an override with a
pattern that cannot be compiled, and as an error of the configuration in all other cases. -/
theorem ofDocuments_reports_first (lib : Libraries) (engine : Engine) (run project : Json) :
    ((∃ o, ofDocuments lib engine run project = .ok o) ↔
        ∀ c : Requirement, c.Met lib engine engine.defaultSchema run project) ∧
      ∀ e, ofDocuments lib engine run project = .error e →
        ∃ c : Requirement, IsFirst (fun c => ¬ c.Met lib engine engine.defaultSchema run project) inOrder c ∧
          c.Reports lib engine engine.defaultSchema run project e ∧
          ((∃ name, e = .unknownPackage name) ↔ c = clientPackageKnown) ∧
          ((∃ source cause, e = .pattern source cause) → c = overridesSound) ∧
          ((∃ cause, e = .config cause) ↔
            c ≠ clientPackageKnown ∧ ∀ source cause, e ≠ .pattern source cause) := by
  have henforces := ofDocumentsIn_enforces lib engine engine.defaultSchema run project
  constructor
  · rw [ofDocuments, henforces.exists_ok_iff]
    exact ⟨fun h c => h c c.mem_inOrder, fun h c _ => h c⟩
  · intro e he
    rw [ofDocuments] at he
    rw [he] at henforces
    obtain ⟨c, first, reported⟩ := henforces.of_error
    exact ⟨c, first, reported, reported.kind⟩

example : ofDocuments .standard .mysql (.object [("package", .string "a.b"), ("sql_package", .string "pgx/v4"),
    ("primary_keys_columns", .array [.string "orders.id", .string "id"])]) .null =
      .error (.config (.primaryKeyParts "id")) := by decide +kernel

end Options

/-! ## Patterns that are too large -/

/-- So many question marks are refused. -/
theorem Pattern.check_marks {n : Nat} (h : 25207 ≤ n) :
    (marks n).check .standard = .error (.pattern (marks n).source Expression.tooLarge) := by
  have hsize : Expression.sizeLimit < Expression.size (marks n).expression := by
    rw [Pattern.size_marks]
    show 10485760 < _
    omega
  rw [Pattern.check, show Libraries.standard.compile = Expression.bounded from rfl, Expression.bounded, if_pos hsize]

namespace Options

open Requirement

/-- An entry for a column of a table `t`. -/
def columnSpec (column : String) : OverrideSpec where
  column := "t" ++ "." ++ column
  type := .compact "string"

/-- A document with nothing but its package and this entry. -/
def columnRun (column : String) : Json :=
  .object [("package", .string "db"), ("overrides", .array
    [.object [("column", .string (columnSpec column).column), ("go_type", .string "string")]])]

theorem readRun_columnRun (column : String) :
    readRun (columnRun column) = .ok { package := "db", overrides := [columnSpec column] } := rfl

theorem columnSpec_ne_empty (column : String) : (columnSpec column).column ≠ "" := by
  intro he
  simpa [columnSpec] using congrArg String.toList he

/-- The entry is sound for every name of a column. -/
theorem columnSpec_sound {column : String} (hdot : '.' ∉ column.toList) : (columnSpec column).Sound where
  oneKind := iff_of_false (columnSpec_ne_empty column) fun h => h rfl
  parts := by
    have hcount : partCount (columnSpec column).column = 2 := by
      simp [partCount, columnSpec, List.count_eq_zero.2 hdot]
    simp [hcount]
  type := by
    show TypeSpec.Sound (.compact "string")
    exact ⟨by decide, by decide⟩

/-- The entry is refused for the name of the column if this cannot be compiled. -/
theorem ofSpec_columnSpec {column : Pattern} (hdot : '.' ∉ column.source.toList) {e : Error}
    (refused : column.check .standard = .error e) :
    Override.ofSpec .standard (columnSpec column.source) .postgresql "public" = .error e := by
  have hnamed : ColumnSelector.named? (columnSpec column.source).column "public" =
      some (.named ⟨none, ⟨"public"⟩, ⟨"t"⟩⟩ column) := named?_twoParts (by decide) hdot "public"
  have hschema : (Pattern.mk "public").check .standard = .ok () := by decide
  have htable : (Pattern.mk "t").check .standard = .ok () := by decide
  have hselector : ColumnSelector.ofSpec .standard (columnSpec column.source) .postgresql "public" = .error e := by
    rw [ColumnSelector.ofSpec, if_neg (columnSpec_ne_empty _),
      if_pos (show (columnSpec column.source).dbType = "" from rfl), ColumnSelector.ofColumnSpec, hnamed]
    simp only [ColumnSelector.patterns, Option.toList_none, List.nil_append, List.mapM_cons, hschema, htable,
      refused]
    rfl
  rw [Override.ofSpec, hselector]
  rfl

theorem ofDocuments_columnRun {column : String} {e : Error}
    (refused : Override.ofSpec .standard (columnSpec column) .postgresql "public" = .error e) :
    ofDocuments .standard .postgresql (columnRun column) .null = .error e := by
  have hrules : [columnSpec column].mapM (fun spec => Override.ofSpec .standard spec .postgresql "public") =
      .error e := by
    rw [List.mapM_cons, refused]
    rfl
  have hsettle : settle .standard .postgresql "public" { package := "db", overrides := [columnSpec column] } {} =
      ([columnSpec column].mapM (fun spec => Override.ofSpec .standard spec .postgresql "public") >>= fun rules =>
        .ok { new .postgresql "db" with overrides := rules }) := rfl
  have hdocuments : ofDocuments .standard .postgresql (columnRun column) .null =
      (settle .standard .postgresql "public" { package := "db", overrides := [columnSpec column] } {} >>=
        fun o => o.validated .standard) := rfl
  rw [hdocuments, hsettle, hrules]
  rfl

/-- All that is asked for beside the override is met. -/
theorem asks_columnRun (column : String) {c : Requirement} (hc : c ≠ overridesSound) :
    c.Asks .standard .postgresql "public" { package := "db", overrides := [columnSpec column] } {} := by
  have hnames : OptionsDocument.Names { package := "db", overrides := [columnSpec column] } "db" :=
    .given (show "db" ≠ "" by decide)
  cases c with
  | runReadable => trivial
  | projectReadable => trivial
  | packageNamed => exact ⟨"db", hnames⟩
  | clientPackageKnown => exact List.mem_cons_self
  | overridesSound => exact absurd rfl hc
  | primaryKeysSound => exact List.forall_mem_nil _
  | driverForEngine => exact fun _ => rfl
  | packagePlain =>
    intro package hpackage c hc
    rw [hpackage.unique hnames] at hc
    rcases List.mem_pair.1 (show c ∈ ['d', 'b'] from hc) with rfl | rfl
    · decide
    · decide
  | initialismsNamed => exact nofun
  | renamesNamed => simp [Asks, Renames]

/-- A name of 60000 characters, whatever they are. -/
def wideName : Pattern := .marks 60000

/-- **A pattern can be too large.** The entry for this name is sound and everything else that is asked for is met, but
the engine does not take the pattern, and the entry is refused. -/
theorem ofDocuments_refuses_pattern :
    (∀ c, c ≠ overridesSound → c.Met .standard .postgresql "public" (columnRun wideName.source) .null) ∧
      readRun (columnRun wideName.source) = .ok { package := "db", overrides := [columnSpec wideName.source] } ∧
      (columnSpec wideName.source).Sound ∧
      ofDocuments .standard .postgresql (columnRun wideName.source) .null =
        .error (.pattern wideName.source Expression.tooLarge) := by
  have hrun := readRun_columnRun wideName.source
  have hproject : readProject .null = .ok {} := rfl
  have hdot : '.' ∉ wideName.source.toList := Pattern.dot_not_mem_marks 60000
  have hrefused : wideName.check .standard = .error (.pattern wideName.source Expression.tooLarge) :=
    Pattern.check_marks (by decide)
  exact ⟨fun c hc => (met_iff hrun hproject c).2 (asks_columnRun _ hc), hrun, columnSpec_sound hdot,
    ofDocuments_columnRun (ofSpec_columnSpec hdot hrefused)⟩

end Options

end EntityModel
