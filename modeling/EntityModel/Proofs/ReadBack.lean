import EntityModel.Proofs.BoundQualifier
import EntityModel.Proofs.TableTypes

/-!
# Types are read back from their compact form

A text that reads as a type is the compact form of that type; here a type comes first, is written, and is
read again. The text of a type is its wrappers and its name, and reading undoes each of these as long as the
name does not start like a wrapper (`readCompact_wrapped`). A name is cut at the last dot before its first
bracket, so type arguments do no harm (`readNamed_qualified`). The import is written where it has a slash
and is otherwise lost, and the default import of the package puts it back (`Stock.reads_back`).

Main statement: under accepted options the types that come from the engine's table, from composite types
and from the placeholder are read back in full, with their wrappers and imports (`resolve_reads_back`).
-/

namespace EntityModel

variable {lib : Libraries}

namespace TargetType

open Text

/-! ## Texts that reading leaves whole -/

/-- Text that starts neither with a blank nor like a wrapper. -/
def StartsPlain : List Char → Prop
  | [] => False
  | c :: _ => isBlank c = false ∧ c ≠ '[' ∧ c ≠ '*'

instance : (cs : List Char) → Decidable (StartsPlain cs)
  | [] => inferInstanceAs (Decidable False)
  | _ :: _ => inferInstanceAs (Decidable (_ ∧ _ ∧ _))

/-- A base name without a dot before its first bracket or a blank at its ends. -/
def LegibleName (name : List Char) : Prop :=
  StartsPlain name ∧ name.getLast?.any isBlank = false ∧ '.' ∉ name.takeWhile (· ≠ '[')

instance (name : List Char) : Decidable (LegibleName name) :=
  inferInstanceAs (Decidable (_ ∧ _ ∧ _))

/-- A qualifier or an import path without brackets. -/
def LegibleQualifier (qualifier : List Char) : Prop := StartsPlain qualifier ∧ '[' ∉ qualifier

instance (qualifier : List Char) : Decidable (LegibleQualifier qualifier) :=
  inferInstanceAs (Decidable (_ ∧ _))

theorem StartsPlain.ne_nil {cs : List Char} (h : StartsPlain cs) : cs ≠ [] := by
  rintro rfl
  exact h

theorem StartsPlain.append {cs : List Char} (h : StartsPlain cs) (ds : List Char) :
    StartsPlain (cs ++ ds) := by
  cases cs with
  | nil => exact h.elim
  | cons c rest => exact h

theorem StartsPlain.head?_ne {cs : List Char} (h : StartsPlain cs) :
    cs.head? ≠ some '[' ∧ cs.head? ≠ some '*' := by
  cases cs with
  | nil => exact h.elim
  | cons c rest => exact ⟨fun he => h.2.1 (Option.some.inj he), fun he => h.2.2 (Option.some.inj he)⟩

theorem not_isBlank_of_getLast? {cs : List Char} (h : cs.getLast?.any isBlank = false) :
    ∀ c ∈ cs.getLast?, isBlank c = false := by
  intro c hc
  rwa [Option.mem_def.1 hc] at h

/-! ## Wrappers -/

theorem readBrackets_of_head?_ne {cs : List Char} (h : cs.head? ≠ some '[') :
    readBrackets cs = (0, cs) :=
  readBrackets_of_ne fun rest hcs => h (by rw [hcs]; rfl)

theorem readBrackets_brackets_append (depth : Nat) {cs : List Char} (h : cs.head? ≠ some '[') :
    readBrackets (brackets depth ++ cs) = (depth, cs) := by
  induction depth with
  | zero => exact readBrackets_of_head?_ne h
  | succ n ih =>
    have hcons : brackets (n + 1) ++ cs = '[' :: ']' :: (brackets n ++ cs) := by
      simp [brackets, List.replicate_succ]
    rw [hcons, readBrackets, ih]

theorem readStar_star_append (pointer : Bool) {cs : List Char} (h : cs.head? ≠ some '*') :
    readStar (star pointer ++ cs) = (pointer, cs) := by
  cases pointer with
  | true => rfl
  | false =>
    show readStar cs = (false, cs)
    fun_cases readStar cs with
    | case1 rest => exact absurd rfl h
    | case2 cs => rfl

theorem trim_wrapped {name : List Char} (depth : Nat) (pointer : Bool) (hs : StartsPlain name)
    (he : name.getLast?.any isBlank = false) :
    trim (brackets depth ++ (star pointer ++ name)) = brackets depth ++ (star pointer ++ name) := by
  refine trim_eq_self (fun c hc => ?_) (fun c hc => ?_)
  · cases depth with
    | succ n =>
      cases hc
      decide
    | zero =>
      cases pointer with
      | true =>
        cases hc
        decide
      | false =>
        cases name with
        | nil => exact hs.elim
        | cons d rest =>
          cases hc
          exact hs.1
  · rw [← List.append_assoc, List.getLast?_append_of_ne_nil _ hs.ne_nil] at hc
    exact not_isBlank_of_getLast? he c hc

/-- Wrappers in front of a name are read off it. -/
theorem readCompact_wrapped {name : List Char} {u : TargetType} (depth : Nat) (pointer : Bool)
    (hs : StartsPlain name) (he : name.getLast?.any isBlank = false)
    (read : readNamed name = some u) :
    readCompact (brackets depth ++ (star pointer ++ name)) =
      some ({ u with pointer }.withDepth (UInt32.ofNat depth)) := by
  obtain ⟨hbracket, hstar⟩ := hs.head?_ne
  have hstart : (star pointer ++ name).head? ≠ some '[' := by
    cases pointer with
    | true => simp [star]
    | false => exact hbracket
  rw [readCompact, trim_wrapped depth pointer hs he, readBrackets_brackets_append depth hstart]
  simp only [readStar_star_append pointer hstar, if_neg hs.ne_nil, read, Option.map_some]

/-! ## Names -/

theorem readNamed_bare {base : List Char} (h : LegibleName base) :
    readNamed base = some (builtin (String.ofList base)) := by
  rw [readNamed, splitAtLast_eq_none_iff.2 h.2.2]

theorem readNamed_qualified {qualifier base : List Char} (hq : LegibleQualifier qualifier)
    (hb : LegibleName base) : readNamed (qualifier ++ '.' :: base) = some (ofParts qualifier base) := by
  have hne : ¬(qualifier = [] ∨ base = []) := not_or.2 ⟨hq.1.ne_nil, hb.1.ne_nil⟩
  rw [readNamed_append hq.2 hb.2.2, if_neg hne]

/-! ## Types in code of its own -/

/-- A type as code of its own states it: with a legible base name, a package whose import is known if it
has one, and no import other than that. -/
structure Stock (driver : Driver) (t : TargetType) : Prop where
  name : LegibleName t.base.toList
  array : t.array = (t.depth != 0)
  package : t.qualifier = "" ∨ t.qualifier ∈ Import.knownPackages
  origin : ∀ i, t.origin = some i → Import.default? driver t.qualifier = some i

theorem legible_knownPackages :
    ∀ package ∈ Import.knownPackages, LegibleQualifier package.toList ∧ '/' ∉ package.toList := by
  decide +kernel

end TargetType

/-- The default imports are paths that can be written, under no local name. -/
theorem Import.legible_default? {driver : Driver} {qualifier : String} {i : Import}
    (h : Import.default? driver qualifier = some i) :
    i.localName = none ∧ TargetType.LegibleQualifier i.path.toList := by
  unfold Import.default? at h
  split at h
  case h_7 =>
    split at h
    all_goals
      cases h
      exact ⟨rfl, by decide +kernel⟩
  case h_11 => cases h
  all_goals
    cases h
    exact ⟨rfl, by decide +kernel⟩

namespace TargetType

open Text

variable {driver : Driver} {t : TargetType}

/-- A type without its wrappers. -/
def bare (t : TargetType) : TargetType := { t with pointer := false, array := false, depth := 0 }

theorem withDefaultOrigin_ofParts_path {path base : List Char} (hs : '/' ∈ path)
    (lookup : String → Option Import) :
    (ofParts path base).withDefaultOrigin lookup =
      { base := String.ofList base, qualifier := PackagePath.name (String.ofList path)
        origin := some ⟨String.ofList path, none⟩ } := by
  have hne : path ≠ [] := List.ne_nil_of_mem hs
  rw [withDefaultOrigin_of_origin]
  · simp [ofParts, hs, withOrigin, ofList_ne_empty hne, qualified]
  · simp [ofParts, hs, withOrigin, ofList_ne_empty hne]

theorem withDefaultOrigin_ofParts_package {package base : List Char} (hs : '/' ∉ package)
    (hne : package ≠ []) (lookup : String → Option Import) :
    (ofParts package base).withDefaultOrigin lookup =
      { base := String.ofList base, qualifier := String.ofList package
        origin := lookup (String.ofList package) } := by
  have hq : String.ofList package ≠ "" := ofList_ne_empty hne
  simp [ofParts, hs, withDefaultOrigin, qualified, hq]

/-- A name that behind any wrappers is read as a type, up to its default import. -/
structure NameOf (driver : Driver) (name : List Char) (t : TargetType) : Prop where
  start : StartsPlain name
  last : name.getLast?.any isBlank = false
  read : ∃ u, readNamed name = some u ∧ u.withDefaultOrigin (Import.default? driver) = t

theorem nameOf_bare {base : List Char} (h : LegibleName base) (driver : Driver) :
    NameOf driver base (builtin (String.ofList base)) where
  start := h.1
  last := h.2.1
  read := ⟨_, readNamed_bare h, withDefaultOrigin_of_no_qualifier rfl⟩

theorem nameOf_qualified {qualifier base : List Char} (hq : LegibleQualifier qualifier)
    (hb : LegibleName base) (driver : Driver) :
    NameOf driver (qualifier ++ '.' :: base)
      ((ofParts qualifier base).withDefaultOrigin (Import.default? driver)) where
  start := hq.1.append _
  last := by
    rw [List.append_cons, List.getLast?_append_of_ne_nil _ hb.1.ne_nil]
    exact hb.2.1
  read := ⟨_, readNamed_qualified hq hb, rfl⟩

/-- A path with a slash is written in front of the name and gives the package back. -/
theorem nameOf_compactName_of_path {path : String} (hb : LegibleName t.base.toList)
    (hp : LegibleQualifier path.toList) (hs : '/' ∈ path.toList) (hq : t.qualifier ≠ "")
    (ho : t.origin = some ⟨path, none⟩) (bound : t.qualifier = PackagePath.name path) :
    NameOf driver t.compactName.toList t.bare := by
  have hname : t.compactName.toList = path.toList ++ '.' :: t.base.toList := by
    rw [compactName_of_path ho hs bound.symm hq]
    simp
  have hbare : t.bare =
      (ofParts path.toList t.base.toList).withDefaultOrigin (Import.default? driver) := by
    rw [withDefaultOrigin_ofParts_path hs]
    simp [bare, ho, bound]
  rw [hname, hbare]
  exact nameOf_qualified hp hb driver

/-- A path without a slash is not written, and looking up the package gives it back. -/
theorem nameOf_compactName_of_package {path : String} (hb : LegibleName t.base.toList)
    (hp : '/' ∉ path.toList) (known : t.qualifier ∈ Import.knownPackages)
    (ho : t.origin = some ⟨path, none⟩) (complete : t.origin = Import.default? driver t.qualifier) :
    NameOf driver t.compactName.toList t.bare := by
  obtain ⟨hqualifier, hslash⟩ := legible_knownPackages _ known
  have hq : t.qualifier ≠ "" := by
    intro hq
    rw [hq] at known
    exact absurd known (by decide)
  have hname : t.compactName.toList = t.qualifier.toList ++ '.' :: t.base.toList := by
    rw [compactName, if_neg hq, compactQualifier, ho]
    simp [hp]
  have hbare : t.bare =
      (ofParts t.qualifier.toList t.base.toList).withDefaultOrigin (Import.default? driver) := by
    rw [withDefaultOrigin_ofParts_package hslash hqualifier.1.ne_nil]
    simp [bare, complete]
  rw [hname, hbare]
  exact nameOf_qualified hqualifier hb driver

/-- The name of a type with its default import. -/
theorem Stock.nameOf_compactName (h : t.Stock driver)
    (complete : t.origin = Import.default? driver t.qualifier) :
    NameOf driver t.compactName.toList t.bare := by
  by_cases hq : t.qualifier = ""
  · have hname : t.compactName = t.base := by rw [compactName, if_pos hq]
    have hbare : t.bare = builtin (String.ofList t.base.toList) := by
      rw [hq, default?_empty] at complete
      simp [bare, builtin, hq, complete]
    rw [hname, hbare]
    exact nameOf_bare h.name driver
  · have hknown : t.qualifier ∈ Import.knownPackages := h.package.resolve_left hq
    obtain ⟨⟨path, localName⟩, hi⟩ :=
      Option.isSome_iff_exists.1 ((Import.isSome_default?_iff driver t.qualifier).2 hknown)
    obtain ⟨hlocal, hlegible⟩ := Import.legible_default? hi
    cases hlocal
    have ho : t.origin = some ⟨path, none⟩ := complete.trans hi
    by_cases hs : '/' ∈ path.toList
    · exact nameOf_compactName_of_path h.name hlegible hs hq ho (Import.bound_default? hi).2
    · exact nameOf_compactName_of_package h.name hs hknown ho complete

/-- Looking up an import does not touch the wrappers. -/
theorem withDefaultOrigin_withDepth (u : TargetType) (pointer : Bool) (depth : UInt32)
    (lookup : String → Option Import) :
    ({ u with pointer }.withDepth depth).withDefaultOrigin lookup =
      { u.withDefaultOrigin lookup with pointer }.withDepth depth := by
  by_cases h : u.origin = none ∧ u.qualifier ≠ ""
  · simp [withDefaultOrigin, withDepth, h]
  · simp [withDefaultOrigin, withDepth, h]

/-- What is written of a type with its default import reads as that type. -/
theorem Stock.reads_back (h : t.Stock driver)
    (complete : t.origin = Import.default? driver t.qualifier) :
    (parse? t.compact).map (·.withDefaultOrigin (Import.default? driver)) = some t := by
  obtain ⟨hstart, hlast, u, hu, hbare⟩ := h.nameOf_compactName complete
  have htext : t.compact.toList =
      brackets t.depth.toNat ++ (star t.pointer ++ t.compactName.toList) := by
    rw [compact_eq, wrapper_eq]
    simp
  have hread : parse? t.compact = some ({ u with pointer := t.pointer }.withDepth t.depth) := by
    rw [parse?, htext, readCompact_wrapped _ _ hstart hlast hu, UInt32.ofNat_toNat]
  rw [hread, Option.map_some, withDefaultOrigin_withDepth, hbare]
  simp [bare, withDepth, ← h.array]

/-! ## The types of the sources -/

/-- The tables state types under legible names, and give no dimension to what is no array. -/
theorem legible_tableTypes (engine : Engine) :
    ∀ t ∈ engine.tableTypes, LegibleName t.base.toList ∧ t.array = (t.depth != 0) := by
  cases engine with
  | postgresql => decide +kernel
  | mysql => decide +kernel
  | sqlite => decide +kernel

theorem stock_of_lookup {table : TypeTable} {column : Column}
    (h : table.lookup column = .resolved t) (driver : Driver) : t.Stock driver := by
  obtain ⟨hname, harray⟩ := legible_tableTypes _ _ (mem_tableTypes_of_lookup h)
  obtain ⟨horigin, hpackage⟩ := known_of_lookup h
  refine ⟨hname, harray, hpackage, fun i hi => ?_⟩
  rw [horigin] at hi
  cases hi

theorem stock_builtin {base : String} (h : LegibleName base.toList) (driver : Driver) :
    (builtin base).Stock driver :=
  ⟨h, rfl, .inl rfl, fun _ hi => nomatch hi⟩

theorem stock_untyped (driver : Driver) : untyped.Stock driver :=
  stock_builtin (by decide +kernel) driver

theorem stock_nullableComposite (o : Options) (driver : Driver) :
    (nullableComposite o).Stock driver := by
  unfold nullableComposite
  split
  · exact ⟨by decide +kernel, rfl, .inl rfl, fun _ hi => nomatch hi⟩
  · exact ⟨by decide +kernel, rfl, .inr (by decide), fun i hi => hi⟩

end TargetType

/-- The sources whose types no user has named: the engine's table, composite types and the placeholder. -/
def TypeSource.IsStock : TypeSource → Prop
  | placeholder _ => True
  | source => source.IsBuiltIn

theorem Answers.stock {o : Options} {c : Catalog} {column : Column} {source : TypeSource}
    (h : Answers o (.ofCatalog o c) column source) (hs : source.IsStock) (driver : Driver) :
    source.type.Stock driver := by
  cases h with
  | override => exact hs.elim
  | table _ ht => exact TargetType.stock_of_lookup ht driver
  | @custom _ entry _ _ hc =>
    show entry.type.Stock driver
    rcases type_of_mem_entries (List.mem_of_find?_eq_some hc) with ⟨hk, -⟩ | ⟨-, ht | ht⟩
    · exact absurd (hk.symm.trans hs) (by decide)
    · rw [ht]
      exact TargetType.stock_builtin (by decide +kernel) driver
    · rw [ht]
      exact TargetType.stock_nullableComposite o driver
  | placeholder => exact TargetType.stock_untyped driver

/-- Completing a type adds its default import and as many dimensions as it has room for. -/
theorem Completes.stock {driver : Driver} {found result : TargetType} {extra : Nat}
    (h : Completes driver found extra result) (hf : found.Stock driver)
    (fits : found.depth.toNat + extra < UInt32.size) :
    result.Stock driver ∧ result.origin = Import.default? driver result.qualifier := by
  have horigin : result.origin = Import.default? driver result.qualifier := by
    rw [h.origin, h.qualifier]
    cases ho : found.origin with
    | none => rfl
    | some i => rw [Option.some_or, hf.origin i ho]
  refine ⟨⟨?_, ?_, ?_, fun i hi => horigin.symm.trans hi⟩, horigin⟩
  · rw [h.base]
    exact hf.name
  · rw [h.array fits, hf.array, Bool.eq_iff_iff]
    simp only [Bool.or_eq_true, bne_iff_ne, decide_eq_true_eq, ← UInt32.toNat_inj.ne, h.depth fits]
    simp only [UInt32.toNat_zero]
    omega
  · rw [h.qualifier]
    exact hf.package

/-! ## Resolved types -/

/-- **Resolved types are read back.** Under accepted options a type that no user has named is, from its
compact form and the default import of its package, read as exactly what it is. The dimensions have to fit
into their count. -/
theorem resolve_reads_back {engine : Engine} {fallbackSchema : String} {run project : Json}
    {o : Options} (accepted : Options.ofDocumentsIn lib engine fallbackSchema run project = .ok o)
    {c : Catalog} {column : Column} {source : TypeSource}
    (answers : Answers o (.ofCatalog o c) column source) (stock : source.IsStock)
    (fits : source.type.depth.toNat + source.extraDepth column < UInt32.size) :
    (TargetType.parse? (o.resolve (.ofCatalog o c) column).type.compact).map
        (·.withDefaultOrigin (Import.default? o.driver)) =
      some (o.resolve (.ofCatalog o c) column).type := by
  obtain ⟨d, g, -, -, hs, -⟩ := Options.ofDocumentsIn_eq_ok_iff.1 accepted
  have hcompletes := answers.completes (driver_typeTable hs)
  obtain ⟨hstock, hcomplete⟩ := hcompletes.stock (answers.stock stock o.driver) fits
  exact hstock.reads_back hcomplete

/-- A run with the newest client package. -/
def meetingsRun : Json := .object [("package", .string "db"), ("sql_package", .string "pgx/v5")]

/-- What this run settles to. -/
def meetingsOptions : Options :=
  { Options.new .postgresql "db" with clientPackage := .pgxV5, driver := .pgxV5 }

/-- A two-dimensional array of several ranges of times each. -/
def slotsColumn : Column where
  name := "slots"
  isArray := true
  arrayDims := 2
  type := { name := "tstzmultirange" }

/-- The type of this column. -/
def slotsType : TargetType where
  base := "Multirange[pgtype.Range[pgtype.Timestamptz]]"
  qualifier := "pgtype"
  origin := some ⟨"github.com/jackc/pgx/v5/pgtype", none⟩
  array := true
  depth := 2

/-- The type is read back in spite of the dots and brackets of its type arguments. -/
theorem resolve_reads_back_slots :
    Options.ofDocumentsIn .standard .postgresql "public" meetingsRun .null = .ok meetingsOptions ∧
      (meetingsOptions.resolve (.ofCatalog meetingsOptions {}) slotsColumn).type = slotsType ∧
      slotsType.compact =
        "[][]github.com/jackc/pgx/v5/pgtype.Multirange[pgtype.Range[pgtype.Timestamptz]]" ∧
      (TargetType.parse? slotsType.compact).map (·.withDefaultOrigin (Import.default? .pgxV5)) =
        some slotsType := by
  have accepted : Options.ofDocumentsIn .standard .postgresql "public" meetingsRun .null = .ok meetingsOptions := by
    decide +kernel
  have inTable : meetingsOptions.typeTable.lookup slotsColumn =
      .resolved (Postgres.pgtype "Multirange[pgtype.Range[pgtype.Timestamptz]]") := by decide +kernel
  have answers : Answers meetingsOptions (.ofCatalog meetingsOptions {}) slotsColumn (.table _) :=
    .table rfl inTable
  have htype : (meetingsOptions.resolve (.ofCatalog meetingsOptions {}) slotsColumn).type = slotsType := by
    decide +kernel
  have hread := resolve_reads_back accepted answers trivial (by decide +kernel)
  rw [htype] at hread
  exact ⟨accepted, htype, by decide +kernel, hread⟩

end EntityModel
