import EntityModel.Proofs.BoundQualifier
import EntityModel.Proofs.PathNames

/-!
# Forced types with an import

An override may force a type of a package, with an import path in front of the base name or with an import of its
own. The type is then written with the package in front of it, as long as there is a name for the package: the
local name of the import, or the one that its path implies. A path that implies none is accepted too, and so is a
blank base name beside an import of its own, although neither a qualifier nor a base name may be missing in compact
form.

Main statement: a forced type with an import is without a package exactly if the import has no local name and a path
that implies none, and without a base name exactly if it is given in parts with a blank name (`ofSpec_imported_iff`).
-/

namespace EntityModel

variable {lib : Libraries}

open Text

/-! ## What an import is known under -/

theorem localName_of_parse? {s : String} {t : TargetType} {i : Import} (read : TargetType.parse? s = some t)
    (imported : t.origin = some i) : i.localName = none := by
  obtain ⟨_, _, name, u, -, -, hu, rfl⟩ := TargetType.exists_name_of_readCompact read
  have himported : u.origin = some i := imported
  rcases TargetType.readNamed_cases hu with rfl | ⟨_, _, -, -, -, rfl⟩
  · cases himported
  · exact TargetType.localName_ofParts himported

/-- A type in parts is read from its name, or has that name and the import given beside it. -/
theorem named_cases {d : TypeParts} {t : TargetType} (h : d.named = .ok t) :
    TargetType.parse? d.name = some t ∨
      t.base = d.name ∧ t.origin = some (.aliased d.importPath d.package) := by
  unfold TypeParts.named at h
  split at h
  · exact .inl (TargetType.parse_eq_ok_iff.1 h)
  · next hpath =>
    cases h
    exact .inr ⟨rfl, by simp [TargetType.withOrigin, Import.aliased, hpath]⟩

theorem localName_aliased_ne (path package : String) : (Import.aliased path package).localName ≠ some "" := by
  unfold Import.aliased
  by_cases h : package = ""
  · simp [h]
  · simp [h]

/-- No import is given the empty name. -/
theorem localName_ne_of_typeSpec {spec : TypeSpec} {t : TargetType} {i : Import} (h : spec.type = .ok t)
    (imported : t.origin = some i) : i.localName ≠ some "" := by
  have of_parse? : ∀ {s u}, TargetType.parse? s = some u → u.origin = some i → i.localName ≠ some "" := by
    intro s u read hi
    rw [localName_of_parse? read hi]
    nofun
  cases spec with
  | compact text => exact of_parse? (parse?_of_typeCompact h) imported
  | parts d =>
    obtain ⟨named, hnamed, -, -, horigin⟩ := exists_named_of_typeParts h
    rw [horigin] at imported
    rcases named_cases hnamed with read | ⟨-, haliased⟩
    · exact of_parse? read imported
    · rw [imported, Option.some.injEq] at haliased
      rw [haliased]
      exact localName_aliased_ne d.importPath d.package

/-- A forced type is without a qualifier if nothing gives its import a name. -/
theorem qualifier_eq_empty_iff {spec : TypeSpec} {t : TargetType} {i : Import} (h : spec.type = .ok t)
    (imported : t.origin = some i) :
    t.qualifier = "" ↔ i.localName = none ∧ PackagePath.Nameless i.path.toList := by
  obtain ⟨-, hbound⟩ := bound_of_typeSpec h i imported
  rw [hbound, Import.boundName]
  cases hlocal : i.localName with
  | none => simp [PackagePath.name_eq_empty_iff]
  | some name =>
    have hne : name ≠ "" := by
      rintro rfl
      exact localName_ne_of_typeSpec h imported hlocal
    simp [hne]

/-! ## Base names -/

theorem trim_base_eq_nil_iff {spec : TypeSpec} {t : TargetType} (h : spec.type = .ok t) :
    trim t.base.toList = [] ↔ ∃ d, spec = .parts d ∧ trim d.name.toList = [] := by
  cases spec with
  | compact text =>
    have hbase := TargetType.trim_base_ne_nil_of_parse? (parse?_of_typeCompact h)
    simp [hbase]
  | parts d =>
    obtain ⟨named, hnamed, hbase, -, -⟩ := exists_named_of_typeParts h
    rw [hbase]
    rcases named_cases hnamed with read | ⟨hname, -⟩
    · have hread := TargetType.trim_base_ne_nil_of_parse? read
      obtain ⟨_, _, name, _, htext, hne, -, -⟩ := TargetType.exists_name_of_readCompact read
      have htrim : trim d.name.toList ≠ [] := by
        rw [← htext]
        simp [hne]
      simp [hread, htrim]
    · rw [hname]
      simp

/-- A type is written without a package exactly if it has none. -/
theorem unwrapped_eq_base_iff (t : TargetType) : t.unwrapped = t.base ↔ t.qualifier = "" := by
  unfold TargetType.unwrapped TargetType.qualify
  by_cases h : t.qualifier = ""
  · simp [h]
  · rw [if_neg h, iff_false_right h]
    intro he
    have hlength := congrArg String.length he
    simp only [String.length_append] at hlength
    have hdot : ".".length = 1 := rfl
    omega

/-- **Forced types with an import.** The type of an accepted entry is without a package, and written without one,
exactly if its import has no local name and a path that implies no package name; it is without a base name exactly
if it is given in parts with a blank name. -/
theorem ofSpec_imported_iff {spec : OverrideSpec} {engine : Engine} {defaultSchema : String} {rule : Override}
    {i : Import} (parsed : Override.ofSpec lib spec engine defaultSchema = .ok rule)
    (imported : rule.type.origin = some i) :
    (rule.type.qualifier = "" ↔ i.localName = none ∧ PackagePath.Nameless i.path.toList) ∧
      (rule.type.unwrapped = rule.type.base ↔ i.localName = none ∧ PackagePath.Nameless i.path.toList) ∧
      (trim rule.type.base.toList = [] ↔ ∃ d, spec.type = .parts d ∧ trim d.name.toList = []) := by
  have htype : spec.type.type = .ok rule.type := (ofSpec_eq_ok_iff.1 parsed).2
  have hqualifier := qualifier_eq_empty_iff htype imported
  exact ⟨hqualifier, (unwrapped_eq_base_iff rule.type).trans hqualifier, trim_base_eq_nil_iff htype⟩

/-- An entry that forces a type for the ids of users. -/
def userIdSpec (type : TypeSpec) : OverrideSpec where
  column := "users.id"
  type := type

/-- The rule of this entry. -/
def userIdRule (type : TargetType) : Override where
  selector := .named ⟨none, ⟨"public"⟩, ⟨"users"⟩⟩ ⟨"id"⟩
  type := type

/-- A type with an import, under a qualifier. -/
def importedType (i : Import) (qualifier base : String) : TargetType := { base, qualifier, origin := some i }

/-- A local name stands in for the one that the path does not imply. -/
theorem ofSpec_imported_iff_local :
    Override.ofSpec .standard (userIdSpec (.parts { importPath := "example.com/ids/", package := "ids", name := "ID" }))
        .postgresql "public" =
      .ok (userIdRule (importedType ⟨"example.com/ids/", some "ids"⟩ "ids" "ID")) ∧
    PackagePath.Nameless "example.com/ids/".toList ∧
    (importedType ⟨"example.com/ids/", some "ids"⟩ "ids" "ID").unwrapped = "ids.ID" ∧
    (importedType ⟨"example.com/ids/", some "ids"⟩ "ids" "ID").qualifier ≠ "" := by
  have parsed : Override.ofSpec .standard
      (userIdSpec (.parts { importPath := "example.com/ids/", package := "ids", name := "ID" }))
        .postgresql "public" =
      .ok (userIdRule (importedType ⟨"example.com/ids/", some "ids"⟩ "ids" "ID")) := by
    decide
  obtain ⟨hqualifier, -, -⟩ := ofSpec_imported_iff parsed rfl
  refine ⟨parsed, by decide, by decide, fun h => ?_⟩
  obtain ⟨hlocal, -⟩ := hqualifier.1 h
  exact absurd hlocal (by decide)

/-- An import path that ends in a slash, in compact form and in parts, and a blank name: all of them are accepted,
and give imported types that are written without their package or have no name. -/
theorem ofSpec_imported_without_package :
    Override.ofSpec .standard (userIdSpec (.compact "example.com/ids/.ID")) .postgresql "public" =
        .ok (userIdRule (importedType ⟨"example.com/ids/", none⟩ "" "ID")) ∧
      Override.ofSpec .standard (userIdSpec (.parts { importPath := "example.com/ids/", name := "ID" }))
          .postgresql "public" =
        .ok (userIdRule (importedType ⟨"example.com/ids/", none⟩ "" "ID")) ∧
      (importedType ⟨"example.com/ids/", none⟩ "" "ID").unwrapped = "ID" ∧
      Override.ofSpec .standard (userIdSpec (.parts { importPath := "example.com/ids", name := " " }))
          .postgresql "public" =
        .ok (userIdRule (importedType ⟨"example.com/ids", none⟩ "ids" " ")) ∧
      trim " ".toList = [] := by
  decide

end EntityModel
