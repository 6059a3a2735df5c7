import EntityModel.Override.Basic
import EntityModel.Proofs.Enforcement

/-!
# What an override entry has to say

An entry of the list of overrides is sound if it names columns or a type, and not both, and forces a type that
can be used. Where it names columns, its patterns also have to be compiled, which is for an engine to say.
`OverrideSpec.Refused` names what is wrong with any other entry, one fault at a time, and settling an entry refuses
it for its first fault (`Override.ofSpec_enforces`).
-/

namespace EntityModel

open Text

/-! ## Entries and their faults -/

/-- How many parts a dotted specifier has. -/
def partCount (s : String) : Nat := s.toList.count '.' + 1

/-- A forced type that can be used. -/
def TypeSpec.Sound : TypeSpec → Prop
  | .compact text => trim text.toList ≠ [] ∧ (TargetType.parse? text).isSome
  | .parts d =>
    d.name ≠ "" ∧ (d.package ≠ "" → d.importPath ≠ "") ∧
      (d.importPath = "" → (TargetType.parse? d.name).isSome)

/-- What is wrong with a forced type, one thing at a time. -/
inductive TypeSpec.Refused : TypeSpec → ConfigError → Prop where
  | missing {text : String} (blank : trim text.toList = []) : Refused (.compact text) .overrideTypeMissing
  | unreadable {text : String} (unreadable : TargetType.parse? text = none) :
    Refused (.compact text) (.invalidType text)
  | nameMissing {d : TypeParts} (unnamed : d.name = "") : Refused (.parts d) .overrideTypeNameMissing
  | packageWithoutImport {d : TypeParts} (named : d.name ≠ "") (noImport : d.importPath = "")
      (package : d.package ≠ "") :
    Refused (.parts d) (.overridePackageWithoutImport d.package)
  | nameUnreadable {d : TypeParts} (named : d.name ≠ "") (noImport : d.importPath = "")
      (unreadable : TargetType.parse? d.name = none) :
    Refused (.parts d) (.invalidType d.name)

/-- An entry that states a rule: it names columns or a type, and not both, and forces a type. -/
structure OverrideSpec.Sound (spec : OverrideSpec) : Prop where
  oneKind : spec.column = "" ↔ spec.dbType ≠ ""
  parts : spec.column ≠ "" → 2 ≤ partCount spec.column ∧ partCount spec.column ≤ 4
  type : spec.type.Sound

/-- The engine takes the expression of the pattern. -/
def Pattern.Compiles (lib : Libraries) (p : Pattern) : Prop := ∃ found, lib.compile p.expression = .ok found

/-- The engine refuses the expression of the pattern, which is reported with what it says. -/
def Pattern.RefusedBy (lib : Libraries) (p : Pattern) (e : Error) : Prop :=
  ∃ cause, lib.compile p.expression = .error cause ∧ e = .pattern p.source cause

/-- The patterns of a dotted specifier: its parts, behind the default schema where they are a table and a column. -/
def specifierPatterns (spec defaultSchema : String) : List Pattern :=
  let parts := (splitOn '.' spec.toList).map fun part => Pattern.mk (String.ofList part)
  if partCount spec = 2 then ⟨defaultSchema⟩ :: parts else parts

/-- The patterns of the columns that an entry names can be compiled. -/
def OverrideSpec.Compiles (lib : Libraries) (defaultSchema : String) (spec : OverrideSpec) : Prop :=
  spec.column ≠ "" → ∀ p ∈ specifierPatterns spec.column defaultSchema, p.Compiles lib

/-- What is wrong with an entry. Its columns are looked at before its type, and their number before their patterns. -/
inductive OverrideSpec.Refused (lib : Libraries) (defaultSchema : String) (spec : OverrideSpec) : Error → Prop where
  | both (named : spec.column ≠ "") (typed : spec.dbType ≠ "") :
    spec.Refused lib defaultSchema (.config (.overrideOfColumnAndType spec.column spec.dbType))
  | neither (unnamed : spec.column = "") (untyped : spec.dbType = "") :
    spec.Refused lib defaultSchema (.config .overrideOfNothing)
  | parts (named : spec.column ≠ "") (untyped : spec.dbType = "")
      (count : ¬ (2 ≤ partCount spec.column ∧ partCount spec.column ≤ 4)) :
    spec.Refused lib defaultSchema (.config (.overrideColumnParts spec.column))
  | pattern {p : Pattern} {e : Error} (named : spec.column ≠ "") (untyped : spec.dbType = "")
      (count : 2 ≤ partCount spec.column ∧ partCount spec.column ≤ 4)
      (first : IsFirst (fun p => ¬ p.Compiles lib) (specifierPatterns spec.column defaultSchema) p)
      (refused : p.RefusedBy lib e) :
    spec.Refused lib defaultSchema e
  | type {cause : ConfigError} (oneKind : spec.column = "" ↔ spec.dbType ≠ "")
      (parts : spec.column ≠ "" → 2 ≤ partCount spec.column ∧ partCount spec.column ≤ 4)
      (compiles : spec.Compiles lib defaultSchema) (refused : spec.type.Refused cause) :
    spec.Refused lib defaultSchema (.config cause)

/-! ## Forced types -/

/-- A text is parsed or reported as it stands. -/
theorem TargetType.parse_cases (s : String) :
    (∃ t, TargetType.parse? s = some t ∧ TargetType.parse s = .ok t) ∨
      (TargetType.parse? s = none ∧ TargetType.parse s = .error (.config (.invalidType s))) := by
  unfold TargetType.parse
  cases TargetType.parse? s with
  | some t => exact .inl ⟨t, rfl, rfl⟩
  | none => exact .inr ⟨rfl, rfl⟩

/-- What is wrong is reported as an error of the configuration. -/
def AsConfig {α : Type} (refused : α → ConfigError → Prop) (a : α) (e : Error) : Prop :=
  ∃ cause, e = .config cause ∧ refused a cause

theorem TypeParts.named_enforces {d : TypeParts} (named : d.name ≠ "")
    (imported : d.package ≠ "" → d.importPath ≠ "") :
    Enforces TypeSpec.Sound (AsConfig TypeSpec.Refused) [.parts d] d.named := by
  unfold TypeParts.named
  by_cases hpath : d.importPath = ""
  · rw [if_pos hpath]
    rcases TargetType.parse_cases d.name with ⟨t, hparse, heq⟩ | ⟨hparse, heq⟩
    · rw [heq]
      exact .accept ⟨named, imported, fun _ => by simp [hparse]⟩
    · rw [heq]
      exact .refuse (fun hsound => by simpa [hparse] using hsound.2.2 hpath)
        ⟨_, rfl, .nameUnreadable named hpath hparse⟩
  · rw [if_neg hpath]
    exact .accept ⟨named, imported, fun h => absurd h hpath⟩

theorem TypeSpec.type_enforces (spec : TypeSpec) :
    Enforces TypeSpec.Sound (AsConfig TypeSpec.Refused) [spec] spec.type := by
  cases spec with
  | compact text =>
    rw [TypeSpec.type]
    by_cases hblank : trim text.toList = []
    · rw [if_pos hblank]
      exact .refuse (fun hsound => hsound.1 hblank) ⟨_, rfl, .missing hblank⟩
    · rw [if_neg hblank]
      rcases TargetType.parse_cases text with ⟨t, hparse, heq⟩ | ⟨hparse, heq⟩
      · rw [heq]
        exact .accept ⟨hblank, by simp [hparse]⟩
      · rw [heq]
        exact .refuse (fun hsound => by simpa [hparse] using hsound.2) ⟨_, rfl, .unreadable hparse⟩
  | parts d =>
    rw [TypeSpec.type, TypeParts.type]
    by_cases hname : d.name = ""
    · rw [if_pos hname]
      exact .refuse (fun hsound => hsound.1 hname) ⟨_, rfl, .nameMissing hname⟩
    rw [if_neg hname]
    by_cases hpackage : d.importPath = "" ∧ d.package ≠ ""
    · rw [if_pos hpackage]
      exact .refuse (fun hsound => hsound.2.1 hpackage.2 hpackage.1)
        ⟨_, rfl, .packageWithoutImport hname hpackage.1 hpackage.2⟩
    · rw [if_neg hpackage]
      exact (TypeParts.named_enforces hname fun hp hi => hpackage ⟨hi, hp⟩).map _

/-! ## Selected columns -/

theorem length_splitOn (s : String) : (splitOn '.' s.toList).length = partCount s := by
  rw [splitOn, length_splitBy, partCount, List.count]

/-- The patterns of a specifier of two to four parts are the patterns that it selects by. -/
theorem ColumnSelector.named?_cases (spec defaultSchema : String) :
    (∃ selector, ColumnSelector.named? spec defaultSchema = some selector ∧
        (2 ≤ partCount spec ∧ partCount spec ≤ 4) ∧ selector.patterns = specifierPatterns spec defaultSchema) ∨
      (ColumnSelector.named? spec defaultSchema = none ∧ ¬ (2 ≤ partCount spec ∧ partCount spec ≤ 4)) := by
  have hparts : (splitOn '.' spec.toList).map (fun part => Pattern.mk (String.ofList part)) =
      ((splitOn '.' spec.toList).map String.ofList).map Pattern.mk := by rw [List.map_map]; rfl
  have hcount : ((splitOn '.' spec.toList).map String.ofList).length = partCount spec := by
    rw [List.length_map, length_splitOn]
  rw [specifierPatterns, hparts, ← hcount, ColumnSelector.named?]
  match (splitOn '.' spec.toList).map String.ofList with
  | [] => exact .inr ⟨rfl, by simp⟩
  | [_] => exact .inr ⟨rfl, by simp⟩
  | [_, _] => exact .inl ⟨_, rfl, by simp, rfl⟩
  | [_, _, _] => exact .inl ⟨_, rfl, by simp, rfl⟩
  | [_, _, _, _] => exact .inl ⟨_, rfl, by simp, rfl⟩
  | _ :: _ :: _ :: _ :: _ :: _ => exact .inr ⟨rfl, by simp⟩

section Patterns

variable {lib : Libraries}

theorem Pattern.check_enforces (p : Pattern) :
    Enforces (Pattern.Compiles lib) (Pattern.RefusedBy lib) [p] (p.check lib) := by
  unfold Pattern.check
  cases hcompile : lib.compile p.expression with
  | ok found => exact .accept ⟨found, hcompile⟩
  | error cause =>
    refine .refuse ?_ ⟨cause, hcompile, rfl⟩
    rintro ⟨found, h⟩
    rw [hcompile] at h
    cases h

/-- A specifier with the right number of parts is refused for the first of its patterns that cannot be compiled. -/
theorem ColumnSelector.ofColumnSpec_enforces (defaultSchema : String) {spec : String}
    (count : 2 ≤ partCount spec ∧ partCount spec ≤ 4) :
    Enforces (Pattern.Compiles lib) (Pattern.RefusedBy lib) (specifierPatterns spec defaultSchema)
      (ColumnSelector.ofColumnSpec lib spec defaultSchema) := by
  rcases ColumnSelector.named?_cases spec defaultSchema with ⟨selector, hnamed, -, hpatterns⟩ | ⟨-, hcount⟩
  · rw [← hpatterns, ColumnSelector.ofColumnSpec, hnamed]
    exact (Enforces.mapM Pattern.check_enforces _).map fun _ => selector
  · exact absurd count hcount

theorem ColumnSelector.ofSpec_cases (lib : Libraries) (spec : OverrideSpec) (engine : Engine)
    (defaultSchema : String) :
    (∃ selector, ColumnSelector.ofSpec lib spec engine defaultSchema = .ok selector ∧
        (spec.column = "" ↔ spec.dbType ≠ "") ∧
        (spec.column ≠ "" → 2 ≤ partCount spec.column ∧ partCount spec.column ≤ 4) ∧
        spec.Compiles lib defaultSchema) ∨
      (∃ e, ColumnSelector.ofSpec lib spec engine defaultSchema = .error e ∧
        spec.Refused lib defaultSchema e ∧ ¬ (spec.Sound ∧ spec.Compiles lib defaultSchema)) := by
  rw [ColumnSelector.ofSpec]
  by_cases hcolumn : spec.column = ""
  · rw [if_pos hcolumn]
    by_cases htype : spec.dbType = ""
    · rw [if_pos htype]
      exact .inr ⟨_, rfl, .neither hcolumn htype, fun h => h.1.oneKind.1 hcolumn htype⟩
    · rw [if_neg htype]
      exact .inl ⟨_, rfl, by simp [hcolumn, htype], fun h => absurd hcolumn h, fun h => absurd hcolumn h⟩
  rw [if_neg hcolumn]
  by_cases htype : spec.dbType = ""
  · rw [if_pos htype]
    by_cases hcount : 2 ≤ partCount spec.column ∧ partCount spec.column ≤ 4
    · have henforces : Enforces (Pattern.Compiles lib) (Pattern.RefusedBy lib) _ _ :=
        ofColumnSpec_enforces defaultSchema hcount
      cases hspec : ofColumnSpec lib spec.column defaultSchema with
      | ok selector =>
        rw [hspec] at henforces
        exact .inl ⟨selector, rfl, by simp [hcolumn, htype], fun _ => hcount,
          fun _ => henforces.exists_ok_iff.1 ⟨selector, rfl⟩⟩
      | error e =>
        rw [hspec] at henforces
        obtain ⟨p, first, refused⟩ := henforces.of_error
        exact .inr ⟨e, rfl, .pattern hcolumn htype hcount first refused,
          fun h => first.holds (h.2 hcolumn p first.mem)⟩
    · have hnone : ofColumnSpec lib spec.column defaultSchema =
          .error (.config (.overrideColumnParts spec.column)) := by
        rcases named?_cases spec.column defaultSchema with ⟨_, -, h, -⟩ | ⟨hnamed, -⟩
        · exact absurd h hcount
        · rw [ofColumnSpec, hnamed]
      exact .inr ⟨_, hnone, .parts hcolumn htype hcount, fun h => hcount (h.1.parts hcolumn)⟩
  · rw [if_neg htype]
    exact .inr ⟨_, rfl, .both hcolumn htype, fun h => hcolumn (h.1.oneKind.2 htype)⟩

theorem Override.ofSpec_enforces (lib : Libraries) (engine : Engine) (defaultSchema : String)
    (spec : OverrideSpec) :
    Enforces (fun spec => spec.Sound ∧ spec.Compiles lib defaultSchema)
      (OverrideSpec.Refused lib defaultSchema) [spec] (Override.ofSpec lib spec engine defaultSchema) := by
  unfold Override.ofSpec
  rcases ColumnSelector.ofSpec_cases lib spec engine defaultSchema with
    ⟨selector, heq, oneKind, parts, compiles⟩ | ⟨e, heq, hrefused, hunsound⟩
  · rw [heq]
    refine ((TypeSpec.type_enforces spec.type).map (Override.mk selector)).collect ?_ ?_
    · rw [List.forall_mem_singleton]
      exact ⟨fun htype => ⟨⟨oneKind, parts, htype⟩, compiles⟩, fun h => h.1.type⟩
    · rintro type e hfirst ⟨cause, rfl, hrefused⟩
      rw [List.mem_singleton.1 hfirst.mem] at hrefused
      exact .type oneKind parts compiles hrefused
  · rw [heq]
    exact .refuse hunsound hrefused

end Patterns

end EntityModel
