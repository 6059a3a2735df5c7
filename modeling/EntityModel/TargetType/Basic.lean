import EntityModel.Import

/-!
# Target types

The type of a field or an entity in the generated code: a base name, the package it is qualified by, what
has to be imported for that package, and the pointer and array wrappers around it.
-/

namespace EntityModel

/-- A type of the generated code, such as `[]*pgtype.Int4`. `origin` is the import that binds
`qualifier`; `array` tells whether the type is an array and `depth` of how many dimensions. -/
structure TargetType where
  base : String
  qualifier : String := ""
  origin : Option Import := none
  pointer : Bool := false
  array : Bool := false
  depth : UInt32 := 0
  deriving DecidableEq, Repr, Inhabited

namespace TargetType

/-- A type that needs no package, such as `int32`. -/
def builtin (base : String) : TargetType := { base }

/-- A type of a package, such as `sql.NullString`. -/
def qualified (qualifier base : String) : TargetType := { base, qualifier }

/-- The base name of the untyped placeholder. -/
def untypedBase : String := "interface\x7b\x7d"

/-- The placeholder for values whose type is not known. -/
def untyped : TargetType := builtin untypedBase

/-- Whether a 32-bit word can count so many dimensions more. -/
def hasRoom (t : TargetType) (dimensions : UInt32) : Bool := t.depth.toNat + dimensions.toNat < UInt32.size

/-- The type with one more array dimension, counted modulo the size of a 32-bit word. -/
def slice (t : TargetType) : TargetType := { t with array := true, depth := t.depth + 1 }

/-- The type with one more array dimension, none if a word cannot count it: the addition overflows. -/
def slice? (t : TargetType) : Option TargetType := if t.hasRoom 1 then some t.slice else none

/-- A byte string, `[]byte`. -/
def bytes : TargetType := (builtin "byte").slice

/-- A pointer to the type. A pointer stays a pointer. -/
def toPointer (t : TargetType) : TargetType := { t with pointer := true }

/-- The type with exactly that many array dimensions; none at all means that it is no array. -/
def withDepth (t : TargetType) (depth : UInt32) : TargetType :=
  { t with array := depth != 0, depth }

/-- The type with that import; an import without a path removes it. -/
def withOrigin (t : TargetType) (origin : Import) : TargetType :=
  { t with origin := if origin.path = "" then none else some origin }

/-- The type with the import that a lookup gives for its package, if the type names a package and has
no import yet. -/
def withDefaultOrigin (t : TargetType) (lookup : String → Option Import) : TargetType :=
  if t.origin = none ∧ t.qualifier ≠ "" then { t with origin := lookup t.qualifier } else t

/-- Whether the type is the untyped placeholder, whatever wraps it. -/
def isUntyped (t : TargetType) : Bool := t.qualifier = "" && t.base = untypedBase

/-- The wrappers as written in front of the type. -/
def wrapper (t : TargetType) : String :=
  String.ofList ((List.replicate t.depth.toNat ['[', ']']).flatten ++ if t.pointer then ['*'] else [])

/-- A base name behind a qualifier and a dot; nothing stands before it when there is no qualifier. -/
def qualify (qualifier base : String) : String :=
  if qualifier = "" then base else qualifier ++ "." ++ base

/-- The type without its wrappers, as code refers to it. -/
def unwrapped (t : TargetType) : String := qualify t.qualifier t.base

/-- The type as written in code. -/
def display (t : TargetType) : String := t.wrapper ++ t.unwrapped

/-! ## What the operations change -/

theorem withDefaultOrigin_of_origin {t : TargetType} {lookup : String → Option Import}
    (h : t.origin ≠ none) : t.withDefaultOrigin lookup = t := by
  simp [withDefaultOrigin, h]

theorem withDefaultOrigin_of_no_qualifier {t : TargetType} {lookup : String → Option Import}
    (h : t.qualifier = "") : t.withDefaultOrigin lookup = t := by
  simp [withDefaultOrigin, h]

@[simp] theorem base_withDefaultOrigin (t : TargetType) (lookup : String → Option Import) :
    (t.withDefaultOrigin lookup).base = t.base := by
  unfold withDefaultOrigin; split <;> rfl

@[simp] theorem qualifier_withDefaultOrigin (t : TargetType) (lookup : String → Option Import) :
    (t.withDefaultOrigin lookup).qualifier = t.qualifier := by
  unfold withDefaultOrigin; split <;> rfl

@[simp] theorem pointer_withDefaultOrigin (t : TargetType) (lookup : String → Option Import) :
    (t.withDefaultOrigin lookup).pointer = t.pointer := by
  unfold withDefaultOrigin; split <;> rfl

@[simp] theorem array_withDefaultOrigin (t : TargetType) (lookup : String → Option Import) :
    (t.withDefaultOrigin lookup).array = t.array := by
  unfold withDefaultOrigin; split <;> rfl

@[simp] theorem depth_withDefaultOrigin (t : TargetType) (lookup : String → Option Import) :
    (t.withDefaultOrigin lookup).depth = t.depth := by
  unfold withDefaultOrigin; split <;> rfl

/-- Looking up the default import a second time changes nothing. -/
theorem withDefaultOrigin_idem (t : TargetType) (lookup : String → Option Import) :
    (t.withDefaultOrigin lookup).withDefaultOrigin lookup = t.withDefaultOrigin lookup := by
  by_cases h : t.origin = none ∧ t.qualifier ≠ ""
  · simp [withDefaultOrigin, h]
  · simp [withDefaultOrigin, h]

end TargetType

end EntityModel
