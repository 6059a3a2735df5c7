import EntityModel.Document.PlainScalar
import EntityModel.Json.Basic

/-!
# Document trees

What a JSON or YAML text holds before anything is asked of it. A tree still tells apart what a value no
longer does: members given twice, plain scalars whose meaning depends on what is expected, and parts that
are well delimited and can be passed over but hold no value. `value?` takes the value out of a tree, and a
tree made from a value whose objects name each member once gives that value back (`value?_ofJson`).
-/

namespace EntityModel.Document

/-- A node of a document tree. -/
inductive Node where
  | null
  | bool (b : Bool)
  | int (n : Int)
  | decimal (d : Decimal)
  | string (s : String)
  /-- Unquoted text, which is a number, a Boolean or null where no text is expected. -/
  | plain (s : String)
  /-- A list that may also give the fields of a record by their position. -/
  | array (items : List Node)
  /-- A list that is nothing but a list. -/
  | sequence (items : List Node)
  | map (entries : List (String × Node))
  /-- A part that may be passed over but holds no value: half a surrogate pair, a number out of range,
  or nesting that is too deep. -/
  | unusable
  deriving Repr, Inhabited

namespace Node

/-- The range of whole numbers in a value: those of a signed or an unsigned 64-bit word. -/
def isWholeNumber (n : Int) : Bool := -Int.pow 2 63 ≤ n && n < Int.pow 2 64

/-- The range of whole numbers that are still read as such, and refused, beyond that. -/
def isWideNumber (n : Int) : Bool := -Int.pow 2 127 ≤ n && n < Int.pow 2 128

/-- The value of unquoted text. -/
def plainValue? (s : String) : Option Json :=
  let cs := s.toList
  if PlainScalar.isNull cs then some .null
  else
    match PlainScalar.bool? cs, PlainScalar.int? cs, PlainScalar.float? cs with
    | some b, _, _ => some (.bool b)
    | none, some (_, n), number =>
      if isWholeNumber n then some (.int n)
      else if isWideNumber n then none
      else some (match number with | some d => .decimal d | none => .string s)
    | none, none, some d => some (.decimal d)
    | none, none, none => some (if PlainScalar.isNonFinite cs then .null else .string s)

/-- A map from entries, some of which may have a name that is no text; such a name spoils the map. -/
def ofEntries (entries : List (Option String × Node)) : Node :=
  match entries.mapM fun e => e.1.map fun name => (name, e.2) with
  | some entries => .map entries
  | none => .unusable

/-- A node that lies in `depth` lists and maps, usable as long as that is within the limit. -/
def within (limit depth : Nat) (n : Node) : Node := if depth ≤ limit then n else .unusable

mutual

/-- The value that a tree holds, if all of it is usable. Of the members given twice the last counts. -/
def value? : Node → Option Json
  | .null => some .null
  | .bool b => some (.bool b)
  | .int n => some (.int n)
  | .decimal d => some (.decimal d)
  | .string s => some (.string s)
  | .plain s => plainValue? s
  | .array items => (values? items).map .array
  | .sequence items => (values? items).map .array
  | .map entries => (entryValues? entries).map fun members => .object (Json.lastMembers members)
  | .unusable => none

/-- The values of a list of trees. -/
def values? : List Node → Option (List Json)
  | [] => some []
  | n :: rest =>
    match value? n, values? rest with
    | some v, some vs => some (v :: vs)
    | _, _ => none

/-- The values of named trees. -/
def entryValues? : List (String × Node) → Option (List (String × Json))
  | [] => some []
  | (name, n) :: rest =>
    match value? n, entryValues? rest with
    | some v, some vs => some ((name, v) :: vs)
    | _, _ => none

end

mutual

/-- The tree of a value. -/
def ofJson : Json → Node
  | .null => .null
  | .bool b => .bool b
  | .int n => .int n
  | .decimal d => .decimal d
  | .string s => .string s
  | .array items => .array (ofItems items)
  | .object members => .map (ofMembers members)

/-- The trees of the items of an array. -/
def ofItems : List Json → List Node
  | [] => []
  | v :: rest => ofJson v :: ofItems rest

/-- The trees of the members of an object. -/
def ofMembers : List (String × Json) → List (String × Node)
  | [] => []
  | (name, v) :: rest => (name, ofJson v) :: ofMembers rest

end

mutual

/-- The tree of a value gives the value back. -/
theorem value?_ofJson : ∀ {v : Json}, v.Distinct → value? (ofJson v) = some v
  | .null, _ | .bool _, _ | .int _, _ | .decimal _, _ | .string _, _ => by simp [ofJson, value?]
  | .array items, h => by
    rw [Json.Distinct] at h
    simp [ofJson, value?, values?_ofItems h]
  | .object members, h => by
    rw [Json.Distinct] at h
    simp [ofJson, value?, entryValues?_ofMembers h.2, Json.lastMembers_of_distinct h.1]

theorem values?_ofItems : ∀ {items : List Json}, Json.DistinctItems items →
    values? (ofItems items) = some items
  | [], _ => by simp [ofItems, values?]
  | v :: rest, h => by
    rw [Json.DistinctItems] at h
    simp [ofItems, values?, value?_ofJson h.1, values?_ofItems h.2]

theorem entryValues?_ofMembers : ∀ {members : List (String × Json)}, Json.DistinctMembers members →
    entryValues? (ofMembers members) = some members
  | [], _ => by simp [ofMembers, entryValues?]
  | (_, v) :: rest, h => by
    rw [Json.DistinctMembers] at h
    simp [ofMembers, entryValues?, value?_ofJson h.1, entryValues?_ofMembers h.2]

end

end Node

end EntityModel.Document
