import EntityModel.Document.Fault
import EntityModel.Document.Node

/-!
# Taking values out of document trees

The readers that the formats of requests and options are built from. Nothing is coerced: a flag has to
be a Boolean, a text a text, a number a whole number in range; only unquoted text is read as whatever is
asked for. A record is a map from field names, in which unknown names are passed over and a known name may
stand once, or a list of its fields in their order. An absent field has a default.
-/

namespace EntityModel.Document

/-- The fields given for a record, by name. -/
abbrev Fields := List (String × Node)

namespace Node

/-- The text of a node. -/
def text : Node → Except Fault String
  | .string s => .ok s
  | .plain s => .ok s
  | _ => .error (.expected "a text")

/-- The Boolean of a node. -/
def flag : Node → Except Fault Bool
  | .bool b => .ok b
  | .plain s =>
    match PlainScalar.bool? s.toList with
    | some b => .ok b
    | none => .error (.expected "a Boolean")
  | _ => .error (.expected "a Boolean")

/-- The 32-bit unsigned number of a node. Unquoted text has no minus sign then, not even before a zero. -/
def word : Node → Except Fault UInt32
  | .int n => ofInt n
  | .plain s =>
    match PlainScalar.int? s.toList with
    | some (false, n) => ofInt n
    | _ => .error (.expected "an unsigned number")
  | _ => .error (.expected "an unsigned number")
where
  /-- A number in the range of 32 bits. -/
  ofInt (n : Int) : Except Fault UInt32 :=
    if 0 ≤ n ∧ n < Int.pow 2 32 then .ok (UInt32.ofNat n.toNat) else .error (.expected "an unsigned number")

/-- The 32-bit signed number of a node. -/
def signedWord : Node → Except Fault Int32
  | .int n => ofInt n
  | .plain s =>
    match PlainScalar.int? s.toList with
    | some (_, n) => ofInt n
    | none => .error (.expected "a number")
  | _ => .error (.expected "a number")
where
  /-- A number in the range of 32 bits with a sign. -/
  ofInt (n : Int) : Except Fault Int32 :=
    if -Int.pow 2 31 ≤ n ∧ n < Int.pow 2 31 then .ok (Int32.ofInt n) else .error (.expected "a number")

/-- The value of a node, whatever it is. -/
def value (n : Node) : Except Fault Json :=
  match n.value? with
  | some v => .ok v
  | none => .error .malformed

/-- The items of a list, each read in the same way. Nothing at all is the empty list. -/
def list {α : Type} (read : Node → Except Fault α) : Node → Except Fault (List α)
  | .array items => items.mapM read
  | .sequence items => items.mapM read
  | .plain "" => .ok []
  | _ => .error (.expected "a list")

/-- What may be null, read in the given way where it is not. -/
def optional {α : Type} (read : Node → Except Fault α) (n : Node) : Except Fault (Option α) :=
  match n with
  | .null => .ok none
  | .plain s => if PlainScalar.isNull s.toList then .ok none else some <$> read n
  | _ => some <$> read n

/-- The entries of a map from texts to texts; the last one for a name counts. -/
def texts : Node → Except Fault (List (String × String))
  | .map entries => do
    let pairs ← entries.mapM fun e => do return (e.1, ← e.2.text)
    return pairs.foldl (fun kept p => kept.filter (·.1 ≠ p.1) ++ [p]) []
  | .plain "" => .ok []
  | _ => .error (.expected "a map")

/-- The fields of a record with the given names in their order. -/
def record (names : List String) : Node → Except Fault Fields
  | .map entries =>
    match names.find? fun name => 1 < entries.countP (·.1 = name) with
    | some name => .error (.repeatedField name)
    | none => .ok entries
  | .array items => if names.length < items.length then .error .tooManyItems else .ok (names.zip items)
  | .plain "" => .ok []
  | _ => .error (.expected "a record")

end Node

namespace Fields

/-- A field read in the given way, or its default where it is absent. -/
def get {α : Type} (fields : Fields) (name : String) (default : α) (read : Node → Except Fault α) :
    Except Fault α :=
  match fields.lookup name with
  | some n => read n
  | none => .ok default

/-- A text field. -/
def text (fields : Fields) (name : String) : Except Fault String := fields.get name "" Node.text

/-- A Boolean field. -/
def flag (fields : Fields) (name : String) : Except Fault Bool := fields.get name false Node.flag

/-- A list field. -/
def list {α : Type} (fields : Fields) (name : String) (read : Node → Except Fault α) :
    Except Fault (List α) :=
  fields.get name [] (Node.list read)

/-- A field that may be null. -/
def optional {α : Type} (fields : Fields) (name : String) (read : Node → Except Fault α) :
    Except Fault (Option α) :=
  fields.get name none (Node.optional read)

/-- A field that holds any value. -/
def value (fields : Fields) (name : String) : Except Fault Json := fields.get name .null Node.value

end Fields

end EntityModel.Document
