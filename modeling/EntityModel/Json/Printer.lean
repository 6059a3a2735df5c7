import EntityModel.Json.Basic

/-!
# Writing JSON

Two layouts: everything on one line without blanks, and one member or item a line, indented by two
blanks for each level, with empty arrays and objects closed on the spot. In strings only quotes,
backslashes and control characters are escaped.
-/

namespace EntityModel.Json

/-- One character as it stands between the quotes. -/
def escapeChar (c : Char) : List Char :=
  if c = '"' then ['\\', '"']
  else if c = '\\' then ['\\', '\\']
  else if c = '\n' then ['\\', 'n']
  else if c = '\r' then ['\\', 'r']
  else if c = '\t' then ['\\', 't']
  else if c.toNat = 8 then ['\\', 'b']
  else if c.toNat = 12 then ['\\', 'f']
  else if c.toNat < 32 then
    '\\' :: 'u' :: '0' :: '0' :: [Nat.digitChar (c.toNat / 16), Nat.digitChar (c.toNat % 16)]
  else [c]

/-- A string in quotes. -/
def quote (s : String) : String := String.ofList ('"' :: s.toList.flatMap escapeChar ++ ['"'])

/-- The text of a value that holds no others. -/
def scalarText : Json → String
  | .null => "null"
  | .bool true => "true"
  | .bool false => "false"
  | .int n => toString n
  | .decimal d => d.text
  | .string s => quote s
  | .array _ => ""
  | .object _ => ""

mutual

/-- A value on one line. -/
def line : Json → String
  | .array items => "[" ++ lineItems items ++ "]"
  | .object members => "\x7b" ++ lineMembers members ++ "\x7d"
  | v => scalarText v

/-- The items of an array on one line. -/
def lineItems : List Json → String
  | [] => ""
  | [v] => line v
  | v :: rest => line v ++ "," ++ lineItems rest

/-- The members of an object on one line. -/
def lineMembers : List (String × Json) → String
  | [] => ""
  | [(name, v)] => quote name ++ ":" ++ line v
  | (name, v) :: rest => quote name ++ ":" ++ line v ++ "," ++ lineMembers rest

end

/-- The start of a line at a level of nesting. -/
def indentation (level : Nat) : String := String.ofList ('\n' :: List.replicate (2 * level) ' ')

mutual

/-- A value over several lines, `level` deep in others. -/
def block (level : Nat) : Json → String
  | .array [] => "[]"
  | .array items => "[" ++ blockItems (level + 1) items ++ indentation level ++ "]"
  | .object [] => "\x7b\x7d"
  | .object members => "\x7b" ++ blockMembers (level + 1) members ++ indentation level ++ "\x7d"
  | v => scalarText v

/-- The items of an array, each on its own line. -/
def blockItems (level : Nat) : List Json → String
  | [] => ""
  | [v] => indentation level ++ block level v
  | v :: rest => indentation level ++ block level v ++ "," ++ blockItems level rest

/-- The members of an object, each on its own line. -/
def blockMembers (level : Nat) : List (String × Json) → String
  | [] => ""
  | [(name, v)] => indentation level ++ quote name ++ ": " ++ block level v
  | (name, v) :: rest =>
    indentation level ++ quote name ++ ": " ++ block level v ++ "," ++ blockMembers level rest

end

/-- A value over several lines. -/
def pretty (v : Json) : String := block 0 v

end EntityModel.Json
