import EntityModel.Document.Node
import EntityModel.Document.Yaml.Token

/-!
# Reading YAML text

A document tree from YAML text: one document of maps and lists in block and in flow style, plain and quoted
scalars, and comments. Anchors, tags, block scalars and directives are refused. A key or a value that is
left out is an empty plain scalar.
-/

namespace EntityModel.Document.YamlText

open Yaml

/-- How many lists and maps a usable node may lie in. -/
def maxDepth : Nat := 128

/-- The text of a node that may be a key. -/
def keyText : Node → Option String
  | .string s => some s
  | .plain s => some s
  | _ => none

/-- The node of a key or a value that is not there. -/
def absent : Node := .plain ""

/-- The node of a scalar. -/
def scalarNode (isPlain : Bool) (text : String) : Node := if isPlain then .plain text else .string text

/-- A list at a depth. -/
def sequenceNode (depth : Nat) (items : List Node) : Node := .within maxDepth depth (.sequence items)

/-- A map at a depth. -/
def mappingNode (depth : Nat) (entries : List (Node × Node)) : Node :=
  .within maxDepth depth (.ofEntries (entries.map fun e => (keyText e.1, e.2)))

/-- A node read in the given way, unless one of the tokens stands here that show it is left out. -/
def unlessAt (marks : List Token) (read : List Token → Option (Node × List Token)) (ts : List Token) :
    Option (Node × List Token) :=
  if ts.head?.any (· ∈ marks) then some (absent, ts) else read ts

/-- The value behind a colon, or nothing where there is no colon. -/
def valueUnlessAt (marks : List Token) (read : List Token → Option (Node × List Token)) :
    List Token → Option (Node × List Token)
  | .value :: ts => unlessAt marks read ts
  | ts => some (absent, ts)

/-- The tokens of a further part in flow style: all but the first stand behind a comma. -/
def partTokens? (isFirst : Bool) (ts : List Token) : Option (List Token) :=
  match isFirst, ts with
  | true, ts => some ts
  | false, .separator :: ts => some ts
  | false, _ => none

mutual

/-- A node. In block style it may be a map or a list of its own, and as the value of a key also a list whose
dashes stand in the column of the key. -/
def readNode (inBlock besideKey : Bool) : Nat → Nat → List Token → Option (Node × List Token)
  | 0, _, _ => none
  | fuel + 1, depth, ts =>
    match ts with
    | .scalar isPlain text :: ts => some (scalarNode isPlain text, ts)
    | .flowSequenceStart :: ts =>
      (readFlowItems true fuel (depth + 1) ts).map fun (ns, ts) => (sequenceNode (depth + 1) ns, ts)
    | .flowMappingStart :: ts =>
      (readFlowEntries true fuel (depth + 1) ts).map fun (es, ts) => (mappingNode (depth + 1) es, ts)
    | .sequenceStart :: ts =>
      if inBlock then
        (readItems fuel (depth + 1) ts).map fun (ns, ts) => (sequenceNode (depth + 1) ns, ts)
      else none
    | .mappingStart :: ts =>
      if inBlock then
        (readEntries fuel (depth + 1) ts).map fun (es, ts) => (mappingNode (depth + 1) es, ts)
      else none
    | .item :: ts =>
      if besideKey then
        (readItemsBesideKey fuel (depth + 1) (.item :: ts)).map fun (ns, ts) =>
          (sequenceNode (depth + 1) ns, ts)
      else none
    | _ => none
termination_by structural fuel => fuel

/-- The items of a list in block style. -/
def readItems : Nat → Nat → List Token → Option (List Node × List Token)
  | 0, _, _ => none
  | fuel + 1, depth, ts =>
    match ts with
    | .item :: ts =>
      match unlessAt [.item, .blockEnd] (readNode true false fuel depth) ts with
      | none => none
      | some (n, ts) => (readItems fuel depth ts).map fun (ns, ts) => (n :: ns, ts)
    | .blockEnd :: ts => some ([], ts)
    | _ => none
termination_by structural fuel => fuel

/-- The items of a list whose dashes stand in the column of a key. No token ends it. -/
def readItemsBesideKey : Nat → Nat → List Token → Option (List Node × List Token)
  | 0, _, _ => none
  | fuel + 1, depth, ts =>
    match ts with
    | .item :: ts =>
      match unlessAt [.item, .key, .value, .blockEnd] (readNode true false fuel depth) ts with
      | none => none
      | some (n, ts) => (readItemsBesideKey fuel depth ts).map fun (ns, ts) => (n :: ns, ts)
    | ts => some ([], ts)
termination_by structural fuel => fuel

/-- The entries of a map in block style. -/
def readEntries : Nat → Nat → List Token → Option (List (Node × Node) × List Token)
  | 0, _, _ => none
  | fuel + 1, depth, ts =>
    match ts with
    | .key :: ts =>
      match unlessAt [.key, .value, .blockEnd] (readNode true true fuel depth) ts with
      | none => none
      | some (k, ts) =>
        match valueUnlessAt [.key, .value, .blockEnd] (readNode true true fuel depth) ts with
        | none => none
        | some (v, ts) => (readEntries fuel depth ts).map fun (es, ts) => ((k, v) :: es, ts)
    | .blockEnd :: ts => some ([], ts)
    | _ => none
termination_by structural fuel => fuel

/-- The items of a list in flow style. A pair of a key and a value is a map of its own; where its key is
left out, the token in the place of the key is passed over. -/
def readFlowItems (isFirst : Bool) : Nat → Nat → List Token → Option (List Node × List Token)
  | 0, _, _ => none
  | fuel + 1, depth, ts =>
    match ts with
    | .flowSequenceEnd :: ts => some ([], ts)
    | ts =>
      match partTokens? isFirst ts with
      | none => none
      | some (.flowSequenceEnd :: ts) => some ([], ts)
      | some (.key :: ts) =>
        let key :=
          if ts.head?.any (· ∈ [Token.value, .separator, .flowSequenceEnd]) then some (absent, ts.tail)
          else readNode false false fuel (depth + 1) ts
        match key with
        | none => none
        | some (k, ts) =>
          match valueUnlessAt [.separator, .flowSequenceEnd] (readNode false false fuel (depth + 1)) ts with
          | none => none
          | some (v, ts) =>
            (readFlowItems false fuel depth ts).map fun (ns, ts) =>
              (mappingNode (depth + 1) [(k, v)] :: ns, ts)
      | some ts =>
        match readNode false false fuel depth ts with
        | none => none
        | some (n, ts) => (readFlowItems false fuel depth ts).map fun (ns, ts) => (n :: ns, ts)
termination_by structural fuel => fuel

/-- The entries of a map in flow style. -/
def readFlowEntries (isFirst : Bool) : Nat → Nat → List Token → Option (List (Node × Node) × List Token)
  | 0, _, _ => none
  | fuel + 1, depth, ts =>
    match ts with
    | .flowMappingEnd :: ts => some ([], ts)
    | ts =>
      match partTokens? isFirst ts with
      | none => none
      | some (.flowMappingEnd :: ts) => some ([], ts)
      | some (.key :: ts) =>
        match unlessAt [.value, .separator, .flowMappingEnd] (readNode false false fuel depth) ts with
        | none => none
        | some (k, ts) =>
          match valueUnlessAt [.separator, .flowMappingEnd] (readNode false false fuel depth) ts with
          | none => none
          | some (v, ts) => (readFlowEntries false fuel depth ts).map fun (es, ts) => ((k, v) :: es, ts)
      | some ts =>
        match readNode false false fuel depth ts with
        | none => none
        | some (k, ts) => (readFlowEntries false fuel depth ts).map fun (es, ts) => ((k, absent) :: es, ts)
termination_by structural fuel => fuel

end

/-- The node of a document, after the marker of its start if it has one. -/
def readContent (fuel : Nat) : List Token → Option (Node × List Token)
  | [] => some (absent, [])
  | .documentStart :: [] => some (absent, [])
  | .documentStart :: ts => unlessAt [.documentStart, .documentEnd] (readNode true false fuel 0) ts
  | ts => readNode true false fuel 0 ts

/-- The tree of the only document of a list of tokens. The calls of the readers nest no deeper than a few
times the number of tokens. -/
def ofTokens? (ts : List Token) : Option Node :=
  match readContent (4 * ts.length + 8) ts with
  | some (n, after) => if after.all (· = .documentEnd) then some n else none
  | none => none

/-- The tree of a YAML text. -/
def read? (text : String) : Option Node :=
  if text.toList.all isAllowed then (Token.ofChars? (unifyBreaks text.toList)).bind ofTokens? else none

end EntityModel.Document.YamlText
