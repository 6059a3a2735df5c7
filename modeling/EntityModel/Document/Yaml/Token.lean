import EntityModel.Document.Yaml.Scalar

/-!
# Tokens of YAML text

A YAML text as a list of tokens: the scalars, the marks between them, and the starts and ends of maps and
lists in block style, which no mark shows but the columns decide.

That a scalar or a list in flow style was a key shows only at the colon behind it, so what may have been a
key is remembered and the tokens of a key are put in front of it later. A key stands on one line and takes
at most `maxKeyLength` bytes. Where nothing but a key can stand, at the column of the entries of a map, it
is an error if no colon comes.
-/

namespace EntityModel.Document.Yaml

/-- A token. -/
inductive Token where
  | documentStart
  | documentEnd
  | sequenceStart
  | mappingStart
  /-- The end of a list or a map in block style. -/
  | blockEnd
  | flowSequenceStart
  | flowSequenceEnd
  | flowMappingStart
  | flowMappingEnd
  /-- The dash in front of an item. -/
  | item
  /-- The comma in flow style. -/
  | separator
  /-- What comes next is a key. -/
  | key
  /-- The colon in front of a value. -/
  | value
  | scalar (isPlain : Bool) (text : String)
  deriving DecidableEq, Repr, Inhabited

/-- How many bytes may lie between the start of a key and its colon. -/
def maxKeyLength : Nat := 1024

/-- A place where a key may have started. -/
structure KeyStart where
  /-- The number of tokens before it. -/
  position : Nat
  offset : Nat
  line : Nat
  column : Nat
  /-- Whether nothing but a key can stand there. -/
  isRequired : Bool

/-- Whether a key that started there would be too long, or over several lines, if it ended here. -/
def KeyStart.isPast (k : KeyStart) (cur : Cursor) : Bool :=
  k.line < cur.line || k.offset + maxKeyLength < cur.offset

/-- The state of cutting a text into tokens. -/
structure Scan where
  cursor : Cursor
  /-- The tokens found so far, the latest first. -/
  tokens : List Token := []
  count : Nat := 0
  /-- The columns of the open maps and lists in block style, the innermost first. -/
  columns : List Nat := []
  /-- Where a key may have started, on this level of flow style. -/
  keyStart : Option KeyStart := none
  /-- The same for the levels around it; there are none in block style. -/
  outerKeyStarts : List (Option KeyStart) := []
  keyAllowed : Bool := true

namespace Scan

/-- Whether the position lies in a list or a map in flow style. -/
def inFlow (s : Scan) : Bool := !s.outerKeyStarts.isEmpty

/-- The first column of text that belongs to the innermost block. -/
def minColumn (s : Scan) : Nat :=
  match s.columns with
  | column :: _ => column + 1
  | [] => 0

/-- Put a token behind the first `position` ones. -/
def insert (s : Scan) (position : Nat) (t : Token) : Scan :=
  let later := s.count - position
  { s with tokens := s.tokens.take later ++ t :: s.tokens.drop later, count := s.count + 1 }

/-- Add a token. -/
def push (s : Scan) (t : Token) : Scan := { s with tokens := t :: s.tokens, count := s.count + 1 }

/-- Add the token of a mark and go behind the mark. -/
def pushMark (s : Scan) (t : Token) (width : Nat) : Scan :=
  { s.push t with cursor := s.cursor.skip width }

/-! ## Blocks -/

/-- Open a block at a column, unless the innermost one lies there already. -/
def openBlock (s : Scan) (column position : Nat) (t : Token) : Scan :=
  if s.inFlow || column < s.minColumn then s
  else { s.insert position t with columns := column :: s.columns }

/-- Close the innermost blocks at columns that pass the test. -/
def closeBlocks (s : Scan) (test : Nat → Bool) : Scan :=
  if s.inFlow then s
  else
    let closed := (s.columns.takeWhile test).length
    { s with
      tokens := List.replicate closed .blockEnd ++ s.tokens
      count := s.count + closed
      columns := s.columns.drop closed }

/-! ## Keys -/

/-- Forget where a key may have started, unless it had to be one. -/
def forgetKey (s : Scan) : Option Scan :=
  if s.keyStart.any (·.isRequired) then none else some { s with keyStart := none }

/-- Remember the position as one where a key may start. -/
def rememberKey (s : Scan) : Option Scan :=
  if s.keyAllowed then do
    let s ← s.forgetKey
    let isRequired := !s.inFlow && s.columns.head? = some s.cursor.column
    return { s with
      keyStart := some ⟨s.count, s.cursor.offset, s.cursor.line, s.cursor.column, isRequired⟩ }
  else some s

/-- Forget the starts of keys that could not end here any more, unless one had to be a key. -/
def forgetPast (s : Scan) : Option Scan :=
  let isPast := fun k : Option KeyStart => k.any (·.isPast s.cursor)
  if (s.keyStart :: s.outerKeyStarts).any fun k => isPast k && k.any (·.isRequired) then none
  else
    let keep := fun k : Option KeyStart => if isPast k then none else k
    some { s with keyStart := keep s.keyStart, outerKeyStarts := s.outerKeyStarts.map keep }

/-! ## Tokens at the position -/

/-- The marker at the start or the end of a document. -/
def documentMarker (s : Scan) (t : Token) : Option Scan := do
  let s ← (s.closeBlocks fun _ => true).forgetKey
  return { s with keyAllowed := false }.pushMark t 3

/-- The opening mark of a list or a map in flow style. -/
def openFlow (s : Scan) (t : Token) : Option Scan := do
  let s ← s.rememberKey
  return { s with
    keyStart := none, outerKeyStarts := s.keyStart :: s.outerKeyStarts, keyAllowed := true }.pushMark t 1

/-- The closing mark of a list or a map in flow style. -/
def closeFlow (s : Scan) (t : Token) : Option Scan := do
  let s ← s.forgetKey
  return { s with
    keyStart := s.outerKeyStarts.headD none
    outerKeyStarts := s.outerKeyStarts.tail
    keyAllowed := false }.pushMark t 1

/-- The comma between the parts of a list or a map in flow style. -/
def separator (s : Scan) : Option Scan := do
  let s ← s.forgetKey
  return { s with keyAllowed := true }.pushMark .separator 1

/-- The dash of an item. The first one opens a list, which only the start of a line or of another item
allows. -/
def item (s : Scan) : Option Scan :=
  if !s.inFlow && !s.keyAllowed then none
  else do
    let s ← (s.openBlock s.cursor.column s.count .sequenceStart).forgetKey
    return { s with keyAllowed := true }.pushMark .item 1

/-- The question mark in front of a key. -/
def explicitKey (s : Scan) : Option Scan :=
  if !s.inFlow && !s.keyAllowed then none
  else do
    let s ← (s.openBlock s.cursor.column s.count .mappingStart).forgetKey
    return { s with keyAllowed := !s.inFlow }.pushMark .key 1

/-- The colon in front of a value, behind a key or on its own. -/
def value (s : Scan) : Option Scan :=
  match s.keyStart with
  | some k =>
    let s := (s.insert k.position .key).openBlock k.column k.position .mappingStart
    some ({ s with keyStart := none, keyAllowed := false }.pushMark .value 1)
  | none =>
    if !s.inFlow && !s.keyAllowed then none
    else
      let s := s.openBlock s.cursor.column s.count .mappingStart
      some ({ s with keyAllowed := !s.inFlow }.pushMark .value 1)

/-- A scalar in quotes. The fuel of this reader and the next is more than the characters of the rest. -/
def quoted (s : Scan) (fuel : Nat) : Option Scan := do
  let s ← s.rememberKey
  let (text, after) ← readQuoted fuel s.cursor
  return { s with cursor := after, keyAllowed := false }.push (.scalar false text)

/-- A scalar without quotes. -/
def plain (s : Scan) (fuel : Nat) : Option Scan := do
  let s ← s.rememberKey
  let read ← readPlain s.inFlow s.minColumn fuel s.cursor
  return { s with cursor := read.after, keyAllowed := read.endsLine }.push
    (.scalar true (String.ofList read.chars))

/-- The token at the position, if one starts with this character. -/
def tokenAt (s : Scan) (fuel : Nat) (c : Char) (rest : List Char) : Option Scan :=
  if s.cursor.atMarker then s.documentMarker (if c = '-' then .documentStart else .documentEnd)
  else if c = '[' then s.openFlow .flowSequenceStart
  else if c = '{' then s.openFlow .flowMappingStart
  else if c = ']' then s.closeFlow .flowSequenceEnd
  else if c = '}' then s.closeFlow .flowMappingEnd
  else if c = ',' then s.separator
  else if c = '-' && endsWord rest then s.item
  else if c = '?' && (s.inFlow || endsWord rest) then s.explicitKey
  else if c = ':' && (s.inFlow || endsWord rest) then s.value
  else if c = '"' || c = '\'' then s.quoted fuel
  else if startsPlain s.inFlow (c :: rest) then s.plain fuel
  else none

/-- The tokens once the text has ended. -/
def finish (s : Scan) : Option (List Token) :=
  ((s.closeBlocks fun _ => true).forgetKey).map (·.tokens.reverse)

/-- The position of the next token, with the blocks closed that do not reach it. -/
def toToken (s : Scan) : Option Scan :=
  let (cursor, keyAllowed) := s.cursor.toToken s.inFlow s.keyAllowed
  ({ s with cursor, keyAllowed : Scan }.forgetPast).map fun s => s.closeBlocks (s.cursor.column < ·)

/-- The tokens of the text from the position on. -/
def run : Nat → Scan → Option (List Token)
  | 0, _ => none
  | fuel + 1, s => do
    let s ← s.toToken
    match s.cursor.rest with
    | [] => s.finish
    | c :: rest =>
      let s ← s.tokenAt (fuel + 1) c rest
      run fuel s

end Scan

/-- The tokens of a text whose line breaks are unified. Each of them takes a character at least, so the fuel
never falls below the length of the rest. -/
def Token.ofChars? (cs : List Char) : Option (List Token) :=
  Scan.run (cs.length + 1) { cursor := { rest := cs } }

end EntityModel.Document.Yaml
