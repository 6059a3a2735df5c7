/-!
# Positions in YAML text

The characters of a YAML text and the positions it is read at. Lines and columns count characters; the
`offset` counts bytes, because the length of a key is limited in bytes.
-/

namespace EntityModel.Document.Yaml

/-- The characters that a text may hold. -/
def isAllowed (c : Char) : Bool :=
  let n := c.toNat
  n = 0x9 || n = 0xa || n = 0xd || (0x20 ≤ n && n ≤ 0x7e) || n = 0x85 || (0xa0 ≤ n && n ≤ 0xfffd) ||
    0x10000 ≤ n

/-- The breaks between lines once `unifyBreaks` has been applied. -/
def isBreak (c : Char) : Bool := c = '\n' || c = '\u2028' || c = '\u2029'

/-- The blanks within a line. -/
def isSpace (c : Char) : Bool := c = ' ' || c = '\t'

/-- The spellings of a line break other than the line and paragraph separators become one. -/
def unifyBreaks : List Char → List Char
  | [] => []
  | '\r' :: '\n' :: rest => '\n' :: unifyBreaks rest
  | c :: rest => (if c = '\r' ∨ c = '\u0085' then '\n' else c) :: unifyBreaks rest

/-- The mark that may open a line and is no part of its text. It takes up a column. -/
def byteOrderMark : Char := '\uFEFF'

/-- Whether a word ends here. -/
def endsWord : List Char → Bool
  | [] => true
  | c :: _ => isSpace c || isBreak c

/-- A position in a text. -/
structure Cursor where
  rest : List Char
  /-- The bytes before the position. -/
  offset : Nat := 0
  line : Nat := 0
  column : Nat := 0

namespace Cursor

/-- The position one character further. -/
def next (cur : Cursor) : Cursor :=
  match cur.rest with
  | [] => cur
  | c :: rest =>
    if isBreak c then ⟨rest, cur.offset + c.utf8Size, cur.line + 1, 0⟩
    else ⟨rest, cur.offset + c.utf8Size, cur.line, cur.column + 1⟩

/-- The position some characters further. -/
def skip : Nat → Cursor → Cursor
  | 0, cur => cur
  | n + 1, cur => skip n cur.next

/-- Whether a document marker stands here, three dashes or dots at the start of a line. -/
def atMarker (cur : Cursor) : Bool :=
  cur.column = 0 &&
    match cur.rest with
    | '-' :: '-' :: '-' :: rest => endsWord rest
    | '.' :: '.' :: '.' :: rest => endsWord rest
    | _ => false

/-- Whether a position with this character in front of it is passed over on the way to the next token. A
tab is, unless it might be taken for indentation. -/
def isIdle (tabs : Bool) (column : Nat) (c : Char) : Bool :=
  c = ' ' || (tabs && c = '\t') || (column = 0 && c = byteOrderMark)

/-- The position of the next token after blanks, line breaks and comments, and whether a key may start
there. In block style every line may start with one, and where one may start a tab is no blank. -/
def toToken (inFlow keyAllowed : Bool) (cur : Cursor) : Cursor × Bool :=
  go false keyAllowed cur.offset cur.line cur.column cur.rest
where
  /-- The same from a position that may lie in a comment. -/
  go (inComment keyAllowed : Bool) (offset line column : Nat) : List Char → Cursor × Bool
    | [] => (⟨[], offset, line, column⟩, keyAllowed)
    | c :: rest =>
      if isBreak c then go false (keyAllowed || !inFlow) (offset + c.utf8Size) (line + 1) 0 rest
      else if inComment || isIdle (inFlow || !keyAllowed) column c then
        go inComment keyAllowed (offset + c.utf8Size) line (column + 1) rest
      else if c = '#' then go true keyAllowed (offset + c.utf8Size) line (column + 1) rest
      else (⟨c :: rest, offset, line, column⟩, keyAllowed)

end Cursor

end EntityModel.Document.Yaml
