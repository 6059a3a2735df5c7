import EntityModel.Document.PlainScalar
import EntityModel.Document.Yaml.Cursor

/-!
# Scalars of YAML text

Quoted and plain scalars, over one line or several. Blanks at the ends of lines are dropped, one line break
becomes a blank, and of several the first is dropped.
-/

namespace EntityModel.Document.Yaml

/-! ## Gaps between words -/

/-- Line breaks within a scalar: one becomes a blank, and of several the first is dropped. -/
def foldBreaks : List Char → List Char
  | [] => []
  | ['\n'] => [' ']
  | '\n' :: more => more
  | breaks => breaks

/-- A run of blanks and line breaks. -/
structure Gap where
  spaces : List Char := []
  breaks : List Char := []
  /-- Whether a tab stands in the indentation of a line, left of the column that text has to reach. -/
  tabIndents : Bool := false

/-- What a run of blanks and line breaks within a scalar stands for: blanks count only if there is no line
break. -/
def Gap.text (gap : Gap) : List Char := if gap.breaks = [] then gap.spaces else foldBreaks gap.breaks

/-- A run of blanks and line breaks, and the position after it. -/
def readGap (minColumn : Nat) (cur : Cursor) : Gap × Cursor :=
  go false cur.offset cur.line cur.column cur.rest
where
  /-- The same from a position in the run, `indenting` if a line has begun. -/
  go (indenting : Bool) (offset line column : Nat) : List Char → Gap × Cursor
    | [] => ({}, ⟨[], offset, line, column⟩)
    | c :: rest =>
      if isBreak c then
        let (gap, after) := go true (offset + c.utf8Size) (line + 1) 0 rest
        ({ gap with breaks := c :: gap.breaks }, after)
      else if isSpace c then
        let (gap, after) := go indenting (offset + c.utf8Size) line (column + 1) rest
        let tabIndents := gap.tabIndents || (c = '\t' && indenting && column < minColumn)
        ({ gap with spaces := c :: gap.spaces, tabIndents }, after)
      else ({}, ⟨c :: rest, offset, line, column⟩)

/-! ## Quoted scalars -/

/-- The character of an escape of one letter. -/
def escaped? (c : Char) : Option Char :=
  match c with
  | '0' => some (Char.ofNat 0)
  | 'a' => some (Char.ofNat 7)
  | 'b' => some (Char.ofNat 8)
  | 't' => some '\t'
  | '\t' => some '\t'
  | 'n' => some '\n'
  | 'v' => some (Char.ofNat 11)
  | 'f' => some (Char.ofNat 12)
  | 'r' => some '\r'
  | 'e' => some (Char.ofNat 27)
  | ' ' => some ' '
  | '"' => some '"'
  | '/' => some '/'
  | '\\' => some '\\'
  | 'N' => some '\u0085'
  | '_' => some '\u00a0'
  | 'L' => some '\u2028'
  | 'P' => some '\u2029'
  | _ => none

/-- The number of hexadecimal digits behind an escape letter. -/
def escapeWidth? (c : Char) : Option Nat :=
  match c with
  | 'x' => some 2
  | 'u' => some 4
  | 'U' => some 8
  | _ => none

/-- The character that a number of hexadecimal digits writes. -/
def codePoint? (width : Nat) (cs : List Char) : Option Char :=
  if (cs.take width).length = width then
    match PlainScalar.digits? 16 (cs.take width) with
    | some n => if h : n.isValidChar then some (Char.ofNatAux n h) else none
    | none => none
  else none

/-- A scalar in single quotes, after the opening one; a quote inside is doubled. -/
def readSingleQuoted : Nat → Cursor → Option (List Char × Cursor)
  | 0, _ => none
  | fuel + 1, cur =>
    if cur.atMarker then none
    else
      match cur.rest with
      | [] => none
      | '\'' :: '\'' :: _ => (readSingleQuoted fuel (cur.skip 2)).map fun (cs, cur) => ('\'' :: cs, cur)
      | '\'' :: _ => some ([], cur.next)
      | c :: _ =>
        if isSpace c || isBreak c then
          let (gap, after) := readGap 0 cur
          (readSingleQuoted fuel after).map fun (cs, cur) => (gap.text ++ cs, cur)
        else (readSingleQuoted fuel cur.next).map fun (cs, cur) => (c :: cs, cur)

/-- A scalar in double quotes, after the opening one. An escaped line break joins the lines. -/
def readDoubleQuoted : Nat → Cursor → Option (List Char × Cursor)
  | 0, _ => none
  | fuel + 1, cur =>
    if cur.atMarker then none
    else
      match cur.rest with
      | [] => none
      | '"' :: _ => some ([], cur.next)
      | '\\' :: e :: digits =>
        if isBreak e then
          let (gap, after) := readGap 0 (cur.skip 2)
          (readDoubleQuoted fuel after).map fun (cs, cur) => (gap.breaks ++ cs, cur)
        else
          match escapeWidth? e with
          | some width =>
            (codePoint? width digits).bind fun c =>
              (readDoubleQuoted fuel (cur.skip (2 + width))).map fun (cs, cur) => (c :: cs, cur)
          | none =>
            (escaped? e).bind fun c =>
              (readDoubleQuoted fuel (cur.skip 2)).map fun (cs, cur) => (c :: cs, cur)
      | c :: _ =>
        if isSpace c || isBreak c then
          let (gap, after) := readGap 0 cur
          (readDoubleQuoted fuel after).map fun (cs, cur) => (gap.text ++ cs, cur)
        else (readDoubleQuoted fuel cur.next).map fun (cs, cur) => (c :: cs, cur)

/-- A scalar at its opening quote. -/
def readQuoted (fuel : Nat) (cur : Cursor) : Option (String × Cursor) :=
  (match cur.rest with
    | '"' :: _ => readDoubleQuoted fuel cur.next
    | '\'' :: _ => readSingleQuoted fuel cur.next
    | _ => none).map fun (cs, after) => (String.ofList cs, after)

/-! ## Plain scalars -/

/-- The characters with a meaning of their own in flow style. -/
def isFlowMark (c : Char) : Bool := c ∈ [',', '[', ']', '{', '}']

/-- The characters that no plain scalar starts with, unless a word goes on after some of them. -/
def isMark (c : Char) : Bool :=
  c ∈ ['-', '?', ':', ',', '[', ']', '{', '}', '#', '&', '*', '!', '|', '>', '\'', '"', '%', '@', '`']

/-- Whether a plain scalar starts here. -/
def startsPlain (inFlow : Bool) : List Char → Bool
  | [] => false
  | c :: rest =>
    (!isMark c && !endsWord (c :: rest)) || (c = '-' && !(rest.head?.any isSpace)) ||
      (!inFlow && (c = '?' || c = ':') && !endsWord rest)

/-- The word of a plain scalar at the start of a text. In flow style a colon must not run into a mark. -/
def word? (inFlow : Bool) : List Char → Option (List Char)
  | [] => some []
  | c :: rest =>
    if inFlow && c = ':' && rest.head?.any (fun d => isFlowMark d || d = '?') then none
    else if endsWord (c :: rest) || (c = ':' && endsWord rest) || (inFlow && isFlowMark c) then some []
    else (word? inFlow rest).map (c :: ·)

/-- A plain scalar as it was read. -/
structure PlainText where
  chars : List Char
  /-- Whether the lines of the scalar have ended, so that the next token starts a line. -/
  endsLine : Bool := false
  after : Cursor

/-- Words with what lies between them, on further lines only if these are indented. -/
def readPlain (inFlow : Bool) (minColumn : Nat) : Nat → Cursor → Option PlainText
  | 0, _ => none
  | fuel + 1, cur => do
    let word ← word? inFlow cur.rest
    let (gap, after) := readGap minColumn (cur.skip word.length)
    let last : PlainText := ⟨word, gap.breaks ≠ [], after⟩
    if gap.tabIndents then none
    else if (gap.spaces = [] && gap.breaks = []) || after.atMarker || after.rest.head? = some '#' ||
        (!inFlow && after.column < minColumn) then
      return last
    else
      let more ← readPlain inFlow minColumn fuel after
      return if more.chars = [] then last else { more with chars := word ++ gap.text ++ more.chars }

end EntityModel.Document.Yaml
