import EntityModel.Text.Printable

/-!
# Quoted text in messages

Text in double quotes as error messages and reports show it: quotes, backslashes and the usual control
characters are escaped, and every character that does not show by itself is written as its code point
in hexadecimal between braces after `\u`.
-/

namespace EntityModel.Text

/-- The lower-case hexadecimal digits of a number, without leading zeros. -/
def hexDigits (n : Nat) : List Char := Nat.toDigits 16 n

/-- One character as it stands between the quotes. -/
def quoteChar (c : Char) : List Char :=
  if c = '"' then ['\\', '"']
  else if c = '\\' then ['\\', '\\']
  else if c = '\n' then ['\\', 'n']
  else if c = '\t' then ['\\', 't']
  else if c = '\r' then ['\\', 'r']
  else if c.toNat = 0 then ['\\', '0']
  else if isHidden c then '\\' :: 'u' :: '{' :: hexDigits c.toNat ++ ['}']
  else [c]

/-- Text in double quotes. -/
def quoted (s : String) : String :=
  String.ofList ('"' :: s.toList.flatMap quoteChar ++ ['"'])

end EntityModel.Text
