import ClusterGraph.Text.Printable

/-!
Texts with escapes.

Where a character cannot stand for itself, its number stands for it in hexadecimal digits. Messages quote
pieces of their input in this way, and a query in a URL carries names and values.
-/

namespace ClusterGraph.Text

/-! ## Hexadecimal digits -/

/-- The value of a hexadecimal digit. -/
def hexDigit? (c : Char) : Option Nat :=
  if '0' ≤ c ∧ c ≤ '9' then some (c.toNat - 48)
  else if 'a' ≤ c ∧ c ≤ 'f' then some (c.toNat - 87)
  else if 'A' ≤ c ∧ c ≤ 'F' then some (c.toNat - 55)
  else none

/-- Lower-case hexadecimal digits of a number, without leading zeros. -/
def hexText (n : Nat) : List Char :=
  Nat.toDigits 16 n

/-- An upper-case hexadecimal digit. -/
def upperHexDigit (n : Nat) : Char :=
  (Nat.digitChar n).toUpper

/-- A byte as `%` and two hexadecimal digits. -/
def percentByte (b : UInt8) : List Char :=
  ['%', upperHexDigit (b.toNat / 16), upperHexDigit (b.toNat % 16)]

/-! ## Quotes

A message that repeats a piece of its input shows it quoted, with escapes for the quote, the backslash, the
common controls, and `\u` followed by a hexadecimal code point in braces for every other character that has
no shape of its own.
-/

/-- One character as it stands between the quotes. -/
def quotedChar (c : Char) : List Char :=
  match c with
  | '\x00' => ['\\', '0']
  | '\t' => ['\\', 't']
  | '\r' => ['\\', 'r']
  | '\n' => ['\\', 'n']
  | '\\' => ['\\', '\\']
  | '"' => ['\\', '"']
  | c => if isPrintable c then [c] else ['\\', 'u', '\x7b'] ++ hexText c.toNat ++ ['\x7d']

/-- The text between double quotes, escaped. -/
def quoted (s : String) : String :=
  String.ofList ('"' :: s.toList.flatMap quotedChar ++ ['"'])

/-- A path between double quotes; the apostrophe is escaped as well. -/
def quotedPath (path : String) : String :=
  let char := fun c => if c = '\'' then ['\\', '\''] else quotedChar c
  String.ofList ('"' :: path.toList.flatMap char ++ ['"'])

/-! ## Form encoding

Letters, digits and `*-._` stand for themselves, a space becomes `+`, and every other byte of the UTF-8 form
becomes `%` and two upper-case hexadecimal digits. Pairs are written `name=value` and joined with `&`.
-/

/-- The characters that form encoding leaves alone. -/
def isFormSafe (c : Char) : Bool :=
  c.isAlphanum || c == '*' || c == '-' || c == '.' || c == '_'

/-- One character in form encoding. -/
def formChar (c : Char) : List Char :=
  if isFormSafe c then [c]
  else if c == ' ' then ['+']
  else (String.utf8EncodeChar c).flatMap percentByte

/-- A text in form encoding. -/
def formEncode (s : String) : String :=
  String.ofList (s.toList.flatMap formChar)

/-- Name and value pairs as a query, without the leading question mark. -/
def formPairs (pairs : List (String × String)) : String :=
  "&".intercalate (pairs.map fun (name, value) => formEncode name ++ "=" ++ formEncode value)

end ClusterGraph.Text
