import ClusterGraph.Json.Basic
import ClusterGraph.Yaml.Meaning

/-!
Writing documents.

Values are written in block style. The items of a list that belongs to a key stand in the column of
the key. A text is written plainly where it would be read back as itself, in single quotes where it
would not, as a literal block where it has several lines, and in double quotes where it contains
characters that only an escape can carry. Lines are not folded.
-/

namespace ClusterGraph.Yaml.Printer

/-! ## The style of a text -/

/-- The characters that may be written without an escape. Tabs are not among them. -/
def isWritable (c : Char) : Bool :=
  let n := c.toNat
  n == 0x0A || (0x20 ≤ n && n ≤ 0x7E) || (0xA0 ≤ n && n ≤ 0xD7FF) ||
    (0xE000 ≤ n && n ≤ 0xFFFD && n != 0xFEFF) || 0x10000 ≤ n

/-- Whether two neighbouring characters of a text are related. -/
def anyNeighbours (related : Char → Char → Bool) : List Char → Bool
  | a :: b :: rest => related a b || anyNeighbours related (b :: rest)
  | _ => false

/-- Whether a text starts like a mark between documents. -/
def startsLikeMark : List Char → Bool
  | '-' :: '-' :: '-' :: _ => true
  | '.' :: '.' :: '.' :: _ => true
  | _ => false

/-- Whether the first characters of a text mean something else than a text. -/
def startsLikeIndicator : List Char → Bool
  | [] => false
  | c :: rest =>
    "#,[]\x7b\x7d&*!|>'\"%@`".toList.contains c ||
      ("?:-".toList.contains c && rest.head?.all isGap)

/-- Whether a text may be written without quotes. -/
def plainAllowed (s : List Char) : Bool :=
  !s.head?.any isGap && !s.getLast?.any isGap && !s.any isBreak && !startsLikeMark s &&
    !startsLikeIndicator s && s.getLast? != some ':' &&
    !anyNeighbours (fun a b => (a == ':' && isGap b) || (isGap a && b == '#')) s

/-- Whether a text may stand between single quotes: its spaces do not touch its line breaks. -/
def singleAllowed (s : List Char) : Bool :=
  !anyNeighbours (fun a b => (isBreak a && b == ' ') || (a == ' ' && isBreak b)) s

/-- Whether a text may be written as a block: no space stands before a line break or at its end. -/
def blockAllowed (s : List Char) : Bool :=
  s.getLast? != some ' ' && !anyNeighbours (fun a b => a == ' ' && isBreak b) s

/-- Whether a text would be read back as itself if it were written without quotes. -/
def readsAsText (s : String) : Bool :=
  Meaning.ofPlain s == .text s && !Meaning.hasLeadingZero s.toList

/-- The style in which a text is written. -/
def styleOf (s : String) : Style :=
  let chars := s.toList
  if !chars.all isWritable then .doubleQuoted
  else if chars.contains '\n' then if blockAllowed chars then .literal else .doubleQuoted
  else if readsAsText s && plainAllowed chars then .plain
  else if singleAllowed chars then .singleQuoted
  else .doubleQuoted

/-! ## The text in its style -/

/-- Spaces up to a column. -/
def spaces (column : Nat) : List Char :=
  List.replicate column ' '

/-- The lines of a text, of which all but the first are indented; `broken` says whether a line break
came before. -/
def indented (column : Nat) (char : Char → List Char) (broken : Bool) : List Char → List Char
  | [] => []
  | c :: rest =>
    if isBreak c then c :: indented column char true rest
    else (if broken then spaces column else []) ++ char c ++ indented column char false rest

/-- A text between single quotes. -/
def singleQuoted (column : Nat) (s : List Char) : List Char :=
  let body := indented column (fun c => if c == '\'' then ['\'', '\''] else [c]) false s
  let gap := if s.getLast?.any isBreak then spaces column else []
  '\'' :: body ++ gap ++ ['\'']

/-- The digits of a code point, a given number of them. -/
def escapeDigits (width n : Nat) : List Char :=
  (List.range width).reverse.map fun place => Text.upperHexDigit (n / Nat.pow 16 place % 16)

/-- The escape of a character that may not stand for itself between double quotes. -/
def escape (c : Char) : List Char :=
  match c with
  | '\x00' => ['\\', '0']
  | '\x07' => ['\\', 'a']
  | '\x08' => ['\\', 'b']
  | '\t' => ['\\', 't']
  | '\n' => ['\\', 'n']
  | '\x0b' => ['\\', 'v']
  | '\x0c' => ['\\', 'f']
  | '\r' => ['\\', 'r']
  | '\x1b' => ['\\', 'e']
  | '"' => ['\\', '"']
  | '\\' => ['\\', '\\']
  | '\u0085' => ['\\', 'N']
  | '\u2028' => ['\\', 'L']
  | '\u2029' => ['\\', 'P']
  | c =>
    let n := c.toNat
    if n ≤ 0xFF then '\\' :: 'x' :: escapeDigits 2 n
    else if n ≤ 0xFFFF then '\\' :: 'u' :: escapeDigits 4 n
    else '\\' :: 'U' :: escapeDigits 8 n

/-- A text between double quotes. -/
def doubleQuoted (s : List Char) : List Char :=
  let char := fun c =>
    if !isWritable c || isBreak c || c == '"' || c == '\\' then escape c else [c]
  '"' :: s.flatMap char ++ ['"']

/-- The sign that says what becomes of the line breaks at the end of a block. -/
def chompingSign (s : List Char) : List Char :=
  match s.reverse with
  | [] => ['-']
  | [last] => if isBreak last then ['+'] else ['-']
  | last :: before :: _ =>
    if !isBreak last then ['-'] else if isBreak before then ['+'] else []

/-- A text as a literal block. Its indentation is given where it cannot be found from its first
line. -/
def literal (column : Nat) (s : List Char) : List Char :=
  let hint := if s.head?.any isGap then ['2'] else []
  '|' :: hint ++ chompingSign s ++ '\n' :: indented column (fun c => [c]) true s

/-- A text in its style; further lines of it start in the given column. The line of the last
character ends unless that character is a line break of a block. -/
def textLine (column : Nat) (s : String) : String :=
  let chars := s.toList
  match styleOf s with
  | .plain => s ++ "\n"
  | .singleQuoted => String.ofList (singleQuoted column chars) ++ "\n"
  | .literal =>
    String.ofList (literal column chars) ++ if chars.getLast?.any isBreak then "" else "\n"
  | _ => String.ofList (doubleQuoted chars) ++ "\n"

/-! ## Documents -/

/-- Lines that each start in the given column, the first one where it stands. -/
def aligned (column : Nat) (lines : List String) : String :=
  (String.ofList (spaces column)).intercalate lines

/-- What separates a key from its value: a block starts on a line of its own, in the column of the
key if it is a list. -/
def behindKey (column : Nat) : Json → String
  | .arr (_ :: _) => "\n" ++ String.ofList (spaces column)
  | .obj (_ :: _) => "\n" ++ String.ofList (spaces (column + 2))
  | _ => " "

/-- The column in which a value behind a key stands. -/
def valueColumn (column : Nat) : Json → Nat
  | .arr _ => column
  | _ => column + 2

mutual

/-- A value from its column on, with the end of its last line. -/
def value (column : Nat) : Json → String
  | .null => "null\n"
  | .bool true => "true\n"
  | .bool false => "false\n"
  | .int value => toString value ++ "\n"
  | .float value => value.text ++ "\n"
  | .str text => textLine column text
  | .arr [] => "[]\n"
  | .arr (item :: rest) => aligned column (items column (item :: rest))
  | .obj [] => "\x7b\x7d\n"
  | .obj (field :: rest) => aligned column (fields column (field :: rest))

/-- The items of a list in a column. -/
def items (column : Nat) : List Json → List String
  | [] => []
  | item :: rest => ("- " ++ value (column + 2) item) :: items column rest

/-- The fields of a mapping in a column. -/
def fields (column : Nat) : List (String × Json) → List String
  | [] => []
  | (key, item) :: rest =>
    (key ++ ":" ++ behindKey column item ++ value (valueColumn column item) item) ::
      fields column rest

end

end Printer

/-- The document whose value is given. Its keys must be words. -/
def render (json : Json) : String :=
  Printer.value 0 json

end ClusterGraph.Yaml
