/-!
Characters of a document with their places.

Indentation matters, so every character carries its line and its column, both from zero. All line
breaks but the two Unicode separators are read as one newline.
-/

namespace ClusterGraph.Yaml

/-- A character and where it stands. -/
structure Glyph where
  char : Char
  line : Nat
  column : Nat
  deriving DecidableEq, Repr, Inhabited

/-- A space or a tab. -/
def isSpacing (c : Char) : Bool :=
  c == ' ' || c == '\t'

/-- A line break, as it stands among glyphs. -/
def isBreak (c : Char) : Bool :=
  c == '\n' || c == '\u2028' || c == '\u2029'

/-- Spacing or a line break. -/
def isGap (c : Char) : Bool :=
  isSpacing c || isBreak c

/-- A letter, a digit, an underscore or a hyphen of ASCII. -/
def isWordChar (c : Char) : Bool :=
  c.isAlphanum || c == '_' || c == '-'

/-- The characters that may stand in a document. -/
def isAllowed (c : Char) : Bool :=
  let n := c.toNat
  n == 0x09 || n == 0x0A || n == 0x0D || (0x20 ≤ n && n ≤ 0x7E) || n == 0x85 ||
    (0xA0 ≤ n && n ≤ 0xD7FF) || (0xE000 ≤ n && n ≤ 0xFFFD) || 0x10000 ≤ n

namespace Glyph

/-- The glyphs of a text from a place on. -/
def place (line column : Nat) : List Char → List Glyph
  | [] => []
  | '\r' :: '\n' :: rest => ⟨'\n', line, column⟩ :: place (line + 1) 0 rest
  | c :: rest =>
    if c == '\r' || c == '\n' || c == '\u0085' then
      ⟨'\n', line, column⟩ :: place (line + 1) 0 rest
    else if isBreak c then ⟨c, line, column⟩ :: place (line + 1) 0 rest
    else ⟨c, line, column⟩ :: place line (column + 1) rest

/-- The glyphs of a text. -/
def ofText (s : String) : List Glyph :=
  place 0 0 s.toList

/-- The character at a distance from the first glyph. -/
def peek (glyphs : List Glyph) (distance : Nat) : Option Char :=
  (glyphs.drop distance).head?.map (·.char)

/-- Whether at a distance there is a gap or the end. -/
def gapAt (glyphs : List Glyph) (distance : Nat) : Bool :=
  (peek glyphs distance).all isGap

/-- Whether the line starts with a three-character mark that a gap follows. -/
def hasMark (mark : Char) (glyphs : List Glyph) : Bool :=
  match glyphs with
  | a :: b :: c :: rest =>
    a.column == 0 && a.char == mark && b.char == mark && c.char == mark && gapAt rest 0
  | _ => false

/-- Whether a document starts or ends here. -/
def atBoundary (glyphs : List Glyph) : Bool :=
  hasMark '-' glyphs || hasMark '.' glyphs

/-- Drops spaces and tabs. -/
def skipSpacing (glyphs : List Glyph) : List Glyph :=
  glyphs.dropWhile fun g => isSpacing g.char

/-- Drops everything up to the end of the line. -/
def skipLineRest (glyphs : List Glyph) : List Glyph :=
  glyphs.dropWhile fun g => !isBreak g.char

/-- Drops spacing, then a comment. -/
def skipComment (glyphs : List Glyph) : List Glyph :=
  match skipSpacing glyphs with
  | g :: rest => if g.char == '#' then skipLineRest rest else g :: rest
  | [] => []

/-- What follows the end of the line, when only spacing and a comment are left on it. -/
def endLine? (glyphs : List Glyph) : Option (List Glyph) :=
  match skipComment glyphs with
  | [] => some []
  | g :: rest => if isBreak g.char then some rest else none

end Glyph

end ClusterGraph.Yaml
