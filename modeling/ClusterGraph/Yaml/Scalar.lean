import ClusterGraph.Text.Escaped
import ClusterGraph.Yaml.Glyph

/-!
Plain and quoted scalars.

Both run over line breaks: a single break between two parts becomes a space, and of several breaks all
but the first stay. Spacing around breaks is dropped. A plain scalar ends before a colon with a gap
after it, before a comment, where the indentation ends, and inside brackets also before a comma or a
bracket. Double quotes allow escapes, single quotes only a doubled quote.
-/

namespace ClusterGraph.Yaml

/-- Spacing and line breaks between two parts of a scalar, all in reverse. -/
structure Gap where
  spacing : List Char := []
  broken : Bool := false
  first : List Char := []
  others : List Char := []
  deriving Inhabited

namespace Gap

/-- Whether nothing has been passed over. -/
def isEmpty (gap : Gap) : Bool :=
  !gap.broken && gap.spacing.isEmpty

/-- The gap with further spacing, which counts only before the first break. -/
def addSpacing (gap : Gap) (c : Char) : Gap :=
  if gap.broken then gap else { gap with spacing := c :: gap.spacing }

/-- The gap with a further break. -/
def addBreak (gap : Gap) (c : Char) : Gap :=
  if gap.broken then { gap with others := c :: gap.others }
  else { spacing := [], broken := true, first := [c], others := [] }

/-- A break that was escaped and leaves nothing behind. -/
def escaped : Gap :=
  { broken := true }

/-- What the gap leaves between the parts, in reverse. -/
def folded (gap : Gap) : List Char :=
  if gap.broken then
    if gap.first == ['\n'] then if gap.others.isEmpty then [' '] else gap.others
    else gap.others ++ gap.first
  else gap.spacing

end Gap

/-- A scalar's text, whether a line break was passed over behind it, and what follows. -/
structure ScalarText where
  text : String
  brokeLine : Bool
  rest : List Glyph

/-- Whether a plain scalar ends before its next character. -/
def endsPlain (inFlow : Bool) (c : Char) (rest : List Glyph) : Bool :=
  (c == ':' && Glyph.gapAt rest 0) ||
    (inFlow && (c == ',' || c == '[' || c == ']' || c == '\x7b' || c == '\x7d'))

/-- Whether a colon stands where it has no meaning: inside brackets before one of these. -/
def strayColon (inFlow : Bool) (c : Char) (rest : List Glyph) : Bool :=
  inFlow && c == ':' &&
    (Glyph.peek rest 0).any fun next =>
      next == ',' || next == '?' || next == '[' || next == ']' || next == '\x7b' || next == '\x7d'

/-- A plain scalar from inside on; `read` holds what was read, in reverse. -/
def plainFrom (inFlow : Bool) (indent : Int) (gap : Gap) (read : List Char) :
    List Glyph → Option ScalarText
  | [] => some ⟨String.ofList read.reverse, gap.broken, []⟩
  | g :: rest =>
    if isSpacing g.char then
      if gap.broken && g.column < indent && g.char == '\t' then none
      else plainFrom inFlow indent (gap.addSpacing g.char) read rest
    else if isBreak g.char then plainFrom inFlow indent (gap.addBreak g.char) read rest
    else if (!gap.isEmpty &&
        ((!inFlow && g.column < indent) || Glyph.atBoundary (g :: rest) || g.char == '#')) then
      some ⟨String.ofList read.reverse, gap.broken, g :: rest⟩
    else if strayColon inFlow g.char rest then none
    else if endsPlain inFlow g.char rest then
      some ⟨String.ofList read.reverse, gap.broken, g :: rest⟩
    else plainFrom inFlow indent {} (g.char :: (gap.folded ++ read)) rest

/-- A plain scalar, inside a block whose indentation is given. -/
def plainScalar (inFlow : Bool) (blockIndent : Int) (glyphs : List Glyph) : Option ScalarText :=
  plainFrom inFlow (blockIndent + 1) {} [] glyphs

/-- The character of a one-letter escape. -/
def escape? : Char → Option Char
  | '0' => some '\x00'
  | 'a' => some '\x07'
  | 'b' => some '\x08'
  | 't' => some '\t'
  | '\t' => some '\t'
  | 'n' => some '\n'
  | 'v' => some '\x0b'
  | 'f' => some '\x0c'
  | 'r' => some '\r'
  | 'e' => some '\x1b'
  | ' ' => some ' '
  | '"' => some '"'
  | '/' => some '/'
  | '\\' => some '\\'
  | 'N' => some '\u0085'
  | '_' => some '\u00a0'
  | 'L' => some '\u2028'
  | 'P' => some '\u2029'
  | _ => none

/-- The number of hexadecimal digits of an escape that takes some. -/
def escapeDigits? : Char → Option Nat
  | 'x' => some 2
  | 'u' => some 4
  | 'U' => some 8
  | _ => none

/-- A character by its code point, unless it is a surrogate or too large. -/
def codePoint? (n : Nat) : Option Char :=
  if h : n.isValidChar then some (Char.ofNatAux n h) else none

/-- A quoted scalar from behind its opening quote on. `digits` is the number of digits of an escape
that are still to come, and the value of those before. -/
def quotedFrom (double : Bool) (gap : Gap) (read : List Char) (digits : Option (Nat × Nat)) :
    List Glyph → Option ScalarText
  | [] => none
  | g :: rest =>
    match digits with
    | some (left, value) =>
      match Text.hexDigit? g.char with
      | none => none
      | some digit =>
        let value := value * 16 + digit
        if 1 < left then quotedFrom double gap read (some (left - 1, value)) rest
        else
          match codePoint? value with
          | none => none
          | some c => quotedFrom double gap (c :: read) none rest
    | none =>
      if isSpacing g.char then quotedFrom double (gap.addSpacing g.char) read none rest
      else if isBreak g.char then quotedFrom double (gap.addBreak g.char) read none rest
      else if Glyph.atBoundary (g :: rest) then none
      else
        let read := gap.folded ++ read
        if double then
          if g.char == '"' then some ⟨String.ofList read.reverse, false, rest⟩
          else if g.char == '\\' then
            match rest with
            | [] => none
            | next :: rest =>
              if isBreak next.char then quotedFrom double .escaped read none rest
              else
                match escape? next.char, escapeDigits? next.char with
                | some c, _ => quotedFrom double {} (c :: read) none rest
                | none, some count => quotedFrom double {} read (some (count, 0)) rest
                | none, none => none
          else quotedFrom double {} (g.char :: read) none rest
        else if g.char == '\'' then
          match rest with
          | next :: others =>
            if next.char == '\'' then quotedFrom double {} ('\'' :: read) none others
            else some ⟨String.ofList read.reverse, false, next :: others⟩
          | [] => some ⟨String.ofList read.reverse, false, []⟩
        else quotedFrom double {} (g.char :: read) none rest

/-- A quoted scalar from behind its opening quote on. -/
def quotedScalar (double : Bool) (glyphs : List Glyph) : Option ScalarText :=
  quotedFrom double {} [] none glyphs

end ClusterGraph.Yaml
