import ClusterGraph.Yaml.Scalar

/-!
Literal and folded scalars.

A block scalar has a header and lines that are indented further than what is around it, either by a
given number of columns or by as many as its first line that is not blank. A folded scalar joins
neighbouring lines with a space, unless one of them starts with spacing. The header says what becomes
of the line breaks at the end: all are dropped, one is kept, or all are kept.
-/

namespace ClusterGraph.Yaml

/-- What becomes of the line breaks at the end. -/
inductive Chomping where
  | strip
  | clip
  | keep
  deriving DecidableEq, Repr

/-- The header of a block scalar; without a given indentation it is found from the lines. -/
structure BlockHeader where
  chomping : Chomping := .clip
  increment : Option Nat := none

namespace BlockHeader

/-- The chomping that a character asks for. -/
def chomping? : Char → Option Chomping
  | '+' => some .keep
  | '-' => some .strip
  | _ => none

/-- The indentation that a character asks for; zero is refused. -/
def increment? (c : Char) : Option (Option Nat) :=
  if c.isDigit then if c == '0' then none else some (some (c.toNat - 48)) else some none

/-- Reads a header: a sign and a digit in either order, each perhaps missing. -/
def read : List Glyph → Option (BlockHeader × List Glyph)
  | [] => some ({}, [])
  | g :: rest =>
    match chomping? g.char with
    | some chomping =>
      match rest with
      | [] => some ({ chomping }, [])
      | next :: others =>
        match increment? next.char with
        | none => none
        | some none => some ({ chomping }, next :: others)
        | some increment => some ({ chomping, increment }, others)
    | none =>
      match increment? g.char with
      | none => none
      | some none => some ({}, g :: rest)
      | some increment =>
        match rest with
        | [] => some ({ increment }, [])
        | next :: others =>
          match chomping? next.char with
          | some chomping => some ({ chomping, increment }, others)
          | none => some ({ increment }, next :: others)

end BlockHeader

/-- How far a block scalar has been read; texts are in reverse. -/
structure BlockState where
  read : List Char := []
  /-- The break behind the last line. -/
  lastBreak : List Char := []
  /-- The breaks of the blank lines after it. -/
  blankBreaks : List Char := []
  /-- Whether the last line started with spacing. -/
  spaced : Bool := false
  /-- The widest column at which a blank line so far ended. -/
  widest : Nat := 0
  /-- The indentation, once it is known. -/
  indent : Option Nat

namespace BlockState

/-- The text so far with the gap before a further line that starts with the given character. -/
def joined (state : BlockState) (isLiteral : Bool) (c : Char) : List Char :=
  if !isLiteral && state.lastBreak == ['\n'] && !state.spaced && !isSpacing c then
    state.blankBreaks ++ (if state.blankBreaks.isEmpty then [' '] else []) ++ state.read
  else state.blankBreaks ++ state.lastBreak ++ state.read

/-- The whole text after its last line. -/
def finish (state : BlockState) (chomping : Chomping) : String :=
  let text := match chomping with
    | .strip => state.read
    | .clip => state.lastBreak ++ state.read
    | .keep => state.blankBreaks ++ state.lastBreak ++ state.read
  String.ofList text.reverse

end BlockState

/-- The lines of a block scalar. `inLine` says whether the next character belongs to a line that has
begun; otherwise indentation and blank lines are passed over. `least` is the least indentation. -/
def blockLines (isLiteral : Bool) (chomping : Chomping) (least : Nat) (inLine : Bool)
    (state : BlockState) : List Glyph → Option ScalarText
  | [] => some ⟨state.finish chomping, false, []⟩
  | g :: rest =>
    if inLine then
      if isBreak g.char then
        blockLines isLiteral chomping least false
          { state with lastBreak := [g.char], blankBreaks := [], widest := 0 } rest
      else
        blockLines isLiteral chomping least true { state with read := g.char :: state.read } rest
    else
      let inside := state.indent.all (g.column < ·)
      if inside && g.char == ' ' then blockLines isLiteral chomping least false state rest
      else
        let widest := max state.widest g.column
        if inside && g.char == '\t' then none
        else if isBreak g.char then
          blockLines isLiteral chomping least false
            { state with widest, blankBreaks := g.char :: state.blankBreaks } rest
        else
          let indent := state.indent.getD (max widest least)
          if g.column == indent then
            blockLines isLiteral chomping least true
              { state with
                read := g.char :: state.joined isLiteral g.char
                lastBreak := []
                blankBreaks := []
                spaced := isSpacing g.char
                indent := some indent } rest
          else some ⟨{ state with indent := some indent }.finish chomping, false, g :: rest⟩

/-- A block scalar from behind its indicator on, inside a block whose indentation is given. -/
def blockScalar (isLiteral : Bool) (blockIndent : Int) (glyphs : List Glyph) :
    Option ScalarText := do
  let (header, rest) ← BlockHeader.read glyphs
  let rest ← Glyph.endLine? rest
  let outer := blockIndent.toNat
  let indent := header.increment.map (outer + ·)
  let least := max (blockIndent + 1).toNat 1
  blockLines isLiteral header.chomping least false { indent } rest

end ClusterGraph.Yaml
