import ClusterGraph.Yaml.BlockScalar

/-!
Lexemes of YAML.

The scanner turns indentation into brackets: it keeps the columns of the open blocks, opens one where
a deeper line needs it, and closes those that a line leaves. A mapping key is recognised only by the
colon behind it, so the scanner remembers where a key may have begun, and inserts the key mark, and if
need be the start of its block, there. Such a place lapses with the end of its line and after 1024
characters; where a block requires a key, that is an error.

A document is scanned as far as possible. When it contains an error, the lexemes are given up to the
first one that depends on what is wrong.
-/

namespace ClusterGraph.Yaml

/-- How a scalar is written. -/
inductive Style where
  | plain
  | singleQuoted
  | doubleQuoted
  | literal
  | folded
  deriving DecidableEq, Repr, Inhabited

/-- A lexeme. -/
inductive Token where
  | streamEnd
  | versionDirective (major minor : Nat)
  | tagDirective (handle address : String)
  | documentStart
  | documentEnd
  | blockSequenceStart
  | blockMappingStart
  | blockEnd
  | flowSequenceStart
  | flowSequenceEnd
  | flowMappingStart
  | flowMappingEnd
  | blockEntry
  | flowEntry
  | key
  | value
  | aliasName (name : String)
  | anchor (name : String)
  | tag (handle suffix : String)
  | scalar (text : String) (style : Style)
  deriving DecidableEq, Repr, Inhabited

namespace Token

/-! ## Names, tags and directives -/

/-- The characters of a word at the start, and what follows them. -/
def word (glyphs : List Glyph) : List Char × List Glyph :=
  ((glyphs.takeWhile fun g => isWordChar g.char).map (·.char),
    glyphs.dropWhile fun g => isWordChar g.char)

/-- The name of an anchor or an alias, behind its indicator. -/
def anchorName? (glyphs : List Glyph) : Option (String × List Glyph) :=
  let (name, rest) := word glyphs
  let ends := Glyph.gapAt rest 0 ||
    (Glyph.peek rest 0).any fun c => ['?', ':', ',', ']', '\x7d', '%', '@', '`'].contains c
  if name.isEmpty || !ends then none else some (String.ofList name, rest)

/-- The characters of a tag; some are allowed only between angle brackets or in a directive. -/
def isTagChar (isAddress : Bool) (c : Char) : Bool :=
  isWordChar c || ";/?:@&=+$.%!~*'()".toList.contains c || (isAddress && ",[]".toList.contains c)

/-- The number of bytes of a UTF-8 sequence, by its first byte. -/
def sequenceLength? (byte : Nat) : Option Nat :=
  if byte < 0x80 then some 1
  else if byte / 32 = 6 then some 2
  else if byte / 16 = 14 then some 3
  else if byte / 8 = 30 then some 4
  else none

/-- The character of the bytes of a UTF-8 sequence, the first one first. -/
def decodeSequence? (bytes : List Nat) : Option Char :=
  match bytes with
  | [] => none
  | first :: rest => do
    let length ← sequenceLength? first
    guard (rest.length + 1 = length && rest.all (· / 64 = 2))
    let head := match length with
      | 1 => first
      | 2 => first % 32
      | 3 => first % 16
      | _ => first % 8
    codePoint? (rest.foldl (fun n byte => n * 64 + byte % 64) head)

/-- The address of a tag. `bytes` are those of an escaped character that is not complete, in reverse;
`read` is in reverse as well. -/
def tagAddress (isAddress : Bool) (bytes : List Nat) (read : List Char) :
    List Glyph → Option (List Char × List Glyph)
  | [] => if bytes.isEmpty then some (read.reverse, []) else none
  | g :: rest =>
    if g.char == '%' then
      match rest with
      | high :: low :: rest => do
        let byte := (← Text.hexDigit? high.char) * 16 + (← Text.hexDigit? low.char)
        let bytes := byte :: bytes
        let length ← (bytes.getLast?).bind sequenceLength?
        if bytes.length = length then
          tagAddress isAddress [] ((← decodeSequence? bytes.reverse) :: read) rest
        else tagAddress isAddress bytes read rest
      | _ => none
    else if !bytes.isEmpty then none
    else if isTagChar isAddress g.char then tagAddress isAddress [] (g.char :: read) rest
    else some (read.reverse, g :: rest)

/-- The handle of a tag: `!`, then perhaps a word and another `!`. -/
def tagHandle? (isDirective : Bool) (glyphs : List Glyph) : Option (List Char × List Glyph) :=
  match glyphs with
  | [] => none
  | g :: rest =>
    if g.char != '!' then none
    else
      let (name, rest) := word rest
      match rest with
      | next :: others =>
        if next.char == '!' then some ('!' :: name ++ ['!'], others)
        else if isDirective && !name.isEmpty then none
        else some ('!' :: name, next :: others)
      | [] => if isDirective && !name.isEmpty then none else some ('!' :: name, [])

/-- Whether a tag may end here. -/
def tagEnds (inFlow : Bool) (glyphs : List Glyph) : Bool :=
  Glyph.gapAt glyphs 0 || (inFlow && Glyph.peek glyphs 0 == some ',')

/-- A tag, from its exclamation mark on. -/
def tag? (inFlow : Bool) (glyphs : List Glyph) : Option (Token × List Glyph) := do
  if Glyph.peek glyphs 1 == some '<' then
    let (address, rest) ← tagAddress true [] [] (glyphs.drop 2)
    guard (!address.isEmpty)
    match rest with
    | g :: rest =>
      guard (g.char == '>' && tagEnds inFlow rest)
      some (.tag "" (String.ofList address), rest)
    | [] => none
  else
    let (handle, rest) ← tagHandle? false glyphs
    if 2 ≤ handle.length && handle.getLast? == some '!' then
      let (suffix, rest) ← tagAddress false [] [] rest
      guard (!suffix.isEmpty && tagEnds inFlow rest)
      some (.tag (String.ofList handle) (String.ofList suffix), rest)
    else
      let (more, rest) ← tagAddress false [] [] rest
      let suffix := handle.drop 1 ++ more
      guard (tagEnds inFlow rest)
      if suffix.isEmpty then some (.tag "" "!", rest)
      else some (.tag "!" (String.ofList suffix), rest)

/-- A number of a version: at most nine digits. -/
def versionNumber? (glyphs : List Glyph) : Option (Nat × List Glyph) :=
  let digits := (glyphs.takeWhile (·.char.isDigit)).map (·.char)
  if digits.isEmpty || 9 < digits.length then none
  else
    some (digits.foldl (fun n c => n * 10 + (c.toNat - 48)) 0, glyphs.dropWhile (·.char.isDigit))

/-- A directive, behind its percent sign, with the rest of its line. -/
def directive? (glyphs : List Glyph) : Option (Token × List Glyph) := do
  let (name, rest) := word glyphs
  guard (!name.isEmpty && Glyph.gapAt rest 0)
  let (token, rest) ←
    if String.ofList name == "YAML" then do
      let (major, rest) ← versionNumber? (Glyph.skipSpacing rest)
      guard (Glyph.peek rest 0 == some '.')
      let (minor, rest) ← versionNumber? (rest.drop 1)
      some (Token.versionDirective major minor, rest)
    else if String.ofList name == "TAG" then do
      let (handle, rest) ← tagHandle? true (Glyph.skipSpacing rest)
      guard ((Glyph.peek rest 0).any isSpacing)
      let (address, rest) ← tagAddress true [] [] (Glyph.skipSpacing rest)
      guard (!address.isEmpty && Glyph.gapAt rest 0)
      some (Token.tagDirective (String.ofList handle) (String.ofList address), rest)
    else none
  some (token, ← Glyph.endLine? rest)

end Token

/-! ## The scanner -/

/-- A place where a key may have begun: the number of its lexeme, its line and its column, and whether
its block requires it to be one. -/
structure KeyPlace where
  token : Nat
  line : Nat
  column : Nat
  required : Bool
  deriving Repr

/-- The scanner between two lexemes. `keys` has an entry for the block context and one for every open
bracket, the innermost first. -/
structure Scanner where
  rest : List Glyph
  tokens : Array Token := #[]
  indent : Int := -1
  indents : List Int := []
  keyAllowed : Bool := true
  keys : List (Option KeyPlace) := [none]

namespace Scanner

/-- Whether a bracket is open. -/
def inFlow (s : Scanner) : Bool :=
  1 < s.keys.length

/-- The scanner with another lexeme. -/
def emit (s : Scanner) (token : Token) : Scanner :=
  { s with tokens := s.tokens.push token }

/-- The scanner with a lexeme put in at a given number. -/
def emitAt (s : Scanner) (number : Nat) (token : Token) : Scanner :=
  { s with tokens := s.tokens.extract 0 number ++ #[token] ++
      s.tokens.extract number s.tokens.size }

/-- Whether a place has lapsed when the scanner stands at a glyph. -/
def lapsed (place : KeyPlace) (here : Glyph) : Bool :=
  place.line < here.line || place.column + 1024 < here.column

/-- Forgets the places that have lapsed; a required one must not. -/
def dropLapsed? (s : Scanner) : Option Scanner :=
  match s.rest with
  | [] => some s
  | here :: _ =>
    let stale := fun (key : Option KeyPlace) => key.any (lapsed · here)
    if s.keys.any fun key => stale key && key.any (·.required) then none
    else some { s with keys := s.keys.map fun key => if stale key then none else key }

/-- Forgets the innermost place; a required one must not be forgotten. -/
def removeKey? (s : Scanner) : Option Scanner :=
  match s.keys with
  | some place :: outer => if place.required then none else some { s with keys := none :: outer }
  | _ => some s

/-- Remembers that a key may begin with the next lexeme. -/
def saveKey? (s : Scanner) : Option Scanner :=
  if s.keyAllowed then do
    let s ← s.removeKey?
    let here := s.rest.headD default
    let required := !s.inFlow && s.indent == here.column
    some { s with keys := some ⟨s.tokens.size, here.line, here.column, required⟩ :: s.keys.drop 1 }
  else some s

/-- Opens a block at a column, unless one is open there, with its first lexeme at a given number. -/
def openBlock (s : Scanner) (column number : Nat) (token : Token) : Scanner :=
  if s.inFlow || !(s.indent < column) then s
  else { s.emitAt number token with indent := column, indents := s.indent :: s.indents }

/-- Closes the blocks that are indented further than a column; the first ones of `fuel`. -/
def closeBlocksFuel (column : Int) : Nat → Scanner → Scanner
  | 0, s => s
  | fuel + 1, s =>
    if column < s.indent then
      closeBlocksFuel column fuel
        { s.emit .blockEnd with indent := s.indents.headD (-1), indents := s.indents.drop 1 }
    else s

/-- Closes the blocks that are indented further than a column. -/
def closeBlocks (s : Scanner) (column : Int) : Scanner :=
  if s.inFlow then s else closeBlocksFuel column (s.indents.length + 1) s

/-- Passes over spacing, comments and line breaks. A tab is no spacing where a key may begin. -/
def skipGap (inFlow keyAllowed inComment : Bool) : List Glyph → Bool × List Glyph
  | [] => (keyAllowed, [])
  | g :: rest =>
    if isBreak g.char then skipGap inFlow (keyAllowed || !inFlow) false rest
    else if inComment then skipGap inFlow keyAllowed true rest
    else if g.column == 0 && g.char == '\ufeff' then skipGap inFlow keyAllowed false rest
    else if g.char == ' ' || (g.char == '\t' && (inFlow || !keyAllowed)) then
      skipGap inFlow keyAllowed false rest
    else if g.char == '#' then skipGap inFlow keyAllowed true rest
    else (keyAllowed, g :: rest)

/-- Passes over the indicator of a lexeme. -/
def skip (s : Scanner) (count : Nat) : Scanner :=
  { s with rest := s.rest.drop count }

/-- The end of the stream. -/
def fetchEnd? (s : Scanner) : Option Scanner := do
  let s ← (s.closeBlocks (-1)).removeKey?
  some ({ s with keyAllowed := false }.emit .streamEnd)

/-- A directive. -/
def fetchDirective? (s : Scanner) : Option Scanner := do
  let s ← (s.closeBlocks (-1)).removeKey?
  let (token, rest) ← Token.directive? (s.rest.drop 1)
  some ({ s with keyAllowed := false, rest }.emit token)

/-- The mark of the start or the end of a document. -/
def fetchBoundary? (s : Scanner) (token : Token) : Option Scanner := do
  let s ← (s.closeBlocks (-1)).removeKey?
  some ({ s.skip 3 with keyAllowed := false }.emit token)

/-- An opening bracket. -/
def fetchOpen? (s : Scanner) (token : Token) : Option Scanner := do
  let s ← s.saveKey?
  some ({ s.skip 1 with keyAllowed := true, keys := none :: s.keys }.emit token)

/-- A closing bracket. -/
def fetchClose? (s : Scanner) (token : Token) : Option Scanner := do
  let s ← s.removeKey?
  let keys := if s.inFlow then s.keys.drop 1 else s.keys
  some ({ s.skip 1 with keyAllowed := false, keys }.emit token)

/-- A comma. -/
def fetchFlowEntry? (s : Scanner) : Option Scanner := do
  let s ← s.removeKey?
  some ({ s.skip 1 with keyAllowed := true }.emit .flowEntry)

/-- Opens a block for an indicator at the given column, where the context allows one. -/
def openAt? (s : Scanner) (column : Nat) (token : Token) : Option Scanner :=
  if s.inFlow then some s
  else if s.keyAllowed then some (s.openBlock column s.tokens.size token)
  else none

/-- The hyphen of a list item. -/
def fetchBlockEntry? (s : Scanner) (column : Nat) : Option Scanner := do
  let s ← (← s.openAt? column .blockSequenceStart).removeKey?
  some ({ s.skip 1 with keyAllowed := true }.emit .blockEntry)

/-- The question mark before a key. -/
def fetchKey? (s : Scanner) (column : Nat) : Option Scanner := do
  let s ← (← s.openAt? column .blockMappingStart).removeKey?
  some ({ s.skip 1 with keyAllowed := !s.inFlow }.emit .key)

/-- The colon before a value. -/
def fetchValue? (s : Scanner) (column : Nat) : Option Scanner := do
  match s.keys with
  | some place :: outer =>
    let s := s.emitAt place.token .key
    let s := s.openBlock place.column place.token .blockMappingStart
    some ({ s.skip 1 with keyAllowed := false, keys := none :: outer }.emit .value)
  | _ =>
    let s ← s.openAt? column .blockMappingStart
    some ({ s.skip 1 with keyAllowed := !s.inFlow }.emit .value)

/-- An anchor or an alias. -/
def fetchAnchor? (s : Scanner) (token : String → Token) : Option Scanner := do
  let s ← s.saveKey?
  let (name, rest) ← Token.anchorName? (s.rest.drop 1)
  some ({ s with keyAllowed := false, rest }.emit (token name))

/-- A tag. -/
def fetchTag? (s : Scanner) : Option Scanner := do
  let s ← s.saveKey?
  let (token, rest) ← Token.tag? s.inFlow s.rest
  some ({ s with keyAllowed := false, rest }.emit token)

/-- A literal or a folded scalar. -/
def fetchBlockScalar? (s : Scanner) (isLiteral : Bool) : Option Scanner := do
  let s ← s.removeKey?
  let scalar ← blockScalar isLiteral s.indent (s.rest.drop 1)
  some ({ s with keyAllowed := true, rest := scalar.rest }.emit
    (.scalar scalar.text (if isLiteral then .literal else .folded)))

/-- A quoted scalar. -/
def fetchQuoted? (s : Scanner) (double : Bool) : Option Scanner := do
  let s ← s.saveKey?
  let scalar ← quotedScalar double (s.rest.drop 1)
  some ({ s with keyAllowed := false, rest := scalar.rest }.emit
    (.scalar scalar.text (if double then .doubleQuoted else .singleQuoted)))

/-- A plain scalar. A line break behind it allows a key again. -/
def fetchPlain? (s : Scanner) : Option Scanner := do
  let s ← s.saveKey?
  let scalar ← plainScalar s.inFlow s.indent s.rest
  some ({ s with keyAllowed := scalar.brokeLine, rest := scalar.rest }.emit
    (.scalar scalar.text .plain))

/-- Whether a plain scalar may begin with a character, given what follows it. -/
def startsPlain (inFlow : Bool) (c : Char) (rest : List Glyph) : Bool :=
  !(isGap c || "-?:,[]\x7b\x7d#&*!|>'\"%@`".toList.contains c) ||
    (c == '-' && !(Glyph.peek rest 0).any isSpacing) ||
    (!inFlow && (c == '?' || c == ':') && !Glyph.gapAt rest 0)

/-- The lexeme that begins with a glyph. -/
def fetchFrom? (s : Scanner) (g : Glyph) (rest : List Glyph) : Option Scanner :=
  let marks := s.inFlow || Glyph.gapAt rest 0
  if g.column == 0 && g.char == '%' then s.fetchDirective?
  else if Glyph.hasMark '-' s.rest then s.fetchBoundary? .documentStart
  else if Glyph.hasMark '.' s.rest then s.fetchBoundary? .documentEnd
  else if g.char == '[' then s.fetchOpen? .flowSequenceStart
  else if g.char == '\x7b' then s.fetchOpen? .flowMappingStart
  else if g.char == ']' then s.fetchClose? .flowSequenceEnd
  else if g.char == '\x7d' then s.fetchClose? .flowMappingEnd
  else if g.char == ',' then s.fetchFlowEntry?
  else if g.char == '-' && Glyph.gapAt rest 0 then s.fetchBlockEntry? g.column
  else if g.char == '?' && marks then s.fetchKey? g.column
  else if g.char == ':' && marks then s.fetchValue? g.column
  else if g.char == '*' then s.fetchAnchor? .aliasName
  else if g.char == '&' then s.fetchAnchor? .anchor
  else if g.char == '!' then s.fetchTag?
  else if g.char == '|' && !s.inFlow then s.fetchBlockScalar? true
  else if g.char == '>' && !s.inFlow then s.fetchBlockScalar? false
  else if g.char == '\'' then s.fetchQuoted? false
  else if g.char == '"' then s.fetchQuoted? true
  else if startsPlain s.inFlow g.char rest then s.fetchPlain?
  else none

/-- The next lexeme, with everything that comes with it. -/
def fetch? (s : Scanner) : Option Scanner := do
  let (keyAllowed, rest) := skipGap s.inFlow s.keyAllowed false s.rest
  let s ← { s with keyAllowed, rest }.dropLapsed?
  match rest with
  | [] => s.fetchEnd?
  | g :: others => (s.closeBlocks g.column).fetchFrom? g others

/-- The lexemes that do not depend on what follows them: those before the first place where a key may
have begun. -/
def settled (s : Scanner) : List Token :=
  s.keys.foldl (fun tokens key =>
    match key with
    | some place => tokens.take place.token
    | none => tokens) s.tokens.toList

/-- The lexemes of a stream from here on, at most `fuel` of them. -/
def run : Nat → Scanner → List Token
  | 0, s => s.settled
  | fuel + 1, s =>
    match s.dropLapsed? with
    | none => s.settled
    | some s =>
      match s.fetch? with
      | none => s.settled
      | some next =>
        if next.tokens.back? == some .streamEnd then next.tokens.toList else run fuel next

end Scanner

/-- The lexemes of a text. They end with the end of the stream, unless something is wrong. A character
that may not stand in a document, or a byte order mark at the start, spoils all of it. -/
def Token.scan (s : String) : List Token :=
  if !s.toList.all isAllowed || s.toList.head? == some '\ufeff' then []
  else
    let glyphs := Glyph.ofText s
    Scanner.run (glyphs.length + 1) { rest := glyphs }

end ClusterGraph.Yaml
