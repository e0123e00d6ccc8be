import ClusterGraph.Yaml.Token

/-!
Documents as trees.

A node is a scalar, a list or a mapping, perhaps with an anchor and a tag, or an alias of another
node. Anchors are numbered by the count of different names so far; an alias stands for the last node
of its document that carries its number. A stream is read one document at a time, so that what is
wrong with one document does not spoil those before it.
-/

namespace ClusterGraph.Yaml

/-- What may stand before a node. -/
structure Properties where
  anchor : Option Nat := none
  tag : Option String := none
  deriving DecidableEq, Repr, Inhabited

/-- A part of a document. -/
inductive Node where
  | reference (anchor : Nat)
  | scalar (properties : Properties) (text : String) (style : Style)
  | seq (properties : Properties) (items : List Node)
  | map (properties : Properties) (entries : List (Node × Node))
  deriving Repr, Inhabited

/-- The later of two findings. -/
private def later (a b : Option Node) : Option Node := b.or a

namespace Node

/-- The scalar that stands where nothing is written. -/
def empty : Node := .scalar {} "" .plain

mutual

/-- The last node, in the order of the text, that carries an anchor. -/
def lastAnchored (anchor : Nat) : Node → Option Node
  | reference _ => none
  | scalar properties text style =>
    if properties.anchor == some anchor then some (.scalar properties text style) else none
  | seq properties items =>
    later (if properties.anchor == some anchor then some (.seq properties items) else none)
      (lastInItems anchor items)
  | map properties entries =>
    later (if properties.anchor == some anchor then some (.map properties entries) else none)
      (lastInEntries anchor entries)

/-- The last node of a list that carries an anchor, itself or within. -/
def lastInItems (anchor : Nat) : List Node → Option Node
  | [] => none
  | item :: rest => later (lastAnchored anchor item) (lastInItems anchor rest)

/-- The last node of a mapping that carries an anchor, itself or within. -/
def lastInEntries (anchor : Nat) : List (Node × Node) → Option Node
  | [] => none
  | (key, value) :: rest =>
    later (later (lastAnchored anchor key) (lastAnchored anchor value))
      (lastInEntries anchor rest)

end

mutual

/-- The number of marks by which a node is written: one for a scalar or an alias, two more than its
parts for a list or a mapping. -/
def size : Node → Nat
  | reference _ => 1
  | scalar _ _ _ => 1
  | seq _ items => sizeItems items + 2
  | map _ entries => sizeEntries entries + 2

/-- The marks of the items of a list. -/
def sizeItems : List Node → Nat
  | [] => 0
  | item :: rest => size item + sizeItems rest

/-- The marks of the entries of a mapping. -/
def sizeEntries : List (Node × Node) → Nat
  | [] => 0
  | (key, value) :: rest => size key + size value + sizeEntries rest

end

end Node

/-! ## Trees from lexemes -/

/-- The lexemes that are left, the names of the anchors so far with their numbers, and the directives
of the document. -/
structure ParseState where
  tokens : List Token
  names : List (String × Nat) := []
  handles : List (String × String) := []

/-- A step of reading a tree; it fails where the lexemes do not fit or end too early. -/
abbrev Parse := StateT ParseState Option

namespace Parse

/-- The next lexeme, which stays. -/
def peek : Parse Token := fun s => do
  some (← s.tokens.head?, s)

/-- Passes over the next lexeme. -/
def skip : Parse Unit := fun s => some ((), { s with tokens := s.tokens.drop 1 })

/-- Passes over the next lexeme if it is the given one, and says whether it was. -/
def take (token : Token) : Parse Bool := do
  if (← peek) == token then
    skip
    pure true
  else pure false

/-- Requires the next lexeme to be the given one. -/
def require (token : Token) : Parse Unit := do
  guard (← take token)

/-- Numbers an anchor. The number is the count of different names before it. -/
def nameAnchor (name : String) : Parse Nat := fun s =>
  let number := s.names.length
  let others := s.names.filter (·.1 != name)
  some (number, { s with names := (name, number) :: others })

/-- The node that an alias stands for must have been named before. -/
def aliasNumber (name : String) : Parse Nat := fun s => do
  some (← s.names.lookup name, s)

/-- The full form of a tag: its handle is replaced by what stands for it. -/
def fullTag (handle suffix : String) : Parse String := fun s =>
  if handle.isEmpty then some (suffix, s)
  else do
    let address ← (s.handles.lookup handle).or
      ([("!", "!"), ("!!", "tag:yaml.org,2002:")].lookup handle)
    some (address ++ suffix, s)

/-- An anchor, if one is next. -/
def anchor? : Parse (Option Nat) := do
  match ← peek with
  | .anchor name =>
    skip
    return some (← nameAnchor name)
  | _ => return none

/-- A tag, if one is next. -/
def tag? : Parse (Option String) := do
  match ← peek with
  | .tag handle suffix =>
    skip
    return some (← fullTag handle suffix)
  | _ => return none

/-- An anchor and a tag in either order. -/
def properties : Parse Properties := do
  match ← anchor? with
  | some anchor => return ⟨some anchor, ← tag?⟩
  | none =>
    let tag ← tag?
    let anchor ← if tag.isSome then anchor? else pure none
    return ⟨anchor, tag⟩

/-- The tag of a written scalar; a lone exclamation mark only says that it has none. -/
def scalarProperties (properties : Properties) : Properties :=
  if properties.tag == some "!" then { properties with tag := none } else properties

/-- Where nodes may stand. Block collections may stand only in block context, and a list without
indentation of its own only as part of a mapping. -/
inductive Place where
  | block
  | mappingPart
  | flow
  deriving DecidableEq

/-- A node, if the next lexeme is none of those that may follow it; else the empty scalar. -/
def nodeUnless (node : Parse Node) (followers : List Token) : Parse Node := do
  if followers.contains (← peek) then pure .empty else node

mutual

/-- A node at a place. -/
def node (place : Place) : (fuel : Nat) → Parse Node
  | 0 => failure
  | fuel + 1 => do
    match ← peek with
    | .aliasName name =>
      skip
      return .reference (← aliasNumber name)
    | _ =>
      let properties ← properties
      let token ← peek
      match token with
      | .scalar text style =>
        skip
        return .scalar (scalarProperties properties) text style
      | .flowSequenceStart =>
        skip
        return .seq properties (← flowItems true fuel)
      | .flowMappingStart =>
        skip
        return .map properties (← flowEntries true fuel)
      | _ =>
        if place == .mappingPart && token == .blockEntry then
          return .seq properties (← looseItems fuel)
        else if place != .flow && token == .blockSequenceStart then
          skip
          return .seq properties (← blockItems fuel)
        else if place != .flow && token == .blockMappingStart then
          skip
          return .map properties (← blockEntries fuel)
        else if properties.anchor.isSome || properties.tag.isSome then
          return .scalar properties "" .plain
        else failure

/-- The items of an indented list. -/
def blockItems : (fuel : Nat) → Parse (List Node)
  | 0 => failure
  | fuel + 1 => do
    if ← take .blockEntry then
      let item ← nodeUnless (node .block fuel) [.blockEntry, .blockEnd]
      return item :: (← blockItems fuel)
    else
      require .blockEnd
      return []

/-- The items of a list at the indentation of its mapping. -/
def looseItems : (fuel : Nat) → Parse (List Node)
  | 0 => failure
  | fuel + 1 => do
    if ← take .blockEntry then
      let item ← nodeUnless (node .block fuel) [.blockEntry, .key, .value, .blockEnd]
      return item :: (← looseItems fuel)
    else return []

/-- The entries of an indented mapping. -/
def blockEntries : (fuel : Nat) → Parse (List (Node × Node))
  | 0 => failure
  | fuel + 1 => do
    if ← take .key then
      let key ← nodeUnless (node .mappingPart fuel) [.key, .value, .blockEnd]
      let value ←
        if ← take .value then nodeUnless (node .mappingPart fuel) [.key, .value, .blockEnd]
        else pure .empty
      return (key, value) :: (← blockEntries fuel)
    else
      require .blockEnd
      return []

/-- A pair that stands by itself in a list between brackets, behind its key mark. A key that is not
written swallows the lexeme in its place. -/
def flowPair : (fuel : Nat) → Parse Node
  | 0 => failure
  | fuel + 1 => do
    let key ←
      if [Token.value, .flowEntry, .flowSequenceEnd].contains (← peek) then do
        skip
        pure Node.empty
      else node .flow fuel
    let value ←
      if ← take .value then nodeUnless (node .flow fuel) [.flowEntry, .flowSequenceEnd]
      else pure .empty
    return .map {} [(key, value)]

/-- The items of a list between brackets. -/
def flowItems (first : Bool) : (fuel : Nat) → Parse (List Node)
  | 0 => failure
  | fuel + 1 => do
    if ← take .flowSequenceEnd then return []
    unless first do require .flowEntry
    if ← take .flowSequenceEnd then return []
    let item ← if ← take .key then flowPair fuel else node .flow fuel
    return item :: (← flowItems false fuel)

/-- The entries of a mapping between braces. -/
def flowEntries (first : Bool) : (fuel : Nat) → Parse (List (Node × Node))
  | 0 => failure
  | fuel + 1 => do
    if ← take .flowMappingEnd then return []
    unless first do require .flowEntry
    if ← take .flowMappingEnd then return []
    let (key, value) ←
      if ← take .key then do
        let key ← nodeUnless (node .flow fuel) [.value, .flowEntry, .flowMappingEnd]
        let value ←
          if ← take .value then nodeUnless (node .flow fuel) [.flowEntry, .flowMappingEnd]
          else pure .empty
        pure (key, value)
      else do pure (← node .flow fuel, .empty)
    return (key, value) :: (← flowEntries false fuel)

end

/-- The directives before a document, given those that came before. A version is given at most once
and must be 1.1 or 1.2; a handle is given at most once. -/
def directives (versioned : Bool) : (fuel : Nat) → Parse Unit
  | 0 => failure
  | fuel + 1 => do
    match ← peek with
    | .versionDirective major minor =>
      guard (!versioned && major == 1 && (minor == 1 || minor == 2))
      skip
      directives true fuel
    | .tagDirective handle address =>
      guard (!((← get).handles.any (·.1 == handle)))
      skip
      modify fun s => { s with handles := s.handles ++ [(handle, address)] }
      directives versioned fuel
    | _ => pure ()

/-- Passes over the marks of ends of documents. -/
def skipEnds : (fuel : Nat) → Parse Unit
  | 0 => pure ()
  | fuel + 1 => do
    if ← take .documentEnd then skipEnds fuel

/-- A document that its start mark introduces. -/
def marked (fuel : Nat) : Parse Node := do
  directives false fuel
  require .documentStart
  match ← peek with
  | .versionDirective _ _ | .tagDirective _ _ => pure .empty
  | _ => nodeUnless (node .block fuel) [.documentStart, .documentEnd, .streamEnd]

/-- The next document, or nothing at the end of the stream. Only the first one may lack a start
mark. -/
def document? (first : Bool) (fuel : Nat) : Parse (Option Node) := do
  modify fun s => { s with names := [], handles := [] }
  unless first do skipEnds fuel
  match ← peek with
  | .streamEnd => pure none
  | token =>
    let isMarked := match token with
      | .versionDirective _ _ | .tagDirective _ _ | .documentStart => true
      | _ => false
    let root ← if first && !isMarked then node .block fuel else marked fuel
    discard (take .documentEnd)
    pure (some root)

end Parse

/-- The documents of a stream of lexemes, at most `fuel` of them; what is wrong ends the list with
nothing in the place of a document. -/
def documentsOf (first : Bool) : (fuel : Nat) → List Token → List (Option Node)
  | 0, _ => [none]
  | fuel + 1, tokens =>
    match (Parse.document? first (2 * tokens.length + 2)).run { tokens } with
    | none => [none]
    | some (none, _) => []
    | some (some root, state) => some root :: documentsOf false fuel state.tokens

/-- The documents of a text. A text with nothing in it has one empty document. -/
def documents (s : String) : List (Option Node) :=
  match documentsOf true (s.length + 2) (Token.scan s) with
  | [] => [some .empty]
  | documents => documents

end ClusterGraph.Yaml
