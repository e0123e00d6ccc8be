import ClusterGraph.Json.Token

/-!
Reading JSON text.

The reader folds over the lexemes with a stack of the lists and objects that are still open, so that
its run is bounded by the text. Lists and objects may be open at most 127 deep.
-/

namespace ClusterGraph.Json

/-- A list or an object that is still open; what it holds is in reverse. -/
inductive Frame where
  | arr (items : List Json)
  | obj (fields : List (String × Json)) (key : String)

/-- What the reader waits for. -/
inductive Expect where
  /-- A value; `first` right after an opening bracket, where it may close at once. -/
  | value (first : Bool)
  /-- A key; `first` right after an opening brace, where it may close at once. -/
  | key (first : Bool)
  /-- The colon after a key. -/
  | colon
  /-- A comma or a closing bracket after a value. -/
  | comma
  /-- Nothing more; the value is complete. -/
  | done (value : Json)

/-- The number of lists and objects that may be open at once. -/
def depthLimit : Nat := 127

/-- Hands a complete value to the innermost open list or object. -/
def close (value : Json) : List Frame → Expect × List Frame
  | [] => (.done value, [])
  | .arr items :: rest => (.comma, .arr (value :: items) :: rest)
  | .obj fields key :: rest => (.comma, .obj ((key, value) :: fields) "" :: rest)

/-- The complete object of an open one. -/
def closeObj (fields : List (String × Json)) : Json :=
  .obj (sortFields fields.reverse)

/-- One lexeme further. -/
def advance (expect : Expect) (frames : List Frame) (token : Token) :
    Option (Expect × List Frame) :=
  match expect, token, frames with
  | .value _, .scalar value, frames => some (close value frames)
  | .value _, .openArr, frames =>
    if frames.length < depthLimit then some (.value true, .arr [] :: frames) else none
  | .value _, .openObj, frames =>
    if frames.length < depthLimit then some (.key true, .obj [] "" :: frames) else none
  | .value true, .closeArr, .arr [] :: rest => some (close (.arr []) rest)
  | .key _, .scalar (.str key), .obj fields _ :: rest => some (.colon, .obj fields key :: rest)
  | .key true, .closeObj, .obj [] _ :: rest => some (close (closeObj []) rest)
  | .colon, .colon, frames => some (.value false, frames)
  | .comma, .comma, .arr items :: rest => some (.value false, .arr items :: rest)
  | .comma, .comma, .obj fields key :: rest => some (.key false, .obj fields key :: rest)
  | .comma, .closeArr, .arr items :: rest => some (close (.arr items.reverse) rest)
  | .comma, .closeObj, .obj fields _ :: rest => some (close (closeObj fields) rest)
  | _, _, _ => none

/-- The document that a list of lexemes spells, from a state of the reader on. -/
def ofTokens (expect : Expect) (frames : List Frame) : List Token → Option Json
  | [] =>
    match expect with
    | .done value => some value
    | _ => none
  | token :: rest => do
    let (expect, frames) ← advance expect frames token
    ofTokens expect frames rest

/-- The document that a text spells. -/
def parse? (s : String) : Option Json := do
  ofTokens (.value false) [] (← Token.scan? s)

end ClusterGraph.Json
