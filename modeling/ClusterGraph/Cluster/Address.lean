import ClusterGraph.Text.Pieces

/-!
Addresses of servers and proxies, and the targets of requests to them.

An address is a scheme, an authority and a target, or an authority alone, or a target alone. The
authority is a host, perhaps with a user before it and a port behind it; what is in it is looked at
only as far as is needed to find its end. A target is a path and perhaps a query behind a question mark.
-/

namespace ClusterGraph

/-! ## Targets

Some characters are not allowed in a target; what follows a number sign is not sent.
-/

namespace Target

/-- The characters that may stand in a path. -/
def isPathChar (c : Char) : Bool :=
  0x21 ≤ c.toNat && !(['<', '>', '`'].contains c)

/-- The characters that may stand in a query. -/
def isQueryChar (c : Char) : Bool :=
  0x21 ≤ c.toNat && !(['<', '>', '"'].contains c)

/-- What is sent of a target, unless it contains characters that are not allowed. -/
def sent? (target : String) : Option String :=
  let chars := target.toList.takeWhile (· != '#')
  let path := chars.takeWhile (· != '?')
  let query := chars.dropWhile (· != '?')
  if path.all isPathChar && query.all isQueryChar then some (String.ofList chars) else none

/-- The target under which a server lists its resources of an API version. -/
def discovery (apiVersion : String) : String :=
  let group := apiVersion.toList.takeWhile (· != '/')
  if !apiVersion.toList.contains '/' then "/api/" ++ apiVersion
  else if group.isEmpty then "/api/" ++ String.ofList (apiVersion.toList.drop 1)
  else "/apis/" ++ apiVersion

end Target

/-- Why a text is no address. -/
inductive AddressFault where
  | empty
  | character
  | authority
  | format
  | longScheme
  deriving DecidableEq, Repr, Inhabited

namespace AddressFault

/-- The wording of a fault. -/
def message : AddressFault → String
  | empty => "empty string"
  | character => "invalid uri character"
  | authority => "invalid authority"
  | format => "invalid format"
  | longScheme => "scheme too long"

end AddressFault

/-- The parts of an address; those that are missing are empty. -/
structure Address where
  scheme : Option String := none
  authority : String := ""
  target : String := ""
  deriving DecidableEq, Repr, Inhabited

namespace Address

/-- The address as a text. With a scheme, the path is at least a slash. -/
def text (address : Address) : String :=
  match address.scheme with
  | none => address.authority ++ address.target
  | some scheme =>
    let slash := if Text.startsWith "/" address.target then "" else "/"
    scheme ++ "://" ++ address.authority ++ slash ++ address.target

/-! ## Schemes -/

/-- The characters of a scheme. -/
def isSchemeChar (c : Char) : Bool :=
  c.isAlphanum || c == '+' || c == '-' || c == '.'

/-- The scheme at the start of a text and what follows its colon and slashes. -/
def scheme? (s : List Char) : Option (List Char × List Char) :=
  match s.dropWhile isSchemeChar with
  | ':' :: '/' :: '/' :: rest => some (s.takeWhile isSchemeChar, rest)
  | _ => none

/-- The usual schemes are written in lower case. -/
def schemeText (scheme : String) : String :=
  if ["http", "https"].contains scheme.toLower then scheme.toLower else scheme

/-! ## Authorities -/

/-- The characters that may stand in an authority, apart from the percent sign. -/
def isAuthorityChar (c : Char) : Bool :=
  c.isAlphanum || "!$&'()*+,-.:;=@[]_~".toList.contains c

/-- What was seen in an authority so far. Colons and percent signs count only when they are not part of
what is before a user's `@` or within brackets. -/
structure AuthorityState where
  colons : Nat := 0
  opened : Bool := false
  closed : Bool := false
  percent : Bool := false
  last : Option Char := none

/-- The state after one more character. -/
def AuthorityState.next (state : AuthorityState) (c : Char) : Except AddressFault AuthorityState :=
  let state := { state with last := some c }
  match c with
  | ':' => .ok { state with colons := state.colons + 1 }
  | '[' =>
    if state.percent || state.opened then .error .authority else .ok { state with opened := true }
  | ']' =>
    if !state.opened || state.closed then .error .authority
    else .ok { state with closed := true, colons := 0, percent := false }
  | '@' => .ok { state with colons := 0, percent := false }
  | '%' => .ok { state with percent := true }
  | c => if isAuthorityChar c then .ok state else .error .character

/-- Whether an authority may end in a state: brackets are closed, there is at most one port, something
follows the user, and no percent sign is left. -/
def AuthorityState.isFinal (state : AuthorityState) : Bool :=
  state.opened == state.closed && state.colons ≤ 1 && state.last != some '@' && !state.percent

/-- Whether a character ends an authority. -/
def endsAuthority (c : Char) : Bool :=
  c == '/' || c == '?' || c == '#'

/-- The authority at the start of a text, and what follows it. -/
def splitAuthority (s : List Char) : Except AddressFault (String × List Char) := do
  let chars := s.takeWhile (!endsAuthority ·)
  let state ← chars.foldlM AuthorityState.next {}
  if state.isFinal then .ok (String.ofList chars, s.dropWhile (!endsAuthority ·))
  else .error .authority

/-! ## Addresses -/

/-- The target that a text gives. -/
def targetOf (s : List Char) : Except AddressFault String :=
  match Target.sent? (String.ofList s) with
  | some target => .ok target
  | none => .error .character

/-- The address that a text gives. -/
def ofText (s : String) : Except AddressFault Address :=
  match s.toList with
  | [] => .error .empty
  | ['*'] => .ok { target := "*" }
  | '/' :: rest => do return { target := ← targetOf ('/' :: rest) }
  | chars =>
    match scheme? chars with
    | none => do
      let (authority, rest) ← splitAuthority chars
      if rest.isEmpty then .ok { authority } else .error .format
    | some (scheme, rest) => do
      if 64 < scheme.length then throw .longScheme
      let (authority, rest) ← splitAuthority rest
      if authority.isEmpty then throw .format
      return { scheme := some (schemeText (String.ofList scheme)), authority,
               target := ← targetOf rest }

end Address

end ClusterGraph
