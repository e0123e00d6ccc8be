import ClusterGraph.Cluster.Address
import ClusterGraph.Text.Escaped
import ClusterGraph.Text.Natural

/-!
Hosts.

The host of a web address is written in lower case, and a host that ends in a number is a version 4
internet address, which is written as four decimal numbers however it was given. A host is internal
when its text looks like a private address or like a name that is used only inside a cluster or on the
machine itself.
-/

namespace ClusterGraph.Host

/-! ## Internal hosts -/

/-- Whether a host starts like an address from 172.16.0.0 to 172.31.255.255. -/
def isPrivate172 (host : String) : Bool :=
  match Text.piecesAt '.' host with
  | first :: second :: _ =>
    first == "172" && (Text.natural 256 second).toOption.any fun n => 16 ≤ n && n ≤ 31
  | _ => false

/-- Whether a host is internal. -/
def isInternal (host : String) : Bool :=
  ["10.", "192.168.", "127."].any (Text.startsWith · host) || isPrivate172 host ||
    ["localhost", "::1"].contains host ||
    [".local", ".internal", ".cluster.local"].any (Text.endsWith · host)

/-! ## Numeric hosts -/

/-- The number that a part of a numeric host spells, in decimal, after `0` in octal, and after `0x` in
hexadecimal. -/
def number? (s : List Char) : Option Nat :=
  let digits := fun (base : Nat) (s : List Char) =>
    s.foldlM (fun n c => do
      let digit ← (Text.hexDigit? c).filter (· < base)
      some (n * base + digit)) 0
  match s with
  | [] => none
  | '0' :: 'x' :: rest => digits 16 rest
  | '0' :: 'X' :: rest => digits 16 rest
  | '0' :: c :: rest => digits 8 (c :: rest)
  | s => digits 10 s

/-- The parts of a host between its points; a point at its end does not count. -/
def parts (host : List Char) : List (List Char) :=
  let parts := Text.pieces (· == '.') host
  match parts.reverse with
  | [] :: rest => rest.reverse
  | _ => parts

/-- Whether the last part of a host is a number. -/
def endsInNumber (host : List Char) : Bool :=
  match (parts host).getLast? with
  | none => false
  | some part => !part.isEmpty && (part.all Char.isDigit || (number? part).isSome)

/-- The number of the address that the parts of a numeric host give: all parts but the last one are
bytes, and the last one fills what is left. -/
def combined? (bytes : List Nat) (last : Nat) : Option Nat :=
  if bytes.length ≤ 3 && bytes.all (· < 256) && last < Nat.pow 256 (4 - bytes.length) then
    some (bytes.foldl (fun n byte => n * 256 + byte) 0 * Nat.pow 256 (4 - bytes.length) + last)
  else none

/-- The number of the address that a numeric host gives. -/
def address? (host : List Char) : Option Nat := do
  let numbers ← (parts host).mapM number?
  combined? numbers.dropLast (← numbers.getLast?)

/-- An address as four decimal numbers. -/
def dotted (address : Nat) : String :=
  ".".intercalate ([3, 2, 1, 0].map fun place => toString (address / Nat.pow 256 place % 256))

/-! ## Hosts of addresses -/

/-- The schemes whose hosts are written in a normal form. -/
def hasNormalHosts (scheme : String) : Bool :=
  ["http", "https", "ws", "wss", "ftp"].contains scheme.toLower

/-- What follows the user in an authority. -/
def afterUser (authority : List Char) : List Char :=
  (authority.reverse.takeWhile (· != '@')).reverse

/-- Whether a text is a port, perhaps an empty one. -/
def isPort (s : List Char) : Bool :=
  s.all Char.isDigit && s.foldl (fun n c => n * 10 + (c.toNat - 48)) 0 < 65536

/-- The normal form of a host. -/
def normal? (host : List Char) : Option String :=
  let host := host.map Char.toLower
  if host.isEmpty then none
  else if endsInNumber host then (address? host).map dotted
  else some (String.ofList host)

/-- The host of an address. Hosts in brackets are never internal and count as none, as do those of
texts that are no web addresses. -/
def ofAddress? (address : Address) : Option String := do
  let scheme ← address.scheme
  guard (scheme.toList.head?.any Char.isAlpha)
  let rest := afterUser address.authority.toList
  let host := rest.takeWhile (· != ':')
  guard (!rest.any fun c => c == '[' || c == ']')
  guard (isPort ((rest.dropWhile (· != ':')).drop 1))
  if hasNormalHosts scheme then normal? host else some (String.ofList host)

end ClusterGraph.Host
