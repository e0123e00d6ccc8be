import ClusterGraph.Decimal.Binary64
import ClusterGraph.Json.Basic
import ClusterGraph.Text.Escaped

/-!
Lexemes of JSON text.

The scanner reads one character at a time; its state is what of the current lexeme has been read.
Strings refuse control characters, unknown escapes and escapes of unpaired surrogates. Numbers follow
the strict grammar, and a number with a fraction or an exponent must be within the range of binary
numbers.
-/

namespace ClusterGraph.Json

/-- A lexeme: punctuation, or a document without structure. -/
inductive Token where
  | openArr
  | closeArr
  | openObj
  | closeObj
  | colon
  | comma
  | scalar (value : Json)
  deriving BEq, Repr, Inhabited

namespace Token

/-- The digits at the start of a text, and what follows them. -/
def spanDigits (s : List Char) : List Char × List Char :=
  (s.takeWhile Char.isDigit, s.dropWhile Char.isDigit)

/-- The number that decimal digits spell. -/
def digitsValue (digits : List Char) : Nat :=
  digits.foldl (fun n c => n * 10 + (c.toNat - 48)) 0

/-- The largest significand that is read digit by digit. -/
def significandLimit : Nat := Nat.pow 2 64 - 1

/-- Appends digits to a significand while it stays within its limit. Yields the significand, the
number of digits used and the number of digits left over. -/
def takeDigits (significand : Nat) : List Char → Nat × Nat × Nat
  | [] => (significand, 0, 0)
  | c :: rest =>
    let next := significand * 10 + (c.toNat - 48)
    if next ≤ significandLimit then
      let (s, used, left) := takeDigits next rest
      (s, used + 1, left)
    else (significand, 0, rest.length + 1)

/-- The significand times the power of ten: both are rounded to binary first, and then the result.
Below the smallest tabulated power the division is done in steps of 308 places. -/
def scaleSignificand (significand : Nat) (exponent : Int) : Option Binary64 := do
  let base ← Binary64.ofDecimal? significand 0
  if 0 ≤ exponent then
    if significand = 0 then some base
    else if 308 < exponent then none
    else base.mul? (← Binary64.ofDecimal? 1 exponent)
  else go base 4 exponent.natAbs
where
  /-- Divides by ten to the power `places`. -/
  go (value : Binary64) : (fuel places : Nat) → Option Binary64
    | 0, _ => some ⟨0, -1074⟩
    | fuel + 1, places =>
      if places ≤ 308 then do value.div? (← Binary64.ofDecimal? 1 places)
      else if value.mantissa = 0 then some value
      else do go (← value.div? (← Binary64.ofDecimal? 1 308)) fuel (places - 308)

/-- A number with a fraction or an exponent. The significand holds the leading digits below 2^64; the
digits it cannot hold raise the exponent before the point and are dropped after it. -/
def fractional? (negative : Bool) (whole fraction : List Char) (exponent : Option (Bool × List Char)) :
    Option Json := do
  let (significand, _, left) := takeDigits 0 whole
  let (significand, used, _) := takeDigits significand fraction
  let shift : Int := (left : Int) - used
  let value ← match exponent with
    | none => scaleSignificand significand shift
    | some (down, digits) =>
      let size := digitsValue digits
      if size ≤ Nat.pow 2 31 - 1 then
        scaleSignificand significand (if down then shift - size else shift + size)
      else if significand = 0 ∨ down then some ⟨0, -1074⟩
      else none
  some (float (value.toDecimal negative))

/-- A number without fraction and exponent. -/
def whole? (negative : Bool) (digits : List Char) : Option Json :=
  let value := digitsValue digits
  if negative then
    if value = 0 then some (float ⟨true, 0, 0⟩)
    else if value ≤ Nat.pow 2 63 then some (int (-(value : Int)))
    else fractional? true digits [] none
  else if value ≤ significandLimit then some (int value)
  else fractional? false digits [] none

/-- The number that the whole text spells. -/
def number? (s : List Char) : Option Json := do
  let (negative, s) := match s with
    | '-' :: rest => (true, rest)
    | s => (false, s)
  let (whole, rest) := spanDigits s
  guard (!whole.isEmpty && (whole.length = 1 || whole.head? != some '0'))
  let (fraction, rest) ← match rest with
    | '.' :: rest =>
      let (digits, rest) := spanDigits rest
      if digits.isEmpty then none else some (some digits, rest)
    | rest => some (none, rest)
  let exponent ← match rest with
    | [] => some none
    | c :: rest =>
      if c = 'e' ∨ c = 'E' then
        let (down, rest) := match rest with
          | '+' :: rest => (false, rest)
          | '-' :: rest => (true, rest)
          | rest => (false, rest)
        if rest.isEmpty || !rest.all Char.isDigit then none else some (some (down, rest))
      else none
  match fraction, exponent with
  | none, none => whole? negative whole
  | fraction, exponent => fractional? negative whole (fraction.getD []) exponent

/-- What has been read of the current lexeme. Characters are collected in reverse. -/
inductive Scan where
  /-- Between lexemes. -/
  | gap
  /-- Inside a number or a word. -/
  | word (read : List Char)
  /-- Inside a string. -/
  | string (read : List Char)
  /-- After a backslash. -/
  | escape (read : List Char)
  /-- Inside the four digits of an escape, `left` of them still missing; `high` is a first half of a
  surrogate pair that waits for its second half. -/
  | digits (read : List Char) (high : Option Nat) (value left : Nat)
  /-- After a first half of a surrogate pair, where a backslash must follow. -/
  | half (read : List Char) (high : Nat)
  /-- After that backslash, where a `u` must follow. -/
  | halfEscape (read : List Char) (high : Nat)

/-- The document of a word or a number. -/
def ofWord? (read : List Char) : Option Json :=
  match read.reverse with
  | ['n', 'u', 'l', 'l'] => some null
  | ['t', 'r', 'u', 'e'] => some (bool true)
  | ['f', 'a', 'l', 's', 'e'] => some (bool false)
  | s => number? s

/-- A character that stands alone. -/
def punctuation? : Char → Option Token
  | '[' => some openArr
  | ']' => some closeArr
  | '{' => some openObj
  | '}' => some closeObj
  | ':' => some colon
  | ',' => some comma
  | _ => none

/-- The state after a code unit was completed by its fourth digit. -/
def endDigits (read : List Char) (high : Option Nat) (unit : Nat) : Option Scan :=
  match high with
  | some high =>
    if 0xDC00 ≤ unit ∧ unit ≤ 0xDFFF then
      some (.string (Char.ofNat (0x10000 + (high - 0xD800) * 0x400 + (unit - 0xDC00)) :: read))
    else none
  | none =>
    if 0xD800 ≤ unit ∧ unit ≤ 0xDBFF then some (.half read unit)
    else if 0xDC00 ≤ unit ∧ unit ≤ 0xDFFF then none
    else some (.string (Char.ofNat unit :: read))

/-- One character outside strings, with the lexemes found so far in reverse. -/
def stepGap (c : Char) (found : List Token) : Option (Scan × List Token) :=
  if c = ' ' ∨ c = '\n' ∨ c = '\t' ∨ c = '\r' then some (.gap, found)
  else if c = '"' then some (.string [], found)
  else match punctuation? c with
    | some token => some (.gap, token :: found)
    | none => some (.word [c], found)

/-- One character further. -/
def step (state : Scan) (c : Char) (found : List Token) : Option (Scan × List Token) :=
  match state with
  | .gap => stepGap c found
  | .word read =>
    if c.isAlphanum ∨ c = '+' ∨ c = '-' ∨ c = '.' then some (.word (c :: read), found)
    else do stepGap c (scalar (← ofWord? read) :: found)
  | .string read =>
    if c = '"' then some (.gap, scalar (str (String.ofList read.reverse)) :: found)
    else if c = '\\' then some (.escape read, found)
    else if c.toNat < 0x20 then none
    else some (.string (c :: read), found)
  | .escape read =>
    match c with
    | '"' => some (.string ('"' :: read), found)
    | '\\' => some (.string ('\\' :: read), found)
    | '/' => some (.string ('/' :: read), found)
    | 'b' => some (.string ('\x08' :: read), found)
    | 'f' => some (.string ('\x0c' :: read), found)
    | 'n' => some (.string ('\n' :: read), found)
    | 'r' => some (.string ('\r' :: read), found)
    | 't' => some (.string ('\t' :: read), found)
    | 'u' => some (.digits read none 0 4, found)
    | _ => none
  | .digits read high value left => do
    let digit ← Text.hexDigit? c
    let value := value * 16 + digit
    if left ≤ 1 then some (← endDigits read high value, found)
    else some (.digits read high value (left - 1), found)
  | .half read high => if c = '\\' then some (.halfEscape read high, found) else none
  | .halfEscape read high => if c = 'u' then some (.digits read (some high) 0 4, found) else none

/-- The lexemes from a state on. -/
def scanFrom (state : Scan) (found : List Token) : List Char → Option (List Token)
  | [] =>
    match state with
    | .gap => some found.reverse
    | .word read => do some (scalar (← ofWord? read) :: found).reverse
    | _ => none
  | c :: rest => do
    let (state, found) ← step state c found
    scanFrom state found rest

/-- The lexemes of a text. -/
def scan? (s : String) : Option (List Token) :=
  scanFrom .gap [] s.toList

end Token

end ClusterGraph.Json
