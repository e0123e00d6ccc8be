import ClusterGraph.Text.Pieces

/-!
Time stamps such as `2024-01-02T03:04:05Z`.

A time stamp has a date, a separator, a time, perhaps with a fraction of a second, and the offset of
its place from universal time. The numbers in it may be shorter than usual, and blanks may stand before
numbers and punctuation. A time stamp is read from the left and the first fault is reported; that the
day exists in its month is looked at last.
-/

namespace ClusterGraph.Text

/-- Why a text is no time stamp. -/
inductive TimestampFault where
  | tooShort
  | tooLong
  | invalid
  | outOfRange
  deriving DecidableEq, Repr, Inhabited

namespace TimestampFault

/-- The wording of a fault. -/
def message : TimestampFault → String
  | tooShort => "premature end of input"
  | tooLong => "trailing input"
  | invalid => "input contains invalid characters"
  | outOfRange => "input is out of range"

end TimestampFault

/-- A day that a time stamp names. -/
structure Day where
  year : Int
  month : Nat
  day : Nat
  deriving DecidableEq, Repr, Inhabited

namespace Day

/-- Whether a year has a leap day. -/
def isLeapYear (year : Int) : Bool :=
  year % 4 == 0 && (year % 100 != 0 || year % 400 == 0)

/-- The number of days of a month. -/
def daysIn (year : Int) (month : Nat) : Nat :=
  if month = 2 then if isLeapYear year then 29 else 28
  else if month ∈ [4, 6, 9, 11] then 30
  else 31

/-- Whether there is such a day in the years that are counted. -/
def isValid (day : Day) : Bool :=
  -262143 ≤ day.year && day.year ≤ 262142 && 1 ≤ day.month && day.month ≤ 12 && 1 ≤ day.day &&
    day.day ≤ daysIn day.year day.month

end Day

namespace Timestamp

/-- What reads a part of a time stamp: it takes characters off the rest of the text. -/
abbrev Part := StateT (List Char) (Except TimestampFault)

/-- Leaves out blanks. -/
def blanks : Part Unit :=
  modify (·.dropWhile isBlank)

/-- A number of up to `width` digits. -/
def digits (width : Nat) : Part Nat := do
  match ← get with
  | [] => throw .tooShort
  | c :: rest =>
    if !c.isDigit then throw .invalid
    let digits := ((c :: rest).take width).takeWhile Char.isDigit
    set ((c :: rest).drop digits.length)
    return digits.foldl (fun n c => n * 10 + (c.toNat - 48)) 0

/-- A number of up to two digits within bounds; blanks may stand before it. -/
def number (least most : Nat) : Part Nat := do
  blanks
  let n ← digits 2
  if least ≤ n && n ≤ most then return n else throw .outOfRange

/-- A number of up to four digits; one with a sign may have more. -/
def signedNumber : Part Int := do
  let s ← get
  match s with
  | '-' :: rest => do
    set rest
    return -(← digits s.length)
  | '+' :: rest => do
    set rest
    return ← digits s.length
  | _ => return ← digits 4

/-- A year, which fits into 32 bits; blanks may stand before it. -/
def year : Part Int := do
  blanks
  let n ← signedNumber
  if -(Nat.pow 2 31 : Int) ≤ n && n < Nat.pow 2 31 then return n else throw .outOfRange

/-- One of some characters. -/
def oneOf (allowed : List Char) : Part Unit := do
  match ← get with
  | [] => throw .tooShort
  | c :: rest => if allowed.contains c then set rest else throw .invalid

/-- A character between two numbers; blanks may stand before it. -/
def between (c : Char) : Part Unit := do
  blanks
  oneOf [c]

/-- The day of a time stamp. -/
def day : Part Day := do
  let year ← year
  between '-'
  let month ← number 1 12
  between '-'
  return { year, month, day := ← number 1 31 }

/-- The time of a time stamp, which may be that of a leap second. -/
def time : Part Unit := do
  discard (number 0 23)
  between ':'
  discard (number 0 59)
  between ':'
  discard (number 0 60)
  match ← get with
  | '.' :: rest => do
    set rest
    discard (digits rest.length)
  | _ => pure ()
  blanks

/-- Exactly two digits, the first of them at most a given one. -/
def twoDigits (most : Char) : Part Unit := do
  match ← get with
  | c :: d :: rest =>
    if !c.isDigit || !d.isDigit then throw .invalid
    if most < c then throw .outOfRange
    set rest
  | _ => throw .tooShort

/-- The hours and minutes of an offset, whose hours are fewer than those of a day. -/
def hoursAndMinutes : Part Bool := do
  let hours := (← get).take 2
  twoDigits '9'
  modify (·.dropWhile fun c => c == ':' || isBlank c)
  twoDigits '5'
  return hours < ['2', '4']

/-- The offset from universal time, or a word for its absence. Says whether it is less than a day. -/
def offset : Part Bool := do
  let s ← get
  if (s.take 3).map Char.toUpper == ['U', 'T', 'C'] then
    set (s.drop 3)
    return true
  match s with
  | [] => throw .tooShort
  | c :: rest =>
    if ['Z', 'z'].contains c then do
      set rest
      return true
    else if ['+', '-', '\u2212'].contains c then do
      set rest
      hoursAndMinutes
    else throw .invalid

/-- A whole time stamp. -/
def whole : Part Unit := do
  let day ← day
  oneOf ['T', 't', ' ']
  time
  let inDay ← offset
  blanks
  if !(← get).isEmpty then throw .tooLong
  if !day.isValid || !inDay then throw .outOfRange

end Timestamp

/-- Checks that a text is a time stamp. -/
def checkTimestamp (text : String) : Except TimestampFault Unit :=
  (Timestamp.whole.run text.toList).map (·.1)

end ClusterGraph.Text
