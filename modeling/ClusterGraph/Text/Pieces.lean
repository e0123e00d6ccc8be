/-!
Parts of texts.

A text is cut at separators, its start and its end are looked at, and what is blank at its end is dropped.
-/

namespace ClusterGraph.Text

/-! ## Pieces

A text that separators divide has one piece more than separators; pieces may be empty.
-/

/-- The pieces between the separators. -/
def pieces (isSeparator : Char → Bool) : List Char → List (List Char)
  | [] => [[]]
  | c :: rest =>
    if isSeparator c then [] :: pieces isSeparator rest
    else
      match pieces isSeparator rest with
      | [] => [[c]]
      | piece :: others => (c :: piece) :: others

/-- The pieces of a text between the copies of one character. -/
def piecesAt (separator : Char) (s : String) : List String :=
  (pieces (· == separator) s.toList).map String.ofList

theorem pieces_ne_nil (isSeparator : Char → Bool) (s : List Char) :
    pieces isSeparator s ≠ [] := by
  cases s with
  | nil => simp [pieces]
  | cons c rest =>
    rw [pieces]
    split
    · simp
    · split <;> simp

/-! ## Starts and ends -/

/-- Whether one text starts with another. -/
def startsWith (start s : String) : Bool :=
  start.toList.isPrefixOf s.toList

/-- Whether one text ends with another. -/
def endsWith (ending s : String) : Bool :=
  ending.toList.isSuffixOf s.toList

/-! ## Blank characters

Names and settings that hold only blank characters count as missing. A character is blank when it has the
Unicode property `White_Space`, so that trimming does not stop at the blanks of ASCII.
-/

/-- The characters with the Unicode property `White_Space`. -/
def isBlank (c : Char) : Bool :=
  let n := c.toNat
  (0x09 ≤ n && n ≤ 0x0D) || n = 0x20 || n = 0x85 || n = 0xA0 || n = 0x1680 ||
    (0x2000 ≤ n && n ≤ 0x200A) || n = 0x2028 || n = 0x2029 || n = 0x202F || n = 0x205F ||
    n = 0x3000

/-- Drops the blank characters at the end. -/
def trimEnd (s : String) : String :=
  String.ofList (s.toList.reverse.dropWhile isBlank).reverse

/-- Whether nothing but blank characters is in the text. -/
def isBlankText (s : String) : Bool :=
  s.toList.all isBlank

/-- Drops every trailing copy of one character. -/
def trimEndChar (c : Char) (s : String) : String :=
  String.ofList (s.toList.reverse.dropWhile (· == c)).reverse

end ClusterGraph.Text
