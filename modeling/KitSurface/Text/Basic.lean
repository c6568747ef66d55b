/-!
Characters, lines and numbers of texts. Blanks are the characters with the `White_Space` property;
cutting them at the front leaves none there (`head?_dropBlanks`). A line ends at a line feed, and a
carriage return right before that line feed belongs to the end of the line; behind the last line feed
there is a line only if there is text. An unsigned number is an optional plus sign and one or more
ASCII digits.
-/

namespace KitSurface.Text

/-! ## Blanks -/

/-- A code point lies in one of the closed ranges. -/
def inRanges (ranges : List (Nat × Nat)) (code : Nat) : Bool :=
  ranges.any fun range => range.1 ≤ code && code ≤ range.2

/-- The code points with the `White_Space` property. -/
def blankRanges : List (Nat × Nat) :=
  [(0x9, 0xD), (0x20, 0x20), (0x85, 0x85), (0xA0, 0xA0), (0x1680, 0x1680), (0x2000, 0x200A),
   (0x2028, 0x2029), (0x202F, 0x202F), (0x205F, 0x205F), (0x3000, 0x3000)]

/-- A character is blank iff it has the `White_Space` property. -/
def isBlank (c : Char) : Bool :=
  inRanges blankRanges c.toNat

def dropBlanks (text : List Char) : List Char :=
  text.dropWhile isBlank

/-- A text without the blanks at its two ends. -/
def trim (text : String) : String :=
  String.ofList (dropBlanks (dropBlanks text.toList).reverse).reverse

theorem head?_dropBlanks {text : List Char} {c : Char} (h : (dropBlanks text).head? = some c) :
    isBlank c = false := by
  have := List.head?_dropWhile_not isBlank text
  simp only [dropBlanks] at h
  simpa [h] using this

/-! ## Lines -/

/-- A line without the carriage return at its end. -/
def dropReturn (line : List Char) : List Char :=
  if line.getLast? = some '\r' then line.dropLast else line

/-- The lines among pieces of a text that lay between its line feeds. -/
def linesOfPieces : List (List Char) → List (List Char)
  | [] => []
  | [rest] => if rest.isEmpty then [] else [rest]
  | piece :: pieces => dropReturn piece :: linesOfPieces pieces

def lines (text : String) : List String :=
  (linesOfPieces (text.toList.splitOn '\n')).map String.ofList

/-! ## Numbers -/

/-- The value of a run of decimal digits, most significant first, after the value `acc`. -/
def digitsValue (acc : Nat) (digits : List Char) : Nat :=
  digits.foldl (fun value digit => value * 10 + (digit.toNat - '0'.toNat)) acc

/-- A number below `bound`: one or more ASCII digits after at most one plus sign. Leading zeros
do not count. -/
def parseBelow? (bound : Nat) (text : List Char) : Option Nat :=
  let digits := match text with
    | '+' :: rest => rest
    | _ => text
  if !digits.isEmpty && digits.all Char.isDigit && digitsValue 0 digits < bound then
    some (digitsValue 0 digits)
  else none

def parseWord? (text : List Char) : Option UInt32 :=
  (parseBelow? UInt32.size text).map UInt32.ofNat

/-- The decimal digits of a number, at least two of them. -/
def twoDigits (n : Nat) : String :=
  if n < 10 then "0" ++ Nat.repr n else Nat.repr n

end KitSurface.Text
