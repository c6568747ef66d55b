import KitSurface.Text.Quoted
/-!
JSON values. Numbers keep apart what is an integer of 64 bits and what is not, and the members of
an object are sorted by their keys. A floating-point number is written with the fewest digits: it is
`m · 2^q`, and the reals that round to it form an interval around it. Of all decimal grids `10^g` that
have a point in the interval the coarsest one gives the fewest digits; of its points the one nearest to
the number is taken. The compact text of a value has no blanks, members in the order of the object, and
in a string a backslash before a quote, a backslash or a control character.
-/

namespace KitSurface

/-! ## The shortest decimal -/

namespace Decimal

/-- A decimal number `digits · 10^exponent`. -/
structure Scientific where
  digits : Nat
  exponent : Int
  deriving DecidableEq, Repr

/-- The bit of a significand that is not stored, `2^52`. -/
def leadingBit : Nat := 4503599627370496

/-- The bits of a finite number as its significand and its binary exponent. -/
def significand (bits : UInt64) : Nat × Int :=
  let field : Nat := bits.toNat / leadingBit % 2048
  let fraction : Nat := bits.toNat % leadingBit
  if field = 0 then (fraction, -1074) else (fraction + leadingBit, (field : Int) - 1075)

/-- A number `scaled · 2^exponent` in units of `10^grid`, as a fraction. -/
def inUnits (scaled : Nat) (exponent grid : Int) : Nat × Nat :=
  (scaled * Nat.pow 2 exponent.toNat * Nat.pow 10 (-grid).toNat,
   Nat.pow 2 (-exponent).toNat * Nat.pow 10 grid.toNat)

/-- The point of a grid that is nearest to `m · 2^q`, if it rounds to that number. The ends of the
interval round to the number iff its significand is even, and below a power of two the next number
is half as far away. -/
def pointOn? (m : Nat) (q : Int) (grid : Int) : Option Nat :=
  let (value, unit) := inUnits (4 * m) (q - 2) grid
  let (high, _) := inUnits (4 * m + 2) (q - 2) grid
  let (low, _) := inUnits (if m = leadingBit ∧ q > -1074 then 4 * m - 1 else 4 * m - 2) (q - 2) grid
  let below := value / unit
  let nearest := if 2 * (value - below * unit) ≤ unit then below else below + 1
  let inside (point : Nat) : Bool :=
    if m % 2 = 0 then low ≤ point * unit && point * unit ≤ high
    else low < point * unit && point * unit < high
  if inside nearest then some nearest
  else if inside (2 * below + 1 - nearest) then some (2 * below + 1 - nearest)
  else none

/-- The first grid from `10^grid` down to `10^(grid - steps)` that has a point in the interval. -/
def coarsest (m : Nat) (q : Int) : Nat → Int → Scientific
  | 0, grid => ⟨0, grid⟩
  | steps + 1, grid =>
    match pointOn? m q grid with
    | some 0 | none => coarsest m q steps (grid - 1)
    | some digits => ⟨digits, grid⟩

/-- The shortest decimal of a finite number other than zero, without its sign. -/
def shortest (bits : UInt64) : Scientific :=
  let (m, q) := significand bits
  coarsest m q 700 309

end Decimal

/-! ## Values -/

/-- A JSON value. A number without a fraction and an exponent that fits 64 bits, signed or not, is
an integer; every other number is kept as the bits of a floating-point number. -/
inductive Json where
  | null
  | bool (b : Bool)
  | integer (n : Int)
  | float (bits : UInt64)
  | string (s : String)
  | array (items : List Json)
  | object (members : List (String × Json))
  deriving Repr, Inhabited

namespace Json

/-- Puts a member into a list that is sorted by keys, in place of one with the same key. -/
def insertMember (key : String) (value : Json) : List (String × Json) → List (String × Json)
  | [] => [(key, value)]
  | (k, v) :: rest =>
    if key < k then (key, value) :: (k, v) :: rest
    else if key = k then (key, value) :: rest
    else (k, v) :: insertMember key value rest

/-- The object with these members; of members with one key the last one counts. -/
def ofMembers (members : List (String × Json)) : Json :=
  object (members.foldl (fun sorted m => insertMember m.1 m.2 sorted) [])

/-- The member of an object with a key; anything but an object has none. -/
def get? (value : Json) (key : String) : Option Json :=
  match value with
  | object members => members.lookup key
  | _ => none

def ofText? : Option String → Json
  | some s => string s
  | none => null

def ofStrings (texts : List String) : Json :=
  array (texts.map string)

/-- The sign bit of a floating-point number. -/
def signBit : UInt64 := 0x8000000000000000

/-- A number as text: positional with a point where its first digit stands from five places after
the point to sixteen before it, and otherwise with an exponent that has its sign. -/
def floatText (bits : UInt64) : String :=
  let sign := if bits &&& signBit = 0 then "" else "-"
  if bits &&& ~~~signBit = 0 then sign ++ "0.0"
  else
    let ⟨value, exponent⟩ := Decimal.shortest (bits &&& ~~~signBit)
    let digits := Nat.toDigits 10 value
    let point : Int := digits.length + exponent
    let zeros (n : Int) : List Char := List.replicate n.toNat '0'
    let body :=
      if -5 < point ∧ point ≤ 0 then '0' :: '.' :: zeros (-point) ++ digits
      else if 0 < point ∧ point ≤ 16 then
        digits.take point.toNat ++ zeros (point - digits.length) ++
          '.' :: (if point < digits.length then digits.drop point.toNat else ['0'])
      else
        let e := point - 1
        digits.take 1 ++ (if digits.length = 1 then [] else '.' :: digits.drop 1) ++
          'e' :: (if e < 0 then '-' else '+') :: Nat.toDigits 10 e.natAbs
    sign ++ String.ofList body

/-- What a value is, as error messages say it. -/
def description : Json → String
  | null => "null"
  | bool b => "boolean `" ++ (if b then "true" else "false") ++ "`"
  | integer n => "integer `" ++ toString n ++ "`"
  | float bits => "floating point `" ++ floatText bits ++ "`"
  | string s => "string " ++ Text.quote s
  | array _ => "sequence"
  | object _ => "map"

end Json

/-! ## Compact text -/

namespace Json

def hexDigit (n : Nat) : Char :=
  Nat.digitChar (n % 16)

def stringChar (c : Char) : List Char :=
  if c = '"' || c = '\\' then ['\\', c]
  else if c = '\n' then ['\\', 'n']
  else if c = '\r' then ['\\', 'r']
  else if c = '\t' then ['\\', 't']
  else if c.toNat = 8 then ['\\', 'b']
  else if c.toNat = 12 then ['\\', 'f']
  else if c.toNat < 0x20 then
    ['\\', 'u', '0', '0', hexDigit (c.toNat / 16), hexDigit c.toNat]
  else [c]

def stringText (s : String) : String :=
  String.ofList ('"' :: s.toList.flatMap stringChar ++ ['"'])

mutual

def text : Json → String
  | null => "null"
  | bool b => if b then "true" else "false"
  | integer n => toString n
  | float bits => floatText bits
  | string s => stringText s
  | array items => "[" ++ ",".intercalate (itemTexts items) ++ "]"
  | object members => "\x7b" ++ ",".intercalate (memberTexts members) ++ "\x7d"

def itemTexts : List Json → List String
  | [] => []
  | item :: items => item.text :: itemTexts items

def memberTexts : List (String × Json) → List String
  | [] => []
  | (key, value) :: members => (stringText key ++ ":" ++ value.text) :: memberTexts members

end

end Json

end KitSurface
