import KitSurface.Json.Basic
import KitSurface.Json.Position
import KitSurface.Text.Basic
/-!
Numbers of JSON texts, from behind their minus sign. The digits of a number are gathered into a
word of 64 bits as long as they fit; digits that do not fit count only by their place. The word is
then rounded to a floating-point number, which is multiplied or divided by a power of ten.
-/

namespace KitSurface.Json

/-- Gathers digits behind the digits of a number as long as the number stays below a bound. -/
def gatherFrom (bound value column : Nat) : List Char → Nat × Position
  | [] => (value, ⟨column, []⟩)
  | x :: rest =>
    let grown := Text.digitsValue value [x]
    if x.isDigit && grown < bound then gatherFrom bound grown (column + 1) rest
    else (value, ⟨column, x :: rest⟩)

/-- Gathers the digits that come next. -/
def gather (bound value : Nat) (p : Position) : Nat × Position :=
  gatherFrom bound value p.column p.rest

/-- The greatest exponent of a power of ten that is a floating-point number. -/
def greatestPower : Nat := 308

def powerOfTen (exponent : Nat) : Float :=
  Float.ofScientific 1 false exponent

/-- A number divided by a power of ten, by one division after another if no floating-point number
is that power. -/
def divideByPower (f : Float) (exponent : Nat) : Float :=
  if exponent ≤ greatestPower then f / powerOfTen exponent
  else if f == 0 then f
  else divideByPower (f / powerOfTen greatestPower) (exponent - greatestPower)
termination_by exponent
decreasing_by simp only [greatestPower] at *; omega

/-- The number `digits · 10^exponent`, unless it is too great. -/
def magnitude? (digits : Nat) (exponent : Int) : Option Float :=
  let f := (UInt64.ofNat digits).toFloat
  match exponent with
  | .ofNat e =>
    if e ≤ greatestPower then
      let product := f * powerOfTen e
      if product.isInf then none else some product
    else if digits = 0 then some f
    else none
  | .negSucc e => some (divideByPower f (e + 1))

def signed (negative : Bool) (f : Float) : Json :=
  float (f.toBits ||| (if negative then signBit else 0))

/-- The number `±digits · 10^exponent` that ends at a place. -/
def readScaled (negative : Bool) (digits : Nat) (exponent : Int) (p : Position) :
    Reading (Json × Position) :=
  match magnitude? digits exponent with
  | some f => .ok (signed negative f, p)
  | none => .error ⟨.numberOutOfRange, p.column⟩

/-- The integer `±digits` if it fits 64 bits, with or without a sign. A negative zero is none. -/
def readInteger (negative : Bool) (digits : Nat) (p : Position) : Reading (Json × Position) :=
  if !negative then .ok (integer digits, p)
  else if digits = 0 || 2 * digits > UInt64.size then readScaled true digits 0 p
  else .ok (integer (-digits), p)

/-- The bound of an exponent that is written out. -/
def exponentBound : Nat := 0x80000000

/-- Reads the exponent of a number from behind its letter; `exponent` is the one that the number
has without it. -/
def readExponent (negative : Bool) (digits : Nat) (exponent : Int) (p : Position) :
    Reading (Json × Position) :=
  let minus := p.rest.head? = some '-'
  let p := if minus || p.rest.head? = some '+' then p.next else p
  if !p.atDigit then
    .error (p.error (if p.rest.isEmpty then .endInValue else .invalidNumber))
  else
    let (size, p) := gather exponentBound 0 p
    if !p.atDigit then readScaled negative digits (exponent + (if minus then -1 else 1) * size) p
    else if digits ≠ 0 && !minus then .error (p.error .numberOutOfRange)
    else .ok (signed negative 0, p.skipDigits)

/-- Reads the fraction of a number from behind its point. -/
def readFraction (negative : Bool) (digits : Nat) (exponent : Int) (p : Position) :
    Reading (Json × Position) :=
  let (all, gathered) := gather UInt64.size digits p
  let stop := gathered.skipDigits
  if stop.column = p.column then
    .error (p.error (if p.rest.isEmpty then .endInValue else .invalidNumber))
  else
    let exponent := exponent - (gathered.column - p.column)
    match stop.rest with
    | 'e' :: _ | 'E' :: _ => readExponent negative all exponent stop.next
    | _ => readScaled negative all exponent stop

/-- Reads what follows the whole part of a number; `surplus` of its digits were not gathered. -/
def readBehindWhole (negative : Bool) (digits surplus : Nat) (p : Position) :
    Reading (Json × Position) :=
  match p.rest with
  | '.' :: _ => readFraction negative digits surplus p.next
  | 'e' :: _ | 'E' :: _ => readExponent negative digits surplus p.next
  | _ =>
    if surplus = 0 then readInteger negative digits p else readScaled negative digits surplus p

/-- Reads a number from behind its minus sign. Its whole part has no leading zero. -/
def readNumber (negative : Bool) (p : Position) : Reading (Json × Position) :=
  match p.rest with
  | [] => .error ⟨.endInValue, p.column⟩
  | '0' :: _ =>
    if p.next.atDigit then .error (p.next.error .invalidNumber)
    else readBehindWhole negative 0 0 p.next
  | _ =>
    if !p.atDigit then .error (p.error .invalidNumber)
    else
      let (digits, gathered) := gather UInt64.size 0 p
      let stop := gathered.skipDigits
      readBehindWhole negative digits (stop.column - gathered.column) stop

/-- Passes over the exponent of a number from behind its letter. -/
def skipExponent (p : Position) : Reading Position :=
  let p := if p.rest.head? = some '-' || p.rest.head? = some '+' then p.next else p
  if p.atDigit then .ok p.skipDigits else .error (p.error .invalidNumber)

/-- Passes over what follows the whole part of a number. -/
def skipBehindWhole (p : Position) : Reading Position :=
  match p.rest with
  | '.' :: _ =>
    if !p.next.atDigit then .error (p.next.error .invalidNumber)
    else
      let stop := p.next.skipDigits
      match stop.rest with
      | 'e' :: _ | 'E' :: _ => skipExponent stop.next
      | _ => .ok stop
  | 'e' :: _ | 'E' :: _ => skipExponent p.next
  | _ => .ok p

/-- Passes over a number from behind its minus sign. Its size does not count. -/
def skipNumber (p : Position) : Reading Position :=
  if !p.atDigit then .error (p.error .invalidNumber)
  else if p.rest.head? = some '0' then
    if p.next.atDigit then .error (p.next.error .invalidNumber) else skipBehindWhole p.next
  else skipBehindWhole p.skipDigits

end KitSurface.Json
