import KitSurface.Json.Position
/-!
Strings of JSON texts, from behind their opening quote. Two escapes that write a surrogate pair are
one character, and a surrogate that stands alone is a fault. A string that is only passed over is
held to the form of its escapes, but not to what they write.
-/

namespace KitSurface.Json

def hexValue? (c : Char) : Option Nat :=
  if c.isDigit then some (c.toNat - '0'.toNat)
  else if 'a' ≤ c ∧ c ≤ 'f' then some (c.toNat - 'a'.toNat + 10)
  else if 'A' ≤ c ∧ c ≤ 'F' then some (c.toNat - 'A'.toNat + 10)
  else none

/-- The value of four hexadecimal digits. -/
def hexWord? (a b c d : Char) : Option Nat := do
  return (((← hexValue? a) * 16 + (← hexValue? b)) * 16 + (← hexValue? c)) * 16 + (← hexValue? d)

/-- Reads four hexadecimal digits. What stands in their place is looked at as four bytes: if the
text has fewer left it ends in the string, and otherwise the fault lies behind them. -/
def hexWord (p : Position) : Reading (Nat × Position) :=
  match p.rest with
  | x₁ :: x₂ :: x₃ :: x₄ :: rest =>
    match hexWord? x₁ x₂ x₃ x₄ with
    | some word => .ok (word, ⟨p.column + 4, rest⟩)
    | none => .error ⟨.invalidEscape, p.column + 4⟩
  | rest =>
    let size := (String.ofList rest).utf8ByteSize
    if size < 4 then .error ⟨.endInString, p.column + size⟩
    else .error ⟨.invalidEscape, p.column + 4⟩

/-- A word is the first half of a surrogate pair. -/
def isLeading (word : Nat) : Bool :=
  0xD800 ≤ word && word < 0xDC00

/-- A word is the second half of a surrogate pair. -/
def isTrailing (word : Nat) : Bool :=
  0xDC00 ≤ word && word < 0xE000

/-- The character that a surrogate pair stands for. -/
def pairedChar (leading trailing : Nat) : Char :=
  Char.ofNat (0x10000 + (leading - 0xD800) * 0x400 + (trailing - 0xDC00))

/-- Reads the second half of a surrogate pair from the backslash on. -/
def readTrailing (leading : Nat) (p : Position) : Reading (Char × Position) :=
  match p.rest with
  | [] | ['\\'] => .error ⟨.endInString, p.next.column⟩
  | '\\' :: 'u' :: _ => do
    let (word, p) ← hexWord p.next.next
    if isTrailing word then return (pairedChar leading word, p)
    else throw ⟨.loneSurrogate, p.column⟩
  | '\\' :: _ => .error (p.next.error .unfinishedEscape)
  | _ => .error (p.error .unfinishedEscape)

/-- The character that a letter after a backslash stands for. -/
def escapedChar? (c : Char) : Option Char :=
  if c = '"' || c = '\\' || c = '/' then some c
  else if c = 'b' then some (Char.ofNat 8)
  else if c = 'f' then some (Char.ofNat 12)
  else if c = 'n' then some '\n'
  else if c = 'r' then some '\r'
  else if c = 't' then some '\t'
  else none

/-- Reads the character that is written behind a backslash. -/
def readEscape (p : Position) : Reading (Char × Position) :=
  match p.rest with
  | [] => .error ⟨.endInString, p.column⟩
  | 'u' :: _ => do
    let (word, p) ← hexWord p.next
    if isTrailing word then throw ⟨.loneSurrogate, p.column⟩
    else if isLeading word then readTrailing word p
    else return (Char.ofNat word, p)
  | x :: _ =>
    match escapedChar? x with
    | some written => .ok (written, p.next)
    | none => .error (p.error .invalidEscape)

/-- Reads the rest of a string; `done` are its characters so far, the last one first. Every step
takes a character of the text or more, so that its characters bound the steps. -/
def readStringFrom (done : List Char) : List Char → Position → Reading (String × Position)
  | [], p => .error ⟨.endInString, p.column⟩
  | _ :: bound, p =>
    match p.rest with
    | [] => .error ⟨.endInString, p.column⟩
    | '"' :: _ => .ok (String.ofList done.reverse, p.next)
    | '\\' :: _ =>
      match readEscape p.next with
      | .ok (x, p) => readStringFrom (x :: done) bound p
      | .error e => .error e
    | x :: _ =>
      if x.toNat < 0x20 then .error (p.error .controlCharacter)
      else readStringFrom (x :: done) bound p.next

def readString (p : Position) : Reading (String × Position) :=
  readStringFrom [] p.rest p

/-- Passes over what is written behind a backslash. -/
def skipEscape (p : Position) : Reading Position :=
  match p.rest with
  | [] => .error ⟨.endInString, p.column⟩
  | 'u' :: _ => (hexWord p.next).map (·.2)
  | x :: _ => if (escapedChar? x).isSome then .ok p.next else .error (p.error .invalidEscape)

/-- Passes over the rest of a string, in as many steps as the text has characters at most. -/
def skipStringFrom : List Char → Position → Reading Position
  | [], p => .error ⟨.endInString, p.column⟩
  | _ :: bound, p =>
    match p.rest with
    | [] => .error ⟨.endInString, p.column⟩
    | '"' :: _ => .ok p.next
    | '\\' :: _ =>
      match skipEscape p.next with
      | .ok p => skipStringFrom bound p
      | .error e => .error e
    | x :: _ =>
      if x.toNat < 0x20 then .error ⟨.controlCharacter, p.column⟩
      else skipStringFrom bound p.next

/-- Passes over a string from behind its opening quote. -/
def skipString (p : Position) : Reading Position :=
  skipStringFrom p.rest p

end KitSurface.Json
