/-!
UTF-8 texts as bytes. Decoding reads one byte at a time: between two characters it stands ready,
and inside one it knows how many bytes are owed and which range the next of them must lie in.
Bytes that cannot belong to a character are grouped into the longest pieces that still begin one,
and each such piece is decoded to `none`.
-/

namespace KitSurface.Text

/-- A character whose first bytes were read: its code point so far, the number of bytes still
owed, and the least and the greatest value of the next one. -/
structure Unfinished where
  code : Nat
  owed : Nat
  least : Nat
  greatest : Nat

/-- What the first byte of a character says. -/
inductive Opening where
  /-- The byte is a character by itself, or `none` where no character begins with it. -/
  | whole (c : Option Char)
  /-- More bytes follow. -/
  | more (rest : Unfinished)

/-- Reads the first byte of a character. Two leading bytes narrow the range of the second byte
so that every character has one form, one excludes surrogates and one ends the code space. -/
def Opening.ofByte (byte : UInt8) : Opening :=
  let b := byte.toNat
  if b < 0x80 then .whole (some (Char.ofNat b))
  else if b < 0xC2 then .whole none
  else if b < 0xE0 then .more ⟨b - 0xC0, 1, 0x80, 0xBF⟩
  else if b = 0xE0 then .more ⟨0, 2, 0xA0, 0xBF⟩
  else if b = 0xED then .more ⟨0xD, 2, 0x80, 0x9F⟩
  else if b < 0xF0 then .more ⟨b - 0xE0, 2, 0x80, 0xBF⟩
  else if b = 0xF0 then .more ⟨0, 3, 0x90, 0xBF⟩
  else if b < 0xF4 then .more ⟨b - 0xF0, 3, 0x80, 0xBF⟩
  else if b = 0xF4 then .more ⟨4, 3, 0x80, 0x8F⟩
  else .whole none

/-- Decodes bytes, from between two characters or from inside one. -/
def decodeFrom : Option Unfinished → List UInt8 → List (Option Char)
  | none, [] => []
  | some _, [] => [none]
  | none, byte :: bytes =>
    match Opening.ofByte byte with
    | .whole c => c :: decodeFrom none bytes
    | .more rest => decodeFrom (some rest) bytes
  | some u, byte :: bytes =>
    let b := byte.toNat
    if u.least ≤ b && b ≤ u.greatest then
      let code := u.code * 64 + (b - 0x80)
      if u.owed ≤ 1 then some (Char.ofNat code) :: decodeFrom none bytes
      else decodeFrom (some ⟨code, u.owed - 1, 0x80, 0xBF⟩) bytes
    else
      none :: match Opening.ofByte byte with
        | .whole c => c :: decodeFrom none bytes
        | .more rest => decodeFrom (some rest) bytes

/-- The text that bytes encode; `none` where they encode no text. -/
def decode? (bytes : List UInt8) : Option String :=
  ((decodeFrom none bytes).mapM id).map String.ofList

/-- The text that bytes encode, with a replacement character for each undecodable piece. -/
def decodeLossy (bytes : List UInt8) : String :=
  String.ofList ((decodeFrom none bytes).map (·.getD '\uFFFD'))

def encode (text : String) : List UInt8 :=
  text.toUTF8.toList

end KitSurface.Text
