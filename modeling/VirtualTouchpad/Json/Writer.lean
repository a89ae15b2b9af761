/-
# Writing JSON

Texts without blanks.  A byte of a text is escaped if it is a quotation mark, a
backslash or a control; everything else is written as it is, so a written text
holds no byte below the space.
-/
import VirtualTouchpad.Json.Lexical

namespace VirtualTouchpad.Json

/-- The lower-case hexadecimal digit of a number below 16. -/
def hexDigit (n : Nat) : UInt8 := if n < 10 then UInt8.ofNat (48 + n) else UInt8.ofNat (87 + n)

/-- The spelling of one byte of a text. -/
def escapeByte (b : UInt8) : Bytes :=
  if b = ascii '"' ∨ b = ascii '\\' then [ascii '\\', b]
  else if 0x20 ≤ b then [b]
  else if b = 0x08 then [ascii '\\', ascii 'b']
  else if b = 0x09 then [ascii '\\', ascii 't']
  else if b = 0x0A then [ascii '\\', ascii 'n']
  else if b = 0x0C then [ascii '\\', ascii 'f']
  else if b = 0x0D then [ascii '\\', ascii 'r']
  else bytesOf "\\u00" ++ [hexDigit (b.toNat / 16), hexDigit (b.toNat % 16)]

/-- A text between quotation marks. -/
def writeText (text : String) : Bytes :=
  ascii '"' :: ((bytesOf text).flatMap escapeByte ++ [ascii '"'])

/-- A whole number. -/
def writeNat (n : Nat) : Bytes := bytesOf (toString n)

/-- A 32-bit float. -/
def writeSingle (x : Single) : Bytes := bytesOf (x.spell .wire)

/-- One member of an object. -/
def writeMember (member : String × Bytes) : Bytes :=
  writeText member.1 ++ ascii ':' :: member.2

/-- Parts with commas between them. -/
def joinCommas : List Bytes → Bytes
  | [] => []
  | [part] => part
  | part :: parts => part ++ ascii ',' :: joinCommas parts

/-- An object of some members. -/
def writeObject (members : List (String × Bytes)) : Bytes :=
  ascii '{' :: (joinCommas (members.map writeMember) ++ [ascii '}'])

end VirtualTouchpad.Json
