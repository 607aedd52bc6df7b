/-
# Writing JSON

Values are written without any space between tokens.  Strings show every character as it is,
save quotes, backslashes and controls.
-/
import SipStills.Text.Digits

namespace SipStills.Json

/-- The lower-case digit of a number below sixteen. -/
def hexDigit (d : Nat) : Char := Char.ofNat (if d < 10 then 48 + d else 87 + d)

/-- How a character is written inside a string. -/
def escape (c : Char) : List Char :=
  match c with
  | '"' => ['\\', '"']
  | '\\' => ['\\', '\\']
  | '\x08' => ['\\', 'b']
  | '\x0c' => ['\\', 'f']
  | '\n' => ['\\', 'n']
  | '\r' => ['\\', 'r']
  | '\t' => ['\\', 't']
  | c =>
    if c.toNat < 0x20 then
      ['\\', 'u', '0', '0', hexDigit (c.toNat / 16), hexDigit (c.toNat % 16)]
    else [c]

/-- A string with its quotes. -/
def writeString (text : String) : List Char := '"' :: text.toList.flatMap escape ++ ['"']

/-- Items with commas between them. -/
def separated : List (List Char) → List Char
  | [] => []
  | [item] => item
  | item :: items => item ++ ',' :: separated items

/-- A list of written items. -/
def writeList (items : List (List Char)) : List Char := '[' :: separated items ++ [']']

/-- A member of an object. -/
def writeMember (member : String × List Char) : List Char :=
  writeString member.1 ++ ':' :: member.2

/-- An object of written members. -/
def writeObject (members : List (String × List Char)) : List Char :=
  '\x7b' :: separated (members.map writeMember) ++ ['\x7d']

end SipStills.Json
