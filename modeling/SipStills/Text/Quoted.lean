/-
# Quoted text in messages

Messages show a text between quotes.  Quotes and backslashes get a backslash, a few control
characters have letters, and other hidden characters are written by their code point.
-/
import SipStills.Text.Hidden

namespace SipStills.Text

/-- How a character is written between quotes. -/
def quotedChar (c : Char) : List Char :=
  match c with
  | '"' => ['\\', '"']
  | '\\' => ['\\', '\\']
  | '\n' => ['\\', 'n']
  | '\r' => ['\\', 'r']
  | '\t' => ['\\', 't']
  | '\x00' => ['\\', '0']
  | c => if isHidden c then "\\u\x7b".toList ++ Nat.toDigits 16 c.toNat ++ ['\x7d'] else [c]

/-- A text between quotes. -/
def quoted (text : String) : String :=
  "\"" ++ String.ofList (text.toList.flatMap quotedChar) ++ "\""

end SipStills.Text
