/-
# What can be wrong with a JSON text

A text can break the grammar, it can end too early, or a value in it can be unfit for what
is to be read.  Only the last kind has a message.
-/
import SipStills.Decimal.Shortest
import SipStills.Text.Quoted

namespace SipStills.Json

/-- A value that was found where another was expected. -/
inductive Found where
  | null
  | bool (value : Bool)
  | integer (value : Int)
  | real (value : Float)
  | text (value : String)
  | list
  | object

/-- The text of a finite real number: positional from `10 ^ -5` to below `10 ^ 16`, always
with a point, and otherwise with an exponent, which has a sign. -/
def realText (x : Float) : String :=
  let sign := if x.toBits.toNat < UInt64.size / 2 then "" else "-"
  let binary := Decimal.Binary.ofBits x.toBits
  if binary.mantissa = 0 then sign ++ "0.0"
  else
    let d := binary.shortest.trim 20
    let ds := Text.digits d.digits
    let n := ds.length
    let point : Int := n + d.exponent
    let text : List Char :=
      if 0 ≤ d.exponent ∧ point ≤ 16 then
        ds ++ List.replicate d.exponent.toNat '0' ++ ['.', '0']
      else if 0 < point ∧ point ≤ 16 then
        ds.take point.toNat ++ ['.'] ++ ds.drop point.toNat
      else if -5 < point ∧ point ≤ 0 then
        ['0', '.'] ++ List.replicate (-point).toNat '0' ++ ds
      else
        ds.take 1 ++ (if n = 1 then [] else '.' :: ds.drop 1) ++ ['e']
          ++ (if 0 < point then ['+'] else []) ++ (toString (point - 1)).toList
    sign ++ String.ofList text

/-- How a found value is named in a message. -/
def Found.render : Found → String
  | .null => "null"
  | .bool value => "boolean `" ++ toString value ++ "`"
  | .integer value => "integer `" ++ toString value ++ "`"
  | .real value => "floating point `" ++ realText value ++ "`"
  | .text value => "string " ++ Text.quoted value
  | .list => "sequence"
  | .object => "map"

/-- Why a value is unfit for what is to be read. -/
inductive Mismatch where
  /-- A value of one kind stands where another is expected. -/
  | wrongType (found : Found) (expected : String)
  /-- An integer is outside the range of its type. -/
  | outOfRange (value : Int) (expected : String)
  /-- A name is none of the known ones. -/
  | unknownVariant (name : String) (known : List String)
  /-- A field that has no default is absent. -/
  | missingField (name : String)
  /-- A field occurs twice. -/
  | duplicateField (name : String)
  /-- A list is too short for its record. -/
  | wrongLength (length : Nat) (expected : String)

/-- The list of known names, as messages give it. -/
def oneOf (names : List String) : String :=
  match names with
  | [a] => "`" ++ a ++ "`"
  | [a, b] => "`" ++ a ++ "` or `" ++ b ++ "`"
  | names => "one of " ++ ", ".intercalate (names.map fun n => "`" ++ n ++ "`")

/-- The message of a mismatch. -/
def Mismatch.message : Mismatch → String
  | .wrongType found expected => "invalid type: " ++ found.render ++ ", expected " ++ expected
  | .outOfRange value expected =>
    "invalid value: integer `" ++ toString value ++ "`, expected " ++ expected
  | .unknownVariant name known => "unknown variant `" ++ name ++ "`, expected " ++ oneOf known
  | .missingField name => "missing field `" ++ name ++ "`"
  | .duplicateField name => "duplicate field `" ++ name ++ "`"
  | .wrongLength length expected =>
    "invalid length " ++ toString length ++ ", expected " ++ expected

/-- What is wrong with a text. -/
inductive Fault where
  /-- It breaks the grammar. -/
  | malformed
  /-- It ends too early. -/
  | unfinished
  /-- A value is unfit for what is to be read. -/
  | mismatch (cause : Mismatch)

end SipStills.Json
