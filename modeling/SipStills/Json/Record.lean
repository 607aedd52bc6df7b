/-
# Records

A record is an object with known fields.  Fields may come in any order, those that are absent
keep the value of the blank record unless they are required, and members of other names are
skipped.  A record may also be given as a list of its fields in order.

Main definitions: `Field`, `Record`, `Record.format`.
-/
import SipStills.Json.Format

namespace SipStills.Json

/-- A field of the records of type `S`. -/
structure Field (S : Type) where
  /-- Its name. -/
  name : String
  /-- It has to be there. -/
  required : Bool
  /-- Reads its value, as the change that it makes to a record. -/
  read : Reader (S → S)
  /-- Writes its value. -/
  write : S → List Char

/-- The field of the given name and format. -/
def Field.make {S α : Type} (required : Bool) (name : String) (format : Format α) (get : S → α)
    (set : α → S → S) : Field S where
  name := name
  required := required
  read text :=
    match format.read text with
    | .error e => .error e
    | .ok (a, rest) => .ok (set a, rest)
  write s := format.write (get s)

/-- A field that may be absent. -/
def Field.plain {S α : Type} (name : String) (format : Format α) (get : S → α)
    (set : α → S → S) : Field S := .make false name format get set

/-- A field that has to be there. -/
def Field.needed {S α : Type} (name : String) (format : Format α) (get : S → α)
    (set : α → S → S) : Field S := .make true name format get set

/-- How records of type `S` are read and written. -/
structure Record (S : Type) where
  /-- The name of the type, as messages give it. -/
  name : String
  /-- The record from which reading starts. -/
  blank : S
  /-- The fields, in order. -/
  fields : List (Field S)

namespace Record

variable {S : Type}

/-- What messages call a record. -/
def title (r : Record S) : String := "struct " ++ r.name

/-- What messages call the list of a record's fields. -/
def listTitle (r : Record S) : String :=
  r.title ++ " with " ++ toString r.fields.length ++ " elements"

/-- Reads fields as the items of a list; `index` is the place of the first of them. -/
def readItems (title : String) : Nat → Bool → List (Field S) → S → Reader S
  | _, _, [], s, text => .ok (s, text)
  | index, first, field :: fields, s, text =>
    match nextItem first text with
    | .error e => .error e
    | .ok none =>
      if field.required then .error (.mismatch (.wrongLength index title))
      else readItems title (index + 1) first fields s text
    | .ok (some text) =>
      match field.read text with
      | .error e => .error e
      | .ok (set, text) => readItems title (index + 1) false fields (set s) text

/-- The field of the given name. -/
def field? (r : Record S) (name : String) : Option (Field S) :=
  r.fields.find? fun field => field.name == name

/-- The first required field that is not among the names seen. -/
def missing? (r : Record S) (seen : List String) : Option (Field S) :=
  r.fields.find? fun field => field.required && !seen.contains field.name

/-- Reads the members of an object and its closing brace; `fuel` bounds their number. -/
def readMembers (r : Record S) : Nat → Bool → List String → S → Reader S
  | 0, _, _, _, _ => .error .unfinished
  | fuel + 1, first, seen, s, text =>
    match nextKey first text with
    | .error e => .error e
    | .ok none =>
      match r.missing? seen with
      | some field => .error (.mismatch (.missingField field.name))
      | none =>
        match closeObject text with
        | .error e => .error e
        | .ok (_, rest) => .ok (s, rest)
    | .ok (some text) =>
      match readString text with
      | .error e => .error e
      | .ok (key, text) =>
        match r.field? key with
        | some field =>
          if seen.contains key then .error (.mismatch (.duplicateField key))
          else
            match colon text with
            | .error e => .error e
            | .ok (_, text) =>
              match field.read text with
              | .error e => .error e
              | .ok (set, text) => readMembers r fuel false (key :: seen) (set s) text
        | none =>
          match colon text with
          | .error e => .error e
          | .ok (_, text) =>
            match skipValue text with
            | .error e => .error e
            | .ok text => readMembers r fuel false seen s text

/-- Reads a record. -/
def read (r : Record S) : Reader S := fun text =>
  match skipSpace text with
  | [] => .error .unfinished
  | c :: rest =>
    if c = '[' then
      match readItems r.listTitle 0 true r.fields r.blank rest with
      | .error e => .error e
      | .ok (s, rest) =>
        match closeList rest with
        | .error e => .error e
        | .ok (_, rest) => .ok (s, rest)
    else if c = '\x7b' then readMembers r (rest.length + 1) true [] r.blank rest
    else .error (mistyped r.title (c :: rest))

/-- Writes a record: all its fields, in order. -/
def write (r : Record S) (s : S) : List Char :=
  writeObject (r.fields.map fun field => (field.name, field.write s))

/-- The format of a record. -/
def format (r : Record S) : Format S := ⟨r.read, r.write⟩

end Record
end SipStills.Json
