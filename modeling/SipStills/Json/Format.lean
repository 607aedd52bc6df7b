/-
# Formats of values

A format says how the values of a type are read and how they are written.  This file has the
formats of texts, numbers, named alternatives, values that may be absent, and lists.

Main definitions: `Format`, `Format.parse`, `Format.render`.
-/
import SipStills.Json.Reader
import SipStills.Json.Writer

namespace SipStills.Json

/-- How the values of a type are read and written. -/
structure Format (α : Type) where
  /-- Takes a value off the front of a text. -/
  read : Reader α
  /-- Writes a value. -/
  write : α → List Char

namespace Format

/-- Reads a text that holds one value and nothing else. -/
def parse {α : Type} (f : Format α) (text : String) : Except Fault α :=
  match f.read text.toList with
  | .error e => .error e
  | .ok (a, rest) => if (skipSpace rest).isEmpty then .ok a else .error .malformed

/-- The text of a value. -/
def render {α : Type} (f : Format α) (a : α) : String := String.ofList (f.write a)

/-- A format seen through a change of type. -/
def map {α β : Type} (f : Format α) (forth : α → β) (back : β → α) : Format β where
  read text :=
    match f.read text with
    | .error e => .error e
    | .ok (a, rest) => .ok (forth a, rest)
  write b := f.write (back b)

/-! ### Texts -/

/-- Reads a string; `expected` is the name of what it stands for. -/
def readText (expected : String) : Reader String := fun text =>
  match skipSpace text with
  | [] => .error .unfinished
  | c :: rest => if c = '"' then readString rest else .error (mistyped expected (c :: rest))

/-- Texts. -/
def text (expected : String) : Format String where
  read := readText expected
  write := writeString

/-! ### Numbers -/

/-- A natural number below a limit, from a number that was read. -/
def Number.below (limit : Nat) (expected : String) : Number → Except Fault Nat
  | .nat n => if n < limit then .ok n else .error (.mismatch (.outOfRange n expected))
  | .negative n => .error (.mismatch (.outOfRange n expected))
  | .real x => .error (.mismatch (.wrongType (.real x) expected))

/-- Reads a natural number below a limit. -/
def readNat (limit : Nat) (expected : String) : Reader Nat := fun text =>
  let number (positive : Bool) (text : List Char) : Except Fault (Nat × List Char) :=
    match readNumber positive text with
    | .error e => .error e
    | .ok (n, rest) =>
      match Number.below limit expected n with
      | .error e => .error e
      | .ok n => .ok (n, rest)
  match skipSpace text with
  | [] => .error .unfinished
  | c :: rest =>
    if c = '-' then number false rest
    else if Text.isDigit c then number true (c :: rest)
    else .error (mistyped expected (c :: rest))

/-- Natural numbers below a limit; `expected` is the name of their type. -/
def natBelow (limit : Nat) (expected : String) : Format Nat where
  read := readNat limit expected
  write := Text.digits

/-- Numbers of eight bits. -/
def uint8 : Format UInt8 := (natBelow UInt8.size "u8").map UInt8.ofNat UInt8.toNat

/-- Numbers of sixteen bits. -/
def uint16 : Format UInt16 := (natBelow UInt16.size "u16").map UInt16.ofNat UInt16.toNat

/-- Numbers of thirty-two bits. -/
def uint32 : Format UInt32 := (natBelow UInt32.size "u32").map UInt32.ofNat UInt32.toNat

/-- Sizes, which have sixty-four bits. -/
def size : Format UInt64 := (natBelow UInt64.size "usize").map UInt64.ofNat UInt64.toNat

/-! ### Named alternatives -/

/-- The alternative of a name that was read. -/
def alternative {α : Type} (all : List α) (nameOf : α → String) (name : String) :
    Except Fault α :=
  match all.find? fun a => nameOf a == name with
  | some a => .ok a
  | none => .error (.mismatch (.unknownVariant name (all.map nameOf)))

/-- Reads the value of an alternative that has none: `null`. -/
def readUnit : Reader Unit := fun text =>
  match skipSpace text with
  | [] => .error .unfinished
  | c :: rest =>
    if c = 'n' then word ['u', 'l', 'l'] rest else .error (mistyped "unit" (c :: rest))

/-- Reads an alternative, as its name or as an object of that one key. -/
def readAlternative {α : Type} (all : List α) (nameOf : α → String) : Reader α := fun text =>
  match skipSpace text with
  | [] => .error .unfinished
  | c :: rest =>
    if c = '"' then
      match readString rest with
      | .error e => .error e
      | .ok (name, rest) =>
        match alternative all nameOf name with
        | .error e => .error e
        | .ok a => .ok (a, rest)
    else if c = '\x7b' then
      match nextKey true rest with
      | .error e => .error e
      | .ok none => .error .malformed
      | .ok (some rest) =>
        match readString rest with
        | .error e => .error e
        | .ok (name, rest) =>
          match alternative all nameOf name with
          | .error e => .error e
          | .ok a =>
            match colon rest with
            | .error e => .error e
            | .ok (_, rest) =>
              match readUnit rest with
              | .error e => .error e
              | .ok (_, rest) =>
                match closeObject rest with
                | .error e => .error e
                | .ok (_, rest) => .ok (a, rest)
    else .error .malformed

/-- Alternatives that are written by name. -/
def alternatives {α : Type} (all : List α) (nameOf : α → String) : Format α where
  read := readAlternative all nameOf
  write a := writeString (nameOf a)

/-! ### Values that may be absent, and lists -/

/-- Values that may be absent, which is written `null`. -/
def optional {α : Type} (f : Format α) : Format (Option α) where
  read text :=
    match skipSpace text with
    | 'n' :: rest =>
      match word ['u', 'l', 'l'] rest with
      | .error e => .error e
      | .ok (_, rest) => .ok (none, rest)
    | text =>
      match f.read text with
      | .error e => .error e
      | .ok (a, rest) => .ok (some a, rest)
  write
    | none => ['n', 'u', 'l', 'l']
    | some a => f.write a

/-- Reads the items of a list and its closing bracket; `fuel` bounds their number. -/
def readItems {α : Type} (item : Reader α) : Nat → Bool → Reader (List α)
  | 0, _, _ => .error .unfinished
  | fuel + 1, first, text =>
    match nextItem first text with
    | .error e => .error e
    | .ok none =>
      match closeList text with
      | .error e => .error e
      | .ok (_, rest) => .ok ([], rest)
    | .ok (some text) =>
      match item text with
      | .error e => .error e
      | .ok (a, text) =>
        match readItems item fuel false text with
        | .error e => .error e
        | .ok (as, rest) => .ok (a :: as, rest)

/-- Lists. -/
def list {α : Type} (f : Format α) : Format (List α) where
  read text :=
    match skipSpace text with
    | [] => .error .unfinished
    | c :: rest =>
      if c = '[' then readItems f.read (rest.length + 1) true rest
      else .error (mistyped "a sequence" (c :: rest))
  write as := writeList (as.map f.write)

end Format
end SipStills.Json
