/-
# Reading JSON

Texts are lists of characters.  A reader takes a value off the front of a text; it stops at
the first fault it meets, in the order of the text, so a value of the wrong type is reported
even if the grammar is broken further on.

A value that nobody asked for is skipped: there the grammar alone counts, not the range of
numbers, the pairing of surrogates or the depth of nesting.

Main definitions: `readString`, `readNumber`, `skipValue`, `mistyped`.
-/
import SipStills.Json.Fault

namespace SipStills.Json

/-- A reader takes a value off the front of a text. -/
abbrev Reader (α : Type) := List Char → Except Fault (α × List Char)

/-- The four characters that may stand between tokens. -/
def isSpace (c : Char) : Bool := c = ' ' || c = '\n' || c = '\t' || c = '\r'

/-- Drops what may stand in front of a token. -/
def skipSpace (text : List Char) : List Char := text.dropWhile isSpace

/-- Takes the given characters off the front of a text. -/
def word : List Char → Reader Unit
  | [], text => .ok ((), text)
  | _ :: _, [] => .error .unfinished
  | w :: ws, c :: rest => if c = w then word ws rest else .error .malformed

/-! ### Strings -/

/-- The value of a hexadecimal digit. -/
def hexValue? (c : Char) : Option Nat :=
  if '0' ≤ c ∧ c ≤ '9' then some (c.toNat - 48)
  else if 'a' ≤ c ∧ c ≤ 'f' then some (c.toNat - 87)
  else if 'A' ≤ c ∧ c ≤ 'F' then some (c.toNat - 55)
  else none

/-- Whether at least four bytes of text are left. -/
def holdsFourBytes (text : List Char) : Bool :=
  decide (4 ≤ (String.ofList (text.take 4)).utf8ByteSize)

/-- Reads four hexadecimal digits.  With fewer than four bytes left the text has ended too
early, whatever these are. -/
def readHex : Reader Nat
  | a :: b :: c :: d :: rest =>
    match hexValue? a, hexValue? b, hexValue? c, hexValue? d with
    | some a, some b, some c, some d => .ok (((a * 16 + b) * 16 + c) * 16 + d, rest)
    | _, _, _, _ => .error .malformed
  | text => .error (if holdsFourBytes text then .malformed else .unfinished)

theorem length_readHex {text rest : List Char} {n : Nat} (h : readHex text = .ok (n, rest)) :
    rest.length + 4 = text.length := by
  unfold readHex at h
  split at h
  · split at h
    · simp only [Except.ok.injEq, Prod.mk.injEq] at h
      simp [← h.2]
    · cases h
  · cases h

/-- The first half of a pair of surrogates. -/
def isHighSurrogate (n : Nat) : Bool := decide (0xD800 ≤ n) && decide (n ≤ 0xDBFF)

/-- The second half of a pair of surrogates. -/
def isLowSurrogate (n : Nat) : Bool := decide (0xDC00 ≤ n) && decide (n ≤ 0xDFFF)

/-- Reads the second half of a pair of surrogates, whose first half is `high`. -/
def readLowSurrogate (high : Nat) : Reader Char
  | [] => .error .unfinished
  | '\\' :: [] => .error .unfinished
  | '\\' :: 'u' :: rest =>
    match readHex rest with
    | .error e => .error e
    | .ok (low, rest) =>
      if isLowSurrogate low then
        .ok (Char.ofNat ((high - 0xD800) * 0x400 + (low - 0xDC00) + 0x10000), rest)
      else .error .malformed
  | _ => .error .malformed

/-- Reads a code point in hexadecimal digits, one beyond sixteen bits as a pair. -/
def readCodePoint : Reader Char := fun text =>
  match readHex text with
  | .error e => .error e
  | .ok (n, rest) =>
    if isLowSurrogate n then .error .malformed
    else if isHighSurrogate n then readLowSurrogate n rest
    else .ok (Char.ofNat n, rest)

/-- The characters that have a letter of their own behind a backslash. -/
def unescape? (c : Char) : Option Char :=
  match c with
  | '"' => some '"'
  | '\\' => some '\\'
  | '/' => some '/'
  | 'b' => some '\x08'
  | 'f' => some '\x0c'
  | 'n' => some '\n'
  | 'r' => some '\r'
  | 't' => some '\t'
  | _ => none

/-- Reads what stands behind a backslash. -/
def readEscape : Reader Char
  | [] => .error .unfinished
  | c :: rest =>
    if c = 'u' then readCodePoint rest
    else
      match unescape? c with
      | some c => .ok (c, rest)
      | none => .error .malformed

theorem length_readEscape {text rest : List Char} {c : Char}
    (h : readEscape text = .ok (c, rest)) : rest.length < text.length := by
  unfold readEscape at h
  split at h
  · cases h
  split at h
  · unfold readCodePoint at h
    split at h
    · cases h
    rename_i hx
    have h1 := length_readHex hx
    split at h
    · cases h
    split at h
    · unfold readLowSurrogate at h
      split at h
      · cases h
      · cases h
      · split at h
        · cases h
        · rename_i hy
          have h2 := length_readHex hy
          split at h
          · simp only [Except.ok.injEq, Prod.mk.injEq] at h
            simp only [← h.2, List.length_cons] at *
            omega
          · cases h
      · cases h
    · simp only [Except.ok.injEq, Prod.mk.injEq] at h
      simp only [← h.2, List.length_cons]
      omega
  · split at h
    · simp only [Except.ok.injEq, Prod.mk.injEq] at h
      simp [← h.2]
    · cases h

/-- Reads the characters of a string behind its opening quote, up to and with the closing
one. -/
def readChars (text : List Char) : Except Fault (List Char × List Char) :=
  match text with
  | [] => .error .unfinished
  | c :: rest =>
    if c = '"' then .ok ([], rest)
    else if c = '\\' then
      match h : readEscape rest with
      | .error e => .error e
      | .ok (c, rest') =>
        have := length_readEscape h
        match readChars rest' with
        | .error e => .error e
        | .ok (cs, rest) => .ok (c :: cs, rest)
    else if c.toNat < 0x20 then .error .malformed
    else
      match readChars rest with
      | .error e => .error e
      | .ok (cs, rest) => .ok (c :: cs, rest)
termination_by text.length
decreasing_by all_goals simp only [List.length_cons]; omega

/-- Reads a string behind its opening quote. -/
def readString : Reader String := fun text =>
  match readChars text with
  | .error e => .error e
  | .ok (cs, rest) => .ok (String.ofList cs, rest)

/-- Skips a string behind its opening quote.  Surrogates need no partner here. -/
def skipString (text : List Char) : Except Fault (List Char) :=
  match text with
  | [] => .error .unfinished
  | c :: rest =>
    if c = '"' then .ok rest
    else if c = '\\' then
      match rest with
      | [] => .error .unfinished
      | e :: rest =>
        if e = 'u' then
          match h : readHex rest with
          | .error e => .error e
          | .ok (_, rest') =>
            have := length_readHex h
            skipString rest'
        else if (unescape? e).isSome then skipString rest
        else .error .malformed
    else if c.toNat < 0x20 then .error .malformed
    else skipString rest
termination_by text.length
decreasing_by all_goals simp only [List.length_cons]; omega

/-! ### Numbers -/

/-- A number as it is read: integers stay exact where they fit sixty-four bits. -/
inductive Number where
  | nat (value : Nat)
  | negative (value : Int)
  | real (value : Float)

/-- The digits at the front of a text, and what follows them. -/
def spanDigits (text : List Char) : List Char × List Char :=
  (text.takeWhile Text.isDigit, text.dropWhile Text.isDigit)

/-- The largest significand that is kept. -/
def maxSignificand : Nat := 18446744073709551615

/-- Adds digits to a significand while they fit; the number of those that did, and of those
that did not. -/
def gather (significand used : Nat) : List Char → Nat × Nat × Nat
  | [] => (significand, used, 0)
  | d :: ds =>
    let next := significand * 10 + Text.digitValue d
    if maxSignificand < next then (significand, used, ds.length + 1)
    else gather next (used + 1) ds

/-- `10 ^ n` as a real number. -/
def powerOfTen (n : Nat) : Float := Float.ofScientific 1 false n

/-- The real number `significand * 10 ^ exponent`, with one rounding for the significand and
one for each multiplication or division by a power of ten.  Too large a number is refused;
one too small is zero. -/
def scaled? (significand : Nat) (exponent : Int) : Option Float :=
  let s := Float.ofNat significand
  if 0 ≤ exponent then
    if significand = 0 then some 0.0
    else if 308 < exponent then none
    else
      let x := s * powerOfTen exponent.toNat
      if x.isInf then none else some x
  else if -308 ≤ exponent then some (s / powerOfTen (-exponent).toNat)
  else if -616 ≤ exponent then
    some (s / powerOfTen 308 / powerOfTen (-exponent - 308).toNat)
  else some 0.0

/-- The real number with a sign. -/
def realNumber (positive : Bool) (significand : Nat) (exponent : Int) (rest : List Char) :
    Except Fault (Number × List Char) :=
  match scaled? significand exponent with
  | none => .error .malformed
  | some x => .ok (.real (if positive then x else -x), rest)

/-- Reads the exponent behind its mark. -/
def readExponent (positive : Bool) (significand : Nat) (exponent : Int) (text : List Char) :
    Except Fault (Number × List Char) :=
  let (up, text) :=
    match text with
    | '+' :: rest => (true, rest)
    | '-' :: rest => (false, rest)
    | text => (true, text)
  match text with
  | [] => .error .unfinished
  | c :: _ =>
    if Text.isDigit c then
      let (ds, rest) := spanDigits text
      let e : Int := Text.valueFrom 0 ds
      realNumber positive significand (if up then exponent + e else exponent - e) rest
    else .error .malformed

/-- Reads what may follow the digits of a real number: an exponent, or nothing. -/
def readRealEnd (positive : Bool) (significand : Nat) (exponent : Int) (text : List Char) :
    Except Fault (Number × List Char) :=
  match text with
  | c :: rest =>
    if c = 'e' ∨ c = 'E' then readExponent positive significand exponent rest
    else realNumber positive significand exponent text
  | [] => realNumber positive significand exponent text

/-- Reads the digits behind a point. -/
def readFraction (positive : Bool) (significand : Nat) (exponent : Int) (text : List Char) :
    Except Fault (Number × List Char) :=
  match spanDigits text with
  | ([], []) => .error .unfinished
  | ([], _) => .error .malformed
  | (ds, rest) =>
    let (significand, used, _) := gather significand 0 ds
    readRealEnd positive significand (exponent - used) rest

/-- The integer of a significand and a sign.  Minus zero, and what is below the range of
sixty-four bits, is a real number. -/
def integerNumber (positive : Bool) (significand : Nat) : Number :=
  if positive then .nat significand
  else if 0 < significand ∧ significand ≤ UInt64.size / 2 then .negative (-(significand : Int))
  else .real (-(Float.ofNat significand))

/-- Reads what follows the digits in front of the point.  Digits that did not fit the
significand make the number real. -/
def readNumberEnd (positive : Bool) (significand dropped : Nat) (text : List Char) :
    Except Fault (Number × List Char) :=
  match text with
  | '.' :: rest => readFraction positive significand dropped rest
  | c :: rest =>
    if c = 'e' ∨ c = 'E' then readExponent positive significand dropped rest
    else if dropped = 0 then .ok (integerNumber positive significand, text)
    else realNumber positive significand dropped text
  | [] =>
    if dropped = 0 then .ok (integerNumber positive significand, text)
    else realNumber positive significand dropped text

/-- Reads a number behind its sign. -/
def readNumber (positive : Bool) : Reader Number := fun text =>
  match text with
  | [] => .error .unfinished
  | c :: rest =>
    if c = '0' then
      match rest with
      | d :: _ => if Text.isDigit d then .error .malformed else readNumberEnd positive 0 0 rest
      | [] => readNumberEnd positive 0 0 rest
    else if Text.isDigit c then
      let (ds, rest) := spanDigits text
      let (significand, _, dropped) := gather 0 0 ds
      readNumberEnd positive significand dropped rest
    else .error .malformed

/-- Skips digits, of which there has to be one. -/
def skipDigits (text : List Char) : Except Fault (List Char) :=
  match spanDigits text with
  | ([], _) => .error .malformed
  | (_, rest) => .ok rest

/-- Skips an exponent, if there is one. -/
def skipExponent (text : List Char) : Except Fault (List Char) :=
  match text with
  | c :: rest =>
    if c = 'e' ∨ c = 'E' then
      match rest with
      | s :: digits => skipDigits (if s = '+' ∨ s = '-' then digits else rest)
      | [] => .error .malformed
    else .ok text
  | [] => .ok text

/-- Skips a number behind its sign.  A number cut off by the end of the text is malformed
here. -/
def skipNumber (text : List Char) : Except Fault (List Char) :=
  let whole : Except Fault (List Char) :=
    match text with
    | '0' :: rest =>
      match rest with
      | d :: _ => if Text.isDigit d then .error .malformed else .ok rest
      | [] => .ok rest
    | _ => skipDigits text
  match whole with
  | .error e => .error e
  | .ok ('.' :: rest) =>
    match skipDigits rest with
    | .error e => .error e
    | .ok rest => skipExponent rest
  | .ok rest => skipExponent rest

/-! ### Lists and objects -/

/-- Looks for the next item of a list: the text at the item, or nothing at the closing
bracket, which stays. -/
def nextItem (first : Bool) (text : List Char) : Except Fault (Option (List Char)) :=
  match skipSpace text with
  | [] => .error .unfinished
  | c :: rest =>
    if c = ']' then .ok none
    else if first then .ok (some (c :: rest))
    else if c = ',' then
      match skipSpace rest with
      | [] => .error .unfinished
      | d :: rest => if d = ']' then .error .malformed else .ok (some (d :: rest))
    else .error .malformed

/-- Takes the closing bracket of a list. -/
def closeList : Reader Unit := fun text =>
  match skipSpace text with
  | [] => .error .unfinished
  | c :: rest => if c = ']' then .ok ((), rest) else .error .malformed

/-- Looks for the next key of an object: the text behind its opening quote, or nothing at the
closing brace, which stays. -/
def nextKey (first : Bool) (text : List Char) : Except Fault (Option (List Char)) :=
  match skipSpace text with
  | [] => .error .unfinished
  | c :: rest =>
    if c = '\x7d' then .ok none
    else if first then if c = '"' then .ok (some rest) else .error .malformed
    else if c = ',' then
      match skipSpace rest with
      | [] => .error .unfinished
      | d :: rest => if d = '"' then .ok (some rest) else .error .malformed
    else .error .malformed

/-- Takes the colon behind a key. -/
def colon : Reader Unit := fun text =>
  match skipSpace text with
  | [] => .error .unfinished
  | c :: rest => if c = ':' then .ok ((), rest) else .error .malformed

/-- Takes the closing brace of an object. -/
def closeObject : Reader Unit := fun text =>
  match skipSpace text with
  | [] => .error .unfinished
  | c :: rest => if c = '\x7d' then .ok ((), rest) else .error .malformed

mutual

/-- Skips a value; `fuel` bounds its nesting and the number of its parts. -/
def skipValueWith : Nat → List Char → Except Fault (List Char)
  | 0, _ => .error .unfinished
  | fuel + 1, text =>
    match skipSpace text with
    | [] => .error .unfinished
    | c :: rest =>
      if c = 'n' then (word ['u', 'l', 'l'] rest).map (·.2)
      else if c = 't' then (word ['r', 'u', 'e'] rest).map (·.2)
      else if c = 'f' then (word ['a', 'l', 's', 'e'] rest).map (·.2)
      else if c = '-' then skipNumber rest
      else if Text.isDigit c then skipNumber (c :: rest)
      else if c = '"' then skipString rest
      else if c = '[' then skipItemsWith fuel true rest
      else if c = '\x7b' then skipMembersWith fuel true rest
      else .error .malformed

/-- Skips the items of a list and its closing bracket. -/
def skipItemsWith : Nat → Bool → List Char → Except Fault (List Char)
  | 0, _, _ => .error .unfinished
  | fuel + 1, first, text =>
    match nextItem first text with
    | .error e => .error e
    | .ok none => (closeList text).map (·.2)
    | .ok (some text) =>
      match skipValueWith fuel text with
      | .error e => .error e
      | .ok text => skipItemsWith fuel false text

/-- Skips the members of an object and its closing brace. -/
def skipMembersWith : Nat → Bool → List Char → Except Fault (List Char)
  | 0, _, _ => .error .unfinished
  | fuel + 1, first, text =>
    match nextKey first text with
    | .error e => .error e
    | .ok none => (closeObject text).map (·.2)
    | .ok (some text) =>
      match skipString text with
      | .error e => .error e
      | .ok text =>
        match colon text with
        | .error e => .error e
        | .ok (_, text) =>
          match skipValueWith fuel text with
          | .error e => .error e
          | .ok text => skipMembersWith fuel false text

end

/-- Skips a value. -/
def skipValue (text : List Char) : Except Fault (List Char) :=
  skipValueWith (2 * text.length + 2) text

/-! ### Values of the wrong type -/

/-- How a number is named where another value is expected. -/
def Number.found : Number → Found
  | .nat value => .integer value
  | .negative value => .integer value
  | .real value => .real value

/-- The fault of a text that holds a value, but not the expected one.  A broken value is
reported as such; of a list or an object only the opening bracket is looked at. -/
def mistyped (expected : String) (text : List Char) : Fault :=
  let wrong (found : Found) : Fault := .mismatch (.wrongType found expected)
  match text with
  | [] => .malformed
  | c :: rest =>
    if c = 'n' then
      match word ['u', 'l', 'l'] rest with
      | .error e => e
      | .ok _ => wrong .null
    else if c = 't' then
      match word ['r', 'u', 'e'] rest with
      | .error e => e
      | .ok _ => wrong (.bool true)
    else if c = 'f' then
      match word ['a', 'l', 's', 'e'] rest with
      | .error e => e
      | .ok _ => wrong (.bool false)
    else if c = '-' then
      match readNumber false rest with
      | .error e => e
      | .ok (n, _) => wrong n.found
    else if Text.isDigit c then
      match readNumber true text with
      | .error e => e
      | .ok (n, _) => wrong n.found
    else if c = '"' then
      match readString rest with
      | .error e => e
      | .ok (s, _) => wrong (.text s)
    else if c = '[' then wrong .list
    else if c = '\x7b' then wrong .object
    else .malformed

end SipStills.Json
