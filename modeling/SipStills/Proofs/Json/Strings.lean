/-
# Strings

What stands inside the quotes of a string spells its characters, each as it is or behind a backslash
(`Spells`), and is read as just these (`Spells.readString_append`).  Strings that are only skipped
may also have a surrogate without its partner (`Quoted`), which spells nothing.

The writer spells what it writes, so that a written string is read back (`readString_writeString`).
-/
import Mathlib.Tactic.Lemma
import SipStills.Json.Reader
import SipStills.Json.Writer

namespace SipStills.Json

/-! ### Spelling -/

/-- The number of four hexadecimal digits. -/
inductive Code : List Char → Nat → Prop where
  | digits {a b c d : Char} {x y z w : Nat} (ha : hexValue? a = some x) (hb : hexValue? b = some y)
      (hc : hexValue? c = some z) (hd : hexValue? d = some w) :
      Code [a, b, c, d] (((x * 16 + y) * 16 + z) * 16 + w)

lemma Code.readHex_append {ds : List Char} {n : Nat} (h : Code ds n) (rest : List Char) :
    readHex (ds ++ rest) = .ok (n, rest) := by
  obtain ⟨ha, hb, hc, hd⟩ := h
  simp only [List.cons_append, List.nil_append, readHex, ha, hb, hc, hd]

/-- What stands behind a backslash for a character. -/
inductive Escape : List Char → Char → Prop where
  | letter {e c : Char} (he : unescape? e = some c) : Escape [e] c
  | code {ds : List Char} {n : Nat} (hn : Code ds n) (hlow : isLowSurrogate n = false)
      (hhigh : isHighSurrogate n = false) : Escape ('u' :: ds) (Char.ofNat n)
  | pair {ds ds' : List Char} {high low : Nat} (h : Code ds high) (h' : Code ds' low)
      (hhigh : isHighSurrogate high = true) (hlow : isLowSurrogate low = true) :
      Escape ('u' :: (ds ++ '\\' :: 'u' :: ds'))
        (Char.ofNat ((high - 0xD800) * 0x400 + (low - 0xDC00) + 0x10000))

/-- A letter that stands for a character is not the one in front of a code. -/
lemma ne_of_unescape? {e : Char} (h : (unescape? e).isSome) : e ≠ 'u' := by
  rintro rfl
  exact absurd h (by decide)

/-- The first half of a pair of surrogates is not a second one. -/
lemma not_low_of_high {n : Nat} (h : isHighSurrogate n = true) : isLowSurrogate n = false := by
  simp only [isHighSurrogate, Bool.and_eq_true, decide_eq_true_eq] at h
  simp only [isLowSurrogate, Bool.and_eq_false_iff, decide_eq_false_iff_not]
  omega

lemma Escape.readEscape_append {text : List Char} {c : Char} (h : Escape text c)
    (rest : List Char) : readEscape (text ++ rest) = .ok (c, rest) := by
  cases h with
  | letter he =>
    have hne := ne_of_unescape? (show (unescape? _).isSome by rw [he]; rfl)
    simp only [List.cons_append, List.nil_append, readEscape, if_neg hne, he]
  | code hn hlow hhigh =>
    simp [readEscape, readCodePoint, hn.readHex_append, hlow, hhigh]
  | pair h h' hhigh hlow =>
    simp [readEscape, readCodePoint, readLowSurrogate, h.readHex_append, h'.readHex_append,
      not_low_of_high hhigh, hhigh, hlow]

/-- The text inside quotes spells these characters, each as it is or behind a backslash. -/
inductive Spells : List Char → List Char → Prop where
  | nil : Spells [] []
  | plain {c : Char} {text cs : List Char} (hquote : c ≠ '"') (hbackslash : c ≠ '\\')
      (hcontrol : ¬ c.toNat < 0x20) (h : Spells text cs) : Spells (c :: text) (c :: cs)
  | escaped {e : List Char} {c : Char} {text cs : List Char} (he : Escape e c)
      (h : Spells text cs) : Spells ('\\' :: (e ++ text)) (c :: cs)

/-- What stands behind a backslash is a character of the string, if it can be read, -/
lemma readChars_backslash {c : Char} {text text' : List Char}
    (h : readEscape text = .ok (c, text')) :
    readChars ('\\' :: text) = (readChars text').map fun r => (c :: r.1, r.2) := by
  rw [readChars, if_neg (by decide), if_pos rfl]
  split
  · rename_i e he
    rw [h] at he
    cases he
  · rename_i d rest' hd
    rw [h] at hd
    cases hd
    cases readChars text' <;> rfl

/-- and else there is no string. -/
lemma readChars_malformed {text : List Char} {e : Fault} (h : readEscape text = .error e) :
    readChars ('\\' :: text) = .error e := by
  rw [readChars, if_neg (by decide), if_pos rfl]
  split
  · rename_i e' he
    rw [h] at he
    cases he
    rfl
  · rename_i d rest' hd
    rw [h] at hd
    cases hd

lemma readChars_plain {c : Char} {text : List Char} (hquote : c ≠ '"') (hbackslash : c ≠ '\\')
    (hcontrol : ¬ c.toNat < 0x20) :
    readChars (c :: text) = (readChars text).map fun r => (c :: r.1, r.2) := by
  rw [readChars, if_neg hquote, if_neg hbackslash, if_neg hcontrol]
  cases readChars text <;> rfl

lemma Spells.readChars_append {text cs : List Char} (h : Spells text cs) (rest : List Char) :
    readChars (text ++ '"' :: rest) = .ok (cs, rest) := by
  induction h with
  | nil => rw [List.nil_append, readChars, if_pos rfl]
  | plain hquote hbackslash hcontrol _ ih =>
    rw [List.cons_append, readChars_plain hquote hbackslash hcontrol, ih]
    rfl
  | escaped he _ ih =>
    rw [List.cons_append, List.append_assoc, readChars_backslash (he.readEscape_append _), ih]
    rfl

lemma Spells.readString_append {text : List Char} {s : String} (h : Spells text s.toList)
    (rest : List Char) : readString (text ++ '"' :: rest) = .ok (s, rest) := by
  rw [readString, h.readChars_append]
  simp

/-! ### What is skipped -/

/-- What may stand inside quotes. -/
inductive Quoted : List Char → Prop where
  | nil : Quoted []
  | plain {c : Char} {text : List Char} (hquote : c ≠ '"') (hbackslash : c ≠ '\\')
      (hcontrol : ¬ c.toNat < 0x20) (h : Quoted text) : Quoted (c :: text)
  | letter {e : Char} {text : List Char} (he : (unescape? e).isSome) (h : Quoted text) :
      Quoted ('\\' :: e :: text)
  | code {ds : List Char} {n : Nat} {text : List Char} (hn : Code ds n) (h : Quoted text) :
      Quoted ('\\' :: 'u' :: (ds ++ text))

lemma Quoted.skipString_append {text : List Char} (h : Quoted text) (rest : List Char) :
    skipString (text ++ '"' :: rest) = .ok rest := by
  induction h with
  | nil =>
    rw [List.nil_append, skipString.eq_def]
    simp only [if_true]
  | plain hquote hbackslash hcontrol _ ih =>
    rw [List.cons_append, skipString.eq_def]
    simp only [if_neg hquote, if_neg hbackslash, if_neg hcontrol, ih]
  | letter he _ ih =>
    rw [List.cons_append, List.cons_append, skipString.eq_def]
    simp only [if_neg (show ¬ '\\' = '"' by decide), if_true, if_neg (ne_of_unescape? he),
      if_pos he, ih]
  | @code ds n text hn _ ih =>
    rw [List.cons_append, List.cons_append, List.append_assoc, skipString.eq_def]
    simp only [if_neg (show ¬ '\\' = '"' by decide), if_true]
    have hhex := hn.readHex_append (text ++ '"' :: rest)
    split
    · rename_i e he
      rw [hhex] at he
      cases he
    · rename_i m rest' hrest
      rw [hhex] at hrest
      cases hrest
      exact ih

/-- What spells characters may stand inside quotes. -/
lemma Spells.quoted {text cs : List Char} (h : Spells text cs) : Quoted text := by
  induction h with
  | nil => exact .nil
  | plain hquote hbackslash hcontrol _ ih => exact .plain hquote hbackslash hcontrol ih
  | escaped he _ ih =>
    cases he with
    | letter he => exact .letter (by rw [he]; rfl) ih
    | code hn _ _ => exact .code hn ih
    | pair h h' _ _ =>
      rw [List.cons_append, List.append_assoc]
      exact .code h (.code h' ih)

/-! ### What is written -/

lemma hexValue?_hexDigit {d : Nat} (h : d < 16) : hexValue? (hexDigit d) = some d := by
  have : ∀ d, d < 16 → hexValue? (hexDigit d) = some d := by decide
  exact this d h

/-- A control is escaped by its number. -/
lemma escape_control {c : Char} (h : c.toNat < 0x20) :
    Escape ['u', '0', '0', hexDigit (c.toNat / 16), hexDigit (c.toNat % 16)] c := by
  have hcode : Code ['0', '0', hexDigit (c.toNat / 16), hexDigit (c.toNat % 16)] c.toNat := by
    have hvalue : ((0 * 16 + 0) * 16 + c.toNat / 16) * 16 + c.toNat % 16 = c.toNat := by omega
    have hdigits := Code.digits (show hexValue? '0' = some 0 from rfl)
      (show hexValue? '0' = some 0 from rfl) (hexValue?_hexDigit (show c.toNat / 16 < 16 by omega))
      (hexValue?_hexDigit (show c.toNat % 16 < 16 by omega))
    rwa [hvalue] at hdigits
  have hlow : isLowSurrogate c.toNat = false := by
    simp only [isLowSurrogate, Bool.and_eq_false_iff, decide_eq_false_iff_not]
    omega
  have hhigh : isHighSurrogate c.toNat = false := by
    simp only [isHighSurrogate, Bool.and_eq_false_iff, decide_eq_false_iff_not]
    omega
  have hescape := Escape.code hcode hlow hhigh
  rwa [Char.ofNat_toNat] at hescape

/-- A written character is spelled. -/
lemma Spells.escape_append (c : Char) {text cs : List Char} (h : Spells text cs) :
    Spells (escape c ++ text) (c :: cs) := by
  fun_cases escape c with
  | case1 | case2 | case3 | case4 | case5 | case6 | case7 => exact .escaped (.letter rfl) h
  | case8 c _ _ _ _ _ _ _ hcontrol => exact .escaped (escape_control hcontrol) h
  | case9 c hquote hbackslash _ _ _ _ _ hcontrol => exact .plain hquote hbackslash hcontrol h

/-- A written string spells its characters. -/
lemma spells_flatMap_escape (cs : List Char) : Spells (cs.flatMap escape) cs := by
  induction cs with
  | nil => exact .nil
  | cons c cs ih => exact ih.escape_append c

lemma writeString_append (text : String) (rest : List Char) :
    writeString text ++ rest = '"' :: (text.toList.flatMap escape ++ '"' :: rest) := by
  simp [writeString]

/-- Reading a string undoes writing it. -/
lemma readString_writeString (text : String) (rest : List Char) :
    readString (text.toList.flatMap escape ++ '"' :: rest) = .ok (text, rest) :=
  (spells_flatMap_escape text.toList).readString_append rest

end SipStills.Json
