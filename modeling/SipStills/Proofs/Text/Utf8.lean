/-
# Reading encoded text

The bytes of a text are read back as the text, strictly (`strict?_encode`) and leniently
(`lenient_encode`).  A text without the zero character has no zero among its bytes
(`zero_notMem_encode`), so that a zero can mark its end.

A character takes one to four bytes.  Each byte behind the first holds six bits of its number
(`follow_tailByte`), and the first says how many there are (`step_eq`).  With three and four bytes
it may narrow the range of the second, which keeps out overlong forms, surrogates and numbers beyond
the last code point; that the second byte of a character lies in that range is what the cases of
`step_utf8EncodeChar` come to.
-/
import Mathlib.Tactic.Lemma
import SipStills.Text.Utf8

namespace SipStills.Text.Utf8

/-- The byte behind the first that holds the low six bits of a number. -/
def tailByte (m : Nat) : UInt8 := UInt8.ofNat (m % 0x40 + 0x80)

lemma toNat_ofNat {n : Nat} (h : n < 256) : (UInt8.ofNat n).toNat = n :=
  UInt8.toNat_ofNat_of_lt' h

/-- A byte in the given range adds its six bits. -/
lemma follow_tailByte {low high : UInt8} {m : Nat} (hlow : low.toNat ≤ m % 64 + 128)
    (hhigh : m % 64 + 128 ≤ high.toNat) (value n : Nat) (bs : Bytes) :
    follow value low high (n + 1) (tailByte m :: bs)
      = follow (value * 64 + m % 64) 0x80 0xBF n bs := by
  have hbyte : (tailByte m).toNat = m % 64 + 128 := toNat_ofNat (by omega)
  have hrange : low ≤ tailByte m ∧ tailByte m ≤ high :=
    ⟨UInt8.le_iff_toNat_le.2 (by omega), UInt8.le_iff_toNat_le.2 (by omega)⟩
  rw [follow, if_pos hrange, hbyte, Nat.add_sub_cancel]

/-- The full range of a byte behind the first. -/
lemma tailByte_range (m : Nat) :
    UInt8.toNat 0x80 ≤ m % 64 + 128 ∧ m % 64 + 128 ≤ UInt8.toNat 0xBF := by
  simp only [UInt8.reduceToNat]
  omega

section Character

variable {c : Char} {value : Nat} {low high : UInt8} (rest : Bytes)

/-- The last byte completes the number of a character. -/
lemma follow_one (hvalue : value = c.toNat / 64) (hlow : low.toNat ≤ c.toNat % 64 + 128)
    (hhigh : c.toNat % 64 + 128 ≤ high.toNat) :
    follow value low high 1 (tailByte c.toNat :: rest) = (some c, rest) := by
  have hnumber : value * 64 + c.toNat % 64 = c.toNat := by omega
  rw [follow_tailByte hlow hhigh, follow, hnumber, Char.ofNat_toNat]

/-- The last two bytes do so, if the first of them is in its range. -/
lemma follow_two (hvalue : value = c.toNat / 4096) (hlow : low.toNat ≤ c.toNat / 64 % 64 + 128)
    (hhigh : c.toNat / 64 % 64 + 128 ≤ high.toNat) :
    follow value low high 2 (tailByte (c.toNat / 64) :: tailByte c.toNat :: rest)
      = (some c, rest) := by
  rw [follow_tailByte hlow hhigh]
  exact follow_one rest (by omega) (tailByte_range _).1 (tailByte_range _).2

/-- The last three bytes do so, if the first of them is in its range. -/
lemma follow_three (hvalue : value = c.toNat / 262144)
    (hlow : low.toNat ≤ c.toNat / 4096 % 64 + 128)
    (hhigh : c.toNat / 4096 % 64 + 128 ≤ high.toNat) :
    follow value low high 3
        (tailByte (c.toNat / 4096) :: tailByte (c.toNat / 64) :: tailByte c.toNat :: rest)
      = (some c, rest) := by
  rw [follow_tailByte hlow hhigh]
  exact follow_two rest (by omega) (tailByte_range _).1 (tailByte_range _).2

end Character

/-- What the first byte says, by its number. -/
lemma step_eq (b : UInt8) (bs : Bytes) :
    step b bs
      = if b.toNat < 0x80 then (some (Char.ofNat b.toNat), bs)
        else if b.toNat < 0xC2 then (none, bs)
        else if b.toNat < 0xE0 then follow (b.toNat - 0xC0) 0x80 0xBF 1 bs
        else if b.toNat = 0xE0 then follow 0 0xA0 0xBF 2 bs
        else if b.toNat = 0xED then follow 0xD 0x80 0x9F 2 bs
        else if b.toNat < 0xF0 then follow (b.toNat - 0xE0) 0x80 0xBF 2 bs
        else if b.toNat = 0xF0 then follow 0 0x90 0xBF 3 bs
        else if b.toNat < 0xF4 then follow (b.toNat - 0xF0) 0x80 0xBF 3 bs
        else if b.toNat = 0xF4 then follow 4 0x80 0x8F 3 bs
        else (none, bs) := by
  simp only [step, UInt8.lt_iff_toNat_lt, ← UInt8.toNat_inj, UInt8.reduceToNat]

/-- A character is read back from its bytes. -/
lemma step_utf8EncodeChar (c : Char) (rest : Bytes) :
    ∃ b bs, String.utf8EncodeChar c = b :: bs ∧ step b (bs ++ rest) = (some c, rest) := by
  have hvalid : c.toNat < 0xD800 ∨ 0xDFFF < c.toNat ∧ c.toNat < 0x110000 := c.valid
  have hval : c.val.toNat = c.toNat := rfl
  simp only [String.utf8EncodeChar, hval]
  split
  · -- one byte
    have hb : (UInt8.ofNat c.toNat).toNat = c.toNat := toNat_ofNat (by omega)
    refine ⟨_, [], rfl, ?_⟩
    rw [step_eq, hb, if_pos (by omega), Char.ofNat_toNat, List.nil_append]
  split
  · -- two bytes
    have hb : (UInt8.ofNat (c.toNat / 64 % 0x20 + 0xC0)).toNat = c.toNat / 64 % 32 + 192 :=
      toNat_ofNat (by omega)
    refine ⟨_, [tailByte c.toNat], rfl, ?_⟩
    rw [step_eq, hb, if_neg (by omega), if_neg (by omega), if_pos (by omega)]
    exact follow_one rest (by omega) (tailByte_range _).1 (tailByte_range _).2
  split
  · -- three bytes: behind `0xE0` no overlong form, behind `0xED` no surrogate
    have hb : (UInt8.ofNat (c.toNat / 4096 % 0x10 + 0xE0)).toNat = c.toNat / 4096 % 16 + 224 :=
      toNat_ofNat (by omega)
    refine ⟨_, [tailByte (c.toNat / 64), tailByte c.toNat], rfl, ?_⟩
    rw [step_eq, hb, if_neg (by omega), if_neg (by omega), if_neg (by omega)]
    by_cases hlowest : c.toNat / 4096 = 0
    · rw [if_pos (by omega)]
      refine follow_two rest (by omega) ?_ ?_ <;>
      · simp only [UInt8.reduceToNat]
        omega
    by_cases hsurrogate : c.toNat / 4096 = 13
    · rw [if_neg (by omega), if_pos (by omega)]
      refine follow_two rest (by omega) ?_ ?_ <;>
      · simp only [UInt8.reduceToNat]
        omega
    rw [if_neg (by omega), if_neg (by omega), if_pos (by omega)]
    exact follow_two rest (by omega) (tailByte_range _).1 (tailByte_range _).2
  · -- four bytes: behind `0xF0` no overlong form, behind `0xF4` nothing beyond the last code point
    have hb : (UInt8.ofNat (c.toNat / 262144 % 0x08 + 0xF0)).toNat = c.toNat / 262144 % 8 + 240 :=
      toNat_ofNat (by omega)
    refine ⟨_, [tailByte (c.toNat / 4096), tailByte (c.toNat / 64), tailByte c.toNat], rfl, ?_⟩
    rw [step_eq, hb, if_neg (by omega), if_neg (by omega), if_neg (by omega), if_neg (by omega),
      if_neg (by omega), if_neg (by omega)]
    by_cases hlowest : c.toNat / 262144 = 0
    · rw [if_pos (by omega)]
      refine follow_three rest (by omega) ?_ ?_ <;>
      · simp only [UInt8.reduceToNat]
        omega
    by_cases hhighest : c.toNat / 262144 = 4
    · rw [if_neg (by omega), if_neg (by omega), if_pos (by omega)]
      refine follow_three rest (by omega) ?_ ?_ <;>
      · simp only [UInt8.reduceToNat]
        omega
    rw [if_neg (by omega), if_pos (by omega)]
    exact follow_three rest (by omega) (tailByte_range _).1 (tailByte_range _).2

/-- The text without its first character is what is left when that character has been read. -/
lemma step_encode (c : Char) (text : List Char) :
    ∃ b bs, encode (c :: text) = b :: bs ∧ step b bs = (some c, encode text) := by
  obtain ⟨b, bs, hbytes, hstep⟩ := step_utf8EncodeChar c (encode text)
  refine ⟨b, bs ++ encode text, ?_, hstep⟩
  rw [encode, List.flatMap_cons, hbytes]
  rfl

/-- Strict reading undoes encoding. -/
lemma strict?_encode (text : List Char) : strict? (encode text) = some text := by
  induction text with
  | nil => rw [encode, List.flatMap_nil, strict?]
  | cons c text ih =>
    obtain ⟨b, bs, hbytes, hstep⟩ := step_encode c text
    rw [hbytes, strict?, hstep]
    dsimp only
    rw [ih]
    rfl

/-- Lenient reading undoes encoding as well: there is nothing to replace. -/
lemma lenient_encode (text : List Char) : lenient (encode text) = text := by
  induction text with
  | nil => rw [encode, List.flatMap_nil, lenient]
  | cons c text ih =>
    obtain ⟨b, bs, hbytes, hstep⟩ := step_encode c text
    rw [hbytes, lenient, hstep, ih]
    rfl

/-- A zero byte belongs to the zero character: no byte of another one is zero. -/
lemma zero_notMem_utf8EncodeChar {c : Char} (hc : c ≠ '\x00') :
    0 ∉ String.utf8EncodeChar c := by
  have hpos : 0 < c.toNat := by
    refine Nat.pos_of_ne_zero fun hzero => hc ?_
    rw [← Char.ofNat_toNat c, hzero]
  have hvalid : c.toNat < 0xD800 ∨ 0xDFFF < c.toNat ∧ c.toNat < 0x110000 := c.valid
  have hval : c.val.toNat = c.toNat := rfl
  have hne {n : Nat} (hn : 0 < n) (hlt : n < 256) : 0 ≠ UInt8.ofNat n := by
    intro heq
    have hnat := congrArg UInt8.toNat heq
    rw [toNat_ofNat hlt] at hnat
    exact Nat.ne_of_lt hn hnat
  simp only [String.utf8EncodeChar, hval]
  split
  · simpa using hne hpos (by omega)
  split
  · simp only [List.mem_cons, List.not_mem_nil, or_false, not_or]
    exact ⟨hne (by omega) (by omega), hne (by omega) (by omega)⟩
  split
  · simp only [List.mem_cons, List.not_mem_nil, or_false, not_or]
    exact ⟨hne (by omega) (by omega), hne (by omega) (by omega), hne (by omega) (by omega)⟩
  · simp only [List.mem_cons, List.not_mem_nil, or_false, not_or]
    exact ⟨hne (by omega) (by omega), hne (by omega) (by omega), hne (by omega) (by omega),
      hne (by omega) (by omega)⟩

lemma zero_notMem_encode {text : List Char} (htext : '\x00' ∉ text) : 0 ∉ encode text := by
  intro hmem
  obtain ⟨c, hc, hbyte⟩ := List.mem_flatMap.1 hmem
  exact zero_notMem_utf8EncodeChar (fun hzero => htext (hzero ▸ hc)) hbyte

end SipStills.Text.Utf8
