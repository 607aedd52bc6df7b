/-
# The texts of JSON values

`Value` is what a JSON text holds, without the space between its tokens: the characters of a number
or a string as they stand there, the items of a list, the members of an object in their order.
`Written` says which texts hold a value, with any space between the tokens and any spelling of the
keys.  What the writer makes of texts of values are texts of values again (`written_writeObject`).

Whatever the value, skipping it takes its whole text and nothing behind it
(`Written.skipValue_append`).
-/
import Mathlib.Data.List.Forall2
import SipStills.Proofs.Json.Formats

namespace SipStills.Json

/-! ### Numbers -/

/-- One digit or more. -/
def Digits (ds : List Char) : Prop := ds ≠ [] ∧ ∀ d ∈ ds, Text.isDigit d = true

/-- The integer part of a number: no digit stands behind a leading zero. -/
inductive Whole : List Char → Prop where
  | zero : Whole ['0']
  | digits {d : Char} {ds : List Char} (hd : d ≠ '0') (h : Digits (d :: ds)) : Whole (d :: ds)

/-- The fraction of a number, if it has one. -/
inductive Fraction : List Char → Prop where
  | none : Fraction []
  | some {ds : List Char} (h : Digits ds) : Fraction ('.' :: ds)

/-- The exponent of a number, if it has one. -/
inductive Exponent : List Char → Prop where
  | none : Exponent []
  | some {mark : Char} {sign ds : List Char} (hmark : mark = 'e' ∨ mark = 'E')
      (hsign : sign = [] ∨ sign = ['+'] ∨ sign = ['-']) (h : Digits ds) :
      Exponent (mark :: (sign ++ ds))

/-- A number behind its sign. -/
inductive Unsigned : List Char → Prop where
  | parts {whole fraction exponent : List Char} (hwhole : Whole whole)
      (hfraction : Fraction fraction) (hexponent : Exponent exponent) :
      Unsigned (whole ++ (fraction ++ exponent))

lemma Digits.skipDigits_append {ds : List Char} (h : Digits ds) {rest : List Char}
    (hrest : Breaks rest) : skipDigits (ds ++ rest) = .ok rest := by
  obtain ⟨hne, hall⟩ := h
  rw [skipDigits, spanDigits_append hall hrest]
  cases ds with
  | nil => exact absurd rfl hne
  | cons d ds => rfl

lemma Exponent.skipExponent_append {text : List Char} (h : Exponent text) {rest : List Char}
    (hrest : Ends rest) : skipExponent (text ++ rest) = .ok rest := by
  cases h with
  | none =>
    cases rest with
    | nil => rfl
    | cons c rest =>
      simp only [List.nil_append, skipExponent, if_neg (not_mark_of_ends hrest)]
  | @some mark sign ds hmark hsign h =>
    have hdigits := h.skipDigits_append hrest.breaks
    rw [List.cons_append, List.append_assoc]
    rcases hsign with rfl | rfl | rfl
    · -- without a sign the digits begin at once
      obtain ⟨hne, hall⟩ := h
      cases ds with
      | nil => exact absurd rfl hne
      | cons d ds =>
        have hd := hall d List.mem_cons_self
        have hsign : ¬ (d = '+' ∨ d = '-') := by
          rintro (rfl | rfl) <;> exact absurd hd (by decide)
        simpa only [skipExponent, if_pos hmark, List.nil_append, List.cons_append, if_neg hsign]
          using hdigits
    · simpa [skipExponent, hmark] using hdigits
    · simpa [skipExponent, hmark] using hdigits

/-- What may stand behind the digits of a number is no digit. -/
lemma Exponent.breaks {text : List Char} (h : Exponent text) {rest : List Char}
    (hrest : Ends rest) : Breaks (text ++ rest) := by
  cases h with
  | none => exact hrest.breaks
  | some hmark _ _ => rcases hmark with rfl | rfl <;> exact breaks_cons (by decide) _


/-- Skipping a number goes on behind its integer part: with the digits behind a point, -/
lemma Whole.skipNumber_point {text : List Char} (h : Whole text) {rest rest' : List Char}
    (hrest : skipDigits rest = .ok rest') :
    skipNumber (text ++ '.' :: rest) = skipExponent rest' := by
  cases h with
  | zero => simp [skipNumber, hrest, show Text.isDigit '.' = false by decide]
  | @digits d ds hd h =>
    have hskip := h.skipDigits_append (breaks_cons (by decide : Text.isDigit '.' = false) rest)
    rw [List.cons_append] at hskip ⊢
    simp [skipNumber, hd, hskip, hrest]

/-- and without a point with the exponent. -/
lemma Whole.skipNumber_append {text : List Char} (h : Whole text) {rest : List Char}
    (hbreaks : Breaks rest) (hpoint : ∀ more, rest ≠ '.' :: more) :
    skipNumber (text ++ rest) = skipExponent rest := by
  cases h with
  | zero =>
    cases rest with
    | nil => rfl
    | cons c rest =>
      have hc : c ≠ '.' := fun hc => hpoint rest (by rw [hc])
      simp [skipNumber, hbreaks c rfl]
  | @digits d ds hd h =>
    have hskip := h.skipDigits_append hbreaks
    rw [List.cons_append] at hskip ⊢
    simp [skipNumber, hd, hskip]

lemma Unsigned.skipNumber_append {text : List Char} (h : Unsigned text) {rest : List Char}
    (hrest : Ends rest) : skipNumber (text ++ rest) = .ok rest := by
  obtain ⟨hwhole, hfraction, hexponent⟩ := h
  have hbreaks := hexponent.breaks hrest
  have hskip := hexponent.skipExponent_append hrest
  rw [List.append_assoc, List.append_assoc]
  cases hfraction with
  | some h =>
    rw [List.cons_append, hwhole.skipNumber_point (h.skipDigits_append hbreaks), hskip]
  | none =>
    rw [List.nil_append, hwhole.skipNumber_append hbreaks, hskip]
    rintro more heq
    cases hexponent with
    | none =>
      rw [List.nil_append] at heq
      subst heq
      exact ne_of_ends hrest (d := '.') (by decide) rfl
    | some hmark _ _ =>
      obtain rfl := (List.cons.inj heq).1
      exact absurd hmark (by decide)

/-! ### Values -/

/-- What a JSON text holds. -/
inductive Value where
  | null
  | bool (value : Bool)
  /-- A number, with the characters it is written with. -/
  | number (text : List Char)
  /-- A string, with what stands inside its quotes. -/
  | string (text : List Char)
  | list (items : List Value)
  /-- An object, whose members are in the order of the text; a name may be there more than once. -/
  | object (members : List (String × Value))

/-- The parts of a text: a value, or what stands behind an opening bracket or a part of a list or an
object, up to and with the closing bracket. -/
inductive Part where
  | value (v : Value)
  | items (first : Bool) (items : List Value)
  | members (first : Bool) (members : List (String × Value))

/-- The part is written this way. -/
inductive Written : Part → List Char → Prop where
  | null : Written (.value .null) ['n', 'u', 'l', 'l']
  | yes : Written (.value (.bool true)) ['t', 'r', 'u', 'e']
  | no : Written (.value (.bool false)) ['f', 'a', 'l', 's', 'e']
  | positive {text : List Char} (h : Unsigned text) : Written (.value (.number text)) text
  | negative {text : List Char} (h : Unsigned text) :
      Written (.value (.number ('-' :: text))) ('-' :: text)
  | string {text : List Char} (h : Quoted text) :
      Written (.value (.string text)) ('"' :: (text ++ ['"']))
  | list {vs : List Value} {text : List Char} (h : Written (.items true vs) text) :
      Written (.value (.list vs)) ('[' :: text)
  | object {ms : List (String × Value)} {text : List Char} (h : Written (.members true ms) text) :
      Written (.value (.object ms)) ('\x7b' :: text)
  | lastItem (first : Bool) {gap : List Char} (hgap : Blank gap) :
      Written (.items first []) (gap ++ [']'])
  | item {first : Bool} {v : Value} {vs : List Value} {lead text more : List Char}
      (hlead : Lead first lead) (hvalue : Written (.value v) text)
      (hmore : Written (.items false vs) more) :
      Written (.items first (v :: vs)) (lead ++ (text ++ more))
  | lastMember (first : Bool) {gap : List Char} (hgap : Blank gap) :
      Written (.members first []) (gap ++ ['\x7d'])
  | member {first : Bool} {key : String} {v : Value} {ms : List (String × Value)}
      {lead name gap gap' text more : List Char} (hlead : Lead first lead)
      (hname : Spells name key.toList) (hgap : Blank gap) (hgap' : Blank gap')
      (hvalue : Written (.value v) text) (hmore : Written (.members false ms) more) :
      Written (.members first ((key, v) :: ms))
        (lead ++ '"' :: (name ++ '"' :: (gap ++ ':' :: (gap' ++ (text ++ more)))))

/-! ### What is written -/

/-- The string that is written for a text. -/
def Value.quote (s : String) : Value := .string (s.toList.flatMap escape)

lemma written_writeString (s : String) : Written (.value (.quote s)) (writeString s) :=
  .string (spells_flatMap_escape s.toList).quoted

lemma written_digits (n : Nat) : Written (.value (.number (Text.digits n))) (Text.digits n) := by
  have hall := Text.isDigit_of_mem_digits n
  obtain ⟨d, ds, hds, -, hd⟩ := exists_digits_eq_cons n
  have hwhole : Whole (Text.digits n) := by
    rcases Nat.eq_zero_or_pos n with rfl | hpos
    · rw [Text.digits]
      exact .zero
    · rw [hds] at hall ⊢
      exact .digits (hd hpos) ⟨List.cons_ne_nil d ds, hall⟩
  have hnumber := Unsigned.parts hwhole .none .none
  rw [List.append_nil, List.append_nil] at hnumber
  exact .positive hnumber

lemma written_items {vs : List Value} {texts : List (List Char)}
    (h : List.Forall₂ (fun v text => Written (.value v) text) vs texts) (first : Bool) :
    Written (.items first vs) (itemsText first texts ++ [']']) := by
  induction h generalizing first with
  | nil => exact .lastItem first blank_nil
  | cons hvalue _ ih =>
    rw [itemsText, List.append_assoc, List.append_assoc]
    exact .item (lead_comma first) hvalue (ih false)

/-- Texts of values make the text of their list. -/
lemma written_writeList {vs : List Value} {texts : List (List Char)}
    (h : List.Forall₂ (fun v text => Written (.value v) text) vs texts) :
    Written (.value (.list vs)) (writeList texts) := by
  rw [writeList, separated_eq]
  exact .list (written_items h true)

/-- A member and a name with the text of a value. -/
inductive WrittenMember : String × Value → String × List Char → Prop where
  | mk (key : String) {v : Value} {text : List Char} (h : Written (.value v) text) :
      WrittenMember (key, v) (key, text)

lemma written_members {ms : List (String × Value)} {texts : List (String × List Char)}
    (h : List.Forall₂ WrittenMember ms texts) (first : Bool) :
    Written (.members first ms) (itemsText first (texts.map writeMember) ++ ['\x7d']) := by
  induction h generalizing first with
  | nil => exact .lastMember first blank_nil
  | @cons m text ms texts hmember _ ih =>
    obtain ⟨key, hvalue⟩ := hmember
    have hmember := Written.member (lead_comma first) (spells_flatMap_escape key.toList) blank_nil
      blank_nil hvalue (ih false)
    rw [List.map_cons, itemsText, writeMember, writeString_append, List.append_assoc,
      List.append_assoc, List.cons_append, List.append_assoc, List.cons_append, List.cons_append]
    exact hmember

/-- Names and texts of values make the text of an object. -/
lemma written_writeObject {ms : List (String × Value)} {texts : List (String × List Char)}
    (h : List.Forall₂ WrittenMember ms texts) :
    Written (.value (.object ms)) (writeObject texts) := by
  rw [writeObject, separated_eq]
  exact .object (written_members h true)

/-! ### Skipping -/

/-- An integer part begins with a digit. -/
lemma Unsigned.exists_eq_cons {text : List Char} (h : Unsigned text) :
    ∃ d ds, text = d :: ds ∧ Text.isDigit d = true := by
  obtain ⟨hwhole, -, -⟩ := h
  cases hwhole with
  | zero => exact ⟨_, _, rfl, by decide⟩
  | digits _ h => exact ⟨_, _, rfl, h.2 _ List.mem_cons_self⟩

/-- The text of a value begins with its first token. -/
lemma Written.opens {v : Value} {text : List Char} (h : Written (.value v) text) : Opens text := by
  cases h with
  | null | yes | no | negative | string | list | object =>
    exact opens_cons (by decide) (by decide) _
  | positive h =>
    obtain ⟨d, ds, rfl, hd⟩ := h.exists_eq_cons
    exact opens_cons (isSpace_of_isDigit hd) (ne_of_isDigit hd (by decide)) ds

/-- A number is written with its own characters. -/
lemma Written.eq_of_number {number text : List Char} (h : Written (.value (.number number)) text) :
    text = number := by
  generalize hpart : Part.value (.number number) = part at h
  cases h with
  | positive | negative => simpa using hpart.symm
  | _ => simp at hpart

/-- Only `null` begins as it does. -/
lemma Written.ne_null {v : Value} {text : List Char} (h : Written (.value v) text)
    (hv : v ≠ .null) (rest more : List Char) : text ++ rest ≠ 'n' :: more := by
  intro heq
  cases h with
  | null => exact hv rfl
  | positive h =>
    obtain ⟨d, ds, rfl, hd⟩ := h.exists_eq_cons
    exact ne_of_isDigit hd (by decide) (List.cons.inj heq).1
  | _ => exact absurd (List.cons.inj heq).1 (by decide)

/-- No part is written with nothing. -/
lemma Written.length_pos {part : Part} {text : List Char} (h : Written part text) :
    0 < text.length := by
  cases h with
  | null | yes | no | negative | string | list | object => exact Nat.succ_pos _
  | positive h => exact (Written.positive h).opens.length_pos
  | lastItem | lastMember | member =>
    simp only [List.length_append, List.length_cons]
    omega
  | item _ hvalue _ =>
    have := hvalue.opens.length_pos
    simp only [List.length_append]
    omega

lemma skipValueWith_gap {gap : List Char} (hgap : Blank gap) (fuel : Nat) (text : List Char) :
    skipValueWith fuel (gap ++ text) = skipValueWith fuel text := by
  cases fuel with
  | zero => rfl
  | succ fuel => simp only [skipValueWith, hgap.skipSpace_append]

/-- A value that begins with a digit is skipped as a number. -/
lemma skipValueWith_digit {d : Char} (hd : Text.isDigit d = true) (fuel : Nat) (text : List Char) :
    skipValueWith (fuel + 1) (d :: text) = skipNumber (d :: text) := by
  simp only [skipValueWith, skipSpace_cons (isSpace_of_isDigit hd),
    if_neg (ne_of_isDigit hd (show Text.isDigit 'n' = false by decide)),
    if_neg (ne_of_isDigit hd (show Text.isDigit 't' = false by decide)),
    if_neg (ne_of_isDigit hd (show Text.isDigit 'f' = false by decide)),
    if_neg (ne_of_isDigit hd (show Text.isDigit '-' = false by decide)), if_pos hd]

/-- Fuel for the text of a part is there for a first step. -/
lemma Written.fuel_eq {part : Part} {text : List Char} (h : Written part text) {fuel : Nat}
    (hfuel : text.length ≤ fuel) : ∃ n, fuel = n + 1 :=
  Nat.exists_eq_succ_of_ne_zero (Nat.ne_of_gt (Nat.lt_of_lt_of_le h.length_pos hfuel))

/-- Skipping the part takes its text and nothing behind it, with fuel for each of its characters. -/
def Part.Skips : Part → List Char → Prop
  | .value _, text => ∀ {fuel : Nat} {rest : List Char}, text.length ≤ fuel + 1 → Ends rest →
      skipValueWith (fuel + 1) (text ++ rest) = .ok rest
  | .items first _, text => ∀ {fuel : Nat} {rest : List Char}, text.length ≤ fuel + 1 →
      skipItemsWith (fuel + 1) first (text ++ rest) = .ok rest
  | .members first _, text => ∀ {fuel : Nat} {rest : List Char}, text.length ≤ fuel + 1 →
      skipMembersWith (fuel + 1) first (text ++ rest) = .ok rest

/-- What stands behind an item or a member may follow a value. -/
lemma Written.ends {part : Part} {text : List Char} (h : Written part text)
    (hpart : (∃ vs, part = .items false vs) ∨ ∃ ms, part = .members false ms)
    (rest : List Char) : Ends (text ++ rest) := by
  cases h with
  | lastItem _ hgap =>
    rw [List.append_assoc]
    exact hgap.ends_append (ends_cons (.inr (.inl rfl)) _)
  | lastMember _ hgap =>
    rw [List.append_assoc]
    exact hgap.ends_append (ends_cons (.inr (.inr rfl)) _)
  | item hlead _ _ =>
    cases hlead with
    | first => simp at hpart
    | next hgap hgap' =>
      rw [List.append_assoc, List.append_assoc]
      exact hgap.ends_append (ends_cons (.inl rfl) _)
  | member hlead _ _ _ _ _ =>
    cases hlead with
    | first => simp at hpart
    | next hgap hgap' =>
      rw [List.append_assoc, List.append_assoc]
      exact hgap.ends_append (ends_cons (.inl rfl) _)
  | _ => simp at hpart

lemma Written.skips {part : Part} {text : List Char} (h : Written part text) :
    part.Skips text := by
  induction h with
  | null | yes | no => exact fun _ _ => rfl
  | @positive text h =>
    intro fuel rest _ hrest
    have hskip := h.skipNumber_append hrest
    obtain ⟨d, ds, rfl, hd⟩ := h.exists_eq_cons
    rw [List.cons_append] at hskip ⊢
    rw [skipValueWith_digit hd, hskip]
  | negative h => exact fun _ hrest => h.skipNumber_append hrest
  | @string text h =>
    intro fuel rest _ _
    have hskip := h.skipString_append rest
    rw [List.cons_append, List.append_assoc]
    exact hskip
  | list h ih =>
    intro fuel rest hfuel _
    obtain ⟨fuel, rfl⟩ := h.fuel_eq (Nat.le_of_succ_le_succ hfuel)
    exact ih (Nat.le_of_succ_le_succ hfuel)
  | object h ih =>
    intro fuel rest hfuel _
    obtain ⟨fuel, rfl⟩ := h.fuel_eq (Nat.le_of_succ_le_succ hfuel)
    exact ih (Nat.le_of_succ_le_succ hfuel)
  | lastItem first hgap =>
    intro fuel rest _
    rw [List.append_assoc, List.cons_append, List.nil_append]
    simp only [skipItemsWith, nextItem_close first hgap, closeList_eq hgap]
    rfl
  | lastMember first hgap =>
    intro fuel rest _
    rw [List.append_assoc, List.cons_append, List.nil_append]
    simp only [skipMembersWith, nextKey_close first hgap, closeObject_eq hgap]
    rfl
  | @item first v vs lead text more hlead hvalue hmore ihvalue ihmore =>
    intro fuel rest hfuel
    have hpos := hvalue.length_pos
    have hmorepos := hmore.length_pos
    simp only [List.length_append] at hfuel
    obtain ⟨fuel, rfl⟩ := hvalue.fuel_eq (show text.length ≤ fuel by omega)
    have hnext := nextItem_eq hlead (hvalue.opens.append (more ++ rest))
    have hskip := ihvalue (show text.length ≤ fuel + 1 by omega) (hmore.ends (.inl ⟨vs, rfl⟩) rest)
    rw [List.append_assoc, List.append_assoc]
    simp only [skipItemsWith, hnext, hskip]
    exact ihmore (by omega)
  | @member first key v ms lead name gap gap' text more hlead hname hgap hgap' hvalue hmore
      ihvalue ihmore =>
    intro fuel rest hfuel
    have hpos := hvalue.length_pos
    have hmorepos := hmore.length_pos
    simp only [List.length_append, List.length_cons] at hfuel
    obtain ⟨fuel, rfl⟩ := hvalue.fuel_eq (show text.length ≤ fuel by omega)
    have hskip := ihvalue (show text.length ≤ fuel + 1 by omega) (hmore.ends (.inr ⟨ms, rfl⟩) rest)
    simp only [List.append_assoc, List.cons_append, skipMembersWith, nextKey_eq hlead,
      hname.quoted.skipString_append, colon_eq hgap, skipValueWith_gap hgap', hskip]
    exact ihmore (by omega)

/-- Skipping a value takes its text and nothing behind it. -/
lemma Written.skipValue_append {v : Value} {gap text rest : List Char} (hgap : Blank gap)
    (h : Written (.value v) text) (hrest : Ends rest) :
    skipValue (gap ++ (text ++ rest)) = .ok rest := by
  rw [skipValue, skipValueWith_gap hgap]
  apply h.skips _ hrest
  simp only [List.length_append]
  omega

/-- The text holds the value and nothing else. -/
inductive Value.Text (v : Value) : List Char → Prop where
  | mk {gap gap' text : List Char} (hgap : Blank gap) (hgap' : Blank gap')
      (h : Written (.value v) text) : Value.Text v (gap ++ (text ++ gap'))

end SipStills.Json
