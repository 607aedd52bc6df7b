/-
# Tokens and what stands around them

Between tokens there may be space (`Blank`), and behind a value only what may follow one (`Ends`).
With any such space the brackets, commas and colons of a text are found (`nextItem_eq`,
`nextKey_eq`), and natural numbers are read back from their written form, whatever stands behind it
that may follow a value (`readNumber_digits`).
-/
import Mathlib.Tactic.Lemma
import SipStills.Json.Reader

namespace SipStills.Json

/-! ### Space and what ends a value -/

/-- The text is at its end, or at a character that may follow a value: one that may stand behind it
in a list or an object, or space. -/
def Ends (text : List Char) : Prop :=
  ∀ c ∈ text.head?, isSpace c = true ∨ c = ',' ∨ c = ']' ∨ c = '\x7d'

lemma ends_nil : Ends [] := by simp [Ends]

lemma ends_cons {c : Char} (h : c = ',' ∨ c = ']' ∨ c = '\x7d') (text : List Char) :
    Ends (c :: text) := by
  intro d hd
  obtain rfl := Option.some.inj hd
  exact .inr h

/-- None of the characters that may follow a value is any other. -/
lemma ne_of_ends {c d : Char} {text : List Char} (h : Ends (c :: text))
    (hd : isSpace d = false ∧ d ≠ ',' ∧ d ≠ ']' ∧ d ≠ '\x7d') : c ≠ d := by
  rintro rfl
  rcases h c rfl with hc | rfl | rfl | rfl
  · exact absurd (hc.symm.trans hd.1) (by decide)
  · exact hd.2.1 rfl
  · exact hd.2.2.1 rfl
  · exact hd.2.2.2 rfl

lemma skipSpace_cons {c : Char} (h : isSpace c = false) (text : List Char) :
    skipSpace (c :: text) = c :: text :=
  List.dropWhile_cons_of_neg (by simp [h])

/-- Nothing but space. -/
def Blank (gap : List Char) : Prop := ∀ c ∈ gap, isSpace c = true

lemma blank_nil : Blank [] := fun _ h => absurd h List.not_mem_nil

/-- Space does not hide a token. -/
lemma Blank.skipSpace_append {gap : List Char} (h : Blank gap) (text : List Char) :
    skipSpace (gap ++ text) = skipSpace text :=
  List.dropWhile_append_of_pos h

lemma Blank.skipSpace_cons {gap : List Char} (h : Blank gap) {c : Char} (hc : isSpace c = false)
    (text : List Char) : skipSpace (gap ++ c :: text) = c :: text := by
  rw [h.skipSpace_append, Json.skipSpace_cons hc]

/-- What ends a value still does so behind space. -/
lemma Blank.ends_append {gap : List Char} (h : Blank gap) {text : List Char} (htext : Ends text) :
    Ends (gap ++ text) := by
  cases gap with
  | nil => exact htext
  | cons c gap =>
    intro d hd
    obtain rfl := Option.some.inj hd
    exact .inl (h c List.mem_cons_self)

/-- The text begins with a character that is no space and does not close a list. -/
def Opens (text : List Char) : Prop :=
  ∃ c rest, text = c :: rest ∧ isSpace c = false ∧ c ≠ ']'

lemma opens_cons {c : Char} (hspace : isSpace c = false) (hclose : c ≠ ']') (text : List Char) :
    Opens (c :: text) := ⟨c, text, rfl, hspace, hclose⟩

lemma Opens.append {text : List Char} (h : Opens text) (more : List Char) :
    Opens (text ++ more) := by
  obtain ⟨c, rest, rfl, hspace, hclose⟩ := h
  exact opens_cons hspace hclose (rest ++ more)

lemma Opens.skipSpace_eq {text : List Char} (h : Opens text) : skipSpace text = text := by
  obtain ⟨c, rest, rfl, hspace, -⟩ := h
  exact skipSpace_cons hspace rest

lemma Opens.length_pos {text : List Char} (h : Opens text) : 0 < text.length := by
  obtain ⟨c, rest, rfl, -, -⟩ := h
  exact Nat.succ_pos _

/-- What stands in front of an item or a member: only space in front of the first, a comma in front
of the others. -/
inductive Lead : Bool → List Char → Prop where
  | first {gap : List Char} (h : Blank gap) : Lead true gap
  | next {gap gap' : List Char} (h : Blank gap) (h' : Blank gap') :
      Lead false (gap ++ ',' :: gap')

lemma lead_comma (first : Bool) : Lead first (if first then [] else [',']) := by
  cases first with
  | true => exact .first blank_nil
  | false => exact .next blank_nil blank_nil

/-! ### Lists and objects -/

lemma nextItem_close (first : Bool) {gap : List Char} (hgap : Blank gap) (rest : List Char) :
    nextItem first (gap ++ ']' :: rest) = .ok none := by
  simp only [nextItem, hgap.skipSpace_cons (show isSpace ']' = false by decide), if_true]

lemma closeList_eq {gap : List Char} (hgap : Blank gap) (rest : List Char) :
    closeList (gap ++ ']' :: rest) = .ok ((), rest) := by
  simp only [closeList, hgap.skipSpace_cons (show isSpace ']' = false by decide), if_true]

/-- The next item is found behind its comma, if it has one. -/
lemma nextItem_eq {first : Bool} {lead : List Char} (hlead : Lead first lead) {text : List Char}
    (h : Opens text) : nextItem first (lead ++ text) = .ok (some text) := by
  obtain ⟨c, rest, rfl, hspace, hclose⟩ := h
  cases hlead with
  | first hgap =>
    simp only [nextItem, hgap.skipSpace_cons hspace, if_neg hclose, if_true]
  | next hgap hgap' =>
    simp only [nextItem, Bool.false_eq_true, if_false, List.append_assoc, List.cons_append,
      hgap.skipSpace_cons (show isSpace ',' = false by decide), hgap'.skipSpace_cons hspace,
      if_neg (show ¬ ',' = ']' by decide), if_true, if_neg hclose]

lemma nextKey_close (first : Bool) {gap : List Char} (hgap : Blank gap) (rest : List Char) :
    nextKey first (gap ++ '\x7d' :: rest) = .ok none := by
  simp only [nextKey, hgap.skipSpace_cons (show isSpace '\x7d' = false by decide), if_true]

lemma closeObject_eq {gap : List Char} (hgap : Blank gap) (rest : List Char) :
    closeObject (gap ++ '\x7d' :: rest) = .ok ((), rest) := by
  simp only [closeObject, hgap.skipSpace_cons (show isSpace '\x7d' = false by decide), if_true]

/-- The next key is found behind its comma, if it has one. -/
lemma nextKey_eq {first : Bool} {lead : List Char} (hlead : Lead first lead) (text : List Char) :
    nextKey first (lead ++ '"' :: text) = .ok (some text) := by
  have hquote : isSpace '"' = false := by decide
  cases hlead with
  | first hgap =>
    simp only [nextKey, hgap.skipSpace_cons hquote, if_neg (show ¬ '"' = '\x7d' by decide), if_true]
  | next hgap hgap' =>
    simp only [nextKey, Bool.false_eq_true, if_false, List.append_assoc, List.cons_append,
      hgap.skipSpace_cons (show isSpace ',' = false by decide), hgap'.skipSpace_cons hquote,
      if_neg (show ¬ ',' = '\x7d' by decide), if_true]

lemma colon_eq {gap : List Char} (hgap : Blank gap) (rest : List Char) :
    colon (gap ++ ':' :: rest) = .ok ((), rest) := by
  simp only [colon, hgap.skipSpace_cons (show isSpace ':' = false by decide), if_true]

/-! ### Numbers -/

lemma le_valueFrom (value : Nat) (ds : List Char) : value ≤ Text.valueFrom value ds := by
  induction ds generalizing value with
  | nil => exact Nat.le_refl _
  | cons d ds ih =>
    have := ih (value * 10 + Text.digitValue d)
    simp only [Text.valueFrom, List.foldl_cons] at this ⊢
    omega

/-- Digits whose number fits are all gathered. -/
lemma gather_eq (significand used : Nat) (ds : List Char)
    (h : Text.valueFrom significand ds ≤ maxSignificand) :
    gather significand used ds = (Text.valueFrom significand ds, used + ds.length, 0) := by
  induction ds generalizing significand used with
  | nil => rfl
  | cons d ds ih =>
    have hvalue : Text.valueFrom significand (d :: ds)
        = Text.valueFrom (significand * 10 + Text.digitValue d) ds := rfl
    rw [hvalue] at h ⊢
    have hnext := le_valueFrom (significand * 10 + Text.digitValue d) ds
    rw [gather, if_neg (by omega), ih _ _ h, List.length_cons]
    simp [Nat.add_comm, Nat.add_left_comm]

/-- The leading digit of a number other than zero is not zero. -/
lemma exists_digits_eq_cons (n : Nat) :
    ∃ d ds, Text.digits n = d :: ds ∧ Text.isDigit d = true ∧ (0 < n → d ≠ '0') := by
  have hzero : ∀ d, d < 10 → 0 < d → Text.digitChar d ≠ '0' := by decide
  induction n using Nat.strongRecOn with
  | ind n ih =>
    rw [Text.digits]
    split
    · rename_i hlt
      exact ⟨_, [], rfl, Text.isDigit_digitChar hlt, hzero n hlt⟩
    · obtain ⟨d, ds, hds, hdigit, hd⟩ := ih (n / 10) (by omega)
      refine ⟨d, ds ++ [Text.digitChar (n % 10)], ?_, hdigit, fun _ => hd (by omega)⟩
      rw [hds, List.cons_append]

lemma ne_of_isDigit {c d : Char} (h : Text.isDigit c = true) (hd : Text.isDigit d = false) :
    c ≠ d := by
  rintro rfl
  rw [h] at hd
  exact Bool.noConfusion hd

lemma isSpace_of_isDigit {c : Char} (h : Text.isDigit c = true) : isSpace c = false := by
  simp [isSpace, ne_of_isDigit h (d := ' ') rfl, ne_of_isDigit h (d := '\n') rfl,
    ne_of_isDigit h (d := '\t') rfl, ne_of_isDigit h (d := '\r') rfl]

/-- The text does not begin with a digit. -/
def Breaks (text : List Char) : Prop := ∀ c ∈ text.head?, ¬ Text.isDigit c = true

lemma breaks_cons {c : Char} (h : Text.isDigit c = false) (text : List Char) :
    Breaks (c :: text) := by
  intro d hd
  obtain rfl := Option.some.inj hd
  simp [h]

lemma Ends.breaks {text : List Char} (h : Ends text) : Breaks text := by
  intro c hc hdigit
  rcases h c hc with hspace | rfl | rfl | rfl
  · exact absurd (hspace.symm.trans (isSpace_of_isDigit hdigit)) (by decide)
  all_goals exact absurd hdigit (by decide)

lemma spanDigits_append {ds rest : List Char} (hall : ∀ d ∈ ds, Text.isDigit d = true)
    (hrest : Breaks rest) : spanDigits (ds ++ rest) = (ds, rest) := by
  have hbreak : rest.takeWhile Text.isDigit = [] ∧ rest.dropWhile Text.isDigit = rest := by
    cases rest with
    | nil => exact ⟨rfl, rfl⟩
    | cons c rest =>
      exact ⟨List.takeWhile_cons_of_neg (hrest c rfl), List.dropWhile_cons_of_neg (hrest c rfl)⟩
  rw [spanDigits, List.takeWhile_append_of_pos hall, List.dropWhile_append_of_pos hall, hbreak.1,
    hbreak.2, List.append_nil]

/-- What ends a value is not the mark of an exponent. -/
lemma not_mark_of_ends {c : Char} {rest : List Char} (h : Ends (c :: rest)) :
    ¬ (c = 'e' ∨ c = 'E') := by
  rintro (rfl | rfl)
  · exact ne_of_ends h (d := 'e') (by decide) rfl
  · exact ne_of_ends h (d := 'E') (by decide) rfl

/-- What ends a value does not go on with a number. -/
lemma readNumberEnd_of_ends (positive : Bool) (significand dropped : Nat) {rest : List Char}
    (h : Ends rest) :
    readNumberEnd positive significand dropped rest
      = if dropped = 0 then .ok (integerNumber positive significand, rest)
        else realNumber positive significand dropped rest := by
  cases rest with
  | nil => rfl
  | cons c rest =>
    have hpoint : c ≠ '.' := ne_of_ends h (by decide)
    simp [readNumberEnd, not_mark_of_ends h]

/-- Reading a number of sixty-four bits undoes writing it. -/
lemma readNumber_digits {n : Nat} (hn : n ≤ maxSignificand) {rest : List Char} (h : Ends rest) :
    readNumber true (Text.digits n ++ rest) = .ok (.nat n, rest) := by
  obtain ⟨d, ds, hds, hdigit, hd⟩ := exists_digits_eq_cons n
  rcases Nat.eq_zero_or_pos n with rfl | hpos
  · -- zero stands alone: no digit may follow it
    have hzero : Text.digits 0 = ['0'] := by
      rw [Text.digits]
      rfl
    rw [hzero, List.cons_append, List.nil_append]
    simp only [readNumber, if_true]
    cases rest with
    | nil => exact readNumberEnd_of_ends true 0 0 h
    | cons c rest =>
      dsimp only
      rw [if_neg (h.breaks c rfl)]
      exact readNumberEnd_of_ends true 0 0 h
  · have hvalue := Text.valueFrom_digits n
    have hspan := spanDigits_append (Text.isDigit_of_mem_digits n) h.breaks
    have hgather := gather_eq 0 0 (Text.digits n) (by rwa [hvalue])
    rw [hds, List.cons_append] at hspan ⊢
    simp only [readNumber, if_neg (hd hpos), if_pos hdigit, hspan]
    rw [← hds, hgather, hvalue]
    exact readNumberEnd_of_ends true n 0 h

end SipStills.Json
