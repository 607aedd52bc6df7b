/-
# Reading numbers and strings of any kind

Whatever follows a number or a string, reading it comes to one and the same answer, and stops where
the number or the string does (`Steady`).  That is shown along the grammar: for a number of its
integer part, its fraction and its exponent (`Unsigned.steady`), and for a string of its characters
(`Quoted.steady`), which may be refused for a surrogate without its partner.
-/
import SipStills.Proofs.Json.Grammar

namespace SipStills.Json

variable {α β : Type}

/-- Reading came to the given answer and the rest of the text, or to a fault if there is none. -/
def Yields (outcome : Except Fault (α × List Char)) (rest : List Char) : Option α → Prop
  | some a => outcome = .ok (a, rest)
  | none => ∃ e, outcome = .error e

@[simp] lemma yields_some {outcome : Except Fault (α × List Char)} {rest : List Char} {a : α} :
    Yields outcome rest (some a) ↔ outcome = .ok (a, rest) := Iff.rfl

@[simp] lemma yields_none {outcome : Except Fault (α × List Char)} {rest : List Char} :
    Yields outcome rest none ↔ ∃ e, outcome = .error e := Iff.rfl

lemma Yields.map {outcome : Except Fault (α × List Char)} {rest : List Char} {answer : Option α}
    (h : Yields outcome rest answer) (f : α → β) :
    Yields (outcome.map fun r => (f r.1, r.2)) rest (answer.map f) := by
  cases answer with
  | none =>
    obtain ⟨e, rfl⟩ := h
    exact ⟨e, rfl⟩
  | some a =>
    rw [yields_some] at h
    subst h
    rfl

/-- Reading comes to the same answer whatever follows. -/
def Steady (read : Reader α) : Prop := ∃ answer, ∀ rest, Ends rest → Yields (read rest) rest answer

lemma steady_of_error {read : Reader α} (h : ∀ rest, Ends rest → ∃ e, read rest = .error e) :
    Steady read := ⟨none, h⟩

lemma Steady.of_map {read : Reader α} {read' : Reader β} (h : Steady read) (f : α → β)
    (hread : ∀ rest, read' rest = (read rest).map fun r => (f r.1, r.2)) : Steady read' := by
  obtain ⟨answer, hanswer⟩ := h
  refine ⟨answer.map f, fun rest hrest => ?_⟩
  rw [hread]
  exact (hanswer rest hrest).map f

/-- Reads a value that is then checked. -/
def Reader.checked (read : Reader α) (check : α → Except Fault β) : Reader β := fun text =>
  match read text with
  | .error e => .error e
  | .ok (a, rest) =>
    match check a with
    | .error e => .error e
    | .ok b => .ok (b, rest)

lemma Steady.checked {read : Reader α} {f : List Char → List Char}
    (h : Steady fun rest => read (f rest)) (check : α → Except Fault β) :
    Steady fun rest => Reader.checked read check (f rest) := by
  obtain ⟨answer, hanswer⟩ := h
  cases answer with
  | none =>
    refine steady_of_error fun rest hrest => ?_
    obtain ⟨e, hread⟩ := hanswer rest hrest
    exact ⟨e, by simp only [Reader.checked, hread]⟩
  | some a =>
    have hread {rest : List Char} (hrest : Ends rest) : read (f rest) = .ok (a, rest) :=
      hanswer rest hrest
    cases hcheck : check a with
    | error e =>
      exact steady_of_error fun rest hrest =>
        ⟨e, by simp only [Reader.checked, hread hrest, hcheck]⟩
    | ok b =>
      exact ⟨some b, fun rest hrest => by
        simp only [Reader.checked, hread hrest, hcheck, yields_some]⟩

/-! ### Numbers -/

section Number

variable (positive : Bool) (significand : Nat) (exponent : Int)

lemma steady_realNumber : Steady (realNumber positive significand exponent) := by
  unfold realNumber
  cases scaled? significand exponent with
  | none => exact ⟨none, fun _ _ => ⟨_, rfl⟩⟩
  | some x => exact ⟨some _, fun _ _ => rfl⟩

/-- An exponent moves the point, as far as its digits say. -/
lemma exists_readExponent_eq {sign ds : List Char}
    (hsign : sign = [] ∨ sign = ['+'] ∨ sign = ['-']) (hds : Digits ds) :
    ∃ moved, ∀ rest, Ends rest →
      readExponent positive significand exponent (sign ++ (ds ++ rest))
        = realNumber positive significand moved rest := by
  obtain ⟨hne, hall⟩ := hds
  obtain ⟨d, ds, rfl⟩ := List.exists_cons_of_ne_nil hne
  have hd := hall d List.mem_cons_self
  have hspan {rest : List Char} (hrest : Ends rest) :
      spanDigits (d :: (ds ++ rest)) = (d :: ds, rest) := spanDigits_append hall hrest.breaks
  rcases hsign with rfl | rfl | rfl
  · refine ⟨exponent + Text.valueFrom 0 (d :: ds), fun rest hrest => ?_⟩
    have hplus := ne_of_isDigit hd (show Text.isDigit '+' = false by decide)
    have hminus := ne_of_isDigit hd (show Text.isDigit '-' = false by decide)
    simp [readExponent, hplus, hminus, hd, hspan hrest]
  · refine ⟨exponent + Text.valueFrom 0 (d :: ds), fun rest hrest => ?_⟩
    simp [readExponent, hd, hspan hrest]
  · refine ⟨exponent - Text.valueFrom 0 (d :: ds), fun rest hrest => ?_⟩
    simp [readExponent, hd, hspan hrest]

lemma Exponent.steady {text : List Char} (h : Exponent text) :
    Steady fun rest => readRealEnd positive significand exponent (text ++ rest) := by
  cases h with
  | none =>
    obtain ⟨answer, hanswer⟩ := steady_realNumber positive significand exponent
    refine ⟨answer, fun rest hrest => ?_⟩
    have hread : readRealEnd positive significand exponent rest
        = realNumber positive significand exponent rest := by
      cases rest with
      | nil => rfl
      | cons c rest => simp [readRealEnd, not_mark_of_ends hrest]
    simp only [List.nil_append, hread]
    exact hanswer rest hrest
  | some hmark hsign hds =>
    obtain ⟨moved, hread⟩ := exists_readExponent_eq positive significand exponent hsign hds
    obtain ⟨answer, hanswer⟩ := steady_realNumber positive significand moved
    refine ⟨answer, fun rest hrest => ?_⟩
    simp only [List.cons_append, List.append_assoc, readRealEnd, if_pos hmark, hread rest hrest]
    exact hanswer rest hrest

variable (dropped : Nat)

/-- What follows the digits in front of the point. -/
lemma Fraction.steady {text exponent : List Char} (h : Fraction text)
    (hexponent : Exponent exponent) :
    Steady fun rest => readNumberEnd positive significand dropped (text ++ (exponent ++ rest)) := by
  cases h with
  | @some ds hds =>
    obtain ⟨hne, hall⟩ := hds
    obtain ⟨d, ds, rfl⟩ := List.exists_cons_of_ne_nil hne
    rcases hgather : gather significand 0 (d :: ds) with ⟨kept, used, lost⟩
    obtain ⟨answer, hanswer⟩ := hexponent.steady positive kept (dropped - used)
    refine ⟨answer, fun rest hrest => ?_⟩
    have hspan := spanDigits_append hall (hexponent.breaks hrest)
    rw [List.cons_append] at hspan
    simp only [List.cons_append, readNumberEnd, readFraction, hspan, hgather]
    exact hanswer rest hrest
  | none =>
    cases hexponent with
    | none =>
      obtain ⟨answer, hanswer⟩ := steady_realNumber positive significand dropped
      by_cases hdropped : dropped = 0
      · refine ⟨.some (integerNumber positive significand), fun rest hrest => ?_⟩
        simp [readNumberEnd_of_ends _ _ _ hrest, hdropped]
      · refine ⟨answer, fun rest hrest => ?_⟩
        simp only [List.nil_append, readNumberEnd_of_ends _ _ _ hrest, if_neg hdropped]
        exact hanswer rest hrest
    | @some mark sign ds hmark hsign hds =>
      obtain ⟨moved, hread⟩ := exists_readExponent_eq positive significand dropped hsign hds
      obtain ⟨answer, hanswer⟩ := steady_realNumber positive significand moved
      refine ⟨answer, fun rest hrest => ?_⟩
      have hpoint : mark ≠ '.' := by
        rintro rfl
        exact absurd hmark (by decide)
      simp only [List.nil_append, List.cons_append, List.append_assoc, readNumberEnd, if_pos hmark,
        hread rest hrest]
      exact hanswer rest hrest

lemma Unsigned.steady {text : List Char} (h : Unsigned text) :
    Steady fun rest => readNumber positive (text ++ rest) := by
  obtain @⟨whole, fraction, exponent, hwhole, hfraction, hexponent⟩ := h
  have hbreaks {rest : List Char} (hrest : Ends rest) :
      Breaks (fraction ++ (exponent ++ rest)) := by
    cases hfraction with
    | none => exact hexponent.breaks hrest
    | some _ => exact breaks_cons (by decide) _
  cases hwhole with
  | zero =>
    obtain ⟨answer, hanswer⟩ := hfraction.steady positive 0 0 hexponent
    refine ⟨answer, fun rest hrest => ?_⟩
    have hnext := hbreaks hrest
    have hread : Yields (readNumberEnd positive 0 0 (fraction ++ (exponent ++ rest))) rest answer :=
      hanswer rest hrest
    simp only [List.append_assoc, List.cons_append, List.nil_append, readNumber, if_true]
    cases hmore : fraction ++ (exponent ++ rest) with
    | nil => simpa only [hmore] using hread
    | cons c more => simpa only [hmore, if_neg (hnext c (by rw [hmore]; rfl))] using hread
  | @digits d ds hd hds =>
    rcases hgather : gather 0 0 (d :: ds) with ⟨kept, used, lost⟩
    obtain ⟨answer, hanswer⟩ := hfraction.steady positive kept lost hexponent
    refine ⟨answer, fun rest hrest => ?_⟩
    have hspan := spanDigits_append hds.2 (hbreaks hrest)
    rw [List.cons_append] at hspan
    simp only [List.append_assoc, List.cons_append, readNumber, if_neg hd,
      if_pos (hds.2 d List.mem_cons_self), hspan, hgather]
    exact hanswer rest hrest

end Number

/-! ### Strings -/

/-- The first half of a pair of surrogates needs a backslash behind it, -/
lemma readLowSurrogate_plain {c : Char} (h : c ≠ '\\') (high : Nat) (text : List Char) :
    readLowSurrogate high (c :: text) = .error .malformed := by
  unfold readLowSurrogate
  split <;> simp_all

/-- and a code behind that. -/
lemma readLowSurrogate_letter {e : Char} (h : e ≠ 'u') (high : Nat) (text : List Char) :
    readLowSurrogate high ('\\' :: e :: text) = .error .malformed := by
  unfold readLowSurrogate
  split <;> simp_all

/-- A code is read as the character of its number, or together with the code behind it. -/
lemma Quoted.steady_code {ds text : List Char} {n : Nat} (hn : Code ds n) (h : Quoted text)
    (ih : ∀ more : List Char, more.length ≤ text.length → Quoted more →
      Steady fun rest => readChars (more ++ '"' :: rest)) :
    Steady fun rest => readChars ('\\' :: 'u' :: (ds ++ (text ++ '"' :: rest))) := by
  cases hlow : isLowSurrogate n with
  | true =>
    refine steady_of_error fun rest _ => ⟨.malformed, readChars_malformed ?_⟩
    simp [readEscape, readCodePoint, hn.readHex_append, hlow]
  | false =>
    cases hhigh : isHighSurrogate n with
    | false =>
      exact (ih text (Nat.le_refl _) h).of_map (Char.ofNat n :: ·) fun rest =>
        readChars_backslash ((Escape.code hn hlow hhigh).readEscape_append _)
    | true =>
      have hcode (more : List Char) :
          readEscape ('u' :: (ds ++ more)) = readLowSurrogate n more := by
        simp [readEscape, readCodePoint, hn.readHex_append, hlow, hhigh]
      cases h with
      | nil =>
        refine steady_of_error fun rest _ => ⟨.malformed, readChars_malformed ?_⟩
        rw [hcode]
        exact readLowSurrogate_plain (by decide) n rest
      | plain _ hbackslash _ _ =>
        refine steady_of_error fun rest _ => ⟨.malformed, readChars_malformed ?_⟩
        rw [hcode]
        exact readLowSurrogate_plain hbackslash n _
      | letter he _ =>
        refine steady_of_error fun rest _ => ⟨.malformed, readChars_malformed ?_⟩
        rw [hcode]
        exact readLowSurrogate_letter (ne_of_unescape? he) n _
      | @code ds' low text hn' h =>
        cases hpair : isLowSurrogate low with
        | false =>
          refine steady_of_error fun rest _ => ⟨.malformed, readChars_malformed ?_⟩
          rw [hcode]
          simp [readLowSurrogate, hn'.readHex_append, hpair]
        | true =>
          have hread (rest : List Char) :
              readEscape ('u' :: (ds ++ ('\\' :: 'u' :: (ds' ++ text) ++ '"' :: rest)))
                = .ok (Char.ofNat ((n - 0xD800) * 0x400 + (low - 0xDC00) + 0x10000),
                    text ++ '"' :: rest) := by
            rw [hcode]
            simp [readLowSurrogate, hn'.readHex_append, hpair]
          have hshort : text.length ≤ ('\\' :: 'u' :: (ds' ++ text)).length := by
            simp only [List.length_cons, List.length_append]
            omega
          exact (ih text hshort h).of_map (_ :: ·) fun rest => readChars_backslash (hread rest)

/-- What may stand inside quotes is read to its closing quote, or refused. -/
lemma Quoted.steady {text : List Char} (h : Quoted text) :
    Steady fun rest => readChars (text ++ '"' :: rest) := by
  induction hlength : text.length using Nat.strongRecOn generalizing text with
  | ind n ih =>
    subst hlength
    cases h with
    | nil =>
      refine ⟨some [], fun rest _ => ?_⟩
      simp [readChars]
    | plain hquote hbackslash hcontrol h =>
      exact (ih _ (Nat.lt_succ_self _) h rfl).of_map (_ :: ·) fun rest =>
        readChars_plain hquote hbackslash hcontrol
    | @letter e text he h =>
      obtain ⟨c, hc⟩ := Option.isSome_iff_exists.1 he
      have hshort : text.length < ('\\' :: e :: text).length := by
        simp only [List.length_cons]
        omega
      exact (ih _ hshort h rfl).of_map (c :: ·) fun rest =>
        readChars_backslash ((Escape.letter hc).readEscape_append _)
    | @code ds n text hn h =>
      have hcode := h.steady_code hn fun more hmore hquoted => ih more.length (by
        simp only [List.length_cons, List.length_append]
        omega) hquoted rfl
      simpa only [List.cons_append, List.append_assoc] using hcode

lemma Quoted.steady_readString {text : List Char} (h : Quoted text) :
    Steady fun rest => readString (text ++ '"' :: rest) :=
  h.steady.of_map String.ofList fun rest => by
    rw [readString]
    cases readChars (text ++ '"' :: rest) <;> rfl

end SipStills.Json
