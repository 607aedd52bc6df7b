/-
# What readers make of JSON values

A reader answers a JSON value with a value of its own, or refuses it, if it does so for every text
that holds the JSON value, with any space in front and anything behind that may follow a value
(`Answers`).  Answers do not depend on how the JSON value is written, and so the answers of the
formats can be told from what the parts of the JSON value are answered: of its items for a list, and
of its members, one after the other, for a record (`Record.Assembles`).
-/
import SipStills.Proofs.Json.Records
import SipStills.Proofs.Json.Steady

namespace SipStills.Json

variable {α β S : Type}

/-- What the reader makes of a JSON value, however that is written. -/
def Answers (read : Reader α) (v : Value) (answer : Option α) : Prop :=
  ∀ ⦃gap text rest : List Char⦄, Blank gap → Written (.value v) text → Ends rest →
    Yields (read (gap ++ (text ++ rest))) rest answer

/-! ### Whole texts -/

lemma Answers.parse_eq {f : Format α} {v : Value} {a : α} (h : Answers f.read v (some a))
    {text : List Char} (htext : v.Text text) : f.parse (String.ofList text) = .ok a := by
  obtain @⟨gap, gap', text, hgap, hgap', hwritten⟩ := htext
  have hends := hgap'.ends_append ends_nil
  rw [List.append_nil] at hends
  have hread := yields_some.1 (h hgap hwritten hends)
  have hskip := hgap'.skipSpace_append []
  rw [List.append_nil] at hskip
  simp only [Format.parse, String.toList_ofList, hread, hskip]
  rfl

lemma Answers.exists_parse_eq_error {f : Format α} {v : Value} (h : Answers f.read v none)
    {text : List Char} (htext : v.Text text) : ∃ e, f.parse (String.ofList text) = .error e := by
  obtain ⟨hgap, hgap', hwritten⟩ := htext
  have hends := hgap'.ends_append ends_nil
  rw [List.append_nil] at hends
  obtain ⟨e, hread⟩ := h hgap hwritten hends
  refine ⟨e, ?_⟩
  simp only [Format.parse, String.toList_ofList, hread]

namespace Format

/-! ### Texts, numbers and alternatives -/

/-- A string is answered with the characters that it spells. -/
lemma answers_text (expected : String) {text : List Char} {s : String}
    (h : Spells text s.toList) : Answers (Format.text expected).read (.string text) (some s) := by
  intro gap written rest hgap hwritten _
  cases hwritten
  have hread := h.readString_append rest
  simp only [Format.text, readText, List.cons_append, List.append_assoc, List.nil_append,
    hgap.skipSpace_cons (show isSpace '"' = false by decide), if_true, hread, yields_some]

/-- The digits of a number are answered with the number. -/
lemma answers_natBelow {limit n : Nat} (hn : n < limit) (hlimit : limit ≤ UInt64.size)
    (expected : String) :
    Answers (natBelow limit expected).read (.number (Text.digits n)) (some n) := by
  intro gap written rest hgap hwritten hrest
  obtain rfl := hwritten.eq_of_number
  have hread := (restores_natBelow hn hlimit expected).read_write hrest
  simp only [natBelow, readNat, hgap.skipSpace_append] at hread ⊢
  exact hread

lemma answers_map {f : Format α} {v : Value} {answer : Option α} (h : Answers f.read v answer)
    (forth : α → β) (back : β → α) : Answers (f.map forth back).read v (answer.map forth) := by
  intro gap text rest hgap hwritten hrest
  have hread := h hgap hwritten hrest
  cases answer with
  | none =>
    obtain ⟨e, hread⟩ := hread
    exact ⟨e, by simp only [map, hread]⟩
  | some a =>
    rw [yields_some] at hread
    simp only [map, hread, Option.map_some, yields_some]

/-- A string that spells the name of an alternative is answered with it. -/
lemma answers_alternatives {all : List α} {nameOf : α → String} {a : α} (ha : a ∈ all)
    (hname : ∀ b ∈ all, nameOf b = nameOf a → b = a) {text : List Char}
    (h : Spells text (nameOf a).toList) :
    Answers (alternatives all nameOf).read (.string text) (some a) := by
  intro gap written rest hgap hwritten _
  cases hwritten
  have hread := h.readString_append rest
  simp only [alternatives, readAlternative, List.cons_append, List.append_assoc, List.nil_append,
    hgap.skipSpace_cons (show isSpace '"' = false by decide), if_true, hread, alternative,
    find?_nameOf ha hname, yields_some]

/-! ### Values that may be absent -/

lemma answers_null (f : Format α) : Answers f.optional.read .null (some none) := by
  intro gap written rest hgap hwritten _
  cases hwritten
  simp only [optional, List.cons_append, hgap.skipSpace_cons (show isSpace 'n' = false by decide)]
  rfl

/-- What is no `null` is answered as if it could not be absent. -/
lemma answers_optional {f : Format α} {v : Value} {answer : Option α}
    (h : Answers f.read v answer) (hv : v ≠ .null) :
    Answers f.optional.read v (answer.map some) := by
  intro gap text rest hgap hwritten hrest
  have hread := h blank_nil hwritten hrest
  have hskip : skipSpace (gap ++ (text ++ rest)) = text ++ rest := by
    rw [hgap.skipSpace_append, (hwritten.opens.append rest).skipSpace_eq]
  have hpresent : ∀ more, text ++ rest ≠ 'n' :: more := hwritten.ne_null hv rest
  rw [List.nil_append] at hread
  cases answer with
  | none =>
    obtain ⟨e, hread⟩ := hread
    refine ⟨e, ?_⟩
    simp only [optional, hskip, hread]
  | some a =>
    rw [yields_some] at hread
    simp only [optional, hskip, hread, Option.map_some, yields_some]

/-! ### Lists -/

lemma mapM_id_map_some (as : List α) : (as.map some).mapM id = some as := by
  induction as with
  | nil => rfl
  | cons a as ih =>
    simp only [List.map_cons, List.mapM_cons, ih, id, Option.bind_eq_bind, Option.bind_some,
      Option.pure_def]

lemma mapM_id_eq_none_iff {answers : List (Option α)} :
    answers.mapM id = none ↔ none ∈ answers := by
  induction answers with
  | nil => simp
  | cons answer answers ih =>
    rw [List.mapM_cons, List.mem_cons, ← ih]
    cases answer with
    | none => simp
    | some a => cases answers.mapM id <;> simp

/-- A list is answered item by item, if none of its items is refused. -/
lemma answers_readItems {f : Format α} {vs : List Value} {answers : List (Option α)}
    (h : List.Forall₂ (Answers f.read) vs answers) {first : Bool} {text : List Char}
    (hwritten : Written (.items first vs) text) {fuel : Nat} (hfuel : text.length ≤ fuel)
    (rest : List Char) :
    Yields (readItems f.read fuel first (text ++ rest)) rest (answers.mapM id) := by
  induction h generalizing first text fuel with
  | nil =>
    obtain ⟨fuel, rfl⟩ := hwritten.fuel_eq hfuel
    cases hwritten with
    | lastItem _ hgap =>
      simp [readItems, nextItem_close first hgap, closeList_eq hgap]
  | @cons v answer vs answers hv h ih =>
    obtain ⟨fuel, rfl⟩ := hwritten.fuel_eq hfuel
    cases hwritten with
    | @item _ _ _ lead text more hlead hvalue hmore =>
      have hpos := hvalue.length_pos
      simp only [List.length_append] at hfuel
      have hnext := nextItem_eq hlead (hvalue.opens.append (more ++ rest))
      have hread := hv blank_nil hvalue (hmore.ends (.inl ⟨vs, rfl⟩) rest)
      have htail := ih hmore (show more.length ≤ fuel by omega)
      rw [List.nil_append] at hread
      rw [List.append_assoc, List.append_assoc, List.mapM_cons]
      cases answer with
      | none =>
        obtain ⟨e, hread⟩ := hread
        exact ⟨e, by simp only [readItems, hnext, hread]⟩
      | some a =>
        rw [yields_some] at hread
        cases hanswers : answers.mapM id with
        | none =>
          rw [hanswers] at htail
          obtain ⟨e, htail⟩ := htail
          exact ⟨e, by simp only [readItems, hnext, hread, htail]⟩
        | some as =>
          rw [hanswers, yields_some] at htail
          simp [readItems, hnext, hread, htail]

lemma answers_list {f : Format α} {vs : List Value} {answers : List (Option α)}
    (h : List.Forall₂ (Answers f.read) vs answers) :
    Answers f.list.read (.list vs) (answers.mapM id) := by
  intro gap written rest hgap hwritten _
  cases hwritten with
  | @list _ text hitems =>
    have hfuel : text.length ≤ (text ++ rest).length + 1 := by
      rw [List.length_append]
      omega
    have hread := answers_readItems h hitems hfuel rest
    simpa only [list, List.cons_append, hgap.skipSpace_cons (show isSpace '[' = false by decide),
      if_true] using hread

end Format

/-! ### Records -/

/-- A field is answered with the change that sets what its value is answered with. -/
lemma answers_make {format : Format α} {v : Value} {answer : Option α}
    (h : Answers format.read v answer) (required : Bool) (name : String) (get : S → α)
    (set : α → S → S) :
    Answers (Field.make required name format get set).read v (answer.map set) := by
  intro gap text rest hgap hwritten hrest
  have hread := h hgap hwritten hrest
  cases answer with
  | none =>
    obtain ⟨e, hread⟩ := hread
    exact ⟨e, by simp only [Field.make, hread]⟩
  | some a =>
    rw [yields_some] at hread
    simp only [Field.make, hread, Option.map_some, yields_some]

namespace Record

/-- What a record is answered for the members of an object, read one after the other, from the given
record and with fields of the given names seen. -/
inductive Assembles (r : Record S) : List String → S → List (String × Value) → Option S → Prop where
  | done {seen : List String} {s : S} (h : r.missing? seen = none) : Assembles r seen s [] (some s)
  | missing {seen : List String} {s : S} (h : r.missing? seen ≠ none) : Assembles r seen s [] none
  | unknown {seen : List String} {s : S} {key : String} {v : Value} {ms : List (String × Value)}
      {answer : Option S} (hkey : r.field? key = none) (h : Assembles r seen s ms answer) :
      Assembles r seen s ((key, v) :: ms) answer
  | repeated {seen : List String} {s : S} {key : String} {v : Value} {ms : List (String × Value)}
      {field : Field S} (hkey : r.field? key = some field) (hseen : key ∈ seen) :
      Assembles r seen s ((key, v) :: ms) none
  | refused {seen : List String} {s : S} {key : String} {v : Value} {ms : List (String × Value)}
      {field : Field S} (hkey : r.field? key = some field) (hseen : key ∉ seen)
      (hv : Answers field.read v none) : Assembles r seen s ((key, v) :: ms) none
  | told {seen : List String} {s : S} {key : String} {v : Value} {ms : List (String × Value)}
      {field : Field S} {change : S → S} {answer : Option S} (hkey : r.field? key = some field)
      (hseen : key ∉ seen) (hv : Answers field.read v (some change))
      (h : Assembles r (key :: seen) (change s) ms answer) :
      Assembles r seen s ((key, v) :: ms) answer

/-- The members of an object are read as the record assembles them. -/
lemma Assembles.readMembers_append {r : Record S} {seen : List String} {s : S}
    {ms : List (String × Value)} {answer : Option S} (h : r.Assembles seen s ms answer)
    {first : Bool} {text : List Char} (hwritten : Written (.members first ms) text) {fuel : Nat}
    (hfuel : text.length ≤ fuel) (rest : List Char) :
    Yields (r.readMembers fuel first seen s (text ++ rest)) rest answer := by
  induction h generalizing first text fuel with
  | @done seen s h =>
    obtain ⟨fuel, rfl⟩ := hwritten.fuel_eq hfuel
    cases hwritten with
    | lastMember _ hgap =>
      rw [List.append_assoc]
      exact readMembers_close h hgap fuel first s rest
  | @missing seen s h =>
    obtain ⟨fuel, rfl⟩ := hwritten.fuel_eq hfuel
    obtain ⟨field, hfield⟩ := Option.ne_none_iff_exists'.1 h
    cases hwritten with
    | lastMember _ hgap =>
      refine ⟨.mismatch (.missingField field.name), ?_⟩
      simp [readMembers, nextKey_close first hgap, hfield]
  | @unknown seen s key v ms answer hkey h ih =>
    obtain ⟨fuel, rfl⟩ := hwritten.fuel_eq hfuel
    cases hwritten with
    | @member _ _ _ _ lead name gap gap' text more hlead hname hgap hgap' hvalue hmore =>
      have hskip := hvalue.skipValue_append hgap' (hmore.ends (.inr ⟨ms, rfl⟩) rest)
      simp only [List.length_append, List.length_cons] at hfuel
      simp only [List.append_assoc, List.cons_append, readMembers, nextKey_eq hlead,
        hname.readString_append, hkey, colon_eq hgap, hskip]
      exact ih hmore (by omega)
  | @repeated seen s key v ms field hkey hseen =>
    obtain ⟨fuel, rfl⟩ := hwritten.fuel_eq hfuel
    have hcontains : seen.contains key = true := by simpa using hseen
    cases hwritten with
    | member hlead hname hgap hgap' hvalue hmore =>
      refine ⟨.mismatch (.duplicateField key), ?_⟩
      simp only [List.append_assoc, List.cons_append, readMembers, nextKey_eq hlead,
        hname.readString_append, hkey, hcontains, if_true]
  | @refused seen s key v ms field hkey hseen hv =>
    obtain ⟨fuel, rfl⟩ := hwritten.fuel_eq hfuel
    have hcontains : seen.contains key = false := by simpa using hseen
    cases hwritten with
    | member hlead hname hgap hgap' hvalue hmore =>
      obtain ⟨e, hread⟩ := hv hgap' hvalue (hmore.ends (.inr ⟨ms, rfl⟩) rest)
      refine ⟨e, ?_⟩
      simp only [List.append_assoc, List.cons_append, readMembers, nextKey_eq hlead,
        hname.readString_append, hkey, hcontains, Bool.false_eq_true, if_false, colon_eq hgap,
        hread]
  | @told seen s key v ms field change answer hkey hseen hv h ih =>
    obtain ⟨fuel, rfl⟩ := hwritten.fuel_eq hfuel
    have hcontains : seen.contains key = false := by simpa using hseen
    cases hwritten with
    | @member _ _ _ _ lead name gap gap' text more hlead hname hgap hgap' hvalue hmore =>
      have hread := yields_some.1 (hv hgap' hvalue (hmore.ends (.inr ⟨ms, rfl⟩) rest))
      simp only [List.length_append, List.length_cons] at hfuel
      simp only [List.append_assoc, List.cons_append, readMembers, nextKey_eq hlead,
        hname.readString_append, hkey, hcontains, Bool.false_eq_true, if_false, colon_eq hgap,
        hread]
      exact ih hmore (by omega)

/-- An object is answered as its members are assembled. -/
lemma Assembles.answers {r : Record S} {ms : List (String × Value)} {answer : Option S}
    (h : r.Assembles [] r.blank ms answer) : Answers r.format.read (.object ms) answer := by
  intro gap written rest hgap hwritten _
  cases hwritten with
  | @object _ text hmembers =>
    have hfuel : text.length ≤ (text ++ rest).length + 1 := by
      rw [List.length_append]
      omega
    have hread := h.readMembers_append hmembers hfuel rest
    simpa only [format, read, List.cons_append,
      hgap.skipSpace_cons (show isSpace '\x7b' = false by decide),
      if_neg (show ¬ '\x7b' = '[' by decide), if_true] using hread

end Record
end SipStills.Json
