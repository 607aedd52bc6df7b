/-
# Every value is answered or refused

Whatever a JSON value is, a reader either answers it or refuses it, and does not care how it is
written or what follows it (`Decides`).  So a reader that meets a value of another kind than it is
made for is not led astray: behind the value it goes on where the value ends, or not at all.

Of what kind a value is shows in the first character of its text (`Value.Begins`).  An alternative
may be given by its name or as an object that has its name, and a record also as a list, whose items
are dealt out to its fields (`Record.Deals`).
-/
import SipStills.Proofs.Json.Answers

namespace SipStills.Json

variable {α S : Type}

/-- Every value is answered or refused. -/
def Decides (read : Reader α) : Prop := ∀ v, ∃ answer, Answers read v answer

/-! ### First characters -/

/-- What the first character of its text tells of a value. -/
structure Value.Begins (v : Value) (c : Char) : Prop where
  visible : isSpace c = false
  null : c = 'n' → v = .null
  string : c = '"' → ∃ text, v = .string text
  list : c = '[' → ∃ vs, v = .list vs
  object : c = '\x7b' → ∃ ms, v = .object ms
  number : c = '-' ∨ Text.isDigit c = true → ∃ text, v = .number text

lemma Written.begins {v : Value} {text : List Char} (h : Written (.value v) text) :
    ∃ c more, text = c :: more ∧ v.Begins c := by
  cases h with
  | null =>
    exact ⟨_, _, rfl, by decide, fun _ => rfl, by simp, by simp, by simp, by simp [Text.isDigit]⟩
  | yes | no =>
    exact ⟨_, _, rfl, by decide, by simp, by simp, by simp, by simp, by simp [Text.isDigit]⟩
  | positive h =>
    obtain ⟨d, ds, rfl, hd⟩ := h.exists_eq_cons
    have hne {c : Char} (hc : Text.isDigit c = false) {P : Prop} (heq : d = c) : P :=
      absurd heq (ne_of_isDigit hd hc)
    exact ⟨d, ds, rfl, isSpace_of_isDigit hd, hne rfl, hne rfl, hne rfl, hne rfl,
      fun _ => ⟨_, rfl⟩⟩
  | negative h =>
    exact ⟨_, _, rfl, by decide, by simp, by simp, by simp, by simp, fun _ => ⟨_, rfl⟩⟩
  | string h =>
    exact ⟨_, _, rfl, by decide, by simp, fun _ => ⟨_, rfl⟩, by simp, by simp,
      by simp [Text.isDigit]⟩
  | list h =>
    exact ⟨_, _, rfl, by decide, by simp, by simp, fun _ => ⟨_, rfl⟩, by simp,
      by simp [Text.isDigit]⟩
  | object h =>
    exact ⟨_, _, rfl, by decide, by simp, by simp, by simp, fun _ => ⟨_, rfl⟩,
      by simp [Text.isDigit]⟩

/-- A reader may refuse a value for its first character. -/
lemma answers_none_of_begins {read : Reader α} {v : Value}
    (h : ∀ c, v.Begins c → ∀ gap more, Blank gap → ∃ e, read (gap ++ c :: more) = .error e) :
    Answers read v none := by
  intro gap text rest hgap hwritten _
  obtain ⟨c, more, rfl, hc⟩ := hwritten.begins
  exact h c hc gap (more ++ rest) hgap

/-- What is written in no way is refused by every reader. -/
lemma answers_none_of_not_written {v : Value} (h : ∀ text, ¬ Written (.value v) text)
    (read : Reader α) : Answers read v none :=
  fun _ text _ _ hwritten _ => absurd hwritten (h text)

/-- What is no string inside its quotes is not written. -/
lemma not_written_string {text : List Char} (h : ¬ Quoted text) (written : List Char) :
    ¬ Written (.value (.string text)) written := by
  intro hwritten
  cases hwritten
  contradiction

/-- A value that is written as a number is one. -/
lemma Written.number_cases {number text : List Char} (h : Written (.value (.number number)) text) :
    Unsigned number ∨ ∃ unsigned, number = '-' :: unsigned ∧ Unsigned unsigned := by
  obtain rfl := h.eq_of_number
  generalize hpart : Part.value (.number text) = part at h
  cases h with
  | positive h => exact .inl h
  | negative h => exact .inr ⟨_, rfl, h⟩
  | _ => simp at hpart

namespace Format

/-! ### Texts, numbers and alternatives -/

lemma decides_text (expected : String) : Decides (Format.text expected).read := by
  intro v
  by_cases hv : ∃ text, v = .string text
  · obtain ⟨text, rfl⟩ := hv
    by_cases hquoted : Quoted text
    · obtain ⟨answer, hanswer⟩ := hquoted.steady_readString
      refine ⟨answer, ?_⟩
      intro gap written rest hgap hwritten hrest
      cases hwritten
      simp only [Format.text, readText, List.cons_append, List.append_assoc, List.nil_append,
        hgap.skipSpace_cons (show isSpace '"' = false by decide), if_true]
      exact hanswer rest hrest
    · exact ⟨none, answers_none_of_not_written (not_written_string hquoted) _⟩
  · refine ⟨none, answers_none_of_begins fun c hc gap more hgap => ?_⟩
    have hquote : c ≠ '"' := fun heq => hv (hc.string heq)
    refine ⟨mistyped expected (c :: more), ?_⟩
    simp only [Format.text, readText, hgap.skipSpace_cons hc.visible, if_neg hquote]

section Number

variable {limit : Nat} {expected : String} {gap : List Char}

lemma read_natBelow_digit (hgap : Blank gap) {d : Char} (hd : Text.isDigit d = true)
    (text : List Char) :
    (natBelow limit expected).read (gap ++ d :: text)
      = Reader.checked (readNumber true) (Number.below limit expected) (d :: text) := by
  have hminus : d ≠ '-' := ne_of_isDigit hd (by decide)
  have hskip := hgap.skipSpace_cons (isSpace_of_isDigit hd) text
  rcases hread : readNumber true (d :: text) with e | ⟨n, rest⟩
  · simp only [natBelow, readNat, Reader.checked, hskip, if_neg hminus, if_pos hd, hread]
  · cases hbelow : Number.below limit expected n <;>
      simp only [natBelow, readNat, Reader.checked, hskip, if_neg hminus, if_pos hd, hread, hbelow]

lemma read_natBelow_minus (hgap : Blank gap) (text : List Char) :
    (natBelow limit expected).read (gap ++ '-' :: text)
      = Reader.checked (readNumber false) (Number.below limit expected) text := by
  have hskip := hgap.skipSpace_cons (show isSpace '-' = false by decide) text
  rcases hread : readNumber false text with e | ⟨n, rest⟩
  · simp only [natBelow, readNat, Reader.checked, hskip, if_true, hread]
  · cases hbelow : Number.below limit expected n <;>
      simp only [natBelow, readNat, Reader.checked, hskip, if_true, hread, hbelow]

end Number

lemma decides_natBelow (limit : Nat) (expected : String) :
    Decides (natBelow limit expected).read := by
  intro v
  by_cases hv : ∃ number, v = .number number
  · obtain ⟨number, rfl⟩ := hv
    by_cases hwritten : Written (.value (.number number)) number
    · rcases hwritten.number_cases with h | ⟨unsigned, rfl, h⟩
      · obtain ⟨answer, hanswer⟩ := (h.steady true).checked (Number.below limit expected)
        refine ⟨answer, fun gap text rest hgap hwritten hrest => ?_⟩
        obtain rfl := hwritten.eq_of_number
        obtain ⟨d, ds, rfl, hd⟩ := h.exists_eq_cons
        rw [List.cons_append, read_natBelow_digit hgap hd]
        exact hanswer rest hrest
      · obtain ⟨answer, hanswer⟩ := (h.steady false).checked (Number.below limit expected)
        refine ⟨answer, fun gap text rest hgap hwritten hrest => ?_⟩
        obtain rfl := hwritten.eq_of_number
        rw [List.cons_append, read_natBelow_minus hgap]
        exact hanswer rest hrest
    · refine ⟨none, answers_none_of_not_written (fun text h => hwritten ?_) _⟩
      rwa [h.eq_of_number] at h
  · refine ⟨none, answers_none_of_begins fun c hc gap more hgap => ?_⟩
    have hminus : c ≠ '-' := fun heq => hv (hc.number (.inl heq))
    have hdigit : ¬ Text.isDigit c = true := fun hdigit => hv (hc.number (.inr hdigit))
    refine ⟨mistyped expected (c :: more), ?_⟩
    simp only [natBelow, readNat, hgap.skipSpace_cons hc.visible, if_neg hminus, if_neg hdigit]

lemma answers_readUnit_null : Answers readUnit .null (some ()) := by
  intro gap written rest hgap hwritten _
  cases hwritten
  simp only [readUnit, List.cons_append, hgap.skipSpace_cons (show isSpace 'n' = false by decide)]
  rfl

lemma answers_readUnit_of_ne {v : Value} (hv : v ≠ .null) : Answers readUnit v none := by
  refine answers_none_of_begins fun c hc gap more hgap => ?_
  have hnull : c ≠ 'n' := fun heq => hv (hc.null heq)
  refine ⟨mistyped "unit" (c :: more), ?_⟩
  simp only [readUnit, hgap.skipSpace_cons hc.visible, if_neg hnull]

/-- No brace closes an object in front of a member. -/
lemma closeObject_of_member {m : String × Value} {ms : List (String × Value)} {text : List Char}
    (h : Written (.members false (m :: ms)) text) (rest : List Char) :
    closeObject (text ++ rest) = .error .malformed := by
  cases h with
  | member hlead _ _ _ _ _ =>
    cases hlead with
    | next hgap _ =>
      simp only [List.append_assoc, List.cons_append, closeObject,
        hgap.skipSpace_cons (show isSpace ',' = false by decide),
        if_neg (show ¬ ',' = '\x7d' by decide)]

/-- Reads the value of an alternative in an object, and the end of the object. -/
def readUnitEnd : Reader Unit := fun text =>
  match readUnit text with
  | .error e => .error e
  | .ok (_, rest) => closeObject rest

/-- The value has to be `null`, and no member may follow. -/
lemma exists_yields_readUnitEnd (v : Value) (ms : List (String × Value)) :
    ∃ answer, ∀ ⦃gap text more⦄, Blank gap → Written (.value v) text →
      Written (.members false ms) more → ∀ rest,
        Yields (readUnitEnd (gap ++ (text ++ (more ++ rest)))) rest answer := by
  by_cases hv : v = .null
  · subst hv
    have hunit {gap text more : List Char} (hgap : Blank gap)
        (hvalue : Written (.value .null) text) (hmore : Written (.members false ms) more)
        (rest : List Char) : readUnitEnd (gap ++ (text ++ (more ++ rest)))
          = closeObject (more ++ rest) := by
      have hread := yields_some.1
        (answers_readUnit_null hgap hvalue (hmore.ends (.inr ⟨ms, rfl⟩) rest))
      simp only [readUnitEnd, hread]
    cases ms with
    | nil =>
      refine ⟨some (), fun gap text more hgap hvalue hmore rest => ?_⟩
      rw [hunit hgap hvalue hmore]
      cases hmore with
      | lastMember _ hgap =>
        rw [List.append_assoc]
        exact closeObject_eq hgap rest
    | cons m ms =>
      refine ⟨none, fun gap text more hgap hvalue hmore rest => ⟨.malformed, ?_⟩⟩
      rw [hunit hgap hvalue hmore]
      exact closeObject_of_member hmore rest
  · refine ⟨none, fun gap text more hgap hvalue hmore rest => ?_⟩
    obtain ⟨e, hread⟩ :=
      answers_readUnit_of_ne hv hgap hvalue (hmore.ends (.inr ⟨ms, rfl⟩) rest)
    exact ⟨e, by simp only [readUnitEnd, hread]⟩

section Alternatives

variable (all : List α) (nameOf : α → String)

/-- An alternative may be given as an object that has its name and nothing else. -/
lemma exists_answers_alternative (ms : List (String × Value)) :
    ∃ answer, Answers (alternatives all nameOf).read (.object ms) answer := by
  have hbrace : isSpace '\x7b' = false := by decide
  have hquote : ¬ '\x7b' = '"' := by decide
  cases ms with
  | nil =>
    refine ⟨none, fun gap text rest hgap hwritten _ => ⟨.malformed, ?_⟩⟩
    cases hwritten with
    | object hmembers =>
      cases hmembers with
      | lastMember _ hgap' =>
        simp only [alternatives, readAlternative, List.cons_append, List.append_assoc,
          List.nil_append, hgap.skipSpace_cons hbrace, if_neg hquote, if_true,
          nextKey_close true hgap']
  | cons m ms =>
    obtain ⟨key, v⟩ := m
    cases hkey : alternative all nameOf key with
    | error e =>
      refine ⟨none, fun gap text rest hgap hwritten _ => ⟨e, ?_⟩⟩
      cases hwritten with
      | object hmembers =>
        cases hmembers with
        | member hlead hname hgap' hgap'' hvalue hmore =>
          simp only [alternatives, readAlternative, List.cons_append, List.append_assoc,
            hgap.skipSpace_cons hbrace, if_neg hquote, if_true, nextKey_eq hlead,
            hname.readString_append, hkey]
    | ok a =>
      obtain ⟨answer, hanswer⟩ := exists_yields_readUnitEnd v ms
      refine ⟨answer.map fun _ => a, fun gap text rest hgap hwritten _ => ?_⟩
      cases hwritten with
      | object hmembers =>
        cases hmembers with
        | @member _ _ _ _ lead name gap' gap'' text more hlead hname hgap' hgap'' hvalue hmore =>
          have hend := (hanswer hgap'' hvalue hmore rest).map fun _ => a
          simp only [alternatives, readAlternative, List.cons_append, List.append_assoc,
            hgap.skipSpace_cons hbrace, if_neg hquote, if_true, nextKey_eq hlead,
            hname.readString_append, hkey, colon_eq hgap']
          simp only [readUnitEnd] at hend
          revert hend
          rcases readUnit (gap'' ++ (text ++ (more ++ rest))) with e | ⟨u, rest'⟩
          · exact id
          · dsimp only
            rcases closeObject rest' with e | ⟨u, rest'⟩ <;> exact id

lemma read_alternatives_quote {gap : List Char} (hgap : Blank gap) (text : List Char) :
    (alternatives all nameOf).read (gap ++ '"' :: text)
      = Reader.checked readString (alternative all nameOf) text := by
  have hskip := hgap.skipSpace_cons (show isSpace '"' = false by decide) text
  rcases hread : readString text with e | ⟨name, rest⟩
  · simp only [alternatives, readAlternative, Reader.checked, hskip, if_true, hread]
  · cases hname : alternative all nameOf name <;>
      simp only [alternatives, readAlternative, Reader.checked, hskip, if_true, hread, hname]

lemma decides_alternatives : Decides (alternatives all nameOf).read := by
  intro v
  by_cases hv : ∃ ms, v = .object ms
  · obtain ⟨ms, rfl⟩ := hv
    exact exists_answers_alternative all nameOf ms
  by_cases hv' : ∃ text, v = .string text
  · obtain ⟨text, rfl⟩ := hv'
    by_cases hquoted : Quoted text
    · obtain ⟨answer, hanswer⟩ := hquoted.steady_readString.checked (alternative all nameOf)
      refine ⟨answer, ?_⟩
      intro gap written rest hgap hwritten hrest
      cases hwritten
      rw [List.cons_append, List.append_assoc, read_alternatives_quote _ _ hgap]
      exact hanswer rest hrest
    · exact ⟨none, answers_none_of_not_written (not_written_string hquoted) _⟩
  · refine ⟨none, answers_none_of_begins fun c hc gap more hgap => ⟨.malformed, ?_⟩⟩
    have hquote : c ≠ '"' := fun heq => hv' (hc.string heq)
    have hbrace : c ≠ '\x7b' := fun heq => hv (hc.object heq)
    simp only [alternatives, readAlternative, hgap.skipSpace_cons hc.visible, if_neg hquote,
      if_neg hbrace]

end Alternatives

/-! ### Lists -/

lemma answers_list_of_ne (f : Format α) {v : Value} (hv : ∀ vs, v ≠ .list vs) :
    Answers f.list.read v none := by
  refine answers_none_of_begins fun c hc gap more hgap => ?_
  have hbracket : c ≠ '[' := fun heq => by
    obtain ⟨vs, rfl⟩ := hc.list heq
    exact hv vs rfl
  refine ⟨mistyped "a sequence" (c :: more), ?_⟩
  simp only [list, hgap.skipSpace_cons hc.visible, if_neg hbracket]

end Format

/-! ### Records -/

namespace Record

/-- No bracket closes a list in front of an item. -/
lemma closeList_of_item {first : Bool} {v : Value} {vs : List Value} {text : List Char}
    (h : Written (.items first (v :: vs)) text) (rest : List Char) :
    closeList (text ++ rest) = .error .malformed := by
  cases h with
  | item hlead hvalue _ =>
    cases hlead with
    | first hgap =>
      obtain ⟨c, more, rfl, hspace, hbracket⟩ := hvalue.opens
      simp only [List.append_assoc, List.cons_append, closeList, hgap.skipSpace_cons hspace,
        if_neg hbracket]
    | next hgap _ =>
      simp only [List.append_assoc, List.cons_append, closeList,
        hgap.skipSpace_cons (show isSpace ',' = false by decide),
        if_neg (show ¬ ',' = ']' by decide)]

/-- Reads fields as the items of a list, and its closing bracket. -/
def readList (title : String) (index : Nat) (first : Bool) (fields : List (Field S)) (s : S) :
    Reader S := fun text =>
  match readItems title index first fields s text with
  | .error e => .error e
  | .ok (s, rest) =>
    match closeList rest with
    | .error e => .error e
    | .ok (_, rest) => .ok (s, rest)

/-- What a record is answered for the items of a list, dealt out to these fields in order. -/
inductive Deals : List (Field S) → S → List Value → Option S → Prop where
  | done {s : S} : Deals [] s [] (some s)
  | tooMany {s : S} {v : Value} {vs : List Value} : Deals [] s (v :: vs) none
  | absent {field : Field S} {fields : List (Field S)} {s : S} {answer : Option S}
      (hfield : field.required = false) (h : Deals fields s [] answer) :
      Deals (field :: fields) s [] answer
  | missing {field : Field S} {fields : List (Field S)} {s : S} (hfield : field.required = true) :
      Deals (field :: fields) s [] none
  | refused {field : Field S} {fields : List (Field S)} {s : S} {v : Value} {vs : List Value}
      (hv : Answers field.read v none) : Deals (field :: fields) s (v :: vs) none
  | told {field : Field S} {fields : List (Field S)} {s : S} {v : Value} {vs : List Value}
      {change : S → S} {answer : Option S} (hv : Answers field.read v (some change))
      (h : Deals fields (change s) vs answer) : Deals (field :: fields) s (v :: vs) answer

lemma exists_deals {fields : List (Field S)} (h : ∀ field ∈ fields, Decides field.read) (s : S)
    (vs : List Value) : ∃ answer, Deals fields s vs answer := by
  induction fields generalizing s vs with
  | nil =>
    cases vs with
    | nil => exact ⟨_, .done⟩
    | cons v vs => exact ⟨_, .tooMany⟩
  | cons field fields ih =>
    obtain ⟨hfield, hfields⟩ := List.forall_mem_cons.1 h
    cases vs with
    | nil =>
      cases hrequired : field.required with
      | true => exact ⟨_, .missing hrequired⟩
      | false =>
        obtain ⟨answer, hanswer⟩ := ih hfields s []
        exact ⟨answer, .absent hrequired hanswer⟩
    | cons v vs =>
      obtain ⟨change?, hv⟩ := hfield v
      cases change? with
      | none => exact ⟨_, .refused hv⟩
      | some change =>
        obtain ⟨answer, hanswer⟩ := ih hfields (change s) vs
        exact ⟨answer, .told hv hanswer⟩

/-- The items of a list are read as they are dealt out. -/
lemma Deals.readList_append {fields : List (Field S)} {s : S} {vs : List Value}
    {answer : Option S} (h : Deals fields s vs answer) (title : String) (index : Nat)
    {first : Bool} {text : List Char} (hwritten : Written (.items first vs) text)
    (rest : List Char) :
    Yields (readList title index first fields s (text ++ rest)) rest answer := by
  induction h generalizing first text index with
  | done =>
    cases hwritten with
    | lastItem _ hgap =>
      simp [readList, readItems, closeList_eq hgap]
  | tooMany =>
    refine ⟨.malformed, ?_⟩
    simp only [readList, readItems, closeList_of_item hwritten]
  | absent hfield _ ih =>
    have htail := ih (index + 1) hwritten
    cases hwritten with
    | lastItem _ hgap =>
      rw [List.append_assoc] at htail ⊢
      simpa only [readList, readItems, List.cons_append, nextItem_close first hgap, hfield,
        Bool.false_eq_true, if_false] using htail
  | missing hfield =>
    cases hwritten with
    | lastItem _ hgap =>
      refine ⟨.mismatch (.wrongLength index title), ?_⟩
      rw [List.append_assoc]
      simp only [readList, readItems, List.cons_append, nextItem_close first hgap, hfield,
        if_true]
  | @refused field fields s v vs hv =>
    cases hwritten with
    | @item _ _ _ lead text more hlead hvalue hmore =>
      have hnext := nextItem_eq hlead (hvalue.opens.append (more ++ rest))
      obtain ⟨e, hread⟩ := hv blank_nil hvalue (hmore.ends (.inl ⟨vs, rfl⟩) rest)
      rw [List.nil_append] at hread
      refine ⟨e, ?_⟩
      rw [List.append_assoc, List.append_assoc]
      simp only [readList, readItems, hnext, hread]
  | @told field fields s v vs change answer hv _ ih =>
    cases hwritten with
    | @item _ _ _ lead text more hlead hvalue hmore =>
      have hnext := nextItem_eq hlead (hvalue.opens.append (more ++ rest))
      have hread := yields_some.1 (hv blank_nil hvalue (hmore.ends (.inl ⟨vs, rfl⟩) rest))
      have htail := ih (index + 1) hmore
      rw [List.nil_append] at hread
      rw [List.append_assoc, List.append_assoc]
      simpa only [readList, readItems, hnext, hread] using htail

lemma read_bracket (r : Record S) {gap : List Char} (hgap : Blank gap) (text : List Char) :
    r.format.read (gap ++ '[' :: text) = readList r.listTitle 0 true r.fields r.blank text := by
  have hskip := hgap.skipSpace_cons (show isSpace '[' = false by decide) text
  rcases hread : readItems r.listTitle 0 true r.fields r.blank text with e | ⟨s, rest⟩
  · simp only [format, read, readList, hskip, if_true, hread]
  · cases hclose : closeList rest <;>
      simp only [format, read, readList, hskip, if_true, hread, hclose]

/-- A list is answered as its items are dealt out. -/
lemma Deals.answers {r : Record S} {vs : List Value} {answer : Option S}
    (h : Deals r.fields r.blank vs answer) : Answers r.format.read (.list vs) answer := by
  intro gap written rest hgap hwritten _
  cases hwritten with
  | list hitems =>
    rw [List.cons_append, r.read_bracket hgap]
    exact h.readList_append r.listTitle 0 hitems rest

/-- What is neither an object nor a list is no record. -/
lemma answers_format_of_ne (r : Record S) {v : Value} (hobject : ∀ ms, v ≠ .object ms)
    (hlist : ∀ vs, v ≠ .list vs) : Answers r.format.read v none := by
  refine answers_none_of_begins fun c hc gap more hgap => ?_
  have hbracket : c ≠ '[' := fun heq => by
    obtain ⟨vs, rfl⟩ := hc.list heq
    exact hlist vs rfl
  have hbrace : c ≠ '\x7b' := fun heq => by
    obtain ⟨ms, rfl⟩ := hc.object heq
    exact hobject ms rfl
  refine ⟨mistyped r.title (c :: more), ?_⟩
  simp only [format, read, hgap.skipSpace_cons hc.visible, if_neg hbracket, if_neg hbrace]

end Record
end SipStills.Json
