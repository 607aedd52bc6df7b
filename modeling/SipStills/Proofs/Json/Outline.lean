/-
# Outlines of values

An outline is a kind of JSON value in which names may be missing or repeated, at any depth: what has
to be of which kind (`Fits`), and when something is missing that has to be there, or there more than
once (`Flawed`).  A reader judges by an outline if it refuses all flawed values, whatever else they
hold, and of the values that fit no others (`Outline.Judges`).

The reader of a record judges by the outline of its fields (`Outline.judges_object`).  It meets the
members one by one, so a flaw is looked for in the names that are seen together with those to come,
which seeing a member only moves from one to the other (`Record.Flaw`).
-/
import SipStills.Proofs.Json.Decided
import SipStills.Proofs.Json.Partial

namespace SipStills.Json

variable {α β S : Type}

/-- A kind of JSON value, apart from names that are missing or repeated. -/
structure Outline where
  /-- The value is of that kind, whatever is missing in it or repeated. -/
  Fits : Value → Prop
  /-- Something is missing in the value or repeated. -/
  Flawed : Value → Prop

namespace Outline

/-- Any string that spells a text. -/
def text : Outline := ⟨fun v => ∃ s, v.IsText s, fun _ => False⟩

/-- Any number below a limit. -/
def nat (limit : Nat) : Outline := ⟨fun v => ∃ n < limit, v.IsNat n, fun _ => False⟩

/-- Any of some names. -/
def names (all : List String) : Outline := ⟨fun v => ∃ name ∈ all, v.IsText name, fun _ => False⟩

/-- What has the outline, or `null`. -/
def optional (o : Outline) : Outline where
  Fits v := v = .null ∨ o.Fits v
  Flawed v := v ≠ .null ∧ o.Flawed v

/-- A list of what has the outline; it is flawed if one of its items is. -/
def list (o : Outline) : Outline where
  Fits v := ∃ vs, v = .list vs ∧ ∀ v ∈ vs, o.Fits v
  Flawed v := ∃ vs, v = .list vs ∧ ∃ v ∈ vs, o.Flawed v

end Outline

/-- The names of members, in the order of the text. -/
def keys (ms : List (String × Value)) : List String := ms.map (·.1)

/-- A name in the outline of an object. -/
structure Entry where
  /-- The name. -/
  name : String
  /-- It has to be there. -/
  required : Bool
  /-- The outline of its values. -/
  outline : Outline

/-- The outline of the values of a name. -/
def named (entries : List Entry) (name : String) : Outline where
  Fits v := ∀ entry ∈ entries, entry.name = name → entry.outline.Fits v
  Flawed v := ∃ entry ∈ entries, entry.name = name ∧ entry.outline.Flawed v

/-- An object in which the first value of each known name has its outline.  It is flawed if a
required name is missing, a known name is there more than once, or the value of a known name is
flawed. -/
def Outline.object (entries : List Entry) : Outline where
  Fits v := ∃ ms, v = .object ms
    ∧ ∀ entry ∈ entries, ∀ w, ms.lookup entry.name = some w → entry.outline.Fits w
  Flawed v := ∃ ms, v = .object ms
    ∧ ((∃ entry ∈ entries, entry.required = true ∧ entry.name ∉ keys ms)
      ∨ (∃ entry ∈ entries, 1 < (keys ms).count entry.name)
      ∨ ∃ m ∈ ms, (named entries m.1).Flawed m.2)

/-- The answer is right by the outline: flawed values are refused, and of those that fit only
they. -/
structure Outline.Right (o : Outline) (v : Value) (answer : Option α) : Prop where
  refused : o.Flawed v → answer = none
  flawed : o.Fits v → answer = none → o.Flawed v

/-- Every value is answered or refused, and rightly so. -/
def Outline.Judges (o : Outline) (read : Reader α) : Prop :=
  ∀ v, ∃ answer, Answers read v answer ∧ o.Right v answer

namespace Outline

lemma Judges.decides {o : Outline} {read : Reader α} (h : o.Judges read) : Decides read := by
  intro v
  obtain ⟨answer, hanswer, -⟩ := h v
  exact ⟨answer, hanswer⟩

lemma Right.map {o : Outline} {v : Value} {answer : Option α} (h : o.Right v answer) (f : α → β) :
    o.Right v (answer.map f) where
  refused hflawed := by rw [h.refused hflawed, Option.map_none]
  flawed hfits hnone := h.flawed hfits (Option.map_eq_none_iff.1 hnone)

/-! ### Texts, numbers and names -/

/-- Where nothing is flawed, the values that fit have to be answered. -/
lemma judges_of_sound {o : Outline} {read : Reader α} (hread : Decides read)
    (hsound : ∀ v, ¬ o.Flawed v) (hfits : ∀ v, o.Fits v → ∃ a, Answers read v (some a)) :
    o.Judges read := by
  intro v
  by_cases h : o.Fits v
  · obtain ⟨a, ha⟩ := hfits v h
    exact ⟨some a, ha, fun hflawed => absurd hflawed (hsound v), fun _ hnone => by cases hnone⟩
  · obtain ⟨answer, hanswer⟩ := hread v
    exact ⟨answer, hanswer, fun hflawed => absurd hflawed (hsound v), fun hv => absurd hv h⟩

lemma judges_text (expected : String) : text.Judges (Format.text expected).read := by
  refine judges_of_sound (Format.decides_text expected) (fun _ => id) ?_
  rintro v ⟨s, hv⟩
  exact ⟨s, Format.answers_isText expected hv⟩

lemma judges_natBelow {limit : Nat} (hlimit : limit ≤ UInt64.size) (expected : String) :
    (nat limit).Judges (Format.natBelow limit expected).read := by
  refine judges_of_sound (Format.decides_natBelow limit expected) (fun _ => id) ?_
  rintro v ⟨n, hn, rfl⟩
  exact ⟨n, Format.answers_natBelow hn hlimit expected⟩

lemma judges_map {o : Outline} {f : Format α} (h : o.Judges f.read) (forth : α → β)
    (back : β → α) : o.Judges (f.map forth back).read := by
  intro v
  obtain ⟨answer, hanswer, hright⟩ := h v
  exact ⟨_, Format.answers_map hanswer forth back, hright.map forth⟩

lemma judges_uint8 : (nat UInt8.size).Judges Format.uint8.read :=
  judges_map (judges_natBelow (by decide) "u8") UInt8.ofNat UInt8.toNat

lemma judges_uint16 : (nat UInt16.size).Judges Format.uint16.read :=
  judges_map (judges_natBelow (by decide) "u16") UInt16.ofNat UInt16.toNat

lemma judges_uint32 : (nat UInt32.size).Judges Format.uint32.read :=
  judges_map (judges_natBelow (by decide) "u32") UInt32.ofNat UInt32.toNat

lemma judges_size : (nat UInt64.size).Judges Format.size.read :=
  judges_map (judges_natBelow (Nat.le_refl _) "usize") UInt64.ofNat UInt64.toNat

lemma judges_alternatives {all : List α} {nameOf : α → String}
    (hname : ∀ a ∈ all, ∀ b ∈ all, nameOf b = nameOf a → b = a) :
    (names (all.map nameOf)).Judges (Format.alternatives all nameOf).read := by
  refine judges_of_sound (Format.decides_alternatives all nameOf) (fun _ => id) ?_
  rintro v ⟨name, hall, text, rfl, hspells⟩
  obtain ⟨a, ha, rfl⟩ := List.mem_map.1 hall
  exact ⟨a, Format.answers_alternatives ha (hname a ha) hspells⟩

/-! ### Values that may be absent, and lists -/

lemma judges_optional {o : Outline} {f : Format α} (h : o.Judges f.read) :
    o.optional.Judges f.optional.read := by
  intro v
  by_cases hnull : v = .null
  · subst hnull
    exact ⟨some none, Format.answers_null f, fun hflawed => absurd rfl hflawed.1,
      fun _ hnone => by cases hnone⟩
  · obtain ⟨answer, hanswer, hright⟩ := h v
    have hsome := hright.map some
    exact ⟨_, Format.answers_optional hanswer hnull, fun hflawed => hsome.refused hflawed.2,
      fun hfits hnone => ⟨hnull, hsome.flawed (hfits.resolve_left hnull) hnone⟩⟩

/-- Each item of a list is answered or refused, and rightly so. -/
lemma Judges.exists_answers {o : Outline} {read : Reader α} (h : o.Judges read)
    (vs : List Value) :
    ∃ answers, List.Forall₂ (Answers read) vs answers
      ∧ ((∃ v ∈ vs, o.Flawed v) → none ∈ answers)
      ∧ ((∀ v ∈ vs, o.Fits v) → none ∈ answers → ∃ v ∈ vs, o.Flawed v) := by
  induction vs with
  | nil => exact ⟨[], .nil, by simp, by simp⟩
  | cons v vs ih =>
    obtain ⟨answer, hanswer, hright⟩ := h v
    obtain ⟨answers, hanswers, hrefused, hflawed⟩ := ih
    refine ⟨answer :: answers, .cons hanswer hanswers, ?_, fun hfits => ?_⟩
    · rw [List.exists_mem_cons_iff, List.mem_cons]
      exact Or.imp (fun hv => (hright.refused hv).symm) hrefused
    · obtain ⟨hv, hvs⟩ := List.forall_mem_cons.1 hfits
      rw [List.exists_mem_cons_iff, List.mem_cons]
      exact Or.imp (fun hnone => hright.flawed hv hnone.symm) (hflawed hvs)

lemma judges_list {o : Outline} {f : Format α} (h : o.Judges f.read) :
    o.list.Judges f.list.read := by
  intro v
  by_cases hlist : ∃ vs, v = .list vs
  · obtain ⟨vs, rfl⟩ := hlist
    obtain ⟨answers, hanswers, hrefused, hflawed⟩ := h.exists_answers vs
    refine ⟨answers.mapM id, Format.answers_list hanswers, ?_, ?_⟩
    · rintro ⟨_, heq, hv⟩
      obtain rfl := Value.list.inj heq
      exact Format.mapM_id_eq_none_iff.2 (hrefused hv)
    · rintro ⟨_, heq, hvs⟩ hnone
      obtain rfl := Value.list.inj heq
      exact ⟨vs, rfl, hflawed hvs (Format.mapM_id_eq_none_iff.1 hnone)⟩
  · have hne : ∀ vs, v ≠ .list vs := fun vs heq => hlist ⟨vs, heq⟩
    refine ⟨none, Format.answers_list_of_ne f hne, fun _ => rfl, ?_⟩
    rintro ⟨vs, heq, -⟩
    exact absurd heq (hne vs)

end Outline

/-! ### Records -/

namespace Record

/-- Something is missing in the members that are to come, or repeated, or one of their values is
flawed, where fields of the given names are seen. -/
def Flaw (r : Record S) (flawed : String → Value → Prop) (seen : List String)
    (ms : List (String × Value)) : Prop :=
  (∃ field ∈ r.fields, field.required = true ∧ field.name ∉ keys ms ++ seen)
    ∨ (∃ field ∈ r.fields, 1 < (keys ms ++ seen).count field.name)
    ∨ ∃ m ∈ ms, flawed m.1 m.2

/-- Each field judges by an outline, and names without a field have nothing that is flawed. -/
structure Judged (r : Record S) (outline : String → Outline) : Prop where
  field : ∀ {key field}, r.field? key = some field → (outline key).Judges field.read
  other : ∀ {key}, r.field? key = none → ∀ v, ¬ (outline key).Flawed v

section Flaw

variable {r : Record S} {flawed : String → Value → Prop} {seen : List String}
  {ms : List (String × Value)} {key : String} {v : Value}

lemma name_ne_of_field? (hkey : r.field? key = none) {field : Field S} (h : field ∈ r.fields) :
    field.name ≠ key := by
  simpa using List.find?_eq_none.1 hkey field h

/-- A member of an unknown name is no flaw. -/
lemma flaw_unknown (hkey : r.field? key = none) (hv : ¬ flawed key v) :
    r.Flaw flawed seen ((key, v) :: ms) ↔ r.Flaw flawed seen ms := by
  have hmem : ∀ field ∈ r.fields,
      (field.name ∉ keys ((key, v) :: ms) ++ seen ↔ field.name ∉ keys ms ++ seen) := by
    intro field hfield
    simp [keys, name_ne_of_field? hkey hfield]
  have hcount : ∀ field ∈ r.fields, (keys ((key, v) :: ms) ++ seen).count field.name
      = (keys ms ++ seen).count field.name := by
    intro field hfield
    exact List.count_cons_of_ne (Ne.symm (name_ne_of_field? hkey hfield))
  unfold Flaw
  rw [List.exists_mem_cons_iff]
  simp only [hv, false_or]
  refine or_congr ?_ (or_congr ?_ Iff.rfl)
  · exact exists_congr fun field => and_congr_right fun h => and_congr_right fun _ => hmem field h
  · exact exists_congr fun field => and_congr_right fun h => by rw [hcount field h]

/-- A member whose value is sound is as good as seen. -/
lemma flaw_told (hv : ¬ flawed key v) :
    r.Flaw flawed seen ((key, v) :: ms) ↔ r.Flaw flawed (key :: seen) ms := by
  have hperm : (keys ((key, v) :: ms) ++ seen).Perm (keys ms ++ key :: seen) :=
    List.perm_middle.symm
  unfold Flaw
  rw [List.exists_mem_cons_iff]
  simp only [hperm.mem_iff, hperm.count_eq, hv, false_or]

/-- At the closing brace the only flaw can be what is missing. -/
lemma flaw_nil (hseen : seen.Nodup) : r.Flaw flawed seen [] ↔ r.missing? seen ≠ none := by
  have hcount : ¬ ∃ field ∈ r.fields, 1 < seen.count field.name := by
    rintro ⟨field, -, hcount⟩
    exact absurd (List.nodup_iff_count_le_one.1 hseen field.name) (Nat.not_le.2 hcount)
  simp only [Flaw, keys, List.map_nil, List.nil_append, hcount, List.not_mem_nil, false_and,
    exists_false, or_false, missing?]
  simp

/-- A member of a field that is seen is a flaw. -/
lemma flaw_repeated {field : Field S} (hkey : r.field? key = some field) (hseen : key ∈ seen) :
    r.Flaw flawed seen ((key, v) :: ms) := by
  obtain rfl : field.name = key := by simpa using List.find?_some hkey
  refine .inr (.inl ⟨field, List.mem_of_find?_eq_some hkey, ?_⟩)
  have hpos := List.count_pos_iff.2 hseen
  simp only [keys, List.map_cons, List.cons_append, List.count_cons_self, List.count_append]
  omega

/-- Another key is looked up behind the first member. -/
lemma lookup_cons_of_ne {other : String} (hne : other ≠ key) :
    ((key, v) :: ms).lookup other = ms.lookup other := by
  rw [List.lookup_cons, beq_eq_false_iff_ne.2 hne]

/-- Where a field is not seen, its first value among the members to come has its outline. -/
def FitsFrom (r : Record S) (outline : String → Outline) (seen : List String)
    (ms : List (String × Value)) : Prop :=
  ∀ key field, r.field? key = some field → key ∉ seen → ∀ v, ms.lookup key = some v →
    (outline key).Fits v

variable {outline : String → Outline}

lemma FitsFrom.unknown (h : r.FitsFrom outline seen ((key, v) :: ms))
    (hkey : r.field? key = none) : r.FitsFrom outline seen ms := by
  intro other field hother hmem w hw
  have hne : other ≠ key := by
    rintro rfl
    rw [hkey] at hother
    cases hother
  exact h other field hother hmem w ((lookup_cons_of_ne hne).trans hw)

lemma FitsFrom.told (h : r.FitsFrom outline seen ((key, v) :: ms)) :
    r.FitsFrom outline (key :: seen) ms := by
  intro other field hother hnew w hw
  obtain ⟨hne, hnew⟩ := not_or.1 (List.mem_cons.not.1 hnew)
  exact h other field hother hnew w ((lookup_cons_of_ne hne).trans hw)

/-- An object is assembled; it is not if there is a flaw in it, and where the values fit only
then. -/
lemma exists_assembles (hjudged : r.Judged outline) (hseen : seen.Nodup)
    (ms : List (String × Value)) (t : S) :
    ∃ answer, r.Assembles seen t ms answer
      ∧ (r.Flaw (fun key => (outline key).Flawed) seen ms → answer = none)
      ∧ (r.FitsFrom outline seen ms → answer = none →
        r.Flaw (fun key => (outline key).Flawed) seen ms) := by
  induction ms generalizing seen t with
  | nil =>
    rw [flaw_nil hseen]
    by_cases hmissing : r.missing? seen = none
    · exact ⟨some t, .done hmissing, fun h => absurd hmissing h, fun _ hnone => by cases hnone⟩
    · exact ⟨none, .missing hmissing, fun _ => rfl, fun _ _ => hmissing⟩
  | cons m ms ih =>
    obtain ⟨key, v⟩ := m
    cases hkey : r.field? key with
    | none =>
      obtain ⟨answer, hassembles, hrefused, hflaw⟩ := ih hseen t
      rw [flaw_unknown hkey (hjudged.other hkey v)]
      exact ⟨answer, .unknown hkey hassembles, hrefused, fun hfits => hflaw (hfits.unknown hkey)⟩
    | some field =>
      by_cases hmem : key ∈ seen
      · exact ⟨none, .repeated hkey hmem, fun _ => rfl, fun _ _ => flaw_repeated hkey hmem⟩
      obtain ⟨answer, hanswer, hright⟩ := hjudged.field hkey v
      cases answer with
      | none =>
        refine ⟨none, .refused hkey hmem hanswer, fun _ => rfl, fun hfits _ => ?_⟩
        have hv := hright.flawed (hfits key field hkey hmem v List.lookup_cons_self) rfl
        exact .inr (.inr ⟨(key, v), List.mem_cons_self, hv⟩)
      | some change =>
        have hv : ¬ (outline key).Flawed v := fun hv => by simpa using hright.refused hv
        obtain ⟨answer, hassembles, hrefused, hflaw⟩ :=
          ih (List.nodup_cons.2 ⟨hmem, hseen⟩) (change t)
        rw [flaw_told hv]
        exact ⟨answer, .told hkey hmem hanswer hassembles, hrefused,
          fun hfits => hflaw hfits.told⟩

end Flaw

end Record

/-- The entry describes the field. -/
structure Entry.Describes (entry : Entry) (field : Field S) : Prop where
  name_eq : field.name = entry.name
  required_eq : field.required = entry.required
  judges : entry.outline.Judges field.read

/-- The entries describe the fields, one by one. -/
def Describe (entries : List Entry) (fields : List (Field S)) : Prop :=
  List.Forall₂ (fun field entry => Entry.Describes entry field) fields entries

section Describe

variable {entries : List Entry} {fields : List (Field S)}

lemma Describe.nil : Describe [] ([] : List (Field S)) := List.Forall₂.nil

lemma Describe.make {o : Outline} {format : Format α} (hformat : o.Judges format.read)
    {required : Bool} {name : String} {get : S → α} {set : α → S → S}
    (h : Describe entries fields) :
    Describe (⟨name, required, o⟩ :: entries)
      (Field.make required name format get set :: fields) := by
  refine List.Forall₂.cons ⟨rfl, rfl, fun v => ?_⟩ h
  obtain ⟨answer, hanswer, hright⟩ := hformat v
  exact ⟨answer.map set, answers_make hanswer required name get set, hright.map set⟩

lemma Describe.map_name (h : Describe entries fields) :
    entries.map Entry.name = fields.map Field.name := by
  induction h with
  | nil => rfl
  | cons hhead _ ih => rw [List.map_cons, List.map_cons, ih, hhead.name_eq]

lemma Describe.exists_entry (h : Describe entries fields) {field : Field S}
    (hfield : field ∈ fields) : ∃ entry ∈ entries, entry.Describes field := by
  induction h with
  | nil => exact absurd hfield List.not_mem_nil
  | @cons _ entry _ _ hhead _ ih =>
    rcases List.mem_cons.1 hfield with rfl | hfield
    · exact ⟨entry, List.mem_cons_self, hhead⟩
    · obtain ⟨entry, hmem, hentry⟩ := ih hfield
      exact ⟨entry, List.mem_cons_of_mem _ hmem, hentry⟩

/-- What is true of some field, by its name and its being required, is true of some entry. -/
lemma Describe.exists_iff (h : Describe entries fields) (p : String → Bool → Prop) :
    (∃ field ∈ fields, p field.name field.required)
      ↔ ∃ entry ∈ entries, p entry.name entry.required := by
  induction h with
  | nil => simp
  | cons hhead _ ih =>
    rw [List.exists_mem_cons_iff, List.exists_mem_cons_iff, ih, hhead.name_eq, hhead.required_eq]

/-- With different names, the outline of a name is that of its entry. -/
lemma named_eq (hnames : (entries.map Entry.name).Nodup) {entry : Entry}
    (hentry : entry ∈ entries) : named entries entry.name = entry.outline := by
  have honly : ∀ other ∈ entries, other.name = entry.name → other = entry :=
    fun other hother hname => List.inj_on_of_nodup_map hnames hother hentry hname
  have hfits : (named entries entry.name).Fits = entry.outline.Fits := by
    funext v
    refine propext ⟨fun h => h entry hentry rfl, fun h other hother hname => ?_⟩
    rwa [honly other hother hname]
  have hflawed : (named entries entry.name).Flawed = entry.outline.Flawed := by
    funext v
    refine propext ⟨?_, fun h => ⟨entry, hentry, rfl, h⟩⟩
    rintro ⟨other, hother, hname, h⟩
    rwa [honly other hother hname] at h
  calc named entries entry.name
      = ⟨(named entries entry.name).Fits, (named entries entry.name).Flawed⟩ := rfl
    _ = entry.outline := by rw [hfits, hflawed]

end Describe

namespace Outline

variable {r : Record S} {entries : List Entry}

/-- What is looked up as a field has an entry of the same name. -/
lemma exists_entry_of_field? (h : Describe entries r.fields) {key : String} {field : Field S}
    (hfield : r.field? key = some field) :
    ∃ entry ∈ entries, entry.name = key ∧ entry.Describes field := by
  obtain rfl : field.name = key := by simpa using List.find?_some hfield
  obtain ⟨entry, hentry, hdescribes⟩ := h.exists_entry (List.mem_of_find?_eq_some hfield)
  exact ⟨entry, hentry, hdescribes.name_eq.symm, hdescribes⟩

lemma judged_named (hnames : (r.fields.map Field.name).Nodup) (h : Describe entries r.fields) :
    r.Judged (named entries) where
  field := by
    intro key field hfield
    obtain ⟨entry, hentry, rfl, hdescribes⟩ := exists_entry_of_field? h hfield
    rw [named_eq (h.map_name ▸ hnames) hentry]
    exact hdescribes.judges
  other := by
    rintro key hkey v ⟨entry, hentry, hname, -⟩
    have hmem : key ∈ r.fields.map Field.name :=
      h.map_name ▸ hname ▸ List.mem_map_of_mem hentry
    obtain ⟨field, hfield, hname⟩ := List.mem_map.1 hmem
    exact Record.name_ne_of_field? hkey hfield hname

/-- The reader of a record judges by the outlines of its fields. -/
lemma judges_object (hnames : (r.fields.map Field.name).Nodup) (h : Describe entries r.fields) :
    (object entries).Judges r.format.read := by
  have hjudged := judged_named hnames h
  intro v
  cases v with
  | object ms =>
    obtain ⟨answer, hassembles, hrefused, hflaw⟩ :=
      Record.exists_assembles hjudged List.nodup_nil ms r.blank
    have hiff : r.Flaw (fun key => (named entries key).Flawed) [] ms
        ↔ (object entries).Flawed (.object ms) := by
      have hmissing := h.exists_iff fun name required => required = true ∧ name ∉ keys ms ++ []
      have hrepeated := h.exists_iff fun name _ => 1 < (keys ms ++ []).count name
      rw [Record.Flaw, hmissing, hrepeated, List.append_nil]
      simp [object]
    refine ⟨answer, hassembles.answers, fun hv => hrefused (hiff.2 hv), fun hfits hnone => ?_⟩
    obtain ⟨_, heq, hfits⟩ := hfits
    obtain rfl := Value.object.inj heq
    refine hiff.1 (hflaw (fun key field hfield _ v hv => ?_) hnone)
    obtain ⟨entry, hentry, rfl, -⟩ := exists_entry_of_field? h hfield
    rw [named_eq (h.map_name ▸ hnames) hentry]
    exact hfits entry hentry v hv
  | list vs =>
    have hfields : ∀ field ∈ r.fields, Decides field.read := fun field hfield =>
      (hjudged.field (Record.field?_of_mem hnames hfield)).decides
    obtain ⟨answer, hdeals⟩ := Record.exists_deals hfields r.blank vs
    refine ⟨answer, hdeals.answers, ?_, ?_⟩
    · rintro ⟨ms, heq, -⟩
      cases heq
    · rintro ⟨ms, heq, -⟩
      cases heq
  | null | bool | number | string =>
    refine ⟨none, r.answers_format_of_ne (by simp) (by simp), fun _ => rfl, ?_⟩
    rintro ⟨ms, heq, -⟩
    cases heq

end Outline
end SipStills.Json
