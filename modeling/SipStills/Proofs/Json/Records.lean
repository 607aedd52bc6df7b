/-
# Records that are restored

A record is written as an object of all its fields.  Reading the written fields one after the other
changes the record that reading starts from step by step (`Reads`); where these changes lead back to
the record that was written, its format restores it (`Record.restores_format`).

One step reads one member of an object (`readMembers_member`), and by induction over the fields all
of them are read (`readMembers_write`); the fields may be any of the record's, in any order, as long
as none of them comes twice.
-/
import Mathlib.Data.List.Nodup
import SipStills.Json.Record
import SipStills.Proofs.Json.Formats

namespace SipStills.Json

variable {S : Type}

/-- Reading the value of the field that was written for `s` makes the change `change`. -/
def Field.Sets (field : Field S) (s : S) (change : S → S) : Prop :=
  ∀ {rest : List Char}, Ends rest → field.read (field.write s ++ rest) = .ok (change, rest)

/-- A field whose format restores its value sets that value. -/
lemma Field.sets_make {α : Type} {format : Format α} {get : S → α} {s : S}
    (h : format.Restores (get s)) (required : Bool) (name : String) (set : α → S → S) :
    (Field.make required name format get set).Sets s (set (get s)) := by
  intro rest hrest
  simp only [Field.make, h.read_write hrest]

/-- Reading the fields that were written for `s` leads from one record to another. -/
inductive Reads (s : S) : List (Field S) → S → S → Prop where
  | nil (t : S) : Reads s [] t t
  | cons {field : Field S} {fields : List (Field S)} {change : S → S} {t t' : S}
      (hfield : field.Sets s change) (hfields : Reads s fields (change t) t') :
      Reads s (field :: fields) t t'

/-- A field of the given format is read as it was written. -/
lemma Reads.make {α : Type} {format : Format α} {get : S → α} {set : α → S → S} {s t t' : S}
    {required : Bool} {name : String} {fields : List (Field S)} (h : format.Restores (get s))
    (hfields : Reads s fields (set (get s) t) t') :
    Reads s (.make required name format get set :: fields) t t' :=
  .cons (Field.sets_make h required name set) hfields

namespace Record

/-! ### Looking fields up -/

lemma field?_of_mem {r : Record S} (hnames : (r.fields.map Field.name).Nodup) {field : Field S}
    (h : field ∈ r.fields) : r.field? field.name = some field :=
  Format.find?_nameOf h fun _ hother hname => List.inj_on_of_nodup_map hnames hother h hname

lemma missing?_eq_none {r : Record S} {seen : List String}
    (h : ∀ field ∈ r.fields, field.name ∈ seen) : r.missing? seen = none := by
  rw [missing?, List.find?_eq_none]
  intro field hfield
  simp [h field hfield]

/-! ### Members -/

/-- The member of a field. -/
def member (s : S) (field : Field S) : List Char := writeMember (field.name, field.write s)

lemma member_append (s : S) (field : Field S) (rest : List Char) :
    member s field ++ rest
      = '"' :: (field.name.toList.flatMap escape ++ '"' :: ':' :: (field.write s ++ rest)) := by
  rw [member, writeMember, List.append_assoc, writeString_append]
  rfl

/-- Reading one member makes its field's change. -/
lemma readMembers_member {r : Record S} {s : S} {field : Field S} {change : S → S}
    (hset : field.Sets s change) (hfield : r.field? field.name = some field) {seen : List String}
    (hseen : field.name ∉ seen) (fuel : Nat) (first : Bool) (t : S) {rest : List Char}
    (hrest : Ends rest) :
    r.readMembers (fuel + 1) first seen t
        ((if first then [] else [',']) ++ (member s field ++ rest))
      = r.readMembers fuel false (field.name :: seen) (change t) rest := by
  have hcontains : seen.contains field.name = false := by simpa using hseen
  have hcolon := colon_eq blank_nil (field.write s ++ rest)
  rw [List.nil_append] at hcolon
  rw [member_append, readMembers]
  simp only [nextKey_eq (lead_comma first), readString_writeString, hfield, hcontains,
    Bool.false_eq_true, if_false, hcolon, hset hrest]

/-- At the closing brace all required fields have to be there. -/
lemma readMembers_close {r : Record S} {seen : List String} (h : r.missing? seen = none)
    {gap : List Char} (hgap : Blank gap) (fuel : Nat) (first : Bool) (t : S) (rest : List Char) :
    r.readMembers (fuel + 1) first seen t (gap ++ '\x7d' :: rest) = .ok (t, rest) := by
  rw [readMembers]
  simp only [nextKey_close first hgap, h, closeObject_eq hgap]

lemma readMembers_write {r : Record S} {s t t' : S} {fields : List (Field S)}
    (hreads : Reads s fields t t') {seen : List String}
    (hfields : ∀ field ∈ fields, r.field? field.name = some field)
    (hnodup : (fields.map Field.name).Nodup) (hseen : ∀ field ∈ fields, field.name ∉ seen)
    (hmissing : r.missing? ((fields.map Field.name).reverse ++ seen) = none) {fuel : Nat}
    (hfuel : fields.length < fuel) (first : Bool) (rest : List Char) :
    r.readMembers fuel first seen t (itemsText first (fields.map (member s)) ++ '\x7d' :: rest)
      = .ok (t', rest) := by
  obtain ⟨fuel, rfl⟩ := Nat.exists_eq_succ_of_ne_zero (Nat.ne_of_gt (Nat.zero_lt_of_lt hfuel))
  induction hreads generalizing seen fuel first with
  | nil t => exact readMembers_close hmissing blank_nil fuel first t rest
  | @cons field fields change t t' hset hreads ih =>
    obtain ⟨hfield, hfields⟩ := List.forall_mem_cons.1 hfields
    obtain ⟨hname, hseen⟩ := List.forall_mem_cons.1 hseen
    obtain ⟨hnew, hnodup⟩ := List.nodup_cons.1 hnodup
    rw [List.length_cons] at hfuel
    obtain ⟨fuel, rfl⟩ := Nat.exists_eq_succ_of_ne_zero (show fuel ≠ 0 by omega)
    have hseen' : ∀ f ∈ fields, f.name ∉ field.name :: seen := by
      intro f hf hmem
      rcases List.mem_cons.1 hmem with heq | hmem
      · exact hnew (heq ▸ List.mem_map_of_mem hf)
      · exact hseen f hf hmem
    have hmissing' : r.missing? ((fields.map Field.name).reverse ++ field.name :: seen) = none := by
      rw [List.map_cons, List.reverse_cons, List.append_assoc] at hmissing
      exact hmissing
    have hends := ends_itemsText (.inr rfl) (fields.map (member s)) rest
    rw [List.map_cons, itemsText, List.append_assoc, List.append_assoc,
      readMembers_member hset hfield hname fuel.succ first t hends]
    exact ih hfields hnodup hseen' hmissing' false fuel (by omega)

/-! ### Records -/

/-- A record is restored if its fields differ in their names and reading them leads back to it. -/
lemma restores_format {r : Record S} {s : S} (hnames : (r.fields.map Field.name).Nodup)
    (hreads : Reads s r.fields r.blank s) : r.format.Restores s where
  opens := opens_cons (by decide) (by decide) _
  read_write := by
    intro rest _
    have hwrite : r.format.write s ++ rest
        = '\x7b' :: (itemsText true (r.fields.map (member s)) ++ '\x7d' :: rest) := by
      have hmembers : (r.fields.map fun field => (field.name, field.write s)).map writeMember
          = r.fields.map (member s) := by
        rw [List.map_map]
        rfl
      simp [format, write, writeObject, hmembers, separated_eq]
    have hlength : (r.fields.map (member s)).length
        ≤ (itemsText true (r.fields.map (member s))).length := by
      apply length_le_itemsText
      intro item hitem
      obtain ⟨field, -, rfl⟩ := List.mem_map.1 hitem
      exact Nat.succ_pos _
    have hmissing : r.missing? ((r.fields.map Field.name).reverse ++ []) = none := by
      apply missing?_eq_none
      intro field hfield
      rw [List.append_nil, List.mem_reverse]
      exact List.mem_map_of_mem hfield
    rw [hwrite]
    simp only [format, read, skipSpace_cons (show isSpace '\x7b' = false by decide),
      if_neg (show ¬ '\x7b' = '[' by decide), if_true]
    refine readMembers_write hreads (fun field hfield => field?_of_mem hnames hfield) hnames
      (fun field _ => List.not_mem_nil) hmissing ?_ true rest
    rw [List.length_map] at hlength
    rw [List.length_append]
    omega

/-- A written record is an object, so it is not taken for an absent value. -/
lemma write_format_ne (r : Record S) (s : S) (text : List Char) :
    r.format.write s ≠ 'n' :: text := by
  intro h
  exact absurd (List.cons.inj h).1 (by decide)

end Record
end SipStills.Json
