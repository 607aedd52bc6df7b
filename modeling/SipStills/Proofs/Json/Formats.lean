/-
# Formats that restore what they write

A format restores a value if reading the value's written form gives it back and stops right behind
it.  This is asked for with anything behind the written form that may follow a value (`Ends`), so
that it carries over to values inside lists and objects (`Format.Restores`).  The formats of texts,
numbers and named alternatives restore their values, and a format built from others restores what is
built from values that these restore.

Main statements: `Format.Restores.parse_render`, and `restores_…` for each way to build a format.
-/
import SipStills.Json.Format
import SipStills.Proofs.Json.Strings
import SipStills.Proofs.Json.Tokens

namespace SipStills.Json

namespace Format

variable {α β : Type}

/-- Reading the written form of `a` gives `a` back, whatever follows. -/
structure Restores (f : Format α) (a : α) : Prop where
  opens : Opens (f.write a)
  read_write : ∀ {rest : List Char}, Ends rest → f.read (f.write a ++ rest) = .ok (a, rest)

/-- Every value is restored from its text. -/
def RoundTrips (f : Format α) : Prop := ∀ a, f.parse (f.render a) = .ok a

lemma Restores.parse_render {f : Format α} {a : α} (h : f.Restores a) :
    f.parse (f.render a) = .ok a := by
  have hread := h.read_write ends_nil
  rw [List.append_nil] at hread
  rw [parse, render, String.toList_ofList, hread]
  rfl

lemma roundTrips_of_restores {f : Format α} (h : ∀ a, f.Restores a) : f.RoundTrips :=
  fun a => (h a).parse_render

/-! ### Texts, numbers and alternatives -/

lemma restores_text (expected text : String) : (Format.text expected).Restores text where
  opens := opens_cons (by decide) (by decide) _
  read_write := by
    intro rest _
    simp only [Format.text, writeString_append, readText,
      skipSpace_cons (show isSpace '"' = false by decide), if_true, readString_writeString]

/-- Numbers are restored up to the limit of their type, which is at most that of sixty-four
bits. -/
lemma restores_natBelow {limit n : Nat} (hn : n < limit) (hlimit : limit ≤ UInt64.size)
    (expected : String) : (natBelow limit expected).Restores n := by
  obtain ⟨c, cs, hds, hdigit, -⟩ := exists_digits_eq_cons n
  have hspace := isSpace_of_isDigit hdigit
  constructor
  · show Opens (Text.digits n)
    rw [hds]
    exact opens_cons hspace (ne_of_isDigit hdigit (by decide)) cs
  · intro rest hrest
    have hmax : n ≤ maxSignificand := by
      have : UInt64.size = maxSignificand + 1 := rfl
      omega
    have hnumber := readNumber_digits hmax hrest
    simp only [natBelow, readNat, hds, List.cons_append, skipSpace_cons hspace] at hnumber ⊢
    rw [if_neg (ne_of_isDigit hdigit (by decide)), if_pos hdigit, hnumber]
    simp only [Number.below, if_pos hn]

lemma restores_map {f : Format α} {forth : α → β} {back : β → α} {b : β}
    (h : f.Restores (back b)) (hback : forth (back b) = b) : (f.map forth back).Restores b where
  opens := h.opens
  read_write := by
    intro rest hrest
    simp only [Format.map, h.read_write hrest, hback]

lemma restores_uint8 (n : UInt8) : uint8.Restores n :=
  restores_map (restores_natBelow n.toNat_lt (by decide) _) (UInt8.ofNat_toNat)

lemma restores_uint16 (n : UInt16) : uint16.Restores n :=
  restores_map (restores_natBelow n.toNat_lt (by decide) _) (UInt16.ofNat_toNat)

lemma restores_uint32 (n : UInt32) : uint32.Restores n :=
  restores_map (restores_natBelow n.toNat_lt (by decide) _) (UInt32.ofNat_toNat)

lemma restores_size (n : UInt64) : size.Restores n :=
  restores_map (restores_natBelow n.toNat_lt (Nat.le_refl _) _) (UInt64.ofNat_toNat)

/-- What has a name of its own is found by its name. -/
lemma find?_nameOf {all : List α} {nameOf : α → String} {a : α} (ha : a ∈ all)
    (hname : ∀ b ∈ all, nameOf b = nameOf a → b = a) :
    all.find? (fun b => nameOf b == nameOf a) = some a := by
  cases hf : all.find? (fun b => nameOf b == nameOf a) with
  | none => exact absurd (List.find?_eq_none.1 hf a ha) (by simp)
  | some b =>
    have hb : nameOf b = nameOf a := by simpa using List.find?_some hf
    rw [hname b (List.mem_of_find?_eq_some hf) hb]

lemma restores_alternatives {all : List α} {nameOf : α → String} {a : α} (ha : a ∈ all)
    (hname : ∀ b ∈ all, nameOf b = nameOf a → b = a) :
    (alternatives all nameOf).Restores a where
  opens := opens_cons (by decide) (by decide) _
  read_write := by
    intro rest _
    simp only [alternatives, writeString_append, readAlternative,
      skipSpace_cons (show isSpace '"' = false by decide), if_true, readString_writeString,
      alternative, find?_nameOf ha hname]

/-! ### Values that may be absent -/

lemma restores_none (f : Format α) : f.optional.Restores none where
  opens := opens_cons (by decide) (by decide) _
  read_write := by
    intro rest _
    rfl

/-- A value that is there is restored if its text cannot be taken for an absent one. -/
lemma restores_some {f : Format α} {a : α} (h : f.Restores a)
    (hpresent : ∀ text, f.write a ≠ 'n' :: text) : f.optional.Restores (some a) where
  opens := h.opens
  read_write := by
    intro rest hrest
    have hskip := (h.opens.append rest).skipSpace_eq
    have hne : ∀ text, f.write a ++ rest ≠ 'n' :: text := by
      obtain ⟨c, cs, hwrite, -, -⟩ := h.opens
      rw [hwrite] at hpresent ⊢
      rintro text heq
      obtain rfl := (List.cons.inj heq).1
      exact hpresent cs rfl
    simp only [optional, hskip, h.read_write hrest]

lemma restores_optional {f : Format α} (h : ∀ a, f.Restores a)
    (hpresent : ∀ a text, f.write a ≠ 'n' :: text) (a : Option α) : f.optional.Restores a := by
  cases a with
  | none => exact restores_none f
  | some a => exact restores_some (h a) (hpresent a)

end Format

/-! ### Items in a row -/

/-- Items as they stand behind an opening bracket, or behind another item. -/
def itemsText : Bool → List (List Char) → List Char
  | _, [] => []
  | first, item :: items => (if first then [] else [',']) ++ item ++ itemsText false items

lemma separated_eq (items : List (List Char)) : separated items = itemsText true items := by
  induction items with
  | nil => rfl
  | cons item items ih =>
    cases items with
    | nil => simp [separated, itemsText]
    | cons next items => simp [separated, ih, itemsText]

lemma ends_itemsText {close : Char} (hclose : close = ']' ∨ close = '\x7d')
    (items : List (List Char)) (rest : List Char) :
    Ends (itemsText false items ++ close :: rest) := by
  cases items with
  | nil => exact ends_cons (.inr hclose) rest
  | cons item items => exact ends_cons (.inl rfl) _

/-- There are no more items than characters. -/
lemma length_le_itemsText (first : Bool) {items : List (List Char)}
    (h : ∀ item ∈ items, 0 < item.length) : items.length ≤ (itemsText first items).length := by
  induction items generalizing first with
  | nil => exact Nat.le_refl _
  | cons item items ih =>
    obtain ⟨hitem, hitems⟩ := List.forall_mem_cons.1 h
    have := ih false hitems
    simp only [itemsText, List.length_append, List.length_cons]
    omega

/-! ### Lists -/

namespace Format

variable {α : Type}

lemma readItems_write {f : Format α} {as : List α} (h : ∀ a ∈ as, f.Restores a) {fuel : Nat}
    (hfuel : as.length < fuel) (first : Bool) (rest : List Char) :
    readItems f.read fuel first (itemsText first (as.map f.write) ++ ']' :: rest)
      = .ok (as, rest) := by
  induction as generalizing fuel first with
  | nil =>
    obtain ⟨fuel, rfl⟩ := Nat.exists_eq_succ_of_ne_zero (Nat.ne_of_gt hfuel)
    have hnext := nextItem_close first blank_nil rest
    have hclose := closeList_eq blank_nil rest
    rw [List.nil_append] at hnext hclose
    simp only [List.map_nil, itemsText, List.nil_append, readItems, hnext, hclose]
  | cons a as ih =>
    obtain ⟨ha, has⟩ := List.forall_mem_cons.1 h
    rw [List.length_cons] at hfuel
    obtain ⟨fuel, rfl⟩ := Nat.exists_eq_succ_of_ne_zero (Nat.ne_of_gt (Nat.zero_lt_of_lt hfuel))
    have hread := ha.read_write (ends_itemsText (.inl rfl) (as.map f.write) rest)
    have hnext := nextItem_eq (lead_comma first)
      (ha.opens.append (itemsText false (as.map f.write) ++ ']' :: rest))
    simp only [List.map_cons, itemsText, List.append_assoc, readItems, hnext, hread,
      ih has (Nat.lt_of_succ_lt_succ hfuel) false]

/-- Lists are restored item by item. -/
lemma restores_list {f : Format α} {as : List α} (h : ∀ a ∈ as, f.Restores a) :
    f.list.Restores as where
  opens := opens_cons (by decide) (by decide) _
  read_write := by
    intro rest _
    have hwrite : f.list.write as ++ rest
        = '[' :: (itemsText true (as.map f.write) ++ ']' :: rest) := by
      simp [list, writeList, separated_eq]
    have hlength : (as.map f.write).length ≤ (itemsText true (as.map f.write)).length := by
      apply length_le_itemsText
      intro item hitem
      obtain ⟨a, ha, rfl⟩ := List.mem_map.1 hitem
      exact (h a ha).opens.length_pos
    rw [hwrite]
    simp only [list, skipSpace_cons (show isSpace '[' = false by decide), if_true]
    apply readItems_write h
    rw [List.length_map] at hlength
    rw [List.length_append]
    omega

end Format
end SipStills.Json
