/-
# Objects that say something of some fields

An object may leave fields of a record out, give the others in any order, and have members of names
that are none of the record's.  What it says is listed name by name (`Value.Says`); the record it is
answered with is the blank one after the changes that the listed values make, in the order of the
fields and not of the text (`Record.answers_says`).  The order of the text does not matter, because
changes of different fields commute.
-/
import Mathlib.Data.List.Perm.Basic
import Mathlib.Data.List.Pairwise
import SipStills.Proofs.Json.Answers

namespace SipStills.Json

variable {α S : Type}

/-! ### What an object says -/

/-- What is said of a field that is kept or not. -/
def given (kept : Bool) (kind : Value → Prop) : Option (Value → Prop) :=
  if kept then some kind else none

/-- What members say of a name: nothing, or one value of the given kind, once. -/
def Tells (ms : List (String × Value)) (name : String) : Option (Value → Prop) → Prop
  | none => ms.filter (fun m => m.1 = name) = []
  | some kind => ∃ v, ms.filter (fun m => m.1 = name) = [(name, v)] ∧ kind v

lemma tells_cons_of_ne {m : String × Value} {name : String} (h : m.1 ≠ name)
    {ms : List (String × Value)} {told : Option (Value → Prop)} :
    Tells (m :: ms) name told ↔ Tells ms name told := by
  cases told with
  | none => simp [Tells, h]
  | some kind => simp [Tells, h]

/-- What says something of the name of its first member says it there and nowhere else. -/
lemma Tells.of_cons {key : String} {v : Value} {ms : List (String × Value)}
    {told : Option (Value → Prop)} (h : Tells ((key, v) :: ms) key told) :
    ∃ kind, told = some kind ∧ kind v ∧ ∀ m ∈ ms, m.1 ≠ key := by
  have hhead : ((key, v) :: ms).filter (fun m => m.1 = key)
      = (key, v) :: ms.filter (fun m => m.1 = key) := List.filter_cons_of_pos (by simp)
  cases told with
  | none =>
    rw [Tells, hhead] at h
    cases h
  | some kind =>
    obtain ⟨w, hfilter, hkind⟩ := h
    rw [hhead] at hfilter
    obtain ⟨heq, hnil⟩ := List.cons.inj hfilter
    obtain rfl := (Prod.mk.inj heq).2
    refine ⟨kind, rfl, hkind, fun m hm hname => ?_⟩
    simpa using List.filter_eq_nil_iff.1 hnil m hm (by simpa using hname)

/-! ### Kinds of values -/

namespace Value

/-- A string that spells the given text. -/
def IsText (s : String) (v : Value) : Prop := ∃ text, v = .string text ∧ Spells text s.toList

/-- The digits of the given number. -/
def IsNat (n : Nat) (v : Value) : Prop := v = .number (Text.digits n)

/-- A value of a kind, or `null` where there is none. -/
def IsOption (kind : α → Value → Prop) : Option α → Value → Prop
  | none, v => v = .null
  | some a, v => kind a v

/-- A list of values of the given kinds. -/
def IsList (kinds : List (Value → Prop)) (v : Value) : Prop :=
  ∃ vs, v = .list vs ∧ List.Forall₂ (fun kind v => kind v) kinds vs

/-- The value is an object that says of each of the listed names what is listed with it.  Its
members may come in any order, and there may be any members of other names. -/
def Says (entries : List (String × Option (Value → Prop))) (v : Value) : Prop :=
  ∃ ms, v = .object ms ∧ ∀ entry ∈ entries, Tells ms entry.1 entry.2

lemma Says.ne_null {entries : List (String × Option (Value → Prop))} {v : Value}
    (h : v.Says entries) : v ≠ .null := by
  obtain ⟨ms, rfl, -⟩ := h
  exact Value.noConfusion

lemma IsText.ne_null {s : String} {v : Value} (h : v.IsText s) : v ≠ .null := by
  obtain ⟨text, rfl, -⟩ := h
  exact Value.noConfusion

end Value

lemma Value.isText_quote (s : String) : (Value.quote s).IsText s :=
  ⟨_, rfl, spells_flatMap_escape s.toList⟩

namespace Format

lemma answers_isText (expected : String) {s : String} {v : Value} (h : v.IsText s) :
    Answers (Format.text expected).read v (some s) := by
  obtain ⟨text, rfl, hspells⟩ := h
  exact answers_text expected hspells

lemma answers_uint8 {n : UInt8} {v : Value} (h : v.IsNat n.toNat) :
    Answers uint8.read v (some n) := by
  have := answers_map (answers_natBelow n.toNat_lt (by decide) "u8") UInt8.ofNat UInt8.toNat
  rwa [Option.map_some, UInt8.ofNat_toNat, ← h] at this

lemma answers_uint16 {n : UInt16} {v : Value} (h : v.IsNat n.toNat) :
    Answers uint16.read v (some n) := by
  have := answers_map (answers_natBelow n.toNat_lt (by decide) "u16") UInt16.ofNat UInt16.toNat
  rwa [Option.map_some, UInt16.ofNat_toNat, ← h] at this

lemma answers_uint32 {n : UInt32} {v : Value} (h : v.IsNat n.toNat) :
    Answers uint32.read v (some n) := by
  have := answers_map (answers_natBelow n.toNat_lt (by decide) "u32") UInt32.ofNat UInt32.toNat
  rwa [Option.map_some, UInt32.ofNat_toNat, ← h] at this

lemma answers_size {n : UInt64} {v : Value} (h : v.IsNat n.toNat) :
    Answers size.read v (some n) := by
  have := answers_map (answers_natBelow n.toNat_lt (Nat.le_refl _) "usize")
    UInt64.ofNat UInt64.toNat
  rwa [Option.map_some, UInt64.ofNat_toNat, ← h] at this

lemma answers_isOption {f : Format α} {kind : α → Value → Prop} {change : α → α}
    (hkind : ∀ a v, kind a v → v ≠ .null ∧ Answers f.read v (some (change a))) {o : Option α}
    {v : Value} (h : Value.IsOption kind o v) :
    Answers f.optional.read v (some (o.map change)) := by
  cases o with
  | none =>
    obtain rfl : v = .null := h
    exact answers_null f
  | some a =>
    obtain ⟨hv, hanswer⟩ := hkind a v h
    exact answers_optional hanswer hv

lemma answers_isList {f : Format α} {kinds : List (Value → Prop)} {as : List α}
    (hkinds : List.Forall₂ (fun kind a => ∀ v, kind v → Answers f.read v (some a)) kinds as)
    {v : Value} (h : v.IsList kinds) : Answers f.list.read v (some as) := by
  obtain ⟨vs, rfl, hvs⟩ := h
  have hanswers : List.Forall₂ (Answers f.read) vs (as.map some) := by
    induction hkinds generalizing vs with
    | nil =>
      cases hvs
      exact .nil
    | cons hkind _ ih =>
      cases hvs with
      | cons hv hvs => exact .cons (hkind _ hv) (ih _ hvs)
  exact mapM_id_map_some as ▸ answers_list hanswers

end Format

/-! ### Answers to partial objects -/

/-- What an object says of a field, with the change that it makes to a record. -/
structure Telling (S : Type) where
  /-- The field. -/
  field : Field S
  /-- The kind of its values, or nothing where the field is left out. -/
  told : Option (Value → Prop)
  /-- The change that these values make; none where the field is left out. -/
  change : S → S

/-- The field may be left out and the record is not changed, or the values make the change. -/
def Telling.Holds (x : Telling S) : Prop :=
  match x.told with
  | none => x.field.required = false ∧ ∀ s, x.change s = s
  | some kind => ∀ v, kind v → Answers x.field.read v (some x.change)

/-- What is listed for an object, field by field, and the changes that it makes. -/
def Lists (fields : List (Field S)) (entries : List (String × Option (Value → Prop)))
    (changes : List (S → S)) : Prop :=
  ∃ xs : List (Telling S), xs.map Telling.field = fields
    ∧ xs.map (fun x => (x.field.name, x.told)) = entries ∧ xs.map Telling.change = changes
    ∧ ∀ x ∈ xs, x.Holds

namespace Lists

variable {fields : List (Field S)} {entries : List (String × Option (Value → Prop))}
  {changes : List (S → S)}

lemma nil : Lists ([] : List (Field S)) [] [] :=
  ⟨[], rfl, rfl, rfl, fun _ h => absurd h List.not_mem_nil⟩

lemma cons {x : Telling S} (hx : x.Holds) (h : Lists fields entries changes) :
    Lists (x.field :: fields) ((x.field.name, x.told) :: entries) (x.change :: changes) := by
  obtain ⟨xs, rfl, rfl, rfl, hxs⟩ := h
  exact ⟨x :: xs, rfl, rfl, rfl, List.forall_mem_cons.2 ⟨hx, hxs⟩⟩

variable {required : Bool} {name : String} {format : Format α} {get : S → α} {set : α → S → S}

/-- A field that is there sets what its value is answered with. -/
lemma told {kind : Value → Prop} {a : α} (hkind : ∀ v, kind v → Answers format.read v (some a))
    (h : Lists fields entries changes) :
    Lists (.make required name format get set :: fields) ((name, some kind) :: entries)
      (set a :: changes) := by
  have hholds : (⟨.make required name format get set, some kind, set a⟩ : Telling S).Holds := by
    intro v hv
    exact answers_make (hkind v hv) required name get set
  exact cons hholds h

/-- A field that is kept is set, and one that is left out stays as it is. -/
lemma kept {kept : Bool} {kind : Value → Prop} {a : α}
    (hkind : ∀ v, kind v → Answers format.read v (some a)) (hset : ∀ s, set (get s) s = s)
    (h : Lists fields entries changes) :
    Lists (.plain name format get set :: fields)
      ((name, given kept kind) :: entries)
      ((fun s => set (if kept then a else get s) s) :: changes) := by
  cases kept with
  | true => exact told hkind h
  | false =>
    exact cons (x := ⟨.plain name format get set, none, fun s => set (get s) s⟩) ⟨rfl, hset⟩ h

/-- The same for a field of which some parts may be kept. -/
lemma part {κ : Type} {kept : Option κ} {kind : κ → Value → Prop} (a : κ → α)
    (hkind : ∀ k v, kind k v → Answers format.read v (some (a k)))
    (hset : ∀ s, set (get s) s = s) (h : Lists fields entries changes) :
    Lists (.plain name format get set :: fields) ((name, kept.map kind) :: entries)
      ((fun s => set (kept.elim (get s) a) s) :: changes) := by
  cases kept with
  | some k => exact told (hkind k) h
  | none =>
    exact cons (x := ⟨.plain name format get set, none, fun s => set (get s) s⟩) ⟨rfl, hset⟩ h

end Lists

/-- Two changes may be made in either order. -/
def Swaps (change change' : S → S) : Prop := ∀ s, change (change' s) = change' (change s)

namespace Record

/-- The tellings whose fields are still to come. -/
def toCome (xs : List (Telling S)) (seen : List String) : List (Telling S) :=
  xs.filter fun x => x.field.name ∉ seen

lemma mem_toCome {xs : List (Telling S)} {seen : List String} {x : Telling S} :
    x ∈ toCome xs seen ↔ x ∈ xs ∧ x.field.name ∉ seen := by
  simp [toCome]

section Assemble

variable {r : Record S} {xs : List (Telling S)}

/-- Seeing one field takes its telling, and no other, out of those to come. -/
lemma toCome_perm (hnames : (xs.map fun x => x.field.name).Nodup) {x : Telling S} (hx : x ∈ xs)
    {seen : List String} (hseen : x.field.name ∉ seen) :
    (toCome xs seen).Perm (x :: toCome xs (x.field.name :: seen)) := by
  have hnodup : ∀ seen, (toCome xs seen).Nodup := fun _ => (List.Nodup.of_map _ hnames).filter _
  have hnew : x ∉ toCome xs (x.field.name :: seen) := by simp [mem_toCome]
  rw [List.perm_ext_iff_of_nodup (hnodup seen) (List.nodup_cons.2 ⟨hnew, hnodup _⟩)]
  intro y
  rw [List.mem_cons, mem_toCome, mem_toCome, List.mem_cons, not_or]
  constructor
  · rintro ⟨hy, hyseen⟩
    by_cases hname : y.field.name = x.field.name
    · exact .inl (List.inj_on_of_nodup_map hnames hy hx hname)
    · exact .inr ⟨hy, hname, hyseen⟩
  · rintro (rfl | ⟨hy, -, hyseen⟩)
    · exact ⟨hx, hseen⟩
    · exact ⟨hy, hyseen⟩

/-- The change of a field that is seen may be made first. -/
lemma foldl_toCome (hnames : (xs.map fun x => x.field.name).Nodup)
    (hswaps : ∀ x ∈ xs, ∀ y ∈ xs, Swaps x.change y.change) {x : Telling S} (hx : x ∈ xs)
    {seen : List String} (hseen : x.field.name ∉ seen) (t : S) :
    (toCome xs seen).foldl (fun s x => x.change s) t
      = (toCome xs (x.field.name :: seen)).foldl (fun s x => x.change s) (x.change t) := by
  have hswap : ∀ y ∈ toCome xs seen, ∀ z ∈ toCome xs seen, ∀ s,
      z.change (y.change s) = y.change (z.change s) := by
    intro y hy z hz s
    exact hswaps z (mem_toCome.1 hz).1 y (mem_toCome.1 hy).1 s
  exact (toCome_perm hnames hx hseen).foldl_eq' hswap t

/-- Fields that are left out change nothing. -/
lemma foldl_of_still {ys : List (Telling S)} (h : ∀ y ∈ ys, ∀ s, y.change s = s) (t : S) :
    ys.foldl (fun s x => x.change s) t = t := by
  induction ys with
  | nil => rfl
  | cons y ys ih =>
    obtain ⟨hy, hys⟩ := List.forall_mem_cons.1 h
    rw [List.foldl_cons, hy t, ih hys]

/-- An object is assembled to the changes that its members tell, whatever their order: those of the
fields that are still to come, in the order of the fields. -/
lemma assembles_of_tells (hnames : (xs.map fun x => x.field.name).Nodup)
    (hfields : xs.map Telling.field = r.fields) (hholds : ∀ x ∈ xs, x.Holds)
    (hswaps : ∀ x ∈ xs, ∀ y ∈ xs, Swaps x.change y.change)
    {ms : List (String × Value)} {seen : List String} (t : S)
    (hms : ∀ x ∈ toCome xs seen, Tells ms x.field.name x.told) (hseen : ∀ m ∈ ms, m.1 ∉ seen) :
    r.Assembles seen t ms (some ((toCome xs seen).foldl (fun s x => x.change s) t)) := by
  induction ms generalizing seen t with
  | nil =>
    have hout : ∀ x ∈ toCome xs seen, x.told = none := by
      intro x hx
      cases htold : x.told with
      | none => rfl
      | some kind =>
        obtain ⟨v, hfilter, -⟩ := htold ▸ hms x hx
        exact absurd hfilter (by simp)
    have hstill : ∀ x ∈ toCome xs seen, x.field.required = false ∧ ∀ s, x.change s = s := by
      intro x hx
      have hx' := hholds x (mem_toCome.1 hx).1
      rwa [Telling.Holds, hout x hx] at hx'
    rw [foldl_of_still (fun x hx => (hstill x hx).2) t]
    refine .done (List.find?_eq_none.2 fun field hfield => ?_)
    rw [← hfields] at hfield
    obtain ⟨x, hx, rfl⟩ := List.mem_map.1 hfield
    by_cases hname : x.field.name ∈ seen
    · simp [hname]
    · simp [(hstill x (mem_toCome.2 ⟨hx, hname⟩)).1]
  | cons m ms ih =>
    obtain ⟨key, v⟩ := m
    obtain ⟨hkey, hrest⟩ := List.forall_mem_cons.1 hseen
    cases hfield : r.field? key with
    | none =>
      refine .unknown hfield (ih t (fun x hx => ?_) hrest)
      have hne : key ≠ x.field.name := by
        rintro rfl
        have hx' : x.field ∈ r.fields := hfields ▸ List.mem_map_of_mem (mem_toCome.1 hx).1
        simpa using List.find?_eq_none.1 hfield x.field hx'
      exact (tells_cons_of_ne hne).1 (hms x hx)
    | some field =>
      have hmem : field ∈ xs.map Telling.field := hfields ▸ List.mem_of_find?_eq_some hfield
      obtain ⟨x, hx, rfl⟩ := List.mem_map.1 hmem
      obtain rfl : x.field.name = key := by simpa using List.find?_some hfield
      obtain ⟨kind, htold, hkind, hnone⟩ := (hms x (mem_toCome.2 ⟨hx, hkey⟩)).of_cons
      have hanswer : Answers x.field.read v (some x.change) := by
        have hx' := hholds x hx
        rw [Telling.Holds, htold] at hx'
        exact hx' v hkind
      rw [foldl_toCome hnames hswaps hx hkey]
      refine .told hfield hkey hanswer (ih (x.change t) (fun y hy => ?_) fun m hm => ?_)
      · obtain ⟨hy, hyseen⟩ := mem_toCome.1 hy
        obtain ⟨hne, hyseen⟩ := not_or.1 (List.mem_cons.not.1 hyseen)
        exact (tells_cons_of_ne (Ne.symm hne)).1 (hms y (mem_toCome.2 ⟨hy, hyseen⟩))
      · rw [List.mem_cons, not_or]
        exact ⟨hnone m hm, hrest m hm⟩

end Assemble

/-- An object is answered with the blank record after the changes that are listed for it. -/
lemma answers_says {r : Record S} {entries : List (String × Option (Value → Prop))} {v : Value}
    (hv : v.Says entries) (hnames : (r.fields.map Field.name).Nodup) {changes : List (S → S)}
    (hlists : Lists r.fields entries changes) (hswaps : changes.Pairwise Swaps) {s : S}
    (hs : changes.foldl (fun s change => change s) r.blank = s) :
    Answers r.format.read v (some s) := by
  obtain ⟨xs, hfields, rfl, rfl, hholds⟩ := hlists
  obtain ⟨ms, rfl, htells⟩ := hv
  have hall : toCome xs [] = xs := by simp [toCome]
  rw [← hfields, List.map_map] at hnames
  have : Std.Symm (Swaps (S := S)) := ⟨fun _ _ h s => (h s).symm⟩
  have hswap : ∀ x ∈ xs, ∀ y ∈ xs, Swaps x.change y.change := fun x hx y hy =>
    hswaps.forall_of_forall (fun _ _ _ => rfl) (List.mem_map_of_mem hx) (List.mem_map_of_mem hy)
  have hnone : ∀ m ∈ ms, m.1 ∉ ([] : List String) := fun _ _ => List.not_mem_nil
  have hassembles := assembles_of_tells hnames hfields hholds hswap r.blank
    (fun x hx => htells _ (List.mem_map_of_mem (mem_toCome.1 hx).1)) hnone
  rw [hall] at hassembles
  rw [← hs, List.foldl_map]
  exact hassembles.answers

end Record
end SipStills.Json
