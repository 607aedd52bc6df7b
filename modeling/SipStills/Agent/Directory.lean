/-
# The directory of accounts

An agent keeps a record of each account that it has created or heard of: the state of its
registration and the last snapshot.  The directory is ordered by account number.

Main statement: `Directory.get?_insert`, `Directory.get?_modify` and `Directory.get?_remove`
say what each change does to what can be looked up.
-/
import SipStills.Engine.Basic
import SipStills.Entries
import SipStills.Registration

namespace SipStills

/-- What is recorded about an account. -/
structure AccountRecord where
  /-- The state of its registration. -/
  state : RegState := .unregistered
  /-- The snapshot that came with the last answer of its registrar. -/
  info : Option AccountInfo := none
deriving DecidableEq

/-- A report entered into a record. -/
def AccountRecord.apply (r : AccountRecord) (report : RegReport) : AccountRecord where
  state := r.state.apply report
  info :=
    match report with
    | .started _ => r.info
    | .info snapshot => some snapshot

/-- The accounts of an agent. -/
structure Directory where
  /-- The records, by account number. -/
  entries : List (AccountId × AccountRecord) := []
deriving DecidableEq

namespace Directory

/-- The record of an account. -/
def get? (d : Directory) (id : AccountId) : Option AccountRecord :=
  (d.entries.find? fun x => x.1 == id).map (·.2)

/-- Whether there is a record of an account. -/
def contains (d : Directory) (id : AccountId) : Bool := (d.get? id).isSome

/-- The account numbers, in order. -/
def ids (d : Directory) : List AccountId := d.entries.map (·.1)

/-- A list of records with a blank one at its place. -/
def place (id : AccountId) : List (AccountId × AccountRecord) → List (AccountId × AccountRecord)
  | [] => [(id, {})]
  | x :: xs => if id < x.1 then (id, {}) :: x :: xs else x :: place id xs

/-- The directory with a record of an account; one that is there is kept. -/
def insert (d : Directory) (id : AccountId) : Directory :=
  if d.contains id then d else ⟨place id d.entries⟩

/-- The directory with the record of an account changed. -/
def modify (d : Directory) (id : AccountId) (f : AccountRecord → AccountRecord) : Directory :=
  ⟨d.entries.map fun x => if x.1 = id then (x.1, f x.2) else x⟩

/-- The directory without an account. -/
def remove (d : Directory) (id : AccountId) : Directory :=
  ⟨d.entries.filter fun x => x.1 != id⟩

theorem find?_place (id j : AccountId) (xs : List (AccountId × AccountRecord))
    (h : xs.find? (fun x => x.1 == id) = none) :
    (place id xs).find? (fun x => x.1 == j)
      = if j = id then some (id, {}) else xs.find? fun x => x.1 == j := by
  induction xs with
  | nil =>
    by_cases hj : j = id
    · simp [place, hj]
    · have : ¬ id = j := fun e => hj e.symm
      simp [place, hj, this]
  | cons x xs ih =>
    have hx : x.1 ≠ id := by simpa using List.find?_eq_none.1 h x (by simp)
    have hxs : xs.find? (fun x => x.1 == id) = none := by
      rwa [List.find?_cons_of_neg (by simpa using hx)] at h
    unfold place
    split
    · by_cases hj : j = id
      · simp [hj]
      · have : ¬ id = j := fun e => hj e.symm
        rw [List.find?_cons_of_neg (by simpa using this), if_neg hj]
    · by_cases hxj : x.1 = j
      · have hj : j ≠ id := fun hj => hx (hxj.trans hj)
        rw [List.find?_cons_of_pos (by simpa using hxj), if_neg hj,
          List.find?_cons_of_pos (by simpa using hxj)]
      · rw [List.find?_cons_of_neg (by simpa using hxj), ih hxs,
          List.find?_cons_of_neg (by simpa using hxj)]

/-- Inserting keeps all records and adds a blank one only where there was none. -/
theorem get?_insert (d : Directory) (id j : AccountId) :
    (d.insert id).get? j = if j = id then some ((d.get? id).getD {}) else d.get? j := by
  unfold insert contains
  split
  · rename_i h
    obtain ⟨r, hr⟩ := Option.isSome_iff_exists.1 h
    by_cases hj : j = id
    · simp [hj, hr]
    · simp [hj]
  · rename_i h
    have hnone : d.get? id = none := by simpa using h
    have hfind : d.entries.find? (fun x => x.1 == id) = none := by
      simpa [get?] using hnone
    simp only [get?, find?_place id j d.entries hfind]
    by_cases hj : j = id
    · simp [hj, hfind]
    · simp [hj]

/-- Changing a record changes that record. -/
theorem get?_modify (d : Directory) (id j : AccountId) (f : AccountRecord → AccountRecord) :
    (d.modify id f).get? j = if j = id then (d.get? id).map f else d.get? j := by
  obtain ⟨xs⟩ := d
  simp only [get?, modify]
  induction xs with
  | nil => simp
  | cons x xs ih =>
    rw [List.map_cons]
    have hkey : (if x.1 = id then (x.1, f x.2) else x).1 = x.1 := by split <;> rfl
    by_cases hj : x.1 = j
    · rw [List.find?_cons_of_pos (by simpa [hkey] using hj)]
      by_cases h : j = id
      · subst h
        rw [if_pos rfl, List.find?_cons_of_pos (by simpa using hj)]
        simp [hj]
      · rw [if_neg h, List.find?_cons_of_pos (by simpa using hj)]
        simp [show ¬ x.1 = id from fun e => h (hj.symm.trans e)]
    · rw [List.find?_cons_of_neg (by simpa [hkey] using hj), ih]
      by_cases h : j = id
      · subst h
        rw [if_pos rfl, if_pos rfl, List.find?_cons_of_neg (by simpa using hj)]
      · rw [if_neg h, if_neg h, List.find?_cons_of_neg (by simpa using hj)]

/-- Removing an account removes its record and no other. -/
theorem get?_remove (d : Directory) (id j : AccountId) :
    (d.remove id).get? j = if j = id then none else d.get? j := by
  rw [get?, remove, Entries.find?_without]
  split <;> rfl

end Directory
end SipStills
