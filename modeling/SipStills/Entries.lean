/-
# Lists of named entries

Tables are kept as lists of pairs of a name and what it stands for, and looked up by the first
pair of a name.  This file says what is looked up after a name was taken out, and after it was
given a new meaning.

Main statements: `find?_without`, `find?_renewed`.
-/

namespace SipStills.Entries

variable {α β : Type} [DecidableEq α]

/-- Taking a name out takes out no other. -/
theorem find?_without (name other : α) (xs : List (α × β)) :
    (xs.filter fun x => x.1 != name).find? (fun x => x.1 == other)
      = if other = name then none else xs.find? fun x => x.1 == other := by
  rw [List.find?_filter]
  split
  · rename_i h
    simp [h]
  · rename_i h
    congr 1
    funext x
    by_cases hx : x.1 = other
    · simp [hx, h]
    · simp [hx]

/-- A name that is given a new meaning has that meaning, and all others have the old ones. -/
theorem find?_renewed (name other : α) (b : β) (xs : List (α × β)) :
    ((name, b) :: xs.filter fun x => x.1 != name).find? (fun x => x.1 == other)
      = if other = name then some (name, b) else xs.find? fun x => x.1 == other := by
  split
  · rename_i h
    rw [List.find?_cons_of_pos (by simp [h])]
  · rename_i h
    rw [List.find?_cons_of_neg (by simpa using Ne.symm h), find?_without, if_neg h]

end SipStills.Entries
