/-
# Decimal digits

Natural numbers written in decimal digits and read back.

Main statement: `valueFrom_digits` (reading undoes writing).
-/

namespace SipStills.Text

/-- The character of a digit. -/
def digitChar (d : Nat) : Char := Char.ofNat (48 + d)

/-- The value of a digit character. -/
def digitValue (c : Char) : Nat := c.toNat - 48

/-- Whether a character is one of the ten ASCII digits. -/
def isDigit (c : Char) : Bool := decide (48 ≤ c.toNat) && decide (c.toNat ≤ 57)

/-- The digits of a number, the leading one first. -/
def digits (n : Nat) : List Char :=
  if n < 10 then [digitChar n] else digits (n / 10) ++ [digitChar (n % 10)]
termination_by n
decreasing_by omega

/-- The number that `value` and the digits behind it write. -/
def valueFrom (value : Nat) (ds : List Char) : Nat :=
  ds.foldl (fun v c => v * 10 + digitValue c) value

theorem digitValue_digitChar {d : Nat} (h : d < 10) : digitValue (digitChar d) = d := by
  have : ∀ d, d < 10 → digitValue (digitChar d) = d := by decide
  exact this d h

theorem isDigit_digitChar {d : Nat} (h : d < 10) : isDigit (digitChar d) = true := by
  have : ∀ d, d < 10 → isDigit (digitChar d) = true := by decide
  exact this d h

/-- Reading the digits of a number gives the number. -/
theorem valueFrom_digits (n : Nat) : valueFrom 0 (digits n) = n := by
  induction n using Nat.strongRecOn with
  | ind n ih =>
    rw [digits]
    split
    · rename_i h
      simp [valueFrom, digitValue_digitChar h]
    · rename_i h
      have h10 := ih (n / 10) (by omega)
      simp only [valueFrom, List.foldl_append, List.foldl_cons, List.foldl_nil] at h10 ⊢
      rw [h10, digitValue_digitChar (by omega)]
      omega

/-- A number is written in digits only. -/
theorem isDigit_of_mem_digits (n : Nat) : ∀ c ∈ digits n, isDigit c = true := by
  induction n using Nat.strongRecOn with
  | ind n ih =>
    rw [digits]
    split
    · rename_i h
      intro c hc
      rw [List.mem_singleton.1 hc]
      exact isDigit_digitChar h
    · rename_i h
      intro c hc
      rcases List.mem_append.1 hc with hc | hc
      · exact ih (n / 10) (by omega) c hc
      · rw [List.mem_singleton.1 hc]
        exact isDigit_digitChar (by omega)

end SipStills.Text
