/-
# Byte strings

Byte strings are lists of octets.  This file holds what the stream and the event code ask
of them: whether enough bytes are there, the big-endian word of two bytes and its written
form, and the cut of a list into pieces of one size.

Main statements: `holds_iff` (the test for enough bytes), `word_ofWord` (reading undoes
writing) and `flatten_chunks` (cutting loses nothing).
-/

namespace SipStills

/-- A byte string. -/
abbrev Bytes := List UInt8

namespace Bytes

/-- Whether at least `n` bytes are there.  It looks at no more than `n` of them. -/
def holds : Nat → Bytes → Bool
  | 0, _ => true
  | _ + 1, [] => false
  | n + 1, _ :: bs => holds n bs

@[simp] theorem holds_iff (n : Nat) (bs : Bytes) : holds n bs = true ↔ n ≤ bs.length := by
  induction n generalizing bs with
  | zero => simp [holds]
  | succ n ih => cases bs <;> simp [holds, ih]

/-- The big-endian word of two bytes. -/
def word (high low : UInt8) : Nat := high.toNat * 256 + low.toNat

/-- The two bytes of a word, the high one first.  Only the low sixteen bits are written. -/
def ofWord (n : Nat) : Bytes := [UInt8.ofNat (n / 256), UInt8.ofNat n]

@[simp] theorem length_ofWord (n : Nat) : (ofWord n).length = 2 := rfl

theorem word_lt (high low : UInt8) : word high low < 65536 := by
  have h := high.toNat_lt
  have l := low.toNat_lt
  simp only [word]
  omega

theorem word_ofWord (n : Nat) (h : n < 65536) :
    word (UInt8.ofNat (n / 256)) (UInt8.ofNat n) = n := by
  simp only [word, UInt8.toNat_ofNat']
  omega

end Bytes

/-- A list cut into pieces of `size` elements; the last piece may be shorter.  Size zero
counts as one. -/
def chunks {α : Type} (size : Nat) : List α → List (List α)
  | [] => []
  | a :: as => (a :: as.take (size - 1)) :: chunks size (as.drop (size - 1))
termination_by as => as.length
decreasing_by simp only [List.length_drop, List.length_cons]; omega

@[simp] theorem chunks_nil {α : Type} (size : Nat) : chunks size ([] : List α) = [] := by
  simp [chunks]

theorem chunks_cons {α : Type} (size : Nat) (a : α) (as : List α) :
    chunks size (a :: as)
      = (a :: as.take (size - 1)) :: chunks size (as.drop (size - 1)) := by
  rw [chunks]

/-- Nothing is lost by cutting, and the order stays. -/
theorem flatten_chunks {α : Type} (size : Nat) (as : List α) : (chunks size as).flatten = as := by
  fun_induction chunks size as with
  | case1 => rfl
  | case2 a as ih => simp [ih]

end SipStills
