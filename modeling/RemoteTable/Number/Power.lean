/-!
Powers of two and ten of natural numbers, and the range of 64-bit words.
-/

namespace RemoteTable

/-- Two to the power `n`. -/
abbrev twoTo (n : Nat) : Nat :=
  Nat.pow 2 n

/-- Ten to the power `n`. -/
abbrev tenTo (n : Nat) : Nat :=
  Nat.pow 10 n

theorem twoTo_pos (n : Nat) : 0 < twoTo n :=
  Nat.two_pow_pos n

theorem twoTo_add (m n : Nat) : twoTo (m + n) = twoTo m * twoTo n :=
  Nat.pow_add 2 m n

theorem tenTo_pos (n : Nat) : 0 < tenTo n :=
  Nat.pow_pos (by decide)

/-- The least integer of 64 bits. -/
def leastInt64 : Int :=
  -9223372036854775808

/-- The greatest integer of 64 bits. -/
def greatestInt64 : Int :=
  9223372036854775807

/-- Whether an integer has 64 bits. -/
def IsInt64 (i : Int) : Prop :=
  leastInt64 ≤ i ∧ i ≤ greatestInt64

instance (i : Int) : Decidable (IsInt64 i) := by
  unfold IsInt64
  infer_instance

theorem isInt64_toInt (i : Int64) : IsInt64 i.toInt :=
  ⟨i.le_toInt, Int.le_of_lt_add_one i.toInt_lt⟩

end RemoteTable
