/-!
# Saturating counts

Counters of 32 bits and delays of 64 bits never wrap around: what does not fit stays at the
greatest value that does.
-/

namespace PartSourcing.Saturating

/-- The greatest 32-bit count. -/
def max32 : Nat := UInt32.size - 1

/-- The greatest 64-bit number. -/
def max64 : Nat := UInt64.size - 1

/-- One more, unless the count is full. -/
def succ (n : UInt32) : UInt32 := UInt32.ofNat (min max32 (n.toNat + 1))

/-- The product, or the greatest number if it does not fit. -/
def mul (a b : UInt64) : UInt64 := UInt64.ofNat (min max64 (a.toNat * b.toNat))

theorem toNat_succ (n : UInt32) : (succ n).toNat = min max32 (n.toNat + 1) := by
  have h : min max32 (n.toNat + 1) < UInt32.size := by unfold max32 UInt32.size; omega
  simpa [succ] using Nat.mod_eq_of_lt h

theorem toNat_mul (a b : UInt64) : (mul a b).toNat = min max64 (a.toNat * b.toNat) := by
  have h : min max64 (a.toNat * b.toNat) < UInt64.size := by unfold max64 UInt64.size; omega
  simpa [mul] using Nat.mod_eq_of_lt h

end PartSourcing.Saturating
