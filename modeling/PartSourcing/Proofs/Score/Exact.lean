import Mathlib.Analysis.SpecialFunctions.Pow.Real
import PartSourcing.Score.Arithmetic

/-!
# Exact arithmetic

The rules of this library are written for any type of numbers that has what scoring needs
(`ScoreNumber`).  With the reals in place of doubles nothing is rounded, every number is usable, and
the halving curve is the power of one half: a law about exact arithmetic is a law about the reals.
-/

namespace PartSourcing.ScoreNumber

/-- The reals as numbers to compute with. -/
noncomputable instance exactReal : ScoreNumber ℝ where
  ofNat n := n
  isFinite _ := true
  halved x := (1 / 2 : ℝ) ^ x
  nearest x := if 0 ≤ x then ⌊x + 1 / 2⌋ else -⌊-x + 1 / 2⌋

theorem ofNat_real (n : Nat) : (ofNat n : ℝ) = n := rfl

end PartSourcing.ScoreNumber
