import Mathlib.Algebra.Group.Nat.Defs
import PartSourcing.SearchId

/-!
# Written identifiers

The one form in which identifiers are written is among the four that are read, and **what is
written reads back** (`SearchId.parse?_toText`).  The hexadecimal digits have the value they were
taken from (`hexFrom_hexText`), and taking the hyphens out puts the digits together again
(`ungroup?_grouped`).
-/

namespace PartSourcing.SearchId

theorem hexDigit?_digitChar : ∀ d : Fin 16, hexDigit? d.val.digitChar = some d.val := by
  decide

theorem hexFrom_append (v : Nat) (s t : List Char) :
    hexFrom v (s ++ t) = (hexFrom v s).bind fun w => hexFrom w t := by
  induction s generalizing v with
  | nil => rfl
  | cons c s ih =>
    rw [List.cons_append, hexFrom, hexFrom]
    cases hexDigit? c with
    | none => rfl
    | some d => exact ih (16 * v + d)

/-- **So many hexadecimal digits have the value of the last so many digits.** -/
theorem hexFrom_hexText (v k n : Nat) :
    hexFrom v (hexText k n) = some (16 ^ k * v + n % 16 ^ k) := by
  induction k generalizing n with
  | zero => simp [hexText, hexFrom, Nat.mod_one]
  | succ k ih =>
    have hdigit : hexDigit? (n % 16).digitChar = some (n % 16) :=
      hexDigit?_digitChar ⟨n % 16, Nat.mod_lt n (by decide)⟩
    have hmod : n % 16 ^ (k + 1) = 16 * (n / 16 % 16 ^ k) + n % 16 := by
      rw [Nat.pow_succ', Nat.mod_mul, Nat.add_comm]
    rw [hexText, hexFrom_append, ih, Option.bind_some, hexFrom, hdigit, Option.bind_some, hexFrom,
      hmod, Nat.pow_succ']
    refine congrArg some ?_
    rw [Nat.mul_add, Nat.mul_assoc, Nat.add_assoc]

theorem length_hexText (k n : Nat) : (hexText k n).length = k := by
  induction k generalizing n with
  | zero => rfl
  | succ k ih => rw [hexText, List.length_append, ih, List.length_singleton]

/-- Behind a group and its hyphen stands the rest. -/
theorem drop_group {g : List Char} {n : Nat} (h : g.length = n) (s : List Char) :
    (g ++ '-' :: s).drop (n + 1) = s := by
  rw [← h, ← List.drop_drop, List.drop_left, List.drop_one, List.tail_cons]

/-- The groups of some digits make them up. -/
theorem split_groups (ds : List Char) : ds.take 8 ++ (ds.drop 8).take 4 ++ (ds.drop 12).take 4 ++
    (ds.drop 16).take 4 ++ ds.drop 20 = ds := by
  have h (i k : Nat) : (ds.drop i).take k ++ ds.drop (i + k) = ds.drop i := by
    rw [← List.drop_drop, List.take_append_drop]
  rw [List.append_assoc, List.append_assoc, List.append_assoc, h 16 4, h 12 4, h 8 4,
    List.take_append_drop]

/-- **Taking the hyphens out** puts the groups together. -/
theorem ungroup?_grouped {a b c d e : List Char} (ha : a.length = 8) (hb : b.length = 4)
    (hc : c.length = 4) (hd : d.length = 4) (he : e.length = 12) :
    ungroup? (a ++ '-' :: (b ++ '-' :: (c ++ '-' :: (d ++ '-' :: e)))) =
      some (a ++ b ++ c ++ d ++ e) := by
  have h9 : (a ++ '-' :: (b ++ '-' :: (c ++ '-' :: (d ++ '-' :: e)))).drop 9 =
      b ++ '-' :: (c ++ '-' :: (d ++ '-' :: e)) := drop_group ha _
  have h14 : (a ++ '-' :: (b ++ '-' :: (c ++ '-' :: (d ++ '-' :: e)))).drop 14 =
      c ++ '-' :: (d ++ '-' :: e) := by
    rw [show (14 : Nat) = 9 + 5 from rfl, ← List.drop_drop, h9]
    exact drop_group hb _
  have h19 : (a ++ '-' :: (b ++ '-' :: (c ++ '-' :: (d ++ '-' :: e)))).drop 19 =
      d ++ '-' :: e := by
    rw [show (19 : Nat) = 14 + 5 from rfl, ← List.drop_drop, h14]
    exact drop_group hc _
  have h24 : (a ++ '-' :: (b ++ '-' :: (c ++ '-' :: (d ++ '-' :: e)))).drop 24 = e := by
    rw [show (24 : Nat) = 19 + 5 from rfl, ← List.drop_drop, h19]
    exact drop_group hd _
  unfold ungroup?
  rw [if_pos (by simp [ha, hb, hc, hd, he]), h9, h14, h19, h24, List.take_left' ha,
    List.take_left' hb, List.take_left' hc, List.take_left' hd]

/-- **What is written reads back.** -/
theorem parse?_toText (id : SearchId) : parse? id.toText = some id := by
  have hlen := length_hexText 32 id.bits.toNat
  have hdigits : hexDigits? id.toText.toList = some (hexText 32 id.bits.toNat) := by
    have hgroups := ungroup?_grouped
      (a := (hexText 32 id.bits.toNat).take 8) (b := ((hexText 32 id.bits.toNat).drop 8).take 4)
      (c := ((hexText 32 id.bits.toNat).drop 12).take 4)
      (d := ((hexText 32 id.bits.toNat).drop 16).take 4)
      (e := (hexText 32 id.bits.toNat).drop 20)
      (by simp [hlen]) (by simp [hlen]) (by simp [hlen]) (by simp [hlen]) (by simp [hlen])
    have htext : id.toText.toList = (hexText 32 id.bits.toNat).take 8 ++
        '-' :: (((hexText 32 id.bits.toNat).drop 8).take 4 ++
        '-' :: (((hexText 32 id.bits.toNat).drop 12).take 4 ++
        '-' :: (((hexText 32 id.bits.toNat).drop 16).take 4 ++
        '-' :: (hexText 32 id.bits.toNat).drop 20))) := by
      simp [toText]
    have hlength : id.toText.toList.length = 36 := by
      simp [htext, hlen]
    -- the other three forms are told apart by their lengths
    unfold hexDigits?
    rw [if_neg (by omega), if_neg (by omega), if_neg (by omega), htext, hgroups, split_groups]
  rw [parse?, hdigits, Option.bind_some, hexFrom_hexText, Option.map_some]
  have hmod : 16 ^ 32 * 0 + id.bits.toNat % 16 ^ 32 = id.bits.toNat := by
    rw [Nat.mul_zero, Nat.zero_add]
    exact Nat.mod_eq_of_lt id.bits.isLt
  rw [hmod, BitVec.ofNat_toNat, BitVec.setWidth_eq]

end PartSourcing.SearchId
