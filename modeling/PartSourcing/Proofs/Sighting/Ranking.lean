import Mathlib.Data.String.Basic
import Mathlib.Order.WithBot
import PartSourcing.Proofs.Memory.Growth
import PartSourcing.Proofs.Sorting
import PartSourcing.Sighting.Ranking

/-!
# The order of the result

Ranks are compared field by field, and that is the lexicographic order of a tuple
(`Rank.le_iff`).  So the order is linear.  The tuple holds all that a vendor, a part and a stock
number say, so on sightings of different identities it is strict, and the ranked list is the only
arrangement of its sightings that is in order (`ranked_eq_of_perm`).

What it means for one sighting to stand before another is said without ranks by `Precedes`, level by
level.  Stock numbers are compared there as they are spelt, though identities hold their normal
forms; that is why the last level cannot leave two identities on a par, and it is all that is needed
(`precedes_iff`, `identity_eq_of_rankOf_eq`).
-/

namespace PartSourcing.Sighting

namespace Rank

/-- An optional text in the order in which a missing one comes first. -/
def bottomed : Option String → WithBot String
  | none => ⊥
  | some s => ↑s

theorem bottomed_injective : Function.Injective bottomed := by
  rintro (_ | a) (_ | b) h
  · rfl
  · exact absurd h (WithBot.bot_ne_coe)
  · exact absurd h (WithBot.coe_ne_bot)
  · exact congrArg some (WithBot.coe_injective h)

theorem leOption_iff (a b : Option String) :
    leOption a b = true ↔ bottomed a ≤ bottomed b := by
  cases a with
  | none => exact iff_of_true rfl bot_le
  | some a =>
    cases b with
    | none => exact iff_of_false Bool.false_ne_true (WithBot.not_coe_le_bot a)
    | some b => exact decide_eq_true_iff.trans WithBot.coe_le_coe.symm

/-- The fields of a rank in the order in which they decide. -/
def key (r : Rank) : Nat ×ₗ Nat ×ₗ Nat ×ₗ String ×ₗ String ×ₗ WithBot String :=
  toLex (r.shortfall, toLex (r.historical, toLex (r.priority, toLex (r.vendorKey,
    toLex (r.part, bottomed r.stockNumber)))))

theorem key_injective : Function.Injective key := by
  intro a b h
  cases a
  cases b
  simp only [key, EmbeddingLike.apply_eq_iff_eq, Prod.mk.injEq, bottomed_injective.eq_iff] at h
  simpa only [mk.injEq] using h

/-- **Comparing ranks is comparing their fields in order.** -/
theorem le_iff (a b : Rank) : a.le b = true ↔ a.key ≤ b.key :=
  Sorting.ite_lex_iff (Sorting.ite_lex_iff (Sorting.ite_lex_iff (Sorting.ite_lex_iff
    (Sorting.ite_lex_iff (leOption_iff _ _)))))

end Rank

/-- Of two sightings on a par, either both came from memory or neither did, and their identities
are equal. -/
theorem identity_eq_of_rankOf_eq {c : EngineConfig} {s t : Sighting}
    (h : rankOf c s = rankOf c t) :
    s.identity = t.identity ∧ s.isHistorical = t.isHistorical := by
  simp only [rankOf, Rank.mk.injEq] at h
  obtain ⟨-, hh, -, hv, hp, hs⟩ := h
  refine ⟨?_, ?_⟩
  · simp only [identity, hv, hp, hs]
  · revert hh
    cases s.isHistorical <;> cases t.isHistorical <;> simp

theorem ranked_perm (c : EngineConfig) (l : List Sighting) : (ranked c l).Perm l :=
  List.mergeSort_perm l _

/-- Sightings are ranked by what decides between them. -/
theorem rankOf_goesBy (c : EngineConfig) :
    Sorting.GoesBy (fun s t => (rankOf c s).le (rankOf c t)) fun s => (rankOf c s).key :=
  fun _ _ => Rank.le_iff _ _

/-- **The ranked list does not depend on the order of arrival**, as long as no two sightings are
on a par. -/
theorem ranked_eq_of_perm (c : EngineConfig) {l l' : List Sighting} (h : l.Perm l')
    (hpar : ∀ s ∈ l, ∀ t ∈ l, rankOf c s = rankOf c t → s = t) :
    ranked c l = ranked c l' := by
  refine (rankOf_goesBy c).mergeSort_eq_of_perm (fun s hs t ht hst => ?_) h
  exact hpar s hs t ht (Rank.key_injective hst)

/-! ## One sighting before another -/

/-- **One sighting stands before another** in a result.  The higher score decides; at one score a
fresh sighting stands before a historical one; then the standing does, the more authoritative one
first, and then vendor, part and stock number do, each in ascending order and a missing stock number
before any other. -/
def Precedes (c : EngineConfig) (s t : Sighting) : Prop :=
  t.composite < s.composite ∨ s.composite = t.composite ∧
    (s.isHistorical < t.isHistorical ∨ s.isHistorical = t.isHistorical ∧
      (c.priorityOf s.standing < c.priorityOf t.standing ∨
          c.priorityOf s.standing = c.priorityOf t.standing ∧
        (s.vendorKey < t.vendorKey ∨ s.vendorKey = t.vendorKey ∧
          (PartNumber.normal s.part < PartNumber.normal t.part ∨
              PartNumber.normal s.part = PartNumber.normal t.part ∧
            s.stockNumber < t.stockNumber))))

instance (c : EngineConfig) (s t : Sighting) : Decidable (Precedes c s t) :=
  have : Decidable (s.stockNumber < t.stockNumber) :=
    inferInstanceAs (Decidable (Option.lt (· < ·) s.stockNumber t.stockNumber))
  inferInstanceAs (Decidable (_ ∨ _ ∧ (_ ∨ _ ∧ (_ ∨ _ ∧ (_ ∨ _ ∧ (_ ∨ _ ∧ _))))))

theorem Rank.bottomed_lt_iff (a b : Option String) : bottomed a < bottomed b ↔ a < b := by
  rcases a with _ | a <;> rcases b with _ | b
  · exact iff_of_false (lt_irrefl _) Option.not_lt_none
  · exact iff_of_true (WithBot.bot_lt_coe b) Option.none_lt_some
  · exact iff_of_false not_lt_bot Option.not_lt_none
  · exact WithBot.coe_lt_coe.trans Option.some_lt_some.symm

/-- **To stand before another is to have the lesser rank.** -/
theorem precedes_iff {c : EngineConfig} {s t : Sighting} :
    Precedes c s t ↔ (rankOf c s).key < (rankOf c t).key := by
  have hs : s.composite.toNat < 256 := s.composite.toNat_lt
  have ht : t.composite.toNat < 256 := t.composite.toNat_lt
  -- a score is at most 255, so nothing is cut off where its shortfall is taken
  have hscore : 255 - s.composite.toNat < 255 - t.composite.toNat ↔
      t.composite < s.composite := by
    rw [UInt8.lt_iff_toNat_lt]
    omega
  have hsame : 255 - s.composite.toNat = 255 - t.composite.toNat ↔
      s.composite = t.composite := by
    rw [← UInt8.toNat_inj]
    omega
  have hfresh : s.isHistorical.toNat < t.isHistorical.toNat ↔
      s.isHistorical < t.isHistorical := by
    cases s.isHistorical <;> cases t.isHistorical <;> decide
  have hboth : s.isHistorical.toNat = t.isHistorical.toNat ↔
      s.isHistorical = t.isHistorical := by
    cases s.isHistorical <;> cases t.isHistorical <;> decide
  simp only [Precedes, Rank.key, rankOf, Prod.Lex.toLex_lt_toLex, Rank.bottomed_lt_iff, hscore,
    hsame, hfresh, hboth]

/-- **The ranked list is the one arrangement in order** of sightings whose identities differ, and
the same whatever order they come in. -/
theorem ranked_only_order (c : EngineConfig) {l : List Sighting} (h : (l.map identity).Nodup) :
    (ranked c l).Perm l ∧ (ranked c l).Pairwise (Precedes c) ∧
      ∀ l', l'.Perm l →
        ranked c l' = ranked c l ∧ (l'.Pairwise (Precedes c) → l' = ranked c l) := by
  -- a rank tells the identity, so it tells these sightings apart
  have hkey : ∀ s ∈ l, ∀ t ∈ l, (rankOf c s).key = (rankOf c t).key → s = t := by
    intro s hs t ht hst
    exact List.inj_on_of_nodup_map h hs ht (identity_eq_of_rankOf_eq (Rank.key_injective hst)).1
  have hperm : (ranked c l).Perm l := ranked_perm c l
  refine ⟨hperm, ?_, fun l' hl' => ⟨?_, fun hordered => ?_⟩⟩
  · have hnodup : (ranked c l).Nodup := hperm.nodup_iff.mpr (List.Nodup.of_map identity h)
    refine (((rankOf_goesBy c).sorted l).and hnodup).imp_of_mem ?_
    rintro s t hs ht ⟨hle, hne⟩
    have hlt : (rankOf c s).key < (rankOf c t).key := by
      refine lt_of_le_of_ne hle fun heq => hne ?_
      exact hkey s (hperm.mem_iff.mp hs) t (hperm.mem_iff.mp ht) heq
    exact precedes_iff.mpr hlt
  · exact ((rankOf_goesBy c).mergeSort_eq_of_perm hkey hl'.symm).symm
  · have hsorted : l'.Pairwise fun s t => (rankOf c s).key ≤ (rankOf c t).key :=
      hordered.imp fun hst => (precedes_iff.mp hst).le
    exact ((rankOf_goesBy c).mergeSort_eq_of_sorted hkey hl'.symm hsorted).symm

/-- Four offers of one part that are scored alike: a remembered one, two of a broker with and
without a stock number, and one read off a page. -/
def fourOffers : List Sighting := [
  { bare "acme" "AB1" .epoch .zero with isHistorical := true, stockNumber := some "S2" },
  { bare "acme" "ab 1" .epoch .zero with stockNumber := some "S1" },
  bare "acme" "AB1" .epoch .zero,
  { bare "beta" "AB1" .epoch .zero with standing := .scrape }]

/-- Where pages are listed twice and nothing else is listed, they come in just the other order. -/
theorem ranked_only_order_fourOffers :
    (fourOffers.map identity).Nodup ∧
    ranked { sourcePriority := [.scrape, .scrape] } fourOffers = fourOffers.reverse := by
  have h : (fourOffers.map identity).Nodup := by decide
  have hperm : fourOffers.reverse.Perm fourOffers := List.reverse_perm _
  have hordered : fourOffers.reverse.Pairwise
      (Precedes { sourcePriority := [.scrape, .scrape] }) := by decide
  exact ⟨h, (((ranked_only_order _ h).2.2 _ hperm).2 hordered).symm⟩

end PartSourcing.Sighting
