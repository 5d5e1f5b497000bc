import PartSourcing.Memory.Volatile
import PartSourcing.Proofs.Keyed
import PartSourcing.Proofs.Memory.Growth
import PartSourcing.Proofs.Names

/-!
# Memory that has grown

Sightings are remembered one after the other, and a breakdown ends that: what outlasts both
outlasts all that a search remembers (`rememberAll_induct`).

Memory that nothing but sightings has gone into (`Volatile.Grown`) holds each part number once
and in normal form, and under it a record that grew by sightings of that part.  Empty memory is
such (`Grown.empty`), and remembering sightings, in whatever number, keeps it such
(`Grown.rememberFresh`).  What is read from it is therefore a record of the part that was asked
for, with its vendors in order (`Grown.read`).
-/

namespace PartSourcing.Volatile

open PartSourcing.Calendar

/-! ## Records by their keys -/

theorem put_eq (k : String) (r : PartRecord) (ms : List (String × PartRecord)) :
    put k r ms = Keyed.place Prod.fst (k, r) ms := by
  induction ms with
  | nil => rfl
  | cons m ms ih => rw [put, Keyed.place, ih]

theorem mem_of_lookup {k : String} {r : PartRecord} {ms : List (String × PartRecord)}
    (h : ms.lookup k = some r) : (k, r) ∈ ms := by
  induction ms with
  | nil => exact absurd h (Option.some_ne_none r).symm
  | cons m ms ih =>
    obtain ⟨n, q⟩ := m
    by_cases hk : k = n
    · rw [List.lookup_cons, hk, beq_self_eq_true, Option.some_inj] at h
      rw [hk, h]
      exact List.mem_cons_self
    · rw [List.lookup_cons, beq_eq_false_iff_ne.mpr hk] at h
      exact List.mem_cons_of_mem _ (ih h)

/-! ## Sightings one after the other -/

section Steps

variable {v v' : Volatile} {clock : Nat → Instant} {s : Sighting} {rows : List Sighting}
  {r : PartRecord}

/-- A part number goes by its normal form. -/
theorem upsert?_normal (v : Volatile) (part : String) (s : Sighting) (now : Instant) :
    v.upsert? (PartNumber.normal part) s now = v.upsert? part s now := by
  rw [upsert?, upsert?, PartNumber.normal_normal]

theorem brokenDown_normal (v : Volatile) (part : String) :
    v.brokenDown (PartNumber.normal part) = v.brokenDown part := by
  rw [brokenDown, brokenDown, PartNumber.normal_normal]

/-- **A sighting is remembered** where the calendar reaches back far enough, as long as memory has
not broken down. -/
theorem upsert?_isSome (hv : v.poisoned = false) (part : String) (s : Sighting) (now : Instant) :
    (v.upsert? part s now).isSome = (now.minusDays? v.staleDays.toNat).isSome := by
  rw [upsert?, if_neg (ne_true_of_eq_false hv), Option.isSome_map, PartRecord.remember?_isSome]

/-- A sighting that is remembered is followed by the others. -/
theorem rememberAll_of_upsert? (hu : v.upsert? s.part s (clock 0) = some (r, v')) :
    store.rememberAll clock v (s :: rows) =
      store.rememberAll (fun n => clock (n + 1)) v' rows := by
  rw [Store.rememberAll]
  simp only [store, upsert?_normal, hu]

/-- **Memory that has broken down** remembers nothing more. -/
theorem rememberAll_of_poisoned (hv : v.poisoned = true) :
    store.rememberAll clock v rows = v := by
  induction rows generalizing clock with
  | nil => rfl
  | cons s rows ih =>
    have hu : v.upsert? s.part s (clock 0) = none := by rw [upsert?, if_pos hv]
    rw [Store.rememberAll]
    simp only [store, upsert?_normal, hu, hv, if_true]
    exact ih

/-- **A breakdown ends it all.** -/
theorem rememberAll_of_breakdown (hv : v.poisoned = false)
    (hu : v.upsert? s.part s (clock 0) = none) :
    store.rememberAll clock v (s :: rows) = v.brokenDown s.part := by
  rw [Store.rememberAll]
  simp only [store, upsert?_normal, hu, hv, Bool.false_eq_true, if_false, brokenDown_normal]

/-- **What outlasts a sighting and a breakdown** outlasts any number of sightings. -/
theorem rememberAll_induct {P : Volatile → Prop}
    (hupsert : ∀ v part s now r v', P v → v.upsert? part s now = some (r, v') → P v')
    (hbroken : ∀ v part, P v → P (v.brokenDown part)) (h : P v) (clock : Nat → Instant)
    (rows : List Sighting) : P (store.rememberAll clock v rows) := by
  refine Store.rememberAll_induct (fun s _ v now hv => ?_) h clock
  unfold store
  dsimp only
  split
  · rename_i r v' hu
    exact hupsert v _ s now r v' hv hu
  · split
    · exact hv
    · exact hbroken v _ hv

end Steps

/-! ## Memory filled by sightings -/

/-- **Memory that nothing but sightings has gone into.** -/
structure Grown (v : Volatile) : Prop where
  nodup : (v.records.map (·.1)).Nodup
  normal : ∀ m ∈ v.records, PartNumber.normal m.1 = m.1
  grows : ∀ m ∈ v.records, ∃ l, PartRecord.Grows m.1 l (some m.2)

theorem Grown.empty (staleDays : UInt32) : Grown { staleDays } where
  nodup := List.nodup_nil
  normal _ hm := absurd hm List.not_mem_nil
  grows _ hm := absurd hm List.not_mem_nil

variable {v : Volatile}

/-- A record that is kept has grown, and one that is not is about to. -/
theorem Grown.lookup (h : Grown v) (k : String) :
    ∃ l, PartRecord.Grows k l (v.records.lookup k) := by
  cases hr : v.records.lookup k with
  | none => exact ⟨[], .nothing⟩
  | some r => exact h.grows _ (mem_of_lookup hr)

theorem Grown.upsert {part : String} {s : Sighting} {now : Instant}
    {r : PartRecord} {v' : Volatile} (h : Grown v) (hu : v.upsert? part s now = some (r, v')) :
    Grown v' := by
  obtain ⟨-, hr, rfl⟩ := upsert?_eq_some_iff.mp hu
  obtain ⟨l, hl⟩ := h.lookup (PartNumber.normal part)
  have hmem {m : String × PartRecord} (hm : m ∈ put (PartNumber.normal part) r v.records) :
      m = (PartNumber.normal part, r) ∨ m ∈ v.records := by
    rw [put_eq] at hm
    exact ((Keyed.mem_place h.nodup).mp hm).imp_right And.left
  refine ⟨?_, fun m hm => ?_, fun m hm => ?_⟩
  · show ((put (PartNumber.normal part) r v.records).map (·.1)).Nodup
    rw [put_eq]
    exact Keyed.nodup_keys_place h.nodup _
  · rcases hmem hm with rfl | hm
    · exact PartNumber.normal_normal part
    · exact h.normal m hm
  · rcases hmem hm with rfl | hm
    · exact ⟨_, hl.sighting s hr⟩
    · exact h.grows m hm

theorem Grown.brokenDown (h : Grown v) (part : String) : Grown (v.brokenDown part) where
  nodup := h.nodup.sublist (List.filter_sublist.map _)
  normal m hm := h.normal m (List.mem_of_mem_filter hm)
  grows m hm := h.grows m (List.mem_of_mem_filter hm)

/-- **What a search remembers keeps memory grown.** -/
theorem Grown.rememberFresh (h : Grown v) (clock : Nat → Instant) (sightings : List Sighting) :
    Grown (store.rememberFresh clock v sightings) :=
  rememberAll_induct (fun _ _ _ _ _ _ hv hu => hv.upsert hu) (fun _ part hv => hv.brokenDown part)
    h clock _

/-- **The part numbers rise**, each standing once. -/
theorem Grown.parts_ascending (h : Grown v) : v.parts.Pairwise (· < ·) := by
  have hrule : Sorting.GoesBy (fun a b : String => decide (a ≤ b)) id :=
    fun _ _ => decide_eq_true_iff
  have hsorted : v.parts.Pairwise (· ≤ ·) := hrule.sorted _
  have hnodup : v.parts.Nodup := (List.mergeSort_perm _ _).nodup_iff.mpr h.nodup
  exact hsorted.imp₂ (fun _ _ hle hne => lt_of_le_of_ne hle hne) hnodup

/-- **What is read is a record of the part asked for**, its vendors in order. -/
theorem Grown.read (h : Grown v) {part : String} {r : PartRecord} (hr : v.read part = some r) :
    r.part = PartNumber.normal part ∧ VendorEntry.Ascending r.entries := by
  have hfiled : v.filed part = some r := by
    rw [Volatile.read] at hr
    split at hr
    · exact absurd hr (Option.some_ne_none r).symm
    · exact hr
  obtain ⟨l, hl⟩ := h.grows _ (mem_of_lookup hfiled)
  exact ⟨hl.part_eq.trans (PartNumber.normal_normal part), hl.ascending⟩

end PartSourcing.Volatile
