import PartSourcing.Proofs.Memory.Grown
import PartSourcing.Proofs.Sighting.Offers

/-!
# What memory holds

Memory holds some sightings if what is read of a part, in whatever spelling, is what the sightings
of that part have made, in their order (`Volatile.Holds`).  Empty memory holds none, and neither
does memory that has broken down.  Remembering one more adds it to its part and leaves every other
part as it was (`Holds.upsert`).

A search remembers its fresh rows one after the other.  Where all of them can be remembered, memory
holds them besides those it held before (`Holds.rememberFresh?`); in any case it holds no others
(`Holds.rememberFresh`).
-/

namespace PartSourcing

open PartSourcing.Calendar

namespace Volatile

/-- **Memory that holds some sightings**: of each part it has what the sightings of that part have
made. -/
def Holds (told : List Sighting) (v : Volatile) : Prop :=
  ∀ part, PartRecord.Grows (PartNumber.normal part) (Sighting.ofPart part told) (v.read part)

theorem Holds.empty (staleDays : UInt32) : Holds [] { staleDays } := fun _ => .nothing

/-- Of memory that has broken down nothing can be told. -/
theorem Holds.of_poisoned {v : Volatile} (hv : v.poisoned = true) : Holds [] v := by
  intro part
  rw [read_of_poisoned hv]
  exact .nothing

variable {told : List Sighting} {v v' : Volatile} {clock : Nat → Instant} {rows : List Sighting}

/-- **One more sighting is held** by its own part, and no other part has changed. -/
theorem Holds.upsert (h : Holds told v) {s : Sighting} {now : Instant} {r : PartRecord}
    (hu : v.upsert? s.part s now = some (r, v')) : Holds (told ++ [s]) v' := by
  obtain ⟨hv, hr, -⟩ := upsert?_eq_some_iff.mp hu
  intro part
  rw [read_of_upsert? hu]
  by_cases hpart : PartNumber.normal part = PartNumber.normal s.part
  · rw [if_pos hpart, Sighting.ofPart_concat_of_same hpart]
    have hgrows := h part
    rw [read_of_not_poisoned hv, filed, hpart] at hgrows
    rw [hpart]
    exact hgrows.sighting s hr
  · rw [if_neg hpart, Sighting.ofPart_concat_of_ne hpart]
    exact h part

/-! ## Sightings that are all remembered -/

theorem rememberAll?_cons_eq_some_iff {s : Sighting} :
    rememberAll? clock v (s :: rows) = some v' ↔ ∃ r v₁,
      v.upsert? s.part s (clock 0) = some (r, v₁) ∧
        rememberAll? (fun n => clock (n + 1)) v₁ rows = some v' := by
  rw [rememberAll?, Option.bind_eq_some_iff, Prod.exists]

/-- **All can be remembered** where the calendar reaches back far enough from each. -/
theorem rememberAll?_isSome (hv : v.poisoned = false)
    (h : ∀ n < rows.length, ((clock n).minusDays? v.staleDays.toNat).isSome = true) :
    (rememberAll? clock v rows).isSome = true := by
  induction rows generalizing v clock with
  | nil => rfl
  | cons s rows ih =>
    obtain ⟨⟨r, v₁⟩, hu⟩ := Option.isSome_iff_exists.mp
      ((upsert?_isSome hv s.part s (clock 0)).trans (h 0 (Nat.succ_pos _)))
    obtain ⟨-, hv₁, hstale⟩ := of_upsert? hu
    rw [rememberAll?, hu]
    exact ih hv₁ fun n hn => by rw [hstale]; exact h (n + 1) (Nat.succ_lt_succ hn)

/-- Memory that remembers all has not broken down. -/
theorem poisoned_of_rememberAll? (hv : v.poisoned = false)
    (h : rememberAll? clock v rows = some v') : v'.poisoned = false := by
  induction rows generalizing v clock with
  | nil =>
    obtain rfl : v = v' := Option.some.inj h
    exact hv
  | cons s rows ih =>
    obtain ⟨r, v₁, hu, hrest⟩ := rememberAll?_cons_eq_some_iff.mp h
    exact ih (of_upsert? hu).2.1 hrest

/-- Memory that remembers all is the one that is left. -/
theorem rememberAll_eq (h : rememberAll? clock v rows = some v') :
    store.rememberAll clock v rows = v' := by
  induction rows generalizing v clock with
  | nil => exact Option.some.inj h
  | cons s rows ih =>
    obtain ⟨r, v₁, hu, hrest⟩ := rememberAll?_cons_eq_some_iff.mp h
    rw [rememberAll_of_upsert? hu, ih hrest]

/-- **Of what a search remembers memory holds all**, if all can be remembered. -/
theorem Holds.rememberFresh? (h : Holds told v) {found : List Sighting}
    (hv : v.rememberFresh? clock found = some v') :
    Holds (told ++ found.filter fun s => !s.isHistorical) v' := by
  unfold Volatile.rememberFresh? at hv
  generalize found.filter (fun s => !s.isHistorical) = rows at hv
  induction rows generalizing told v clock with
  | nil =>
    obtain rfl : v = v' := Option.some.inj hv
    rwa [List.append_nil]
  | cons s rows ih =>
    obtain ⟨r, v₁, hu, hrest⟩ := rememberAll?_cons_eq_some_iff.mp hv
    rw [List.append_cons]
    exact ih (h.upsert hu) hrest

/-! ## Sightings of which some may not be -/

theorem rememberAll_staleDays (v : Volatile) (clock : Nat → Instant) (rows : List Sighting) :
    (store.rememberAll clock v rows).staleDays = v.staleDays :=
  rememberAll_induct (P := fun w : Volatile => w.staleDays = v.staleDays)
    (fun _ _ _ _ _ _ hw hu => (of_upsert? hu).2.2.trans hw) (fun _ _ hw => hw) rfl clock rows

/-- **Of what a search remembers memory holds nothing else**, whether or not it can be
remembered. -/
theorem Holds.rememberFresh (h : Holds told v) (clock : Nat → Instant) (found : List Sighting) :
    ∃ kept, kept.Sublist (told ++ found.filter fun s => !s.isHistorical) ∧
      Holds kept (store.rememberFresh clock v found) := by
  unfold Store.rememberFresh
  generalize found.filter (fun s => !s.isHistorical) = rows
  cases hv : v.poisoned with
  | true =>
    rw [rememberAll_of_poisoned hv]
    exact ⟨told, List.sublist_append_left told rows, h⟩
  | false =>
    induction rows generalizing told v clock with
    | nil => exact ⟨told, List.sublist_append_left told [], h⟩
    | cons s rows ih =>
      cases hu : v.upsert? s.part s (clock 0) with
      | none =>
        rw [rememberAll_of_breakdown hv hu]
        exact ⟨[], List.nil_sublist _, .of_poisoned rfl⟩
      | some x =>
        obtain ⟨r, v₁⟩ := x
        rw [rememberAll_of_upsert? hu, List.append_cons]
        exact ih (h.upsert hu) _ (of_upsert? hu).2.1

end Volatile

end PartSourcing
