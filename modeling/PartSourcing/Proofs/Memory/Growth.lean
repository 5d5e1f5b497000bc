import Mathlib.Data.List.Induction
import PartSourcing.Proofs.Memory.Entries

/-!
# How records grow

A record is what sightings have made of it, one after the other, each at a time and under a date
of its own (`Grows`).  What holds of an empty record and outlasts one sighting holds of every
record that grew (`Grows.induct`); the rest of the module is what one sighting does to each field,
and **the two facts that carry everything said about vendors**: the keys of a record that grew
rise, and the entry of a vendor is what the sightings of that vendor alone have made of it
(`Grows.entryOf_eq`).

That a record grows does not say that one comes about, since the calendar may not reach back to the
date before which offers are stale.  Remembering does (`remembering?`): it gives a record wherever
the calendar suffices, and that record has grown (`grows_of_remembering?`).
-/

namespace PartSourcing

open PartSourcing.Calendar

/-- A fresh sighting that leaves open whatever can be left open. -/
def Sighting.bare (vendorKey part : String) (observedAt : Instant) (searchId : SearchId) :
    Sighting where
  vendorName := vendorKey
  vendorKey := vendorKey
  part := part
  isSubstitute := false
  manufacturer := none
  stockNumber := none
  quantity := none
  price := none
  currency := "USD"
  condition := none
  leadTime := none
  standing := .broker
  reportedBy := []
  isAuthorized := false
  url := none
  observedAt := observedAt
  isHistorical := false
  timesSeen := none
  firstSeen := none
  searchId := searchId
  score := none

/-- The entry that the sightings of one vendor leave, if there are any. -/
def VendorEntry.after? (sightings : List Sighting) : Option VendorEntry :=
  sightings.foldl (fun e s => some (follow e s)) none

theorem VendorEntry.after?_concat (l : List Sighting) (s : Sighting) :
    after? (l ++ [s]) = some (follow (after? l) s) := by
  rw [after?, List.foldl_concat]
  rfl

theorem VendorEntry.after?_eq_none_iff {l : List Sighting} : after? l = none ↔ l = [] := by
  constructor
  · intro h
    induction l using List.reverseRecOn with
    | nil => rfl
    | append_singleton l s _ => exact absurd ((after?_concat l s).symm.trans h) (by simp)
  · rintro rfl
    rfl

/-- A vendor has an entry as soon as it was sighted. -/
theorem VendorEntry.exists_after?_iff {l : List Sighting} {vendorKey : String} :
    (∃ e, after? (l.filter fun s => s.vendorKey = vendorKey) = some e) ↔
      ∃ s ∈ l, s.vendorKey = vendorKey := by
  rw [← Option.isSome_iff_exists, Option.isSome_iff_ne_none, ne_eq, after?_eq_none_iff,
    List.filter_eq_nil_iff]
  simp

/-- **What holds of the entry of a first sighting and outlasts one more** holds of every entry that
sightings leave. -/
theorem VendorEntry.after?_induct {P : List Sighting → VendorEntry → Prop} {l : List Sighting}
    {e : VendorEntry} (h : after? l = some e) (hfirst : ∀ s, P [s] (ofSighting s))
    (hupdate : ∀ l e s, P l e → P (l ++ [s]) (e.update s)) : P l e := by
  induction l using List.reverseRecOn generalizing e with
  | nil => exact absurd h (Option.some_ne_none e).symm
  | append_singleton l s ih =>
    rw [after?_concat, Option.some_inj] at h
    subst h
    cases ha : after? l with
    | none =>
      obtain rfl := after?_eq_none_iff.mp ha
      exact hfirst s
    | some e => exact hupdate l e s (ih ha)

namespace PartRecord

/-! ## One sighting -/

/-- The record after a sighting, offers before `cutoff` being stale. -/
def withSighting (r : PartRecord) (s : Sighting) (now cutoff : Instant) : PartRecord :=
  { { r.countSearch s with
      entries := VendorEntry.observe s r.entries }.withBestSince cutoff with
    updatedAt := now }

section Fields

variable (r : PartRecord) (s : Sighting) (now cutoff : Instant)

@[simp] theorem countSearch_part : (r.countSearch s).part = r.part := by
  unfold countSearch
  split <;> rfl

@[simp] theorem countSearch_entries : (r.countSearch s).entries = r.entries := by
  unfold countSearch
  split <;> rfl

@[simp] theorem countSearch_createdAt : (r.countSearch s).createdAt = r.createdAt := by
  unfold countSearch
  split <;> rfl

theorem countSearch_searchId : (r.countSearch s).searchId = some s.searchId := by
  unfold countSearch
  split
  · assumption
  · rfl

theorem countSearch_searchCount : (r.countSearch s).searchCount =
    if r.searchId = some s.searchId then r.searchCount else Saturating.succ r.searchCount := by
  unfold countSearch
  split <;> rfl

@[simp] theorem withSighting_part : (r.withSighting s now cutoff).part = r.part :=
  r.countSearch_part s

@[simp] theorem withSighting_entries :
    (r.withSighting s now cutoff).entries = VendorEntry.observe s r.entries := rfl

@[simp] theorem withSighting_searchId :
    (r.withSighting s now cutoff).searchId = some s.searchId := r.countSearch_searchId s

@[simp] theorem withSighting_createdAt :
    (r.withSighting s now cutoff).createdAt = r.createdAt := r.countSearch_createdAt s

theorem withSighting_searchCount : (r.withSighting s now cutoff).searchCount =
    if r.searchId = some s.searchId then r.searchCount else Saturating.succ r.searchCount :=
  r.countSearch_searchCount s

end Fields

/-- **A sighting is remembered as soon as the calendar reaches back** to the date before which
offers are stale. -/
theorem observed?_eq (r : PartRecord) (s : Sighting) (now : Instant) (staleDays : UInt32) :
    r.observed? s now staleDays =
      (now.minusDays? staleDays.toNat).map (r.withSighting s now) := by
  unfold observed? withSighting
  simp only [countSearch_entries]

theorem remember?_eq_some_iff {r : Option PartRecord} {part : String} {s : Sighting}
    {now : Instant} {staleDays : UInt32} {r' : PartRecord} :
    remember? r part s now staleDays = some r' ↔
      ∃ cutoff, now.minusDays? staleDays.toNat = some cutoff ∧
        (r.getD (empty part now)).withSighting s now cutoff = r' := by
  rw [remember?, observed?_eq, Option.map_eq_some_iff]

theorem remember?_isSome (r : Option PartRecord) (part : String) (s : Sighting) (now : Instant)
    (staleDays : UInt32) : (remember? r part s now staleDays).isSome =
      (now.minusDays? staleDays.toNat).isSome := by
  rw [remember?, observed?_eq, Option.isSome_map]

/-! ## Sightings one after the other -/

/-- **The record of a part after some sightings**, each remembered at a time and with a number of
days of its own.  Before the first of them there is none. -/
inductive Grows (part : String) : List Sighting → Option PartRecord → Prop where
  | nothing : Grows part [] none
  | sighting {l : List Sighting} {r : Option PartRecord} (h : Grows part l r) (s : Sighting)
      {now : Instant} {staleDays : UInt32} {r' : PartRecord}
      (hr : remember? r part s now staleDays = some r') : Grows part (l ++ [s]) (some r')

namespace Grows

variable {part : String} {l : List Sighting}

/-- **What outlasts one sighting holds of every record that grew.** -/
theorem induct {P : List Sighting → PartRecord → Prop} {r : Option PartRecord}
    (h : Grows part l r) (hempty : ∀ now, P [] (empty part now))
    (hstep : ∀ l r s now cutoff, P l r → P (l ++ [s]) (r.withSighting s now cutoff))
    (now : Instant) : P l (r.getD (empty part now)) := by
  induction h generalizing now with
  | nothing => exact hempty now
  | sighting h s hr ih =>
    rename_i time staleDays r'
    obtain ⟨cutoff, -, rfl⟩ := remember?_eq_some_iff.mp hr
    exact hstep _ _ s time cutoff (ih time)

/-- Some record comes of any sightings. -/
theorem exists_of_ne_nil (part : String) {l : List Sighting} (hl : l ≠ []) :
    ∃ r, Grows part l (some r) := by
  -- with no days to go back the calendar never ends, so any sightings can be remembered
  suffices h : ∃ r, Grows part l r ∧ (l ≠ [] → r.isSome = true) by
    obtain ⟨r, hr, hsome⟩ := h
    obtain ⟨r, rfl⟩ := Option.isSome_iff_exists.mp (hsome hl)
    exact ⟨r, hr⟩
  clear hl
  induction l using List.reverseRecOn with
  | nil => exact ⟨none, nothing, fun h => absurd rfl h⟩
  | append_singleton l s ih =>
    obtain ⟨r, hr, -⟩ := ih
    have hstep : remember? r part s Instant.epoch 0 =
        some ((r.getD (empty part Instant.epoch)).withSighting s Instant.epoch Instant.epoch) :=
      remember?_eq_some_iff.mpr ⟨Instant.epoch, rfl, rfl⟩
    exact ⟨_, hr.sighting s hstep, fun _ => rfl⟩

theorem eq_nil (h : Grows part l none) : l = [] := by
  cases h
  rfl

variable {r : PartRecord}

theorem part_eq (h : Grows part l (some r)) : r.part = PartNumber.normal part :=
  h.induct (P := fun _ r => r.part = PartNumber.normal part) (fun _ => rfl)
    (fun _ r s now cutoff hr => (r.withSighting_part s now cutoff).trans hr) Instant.epoch

/-- **The keys of a record that grew rise.** -/
theorem ascending (h : Grows part l (some r)) : VendorEntry.Ascending r.entries :=
  h.induct (P := fun _ r => VendorEntry.Ascending r.entries) (fun _ => List.Pairwise.nil)
    (fun _ _ s _ _ hr => hr.observe s) Instant.epoch

/-- **The entry of a vendor is what its own sightings have made of it.** -/
theorem entryOf_eq (h : Grows part l (some r)) (vendorKey : String) :
    VendorEntry.entryOf r.entries vendorKey =
      VendorEntry.after? (l.filter fun s => s.vendorKey = vendorKey) := by
  refine h.induct (P := fun l r => VendorEntry.entryOf r.entries vendorKey =
    VendorEntry.after? (l.filter fun s => s.vendorKey = vendorKey)) (fun _ => rfl) ?_ Instant.epoch
  intro l r s now cutoff hentry
  rw [withSighting_entries, VendorEntry.entryOf_observe, hentry, List.filter_append]
  by_cases hk : s.vendorKey = vendorKey
  · rw [if_pos hk, List.filter_cons_of_pos (by simpa using hk), List.filter_nil,
      VendorEntry.after?_concat]
  · rw [if_neg hk, List.filter_cons_of_neg (by simpa using hk), List.filter_nil, List.append_nil]

/-- What an entry of the record is made of. -/
theorem after?_eq_of_mem (h : Grows part l (some r)) {e : VendorEntry} (he : e ∈ r.entries) :
    VendorEntry.after? (l.filter fun s => s.vendorKey = e.vendorKey) = some e := by
  rw [← h.entryOf_eq]
  exact h.ascending.entryOf_eq_some_iff.mpr ⟨he, rfl⟩

end Grows

end PartRecord

/-! ## Sightings remembered one after the other -/

/-- A sighting with all that it takes to remember it. -/
structure Remembrance where
  part : String
  sighting : Sighting
  now : Instant
  staleDays : UInt32

namespace PartRecord

/-- **The record after some sightings**, starting with none.  There is nothing, not even that,
where the calendar does not reach back far enough. -/
def remembering? (steps : List Remembrance) : Option (Option PartRecord) :=
  steps.foldlM (fun r x => (remember? r x.part x.sighting x.now x.staleDays).map some) none

theorem remembering?_concat (steps : List Remembrance) (x : Remembrance) :
    remembering? (steps ++ [x]) = (remembering? steps).bind fun r =>
      (remember? r x.part x.sighting x.now x.staleDays).map some := by
  rw [remembering?, List.foldlM_append]
  refine congrArg (Option.bind _) (funext fun r => ?_)
  rw [List.foldlM_cons]
  cases remember? r x.part x.sighting x.now x.staleDays <;> rfl

/-- The part number counts for the first sighting alone. -/
theorem remember?_part (r : PartRecord) (part part' : String) (s : Sighting) (now : Instant)
    (staleDays : UInt32) :
    remember? (some r) part s now staleDays = remember? (some r) part' s now staleDays := rfl

/-- **What is remembered so has grown.** -/
theorem grows_of_remembering? {steps : List Remembrance} {r : Option PartRecord}
    (h : remembering? steps = some r) : ∃ part, Grows part (steps.map (·.sighting)) r := by
  induction steps using List.reverseRecOn generalizing r with
  | nil =>
    obtain rfl : none = r := Option.some.inj h
    exact ⟨"", .nothing⟩
  | append_singleton steps x ih =>
    rw [remembering?_concat] at h
    obtain ⟨r₀, hr₀, hx⟩ := Option.bind_eq_some_iff.mp h
    obtain ⟨r, hr, rfl⟩ := Option.map_eq_some_iff.mp hx
    obtain ⟨part, hgrows⟩ := ih hr₀
    rw [List.map_append]
    cases r₀ with
    | none =>
      rw [hgrows.eq_nil]
      exact ⟨x.part, Grows.nothing.sighting x.sighting hr⟩
    | some r₀ =>
      rw [remember?_part r₀ x.part part] at hr
      exact ⟨part, hgrows.sighting x.sighting hr⟩

theorem remembering?_isSome {steps : List Remembrance}
    (h : ∀ x ∈ steps, (x.now.minusDays? x.staleDays.toNat).isSome = true) :
    (remembering? steps).isSome = true := by
  induction steps using List.reverseRecOn with
  | nil => rfl
  | append_singleton steps x ih =>
    obtain ⟨r, hr⟩ := Option.isSome_iff_exists.mp
      (ih fun y hy => h y (List.mem_append_left _ hy))
    rw [remembering?_concat, hr, Option.bind_some, Option.isSome_map]
    rw [remember?_isSome]
    exact h x List.mem_concat_self

end PartRecord

end PartSourcing
