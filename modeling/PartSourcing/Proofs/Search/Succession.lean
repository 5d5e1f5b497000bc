import PartSourcing.Proofs.Memory.Holdings
import PartSourcing.Proofs.Search.Inquiry

/-!
# Runs of searches

In a run of searches each has the memory that those before it have left (`remembered`).  What the
run has returned are the fresh rows of all its results (`returned`); a search may fail to remember
its rows, and a run in which none does is `Kept`.

**Memory holds rows that the run has returned**, in their order, and no other sightings
(`Holds.remembered`); after a run that is kept it holds all of them (`Holds.remembered_of_kept`).
Remembered rows do not go back into memory, so all sightings that memory holds were once fresh.
-/

namespace PartSourcing

open PartSourcing.Calendar

namespace Inquiry

/-- The fresh rows that the search returns. -/
def newRows (q : Inquiry) (v : Volatile) : List Sighting :=
  ((q.result? v).getD []).filter fun s => !s.isHistorical

/-- **What is remembered after a run.** -/
def remembered (v : Volatile) (run : List Inquiry) : Volatile :=
  run.foldl (fun v q => q.after v) v

/-- **The fresh rows that a run returns**, those of earlier searches first. -/
def returned : Volatile → List Inquiry → List Sighting
  | _, [] => []
  | v, q :: run => q.newRows v ++ returned (q.after v) run

/-- **All upserts of a run succeed.** -/
def Kept : Volatile → List Inquiry → Prop
  | _, [] => True
  | v, q :: run =>
    (v.rememberFresh? q.clock ((q.result? v).getD [])).isSome = true ∧ Kept (q.after v) run

variable {q : Inquiry} {v : Volatile} {run : List Inquiry} {told : List Sighting}

theorem mem_newRows {s : Sighting} :
    s ∈ q.newRows v ↔ ∃ found, q.result? v = some found ∧ s ∈ found ∧ s.isHistorical = false := by
  rw [newRows, List.mem_filter, Bool.not_eq_true']
  cases hfound : q.result? v with
  | none => simp
  | some found => simp

/-- A search remembers the fresh rows of its result, if there is one. -/
theorem after_eq (q : Inquiry) (v : Volatile) :
    q.after v = Volatile.store.rememberFresh q.clock v ((q.result? v).getD []) := by
  unfold after
  cases q.result? v <;> rfl

/-- What a run has returned was returned by one of its searches. -/
theorem exists_of_mem_returned {s : Sighting} (h : s ∈ returned v run) :
    ∃ q ∈ run, ∃ v, s ∈ q.newRows v := by
  induction run generalizing v with
  | nil => exact absurd h List.not_mem_nil
  | cons q run ih =>
    rcases List.mem_append.mp h with hnew | hlater
    · exact ⟨q, List.mem_cons_self, v, hnew⟩
    · obtain ⟨q', hq', hs⟩ := ih hlater
      exact ⟨q', List.mem_cons_of_mem _ hq', hs⟩

theorem Reachable.remembered (h : Reachable v) (run : List Inquiry) :
    Reachable (remembered v run) :=
  List.foldlRecOn run _ h fun _ hv q _ => hv.search q

/-! ## Upserts that succeed -/

theorem after_staleDays (q : Inquiry) (v : Volatile) : (q.after v).staleDays = v.staleDays := by
  rw [after_eq]
  exact Volatile.rememberAll_staleDays _ _ _

/-- **A run is kept** if the calendar reaches back, whenever a row is remembered, to the date before
which offers are stale. -/
theorem kept_of_reaches (hv : v.poisoned = false)
    (h : ∀ q ∈ run, ∀ n, ((q.clock n).minusDays? v.staleDays.toNat).isSome = true) :
    Kept v run := by
  induction run generalizing v with
  | nil => trivial
  | cons q run ih =>
    obtain ⟨hq, hrun⟩ := List.forall_mem_cons.mp h
    have hall : (Volatile.rememberAll? q.clock v (q.newRows v)).isSome = true :=
      Volatile.rememberAll?_isSome hv fun n _ => hq n
    obtain ⟨v', hv'⟩ := Option.isSome_iff_exists.mp hall
    have hafter : q.after v = v' := (after_eq q v).trans (Volatile.rememberAll_eq hv')
    refine ⟨Option.isSome_iff_exists.mpr ⟨v', hv'⟩, ?_⟩
    rw [hafter]
    refine ih (Volatile.poisoned_of_rememberAll? hv hv') fun q' hq' n => ?_
    rw [← hafter, after_staleDays]
    exact hrun q' hq' n

/-- A search for a part, to which a source without an address has answered with some listings. -/
def reporting (now : Instant) (listings : List Listing) : Inquiry where
  config := {}
  requirement := ⟨"ab1", 1, [], none, "USD"⟩
  reliability _ := 0.5
  now := now
  clock _ := now
  searchId := SearchId.zero
  batches := listings.map fun l => ({
      source := .mouser
      currency := "USD"
      ready := .ok ()
      request _ := .error (.config "no address")
      payloads _ _ := .ok []
      listing _ _ := .ok l },
    [{ source := .mouser, payload := .null, fetchedAt := now }])

end Inquiry

/-! ## What memory holds -/

namespace Volatile.Holds

variable {told : List Sighting} {v : Volatile} {run : List Inquiry}

/-- **After a run memory holds nothing but what the run has returned**, besides what it held
before. -/
theorem remembered (h : Holds told v) (run : List Inquiry) :
    ∃ kept, kept.Sublist (told ++ Inquiry.returned v run) ∧
      Holds kept (Inquiry.remembered v run) := by
  induction run generalizing told v with
  | nil => exact ⟨told, List.sublist_append_left told _, h⟩
  | cons q run ih =>
    obtain ⟨first, hfirst, hheld⟩ := h.rememberFresh q.clock ((q.result? v).getD [])
    rw [← Inquiry.after_eq] at hheld
    obtain ⟨kept, hkept, hall⟩ := ih hheld
    refine ⟨kept, hkept.trans ?_, hall⟩
    rw [Inquiry.returned, ← List.append_assoc]
    exact hfirst.append_right _

/-- **After a run that is kept memory holds all that the run has returned**, besides what it held
before. -/
theorem remembered_of_kept (h : Holds told v) (hkept : Inquiry.Kept v run) :
    Holds (told ++ Inquiry.returned v run) (Inquiry.remembered v run) := by
  induction run generalizing told v with
  | nil => rwa [Inquiry.returned, List.append_nil]
  | cons q run ih =>
    obtain ⟨hupserts, hlater⟩ := hkept
    obtain ⟨v', hv'⟩ := Option.isSome_iff_exists.mp hupserts
    obtain rfl : q.after v = v' := (Inquiry.after_eq q v).trans (rememberAll_eq hv')
    rw [Inquiry.returned, ← List.append_assoc]
    exact ih (h.rememberFresh? hv') hlater

end Volatile.Holds

end PartSourcing
