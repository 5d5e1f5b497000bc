import PartSourcing.Memory.Record

/-!
# Stores

What a search needs of the place where records are kept: the record of a part, and a record
after one more sighting of its part.

A store can refuse a sighting, and then it is as it was before. It can also break down over one:
there is no date before which offers are stale if the days for which they compete reach out of the
calendar. A breakdown happens while the store is locked, so the lock is poisoned by it, and
whatever was under way ends there.
-/

namespace PartSourcing

open PartSourcing.Calendar

/-- Why a store cannot do what is asked of it. -/
inductive StoreFault where
  /-- What is kept under the part is no record. -/
  | unreadable
  /-- The date before which offers are stale lies outside the calendar, and the store has broken
  down over it. -/
  | beyondCalendar
  /-- The store has broken down before. -/
  | poisoned
  /-- The store cannot be used. -/
  | unavailable
  deriving DecidableEq, Repr

/-- A store whose state is `σ`. A part can be given in any spelling. -/
structure Store (σ : Type) where
  read : σ → (part : String) → Except StoreFault (Option PartRecord)
  /-- The record after one more sighting, if there is one, and in any case the state that is
  left. -/
  upsert : σ → (part : String) → Sighting → (now : Instant) → Except StoreFault PartRecord × σ

namespace Store

/-- **The state after some sightings of their own parts**, one after the other, each with the next
time that a clock shows. One that is refused is passed over; a breakdown ends them all. -/
def rememberAll (store : Store σ) (clock : Nat → Instant) (state : σ) : List Sighting → σ
  | [] => state
  | s :: rows =>
    match store.upsert state (PartNumber.normal s.part) s (clock 0) with
    | (.error .beyondCalendar, state) => state
    | (_, state) => rememberAll store (fun n => clock (n + 1)) state rows

/-- **The state after the fresh ones of some sightings are remembered**, in their order. What
came from memory does not go back into it. -/
def rememberFresh (store : Store σ) (clock : Nat → Instant) (state : σ)
    (sightings : List Sighting) : σ :=
  store.rememberAll clock state (sightings.filter fun s => !s.isHistorical)

/-- **What outlasts every upsert** outlasts all of them. -/
theorem rememberAll_induct {P : σ → Prop} {store : Store σ} {rows : List Sighting}
    (hstep : ∀ s ∈ rows, ∀ state now, P state →
      P (store.upsert state (PartNumber.normal s.part) s now).2)
    {state : σ} (h : P state) (clock : Nat → Instant) :
    P (store.rememberAll clock state rows) := by
  induction rows generalizing state clock with
  | nil => exact h
  | cons s rows ih =>
    obtain ⟨hs, hrows⟩ := List.forall_mem_cons.mp hstep
    have hleft := hs state (clock 0) h
    rw [rememberAll]
    split
    · rename_i left hupsert
      rwa [hupsert] at hleft
    · rename_i x left _ hupsert
      rw [hupsert] at hleft
      exact ih hrows hleft _

end Store

end PartSourcing
