import PartSourcing.Memory.Volatile
import PartSourcing.Proofs.Memory.Grown
import PartSourcing.Proofs.Search.Conclusion

/-!
# Searches one after the other

An `Inquiry` is all that one search depends on besides memory: the configuration, the
requirement, how reliable vendors are, the time and the times at which rows are remembered, the
identifier, and for each source the records it has answered with.  It has a result, and it leaves memory behind (`result?`, `after`).  But for
scores and ranks the result is the merged fresh sightings with what the record of the part adds to
them (`result_perm`).

A search of an engine is such an inquiry, with whatever its sources have answered
(`Engine.search_eq_inquiry`).  Memory is `Reachable` if searches have made it from empty memory,
and then it has grown by sightings alone (`Reachable.grown`).
-/

namespace PartSourcing

open PartSourcing.Calendar

/-- **All that a search depends on besides memory.** -/
structure Inquiry where
  config : EngineConfig
  requirement : Requirement
  reliability : String → Float
  now : Instant
  /-- The times at which the rows of the result are remembered, one after the other. -/
  clock : (row : Nat) → Instant
  searchId : SearchId
  /-- The sources in the order in which they are asked, with the records of each. -/
  batches : List (Provider × List RawRecord)

namespace Inquiry

/-- The fresh sightings, in the order in which they were reported. -/
def fresh (q : Inquiry) : List Sighting :=
  q.batches.flatMap fun b => b.1.sightings q.config q.requirement q.searchId b.2

/-- **What the search returns**, given what is remembered.  It returns nothing for a requirement
that makes no sense. -/
def result? (q : Inquiry) (v : Volatile) : Option (List Sighting) :=
  match q.requirement.validate with
  | .ok () => conclude? q.config q.requirement q.reliability q.now q.searchId
      (v.read q.requirement.part) q.fresh
  | .error _ => none

/-- What is remembered after the search. -/
def after (q : Inquiry) (v : Volatile) : Volatile :=
  match q.result? v with
  | some found => Volatile.store.rememberFresh q.clock v found
  | none => v

/-- **A search whose requirement makes sense returns something**, if the calendar reaches back far
enough. -/
theorem result?_isSome {q : Inquiry} {v : Volatile} {cutoff : Instant}
    (hreq : q.requirement.validate = .ok ())
    (h : q.now.minusDays? q.config.lookbackDays.toNat = some cutoff) :
    (q.result? v).isSome = true := by
  rw [result?, hreq]
  exact conclude?_isSome _ _ _ _ _ _ _ h

/-- The record that a search goes by, an empty one if there is none. -/
def recordOf (q : Inquiry) (v : Volatile) : PartRecord :=
  (v.read q.requirement.part).getD (PartRecord.empty q.requirement.part q.now)

theorem recordOf_part {q : Inquiry} {v : Volatile} (hv : v.Grown) :
    (q.recordOf v).part = PartNumber.normal q.requirement.part := by
  unfold recordOf
  cases hr : v.read q.requirement.part with
  | none => rfl
  | some r => exact (hv.read hr).1

theorem recordOf_ascending {q : Inquiry} {v : Volatile} (hv : v.Grown) :
    VendorEntry.Ascending (q.recordOf v).entries := by
  unfold recordOf
  cases hr : v.read q.requirement.part with
  | none => exact List.Pairwise.nil
  | some r => exact (hv.read hr).2

/-- **A result is assembled** from the merged fresh sightings and the record of the part; what
scores leave alone is in it as it was before. -/
theorem result_perm {α : Type} {q : Inquiry} {v : Volatile} {found : List Sighting}
    (h : q.result? v = some found) (f : Sighting → α)
    (hf : ∀ s reliability,
      f (s.scored q.requirement q.config.scoring reliability q.now) = f s) :
    ∃ cutoff, PartRecord.lookback? (v.read q.requirement.part) q.now q.config.lookbackDays =
      some cutoff ∧ (found.map f).Perm (((q.recordOf v).joined q.requirement
        (Sighting.mergeDuplicates q.config q.fresh) cutoff q.searchId).map f) := by
  unfold result? at h
  split at h
  · exact map_perm_assembled h f hf
  · exact absurd h (Option.some_ne_none found).symm

/-- **A fresh sighting is a new one**, and names the source that reported it. -/
theorem of_mem_fresh {q : Inquiry} {s : Sighting} (h : s ∈ q.fresh) :
    s.isHistorical = false ∧ ∃ source, s.reportedBy = [source] := by
  obtain ⟨b, -, hs⟩ := List.mem_flatMap.mp h
  obtain ⟨r, -, hr⟩ := List.mem_filterMap.mp hs
  obtain ⟨made, hmade, rfl⟩ : ∃ made,
      (b.1.sighting q.config q.requirement q.searchId r).toOption = some made ∧
        made = some s := by
    obtain ⟨made, hmade, hsome⟩ := Option.bind_eq_some_iff.mp hr
    exact ⟨made, hmade, hsome⟩
  rw [Provider.sighting] at hmade
  cases hl : b.1.listing r q.requirement with
  | error f =>
    rw [hl] at hmade
    exact absurd hmade (Option.some_ne_none _).symm
  | ok l =>
    rw [hl] at hmade
    obtain ⟨vendor, -, rfl⟩ := Option.map_eq_some_iff.mp (Option.some.inj hmade)
    exact ⟨rfl, r.source, rfl⟩

/-- Memory that searches have made from empty memory. -/
inductive Reachable : Volatile → Prop where
  | empty (staleDays : UInt32) : Reachable { staleDays }
  | search {v : Volatile} (h : Reachable v) (q : Inquiry) : Reachable (q.after v)

/-- **What searches have made has grown by sightings alone.** -/
theorem Reachable.grown {v : Volatile} (h : Reachable v) : v.Grown := by
  induction h with
  | empty staleDays => exact Volatile.Grown.empty staleDays
  | search h q ih =>
    unfold after
    split
    · exact ih.rememberFresh q.clock _
    · exact ih

end Inquiry

namespace Engine

section Run

variable {σ τ : Type} (e : Engine) (store : Store τ) (reliability : String → Float)
  (o : Occasion σ) (req : Requirement) (memory : τ) (w : σ)

/-- What all sources have answered, and what the world is like after that. -/
def asked : List (SourceOutcome × Member) × σ :=
  (Member.searchAll e.members e.config.retry e.config.deadline e.client o req).run w

/-- What a search makes of these answers and of what it remembers. -/
def concluded? : Option (List Sighting) :=
  conclude? e.config req reliability o.now o.searchId (store.read memory req.part).toOption.join
    (e.freshSightings req o.searchId (e.asked o req w).1)

/-- **What one search does.**  A requirement that makes no sense is refused before anybody is asked;
otherwise all sources are asked first, and the rest of the search asks nobody. -/
theorem search_run : (e.search store reliability o req memory).run w =
    match req.validate with
    | .error f => (.error (.requirement f), w)
    | .ok () => (match e.concluded? store reliability o req memory w with
        | none => .error .beyondCalendar
        | some found => .ok (⟨o.searchId, found, (e.asked o req w).1.map (·.1)⟩,
            { e with members := (e.asked o req w).1.map (·.2) },
            store.rememberFresh o.clock memory found),
        (e.asked o req w).2) := by
  unfold search
  cases hreq : req.validate with
  | error f => rfl
  | ok u =>
    simp only [StateT.run_bind]
    -- nothing but the match on the conclusion is left to look at
    change StateT.run _ _ = _
    unfold concluded? asked
    generalize (Member.searchAll e.members e.config.retry e.config.deadline e.client o req).run w =
      answers
    cases conclude? e.config req reliability o.now o.searchId
      (store.read memory req.part).toOption.join (e.freshSightings req o.searchId answers.1)
    all_goals rfl

end Run

variable {σ : Type} {e : Engine} {reliability : String → Float} {o : Occasion σ}
  {req : Requirement} {w : σ}

/-- **A search of an engine is an inquiry** about whatever its sources have answered. -/
theorem search_eq_inquiry {e' : Engine} {v v' : Volatile} {w' : σ} {result : SearchResult}
    (h : (e.search Volatile.store reliability o req v).run w = (.ok (result, e', v'), w')) :
    ∃ batches, let q : Inquiry := ⟨e.config, req, reliability, o.now, o.clock, o.searchId,
      batches⟩
      q.result? v = some result.sightings ∧ v' = q.after v := by
  rw [search_run] at h
  cases hreq : req.validate with
  | error f =>
    rw [hreq] at h
    cases h
  | ok u =>
    let q : Inquiry := ⟨e.config, req, reliability, o.now, o.clock, o.searchId,
      (e.asked o req w).1.map fun x => (x.2.provider, x.1.outcome.records)⟩
    have hresult : q.result? v = e.concluded? Volatile.store reliability o req v w := by
      rw [Inquiry.result?, hreq, Inquiry.fresh, List.flatMap_map, concluded?, Volatile.recalled_eq]
      rfl
    refine ⟨q.batches, ?_⟩
    change q.result? v = some result.sightings ∧ v' = q.after v
    rw [Inquiry.after, hresult]
    cases hc : e.concluded? Volatile.store reliability o req v w with
    | none =>
      rw [hreq, hc] at h
      cases h
    | some found =>
      rw [hreq, hc] at h
      cases h
      exact ⟨rfl, rfl⟩

end Engine

end PartSourcing
