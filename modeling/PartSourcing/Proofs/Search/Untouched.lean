import PartSourcing.Proofs.Search.Succession

/-!
# What a search leaves alone

A search reads the record of one part and may write those of many, for the offers it returns can be
for substitutes and for parts that nobody asked for.  It writes for its fresh rows and for nothing
else; each of them moves the record of its own part, and in it the entry of its own vendor
(`Volatile.entriesOf_of_upsert?`).  **So what a search has not seen afresh is as it was before**: the
records of all other parts, and in each record the entries of all other vendors
(`Inquiry.untouched`).  That goes for every memory, also for one whose records stand in no order or
name a vendor twice.

It goes as long as the calendar reaches back, from the time at which each row is remembered, to the
date before which offers are stale.  The first row from which it does not reach back breaks memory
down: the record of its part is gone with the entries of all vendors in it, and the records of other
parts, though unchanged, can be read no more (`Volatile.rememberAll_eq_or_breaks_down`).

A vendor that is brought back from memory has no fresh row for the requested part
(`Inquiry.not_fresh_of_historical`), so to show it changes nothing in its entry.
-/

namespace PartSourcing

open PartSourcing.Calendar

/-- The entries of a vendor in a record, of which there are none without a record. -/
def PartRecord.entriesOf (r : Option PartRecord) (vendorKey : String) : List VendorEntry :=
  (r.elim [] (·.entries)).filter fun e => e.vendorKey = vendorKey

/-! ## Rows one after the other -/

namespace Volatile

open PartRecord (entriesOf)

variable {v v' : Volatile} {clock : Nat → Instant} {rows : List Sighting} {part vendorKey : String}
  {s : Sighting} {r : PartRecord}

/-- **A part without a row** keeps its record, whatever becomes of the others. -/
theorem filed_rememberAll (h : ∀ s ∈ rows, PartNumber.normal s.part ≠ PartNumber.normal part)
    (clock : Nat → Instant) (v : Volatile) :
    (store.rememberAll clock v rows).filed part = v.filed part := by
  refine Store.rememberAll_induct (P := fun w : Volatile => w.filed part = v.filed part)
    (fun s hs w now hw => ?_) rfl clock
  have hpart : PartNumber.normal part ≠ PartNumber.normal (PartNumber.normal s.part) := by
    rw [PartNumber.normal_normal]
    exact (h s hs).symm
  rw [← hw]
  unfold store
  dsimp only
  split
  · rename_i r w' hu
    rw [filed_of_upsert? hu, if_neg hpart]
  · split
    · rfl
    · rw [filed_brokenDown, if_neg hpart]

/-- **A row leaves the entries of other vendors alone**, in the record of its part as in all
others. -/
theorem entriesOf_of_upsert? {now : Instant} (hu : v.upsert? s.part s now = some (r, v'))
    (h : PartNumber.normal s.part = PartNumber.normal part → s.vendorKey ≠ vendorKey) :
    entriesOf (v'.filed part) vendorKey = entriesOf (v.filed part) vendorKey := by
  rw [filed_of_upsert? hu]
  split
  · rename_i hpart
    have hsame : v.filed part = v.filed s.part := congrArg (v.records.lookup ·) hpart
    obtain ⟨-, hr, -⟩ := upsert?_eq_some_iff.mp hu
    obtain ⟨cutoff, -, rfl⟩ := PartRecord.remember?_eq_some_iff.mp hr
    refine (VendorEntry.filter_observe (h hpart.symm) _).trans ?_
    rw [hsame]
    cases v.filed s.part <;> rfl
  · rfl

/-- **A vendor without a row for a part** keeps its entry in the record of that part, if every row
can be remembered. -/
theorem entriesOf_rememberAll? (hall : rememberAll? clock v rows = some v')
    (h : ∀ s ∈ rows, PartNumber.normal s.part = PartNumber.normal part →
      s.vendorKey ≠ vendorKey) :
    entriesOf (v'.filed part) vendorKey = entriesOf (v.filed part) vendorKey := by
  induction rows generalizing v clock with
  | nil =>
    obtain rfl : v = v' := Option.some.inj hall
    rfl
  | cons s rows ih =>
    obtain ⟨hs, hrows⟩ := List.forall_mem_cons.mp h
    obtain ⟨r, v₁, hu, hrest⟩ := rememberAll?_cons_eq_some_iff.mp hall
    rw [ih hrest hrows, entriesOf_of_upsert? hu hs]

/-- **Either all rows are remembered, or memory breaks down** over the first from which the calendar
does not reach back. -/
theorem rememberAll_eq_or_breaks_down (hv : v.poisoned = false) (clock : Nat → Instant)
    (rows : List Sighting)
    (h : ¬ ∀ n < rows.length, ((clock n).minusDays? v.staleDays.toNat).isSome = true) :
    ∃ n s, rows[n]? = some s ∧
      (∀ m < n, ((clock m).minusDays? v.staleDays.toNat).isSome = true) ∧
      (clock n).minusDays? v.staleDays.toNat = none ∧
      store.rememberAll clock v rows =
        (store.rememberAll clock v (rows.take n)).brokenDown s.part := by
  induction rows generalizing v clock with
  | nil => exact absurd (fun n hn => absurd hn (Nat.not_lt_zero n)) h
  | cons s rows ih =>
    cases hnow : (clock 0).minusDays? v.staleDays.toNat with
    | none =>
      have hu : v.upsert? s.part s (clock 0) = none := by
        rw [← Option.not_isSome_iff_eq_none, upsert?_isSome hv, hnow]
        exact Bool.false_ne_true
      exact ⟨0, s, rfl, fun m hm => absurd hm (Nat.not_lt_zero m), hnow,
        rememberAll_of_breakdown hv hu⟩
    | some cutoff =>
      have hfirst : ((clock 0).minusDays? v.staleDays.toNat).isSome = true :=
        Option.isSome_iff_exists.mpr ⟨cutoff, hnow⟩
      obtain ⟨⟨r, v₁⟩, hu⟩ := Option.isSome_iff_exists.mp
        ((upsert?_isSome hv s.part s (clock 0)).trans hfirst)
      obtain ⟨-, hv₁, hstale⟩ := of_upsert? hu
      have hlater : ¬ ∀ n < rows.length,
          ((clock (n + 1)).minusDays? v₁.staleDays.toNat).isSome = true := by
        intro hrest
        rw [hstale] at hrest
        refine h fun n hn => ?_
        cases n with
        | zero => exact hfirst
        | succ n => exact hrest n (Nat.lt_of_succ_lt_succ hn)
      obtain ⟨n, t, ht, hbefore, hbeyond, heq⟩ := ih hv₁ _ hlater
      rw [hstale] at hbefore hbeyond
      refine ⟨n + 1, t, ht, fun m hm => ?_, hbeyond, ?_⟩
      · cases m with
        | zero => exact hfirst
        | succ m => exact hbefore m (Nat.lt_of_succ_lt_succ hm)
      · rw [rememberAll_of_upsert? hu, List.take_succ_cons, rememberAll_of_upsert? hu, heq]

end Volatile

/-! ## One search -/

namespace Inquiry

open PartRecord (entriesOf)

variable {q : Inquiry} {v : Volatile} {part : String}

/-- Whether the calendar reaches back, from the time at which each fresh row is remembered, to the
date before which offers are stale. -/
def Reaches (q : Inquiry) (v : Volatile) : Prop :=
  ∀ n < (q.newRows v).length, ((q.clock n).minusDays? v.staleDays.toNat).isSome = true

/-- Only fresh rows are remembered. -/
theorem after_eq_rememberAll (q : Inquiry) (v : Volatile) :
    q.after v = Volatile.store.rememberAll q.clock v (q.newRows v) := after_eq q v

/-- **A search that breaks nothing down** remembers nothing, memory having broken down before, or all
of its fresh rows. -/
theorem after_cases (h : v.poisoned = true ∨ q.Reaches v) :
    (v.poisoned = true ∧ q.after v = v) ∨ (v.poisoned = false ∧
      ∃ v', Volatile.rememberAll? q.clock v (q.newRows v) = some v' ∧ q.after v = v') := by
  rw [after_eq_rememberAll]
  cases hv : v.poisoned with
  | true => exact Or.inl ⟨rfl, Volatile.rememberAll_of_poisoned hv⟩
  | false =>
    have hrows : q.Reaches v := h.resolve_left (ne_true_of_eq_false hv)
    obtain ⟨v', hv'⟩ := Option.isSome_iff_exists.mp (Volatile.rememberAll?_isSome hv hrows)
    exact Or.inr ⟨rfl, v', hv', Volatile.rememberAll_eq hv'⟩

theorem poisoned_after (h : v.poisoned = true ∨ q.Reaches v) :
    (q.after v).poisoned = v.poisoned := by
  rcases after_cases h with ⟨-, heq⟩ | ⟨hv, v', hv', heq⟩
  · rw [heq]
  · rw [heq, hv, Volatile.poisoned_of_rememberAll? hv hv']

/-- **A search that breaks nothing down** leaves a vendor without a fresh row for a part its entry in
the record of that part. -/
theorem entriesOf_after_of_not_fresh (hreach : v.poisoned = true ∨ q.Reaches v) {vendorKey : String}
    (h : ∀ s ∈ q.newRows v, PartNumber.normal s.part = PartNumber.normal part →
      s.vendorKey ≠ vendorKey) :
    entriesOf ((q.after v).filed part) vendorKey = entriesOf (v.filed part) vendorKey := by
  rcases after_cases hreach with ⟨-, heq⟩ | ⟨-, v', hv', heq⟩
  · rw [heq]
  · rw [heq, Volatile.entriesOf_rememberAll? hv' h]

/-- **A vendor that is brought back has no fresh row** for the requested part. -/
theorem not_fresh_of_historical {found : List Sighting} (h : q.result? v = some found)
    {s : Sighting} (hs : s ∈ found) (hhist : s.isHistorical = true) :
    ∀ t ∈ q.newRows v, PartNumber.normal t.part = PartNumber.normal q.requirement.part →
      t.vendorKey ≠ s.vendorKey := by
  intro t ht hpart hkey
  obtain ⟨cutoff, -, hperm⟩ := result_perm h Sighting.origin fun _ _ => rfl
  have hnew : ∀ m ∈ Sighting.mergeDuplicates q.config q.fresh, m.isHistorical = false :=
    merged_isHistorical fun s hs => (of_mem_fresh hs).1
  -- the row from memory is that of a vendor that has not answered
  obtain ⟨e, he, hid⟩ := (PartRecord.exists_historical_joined hnew s.identity).mp
    ((exists_iff_of_map_perm hperm fun o => o.2.1 = true ∧ o.1 = s.identity).mp
      ⟨s, hs, hhist, rfl⟩)
  have hek : s.vendorKey = e.vendorKey := congrArg Identity.vendorKey hid
  -- the fresh row is an answer of the same vendor
  obtain ⟨found', hfound', hmem, hfresh⟩ := mem_newRows.mp ht
  obtain rfl : found = found' := Option.some.inj (h.symm.trans hfound')
  obtain ⟨m, hm, hmid, -⟩ := (PartRecord.exists_fresh_joined hnew t.identity t.reportedBy).mp
    ((exists_iff_of_map_perm hperm fun o => o.2.1 = false ∧ o.1 = t.identity ∧
      o.2.2 = t.reportedBy).mp ⟨t, hmem, hfresh, rfl, rfl⟩)
  apply (PartRecord.of_mem_silent he).2.1
  refine PartRecord.mem_answering_iff_identity.mpr ⟨m.identity, List.mem_map_of_mem hm, ?_, ?_⟩
  · rw [hmid]
    exact hpart
  · rw [hmid]
    exact hkey.trans hek

/-- A requirement that makes no sense has no result, and nothing is remembered. -/
theorem after_of_invalid {f : Requirement.Error} (h : q.requirement.validate = .error f) :
    q.result? v = none ∧ q.after v = v := by
  have hnone : q.result? v = none := by
    unfold result?
    rw [h]
  refine ⟨hnone, ?_⟩
  unfold after
  rw [hnone]

/-- **A search touches only what it has seen afresh.**  Whatever memory it meets and whatever its
sources answer, it writes for its fresh rows and nothing else, and a part without one keeps its
record, or stays without one.  As long as the calendar reaches back from each row, the record can be
read as before; in the record of any part, a vendor without a fresh row for that part keeps its
entry; rows from memory do not go back into it, so a vendor that is only brought back keeps its
entry.

The first row from which the calendar does not reach back breaks memory down: the record of its part
is gone, whoever is in it, and nothing can be read any more.

A requirement that makes no sense changes neither memory nor anything outside, whatever engine and
store it is put to. -/
theorem untouched (q : Inquiry) (v : Volatile) :
    (q.after v = Volatile.store.rememberAll q.clock v (q.newRows v) ∧
      ∀ part, (∀ s ∈ q.newRows v, PartNumber.normal s.part ≠ PartNumber.normal part) →
        (q.after v).filed part = v.filed part) ∧
    (v.poisoned = true ∨ q.Reaches v →
      (∀ part, (∀ s ∈ q.newRows v, PartNumber.normal s.part ≠ PartNumber.normal part) →
        (q.after v).read part = v.read part) ∧
      (∀ part vendorKey,
        (∀ s ∈ q.newRows v, PartNumber.normal s.part = PartNumber.normal part →
          s.vendorKey ≠ vendorKey) →
        entriesOf ((q.after v).filed part) vendorKey = entriesOf (v.filed part) vendorKey) ∧
      ∀ found, q.result? v = some found → ∀ s ∈ found, s.isHistorical = true →
        entriesOf ((q.after v).filed q.requirement.part) s.vendorKey =
          entriesOf (v.filed q.requirement.part) s.vendorKey) ∧
    (v.poisoned = false → ¬ q.Reaches v →
      ∃ n s, (q.newRows v)[n]? = some s ∧
        (∀ m < n, ((q.clock m).minusDays? v.staleDays.toNat).isSome = true) ∧
        (q.clock n).minusDays? v.staleDays.toNat = none ∧
        (q.after v).filed s.part = none ∧
        ∀ part, Volatile.store.read (q.after v) part = .error .poisoned) ∧
    (∀ f, q.requirement.validate = .error f →
      q.after v = v ∧
      ∀ (σ τ : Type) (e : Engine) (store : Store τ) (o : Occasion σ) (memory : τ) (w : σ),
        (e.search store q.reliability o q.requirement memory).run w =
          (.error (.requirement f), w)) := by
  have hfiled (part : String)
      (h : ∀ s ∈ q.newRows v, PartNumber.normal s.part ≠ PartNumber.normal part) :
      (q.after v).filed part = v.filed part := by
    rw [after_eq_rememberAll]
    exact Volatile.filed_rememberAll h q.clock v
  refine ⟨⟨after_eq_rememberAll q v, hfiled⟩, fun hreach => ⟨fun part h => ?_, ?_, ?_⟩,
    fun hv hreach => ?_, fun f h => ⟨(after_of_invalid h).2, ?_⟩⟩
  · rw [Volatile.read, Volatile.read, poisoned_after hreach, hfiled part h]
  · exact fun part vendorKey h => entriesOf_after_of_not_fresh hreach h
  · exact fun found h s hs hhist =>
      entriesOf_after_of_not_fresh hreach (not_fresh_of_historical h hs hhist)
  · obtain ⟨n, s, hs, hbefore, hbeyond, heq⟩ :=
      Volatile.rememberAll_eq_or_breaks_down hv q.clock (q.newRows v) hreach
    rw [after_eq_rememberAll, heq]
    refine ⟨n, s, hs, hbefore, hbeyond, ?_, fun part => rfl⟩
    rw [Volatile.filed_brokenDown, if_pos rfl]
  · intro σ τ e store o memory w
    rw [Engine.search_run, h]

/-- Memory after a search for a part has found a vendor with another part. -/
def anotherPart : Volatile :=
  (reporting ⟨86400, 0⟩ [{ vendorName := some "Bolt", part := some "CD 2" }]).after
    { staleDays := 180 }

/-- On the next day a vendor has the part itself. -/
def nextDay : Inquiry := reporting ⟨172800, 0⟩ [{ vendorName := some "Acme", part := some "AB 1" }]

/-- The record of the other part is what it was; the part itself has one now. -/
theorem untouched_by_nextDay :
    (∀ s ∈ nextDay.newRows anotherPart,
      PartNumber.normal s.part ≠ PartNumber.normal "cd2") ∧ nextDay.Reaches anotherPart ∧
    (nextDay.after anotherPart).read "cd2" = anotherPart.read "cd2" ∧
    (anotherPart.read "cd2").isSome = true ∧
    ((nextDay.after anotherPart).read "ab1").isSome = true := by
  have hparts : (nextDay.newRows anotherPart).map (·.part) = ["AB 1"] := by decide +kernel
  have hnormal : PartNumber.normal "AB 1" ≠ PartNumber.normal "cd2" := by decide +kernel
  have hfresh : ∀ s ∈ nextDay.newRows anotherPart,
      PartNumber.normal s.part ≠ PartNumber.normal "cd2" := by
    intro s hs
    have hpart : s.part ∈ (nextDay.newRows anotherPart).map (·.part) := List.mem_map_of_mem hs
    rw [hparts, List.mem_singleton] at hpart
    rwa [hpart]
  have hreach : nextDay.Reaches anotherPart := fun n _ => by
    show ((Instant.mk 172800 0).minusDays? anotherPart.staleDays.toNat).isSome = true
    decide +kernel
  exact ⟨hfresh, hreach, ((untouched nextDay anotherPart).2.1 (Or.inr hreach)).1 "cd2" hfresh,
    by decide +kernel, by decide +kernel⟩

/-- Memory with the offer of one vendor, where offers compete for longer than the calendar reaches
back. -/
def boltFiled : Volatile where
  records := [("AB1", { PartRecord.empty "ab1" .epoch with
    entries := [VendorEntry.ofSighting (Sighting.bare "bolt" "AB1" .epoch .zero)] })]
  staleDays := 4294967295

/-- Three years later another vendor has the part. -/
def yearsLater : Inquiry :=
  reporting ⟨94608000, 0⟩ [{ vendorName := some "Acme", part := some "AB 1" }]

/-- **Where offers compete for longer than the calendar reaches back**, one fresh row takes away the
entry of a vendor that has not answered, though the search has a result. -/
theorem touched_beyond_calendar :
    (yearsLater.result? boltFiled).map (List.map fun s => (s.vendorKey, s.isHistorical)) =
      some [("acme", false)] ∧
    Volatile.store.read boltFiled "ab1" = .ok (boltFiled.filed "ab1") ∧
    (entriesOf (boltFiled.filed "ab1") "bolt").map (·.vendorName) = ["bolt"] ∧
    entriesOf ((yearsLater.after boltFiled).filed "ab1") "bolt" = [] ∧
    Volatile.store.read (yearsLater.after boltFiled) "ab1" = .error .poisoned := by
  refine ⟨?_, rfl, ?_, ?_, ?_⟩
  all_goals decide +kernel

end Inquiry

end PartSourcing
