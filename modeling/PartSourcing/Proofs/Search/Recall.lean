import PartSourcing.Proofs.Keyed
import PartSourcing.Proofs.Memory.Coherence
import PartSourcing.Proofs.Search.Succession

/-!
# Vendors that are never forgotten

A vendor that a run of searches has once returned for a part is returned for it by every later
search, as long as it was last seen within the lookback (`seen_vendor_returns`).  If a source
answers for it, it stands there with fresh rows.  If none does, it stands there with one row from
memory, whose dates are **the last and the first at which any search of the run has seen it**,
whatever the order of the observations was and under whatever spelling of the part they came.

Three things come together.  Memory holds all rows that the run has returned, and the entry of a
vendor is never removed and sums up all of them.  Reading, remembering and comparing parts go by
one normal form.  And vendor keys rise in a record, so the entry that is brought back is brought
back once.
-/

namespace PartSourcing

open PartSourcing.Calendar

/-! ## Rows for a vendor -/

namespace Sighting

variable {vendorKey part : String}

/-- Whose offer a sighting is for which part does not hang on its score. -/
theorem offers_map_unscored (l : List Sighting) :
    offers vendorKey part (l.map unscored) = (offers vendorKey part l).map unscored := by
  rw [offers, offers, ofPart, ofPart, List.filter_map, List.filter_map]
  rfl

/-- The one offer among some that agree with others but for their scores. -/
theorem offers_eq_singleton {l l' : List Sighting} {t : Sighting}
    (h : (l.map unscored).Perm (l'.map unscored)) (ht : offers vendorKey part l' = [t]) :
    ∃ score, offers vendorKey part l = [{ t with score }] := by
  have hone := offers_perm h vendorKey part
  rw [offers_map_unscored, offers_map_unscored, ht] at hone
  obtain ⟨s, hs, hst⟩ := List.map_eq_singleton_iff.mp hone.eq_singleton
  rw [hs, eq_of_unscored_eq hst.symm]
  exact ⟨s.score, rfl⟩

end Sighting

namespace PartRecord

variable {r : PartRecord} {req : Requirement} {fresh : List Sighting} {cutoff : Instant}
  {searchId : SearchId} {vendorKey : String}

theorem offers_annotate (vendorKey part : String) (fresh : List Sighting) :
    Sighting.offers vendorKey part (fresh.map (r.annotate req)) =
      (Sighting.offers vendorKey part fresh).map (r.annotate req) := by
  have hsame (s : Sighting) : (r.annotate req s).vendorKey = s.vendorKey ∧
      (r.annotate req s).part = s.part := by
    obtain ⟨seen, first, h⟩ := r.annotate_eq req s
    rw [h]
    exact ⟨rfl, rfl⟩
  simp only [Sighting.offers, Sighting.ofPart, List.filter_map, Function.comp_def, hsame]

/-- Every row from memory is about the part of the record. -/
theorem offers_map_ofEntry {recorded part : String}
    (h : PartNumber.normal recorded = PartNumber.normal part) (vendorKey : String)
    (es : List VendorEntry) (searchId : SearchId) :
    Sighting.offers vendorKey part (es.map fun e => Sighting.ofEntry recorded e searchId) =
      (es.filter fun e => e.vendorKey = vendorKey).map fun e =>
        Sighting.ofEntry recorded e searchId := by
  have hsame : PartNumber.same part recorded = true := PartNumber.same_iff.mpr h.symm
  rw [Sighting.offers, Sighting.ofPart, List.filter_filter, List.filter_map]
  simp only [Function.comp_def, Sighting.ofEntry, hsame, Bool.and_true]

/-- **A vendor that answers has fresh rows alone.** -/
theorem isHistorical_of_mem_offers (hnew : ∀ s ∈ fresh, s.isHistorical = false)
    (hans : Sighting.offers vendorKey req.part fresh ≠ []) :
    ∀ s ∈ Sighting.offers vendorKey req.part (r.joined req fresh cutoff searchId),
      s.isHistorical = false := by
  intro s hs
  obtain ⟨hmem, hkey, -⟩ := Sighting.mem_offers.mp hs
  rcases mem_joined.mp hmem with ⟨t, ht, rfl⟩ | ⟨e, he, rfl⟩
  · rw [annotate_isHistorical, hnew t ht]
  · have hkey : e.vendorKey = vendorKey := hkey
    exact absurd (mem_answering_iff_offers.mpr (hkey ▸ hans)) (of_mem_silent he).2.1

/-- **A vendor that does not answer has one row**, that of its entry. -/
theorem offers_joined_of_silent (hr : VendorEntry.Ascending r.entries)
    (hpart : PartNumber.normal r.part = PartNumber.normal req.part) {e : VendorEntry}
    (he : e ∈ r.entries) (hcut : cutoff ≤ e.lastSeen)
    (hans : Sighting.offers e.vendorKey req.part fresh = []) :
    Sighting.offers e.vendorKey req.part (r.joined req fresh cutoff searchId) =
      [Sighting.ofEntry r.part e searchId] := by
  have hsilent : e ∈ r.silent (answering req fresh) cutoff :=
    (mem_silent hr.nodup_keys).mpr ⟨he, fun h => mem_answering_iff_offers.mp h hans, hcut⟩
  have hkeys : ((r.silent (answering req fresh) cutoff).map (·.vendorKey)).Nodup :=
    List.pairwise_map.mpr ((r.silent_ascending _ cutoff).imp fun h => ne_of_lt h)
  have hone : ((r.silent (answering req fresh) cutoff).filter
      fun y => y.vendorKey = e.vendorKey) = [e] := Keyed.filter_key_eq hkeys hsilent
  rw [joined, Sighting.offers_append, offers_annotate, hans, offers_map_ofEntry hpart, hone]
  rfl

end PartRecord

/-! ## Runs of searches -/

namespace Inquiry

open Sighting (offers dates)

variable {staleDays : UInt32} {before : List Inquiry} {q : Inquiry} {vendorKey part : String}
  {first last cutoff : Instant} {found : List Sighting} {v : Volatile}

/-- **The entry of a vendor that a run has returned**: its dates are the first and the last at which
the run has seen it. -/
theorem exists_entry_of_kept (hkept : Kept { staleDays } before)
    (hlast : IsGreatest (dates (offers vendorKey part (returned { staleDays } before))) last) :
    ∃ r, (remembered { staleDays } before).read part = some r ∧
      ∃ e ∈ r.entries, e.vendorKey = vendorKey ∧ e.lastSeen = last ∧
        IsLeast (dates (offers vendorKey part (returned { staleDays } before))) e.firstSeen := by
  have hheld := (Volatile.Holds.empty staleDays).remembered_of_kept hkept part
  rw [List.nil_append] at hheld
  obtain ⟨s, hs, -⟩ := hlast.1
  obtain ⟨hmem, hkey⟩ := List.mem_filter.mp hs
  cases hr : (remembered { staleDays } before).read part with
  | none =>
    rw [hr] at hheld
    rw [hheld.eq_nil] at hmem
    exact absurd hmem List.not_mem_nil
  | some r =>
    rw [hr] at hheld
    obtain ⟨e, he, hek⟩ := (hheld.exists_entry_iff vendorKey).mpr ⟨s, hmem, of_decide_eq_true hkey⟩
    subst hek
    exact ⟨r, rfl, e, he, rfl, (hheld.tallied he).last.unique hlast, (hheld.sumsUp he).first⟩

/-- **A vendor that answers is returned with fresh rows.** -/
theorem fresh_of_offers_ne_nil (h : q.result? v = some found)
    (hans : offers vendorKey q.requirement.part q.fresh ≠ []) :
    offers vendorKey q.requirement.part found ≠ [] ∧
      ∀ row ∈ offers vendorKey q.requirement.part found, row.isHistorical = false := by
  obtain ⟨cutoff, -, hperm⟩ := result_perm h Sighting.unscored fun _ _ => rfl
  have hmerged := (Sighting.offers_mergeDuplicates_ne_nil_iff q.config).mpr hans
  have hrows := Sighting.offers_perm hperm vendorKey q.requirement.part
  rw [Sighting.offers_map_unscored, Sighting.offers_map_unscored] at hrows
  refine ⟨fun hnil => ?_, fun row hrow => ?_⟩
  · rw [hnil, PartRecord.joined, Sighting.offers_append, PartRecord.offers_annotate] at hrows
    simp only [List.map_nil, List.nil_perm, List.map_eq_nil_iff, List.append_eq_nil_iff] at hrows
    exact hmerged hrows.1
  · obtain ⟨t, ht, hts⟩ := List.mem_map.mp (hrows.mem_iff.mp (List.mem_map_of_mem hrow))
    rw [Sighting.eq_of_unscored_eq hts]
    exact PartRecord.isHistorical_of_mem_offers
      (merged_isHistorical fun s hs => (of_mem_fresh hs).1) hmerged t ht

/-- **A vendor that does not answer is returned with the row of its entry**, unless it was last seen
too long ago. -/
theorem offers_eq_of_silent (hv : v.Grown) {r : PartRecord}
    (hr : v.read q.requirement.part = some r)
    (hcut : q.now.minusDays? q.config.lookbackDays.toNat = some cutoff)
    (h : q.result? v = some found) {e : VendorEntry} (he : e ∈ r.entries)
    (hle : cutoff ≤ e.lastSeen) (hans : offers e.vendorKey q.requirement.part q.fresh = []) :
    ∃ score, offers e.vendorKey q.requirement.part found =
      [{ Sighting.ofEntry r.part e q.searchId with score }] := by
  obtain ⟨limit, hlimit, hperm⟩ := result_perm h Sighting.unscored fun _ _ => rfl
  have hrec : q.recordOf v = r := by
    rw [recordOf, hr]
    rfl
  rw [hr, PartRecord.lookback?, Option.elim_some, hcut] at hlimit
  obtain rfl := Option.some.inj hlimit
  rw [hrec] at hperm
  have hsilent : offers e.vendorKey q.requirement.part
      (Sighting.mergeDuplicates q.config q.fresh) = [] := by
    by_contra hne
    exact (Sighting.offers_mergeDuplicates_ne_nil_iff q.config).mp hne hans
  have hpart : PartNumber.normal r.part = PartNumber.normal q.requirement.part := by
    rw [(hv.read hr).1, PartNumber.normal_normal]
  exact Sighting.offers_eq_singleton hperm
    (PartRecord.offers_joined_of_silent (hv.read hr).2 hpart he hle hsilent)

/-- **A vendor once seen is never forgotten.**  After a run in which all upserts succeed, a search
for a part returns each vendor that the run has returned for the part and that was last seen within
the lookback: with fresh rows if a source answers for it, and otherwise with exactly one row from
memory, under the first and the last date at which the run has seen it. -/
theorem seen_vendor_returns (hkept : Kept { staleDays } before)
    (hlast : IsGreatest
      (dates (offers vendorKey q.requirement.part (returned { staleDays } before))) last)
    (hreq : q.requirement.validate = .ok ())
    (hcut : q.now.minusDays? q.config.lookbackDays.toNat = some cutoff) (hle : cutoff ≤ last) :
    ∃ found, q.result? (remembered { staleDays } before) = some found ∧
      (offers vendorKey q.requirement.part q.fresh ≠ [] →
        offers vendorKey q.requirement.part found ≠ [] ∧
          ∀ row ∈ offers vendorKey q.requirement.part found, row.isHistorical = false) ∧
      (offers vendorKey q.requirement.part q.fresh = [] →
        ∃ row, offers vendorKey q.requirement.part found = [row] ∧ row.isHistorical = true ∧
          row.isSubstitute = false ∧ row.observedAt = last ∧
          ∃ first, row.firstSeen = some first ∧ IsLeast
            (dates (offers vendorKey q.requirement.part (returned { staleDays } before))) first) := by
  have hgrown : (remembered { staleDays } before).Grown :=
    ((Reachable.empty staleDays).remembered before).grown
  obtain ⟨found, hfound⟩ := Option.isSome_iff_exists.mp
    (result?_isSome (v := remembered { staleDays } before) hreq hcut)
  refine ⟨found, hfound, fresh_of_offers_ne_nil hfound, fun hans => ?_⟩
  obtain ⟨r, hr, e, he, rfl, rfl, hfirst⟩ := exists_entry_of_kept hkept hlast
  obtain ⟨score, hrow⟩ := offers_eq_of_silent hgrown hr hcut hfound he hle hans
  exact ⟨_, hrow, rfl, rfl, rfl, e.firstSeen, rfl, hfirst⟩

/-- A vendor is seen on one day, and then, by a source whose answer is older, on an earlier one. -/
def seenTwice : List Inquiry :=
  [172800, 86400].map fun seconds =>
    reporting ⟨seconds, 0⟩ [{ vendorName := some "Acme", part := some "AB 1" }]

/-- A month later, when no source answers, the vendor is brought back with both dates. -/
theorem seenTwice_returns : Kept { staleDays := 180 } seenTwice ∧
    IsGreatest (dates (offers "acme" "ab1" (returned { staleDays := 180 } seenTwice)))
      ⟨172800, 0⟩ ∧
    ∃ found row, (reporting ⟨2592000, 0⟩ []).result?
        (remembered { staleDays := 180 } seenTwice) = some found ∧
      offers "acme" "ab1" found = [row] ∧ row.isHistorical = true ∧
      row.observedAt = ⟨172800, 0⟩ ∧ ∃ first, row.firstSeen = some first ∧
        IsLeast (dates (offers "acme" "ab1" (returned { staleDays := 180 } seenTwice))) first := by
  have hreach : ∀ seconds ∈ [172800, 86400],
      ((Instant.mk seconds 0).minusDays? (180 : UInt32).toNat).isSome = true := by decide
  have hkept : Kept { staleDays := 180 } seenTwice := by
    refine kept_of_reaches rfl fun q hq n => ?_
    obtain ⟨seconds, hseconds, rfl⟩ := List.mem_map.mp hq
    exact hreach seconds hseconds
  have hseen : (offers "acme" "ab1" (returned { staleDays := 180 } seenTwice)).map
      (·.observedAt) = [⟨172800, 0⟩, ⟨86400, 0⟩] := by decide +kernel
  have hlast : IsGreatest (dates (offers "acme" "ab1" (returned { staleDays := 180 } seenTwice)))
      ⟨172800, 0⟩ := by
    rw [Sighting.isGreatest_dates_iff, hseen]
    decide
  have hcut : (reporting ⟨2592000, 0⟩ []).now.minusDays?
      (reporting ⟨2592000, 0⟩ []).config.lookbackDays.toNat = some ⟨2592000 - 31536000, 0⟩ := by
    decide
  obtain ⟨found, hfound, -, hsilent⟩ := seen_vendor_returns
    (q := reporting ⟨2592000, 0⟩ []) hkept hlast rfl hcut (by decide)
  obtain ⟨row, hrow, hhist, -, hobserved, hfirst⟩ := hsilent rfl
  exact ⟨hkept, hlast, found, row, hfound, hrow, hhist, hobserved, hfirst⟩

end Inquiry

end PartSourcing
