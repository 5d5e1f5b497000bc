import PartSourcing.Proofs.Search.Conclusion
import PartSourcing.Proofs.Search.Inquiry

/-!
# Which offers a search returns

A result holds every identity once.  The identities of its fresh rows are those that the sources
have reported, and each row lists the sources that reported its own.  The identities of its
remembered rows are those of vendors that have not answered for the requested part and were seen
recently enough.

Two rows of one identity could only be a fresh one and a remembered one.  The identity of the
remembered one would be that of the requested part, without a stock number, so the fresh one
would be an answer of the same vendor for the requested part, and a vendor that has answered is
not brought back.  That argument needs the part number in the record, the requested one and the
one in an identity to agree on their normal form, which is where **normal forms are their own
normal forms** comes in.
-/

namespace PartSourcing

open PartSourcing.Calendar

namespace PartRecord

variable {r : PartRecord} {req : Requirement} {fresh : List Sighting} {cutoff : Instant}
  {searchId : SearchId}

/-- **In a record of the requested part no identity stands twice** among fresh and remembered
rows. -/
theorem nodup_identity_joined (hpart : PartNumber.normal r.part = PartNumber.normal req.part)
    (hfresh : (fresh.map Sighting.identity).Nodup) :
    ((r.joined req fresh cutoff searchId).map Sighting.identity).Nodup := by
  rw [joined, List.map_append, map_identity_annotate, List.nodup_append]
  refine ⟨hfresh, nodup_identity_silent _, ?_⟩
  rintro k hk _ hk' rfl
  rw [List.map_map] at hk'
  obtain ⟨e, he, rfl⟩ := List.mem_map.mp hk'
  -- the fresh row answers for the vendor that is brought back
  exact (of_mem_silent he).2.1 (mem_answering_iff_identity.mpr ⟨_, hk, hpart, rfl⟩)

end PartRecord

namespace Inquiry

variable {q : Inquiry} {v : Volatile} {found : List Sighting}

/-- **A vendor is brought back** if the record of the requested part has an entry of it that is
no older than the lookback allows, and none of the fresh sightings is its answer for that part. -/
def Resurfaces (q : Inquiry) (v : Volatile) (vendorKey : String) : Prop :=
  ∃ r e cutoff, v.read q.requirement.part = some r ∧ e ∈ r.entries ∧ e.vendorKey = vendorKey ∧
    q.now.minusDays? q.config.lookbackDays.toNat = some cutoff ∧ ¬ e.lastSeen < cutoff ∧
    ∀ s ∈ q.fresh, s.vendorKey = vendorKey →
      PartNumber.normal s.part ≠ PartNumber.normal q.requirement.part

/-- The vendors that are brought back are the silent ones of the record. -/
theorem resurfaces_iff (hv : v.Grown) {cutoff : Instant}
    (hcut : PartRecord.lookback? (v.read q.requirement.part) q.now q.config.lookbackDays =
      some cutoff) (vendorKey : String) :
    q.Resurfaces v vendorKey ↔
      ∃ e ∈ (q.recordOf v).silent (PartRecord.answering q.requirement
        (Sighting.mergeDuplicates q.config q.fresh)) cutoff, e.vendorKey = vendorKey := by
  have hans : vendorKey ∉ PartRecord.answering q.requirement
        (Sighting.mergeDuplicates q.config q.fresh) ↔
      ∀ s ∈ q.fresh, s.vendorKey = vendorKey →
        PartNumber.normal s.part ≠ PartNumber.normal q.requirement.part := by
    rw [PartRecord.mem_answering_iff_offers, Sighting.offers_mergeDuplicates_ne_nil_iff, not_not,
      Sighting.offers_eq_nil_iff]
  have hasc := recordOf_ascending (q := q) hv
  constructor
  · rintro ⟨r, e, limit, hr, he, hkey, hlimit, hold, hsilent⟩
    rw [hr, PartRecord.lookback?, Option.elim_some, hlimit, Option.some_inj] at hcut
    subst hcut
    have hrec : q.recordOf v = r := by
      rw [recordOf, hr]
      rfl
    refine ⟨e, (PartRecord.mem_silent hasc.nodup_keys).mpr ⟨hrec ▸ he, ?_, not_lt.mp hold⟩, hkey⟩
    rw [hkey]
    exact hans.mpr hsilent
  · rintro ⟨e, he, hkey⟩
    obtain ⟨hmem, hsilent, hlast⟩ := (PartRecord.mem_silent hasc.nodup_keys).mp he
    rw [hkey] at hsilent
    cases hr : v.read q.requirement.part with
    | none =>
      rw [recordOf, hr] at hmem
      exact absurd hmem List.not_mem_nil
    | some r =>
      rw [recordOf, hr] at hmem
      rw [hr] at hcut
      exact ⟨r, e, cutoff, hr, hmem, hkey, hcut, not_lt.mpr hlast, hans.mp hsilent⟩

/-- **The offers in a result.**  No identity stands twice.  The fresh rows have the identities
that were reported, each with its reporters in order of first appearance; the remembered rows
have the identities of the vendors that are brought back for the requested part. -/
theorem result_identities (hv : Reachable v) (h : q.result? v = some found) :
    (found.map Sighting.identity).Nodup ∧
    (∀ k, (∃ s ∈ found, s.isHistorical = false ∧ s.identity = k) ↔
      ∃ s ∈ q.fresh, s.identity = k) ∧
    (∀ s ∈ found, s.isHistorical = false →
      IsFirsts (Sighting.reportersOf q.fresh s.identity) s.reportedBy) ∧
    (∀ k, (∃ s ∈ found, s.isHistorical = true ∧ s.identity = k) ↔
      ∃ vendorKey, q.Resurfaces v vendorKey ∧
        k = ⟨vendorKey, PartNumber.normal q.requirement.part, none⟩) := by
  obtain ⟨cutoff, hcut, hperm⟩ := result_perm h Sighting.origin fun _ _ => rfl
  have hgrown := hv.grown
  have hpart := recordOf_part (q := q) hgrown
  have hnew : ∀ m ∈ Sighting.mergeDuplicates q.config q.fresh, m.isHistorical = false :=
    merged_isHistorical fun s hs => (of_mem_fresh hs).1
  have hids := Sighting.map_identity_mergeDuplicates q.config q.fresh
  -- What the fresh rows of the result are, with their reporters.
  have hfresh (k : Identity) (sources : List Source) :
      (∃ s ∈ found, s.isHistorical = false ∧ s.identity = k ∧ s.reportedBy = sources) ↔
        ∃ m ∈ Sighting.mergeDuplicates q.config q.fresh,
          m.identity = k ∧ m.reportedBy = sources :=
    (exists_iff_of_map_perm hperm fun o => o.2.1 = false ∧ o.1 = k ∧ o.2.2 = sources).trans
      (PartRecord.exists_fresh_joined hnew k sources)
  refine ⟨?_, fun k => ?_, fun s hs hhist => ?_, fun k => ?_⟩
  · have hmap := hperm.map Prod.fst
    rw [List.map_map, List.map_map] at hmap
    refine hmap.nodup_iff.mpr (PartRecord.nodup_identity_joined ?_ ?_)
    · rw [hpart, PartNumber.normal_normal]
    · rw [hids]
      exact Sighting.identities_nodup q.fresh
  · rw [← Sighting.mem_identities, ← hids, List.mem_map]
    constructor
    · rintro ⟨s, hs, hhist, hid⟩
      obtain ⟨m, hm, hmid, -⟩ := (hfresh k s.reportedBy).mp ⟨s, hs, hhist, hid, rfl⟩
      exact ⟨m, hm, hmid⟩
    · rintro ⟨m, hm, hid⟩
      obtain ⟨s, hs, hhist, hsid, -⟩ := (hfresh k m.reportedBy).mpr ⟨m, hm, hid, rfl⟩
      exact ⟨s, hs, hhist, hsid⟩
  · obtain ⟨m, hm, hid, hrep⟩ := (hfresh s.identity s.reportedBy).mp ⟨s, hs, hhist, rfl, rfl⟩
    rw [← hrep, (Sighting.of_mem_mergeDuplicates q.config hm).2.1, hid]
    exact isFirsts_eraseDups _
  · have hrows := (exists_iff_of_map_perm hperm fun o => o.2.1 = true ∧ o.1 = k).trans
      (PartRecord.exists_historical_joined hnew k)
    refine hrows.trans ?_
    rw [hpart, PartNumber.normal_normal]
    constructor
    · rintro ⟨e, he, rfl⟩
      exact ⟨e.vendorKey, (resurfaces_iff hgrown hcut _).mpr ⟨e, he, rfl⟩, rfl⟩
    · rintro ⟨vendorKey, hback, rfl⟩
      obtain ⟨e, he, rfl⟩ := (resurfaces_iff hgrown hcut _).mp hback
      exact ⟨e, he, rfl⟩

/-- The offer of one vendor for a part, as a source without an address reports it. -/
def oneOffer : Inquiry where
  config := {}
  requirement := ⟨"ab1", 1, [], none, "USD"⟩
  reliability _ := 0.5
  now := Instant.epoch
  clock _ := Instant.epoch
  searchId := SearchId.zero
  batches := [({
      source := .mouser
      currency := "USD"
      ready := .ok ()
      request _ := .error (.config "no address")
      payloads _ _ := .ok []
      listing _ _ := .ok { vendorName := some "Acme", part := some "AB1" } },
    [{ source := .mouser, payload := .null, fetchedAt := Instant.epoch }])]

/-- Asked for a second time, after it was remembered, the one offer is found once. -/
theorem result_of_one_offer : Reachable (oneOffer.after { staleDays := 180 }) ∧
    ∃ found, oneOffer.result? (oneOffer.after { staleDays := 180 }) = some found ∧
      (found.map Sighting.identity).Nodup ∧
      ∃ s ∈ found, s.isHistorical = false ∧ s.identity = ⟨"acme", "AB1", none⟩ := by
  have hv : Reachable (oneOffer.after { staleDays := 180 }) :=
    (Reachable.empty 180).search oneOffer
  have hsome : (oneOffer.result? (oneOffer.after { staleDays := 180 })).isSome = true :=
    result?_isSome rfl rfl
  obtain ⟨found, hfound⟩ := Option.isSome_iff_exists.mp hsome
  have hresult := result_identities hv hfound
  exact ⟨hv, found, hfound, hresult.1, (hresult.2.1 _).mpr ⟨_, List.mem_singleton_self _, rfl⟩⟩

end Inquiry

end PartSourcing
