import PartSourcing.Proofs.Memory.Coherence
import PartSourcing.Proofs.Search.Succession

/-!
# Where prices come from

A price means nothing without its currency, and on its way from a source to a result it is moved
field by field: into a merged sighting, into the entry of a vendor, and out of it again.  At every
stage a price that is taken over brings its currency along, so **each price in a result stands
beside the currency that one source reported with it**, for the same vendor and the same part: in
this search if the row is fresh, in an earlier one if it is remembered
(`quoted_of_mem_result`).
-/

namespace PartSourcing

open PartSourcing.Calendar

/-- **The same quote**: a vendor asks a price in a currency for a part, in whatever spelling. -/
structure Sighting.SameQuote (t s : Sighting) : Prop where
  vendorKey : t.vendorKey = s.vendorKey
  part : PartNumber.normal t.part = PartNumber.normal s.part
  price : t.price = s.price
  currency : t.currency = s.currency

namespace Sighting.SameQuote

theorem trans {a b c : Sighting} (hab : SameQuote a b) (hbc : SameQuote b c) : SameQuote a c where
  vendorKey := hab.vendorKey.trans hbc.vendorKey
  part := hab.part.trans hbc.part
  price := hab.price.trans hbc.price
  currency := hab.currency.trans hbc.currency

theorem scored (s : Sighting) (score : Option Score) : SameQuote s { s with score } :=
  ⟨rfl, rfl, rfl, rfl⟩

theorem of_identity {s t : Sighting} (hid : s.identity = t.identity) (hprice : s.price = t.price)
    (hcurrency : s.currency = t.currency) : SameQuote s t where
  vendorKey := congrArg Identity.vendorKey hid
  part := congrArg Identity.part hid
  price := hprice
  currency := hcurrency

theorem annotate (r : PartRecord) (req : Requirement) (s : Sighting) :
    SameQuote s (r.annotate req s) := by
  obtain ⟨seen, first, h⟩ := r.annotate_eq req s
  rw [h]
  exact ⟨rfl, rfl, rfl, rfl⟩

end Sighting.SameQuote

open Sighting (SameQuote)

namespace Inquiry

variable {q : Inquiry} {v : Volatile} {found : List Sighting} {s : Sighting}

/-- **What a row of a result is**, but for its score: a merged sighting with its annotations, or the
row of an entry in the record of the part. -/
theorem of_mem_result (h : q.result? v = some found) (hs : s ∈ found) :
    (s.isHistorical = false ∧ ∃ m ∈ Sighting.mergeDuplicates q.config q.fresh,
      s = { (q.recordOf v).annotate q.requirement m with score := s.score }) ∨
    (s.isHistorical = true ∧ ∃ e ∈ (q.recordOf v).entries,
      s = { Sighting.ofEntry (q.recordOf v).part e q.searchId with score := s.score }) := by
  obtain ⟨cutoff, -, hperm⟩ := result_perm h Sighting.unscored fun _ _ => rfl
  obtain ⟨t, ht, hts⟩ := List.mem_map.mp (hperm.mem_iff.mp (List.mem_map_of_mem hs))
  have hst := Sighting.eq_of_unscored_eq hts
  have hhist : s.isHistorical = t.isHistorical := by rw [hst]
  rcases PartRecord.mem_joined.mp ht with ⟨m, hm, rfl⟩ | ⟨e, he, rfl⟩
  · have hnew : m.isHistorical = false :=
      merged_isHistorical (fun u hu => (of_mem_fresh hu).1) m hm
    refine Or.inl ⟨?_, m, hm, hst⟩
    rw [hhist, PartRecord.annotate_isHistorical, hnew]
  · exact Or.inr ⟨hhist, e, (PartRecord.of_mem_silent he).1, hst⟩

/-- **A fresh row quotes a source** of its own search. -/
theorem quoted_of_mem_newRows (hs : s ∈ q.newRows v) (hprice : s.price.isSome = true) :
    ∃ t ∈ q.fresh, SameQuote t s := by
  obtain ⟨found, h, hmem, hfresh⟩ := mem_newRows.mp hs
  rcases of_mem_result h hmem with ⟨-, m, hm, hms⟩ | ⟨hhist, -⟩
  · have hquote : SameQuote m s := by
      rw [hms]
      exact (SameQuote.annotate (q.recordOf v) q.requirement m).trans (.scored _ _)
    obtain ⟨p, hp⟩ := Option.isSome_iff_exists.mp hprice
    have hmp : m.price = some p := hquote.price.trans hp
    obtain ⟨t, ht, hid, htp, htc⟩ := Sighting.price_of_mem_mergeDuplicates q.config hm hmp
    exact ⟨t, ht, (SameQuote.of_identity hid (htp.trans hmp.symm) htc).trans hquote⟩
  · exact absurd (hfresh.symm.trans hhist) Bool.false_ne_true

/-- **An entry quotes a sighting** that memory holds. -/
theorem quoted_of_entry {told : List Sighting} (h : v.Holds told) {part : String} {r : PartRecord}
    (hr : v.read part = some r) {e : VendorEntry} (he : e ∈ r.entries)
    (hprice : e.price.isSome = true) (searchId : SearchId) :
    ∃ t ∈ told, SameQuote t (Sighting.ofEntry r.part e searchId) := by
  have hgrows := h part
  rw [hr] at hgrows
  obtain ⟨p, hp⟩ := Option.isSome_iff_exists.mp hprice
  obtain ⟨t, ht, htp, hc⟩ := (hgrows.sumsUp he).price p hp
  obtain ⟨hpart, hkey⟩ := List.mem_filter.mp ht
  obtain ⟨htold, hsame⟩ := Sighting.mem_ofPart.mp hpart
  refine ⟨t, htold, of_decide_eq_true hkey, ?_, htp.trans hp.symm, ?_⟩
  · show PartNumber.normal t.part = PartNumber.normal r.part
    rw [hgrows.part_eq, PartNumber.normal_normal, PartNumber.normal_normal, hsame]
  · show t.currency = e.currency.getD defaultCurrency
    rw [hc, Option.getD_some]

/-- **Every price in the result of a search stands beside the currency it was reported with.**
Among what the sources of one search have reported there is a sighting of the same vendor and the
same part with the same price and currency: in the same search if the row is fresh, and in an
earlier one of the run if it is remembered. -/
theorem quoted_of_mem_result {staleDays : UInt32} {before : List Inquiry}
    (h : q.result? (remembered { staleDays } before) = some found) (hs : s ∈ found)
    (hprice : s.price.isSome = true) :
    (s.isHistorical = false ∧ ∃ t ∈ q.fresh, SameQuote t s) ∨
      (s.isHistorical = true ∧ ∃ q' ∈ before, ∃ t ∈ q'.fresh, SameQuote t s) := by
  rcases of_mem_result h hs with ⟨hfresh, -⟩ | ⟨hhist, e, he, hes⟩
  · exact Or.inl ⟨hfresh, quoted_of_mem_newRows (mem_newRows.mpr ⟨found, h, hs, hfresh⟩) hprice⟩
  · refine Or.inr ⟨hhist, ?_⟩
    -- an entry is in the record of the part, and that record has grown by rows of the run
    obtain ⟨told, htold, hheld⟩ := (Volatile.Holds.empty staleDays).remembered before
    rw [List.nil_append] at htold
    cases hr : (remembered { staleDays } before).read q.requirement.part with
    | none =>
      rw [recordOf, hr] at he
      exact absurd he List.not_mem_nil
    | some r =>
      rw [recordOf, hr, Option.getD_some] at he hes
      rw [hes] at hprice
      obtain ⟨u, hu, hquote⟩ := quoted_of_entry hheld hr he hprice q.searchId
      obtain ⟨q', hq', v, hnew⟩ := exists_of_mem_returned (htold.subset hu)
      have huprice : u.price.isSome = true := by
        rw [hquote.price]
        exact hprice
      obtain ⟨t, ht, htu⟩ := quoted_of_mem_newRows hnew huprice
      refine ⟨q', hq', t, ht, htu.trans ?_⟩
      rw [hes]
      exact hquote.trans (.scored _ _)

/-- An offer of a vendor at a price in euros. -/
def euroOffer : Listing :=
  { vendorName := some "Acme", part := some "AB 1", price := some (.number 2.5)
    currency := some "EUR" }

/-- Brought back by a search that reckons in dollars, the offer is still one in euros. -/
theorem quoted_of_euroOffer : ∃ found s,
    (reporting .epoch []).result? (remembered { staleDays := 180 } [reporting .epoch [euroOffer]]) =
      some found ∧ s ∈ found ∧ s.price.isSome = true ∧ s.currency = "EUR" ∧
      ∃ q ∈ [reporting .epoch [euroOffer]], ∃ t ∈ q.fresh, SameQuote t s := by
  have hrows : ((reporting .epoch []).result?
      (remembered { staleDays := 180 } [reporting .epoch [euroOffer]])).map
        (List.map fun s => (s.isHistorical, s.price.isSome, s.currency)) =
      some [(true, true, "EUR")] := by decide +kernel
  obtain ⟨found, hfound, hmap⟩ := Option.map_eq_some_iff.mp hrows
  obtain ⟨s, rfl, hs⟩ := List.map_eq_singleton_iff.mp hmap
  obtain ⟨hhist, hprice, hcurrency⟩ : s.isHistorical = true ∧ s.price.isSome = true ∧
      s.currency = "EUR" := by simpa only [Prod.mk.injEq] using hs
  have hmem : s ∈ [s] := List.mem_singleton_self s
  rcases quoted_of_mem_result hfound hmem hprice with ⟨hnew, -⟩ | ⟨-, hquoted⟩
  · exact absurd (hhist.symm.trans hnew) Bool.true_eq_false.mp
  · exact ⟨[s], s, hfound, hmem, hprice, hcurrency, hquoted⟩

end Inquiry

end PartSourcing
