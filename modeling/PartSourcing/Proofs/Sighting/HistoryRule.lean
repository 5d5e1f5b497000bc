import PartSourcing.Proofs.Memory.Growth
import PartSourcing.Proofs.Sighting.History

/-!
# The rule by which memory is added to a result

What memory adds can be said without going through the record.  Each fresh sighting stands where it
stood, and has been annotated if it is one of the requested part and its vendor is on record
(`Annotates`).  Behind the fresh sightings stands one row for each silent vendor, in the order of
the vendor keys, with what the record knows of that vendor (`Recalls`).  A vendor is silent if it
was seen within the lookback and none of its fresh sightings is one of the requested part.

The two conditions differ, and **each ignores what the other looks at**: an annotation does not ask
when the vendor was last seen, and a vendor is silenced by any of its offers of the requested part,
under whatever stock number and in whatever spelling.  Offers of other parts take no part in either.
-/

namespace PartSourcing

open PartSourcing.Calendar

namespace PartRecord

/-- **A fresh sighting and its annotated form.**  One of the requested part whose vendor is on record
gets two fields from the vendor's entry; any other stays as it is. -/
inductive Annotates (r : PartRecord) (req : Requirement) (s : Sighting) : Sighting → Prop where
  | known {e : VendorEntry} (requested : PartNumber.normal req.part = PartNumber.normal s.part)
      (recorded : e ∈ r.entries) (vendor : e.vendorKey = s.vendorKey) :
      Annotates r req s { s with timesSeen := some e.timesSeen, firstSeen := some e.firstSeen }
  | other (h : PartNumber.normal req.part = PartNumber.normal s.part →
      ∀ e ∈ r.entries, e.vendorKey ≠ s.vendorKey) : Annotates r req s s

/-- **The row that stands for an entry of the record** in the result of a search. -/
structure Recalls (r : PartRecord) (searchId : SearchId) (e : VendorEntry) (row : Sighting) :
    Prop where
  isHistorical : row.isHistorical = true
  part : row.part = r.part
  searchId : row.searchId = searchId
  vendorKey : row.vendorKey = e.vendorKey
  vendorName : row.vendorName = e.vendorName
  standing : row.standing = e.standing
  price : row.price = e.price
  /-- A price whose currency is not known counts as one in dollars. -/
  currency : row.currency = e.currency.getD "USD"
  quantity : row.quantity = e.quantity
  observedAt : row.observedAt = e.lastSeen
  timesSeen : row.timesSeen = some e.timesSeen
  firstSeen : row.firstSeen = some e.firstSeen

/-- **A vendor that has not answered**, though it was seen at or after the cutoff: none of the fresh
sightings of the requested part is one of its. -/
structure IsSilent (r : PartRecord) (req : Requirement) (fresh : List Sighting) (cutoff : Instant)
    (e : VendorEntry) : Prop where
  recorded : e ∈ r.entries
  recent : cutoff ≤ e.lastSeen
  unanswered : ∀ s ∈ fresh, PartNumber.normal req.part = PartNumber.normal s.part →
    s.vendorKey ≠ e.vendorKey

theorem annotates_annotate (r : PartRecord) (req : Requirement) (s : Sighting) :
    r.Annotates req s (r.annotate req s) := by
  by_cases hpart : PartNumber.normal req.part = PartNumber.normal s.part
  · have hprimary : req.isPrimary s.part = true := PartNumber.same_iff.mpr hpart
    rw [annotate, if_pos hprimary]
    cases he : r.annotation? s.vendorKey with
    | some e =>
      have hmem : e ∈ r.entries := List.mem_reverse.mp (List.mem_of_find?_eq_some he)
      exact .known hpart hmem (by simpa using List.find?_some he)
    | none =>
      refine .other fun _ e hmem hkey => ?_
      have hnone := List.find?_eq_none.mp he e (List.mem_reverse.mpr hmem)
      exact hnone (beq_iff_eq.mpr hkey)
  · have hother : ¬req.isPrimary s.part = true := fun h => hpart (PartNumber.same_iff.mp h)
    rw [annotate, if_neg hother]
    exact .other fun h => absurd h hpart

theorem recalls_ofEntry (r : PartRecord) (searchId : SearchId) (e : VendorEntry) :
    r.Recalls searchId e (Sighting.ofEntry r.part e searchId) :=
  ⟨rfl, rfl, rfl, rfl, rfl, rfl, rfl, rfl, rfl, rfl, rfl, rfl⟩

variable {r : PartRecord} {req : Requirement} {fresh : List Sighting} {cutoff : Instant}

theorem mem_silent_iff_isSilent (hr : (r.entries.map (·.vendorKey)).Nodup) {e : VendorEntry} :
    e ∈ r.silent (answering req fresh) cutoff ↔ r.IsSilent req fresh cutoff e := by
  have hans : e.vendorKey ∉ answering req fresh ↔
      ∀ s ∈ fresh, PartNumber.normal req.part = PartNumber.normal s.part →
        s.vendorKey ≠ e.vendorKey := by
    rw [mem_answering]
    simp only [not_exists, not_and, ne_eq]
  rw [mem_silent hr, hans]
  exact ⟨fun ⟨hmem, hsilent, hcut⟩ => ⟨hmem, hcut, hsilent⟩,
    fun ⟨hmem, hcut, hsilent⟩ => ⟨hmem, hsilent, hcut⟩⟩

/-- **What memory adds to a result.**  From a record whose keys are all different, if the calendar
reaches back far enough, the fresh sightings come back in their order, each in its annotated form,
and behind them one row for each silent vendor, in the order of the vendor keys. -/
theorem history_rule (hr : (r.entries.map (·.vendorKey)).Nodup) {now : Instant}
    {lookbackDays : UInt32} (hcut : now.minusDays? lookbackDays.toNat = some cutoff)
    (req : Requirement) (fresh : List Sighting) (searchId : SearchId) :
    ∃ annotated silent historical,
      Sighting.withHistory? fresh req (some r) lookbackDays now searchId =
        some (annotated ++ historical) ∧
      List.Forall₂ (r.Annotates req) fresh annotated ∧
      (∀ e, e ∈ silent ↔ r.IsSilent req fresh cutoff e) ∧
      List.Forall₂ (r.Recalls searchId) silent historical ∧
      historical.Pairwise fun a b => a.vendorKey < b.vendorKey := by
  refine ⟨fresh.map (r.annotate req), r.silent (answering req fresh) cutoff,
    (r.silent (answering req fresh) cutoff).map fun e => Sighting.ofEntry r.part e searchId,
    ?_, ?_, fun e => mem_silent_iff_isSilent hr, ?_, ?_⟩
  · rw [Sighting.withHistory?, resurface?, hcut, Option.map_some]
  · rw [List.forall₂_map_right_iff, List.forall₂_same]
    exact fun s _ => r.annotates_annotate req s
  · rw [List.forall₂_map_right_iff, List.forall₂_same]
    exact fun e _ => r.recalls_ofEntry searchId e
  · exact List.pairwise_map.mpr (r.silent_ascending _ cutoff)

/-- A record of three vendors, not in the order of their keys, one of them seen on the sixth day. -/
def threeVendors : PartRecord where
  __ := empty "AB1" .epoch
  entries := [("beta", 518400), ("acme", 86400), ("gamma", 172800)].map fun v =>
    VendorEntry.ofSighting (.bare v.1 "AB1" ⟨v.2, 0⟩ .zero)

/-- On the tenth day, with a lookback of five, one vendor answers for the part and is annotated,
though it was last seen before that.  Another one offers a substitute, which is no answer, so it is
brought back.  The third is too old. -/
theorem history_rule_of_threeVendors :
    (threeVendors.entries.map (·.vendorKey)).Nodup ∧
    (⟨864000, 0⟩ : Instant).minusDays? (5 : UInt32).toNat = some ⟨432000, 0⟩ ∧
    ∃ annotated silent historical,
      Sighting.withHistory?
          [.bare "acme" "ab 1" ⟨864000, 0⟩ .zero, .bare "beta" "AB2" ⟨864000, 0⟩ .zero]
          ⟨"AB 1", 1, ["AB2"], none, "USD"⟩ (some threeVendors) 5 ⟨864000, 0⟩ .zero =
        some (annotated ++ historical) ∧
      List.Forall₂ (threeVendors.Recalls .zero) silent historical ∧
      (annotated ++ historical).map (fun s => (s.vendorKey, s.isHistorical, s.timesSeen)) =
        [("acme", false, some 1), ("beta", false, none), ("beta", true, some 1)] := by
  have hkeys : (threeVendors.entries.map (·.vendorKey)).Nodup := by decide
  have hcut : (⟨864000, 0⟩ : Instant).minusDays? (5 : UInt32).toNat = some ⟨432000, 0⟩ := by
    decide
  obtain ⟨annotated, silent, historical, hfound, -, -, hrecalls, -⟩ := history_rule hkeys hcut
    ⟨"AB 1", 1, ["AB2"], none, "USD"⟩
    [.bare "acme" "ab 1" ⟨864000, 0⟩ .zero, .bare "beta" "AB2" ⟨864000, 0⟩ .zero] .zero
  have hrows := congrArg
    (Option.map (List.map fun s => (s.vendorKey, s.isHistorical, s.timesSeen))) hfound
  refine ⟨hkeys, hcut, annotated, silent, historical, hfound, hrecalls, ?_⟩
  exact Option.some.inj (hrows.symm.trans (by decide +kernel))

end PartRecord

end PartSourcing
