import PartSourcing.Proofs.Sighting.History
import PartSourcing.Proofs.Sighting.Merge

/-!
# Offers of one vendor for one part

Of some sightings those of one part (`ofPart`) and among them those of one vendor (`offers`), under
whatever spelling of the part they stand.  Whether there are any can be told from the identities
alone (`offers_ne_nil_iff`), so **merging duplicates neither adds a vendor nor loses one**, and a
vendor answers for the requested part just if it has an offer for it (`mem_answering_iff_offers`).
-/

namespace PartSourcing

/-- The sightings of a part, in whatever spelling. -/
def Sighting.ofPart (part : String) (l : List Sighting) : List Sighting :=
  l.filter fun s => PartNumber.same part s.part

namespace Sighting

theorem mem_ofPart {part : String} {l : List Sighting} {s : Sighting} :
    s ∈ ofPart part l ↔ s ∈ l ∧ PartNumber.normal part = PartNumber.normal s.part := by
  rw [ofPart, List.mem_filter, PartNumber.same_iff]

theorem ofPart_concat_of_same {part : String} {s : Sighting}
    (h : PartNumber.normal part = PartNumber.normal s.part) (l : List Sighting) :
    ofPart part (l ++ [s]) = ofPart part l ++ [s] := by
  rw [ofPart, List.filter_append]
  exact congrArg (ofPart part l ++ ·) (List.filter_cons_of_pos (PartNumber.same_iff.mpr h))

theorem ofPart_concat_of_ne {part : String} {s : Sighting}
    (h : PartNumber.normal part ≠ PartNumber.normal s.part) (l : List Sighting) :
    ofPart part (l ++ [s]) = ofPart part l := by
  have hs : ¬PartNumber.same part s.part = true := fun hsame => h (PartNumber.same_iff.mp hsame)
  rw [ofPart, List.filter_append]
  exact (congrArg (ofPart part l ++ ·) (List.filter_cons_of_neg hs)).trans (List.append_nil _)

/-- The sightings of a vendor and a part, in whatever spelling. -/
def offers (vendorKey part : String) (l : List Sighting) : List Sighting :=
  (ofPart part l).filter fun s => s.vendorKey = vendorKey

variable {vendorKey part : String} {l : List Sighting} {s : Sighting}

theorem mem_offers : s ∈ offers vendorKey part l ↔ s ∈ l ∧ s.vendorKey = vendorKey ∧
    PartNumber.normal part = PartNumber.normal s.part := by
  rw [offers, List.mem_filter, mem_ofPart, decide_eq_true_eq, and_assoc]
  exact and_congr_right fun _ => and_comm

theorem offers_append (l l' : List Sighting) : offers vendorKey part (l ++ l') =
    offers vendorKey part l ++ offers vendorKey part l' := by
  simp only [offers, ofPart, List.filter_append]

theorem offers_perm {l l' : List Sighting} (h : l.Perm l') (vendorKey part : String) :
    (offers vendorKey part l).Perm (offers vendorKey part l') := (h.filter _).filter _

theorem offers_eq_nil_iff : offers vendorKey part l = [] ↔ ∀ s ∈ l, s.vendorKey = vendorKey →
    PartNumber.normal s.part ≠ PartNumber.normal part := by
  rw [List.eq_nil_iff_forall_not_mem]
  simp only [mem_offers, not_and]
  exact forall_congr' fun s => forall₂_congr fun _ _ => not_congr eq_comm

/-- Whether there are any can be told from the identities. -/
theorem offers_ne_nil_iff : offers vendorKey part l ≠ [] ↔
    ∃ k ∈ l.map identity, k.part = PartNumber.normal part ∧ k.vendorKey = vendorKey := by
  constructor
  · intro h
    obtain ⟨s, hs⟩ := List.exists_mem_of_ne_nil _ h
    obtain ⟨hmem, hkey, hpart⟩ := mem_offers.mp hs
    exact ⟨s.identity, List.mem_map_of_mem hmem, hpart.symm, hkey⟩
  · rintro ⟨k, hk, hpart, hkey⟩
    obtain ⟨s, hs, rfl⟩ := List.mem_map.mp hk
    exact List.ne_nil_of_mem (mem_offers.mpr ⟨hs, hkey, hpart.symm⟩)

theorem offers_mergeDuplicates_ne_nil_iff (c : EngineConfig) :
    offers vendorKey part (mergeDuplicates c l) ≠ [] ↔ offers vendorKey part l ≠ [] := by
  rw [offers_ne_nil_iff, offers_ne_nil_iff, map_identity_mergeDuplicates]
  exact exists_congr fun k => and_congr_left fun _ => by rw [mem_identities, List.mem_map]

end Sighting

namespace PartRecord

variable {req : Requirement} {fresh : List Sighting} {vendorKey : String}

/-- **Those who answer for the requested part** are those with a fresh offer for it. -/
theorem mem_answering_iff_offers :
    vendorKey ∈ answering req fresh ↔ Sighting.offers vendorKey req.part fresh ≠ [] := by
  rw [mem_answering]
  constructor
  · rintro ⟨s, hs, hpart, hkey⟩
    exact List.ne_nil_of_mem (Sighting.mem_offers.mpr ⟨hs, hkey, hpart⟩)
  · intro h
    obtain ⟨s, hs⟩ := List.exists_mem_of_ne_nil _ h
    obtain ⟨hmem, hkey, hpart⟩ := Sighting.mem_offers.mp hs
    exact ⟨s, hmem, hpart, hkey⟩

theorem mem_answering_iff_identity : vendorKey ∈ answering req fresh ↔
    ∃ k ∈ fresh.map Sighting.identity, k.part = PartNumber.normal req.part ∧
      k.vendorKey = vendorKey := by
  rw [mem_answering_iff_offers, Sighting.offers_ne_nil_iff]

end PartRecord

end PartSourcing
