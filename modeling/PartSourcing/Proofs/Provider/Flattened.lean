import PartSourcing.Proofs.Json.Records
import PartSourcing.Proofs.Places
import PartSourcing.Proofs.Provider.Breaks

/-!
# Offers of many sellers

A response nests offers in sellers in parts, and each of these may be missing, empty or without a
name.  What stands where is said here of the document itself (`OfferAt`): an offer at its place,
with the part and the seller that it stands under.

**The records of a response are its offers, each once and in the order of the document**
(`flatten_inPlaces`).  A record is read back as what it was made of, and what a listing says comes
from the part, the seller and the offer of its own (`listing_of_response`): an offer that is none
leaves the other ones as they are.
-/

namespace PartSourcing.Nexar

open PartSourcing.Json PartSourcing.Provider

/-! ## The document -/

/-- The results in a response. -/
def resultsOf (doc : Json) : List Json :=
  itemsOf (((doc.field? 0 "data").bind (field? 0 "supSearchMpn")).bind (field? 0 "results"))

/-- The part of a result; null if there is none. -/
def partOf (result : Json) : Json := (result.field? 0 "part").getD .null

/-- The sellers of the part of a result. -/
def sellersOf (result : Json) : List Json := itemsOf ((partOf result).field? 2 "sellers")

/-- The offers of a seller. -/
def offersOf (seller : Json) : List Json := itemsOf (seller.field? 2 "offers")

/-- The name of a company, if it has one. -/
def nameOf (company : Option Json) : Option String := textOf (company.bind (field? 0 "name"))

/-- An offer with the part and the seller it stands under. -/
def flatOf (result seller offer : Json) : FlatOffer where
  part := textOf ((partOf result).field? 0 "mpn")
  manufacturer := nameOf ((partOf result).field? 1 "manufacturer")
  seller := nameOf (seller.field? 0 "company")
  isAuthorized := flagOf (seller.field? 1 "isAuthorized")
  offer := offer.settle

/-- **The offer at a place of a document**: that of the result, of the seller and of the offer. -/
def OfferAt (doc : Json) (place : ℕ ×ₗ ℕ ×ₗ ℕ) (o : FlatOffer) : Prop :=
  ∃ result seller offer, (resultsOf doc)[(ofLex place).1]? = some result ∧
    (sellersOf result)[(ofLex (ofLex place).2).1]? = some seller ∧
    (offersOf seller)[(ofLex (ofLex place).2).2]? = some offer ∧ flatOf result seller offer = o

/-! ## What a response is decoded as -/

section Decoding

variable {d : Dialect} {j : Json}

theorem name_of_company {name : Option String} (h : companyDecoder d j = .ok name) :
    name = textOf (j.field? 0 "name") := by
  obtain ⟨l, l', hl, h⟩ := record_eq_ok h
  exact (Fields.optional_text hl h).1

/-- A company that is missing has no name. -/
theorem name_of_optional {field : String} {place : Nat} {o : Option (Option String)}
    {l l' : Layout} (hl : l.Reaches j place)
    (h : Fields.optional field companyDecoder d l = .ok (o, l')) :
    o.join = nameOf (j.field? place field) ∧ l'.Reaches j (place + 1) := by
  obtain ⟨⟨rfl, hnone | hnull⟩ | ⟨v, name, hv, hname, rfl⟩, hl'⟩ := Fields.optional_eq_ok hl h
  · rw [hnone]
    exact ⟨rfl, hl'⟩
  · rw [hnull]
    exact ⟨rfl, hl'⟩
  · rw [hv]
    exact ⟨name_of_company hname, hl'⟩

theorem seller_of_document {s : Seller} (h : Seller.decoder d j = .ok s) :
    s.name = nameOf (j.field? 0 "company") ∧ s.isAuthorized = flagOf (j.field? 1 "isAuthorized") ∧
      s.offers = (offersOf j).map settle := by
  obtain ⟨l, l', hl, h⟩ := record_eq_ok h
  obtain ⟨company, l₁, hcompany, h⟩ := Fields.bind_eq_ok h
  obtain ⟨hname, hl₁⟩ := name_of_optional hl hcompany
  obtain ⟨authorized, l₂, hauthorized, h⟩ := Fields.bind_eq_ok h
  obtain ⟨rfl, hl₂⟩ := Fields.orElse_flag hl₁ hauthorized
  obtain ⟨offers, l₃, hoffers, h⟩ := Fields.bind_eq_ok h
  obtain ⟨hlist, -⟩ := Fields.orElse_list hl₂ hoffers
  cases h
  refine ⟨hname, rfl, ?_⟩
  have hsettled := hlist.imp fun x a (ha : Decoder.any d x = .ok a) => Except.ok.inj ha
  exact (List.forall₂_eq_eq_eq ▸ List.forall₂_map_left_iff.mpr hsettled : _ = _).symm

/-- The offers of a seller, as they stand in the document. -/
theorem flatten_seller {s : Seller} (h : Seller.decoder d j = .ok s) (result : Json)
    {part manufacturer : Option String}
    (hpart : part = textOf ((partOf result).field? 0 "mpn"))
    (hmanufacturer : manufacturer = nameOf ((partOf result).field? 1 "manufacturer")) :
    (s.offers.map fun offer => FlatOffer.mk part manufacturer s.name s.isAuthorized offer) =
      (offersOf j).map (flatOf result j) := by
  obtain ⟨hname, hauthorized, hoffers⟩ := seller_of_document h
  rw [hname, hauthorized, hoffers, hpart, hmanufacturer, List.map_map]
  rfl

theorem flatMap_eq_of_forall₂ {α β γ : Type} {f : α → List γ} {g : β → List γ} {l : List α}
    {l' : List β} (h : List.Forall₂ (fun a b => g b = f a) l l') : l'.flatMap g = l.flatMap f := by
  induction h with
  | nil => rfl
  | cons hab _ ih => rw [List.flatMap_cons, List.flatMap_cons, hab, ih]

/-- **The offers of a part**, as they stand in the document. -/
theorem flatten_part {result : Json} {p : Part} (h : Part.decoder d (partOf result) = .ok p) :
    p.flatten = (sellersOf result).flatMap fun seller =>
      (offersOf seller).map (flatOf result seller) := by
  obtain ⟨l, l', hl, h⟩ := record_eq_ok h
  obtain ⟨mpn, l₁, hmpn, h⟩ := Fields.bind_eq_ok h
  obtain ⟨hpart, hl₁⟩ := Fields.optional_text hl hmpn
  obtain ⟨company, l₂, hcompany, h⟩ := Fields.bind_eq_ok h
  obtain ⟨hmanufacturer, hl₂⟩ := name_of_optional hl₁ hcompany
  obtain ⟨sellers, l₃, hsellers, h⟩ := Fields.bind_eq_ok h
  obtain ⟨hlist, -⟩ := Fields.orElse_list hl₂ hsellers
  cases h
  exact flatMap_eq_of_forall₂ (hlist.imp fun x s hs => flatten_seller hs result hpart hmanufacturer)

/-- The offers of a result, which has none without a part. -/
theorem flatten_result {o : Option Part} (h : resultDecoder d j = .ok o) :
    (o.toList.flatMap Part.flatten) = (sellersOf j).flatMap fun seller =>
      (offersOf seller).map (flatOf j seller) := by
  obtain ⟨l, l', hl, h⟩ := record_eq_ok h
  obtain ⟨⟨rfl, hmissing⟩ | ⟨v, p, hv, hp, rfl⟩, -⟩ := Fields.optional_eq_ok hl h
  · have hnull : partOf j = .null := by
      rcases hmissing with hnone | hnull
      · rw [partOf, hnone]
        rfl
      · rw [partOf, hnull]
        rfl
    rw [sellersOf, hnull]
    rfl
  · have hvalue : partOf j = v := by
      rw [partOf, hv]
      rfl
    rw [← hvalue] at hp
    rw [Option.toList_some, List.flatMap_singleton, flatten_part hp]

/-- The offers of some results: those without a part do not matter. -/
theorem flatten_results {results : List Json} {parts : List (Option Part)}
    (h : List.Forall₂ (fun x o => resultDecoder d x = .ok o) results parts) :
    (parts.filterMap id).flatMap Part.flatten = results.flatMap fun result =>
      (sellersOf result).flatMap fun seller => (offersOf seller).map (flatOf result seller) := by
  rw [← flatMap_eq_of_forall₂ (h.imp fun x o ho => flatten_result ho)]
  clear h
  induction parts with
  | nil => rfl
  | cons o parts ih =>
    rw [List.flatMap_cons, ← ih]
    cases o with
    | none => rfl
    | some p => simp

theorem flatten_data {parts : List Part} (h : dataDecoder d j = .ok parts) :
    parts.flatMap Part.flatten =
      (itemsOf ((j.field? 0 "supSearchMpn").bind (field? 0 "results"))).flatMap fun result =>
        (sellersOf result).flatMap fun seller => (offersOf seller).map (flatOf result seller) := by
  obtain ⟨l, l', hl, h⟩ := record_eq_ok h
  obtain ⟨results, l₁, hresults, h⟩ := Fields.bind_eq_ok h
  cases h
  obtain ⟨⟨rfl, hnone | hnull⟩ | ⟨v, results, hv, hread, rfl⟩, -⟩ :=
    Fields.optional_eq_ok hl hresults
  · rw [hnone]
    rfl
  · rw [hnull]
    rfl
  · obtain ⟨m, m', hm, hread⟩ := record_eq_ok hread
    rw [hv]
    exact flatten_results (Fields.orElse_list hm hread).1

/-- **The offers of a response are those in the document**, in the same order. -/
theorem flatten_eq {doc : Json} {reply : Reply} (h : decode Reply.decoder doc = .ok reply) :
    reply.flatten = (resultsOf doc).flatMap fun result =>
      (sellersOf result).flatMap fun seller => (offersOf seller).map (flatOf result seller) := by
  obtain ⟨l, l', hl, h⟩ := record_eq_ok h
  obtain ⟨data, l₁, hdata, h⟩ := Fields.bind_eq_ok h
  obtain ⟨errors, l₂, -, h⟩ := Fields.bind_eq_ok h
  cases h
  obtain ⟨⟨rfl, hnone | hnull⟩ | ⟨v, parts, hv, hparts, rfl⟩, -⟩ := Fields.optional_eq_ok hl hdata
  · rw [resultsOf, hnone]
    rfl
  · rw [resultsOf, hnull]
    rfl
  · rw [resultsOf, hv]
    exact flatten_data hparts

end Decoding

/-- **The records of a response are the offers in it**, one for each place that has one, in the
order of the document. -/
theorem flatten_inPlaces {doc : Json} {reply : Reply} (h : decode Reply.decoder doc = .ok reply) :
    InPlaces (OfferAt doc) reply.flatten := by
  have hunique {γ : Type} (xs : List γ) (i : ℕ) (a b : γ) (ha : xs[i]? = some a)
      (hb : xs[i]? = some b) : a = b := Option.some.inj (ha.symm.trans hb)
  have hsellers (result : Json) := (inPlaces_getElem? (sellersOf result)).flatMap (hunique _)
    fun seller => (inPlaces_getElem? (offersOf seller)).map (flatOf result seller)
  rw [flatten_eq h]
  refine ((inPlaces_getElem? (resultsOf doc)).flatMap (hunique _) hsellers).congr fun p o => ?_
  constructor
  · rintro ⟨result, hresult, seller, hseller, offer, hoffer, ho⟩
    exact ⟨result, seller, offer, hresult, hseller, hoffer, ho⟩
  · rintro ⟨result, seller, offer, hresult, hseller, hoffer, ho⟩
    exact ⟨result, hresult, seller, hseller, offer, hoffer, ho⟩

/-! ## The records -/

/-- **A record is read back as the offer that it was made of.** -/
theorem decode_toJson {o : FlatOffer} (h : o.offer.settle = o.offer) :
    decode FlatOffer.decoder o.toJson = .ok o := by
  have hread : decode FlatOffer.decoder o.toJson = .ok { o with offer := o.offer.settle } := by
    obtain ⟨part, manufacturer, seller, isAuthorized, offer⟩ := o
    cases part <;> cases manufacturer <;> cases seller <;> rfl
  rw [hread, h]

theorem settle_of_offerAt {doc : Json} {place : ℕ ×ₗ ℕ ×ₗ ℕ} {o : FlatOffer}
    (h : OfferAt doc place o) : o.offer.settle = o.offer := by
  obtain ⟨result, seller, offer, -, -, -, rfl⟩ := h
  exact settle_settle offer

/-- **What a listing says of an offer**: part, manufacturer and vendor are those that the offer
stands under, and the rest is what the offer says of itself. -/
structure Describes (l : Listing) (f : FlatOffer) (o : Offer) : Prop where
  part : l.part = given? f.part
  manufacturer : l.manufacturer = given? f.manufacturer
  vendorName : l.vendorName = given? f.seller
  stockNumber : l.stockNumber = given? o.stockNumber
  quantity : l.quantity = o.quantity
  url : l.url = given? o.url
  leadTime : l.leadTime = o.leadDays.map fun d => Decimal.natText d.toNat ++ " days"
  /-- An offer of an authorized seller is one of a franchised distributor. -/
  authorized : f.isAuthorized = true ↔
    l.isAuthorized = true ∧ l.standing = some .authorizedDistributor
  /-- Any other is one of a broker. -/
  broker : f.isAuthorized = false ↔ l.isAuthorized = false ∧ l.standing = some .broker

theorem describes_listing (f : FlatOffer) (o : Offer) (target : UInt32) :
    Describes (o.listing f target) f o where
  part := rfl
  manufacturer := rfl
  vendorName := rfl
  stockNumber := rfl
  quantity := rfl
  url := rfl
  leadTime := rfl
  authorized := by cases hf : f.isAuthorized <;> simp [Offer.listing, hf]
  broker := by cases hf : f.isAuthorized <;> simp [Offer.listing, hf]

/-- **What is read in the records of a response.**  They are the offers in the document, each once
and in its order.  Each is read back as what it was made of, and makes a listing that describes its
own offer, or is malformed if that offer is no offer, whatever the others are. -/
theorem listing_of_response {doc : Json} {reply : Reply}
    (h : decode Reply.decoder doc = .ok reply) :
    InPlaces (OfferAt doc) reply.flatten ∧
    ∀ f ∈ reply.flatten, ∀ r : RawRecord, r.source = .nexar → r.payload = f.toJson →
      r.decode .nexar FlatOffer.decoder = .ok f ∧
      (∀ o, decode Offer.decoder f.offer = .ok o →
        ∀ req, ∃ l, listing r req = .ok l ∧ Describes l f o) ∧
      ∀ e, decode Offer.decoder f.offer = .error e →
        ∀ req, listing r req = .error (.malformed .nexar e) := by
  have hplaces := flatten_inPlaces h
  refine ⟨hplaces, ?_⟩
  intro f hf r hsource hpayload
  obtain ⟨place, hat⟩ := hplaces.exists_of_mem hf
  have hdecode : r.decode .nexar FlatOffer.decoder = .ok f := by
    rw [RawRecord.decode, if_pos hsource, hpayload, decode_toJson (settle_of_offerAt hat)]
    rfl
  refine ⟨hdecode, ?_, ?_⟩
  · intro o ho req
    refine ⟨o.listing f req.targetQuantity, ?_, describes_listing f o _⟩
    rw [listing_eq hdecode, ho]
    rfl
  · intro e he req
    rw [listing_eq hdecode, he]
    rfl

section TwoSellers

/-- An offer with a stock number. -/
def offerNumbered (number : String) : Json := .obj [("sku", .str number)]

/-- A result without a part, and a part of two sellers.  The second has no name, and one of its
offers is none. -/
def twoSellers : Json := .obj [("data", .obj [("supSearchMpn", .obj [("results", .arr [
  .obj [("part", .null)],
  .obj [("part", .obj [
    ("mpn", .str "ABC123"),
    ("manufacturer", .obj [("name", .str "Texas Instruments")]),
    ("sellers", .arr [
      .obj [("company", .obj [("name", .str "Arrow")]), ("isAuthorized", .bool true),
        ("offers", .arr [offerNumbered "A-1"])],
      .obj [("company", .null), ("offers", .arr [.int 7, offerNumbered "B-2"])]])])]])])])]

/-- What it is decoded as. -/
def twoSellersReply : Reply := ⟨[], [⟨some "ABC123", some "Texas Instruments", [
  ⟨some "Arrow", true, [offerNumbered "A-1"]⟩,
  ⟨none, false, [.int 7, offerNumbered "B-2"]⟩]⟩]⟩

/-- The record of an offer of this response. -/
def recordOf (f : FlatOffer) : RawRecord := ⟨.nexar, f.toJson, some "ABC123", .epoch⟩

/-- The offer that is none is malformed, and the ones around it are read. -/
theorem listing_of_response_twoSellers :
    decode Reply.decoder twoSellers = .ok twoSellersReply ∧
    ∃ a b c, twoSellersReply.flatten = [a, b, c] ∧
      InPlaces (OfferAt twoSellers) [a, b, c] ∧
      ∀ req, (∃ l, listing (recordOf a) req = .ok l ∧ l.part = some "ABC123" ∧
          l.vendorName = some "Arrow" ∧ l.stockNumber = some "A-1" ∧ l.isAuthorized = true ∧
          l.standing = some .authorizedDistributor) ∧
        listing (recordOf b) req = .error (.malformed .nexar .kind) ∧
        ∃ l, listing (recordOf c) req = .ok l ∧ l.part = some "ABC123" ∧
          l.vendorName = none ∧ l.stockNumber = some "B-2" ∧ l.isAuthorized = false ∧
          l.standing = some .broker := by
  have hdecode : decode Reply.decoder twoSellers = .ok twoSellersReply := rfl
  obtain ⟨hplaces, hrecords⟩ := listing_of_response hdecode
  have hread (f : FlatOffer) (hf : f ∈ twoSellersReply.flatten) :=
    (hrecords f hf (recordOf f) rfl rfl).2
  refine ⟨hdecode, _, _, _, rfl, hplaces, fun req => ⟨?_, ?_, ?_⟩⟩
  · obtain ⟨l, hl, hdescribes⟩ := (hread _ (.head _)).1
      ⟨some "A-1", none, none, none, []⟩ rfl req
    obtain ⟨hauthorized, hstanding⟩ := hdescribes.authorized.mp rfl
    exact ⟨l, hl, hdescribes.part, hdescribes.vendorName, hdescribes.stockNumber, hauthorized,
      hstanding⟩
  · exact (hread _ (.tail _ (.head _))).2 .kind rfl req
  · obtain ⟨l, hl, hdescribes⟩ := (hread _ (.tail _ (.tail _ (.head _)))).1
      ⟨some "B-2", none, none, none, []⟩ rfl req
    obtain ⟨hauthorized, hstanding⟩ := hdescribes.broker.mp rfl
    exact ⟨l, hl, hdescribes.part, hdescribes.vendorName, hdescribes.stockNumber, hauthorized,
      hstanding⟩

end TwoSellers

end PartSourcing.Nexar
