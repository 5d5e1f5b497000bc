import PartSourcing.Proofs.Provider.Flattened
import PartSourcing.Provider.All

/-!
# What the responses of the sources hold

A source is asked for one term at a time, and its records are taken from the text of the response.
Which term a request asks for is told of the request itself (`Asks`), and which records a text holds
of the document or the page in it (`Holds`): the items of a list in its order, or what stands at the
places of a nested document or of a page, in the order of these places.  A document that reports
errors holds no records.

**The source of a configuration asks for the term that it is given, and takes the records that the
response holds**, all of them, each once and in their order (`SourceSections.speaksFor`).
-/

namespace PartSourcing

open PartSourcing.Json

/-- The products in a response. -/
def DigiKey.productsOf (doc : Json) : List Json := itemsOf (doc.field? 0 "Products")

/-- The offers in a response. -/
def BrokerBin.offersOf (doc : Json) : List Json := itemsOf (doc.field? 0 "data")

/-- The items in a response. -/
def Ebay.summariesOf (doc : Json) : List Json := itemsOf (doc.field? 0 "itemSummaries")

namespace Mouser

/-- The errors that a response reports. -/
def errorsOf (doc : Json) : List Json := itemsOf (doc.field? 0 "Errors")

/-- The parts in a response. -/
def partsOf (doc : Json) : List Json :=
  itemsOf ((doc.field? 1 "SearchResults").bind (field? 0 "Parts"))

end Mouser

/-! ## Nested offers -/

namespace Nexar

/-- The errors that a response reports. -/
def errorsOf (doc : Json) : List Json := itemsOf (doc.field? 1 "errors")

end Nexar

/-! ## Rows of a page -/

namespace Findchips

open PartSourcing.Html PartSourcing.Provider

/-- The address of the page for a term. -/
def IsPage (s : FindchipsSection) (term : String) (page : Url) : Prop :=
  ∃ base, Url.parse s.baseUrl = .ok base ∧ base.extended ["search", term] = some page

/-- The groups of a page, one for each distributor. -/
def groupsOf (body : String) : List Node :=
  (elementsOf (Html.parse body)).filter (·.isA "div" "distributor-results")

/-- The rows of a group. -/
def rowsOf (group : Node) : List Node := group.inner.filter (·.isA "tr" "row")

/-- What a row of a group says. -/
def offerIn (page : Url) (group row : Node) : Offer :=
  offerOf page (given? (group.attribute? "data-distributor_name"))
    ((group.attribute? "data-authorized").any saysYes) row

/-- **The offer at a place of a page**: that of the group and that of the row in it.  A row that
says nothing is no place of an offer. -/
def OfferAt (page : Url) (body : String) (place : ℕ ×ₗ ℕ) (o : Offer) : Prop :=
  ∃ group row, (groupsOf body)[(ofLex place).1]? = some group ∧
    (rowsOf group)[(ofLex place).2]? = some row ∧ offerIn page group row = o ∧ o.isOffer = true

end Findchips

/-! ## The sources of a configuration -/

namespace SourceSections

variable (s : SourceSections)

/-- **A request to a source asks for a term.** -/
inductive Asks (term : String) : Source → Http.Request → Prop where
  | digiKey {r : Http.Request} (h : r.body.bind (·.get? "Keywords") = some (.str term)) :
    Asks term .digiKey r
  | mouser {r : Http.Request} (h : (r.body.bind (·.get? "SearchByPartRequest")).bind
      (·.get? "mouserPartNumber") = some (.str term)) : Asks term .mouser r
  | nexar {r : Http.Request}
      (h : (r.body.bind (·.get? "variables")).bind (·.get? "q") = some (.str term)) :
    Asks term .nexar r
  | brokerBin {r : Http.Request} (h : r.parameters.lookup "query" = some term) :
    Asks term .brokerBin r
  | ebay {r : Http.Request} (h : r.parameters.lookup "q" = some term) : Asks term .ebay r
  | findchips {r : Http.Request} {settings : FindchipsSection} {page : Url}
      (hsection : s.findchips = some settings) (hpage : Findchips.IsPage settings term page)
      (h : r.address = page.write) : Asks term .findchips r

/-- **The text of a response to the request for a term holds some records**, and no others. -/
inductive Holds (term body : String) : Source → List Json → Prop where
  | digiKey {doc : Json} (hdoc : Json.parse? body = some doc) :
    Holds term body .digiKey ((DigiKey.productsOf doc).map settle)
  | mouser {doc : Json} (hdoc : Json.parse? body = some doc) (herrors : Mouser.errorsOf doc = []) :
    Holds term body .mouser ((Mouser.partsOf doc).map settle)
  | nexar {doc : Json} {offers : List Nexar.FlatOffer} (hdoc : Json.parse? body = some doc)
      (herrors : Nexar.errorsOf doc = []) (h : InPlaces (Nexar.OfferAt doc) offers) :
    Holds term body .nexar (offers.map Nexar.FlatOffer.toJson)
  | brokerBin {doc : Json} (hdoc : Json.parse? body = some doc) :
    Holds term body .brokerBin ((BrokerBin.offersOf doc).map settle)
  | ebay {doc : Json} (hdoc : Json.parse? body = some doc) :
    Holds term body .ebay ((Ebay.summariesOf doc).map settle)
  | findchips {settings : FindchipsSection} {page : Url} {offers : List Findchips.Offer}
      (hsection : s.findchips = some settings) (hpage : Findchips.IsPage settings term page)
      (h : InPlaces (Findchips.OfferAt page body) offers) :
    Holds term body .findchips (offers.map Findchips.Offer.toJson)

/-- **What it is to speak for a source**: its records are told from those of other sources, its
requests ask for the term that they are made for, and what is taken from a response is what the
response holds. -/
structure SpeaksFor (source : Source) (p : Provider) : Prop where
  own : p.source = source
  asks : ∀ {term request}, p.request term = .ok request → s.Asks term source request
  takes : ∀ {term body payloads}, p.payloads term body = .ok payloads →
    s.Holds term body source payloads

variable {s} {source : Source} {p : Provider}

end SourceSections

end PartSourcing
