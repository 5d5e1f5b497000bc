import PartSourcing.Html.Tree
import PartSourcing.Provider.Basic

/-!
# Findchips

A public page that lists offers by distributor. Each group names its distributor and tells
whether it is an authorized one; each row of a group is an offer. A page with no such groups
has no offers, which is no failure.
-/

namespace PartSourcing.Findchips

open PartSourcing.Json PartSourcing.Provider PartSourcing.Text PartSourcing.Html

/-- An offer as it stands on the page. -/
structure Offer where
  distributor : Option String
  isAuthorized : Bool
  part : Option String
  manufacturer : Option String
  stock : Option String
  price : Option String
  url : Option String

namespace Offer

/-- Decodes an offer. -/
def decoder : Json.Decoder Offer := record do
  return {
    distributor := ← Fields.optional "distributor" Decoder.string
    isAuthorized := ← Fields.required "authorized" Decoder.bool
    part := ← Fields.optional "mpn" Decoder.string
    manufacturer := ← Fields.optional "manufacturer" Decoder.string
    stock := ← Fields.optional "stock" Decoder.string
    price := ← Fields.optional "price" Decoder.string
    url := ← Fields.optional "url" Decoder.string }

/-- The record of an offer. -/
def toJson (o : Offer) : Json := .obj [
  ("distributor", Json.ofOption .str o.distributor),
  ("authorized", .bool o.isAuthorized),
  ("mpn", Json.ofOption .str o.part),
  ("manufacturer", Json.ofOption .str o.manufacturer),
  ("stock", Json.ofOption .str o.stock),
  ("price", Json.ofOption .str o.price),
  ("url", Json.ofOption .str o.url)]

/-- The listing of an offer. -/
def listing (o : Offer) : Listing where
  vendorName := given? o.distributor
  part := given? o.part
  manufacturer := given? o.manufacturer
  quantity := o.stock.map .text
  price := o.price.map .text
  url := o.url
  isAuthorized := o.isAuthorized

/-- Whether a row says anything about an offer. -/
def isOffer (o : Offer) : Bool := o.part.isSome || o.stock.isSome || o.price.isSome

end Offer

/-- The text of a node, if it is not blank. -/
def textOf? (n : Node) : Option String := nonBlank? (String.ofList n.content)

/-- The text of the first cell of a class. -/
def cellText? (row : Node) (className : String) : Option String :=
  (row.inner.find? (·.isA "td" className)).bind textOf?

/-- The link to the part in a row. -/
def partLink? (row : Node) : Option Node :=
  (row.inner.filter (·.isA "td" "td-part")).findSome? fun cell =>
    cell.inner.find? (·.hasName "a")

/-- The text of the price in a row. -/
def priceText? (row : Node) : Option String :=
  ((row.inner.filter (·.isA "td" "td-price")).findSome? fun cell =>
    cell.inner.find? (·.isA "span" "value")).bind textOf?

/-- The offer in a row of a group. Its link is read against the address of the page. -/
def offerOf (page : Url) (distributor : Option String) (isAuthorized : Bool) (row : Node) :
    Offer :=
  let link := partLink? row
  { distributor, isAuthorized
    part := link.bind textOf?
    manufacturer := cellText? row "td-mfg"
    stock := cellText? row "td-stock"
    price := priceText? row
    url := (link.bind (·.attribute? "href")).bind fun href =>
      (page.join href).toOption.map Url.write }

/-- Whether the text of an attribute says yes. -/
def saysYes (s : String) : Bool := sameAsciiCase s "true" || s == "1"

/-- The offers of a group. -/
def groupOffers (page : Url) (group : Node) : List Offer :=
  let distributor := given? (group.attribute? "data-distributor_name")
  let isAuthorized := (group.attribute? "data-authorized").any saysYes
  let rows := group.inner.filter (·.isA "tr" "row")
  (rows.map (offerOf page distributor isAuthorized)).filter Offer.isOffer

/-- **The offers on a page.** -/
def pageOffers (page : Url) (body : String) : List Offer :=
  ((elementsOf (Html.parse body)).filter (·.isA "div" "distributor-results")).flatMap
    (groupOffers page)

/-- The address of the page for a term. -/
def pageUrl (s : FindchipsSection) (term : String) : Except QueryError Url :=
  match Url.parse s.baseUrl with
  | .error e => .error (.config ("findchips.base_url: " ++ e.message))
  | .ok u =>
    match u.extended ["search", term] with
    | some page => .ok page
    | none => .error (.config "findchips.base_url cannot be a base")

/-- The request for a term. -/
def request (s : FindchipsSection) (term : String) : Except QueryError Http.Request := do
  let page ← pageUrl s term
  return {
    address := page.write
    headers := [("accept", "text/html"), ("accept-language", "en-US,en;q=0.9")] }

/-- **The provider.** -/
def provider (s : FindchipsSection) : Provider where
  source := .findchips
  currency := s.currency
  ready := .ok ()
  request := request s
  payloads := fun term body =>
    (pageUrl s term).map fun page => (pageOffers page body).map Offer.toJson
  listing := fun r _ => (r.decode .findchips Offer.decoder).map Offer.listing

end PartSourcing.Findchips
