import PartSourcing.Config.Section
import PartSourcing.Http.Exchange
import PartSourcing.Listing.Basic
import PartSourcing.Text.Containment

/-!
# Providers

A provider is how one source is asked and understood: what must be configured, the request for
a search term, the records in the text of a response, and the listing that a record describes.
A query asks for one term after the other and ends with the first failure, whatever has been
received before it.
-/

namespace PartSourcing

open PartSourcing.Calendar PartSourcing.Text

/-- How one source is asked and understood. -/
structure Provider where
  source : Source
  /-- The currency of records that name none. -/
  currency : String
  /-- What is missing before anything can be asked, if anything is. -/
  ready : Except QueryError Unit
  /-- The request for a search term. -/
  request : (term : String) → Except QueryError Http.Request
  /-- The records in the text of a response to the request for a term. -/
  payloads : (term : String) → (body : String) → Except QueryError (List Json)
  /-- The listing that a record describes. -/
  listing : RawRecord → Requirement → Except RawRecord.Fault Listing

namespace Provider

/-- Asks for one term. -/
def askTerm (p : Provider) (client : Http.Client) (wire : Http.Wire σ) (now : Instant)
    (term : String) : ExceptT QueryError (StateM σ) (List RawRecord) := do
  let request ← ExceptT.mk (pure (p.request term))
  let body ← client.sendText wire request
  let payloads ← ExceptT.mk (pure (p.payloads term body))
  return payloads.map fun payload =>
    { source := p.source, payload, term := some term, fetchedAt := now }

/-- Asks for one term after the other. -/
def askTerms (p : Provider) (client : Http.Client) (wire : Http.Wire σ) (now : Instant) :
    List String → ExceptT QueryError (StateM σ) (List RawRecord)
  | [] => return []
  | t :: ts => do
    let first ← p.askTerm client wire now t
    let rest ← p.askTerms client wire now ts
    return first ++ rest

/-- **One query** for everything a requirement asks for. -/
def query (p : Provider) (client : Http.Client) (wire : Http.Wire σ) (now : Instant)
    (r : Requirement) : ExceptT QueryError (StateM σ) (List RawRecord) := do
  ExceptT.mk (pure p.ready)
  p.askTerms client wire now r.searchTerms

/-- A credential that must be configured under the given name. -/
def credential (s : Option Secret) (name : String) : Except QueryError String :=
  match s with
  | some secret =>
    if isAllBlank secret.text then .error (.config (name ++ " is not configured"))
    else .ok secret.text
  | none => .error (.config (name ++ " is not configured"))

/-- Wordings that tell of a refused credential. -/
def refusals : List String := ["unauthorized", "unauthorised", "not authorized", "forbidden",
  "invalid unique identifier", "api key", "apikey", "access token"]

/-- **Whether a message tells of a refused credential.** -/
def mentionsRefusal (message : String) : Bool :=
  let m := lower message
  refusals.any (contains m)

/-- An optional text that is not blank, trimmed. -/
def given? (s : Option String) : Option String := s.bind nonBlank?

/-- A price from a minimum quantity on. -/
structure PriceBreak where
  quantity : UInt64
  price : Loose
  currency : Option String

/-- Of two price breaks the one with the greater quantity, or the second if they are equal. -/
def greaterBreak (a b : PriceBreak) : PriceBreak := if b.quantity < a.quantity then a else b

/-- Of two price breaks the one with the lesser quantity, or the first if they are equal. -/
def lesserBreak (a b : PriceBreak) : PriceBreak := if b.quantity < a.quantity then b else a

/-- **The price break that applies** to a target quantity: the one with the greatest quantity up
to the target, or else the one with the least quantity. -/
def applicable? (breaks : List PriceBreak) (target : UInt32) : Option PriceBreak :=
  match breaks.filter fun b => b.quantity ≤ target.toUInt64 with
  | b :: bs => some (bs.foldl greaterBreak b)
  | [] =>
    match breaks with
    | b :: bs => some (bs.foldl lesserBreak b)
    | [] => none

open Json in
/-- Decodes a price break whose fields have the given names. -/
def PriceBreak.decoder (quantity price currency : String) : Json.Decoder PriceBreak := record do
  return {
    quantity := ← Fields.required quantity Decoder.uint64
    price := ← Fields.required price Loose.decoder
    currency := ← Fields.optional currency Decoder.string }

end Provider

end PartSourcing
