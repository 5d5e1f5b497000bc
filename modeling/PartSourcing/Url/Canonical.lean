import PartSourcing.Text.Blank
import PartSourcing.Text.Case
import PartSourcing.Url.Parser

/-!
# Canonical links

Links to one offer differ in what tracks the click. In the canonical form the fragment and
every tracking parameter are gone and the other parameters stand in order, so that two links to
one offer have one spelling.
-/

namespace PartSourcing.Url

open PartSourcing.Text

/-- Parameters that tell about the click and not about the offer. -/
def trackingParameters : List String := [
  "utm_source", "utm_medium", "utm_campaign", "utm_term", "utm_content", "gclid", "fbclid",
  "msclkid", "mkevt", "mkcid", "mkrid", "campid", "customid", "toolid", "_trkparms", "_trksid",
  "hash", "trk", "ref", "affid"]

/-- The start that all parameters of one family of trackers share. -/
def trackingFamily : List Char := ['u', 't', 'm', '_']

/-- Whether a parameter tells about the click, in whatever case it is written. -/
def isTracking (name : List Char) : Bool :=
  let n := lowerChars name
  n.take trackingFamily.length == trackingFamily || trackingParameters.contains (String.ofList n)

/-- Whether a pair comes no later than another: by name, then by value. -/
def pairPrecedes (a b : Form.Pair) : Bool :=
  let le (s t : List Char) : Bool := !(String.ofList t < String.ofList s)
  if a.1 = b.1 then le a.2 b.2 else le a.1 b.1

/-- The pairs that remain of a query, in order. -/
def keptPairs (query : Option String) : List Form.Pair :=
  ((query.elim [] fun q => Form.decodePairs q.toList).filter fun p => !isTracking p.1).mergeSort
    pairPrecedes

/-- **The canonical form of a parsed link.** -/
def canonical (u : Url) : Url :=
  let pairs := keptPairs u.query
  { u with
    fragment := none
    query := if pairs.isEmpty then none else some (String.ofList (Form.encodePairs pairs)) }

/-- **The canonical form of a link**; `none` for a text that is no absolute link. -/
def canonical? (s : String) : Option String :=
  match parse (trim s) with
  | .ok u => if u.isWeb then some u.canonical.write else none
  | .error _ => none

end PartSourcing.Url
