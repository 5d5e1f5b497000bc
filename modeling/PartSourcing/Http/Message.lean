import PartSourcing.Json.Basic
import PartSourcing.Url.Parser

/-!
# Requests, responses and the wire

A request as a source needs it, a response as it arrives, and the wire between them: a machine
that takes one request, is in a new state afterwards, and either delivers a response, refuses,
or stays silent. Everything above the wire is a function of what it delivers.
-/

namespace PartSourcing.Http

/-- What a request asks for. -/
inductive Method where
  | get
  | post
  deriving DecidableEq, Repr

/-- The name of a method. -/
def Method.name : Method → String
  | .get => "GET"
  | .post => "POST"

/-- A request before it is checked: its address as configured, what is added to the query,
headers and a JSON body. -/
structure Request where
  method : Method := .get
  address : String
  parameters : List (String × String) := []
  headers : List (String × String) := []
  body : Option Json := none

/-- A request that can be sent. -/
structure Message where
  method : Method
  url : Url
  headers : List (String × String)
  body : Option Json

/-- A response. -/
structure Response where
  status : UInt16 := 200
  headers : List (String × String) := []
  body : List UInt8 := []
  deriving DecidableEq

/-- What the wire does with a message. -/
inductive Delivery where
  | answered (response : Response)
  | refused
  | silent
  deriving DecidableEq

/-- The other side: it delivers something for each message and remembers what it has seen. -/
abbrev Wire (σ : Type) := Message → StateM σ Delivery

/-- A wire on which nobody can be reached. -/
def unreachable : Wire σ := fun _ => pure .refused

/-- Whether a text can be the value of a header: no control character but the tab. -/
def isHeaderText (s : String) : Bool :=
  s.toList.all fun c => c == '\t' || (0x20 ≤ c.toNat && c.toNat != 0x7F)

/-- The header that carries a token. -/
def bearer (token : String) : String × String := ("authorization", "Bearer " ++ token)

/-- The URL with further pairs in its query. -/
def withParameters (u : Url) (ps : List (String × String)) : Url :=
  let text := Url.Form.encodePairs (ps.map fun (k, v) => (k.toList, v.toList))
  match ps, u.query with
  | [], _ => u
  | _, some q =>
    let text := String.ofList text
    { u with query := some (if q.isEmpty then text else q ++ "&" ++ text) }
  | _, none => { u with query := some (String.ofList text) }

/-- **The message for a request**; `none` if its address is no web address or a header cannot be
sent. -/
def Request.message? (r : Request) (userAgent : String) : Option Message :=
  match Url.parse r.address with
  | .error _ => none
  | .ok u =>
    if u.isWeb && r.headers.all (isHeaderText ·.2) then
      some {
        method := r.method
        url := withParameters u r.parameters
        headers := ("user-agent", userAgent) :: r.headers
        body := r.body }
    else none

/-- The value of a header, its name being read in any case. -/
def Response.header? (r : Response) (name : String) : Option String :=
  (r.headers.find? fun (k, _) => Text.sameAsciiCase k name).map (·.2)

/-- A base address and a path with one slash between them. -/
def endpoint (base path : String) : String :=
  String.ofList ((base.toList.reverse.dropWhile (· == '/')).reverse) ++ "/" ++
    String.ofList (path.toList.dropWhile (· == '/'))

end PartSourcing.Http
