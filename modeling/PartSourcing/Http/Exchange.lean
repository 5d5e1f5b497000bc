import PartSourcing.Config.Engine
import PartSourcing.Http.Message
import PartSourcing.Json.Decoder
import PartSourcing.Json.Reader
import PartSourcing.Query.Error
import PartSourcing.Text.Utf8

/-!
# Exchanges

One exchange sends a message, follows redirections, and makes of the last response either a
text or a failure. A client adds what all its requests share: how it calls itself and how long
it waits.
-/

namespace PartSourcing.Http

open PartSourcing.Text

/-- What all requests of an engine share. -/
structure Client where
  userAgent : String
  callTimeout : UInt64
  deriving DecidableEq

/-- How a client calls itself unless configured otherwise. -/
def defaultUserAgent : String := "sightline/0.1.0"

/-- The client of a configuration. Its name must be fit for a header. -/
def Client.of (c : EngineConfig) : Except QueryError Client :=
  let userAgent := c.userAgent.getD defaultUserAgent
  if isHeaderText userAgent then .ok ⟨userAgent, c.callTimeout⟩
  else .error (.config "failed to build HTTP client: unusable user agent")

/-- How many redirections are followed. -/
def maxRedirects : Nat := 5

/-- Headers that another host must not see. -/
def isPrivate (header : String) : Bool := asciiLower header == "authorization"

/-- The message that a response redirects to; `none` for a response that stands. Some statuses
turn any message into one without a body. A private header is kept only on the way to the same
host and port. -/
def redirected? (m : Message) (r : Response) : Option Message := do
  guard ([301, 302, 303, 307, 308].contains r.status)
  let location ← r.header? "location"
  let url ← (m.url.join location).toOption
  let headers :=
    if url.host = m.url.host ∧ url.portUsed? = m.url.portUsed? then m.headers
    else m.headers.filter fun h => !isPrivate h.1
  if r.status = 307 ∨ r.status = 308 then return { m with url, headers }
  else return { m with url, headers, method := .get, body := none }

/-- **The response that stands** after so many redirections at most. -/
def follow (wire : Wire σ) : (left : Nat) → Message → ExceptT QueryError (StateM σ) Response
  | left, m => do
    match ← wire m with
    | .silent => throw (.timeout "no answer")
    | .refused => throw (.connection "nobody answers")
    | .answered r =>
      match redirected? m r with
      | none => return r
      | some m' =>
        match left with
        | 0 => throw (.connection "too many redirections")
        | left + 1 =>
          if m'.url.isWeb then follow wire left m' else throw (.connection "no web address")

/-- How much of a body is kept in a failure. -/
def excerptLength : Nat := 200

/-- Whether a status is one of success. -/
def isSuccess (status : UInt16) : Bool := 200 ≤ status && status < 300

/-- The text of a response, or the failure that its status stands for. A body is UTF-8, whatever
its content type says; octets that are no part of a character are replaced. -/
def Response.text (r : Response) : Except QueryError String :=
  let body := String.ofList (decodeUtf8 r.body)
  if isSuccess r.status then .ok body
  else .error (.ofStatus r.status (String.ofList (body.toList.take excerptLength)))

/-- **Sends a request** and returns the text of the response. -/
def Client.sendText (client : Client) (wire : Wire σ) (request : Request) :
    ExceptT QueryError (StateM σ) String := do
  match request.message? client.userAgent with
  | none => throw (.connection "the request cannot be built")
  | some m =>
    let r ← follow wire maxRedirects m
    ExceptT.mk (pure r.text)

/-- Reads a text as JSON of a given shape. -/
def decodeText (f : Json.Decoder α) (text : String) : Except QueryError α :=
  match Json.parse? text with
  | none => .error (.parse "no JSON")
  | some j => (Json.decode f j).mapError fun e => .parse e.message

end PartSourcing.Http
