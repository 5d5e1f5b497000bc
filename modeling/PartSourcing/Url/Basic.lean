import PartSourcing.Decimal.Digits
import PartSourcing.Url.Address
import PartSourcing.Url.Form

/-!
# URLs

A URL in its parts. User name, password, path, query and fragment are kept as they are
written, escapes included; the port only if it is not the usual one of the scheme; and the path
as its segments, or as one flat text where the scheme has no hierarchy.
-/

namespace PartSourcing

/-- The host of a URL. -/
inductive Url.Host where
  | domain (name : String)
  | ipv4 (address : UInt32)
  | ipv6 (groups : List Nat)
  deriving DecidableEq

/-- The path of a URL. -/
inductive Url.Path where
  | flat (text : String)
  | segments (names : List String)
  deriving DecidableEq

/-- A URL. -/
structure Url where
  scheme : String
  username : String := ""
  password : Option String := none
  host : Option Url.Host := none
  port : Option UInt16 := none
  path : Url.Path := .segments []
  query : Option String := none
  fragment : Option String := none
  deriving DecidableEq

namespace Url

open PartSourcing.Decimal

/-- Why a text is no URL. -/
inductive Error where
  | relativeWithoutBase
  | emptyHost
  | badPort
  | badIpv4
  | badIpv6
  | badDomain
  | badHostCharacter
  deriving DecidableEq, Repr

/-- The reason in words. -/
def Error.message : Error → String
  | .relativeWithoutBase => "relative URL without a base"
  | .emptyHost => "empty host"
  | .badPort => "invalid port number"
  | .badIpv4 => "invalid IPv4 address"
  | .badIpv6 => "invalid IPv6 address"
  | .badDomain => "invalid international domain name"
  | .badHostCharacter => "invalid domain character"

/-- The schemes whose URLs always have a host, with their usual ports. -/
def usualPorts : List (String × UInt16) :=
  [("http", 80), ("https", 443), ("ws", 80), ("wss", 443), ("ftp", 21)]

/-- The usual port of a scheme. -/
def usualPort? (scheme : String) : Option UInt16 := usualPorts.lookup scheme

/-- Whether URLs of a scheme are hierarchical with either kind of slash. -/
def isSpecial (scheme : String) : Bool := scheme == "file" || (usualPort? scheme).isSome

/-- The port that a URL leads to: its own, or else the usual one of its scheme. -/
def portUsed? (u : Url) : Option UInt16 := u.port.or (usualPort? u.scheme)

/-- Whether a URL is an address on the web. -/
def isWeb (u : Url) : Bool := u.scheme == "http" || u.scheme == "https"

/-- The text of a host. -/
def Host.write : Host → String
  | .domain s => s
  | .ipv4 a => ipv4Text a
  | .ipv6 gs => "[" ++ ipv6Text gs ++ "]"

/-- The text of a path. -/
def Path.write : Path → String
  | .flat s => s
  | .segments names => String.join (names.map ("/" ++ ·))

/-- The text of user name and password, with the sign that ends them. -/
def userInfo (u : Url) : String :=
  match u.password with
  | some p => u.username ++ ":" ++ p ++ "@"
  | none => if u.username.isEmpty then "" else u.username ++ "@"

/-- The text of the port, with the sign that starts it. -/
def portText (u : Url) : String :=
  match u.port with
  | some p => ":" ++ natText p.toNat
  | none => ""

/-- The text of everything between scheme and path. -/
def authority (u : Url) : String :=
  match u.host with
  | some h => "//" ++ u.userInfo ++ h.write ++ u.portText
  | none => if u.scheme == "file" then "//" else ""

/-- The path and the query, which is what is asked of the host. -/
def target (u : Url) : String :=
  u.path.write ++ (u.query.elim "" ("?" ++ ·))

/-- **The text of a URL.** -/
def write (u : Url) : String :=
  u.scheme ++ ":" ++ u.authority ++ u.target ++ (u.fragment.elim "" ("#" ++ ·))

end Url

end PartSourcing
