import PartSourcing.Decimal.Digits

/-!
# Failed queries

Why a source could not be queried. Two questions are asked of a failure: may it pass, so that
trying again makes sense, and does it show that the source is set up wrongly, so that it is not
asked again at all?
-/

namespace PartSourcing

/-- A failed query, with its circumstances in words. -/
inductive QueryError where
  | timeout (detail : String)
  | connection (detail : String)
  | http (status : UInt16) (detail : String)
  | auth (detail : String)
  | config (detail : String)
  | parse (detail : String)
  | internal (detail : String)
  deriving DecidableEq, Repr

namespace QueryError

open PartSourcing.Decimal

/-- The failure in words. -/
def message : QueryError → String
  | .timeout d => "timeout: " ++ d
  | .connection d => "connection error: " ++ d
  | .http s d => "HTTP " ++ natText s.toNat ++ ": " ++ d
  | .auth d => "auth rejected: " ++ d
  | .config d => "adapter misconfigured: " ++ d
  | .parse d => "malformed response: " ++ d
  | .internal d => "internal adapter failure: " ++ d

/-- **Whether the failure may pass.** Of the statuses those of a server in trouble, of a slow
request and of too many requests. -/
def isTransient : QueryError → Bool
  | .timeout _ | .connection _ => true
  | .http s _ => 500 ≤ s || s == 408 || s == 429
  | .auth _ | .config _ | .parse _ | .internal _ => false

/-- **Whether the source is set up wrongly.** -/
def disables : QueryError → Bool
  | .auth _ | .config _ => true
  | _ => false

/-- The failure that a status other than success stands for. -/
def ofStatus (status : UInt16) (detail : String) : QueryError :=
  if status = 401 ∨ status = 403 then
    .auth ("HTTP " ++ natText status.toNat ++ ": " ++ detail)
  else .http status detail

end QueryError

end PartSourcing
