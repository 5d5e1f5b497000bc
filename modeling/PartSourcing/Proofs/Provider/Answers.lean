import PartSourcing.Provider.Basic

/-!
# What a query receives

A message ends on the response that stands once its redirections have been followed
(`Http.EndsOn`), and an answer to a term is what that response says, with all that has led to it
(`Provider.Answer`, `Provider.Answers`).  Answers come one after the other, each leaving the wire
for the next (`Provider.Answered`).

**A query is complete, one answer for each term in order, or it stops at the first term that gives
none** (`Provider.Received`).  What has been received before that term is in no outcome, but the
wire has seen it: the next query finds it as this one has left it.
-/

namespace PartSourcing

open PartSourcing.Calendar

variable {σ : Type}

/-! ## Steps that may fail -/

section Steps

variable {ε β γ : Type} {x : ExceptT ε (StateM σ) β} {next : β → ExceptT ε (StateM σ) γ}
  {w w' : σ}

end Steps

/-! ## Exchanges -/

namespace Http

/-- **The response that a message ends on**, so many redirections being allowed, with the wire
before and after. -/
inductive EndsOn (wire : Wire σ) : (left : Nat) → Message → σ → Response → σ → Prop where
  | stands {left : Nat} {m : Message} {w w' : σ} {r : Response}
      (h : (wire m).run w = (.answered r, w')) (hr : redirected? m r = none) :
      EndsOn wire left m w r w'
  | redirects {left : Nat} {m m' : Message} {w w' w'' : σ} {r r' : Response}
      (h : (wire m).run w = (.answered r, w')) (hr : redirected? m r = some m')
      (hweb : m'.url.isWeb = true) (hnext : EndsOn wire left m' w' r' w'') :
      EndsOn wire (left + 1) m w r' w''

end Http

/-! ## Answers -/

namespace Provider

/-- What a source has said to one term: the response, its text, and the records in it. -/
structure Answer where
  term : String
  response : Http.Response
  body : String
  payloads : List Json

/-- **The records of an answer**, in their order, with the term that they were asked for. -/
def Answer.records (p : Provider) (now : Instant) (a : Answer) : List RawRecord :=
  a.payloads.map fun payload =>
    { source := p.source, payload, term := some a.term, fetchedAt := now }

variable (p : Provider) (client : Http.Client) (wire : Http.Wire σ)

/-- **A source answers to a term**, with the wire before and after: the request for the term can be
sent, the response that it ends on has a text, and the records can be read in it. -/
structure Answers (w : σ) (a : Answer) (w' : σ) : Prop where
  sent : ∃ request message, p.request a.term = .ok request ∧
    request.message? client.userAgent = some message ∧
    Http.EndsOn wire Http.maxRedirects message w a.response w'
  text : a.response.text = .ok a.body
  records : p.payloads a.term a.body = .ok a.payloads

/-- Answers one after the other. -/
inductive Answered : σ → List Answer → σ → Prop where
  | nil (w : σ) : Answered w [] w
  | cons {w w' w'' : σ} {a : Answer} {as : List Answer} (h : p.Answers client wire w a w')
      (hrest : Answered w' as w'') : Answered w (a :: as) w''

/-- **What asking for some terms comes to**, with the wire before and after. -/
inductive Received (now : Instant) (terms : List String) (w : σ) :
    Except QueryError (List RawRecord) → σ → Prop where
  | all {as : List Answer} {w' : σ} (h : p.Answered client wire w as w')
      (hterms : as.map (·.term) = terms) :
      Received now terms w (.ok (as.flatMap (·.records p now))) w'
  | stopped {as : List Answer} {t : String} {later : List String} {w' w'' : σ} {e : QueryError}
      (h : p.Answered client wire w as w') (hterms : as.map (·.term) ++ t :: later = terms)
      (hfails : (p.askTerm client wire now t).run.run w' = (.error e, w'')) :
      Received now terms w (.error e) w''

variable {p client wire} {now : Instant} {t : String} {ts : List String} {w w' w'' : σ}

theorem Answered.answers_of_mem {as : List Answer} (h : p.Answered client wire w as w')
    {a : Answer} (ha : a ∈ as) : ∃ w₁ w₂, p.Answers client wire w₁ a w₂ := by
  induction h with
  | nil => exact absurd ha List.not_mem_nil
  | cons hfirst _ ih =>
    rcases List.mem_cons.mp ha with rfl | ha
    · exact ⟨_, _, hfirst⟩
    · exact ih ha

/-- One more answer in front. -/
theorem Received.cons {a : Answer} {o : Except QueryError (List RawRecord)}
    (h : p.Answers client wire w a w') (hrest : p.Received client wire now ts w' o w'') :
    p.Received client wire now (a.term :: ts) w (o.map (a.records p now ++ ·)) w'' := by
  cases hrest with
  | all hall hterms => exact .all (.cons h hall) (congrArg (a.term :: ·) hterms)
  | stopped hbefore hterms hfails =>
    exact .stopped (.cons h hbefore) (congrArg (a.term :: ·) hterms) hfails

/-- **What a query comes to**, with the wire before and after: nothing is asked if something is
missing. -/
inductive Queried (p : Provider) (client : Http.Client) (wire : Http.Wire σ) (now : Instant)
    (r : Requirement) (w : σ) : Except QueryError (List RawRecord) → σ → Prop where
  | unready {e : QueryError} (h : p.ready = .error e) : Queried p client wire now r w (.error e) w
  | asked {o : Except QueryError (List RawRecord)} {w' : σ} (hready : p.ready = .ok ())
      (h : p.Received client wire now r.searchTerms w o w') : Queried p client wire now r w o w'

/-- **A query that succeeds is complete.** -/
theorem Queried.answered {r : Requirement} {rs : List RawRecord}
    (h : p.Queried client wire now r w (.ok rs) w') :
    ∃ answers, p.Answered client wire w answers w' ∧ answers.map (·.term) = r.searchTerms ∧
      rs = answers.flatMap (·.records p now) := by
  cases h with
  | asked _ h =>
    cases h with
    | all hall hterms => exact ⟨_, hall, hterms, rfl⟩

end Provider

end PartSourcing
