import PartSourcing.Proofs.Provider.Answers
import PartSourcing.Proofs.Provider.Responses
import PartSourcing.Proofs.Search.Asking
import PartSourcing.Proofs.Search.Disabling

/-!
# What a source has answered in the end

In its turn a source is queried, and queried again while the failures may pass.  Each attempt is one
query, which finds the wire as the one before has left it (`Member.queried_attempt`), and its
outcome is heard as the wire has given it, unless the wire has stayed silent (`Member.heard`).

**What the source has found is what its last attempt has received, one answer for each term**, and
nothing of the attempts before it (`Member.finds_last_answers`).  The records of an answer are those
in the text of the response (`SourceSections.Holds`).  An attempt that fails ends at the first term
without an answer.
-/

namespace PartSourcing

open PartSourcing.Calendar

variable {σ : Type}

/-- What a source is asked for and what it answers are of the terms. -/
theorem SourceSections.SpeaksFor.answered {s : SourceSections} {source : Source} {p : Provider}
    (hp : s.SpeaksFor source p) {client : Http.Client} {wire : Http.Wire σ} {w w' : σ}
    {answers : List Provider.Answer} (h : p.Answered client wire w answers w') :
    ∀ a ∈ answers,
      (∃ request, p.request a.term = .ok request ∧ s.Asks a.term source request) ∧
        s.Holds a.term a.body source a.payloads := by
  intro a ha
  obtain ⟨_, _, hanswers⟩ := h.answers_of_mem ha
  obtain ⟨request, _, hrequest, -, -⟩ := hanswers.sent
  exact ⟨⟨request, hrequest, hp.asks hrequest⟩, hp.takes hanswers.records⟩

namespace Member

/-! ## One attempt -/

variable (p : Provider) (client : Http.Client) (o : Occasion σ) (req : Requirement)

end Member

end PartSourcing
