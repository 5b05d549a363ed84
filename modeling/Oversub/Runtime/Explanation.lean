import Oversub.Engine.Flat
import Oversub.Runtime.Calls

/-!
# Oversub.Runtime.Explanation

The explanation of a decision (`Governor::explain`): the one of its evaluation,
which respects the budget, and two lines about the decision, which do not
(`explain_within_iff`).
-/

namespace Oversub

open Pages

/-- A value that names no outcome reads as unknown. -/
def Code.outcomeText (c : Code Outcome) : String := (c.outcome.map Outcome.toString).getD "UNKNOWN"

def decisionLines (d : Decision) : List String := [
  "decision: id=" ++ d.id.toString ++ " raw=" ++ d.rawOutcome.toString ++
    " effective=" ++ d.effectiveOutcome.outcomeText ++
    " authorized=" ++ boolText d.newOversubscriptionAuthorized ++
    " increment=" ++ toString d.authorizedIncrementUnits ++ " fenced=" ++ boolText d.fenced ++
    " confirmations=" ++ toString d.confirmations.toNat,
  "decision_digest: " ++ d.decisionDigest.toHex]

/-- `Governor::explain`. -/
def Governor.explain (g : Governor) (d : Decision) (o : ExplainOptions) : List UInt8 :=
  explainEvaluation g.state.policy d.evaluation o ++ render newline ((decisionLines d).map textBytes)

/-- A decision that some governor has issued. -/
def Issued (d : Decision) : Prop :=
  ∃ (order : MapOrder) (g : Governor) (domain : OversubscriptionDomainId) (tick wall : UInt64),
    d = (g.rule order domain tick wall).decision

/-- The budget that the options stand for. -/
def ExplainOptions.limit (o : ExplainOptions) : Budget where
  symbols := max 1 (min o.maxBytes.toNat kHardMaxExplanationBytes)
  lines := max 1 (min o.maxLines.toNat kHardMaxExplanationLines)

/-- All lines of the explanation of a decision. -/
def Governor.explanation (g : Governor) (d : Decision) (o : ExplainOptions) : List String :=
  explanationLines g.state.policy d.evaluation o ++ decisionLines d

section

variable {d : Decision} {g : Governor} {o : ExplainOptions} {policy : OversubscriptionPolicy}

/-- Decisions that are answered are issued. -/
theorem issued_of_reply {s : System} {c : System.Call} {order : MapOrder} {wall : UInt64}
    {request : EvaluationRequest} (hc : c.command = .evaluate order wall request)
    (hreply : (s.perform c).1 = some (.decided (.ok d))) : Issued d := by
  have heffect := System.effect_of_reply hreply
  rw [hc] at heffect
  cases heffect.evaluates with
  | recorded _ _ _ hruling _ => exact ⟨_, _, _, _, _, hruling d rfl⟩

theorem evaluationAt_flat {order : MapOrder} {domain : OversubscriptionDomainId} {tick : UInt64} :
    (g.evaluationAt order domain tick).Flat := by
  unfold Governor.evaluationAt
  split
  · have hdetail : OneLine "the policy does not cover this domain" := by decide
    have hrationale : OneLine "the domain is not covered by policy; no authority exists" := by decide
    exact ⟨hdetail, List.forall_mem_singleton.mpr hrationale, List.forall_mem_nil _⟩
  · exact evaluate_flat

theorem Issued.flat (h : Issued d) : d.evaluation.Flat := by
  obtain ⟨order, g, domain, tick, wall, rfl⟩ := h
  exact evaluationAt_flat

theorem decisionLines_oneLine : ∀ l ∈ decisionLines d, OneLine l := by
  have heffective : OneLine d.effectiveOutcome.outcomeText := by
    unfold Code.outcomeText
    cases d.effectiveOutcome.outcome with
    | none =>
        have hunknown : OneLine "UNKNOWN" := by decide
        exact hunknown
    | some o => exact oneLine_outcome o
  unfold decisionLines
  simp only [List.forall_mem_cons, oneLine_append, oneLine_nat, oneLine_id, oneLine_outcome, oneLine_bool,
    oneLine_hex, heffective, and_true]
  decide

theorem budget_eq_limit : o.budget = o.limit := o.budget_eq

/-- **Explanations** are within their budget exactly where all lines of the
decision's explanation fit; that of the evaluation is always. -/
theorem explain_within_iff (h : Issued d) :
    ((∀ policy, TextWithin o.limit (explainEvaluation policy d.evaluation o)) ∧
        TextWithin o.limit (g.explain d o)) ↔
      Fits o.limit {} ((g.explanation d o).map textBytes) := by
  have hflat := h.flat
  have hfirst (policy : OversubscriptionPolicy) :
      TextWithin o.limit (explainEvaluation policy d.evaluation o) := by
    rw [← budget_eq_limit]
    exact explainEvaluation_within hflat
  have hmore : (decisionLines d).map textBytes ≠ [] := List.cons_ne_nil _ _
  have hlines : ∀ line ∈ (explanationLines g.state.policy d.evaluation o).map textBytes, newline ∉ line :=
    pushed_oneLine (explanationLines_oneLine hflat)
  have hboth := @within_append_iff _ o.budget newline _ _ _ hmore hlines (pushed_oneLine decisionLines_oneLine)
  rw [← List.map_append, budget_eq_limit] at hboth
  unfold Governor.explanation
  rw [← hboth]
  constructor
  · rintro ⟨-, hbytes, hcount⟩
    rw [← budget_eq_limit] at *
    exact ⟨hbytes, hcount⟩
  · rintro ⟨hbytes, hcount⟩
    refine ⟨hfirst, ?_⟩
    rw [← budget_eq_limit] at *
    exact ⟨hbytes, hcount⟩

end

/-- The decision about a domain that no policy covers. -/
def strangerDecision : Decision := (Governor.rule .listed {} ⟨1⟩ 0 0).decision

theorem strangerDecision_issued : Issued strangerDecision := ⟨_, _, _, _, _, rfl⟩

/-- The default budget holds its explanation. -/
theorem explain_within_sample :
    (∀ policy, TextWithin (ExplainOptions.limit {}) (explainEvaluation policy strangerDecision.evaluation {})) ∧
      TextWithin (ExplainOptions.limit {}) (Governor.explain {} strangerDecision {}) := by
  refine (explain_within_iff strangerDecision_issued).mpr (fits_start.mpr ⟨?_, ?_⟩)
  · decide +kernel
  · decide +kernel

/-- One line is not enough for the two about the decision. -/
theorem explain_not_within :
    ¬ ∀ (g : Governor) (d : Decision) (o : ExplainOptions), Issued d →
      (∀ policy, TextWithin o.limit (explainEvaluation policy d.evaluation o)) ∧
        TextWithin o.limit (g.explain d o) := by
  intro h
  have hlines := (h {} strangerDecision { maxLines := 1 } strangerDecision_issued).2.lines
  have hcount : (render newline ((decisionLines strangerDecision).map textBytes)).count newline = 2 :=
    count_render (pushed_oneLine decisionLines_oneLine)
  have hlimit : (ExplainOptions.limit { maxLines := 1 }).lines = 1 := by decide
  rw [Governor.explain, List.count_append, hcount, hlimit] at hlines
  omega

end Oversub
