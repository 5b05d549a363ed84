import Oversub.Engine.Explain
import Oversub.Engine.Intents

/-!
# Oversub.Engine.Flat

The texts of a result hold no line break, wherever the evaluation ends
(`evaluate_flat`): they are literals, numbers and ids.
-/

namespace Oversub

open EarlyFold

/-- The detail of a refusal. -/
def Refusal.Flat (x : Refusal) : Prop := OneLine x.detail

section

variable {acc : DomainAccounting} {reason : ReasonCode} {text before after : String} {n : Nat}

theorem unknown_flat (h : OneLine text) : (acc.unknown reason text).Flat := h

theorem stale_flat (h : OneLine text) : (acc.stale reason text).Flat := h

theorem conflicting_flat (h : OneLine text) : (acc.conflicting reason text).Flat := h

/-- A number between two literals. -/
theorem oneLine_between (hbefore : OneLine before) (hafter : OneLine after) :
    OneLine (before ++ toString n ++ after) :=
  oneLine_append.mpr ⟨oneLine_append.mpr ⟨hbefore, oneLine_nat n⟩, hafter⟩

theorem oneLine_about {tag : IdTag} {id : StrongId tag} (hbefore : OneLine before) (hafter : OneLine after) :
    OneLine (before ++ id.toString ++ after) := oneLine_between hbefore hafter

end

/-! ## Gathering -/

section

variable {A : Arith} {order : MapOrder} {policy : OversubscriptionPolicy} {index : PolicyIndex}
  {domain : DomainConfig} {expectation : AuthorityExpectation} {evidence : DomainEvidence} {sn : Snapshots}
  {tick : UInt64} {acc : DomainAccounting} {authority : AuthorityVector} {limits : PolicyLimits}

theorem bindEvidence_flat :
    Ensures Refusal.Flat (fun _ => True) (bindEvidence policy domain expectation evidence acc) := by
  have hgeneration {snapshot authoritative : UInt64} {what : String} (hwhat : OneLine what) :
      Ensures Refusal.Flat (fun _ => True) (requireGeneration acc snapshot authoritative what) :=
    require_keeps (stale_flat (oneLine_append.mpr ⟨hwhat, by decide⟩))
  unfold bindEvidence
  split
  · exact require_bind_keeps (unknown_flat (by decide)) <| require_bind_keeps (unknown_flat (by decide)) <|
      require_bind_keeps (conflicting_flat (by decide)) <| require_bind_keeps (stale_flat (by decide)) <|
      require_bind_keeps (stale_flat (by decide)) <| require_bind_keeps (stale_flat (by decide)) <|
      require_bind_keeps (stale_flat (by decide)) <| (hgeneration (by decide)).bind fun _ _ =>
      (hgeneration (by decide)).bind fun _ _ => (hgeneration (by decide)).bind fun _ _ => trivial
  · refine unknown_flat (oneLine_append.mpr ⟨by decide, ?_⟩)
    unfold missingEvidence
    rw [oneLine_append, oneLine_append]
    exact ⟨⟨oneLine_ite (by decide) (by decide), oneLine_ite (by decide) (by decide)⟩,
      oneLine_ite (by decide) (by decide)⟩

theorem checkFreshness_flat :
    Ensures Refusal.Flat (fun _ => True) (checkFreshness policy sn tick acc) := by
  have hone {observed budget : UInt64} {what : String} (hwhat : OneLine what) :
      Ensures Refusal.Flat (fun _ => True) (requireFresh acc tick observed budget what) := by
    refine require_bind_keeps (conflicting_flat (oneLine_append.mpr ⟨hwhat, by decide⟩)) ?_
    refine require_keeps (stale_flat ?_)
    simp only [oneLine_append, oneLine_nat, hwhat, true_and, and_true]
    decide
  exact (hone (by decide)).bind fun _ _ => (hone (by decide)).bind fun _ _ => hone (by decide)

theorem checkBounds_flat : Ensures Refusal.Flat (fun _ => True) (checkBounds limits sn acc) :=
  require_bind_keeps (conflicting_flat (by decide)) <| require_bind_keeps (conflicting_flat (by decide)) <|
    require_keeps (conflicting_flat (by decide))

theorem memberStep_flat {s : MemberState} {m : ResourceId} :
    Ensures Refusal.Flat (fun _ => True) (memberStep A domain sn.cap s m) := by
  refine orRefuse_bind_keeps (unknown_flat (oneLine_append.mpr ⟨by decide, oneLine_id m⟩)) fun rc =>
    require_bind_keeps (conflicting_flat (oneLine_about (by decide) (by decide))) <|
    require_bind_keeps (unknown_flat (oneLine_about (by decide) (by decide))) ?_
  cases rc.health with
  | degraded => exact orRefuse_bind_keeps (unknown_flat (by decide)) fun _ => trivial
  | _ => trivial

theorem gatherMembers_flat : Ensures Refusal.Flat (fun _ => True) (gatherMembers A domain sn.cap acc) :=
  require_bind_keeps (conflicting_flat (by decide)) <| foldlM_ensures (fun _ _ _ => memberStep_flat) _ trivial

theorem guaranteeStep_flat {s : GuaranteeState} {g : Guarantee} :
    Ensures Refusal.Flat (fun _ => True) (guaranteeStep A index domain s g) := by
  refine require_bind_keeps (conflicting_flat (oneLine_append.mpr ⟨by decide, oneLine_id _⟩)) ?_
  dsimp only
  split
  · trivial
  · exact require_bind_keeps (conflicting_flat (oneLine_about (by decide) (by decide))) <|
      require_bind_keeps (conflicting_flat (oneLine_about (by decide) (by decide))) <|
      require_bind_keeps (conflicting_flat (oneLine_about (by decide) (by decide))) <|
      orRefuse_bind_keeps (unknown_flat (by decide)) fun _ => orRefuse_bind_keeps (unknown_flat (by decide))
      fun _ => trivial

theorem guaranteedDemand_flat {s : DemandState} {r : DemandRecord} :
    Ensures Refusal.Flat (fun _ => True) (guaranteedDemand A s r) :=
  orRefuse_bind_keeps (unknown_flat (by decide)) fun _ => orRefuse_bind_keeps (unknown_flat (by decide))
    fun _ => trivial

theorem contingentDemand_flat {cls : ServiceClassRef} {ra : ResourceAccum} {s : DemandState}
    {r : DemandRecord} : Ensures Refusal.Flat (fun _ => True) (contingentDemand A cls ra s r) := by
  unfold contingentDemand
  dsimp only
  split
  · trivial
  refine orRefuse_bind_keeps (unknown_flat (by decide)) fun _ =>
    orRefuse_bind_keeps (unknown_flat (by decide)) fun _ =>
    orRefuse_bind_keeps (unknown_flat (by decide)) fun _ =>
    orRefuse_bind_keeps (unknown_flat (by decide)) fun _ => ?_
  split
  · exact orRefuse_bind_keeps (unknown_flat (by decide)) fun _ => orRefuse_bind_keeps (unknown_flat (by decide))
      fun _ => trivial
  · exact orRefuse_bind_keeps (unknown_flat (by decide)) fun _ => trivial

theorem demandStep_flat {s : DemandState} {r : DemandRecord} :
    Ensures Refusal.Flat (fun _ => True) (demandStep A index domain s r) := by
  refine require_bind_keeps (conflicting_flat (oneLine_append.mpr ⟨by decide, oneLine_id _⟩)) ?_
  dsimp only
  split
  · trivial
  refine require_bind_keeps (conflicting_flat (oneLine_about (by decide) (by decide))) <|
    orRefuse_bind_keeps (conflicting_flat (oneLine_about (by decide) (by decide))) fun cls => ?_
  split
  · exact guaranteedDemand_flat
  · exact contingentDemand_flat
  · exact contingentDemand_flat
  · exact conflicting_flat (oneLine_about (by decide) (by decide))
  · trivial

theorem gatherEvidence_flat {members : MemberState} :
    Ensures Refusal.Flat (fun _ => True) (gatherEvidence A order policy index domain sn authority members) := by
  have hguarantees : Ensures Refusal.Flat (fun _ => True) (gatherGuarantees A index domain sn.res members) :=
    foldlM_ensures (fun _ _ _ => guaranteeStep_flat) _ trivial
  have htotal (s : GuaranteeState) : Ensures Refusal.Flat (fun _ => True) (guaranteesTotal A s) :=
    foldlM_ensures (fun _ _ _ => orRefuse_keeps (unknown_flat (by decide))) _ trivial
  have hdemand (acc : DomainAccounting) (resources : List ResourceAccum) :
      Ensures Refusal.Flat (fun _ => True) (gatherDemand A index domain sn.adm acc resources) :=
    foldlM_ensures (fun _ _ _ => demandStep_flat) _ trivial
  have htotals (acc : DomainAccounting) (resources : List ResourceAccum) :
      Ensures Refusal.Flat (fun _ => True) (gatherTotals A policy.limits acc resources) :=
    require_bind_keeps (conflicting_flat (by decide)) trivial
  exact hguarantees.bind fun s _ => (htotal s).bind fun _ _ => (hdemand _ _).bind fun _ _ =>
    (htotals _ _).bind fun _ _ => trivial

/-- The reasons that intents give are single lines. -/
theorem oneLine_rationale {i : CorrectiveIntent} (h : i.rationale ∈ rationales) : OneLine i.rationale := by
  have hall : (rationales.all fun t => decide (OneLine t)) = true := by decide
  exact of_decide_eq_true (List.all_eq_true.mp hall _ h)

theorem reject_flat {resources : List ResourceAccounting} {notes : List String} {x : Refusal} (hx : x.Flat)
    (hnotes : ∀ n ∈ notes, OneLine n) : (reject limits domain authority resources notes x).Flat :=
  ⟨hx, fun i hi => oneLine_rationale (reject_said i hi), hnotes⟩

theorem gather_flat : Ensures EvaluationResult.Flat (fun _ => True)
    (gather A order policy index domain expectation evidence tick) := by
  have hstop {α : Type} {authority : AuthorityVector} {e : Except Refusal α}
      (h : Ensures Refusal.Flat (fun _ => True) e) :
      Ensures EvaluationResult.Flat (fun _ => True) (e.mapError (stop policy domain authority)) := by
    cases e with
    | error x => exact reject_flat h (List.forall_mem_nil _)
    | ok a => trivial
  exact (hstop bindEvidence_flat).bind fun _ _ => (hstop checkFreshness_flat).bind fun _ _ =>
    (hstop checkBounds_flat).bind fun _ _ => (hstop gatherMembers_flat).bind fun _ _ => hstop gatherEvidence_flat

/-! ## The outcome -/

variable {g : Gathered} {s : Settled} {v : Verdict}

theorem note_flat {notes : List String} {text : String} (hnotes : ∀ n ∈ notes, OneLine n) (h : OneLine text) :
    ∀ n ∈ note limits notes text, OneLine n := by
  unfold note
  split
  · exact hnotes
  · rw [List.forall_mem_append, List.forall_mem_singleton]
    exact ⟨hnotes, h⟩

theorem settle_flat : ∀ n ∈ (settle A policy domain g).notes, OneLine n := by
  have hdegradation (acc : DomainAccounting) : OneLine (degradationNote acc) := by
    unfold degradationNote
    simp only [oneLine_append, oneLine_nat, oneLine_ratio, and_true]
    decide
  have hbreakdown {c : Prop} [Decidable c] : ∀ n ∈ (if c then note policy.limits []
      "resource breakdown truncated at the policy limit; domain totals are complete" else []), OneLine n := by
    split
    · exact note_flat (List.forall_mem_nil _) (by decide)
    · exact List.forall_mem_nil _
  unfold settle
  dsimp only
  split
  · exact note_flat hbreakdown (hdegradation _)
  · exact hbreakdown

/-- The texts of a verdict. -/
structure Verdict.Flat (v : Verdict) : Prop where
  detail : OneLine v.detail
  notes : ∀ n ∈ v.notes, OneLine n

theorem ite_flat {c : Prop} [Decidable c] {v w : Verdict} (hv : v.Flat) (hw : w.Flat) :
    (if c then v else w).Flat := by
  split
  · exact hv
  · exact hw

/-- **The cascade** says one line. -/
theorem verdict_flat (hs : ∀ n ∈ s.notes, OneLine n) : (verdict A order policy index domain g s).Flat := by
  have hfound {outcome : Outcome} {reason : ReasonCode} {detail : String} {intents : List CorrectiveIntent}
      (h : OneLine detail) : Verdict.Flat { outcome, reason, detail, intents, notes := s.notes } := ⟨h, hs⟩
  unfold verdict
  dsimp only
  refine ite_flat (hfound (oneLine_between (by decide) (by decide))) <|
    ite_flat (hfound (oneLine_between (by decide) (by decide))) <|
    ite_flat (hfound (oneLine_about (by decide) (by decide))) <| ite_flat (hfound (by decide)) <|
    ite_flat (hfound (by decide)) <| ite_flat (hfound (by decide)) <| ite_flat (hfound (by decide)) <|
    ite_flat (ite_flat (hfound (by decide)) (hfound (by decide))) <|
    ite_flat (ite_flat (hfound (oneLine_between (by decide) (by decide)))
      (hfound (oneLine_between (by decide) (by decide)))) <|
    ite_flat (hfound (by decide)) ?_
  split
  · exact hfound (by decide)
  · exact hfound (by decide)
  · have hwithin : OneLine "the domain is within its oversubscription policy" := by decide
    refine ite_flat (hfound (by decide)) ⟨hwithin, ?_⟩
    dsimp only
    split
    · exact note_flat hs (oneLine_between (by decide) (by decide))
    · exact hs

theorem finish_flat (hv : v.Flat) {f : ShareFinding} (hfound : Found policy.limits domain f v) :
    (finish policy.limits domain g s v).Flat :=
  ⟨hv.detail, fun i hi => oneLine_rationale (finish_said hfound i hi), hv.notes⟩

/-- **Every result** says one line at a time. -/
theorem evaluate_flat : (evaluateDomain order policy index domain expectation evidence tick).Flat := by
  have hgather : Ensures EvaluationResult.Flat (fun _ => True)
      (gather .u64 order policy index domain expectation evidence tick) := gather_flat
  unfold evaluateDomain evaluateDomainIn
  cases hg : gather .u64 order policy index domain expectation evidence tick with
  | error r =>
      rw [hg] at hgather
      exact hgather
  | ok g =>
      dsimp only
      unfold conclude
      dsimp only
      split
      · exact finish_flat (verdict_flat settle_flat) verdict_found
      · exact reject_flat (unknown_flat (by decide)) settle_flat

end

end Oversub
