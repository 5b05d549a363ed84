import Oversub.Engine.Iteration

/-!
# Oversub.Engine.Intents

The intents of a result are the first ones of those that are due, as many as
the policy admits (`finishIntents_eq`).  At most one of them is about a
service class.
-/

namespace Oversub

open EarlyFold

/-- What the policy admits of a list of intents. -/
def listed (limits : PolicyLimits) (l : List CorrectiveIntent) : List CorrectiveIntent :=
  l.take limits.maxCorrectiveIntents.toNat

/-- The intent about demand of an ineligible class. -/
def ineligibleIntent (domain : DomainConfig) (id : ServiceClassId) (amount : Nat) : CorrectiveIntent :=
  { baseIntent domain .fenceOversubscribedAdmission .serviceClass .policyServiceClassIneligibleDemand
      "service class is not eligible for deliberate oversubscription" with
    serviceClass := id
    amountUnits := amount }

/-- The intent about a class over its share. -/
def shareIntent (domain : DomainConfig) (id : ServiceClassId) (excess : Nat) : CorrectiveIntent :=
  { baseIntent domain .reduceContingentAdmissionBudget .serviceClass .serviceClassShareExceeded
      "service class exceeds its contingent share" with
    serviceClass := id
    amountUnits := excess }

/-- The intents that go with an outcome. -/
def outcomeIntents (domain : DomainConfig) (outcome : Outcome) (reason : ReasonCode) (contingent : Nat) :
    List CorrectiveIntent :=
  match outcome with
  | .emergencyReduction =>
      [{ baseIntent domain .fenceOversubscribedAdmission .domain reason
          "fence new oversubscribed admission in this domain" with
        amountUnits := contingent }]
  | .stale | .unknown =>
      [baseIntent domain .revalidateEvidence .domain reason
        "authority cannot be established from the current evidence"]
  | .conflictingInput =>
      [baseIntent domain .resolveConflictingEvidence .domain reason "evidence is structurally contradictory",
        baseIntent domain .revalidateEvidence .domain reason
          "revalidate after the contradiction is resolved"]
  | .policyRejected =>
      [baseIntent domain .fenceOversubscribedAdmission .domain reason
        "policy does not authorize the current oversubscription state"]
  | _ => []

/-- The intents before the one about an ineligible class. -/
def leadingIntents (domain : DomainConfig) (g : Gathered) (s : Settled) : List CorrectiveIntent :=
  (if 0 < s.acc.overage then [overageIntent domain s.acc.overage] else []) ++
    if 0 < g.unmapped then
      [baseIntent domain .revalidateEvidence .domain .admissionKindConflict
        "guaranteed-class admissions exceed their reservations"]
    else []

/-- The intents after it. -/
def trailingIntents (domain : DomainConfig) (s : Settled) (v : Verdict) : List CorrectiveIntent :=
  let acc := s.acc
  let short := decide (acc.effectiveUsableCapacity < acc.guaranteesTotal)
  let shortfall := if short then acc.guaranteesTotal - acc.effectiveUsableCapacity else s.violation
  (if (0 < s.violation || short) = true then
    [{ baseIntent domain .increaseProtectedHeadroom .domain .guaranteeSumExceedsUsable
        "restore capacity so that protected guarantees are covered again" with
      amountUnits := shortfall },
    { baseIntent domain .requestBorrowedCapacityRecall .domain .guaranteeSumExceedsUsable
        ("request recall of capacity lent to other domains; the governor does not know where it " ++
          "was lent, so this intent is a bounded request to the owning capacity system") with
      amountUnits := shortfall }]
    else []) ++
  (if (domain.burstPoolEnabled && decide (domain.burstPoolCapUnits.toNat < acc.burstCommitted)) = true then
    [{ baseIntent domain .reduceBurstPool .domain .burstPoolExceeded "burst pool exceeds its cap" with
      amountUnits := acc.burstCommitted - domain.burstPoolCapUnits.toNat }]
    else []) ++
  outcomeIntents domain v.outcome v.reason acc.contingentCommitted

/-- All that `finish` adds. -/
def dueIntents (domain : DomainConfig) (g : Gathered) (s : Settled) (v : Verdict) : List CorrectiveIntent :=
  leadingIntents domain g s ++
    (if 0 < g.ineligibleAmount then [ineligibleIntent domain g.ineligibleClass g.ineligibleAmount] else []) ++
    trailingIntents domain s v

section

variable {limits : PolicyLimits} {domain : DomainConfig} {g : Gathered} {s : Settled} {v : Verdict}
  {l : List CorrectiveIntent} {intent : CorrectiveIntent}

theorem addIntent_listed : addIntent limits (listed limits l) intent = listed limits (l ++ [intent]) := by
  unfold addIntent listed
  rw [List.length_take]
  split
  next hfull =>
    rw [List.take_append_of_le_length]
    omega
  next hroom =>
    rw [List.take_of_length_le (by omega), List.take_of_length_le]
    rw [List.length_append, List.length_singleton]
    omega

theorem addIntentIf_listed {c : Bool} : addIntentIf limits c intent (listed limits l) =
    listed limits (l ++ if c = true then [intent] else []) := by
  unfold addIntentIf
  split
  · exact addIntent_listed
  · rw [List.append_nil]

/-- **The intents** are the first ones of those that are due. -/
theorem finishIntents_eq (hv : v.intents = listed limits l) :
    finishIntents limits domain g s v = listed limits (l ++ dueIntents domain g s v) := by
  have hpair {c : Bool} {a b : CorrectiveIntent} {l : List CorrectiveIntent} :
      addIntentIf limits c b (addIntentIf limits c a (listed limits l)) =
        listed limits (l ++ if c = true then [a, b] else []) := by
    rw [addIntentIf_listed, addIntentIf_listed, List.append_assoc]
    split <;> rfl
  unfold finishIntents dueIntents leadingIntents trailingIntents
  dsimp only
  rw [hv, addIntentIf_listed, addIntentIf_listed, addIntentIf_listed, hpair, addIntentIf_listed]
  cases v.outcome <;>
    simp only [outcomeIntents, addIntent_listed, decide_eq_true_eq, List.append_assoc, List.append_nil,
      List.cons_append, List.nil_append, overageIntent, ineligibleIntent]

/-- The intents of the cascade: none, or the one about the class that the share
loop has found. -/
def Found (limits : PolicyLimits) (domain : DomainConfig) (f : ShareFinding) (v : Verdict) : Prop :=
  v.intents = listed limits [] ∨
    ∃ id excess, f = .exceeded id excess ∧ v.reason = .serviceClassShareExceeded ∧
      v.intents = listed limits [shareIntent domain id excess]

theorem ite_found {c : Prop} [Decidable c] {f : ShareFinding} {v w : Verdict} (hv : Found limits domain f v)
    (hw : Found limits domain f w) : Found limits domain f (if c then v else w) := by
  split
  · exact hv
  · exact hw

theorem verdict_found {order : MapOrder} {policy : OversubscriptionPolicy} {index : PolicyIndex} :
    Found policy.limits domain (finding order index g s) (verdict .u64 order policy index domain g s) := by
  have hnone {f : ShareFinding} {v : Verdict} (hv : v.intents = []) : Found policy.limits domain f v :=
    .inl (hv.trans List.take_nil.symm)
  unfold verdict finding
  dsimp only
  refine ite_found (hnone rfl) <| ite_found (hnone rfl) <| ite_found (hnone rfl) <| ite_found (hnone rfl) <|
    ite_found (hnone rfl) <| ite_found (hnone rfl) <| ite_found (hnone rfl) <|
    ite_found (ite_found (hnone rfl) (hnone rfl)) <| ite_found (ite_found (hnone rfl) (hnone rfl)) <|
    ite_found (hnone rfl) ?_
  cases shareFinding .u64 index s.acc.contingentCeiling (order.contingent g.contingentByClass.entries) with
  | within => exact ite_found (hnone rfl) (hnone rfl)
  | overflowed => exact hnone rfl
  | exceeded id excess =>
      have hone := @addIntent_listed policy.limits [] (shareIntent domain id excess)
      rw [listed, List.take_nil] at hone
      exact .inr ⟨id, excess, rfl, rfl, hone⟩

/-! ## How many there are -/

theorem addIntent_le (h : l.length ≤ limits.maxCorrectiveIntents.toNat) :
    (addIntent limits l intent).length ≤ limits.maxCorrectiveIntents.toNat := by
  unfold addIntent
  split
  · exact h
  · rw [List.length_append, List.length_singleton]
    omega

theorem rejectIntents_le {outcome : Outcome} {reason : ReasonCode} :
    (rejectIntents limits domain outcome reason []).length ≤ limits.maxCorrectiveIntents.toNat := by
  have hnil : ([] : List CorrectiveIntent).length ≤ limits.maxCorrectiveIntents.toNat := Nat.zero_le _
  unfold rejectIntents
  cases outcome with
  | stale | unknown => exact addIntent_le hnil
  | conflictingInput => exact addIntent_le (addIntent_le hnil)
  | policyRejected => exact addIntent_le hnil
  | withinPolicy | atLimit | reductionRequired | emergencyReduction => exact hnil

theorem reject_le {authority : AuthorityVector} {resources : List ResourceAccounting} {notes : List String}
    {x : Refusal} : (reject limits domain authority resources notes x).intents.length ≤
      limits.maxCorrectiveIntents.toNat := rejectIntents_le

theorem finish_le {f : ShareFinding} (hv : Found limits domain f v) :
    (finish limits domain g s v).intents.length ≤ limits.maxCorrectiveIntents.toNat := by
  obtain ⟨l, hl⟩ : ∃ l, v.intents = listed limits l := by
    rcases hv with hnone | ⟨id, excess, -, -, hone⟩
    · exact ⟨[], hnone⟩
    · exact ⟨_, hone⟩
  rw [finish, finalize_intents, finishIntents_eq hl, listed, List.length_take]
  exact Nat.min_le_left _ _

/-! ## What an intent names -/

/-- About the domain, and no service class. -/
def CorrectiveIntent.Plain (i : CorrectiveIntent) : Prop := i.target = .domain ∧ i.serviceClass = {}

theorem plain_of_listed {P : CorrectiveIntent → Prop} (h : ∀ i ∈ l, P i) : ∀ i ∈ listed limits l, P i :=
  fun i hi => h i (List.mem_of_mem_take hi)

theorem leadingIntents_plain : ∀ i ∈ leadingIntents domain g s, i.Plain := by
  intro i hi
  unfold leadingIntents at hi
  rw [List.mem_append] at hi
  rcases hi with hi | hi
  · split at hi
    · rw [List.mem_singleton.mp hi]
      exact ⟨rfl, rfl⟩
    · cases hi
  · split at hi
    · rw [List.mem_singleton.mp hi]
      exact ⟨rfl, rfl⟩
    · cases hi

theorem outcomeIntents_plain {outcome : Outcome} {reason : ReasonCode} {contingent : Nat} :
    ∀ i ∈ outcomeIntents domain outcome reason contingent, i.Plain := by
  cases outcome <;> simp [outcomeIntents, CorrectiveIntent.Plain, baseIntent]

theorem trailingIntents_plain : ∀ i ∈ trailingIntents domain s v, i.Plain := by
  intro i hi
  unfold trailingIntents at hi
  simp only [List.mem_append] at hi
  rcases hi with (hi | hi) | hi
  · split at hi
    · simp only [List.mem_cons, List.not_mem_nil, or_false] at hi
      rcases hi with rfl | rfl
      · exact ⟨rfl, rfl⟩
      · exact ⟨rfl, rfl⟩
    · cases hi
  · split at hi
    · rw [List.mem_singleton.mp hi]
      exact ⟨rfl, rfl⟩
    · cases hi
  · exact outcomeIntents_plain i hi

/-- What holds of the intents and of one more. -/
theorem addIntent_all {P : CorrectiveIntent → Prop} (hl : ∀ i ∈ l, P i) (hintent : P intent) :
    ∀ i ∈ addIntent limits l intent, P i := by
  unfold addIntent
  split
  · exact hl
  · rw [List.forall_mem_append, List.forall_mem_singleton]
    exact ⟨hl, hintent⟩

/-- A refusal names no service class. -/
theorem rejectIntents_plain {outcome : Outcome} {reason : ReasonCode} :
    ∀ i ∈ rejectIntents limits domain outcome reason [], i.Plain ∧ i.amountUnits = 0 := by
  have hbase {kind : CorrectiveKind} {reason : ReasonCode} {text : String} :
      (baseIntent domain kind .domain reason text).Plain ∧
        (baseIntent domain kind .domain reason text).amountUnits = 0 := ⟨⟨rfl, rfl⟩, rfl⟩
  have hnil : ∀ i ∈ ([] : List CorrectiveIntent), i.Plain ∧ i.amountUnits = 0 := by simp
  cases outcome with
  | stale | unknown =>
      unfold rejectIntents
      exact addIntent_all hnil hbase
  | conflictingInput =>
      unfold rejectIntents
      exact addIntent_all (addIntent_all hnil hbase) hbase
  | policyRejected =>
      unfold rejectIntents
      exact addIntent_all hnil hbase
  | withinPolicy | atLimit | reductionRequired | emergencyReduction =>
      unfold rejectIntents
      exact hnil

/-! ## What an intent says -/

/-- The texts in which intents give their reasons. -/
def rationales : List String := [
  "authority cannot be established from the current evidence; revalidate",
  "evidence is structurally contradictory; resolve before any authority",
  "revalidate after the contradiction is resolved",
  "policy does not authorize the current oversubscription state",
  "reduce the contingent admission budget by the overage",
  "guaranteed-class admissions exceed their reservations",
  "service class is not eligible for deliberate oversubscription",
  "service class exceeds its contingent share",
  "restore capacity so that protected guarantees are covered again",
  "request recall of capacity lent to other domains; the governor does not know where it " ++
    "was lent, so this intent is a bounded request to the owning capacity system",
  "burst pool exceeds its cap",
  "fence new oversubscribed admission in this domain",
  "authority cannot be established from the current evidence",
  "evidence is structurally contradictory"]

theorem rejectIntents_said {outcome : Outcome} {reason : ReasonCode} :
    ∀ i ∈ rejectIntents limits domain outcome reason [], i.rationale ∈ rationales := by
  have hnil : ∀ i ∈ ([] : List CorrectiveIntent), i.rationale ∈ rationales := List.forall_mem_nil _
  cases outcome with
  | stale | unknown =>
      unfold rejectIntents
      exact addIntent_all hnil (by simp [baseIntent, rationales])
  | conflictingInput =>
      unfold rejectIntents
      exact addIntent_all (addIntent_all hnil (by simp [baseIntent, rationales]))
        (by simp [baseIntent, rationales])
  | policyRejected =>
      unfold rejectIntents
      exact addIntent_all hnil (by simp [baseIntent, rationales])
  | withinPolicy | atLimit | reductionRequired | emergencyReduction =>
      unfold rejectIntents
      exact hnil

theorem reject_said {authority : AuthorityVector} {resources : List ResourceAccounting} {notes : List String}
    {x : Refusal} : ∀ i ∈ (reject limits domain authority resources notes x).intents, i.rationale ∈ rationales :=
  rejectIntents_said

theorem outcomeIntents_said {outcome : Outcome} {reason : ReasonCode} {contingent : Nat} :
    ∀ i ∈ outcomeIntents domain outcome reason contingent, i.rationale ∈ rationales := by
  cases outcome <;> simp [outcomeIntents, baseIntent, rationales]

theorem dueIntents_said : ∀ i ∈ dueIntents domain g s v, i.rationale ∈ rationales := by
  have hif {c : Prop} [Decidable c] {l : List CorrectiveIntent} (hl : ∀ i ∈ l, i.rationale ∈ rationales) :
      ∀ i ∈ (if c then l else []), i.rationale ∈ rationales := by
    split
    · exact hl
    · exact List.forall_mem_nil _
  unfold dueIntents leadingIntents trailingIntents
  dsimp only
  simp only [List.forall_mem_append]
  refine ⟨⟨⟨hif ?_, hif ?_⟩, hif ?_⟩, ⟨hif ?_, hif ?_⟩, outcomeIntents_said⟩
  · simp [overageIntent, baseIntent, rationales]
  · simp [baseIntent, rationales]
  · simp [ineligibleIntent, baseIntent, rationales]
  · simp [baseIntent, rationales]
  · simp [baseIntent, rationales]

theorem finish_said {f : ShareFinding} (hv : Found limits domain f v) :
    ∀ i ∈ (finish limits domain g s v).intents, i.rationale ∈ rationales := by
  obtain ⟨l, hl, hsaid⟩ : ∃ l, v.intents = listed limits l ∧ ∀ i ∈ l, i.rationale ∈ rationales := by
    rcases hv with hnone | ⟨id, excess, -, -, hone⟩
    · exact ⟨[], hnone, List.forall_mem_nil _⟩
    · exact ⟨_, hone, by simp [shareIntent, baseIntent, rationales]⟩
  rw [finish, finalize_intents, finishIntents_eq hl]
  exact plain_of_listed (List.forall_mem_append.mpr ⟨hsaid, dueIntents_said⟩)

end

section

variable {A : Arith} {order : MapOrder} {policy : OversubscriptionPolicy} {index : PolicyIndex}
  {domain : DomainConfig} {expectation : AuthorityExpectation} {evidence : DomainEvidence} {tick : UInt64}

/-- The first half stops with a refusal. -/
theorem gather_stops : Ensures (fun r => ∃ authority x, r = stop policy domain authority x) (fun _ => True)
    (gather A order policy index domain expectation evidence tick) := by
  have hstop {α : Type} {authority : AuthorityVector} {x : Except Refusal α} :
      Ensures (fun r => ∃ authority x, r = stop policy domain authority x) (fun _ => True)
        (x.mapError (stop policy domain authority)) := by
    cases x with
    | error e => exact ⟨authority, e, rfl⟩
    | ok a => trivial
  exact hstop.bind fun _ _ => hstop.bind fun _ _ => hstop.bind fun _ _ => hstop.bind fun _ _ => hstop

/-- **The intents** are no more than the policy allows. -/
theorem evaluate_intents_le : (evaluateDomain order policy index domain expectation evidence tick).intents.length ≤
    policy.limits.maxCorrectiveIntents.toNat := by
  have hgather := @gather_stops .u64 order policy index domain expectation evidence tick
  unfold evaluateDomain evaluateDomainIn
  cases hg : gather .u64 order policy index domain expectation evidence tick with
  | error r =>
      rw [hg] at hgather
      obtain ⟨authority, x, rfl⟩ := hgather
      exact reject_le
  | ok g =>
      dsimp only
      unfold conclude
      dsimp only
      split
      · exact finish_le verdict_found
      · exact reject_le

/-- **Every intent** gives one of these reasons. -/
theorem evaluate_said : ∀ i ∈ (evaluateDomain order policy index domain expectation evidence tick).intents,
    i.rationale ∈ rationales := by
  have hgather := @gather_stops .u64 order policy index domain expectation evidence tick
  unfold evaluateDomain evaluateDomainIn
  cases hg : gather .u64 order policy index domain expectation evidence tick with
  | error r =>
      rw [hg] at hgather
      obtain ⟨authority, x, rfl⟩ := hgather
      exact reject_said
  | ok g =>
      dsimp only
      unfold conclude
      dsimp only
      split
      · exact finish_said verdict_found
      · exact reject_said

end

end Oversub
