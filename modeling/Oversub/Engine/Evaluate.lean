import Oversub.Engine.Gather

/-!
# Oversub.Engine.Evaluate

The second half of `evaluate_domain` (`engine.cpp`): the legal boundary over
the gathered totals, the per-resource breakdown, the outcome cascade and the
corrective intents.

`evaluateDomainIn A order` is the evaluation over the arithmetic `A` with the
hash tables traversed in `order`; the program is `evaluateDomain`, which runs
in 64-bit arithmetic.
-/

namespace Oversub

open Tally

/-! ## The effective ratio -/

structure EffectiveRatio where
  ratio : Ratio
  constraint : Constraint
  reduced : Bool := false

def configuredOrCap (A : Arith) (policy : OversubscriptionPolicy) (domain : DomainConfig) :
    EffectiveRatio :=
  if A.ratioGt domain.configuredRatio policy.policyRatioCap then
    { ratio := policy.policyRatioCap, constraint := .policyRatioCap }
  else { ratio := domain.configuredRatio, constraint := .configuredRatio }

/-- The cap that applies while a member is degraded or failed. -/
def degradedCap (domain : DomainConfig) : Ratio :=
  if domain.hasDegradedRatioCap then domain.degradedRatioCap else { num := 1, den := 1 }

def effectiveRatio (A : Arith) (policy : OversubscriptionPolicy) (domain : DomainConfig)
    (degraded : Bool) : EffectiveRatio :=
  let effective := configuredOrCap A policy domain
  if degraded && A.ratioLt (degradedCap domain) effective.ratio then
    { ratio := degradedCap domain, constraint := .degradedRatioCap, reduced := true }
  else effective

/-! ## Ceilings -/

structure Candidate where
  constraint : Constraint
  value : Nat

/-- A computed ceiling; a failed operation contributes none. -/
def candidate (constraint : Constraint) : Option Nat → List Candidate
  | none => []
  | some value => [{ constraint, value }]

def absoluteCeiling (A : Arith) (risk : RiskBudgetPolicy) (effectiveUsable : Nat) : Option Nat :=
  A.addChecked effectiveUsable risk.maxExposureUnits.toNat

def ppmCeiling (A : Arith) (risk : RiskBudgetPolicy) (effectiveUsable : Nat) : Option Nat :=
  A.mulDivFloor effectiveUsable (A.wrap (kPpmScale + risk.maxExposurePpm.toNat)) kPpmScale

/-- `risk_ceiling`: the smaller of the configured ones, zero when there is none. -/
def lowerRiskCeiling (riskCeiling : Nat) : Option Nat → Nat
  | none => riskCeiling
  | some value => if riskCeiling = 0 ∨ value < riskCeiling then value else riskCeiling

structure Ceilings where
  ceiling : Nat
  binding : Constraint
  riskCeiling : Nat
  closed : Bool

def ceilings (A : Arith) (risk : RiskBudgetPolicy) (effective : EffectiveRatio)
    (effectiveUsable : Nat) : Ceilings :=
  let ratioCeiling := A.mulDivFloor effectiveUsable effective.ratio.num.toNat
    effective.ratio.den.toNat
  let absolute := if risk.hasAbsolute then absoluteCeiling A risk effectiveUsable else none
  let ppm := if risk.hasPpm then ppmCeiling A risk effectiveUsable else none
  let candidates := candidate effective.constraint ratioCeiling ++
    candidate .riskBudgetExposureAbsolute absolute ++ candidate .riskBudgetExposurePpm ppm
  let start : Candidate := { constraint := effective.constraint, value := ratioCeiling.getD 0 }
  let least := candidates.foldl (fun c d => if d.value < c.value then d else c) start
  { ceiling := if effectiveUsable = 0 then 0 else least.value
    binding := if effectiveUsable = 0 then .noCapacity else least.constraint
    riskCeiling := lowerRiskCeiling (lowerRiskCeiling 0 absolute) ppm
    closed := ratioCeiling.isSome && (!risk.hasAbsolute || absolute.isSome) &&
      (!risk.hasPpm || ppm.isSome) }

/-! ## The boundary -/

/-- `acc` with the boundary fields computed, and whether every sum closed. -/
def boundary (A : Arith) (policy : OversubscriptionPolicy) (acc : DomainAccounting)
    (effective : EffectiveRatio) (c : Ceilings) : DomainAccounting × Bool :=
  let protectedRequired := A.addChecked acc.guaranteesTotal acc.emergencyReserve
  let required := protectedRequired.getD 0
  let floorRequired := A.addChecked required acc.minProtectedHeadroom
  let committedTotal := A.addChecked acc.guaranteesTotal acc.contingentCommitted
  let committed := committedTotal.getD acc.committedTotal
  let contingentCeiling := if required ≤ c.ceiling then c.ceiling - required else 0
  let riskBudgetCeiling := if c.riskCeiling ≠ 0 then c.riskCeiling else c.ceiling
  let usedPpm :=
    if contingentCeiling = 0 then (if acc.contingentCommitted = 0 then 0 else kPpmScale)
    else A.mulDivFloorSat acc.contingentCommitted kPpmScale contingentCeiling
  let overage := committed - c.ceiling
  ({ acc with
      effectiveRatio := effective.ratio
      effectiveRatioPpm := A.ratioPpm effective.ratio
      ratioReducedByDegradation := effective.reduced
      ceilingTotal := c.ceiling
      riskBudgetCeiling := riskBudgetCeiling
      bindingConstraint := c.binding
      protectedRequired := required
      floorRequired := floorRequired.getD 0
      contingentCeiling := contingentCeiling
      committedTotal := committed
      overage := overage
      contingentFree := contingentCeiling - acc.contingentCommitted
      protectedHeadroom := acc.effectiveUsableCapacity - required
      exposure := committed - acc.effectiveUsableCapacity
      riskExposureRemaining := riskBudgetCeiling - committed
      riskBudgetExceeded := c.riskCeiling ≠ 0 && decide (c.riskCeiling < committed)
      usedPpmOfCeiling := usedPpm
      approachingLimit := overage = 0 && decide (policy.thresholds.warnUsedPpm.toNat ≤ usedPpm) },
    protectedRequired.isSome && floorRequired.isSome && committedTotal.isSome)

/-! ## The per-resource view -/

def resourceCeiling (A : Arith) (ratio : Ratio) (ra : ResourceAccum) : Option Nat :=
  A.mulDivFloor ra.effectiveUsable ratio.num.toNat ratio.den.toNat

def resourceAccounting (A : Arith) (ratio : Ratio) (binding : Constraint) (ra : ResourceAccum) :
    ResourceAccounting :=
  let ceiling := (resourceCeiling A ratio ra).getD 0
  let contingentCeiling := ceiling - ra.guarantees
  let overage := ra.committed - ceiling
  { resource := ra.capacity.resource
    pool := ra.capacity.pool
    health := ra.capacity.health
    physicalCapacity := ra.capacity.physicalCapacity.toNat
    usableCapacity := ra.capacity.usableCapacity.toNat
    effectiveUsableCapacity := ra.effectiveUsable
    guarantees := ra.guarantees
    contingentCommitted := ra.contingentCommitted
    contingentPending := ra.contingentPending
    ceiling := ceiling
    contingentCeiling := contingentCeiling
    contingentFree := contingentCeiling - ra.contingentCommitted
    overage := overage
    protectedHeadroom := ra.effectiveUsable - ra.guarantees
    bindingConstraint := if 0 < overage then binding else .none }

/-- By how much the guarantees of the members exceed their own capacity, and
the last member where they do. -/
def guaranteeViolation (A : Arith) (resources : List ResourceAccum) : Nat × ResourceId :=
  resources.foldl
    (fun v ra =>
      if ra.effectiveUsable < ra.guarantees then
        (A.addSat v.1 (ra.guarantees - ra.effectiveUsable), ra.capacity.resource)
      else v) (0, {})

structure Settled where
  acc : DomainAccounting
  resources : List ResourceAccounting
  notes : List String
  violation : Nat
  violationId : ResourceId
  closed : Bool

def degradationNote (acc : DomainAccounting) : String :=
  "degradation present: " ++ toString acc.degradedResources ++ " degraded, " ++
    toString acc.failedResources ++ " failed resources; effective ratio " ++
    ratioToString acc.effectiveRatio ++ " (configured " ++ ratioToString acc.configuredRatio ++ ")"

def degradedPresent (acc : DomainAccounting) : Bool :=
  0 < acc.degradedResources || 0 < acc.failedResources

def settle (A : Arith) (policy : OversubscriptionPolicy) (domain : DomainConfig) (g : Gathered) :
    Settled :=
  let limits := policy.limits
  let effective := effectiveRatio A policy domain (degradedPresent g.acc)
  let c := ceilings A policy.riskBudget effective g.acc.effectiveUsableCapacity
  let acc := boundary A policy g.acc effective c
  let breakdown := limits.maxResourceBreakdown.toNat
  let notes := if breakdown < g.resources.length then
      note limits []
        "resource breakdown truncated at the policy limit; domain totals are complete"
    else []
  let notes := if degradedPresent g.acc then note limits notes (degradationNote acc.1) else notes
  let violation := guaranteeViolation A g.resources
  { acc := acc.1
    resources := (g.resources.take breakdown).map (resourceAccounting A effective.ratio c.binding)
    notes := notes
    violation := violation.1
    violationId := violation.2
    closed := g.closed && c.closed && acc.2 &&
      g.resources.all fun ra => (resourceCeiling A effective.ratio ra).isSome }

/-! ## The outcome cascade -/

structure Verdict where
  outcome : Outcome
  reason : ReasonCode
  detail : String
  intents : List CorrectiveIntent := []
  notes : List String

/-- What the loop over the contingent totals by class comes to. -/
inductive ShareFinding where
  | within
  | overflowed
  | exceeded (serviceClass : ServiceClassId) (excess : Nat)

def shareFinding (A : Arith) (index : PolicyIndex) (contingentCeiling : Nat) :
    List (Σ _ : ServiceClassId, Nat) → ShareFinding
  | [] => .within
  | e :: rest =>
      match index.serviceClass e.1 with
      | none => shareFinding A index contingentCeiling rest
      | some cls =>
          if cls.hasContingentShareCap then
            match A.ppmOf contingentCeiling cls.contingentShareCapPpm.toNat with
            | none => .overflowed
            | some allowed =>
                if allowed < e.2 then .exceeded e.1 (e.2 - allowed)
                else shareFinding A index contingentCeiling rest
          else shareFinding A index contingentCeiling rest

/-- The overage as ppm of the ceiling; the whole scale when it cannot be computed. -/
def overagePpm (A : Arith) (acc : DomainAccounting) : Nat :=
  if acc.ceilingTotal = 0 then kPpmScale
  else (A.mulDivCeil acc.overage kPpmScale acc.ceilingTotal).getD kPpmScale

def verdict (A : Arith) (order : MapOrder) (policy : OversubscriptionPolicy) (index : PolicyIndex)
    (domain : DomainConfig) (g : Gathered) (s : Settled) : Verdict :=
  let acc := s.acc
  let limits := policy.limits
  let found (outcome : Outcome) (reason : ReasonCode) (detail : String) : Verdict :=
    { outcome, reason, detail, notes := s.notes }
  if 0 < g.unmapped then
    found .conflictingInput .admissionKindConflict
      ("guaranteed-class admissions exceed their reservations by " ++ toString g.unmapped ++
        " units")
  else if 0 < g.ineligibleAmount then
    found .policyRejected .policyServiceClassIneligibleDemand
      ("an ineligible service class holds " ++ toString g.ineligibleAmount ++
        " units of oversubscribed demand")
  else if 0 < s.violation then
    found .emergencyReduction .guaranteeSumExceedsUsable
      ("guarantees on resource " ++ s.violationId.toString ++
        " exceed that resource's effective usable capacity")
  else if acc.effectiveUsableCapacity < acc.guaranteesTotal then
    found .emergencyReduction .guaranteeSumExceedsUsable
      "guaranteed obligations exceed effective usable capacity"
  else if acc.effectiveUsableCapacity < acc.protectedRequired then
    found .emergencyReduction .guaranteeSumExceedsUsable
      "protected obligations (guarantees plus emergency reserve) exceed effective usable capacity"
  else if acc.effectiveUsableCapacity < acc.floorRequired then
    found .policyRejected .guaranteeFloorExceedsCeiling
      "the policy minimum protected headroom cannot be satisfied by usable capacity"
  else if acc.ceilingTotal < acc.floorRequired then
    found .policyRejected .guaranteeFloorExceedsCeiling
      "the legal commitment ceiling is below the protected guarantee floor"
  else if acc.effectiveUsableCapacity = 0 then
    if 0 < acc.committedTotal then
      found .emergencyReduction .admissionNoContingentCeiling
        "no usable capacity remains but commitments are outstanding"
    else found .atLimit .resourceFailed "no usable capacity in this domain"
  else if 0 < acc.overage then
    if policy.thresholds.emergencyOveragePpm.toNat ≤ overagePpm A acc then
      found .emergencyReduction .admissionExceedsContingentCeiling
        ("oversubscription exceeds the legal ceiling by " ++ toString (overagePpm A acc) ++
          " ppm of the ceiling")
    else
      found .reductionRequired .admissionExceedsContingentCeiling
        ("oversubscription exceeds the legal ceiling by " ++ toString acc.overage ++ " units")
  else if domain.burstPoolEnabled && decide (domain.burstPoolCapUnits.toNat < acc.burstCommitted) then
    found .reductionRequired .burstPoolExceeded
      "burst pool commitment exceeds the configured burst pool cap"
  else
    match shareFinding A index acc.contingentCeiling
        (order.contingent g.contingentByClass.entries) with
    | .overflowed => found .unknown .arithmeticOverflow "service class share overflowed"
    | .exceeded serviceClass excess =>
        { found .reductionRequired .serviceClassShareExceeded
            "a service class exceeds its contingent share of the ceiling" with
          intents := addIntent limits [] { baseIntent domain .reduceContingentAdmissionBudget
              .serviceClass .serviceClassShareExceeded
              "service class exceeds its contingent share" with
            serviceClass := serviceClass
            amountUnits := excess } }
    | .within =>
        if acc.contingentFree = 0 then
          found .atLimit .none "the domain is exactly at its legal ceiling"
        else
          { found .withinPolicy .none "the domain is within its oversubscription policy" with
            notes := if acc.approachingLimit then
                note limits s.notes
                  ("used " ++ toString acc.usedPpmOfCeiling ++ " ppm of the contingent ceiling")
              else s.notes }

/-! ## Corrective intents -/

/-- `add_intent` under a condition. -/
def addIntentIf (limits : PolicyLimits) (c : Bool) (intent : CorrectiveIntent)
    (intents : List CorrectiveIntent) : List CorrectiveIntent :=
  if c then addIntent limits intents intent else intents

/-- The intents of `finish`, after those the cascade has added. -/
def finishIntents (limits : PolicyLimits) (domain : DomainConfig) (g : Gathered) (s : Settled)
    (v : Verdict) : List CorrectiveIntent :=
  let acc := s.acc
  let intents := addIntentIf limits (0 < acc.overage)
    { baseIntent domain .reduceContingentAdmissionBudget .domain
        .admissionExceedsContingentCeiling
        "reduce the contingent admission budget by the overage" with
      amountUnits := acc.overage } v.intents
  let intents := addIntentIf limits (0 < g.unmapped)
    (baseIntent domain .revalidateEvidence .domain .admissionKindConflict
      "guaranteed-class admissions exceed their reservations") intents
  let intents := addIntentIf limits (0 < g.ineligibleAmount)
    { baseIntent domain .fenceOversubscribedAdmission .serviceClass
        .policyServiceClassIneligibleDemand
        "service class is not eligible for deliberate oversubscription" with
      serviceClass := g.ineligibleClass
      amountUnits := g.ineligibleAmount } intents
  let short := decide (acc.effectiveUsableCapacity < acc.guaranteesTotal)
  let shortfall := if short then acc.guaranteesTotal - acc.effectiveUsableCapacity else s.violation
  let intents := addIntentIf limits (0 < s.violation || short)
    { baseIntent domain .increaseProtectedHeadroom .domain .guaranteeSumExceedsUsable
        "restore capacity so that protected guarantees are covered again" with
      amountUnits := shortfall } intents
  let intents := addIntentIf limits (0 < s.violation || short)
    { baseIntent domain .requestBorrowedCapacityRecall .domain .guaranteeSumExceedsUsable
        ("request recall of capacity lent to other domains; the governor does not know where it " ++
          "was lent, so this intent is a bounded request to the owning capacity system") with
      amountUnits := shortfall } intents
  let intents := addIntentIf limits
    (domain.burstPoolEnabled && decide (domain.burstPoolCapUnits.toNat < acc.burstCommitted))
    { baseIntent domain .reduceBurstPool .domain .burstPoolExceeded
        "burst pool exceeds its cap" with
      amountUnits := acc.burstCommitted - domain.burstPoolCapUnits.toNat } intents
  match v.outcome with
  | .emergencyReduction =>
      addIntent limits intents
        { baseIntent domain .fenceOversubscribedAdmission .domain v.reason
            "fence new oversubscribed admission in this domain" with
          amountUnits := acc.contingentCommitted }
  | .stale | .unknown =>
      addIntent limits intents
        (baseIntent domain .revalidateEvidence .domain v.reason
          "authority cannot be established from the current evidence")
  | .conflictingInput =>
      let intents := addIntent limits intents
        (baseIntent domain .resolveConflictingEvidence .domain v.reason
          "evidence is structurally contradictory")
      addIntent limits intents
        (baseIntent domain .revalidateEvidence .domain v.reason
          "revalidate after the contradiction is resolved")
  | .policyRejected =>
      addIntent limits intents
        (baseIntent domain .fenceOversubscribedAdmission .domain v.reason
          "policy does not authorize the current oversubscription state")
  | _ => intents

def finish (limits : PolicyLimits) (domain : DomainConfig) (g : Gathered) (s : Settled)
    (v : Verdict) : EvaluationResult :=
  finalizeEvaluationResult {
    outcome := v.outcome
    reason := v.reason
    detail := v.detail
    accounting := s.acc
    resources := s.resources
    intents := finishIntents limits domain g s v
    notes := v.notes
    authority := g.authority
    fenceRequired := v.outcome.requiresFence }

/-! ## The evaluation -/

/-- From the gathered totals to the result. -/
def conclude (A : Arith) (order : MapOrder) (policy : OversubscriptionPolicy) (index : PolicyIndex)
    (domain : DomainConfig) (g : Gathered) : EvaluationResult :=
  let s := settle A policy domain g
  if s.closed then finish policy.limits domain g s (verdict A order policy index domain g s)
  else
    reject policy.limits domain g.authority s.resources s.notes
      ({ s.acc with arithmeticClosed := false }.unknown .arithmeticOverflow
        "checked arithmetic could not close the domain boundary")

def evaluateDomainIn (A : Arith) (order : MapOrder) (policy : OversubscriptionPolicy)
    (index : PolicyIndex) (domain : DomainConfig) (expectation : AuthorityExpectation)
    (evidence : DomainEvidence) (tick : UInt64) : EvaluationResult :=
  match gather A order policy index domain expectation evidence tick with
  | .error result => result
  | .ok g => conclude A order policy index domain g

/-- `evaluate_domain`. -/
def evaluateDomain (order : MapOrder) (policy : OversubscriptionPolicy) (index : PolicyIndex)
    (domain : DomainConfig) (expectation : AuthorityExpectation) (evidence : DomainEvidence)
    (tick : UInt64) : EvaluationResult :=
  evaluateDomainIn .u64 order policy index domain expectation evidence tick

end Oversub
