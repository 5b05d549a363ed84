import Oversub.Evidence

/-!
# Oversub.Engine.Result

The records the engine reads and returns (`engine.hpp`), and how a result is
built up: corrective intents and notes within the policy's limits, the grant
derived from the outcome, and the result digest.

Quantities of the accounting are naturals; what they may grow to is decided
by the arithmetic an evaluation runs in.
-/

namespace Oversub

/-! ## Authority and evidence -/

/-- The exact generations and epoch that justify a decision. -/
structure AuthorityVector where
  domain : OversubscriptionDomainId := {}
  domainGeneration : DomainGeneration := {}
  policy : OversubscriptionPolicyId := {}
  policyGeneration : PolicyGeneration := {}
  capacityGeneration : CapacitySnapshotGeneration := {}
  reservationGeneration : ReservationSnapshotGeneration := {}
  admissionGeneration : AdmissionSnapshotGeneration := {}
  riskBudget : RiskBudgetId := {}
  riskBudgetGeneration : RiskBudgetGeneration := {}
  epoch : FabricEpoch := {}
  resourceSetFold : UInt64 := 0
  inputDigest : Digest := Digest.zero
  deriving DecidableEq, Inhabited

def AuthorityVector.complete (a : AuthorityVector) : Bool :=
  a.domain.valid && a.domainGeneration.valid && a.policy.valid && a.policyGeneration.valid &&
    a.capacityGeneration.valid && a.reservationGeneration.valid && a.admissionGeneration.valid &&
    a.riskBudget.valid && a.riskBudgetGeneration.valid && a.epoch.valid

/-- What the runtime currently owns.  Evidence claiming anything else is stale. -/
structure AuthorityExpectation where
  epoch : FabricEpoch := {}
  policyGeneration : PolicyGeneration := {}
  domainGeneration : DomainGeneration := {}
  capacityGeneration : CapacitySnapshotGeneration := {}
  reservationGeneration : ReservationSnapshotGeneration := {}
  admissionGeneration : AdmissionSnapshotGeneration := {}
  riskBudgetGeneration : RiskBudgetGeneration := {}
  deriving DecidableEq, Inhabited

/-- The snapshots of an evaluation; a null pointer is `none`. -/
structure DomainEvidence where
  capacity : Option CapacitySnapshot := none
  reservations : Option ReservationSnapshot := none
  admissions : Option AdmissionSnapshot := none
  deriving DecidableEq, Inhabited

/-! ## Accounting -/

structure ResourceAccounting where
  resource : ResourceId
  pool : PoolId
  health : ResourceHealth
  physicalCapacity : Nat
  usableCapacity : Nat
  effectiveUsableCapacity : Nat
  guarantees : Nat
  contingentCommitted : Nat
  contingentPending : Nat
  ceiling : Nat
  contingentCeiling : Nat
  contingentFree : Nat
  overage : Nat
  protectedHeadroom : Nat
  bindingConstraint : Constraint
  deriving DecidableEq

structure DomainAccounting where
  domain : OversubscriptionDomainId := {}
  pool : PoolId := {}
  physicalCapacity : Nat := 0
  usableCapacity : Nat := 0
  effectiveUsableCapacity : Nat := 0
  guaranteesTotal : Nat := 0
  emergencyReserve : Nat := 0
  minProtectedHeadroom : Nat := 0
  protectedRequired : Nat := 0
  floorRequired : Nat := 0
  configuredRatio : Ratio := {}
  effectiveRatio : Ratio := {}
  configuredRatioPpm : Nat := kPpmScale
  effectiveRatioPpm : Nat := kPpmScale
  ratioReducedByDegradation : Bool := false
  ceilingTotal : Nat := 0
  contingentCeiling : Nat := 0
  contingentCommitted : Nat := 0
  contingentPending : Nat := 0
  burstCommitted : Nat := 0
  guaranteedAdmitted : Nat := 0
  contingentFree : Nat := 0
  committedTotal : Nat := 0
  overage : Nat := 0
  protectedHeadroom : Nat := 0
  usedPpmOfCeiling : Nat := 0
  exposure : Nat := 0
  riskBudgetCeiling : Nat := 0
  riskExposureRemaining : Nat := 0
  riskBudgetExceeded : Bool := false
  outOfScopeGuarantees : Nat := 0
  outOfScopeDemand : Nat := 0
  degradedResources : Nat := 0
  failedResources : Nat := 0
  bindingConstraint : Constraint := .none
  approachingLimit : Bool := false
  arithmeticClosed : Bool := true
  deriving DecidableEq, Inhabited

structure CorrectiveIntent where
  kind : CorrectiveKind := .none
  target : CorrectiveTarget := .domain
  domain : OversubscriptionDomainId := {}
  resource : ResourceId := {}
  pool : PoolId := {}
  serviceClass : ServiceClassId := {}
  amountUnits : Nat := 0
  reason : ReasonCode := .none
  rationale : String := ""
  deriving DecidableEq

structure EvaluationResult where
  outcome : Outcome := .unknown
  reason : ReasonCode := .none
  detail : String := ""
  accounting : DomainAccounting := {}
  resources : List ResourceAccounting := []
  intents : List CorrectiveIntent := []
  notes : List String := []
  authority : AuthorityVector := {}
  authorityValid : Bool := false
  newOversubscriptionAuthorized : Bool := false
  authorizedIncrementUnits : Nat := 0
  fenceRequired : Bool := false
  resultDigest : Digest := Digest.zero
  deriving DecidableEq, Inhabited

/-! ## Result digest -/

def addAccounting (h : CanonicalHasher) (a : DomainAccounting) : CanonicalHasher :=
  let h := (h.addU64 a.domain.value).addU64 a.pool.value
  let h := ((h.addNat a.physicalCapacity).addNat a.usableCapacity).addNat a.effectiveUsableCapacity
  let h := ((h.addNat a.guaranteesTotal).addNat a.emergencyReserve).addNat a.minProtectedHeadroom
  let h := (h.addNat a.protectedRequired).addNat a.floorRequired
  let h := (h.addU64 a.configuredRatio.num).addU64 a.configuredRatio.den
  let h := (h.addU64 a.effectiveRatio.num).addU64 a.effectiveRatio.den
  let h := (h.addBool a.ratioReducedByDegradation).addNat a.ceilingTotal
  let h := ((h.addNat a.contingentCeiling).addNat a.contingentCommitted).addNat a.contingentPending
  let h := ((h.addNat a.burstCommitted).addNat a.guaranteedAdmitted).addNat a.contingentFree
  let h := ((h.addNat a.committedTotal).addNat a.overage).addNat a.protectedHeadroom
  let h := (h.addNat a.usedPpmOfCeiling).addNat a.exposure
  let h := (h.addNat a.riskBudgetCeiling).addNat a.riskExposureRemaining
  let h := (h.addBool a.riskBudgetExceeded).addNat a.outOfScopeGuarantees
  let h := (h.addNat a.outOfScopeDemand).addU32 (UInt32.ofNat a.degradedResources)
  let h := h.addU32 (UInt32.ofNat a.failedResources)
  let h := h.addU32 (UInt32.ofNat a.bindingConstraint.ctorIdx)
  h.addBool a.arithmeticClosed

def addResourceAccounting (h : CanonicalHasher) (r : ResourceAccounting) : CanonicalHasher :=
  let h := (h.addU64 r.resource.value).addU32 r.health.toRaw
  let h := ((h.addNat r.effectiveUsableCapacity).addNat r.guarantees).addNat r.contingentCommitted
  let h := (h.addNat r.ceiling).addNat r.contingentCeiling
  (h.addNat r.contingentFree).addNat r.overage

def addCorrectiveIntent (h : CanonicalHasher) (i : CorrectiveIntent) : CanonicalHasher :=
  let h := h.addU32 (UInt32.ofNat i.kind.ctorIdx)
  let h := h.addU32 (UInt32.ofNat i.target.ctorIdx)
  (h.addNat i.amountUnits).addU32 (UInt32.ofNat i.reason.ctorIdx)

def evaluationResultDigest (result : EvaluationResult) : Digest :=
  let h : CanonicalHasher := CanonicalHasher.addText {} "oversub.result.v1"
  let h := h.addU32 (UInt32.ofNat result.outcome.ctorIdx)
  let h := h.addU32 (UInt32.ofNat result.reason.ctorIdx)
  let h := addAccounting h result.accounting
  let h := result.resources.foldl addResourceAccounting (h.addNat result.resources.length)
  let h := result.intents.foldl addCorrectiveIntent (h.addNat result.intents.length)
  let h := (h.addBool result.authorityValid).addBool result.newOversubscriptionAuthorized
  let h := (h.addNat result.authorizedIncrementUnits).addBool result.fenceRequired
  (h.addDigest result.authority.inputDigest).digest

/-! ## Building a result -/

/-- The grant follows from the outcome alone; the digest comes last. -/
def finalizeEvaluationResult (result : EvaluationResult) : EvaluationResult :=
  let new := result.outcome.allowsNewAuthority
  let result := { result with
    authorityValid := result.outcome.isAuthoritative
    newOversubscriptionAuthorized := new
    authorizedIncrementUnits := if new then result.accounting.contingentFree else 0 }
  { result with resultDigest := evaluationResultDigest result }

/-- Intents beyond the policy's limit are dropped. -/
def addIntent (limits : PolicyLimits) (intents : List CorrectiveIntent) (intent : CorrectiveIntent) :
    List CorrectiveIntent :=
  if limits.maxCorrectiveIntents.toNat ≤ intents.length then intents else intents ++ [intent]

/-- Notes beyond the policy's limit are dropped. -/
def note (limits : PolicyLimits) (notes : List String) (text : String) : List String :=
  if limits.maxExplanationLines.toNat ≤ notes.length then notes else notes ++ [text]

def baseIntent (domain : DomainConfig) (kind : CorrectiveKind) (target : CorrectiveTarget)
    (reason : ReasonCode) (rationale : String) : CorrectiveIntent where
  kind := kind
  target := target
  domain := domain.id
  pool := domain.pool
  reason := reason
  rationale := rationale

def Outcome.requiresFence : Outcome → Bool
  | .emergencyReduction | .policyRejected | .conflictingInput => true
  | _ => false

section

variable {result : EvaluationResult}

@[simp] theorem finalize_outcome :
    (finalizeEvaluationResult result).outcome = result.outcome := rfl

@[simp] theorem finalize_reason : (finalizeEvaluationResult result).reason = result.reason := rfl

@[simp] theorem finalize_accounting :
    (finalizeEvaluationResult result).accounting = result.accounting := rfl

@[simp] theorem finalize_intents :
    (finalizeEvaluationResult result).intents = result.intents := rfl

@[simp] theorem finalize_authority :
    (finalizeEvaluationResult result).authority = result.authority := rfl

@[simp] theorem finalize_fenceRequired :
    (finalizeEvaluationResult result).fenceRequired = result.fenceRequired := rfl

@[simp] theorem finalize_increment :
    (finalizeEvaluationResult result).authorizedIncrementUnits =
      if result.outcome.allowsNewAuthority then result.accounting.contingentFree else 0 := rfl

end

/-! ## Refusals -/

/-- An evaluation that ends before its outcome is decided, with the
accounting as it stands.  A refusal never carries authority. -/
structure Refusal where
  outcome : Outcome
  reason : ReasonCode
  detail : String
  accounting : DomainAccounting
  severe : 5 ≤ outcome.severity := by decide

namespace DomainAccounting

def unknown (acc : DomainAccounting) (reason : ReasonCode) (detail : String) : Refusal where
  outcome := .unknown
  reason := reason
  detail := detail
  accounting := acc

def stale (acc : DomainAccounting) (reason : ReasonCode) (detail : String) : Refusal where
  outcome := .stale
  reason := reason
  detail := detail
  accounting := acc

def conflicting (acc : DomainAccounting) (reason : ReasonCode) (detail : String) : Refusal where
  outcome := .conflictingInput
  reason := reason
  detail := detail
  accounting := acc

end DomainAccounting

/-- The intents of `reject`, by outcome. -/
def rejectIntents (limits : PolicyLimits) (domain : DomainConfig) (outcome : Outcome)
    (reason : ReasonCode) (intents : List CorrectiveIntent) : List CorrectiveIntent :=
  match outcome with
  | .stale | .unknown =>
      addIntent limits intents
        (baseIntent domain .revalidateEvidence .domain
          (if reason = .none then .evidenceIncomplete else reason)
          "authority cannot be established from the current evidence; revalidate")
  | .conflictingInput =>
      let intents := addIntent limits intents
        (baseIntent domain .resolveConflictingEvidence .domain .evidenceContradictory
          "evidence is structurally contradictory; resolve before any authority")
      addIntent limits intents
        (baseIntent domain .revalidateEvidence .domain .evidenceContradictory
          "revalidate after the contradiction is resolved")
  | .policyRejected =>
      addIntent limits intents
        (baseIntent domain .fenceOversubscribedAdmission .domain reason
          "policy does not authorize the current oversubscription state")
  | _ => intents

/-- `reject`: the refusal, with what the result holds by then. -/
def reject (limits : PolicyLimits) (domain : DomainConfig) (authority : AuthorityVector)
    (resources : List ResourceAccounting) (notes : List String) (x : Refusal) :
    EvaluationResult :=
  finalizeEvaluationResult {
    outcome := x.outcome
    reason := x.reason
    detail := x.detail
    accounting := x.accounting
    resources := resources
    intents := rejectIntents limits domain x.outcome x.reason []
    notes := notes
    authority := authority
    fenceRequired := x.outcome.requiresFence }

/-- A check that refuses the evaluation when it fails. -/
def require (c : Prop) [Decidable c] (x : Refusal) : Except Refusal Unit :=
  if c then .ok () else .error x

/-- A checked operation that refuses the evaluation when it fails. -/
def orRefuse {α : Type} (o : Option α) (x : Refusal) : Except Refusal α :=
  match o with
  | none => .error x
  | some a => .ok a

section

variable {c : Prop} [Decidable c] {x y : Refusal} {α : Type} {o : Option α} {a : α}

@[simp] theorem require_eq_ok {u : Unit} : require c x = .ok u ↔ c := by
  unfold require
  split <;> simp_all

@[simp] theorem require_eq_error : require c x = .error y ↔ ¬c ∧ x = y := by
  unfold require
  split <;> simp_all

@[simp] theorem orRefuse_eq_ok : orRefuse o x = .ok a ↔ o = some a := by
  cases o <;> simp [orRefuse]

@[simp] theorem orRefuse_eq_error : orRefuse o x = .error y ↔ o = none ∧ x = y := by
  cases o <;> simp [orRefuse]

end

@[simp] theorem reject_outcome {limits : PolicyLimits} {domain : DomainConfig}
    {authority : AuthorityVector} {resources : List ResourceAccounting} {notes : List String}
    {x : Refusal} :
    (reject limits domain authority resources notes x).outcome = x.outcome := rfl

@[simp] theorem reject_accounting {limits : PolicyLimits} {domain : DomainConfig}
    {authority : AuthorityVector} {resources : List ResourceAccounting} {notes : List String}
    {x : Refusal} :
    (reject limits domain authority resources notes x).accounting = x.accounting := rfl

end Oversub
