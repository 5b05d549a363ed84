import Mathlib.Data.List.Sort
import Oversub.Lib.Tally
import Oversub.Engine.Result

/-!
# Oversub.Engine.Gather

The first half of `evaluate_domain` (`engine.cpp`): the evidence is bound to
the authority the runtime owns, checked for freshness and size, and folded
into per-resource and domain totals.  Every stage may refuse the evaluation.

```
bindEvidence → checkFreshness → checkBounds → gatherMembers
  → gatherGuarantees → guaranteesTotal → gatherDemand → gatherTotals
```

The stages run over the arithmetic `A`.  The nested maps of the source, keyed
by resource and then by service class, are tables keyed by the pair.
-/

namespace Oversub

open Tally

/-! ## Per-resource accumulators -/

structure ResourceAccum where
  capacity : ResourceCapacity
  effectiveUsable : Nat := 0
  guarantees : Nat := 0
  contingentCommitted : Nat := 0
  contingentPending : Nat := 0
  committed : Nat := 0
  deriving DecidableEq

/-- The accumulator `index_by_resource` leads to, if the resource is a member. -/
def findResource (resources : List ResourceAccum) (id : ResourceId) : Option ResourceAccum :=
  resources.find? (·.capacity.resource = id)

def setResource (resources : List ResourceAccum) (id : ResourceId) (ra : ResourceAccum) :
    List ResourceAccum :=
  resources.modify (resources.findIdx (·.capacity.resource = id)) fun _ => ra

/-! ## Binding -/

/-- The three snapshots, all present. -/
structure Snapshots where
  cap : CapacitySnapshot
  res : ReservationSnapshot
  adm : AdmissionSnapshot

/-- The accounting every evaluation starts from. -/
def initialAccounting (A : Arith) (domain : DomainConfig) : DomainAccounting where
  domain := domain.id
  pool := domain.pool
  configuredRatio := domain.configuredRatio
  effectiveRatio := domain.configuredRatio
  configuredRatioPpm := A.ratioPpm domain.configuredRatio
  effectiveRatioPpm := A.ratioPpm domain.configuredRatio
  emergencyReserve := domain.emergencyReserveUnits.toNat
  minProtectedHeadroom := domain.minProtectedHeadroomUnits.toNat

def initialAuthority (policy : OversubscriptionPolicy) (domain : DomainConfig)
    (expectation : AuthorityExpectation) : AuthorityVector where
  domain := domain.id
  domainGeneration := domain.generation
  policy := policy.id
  policyGeneration := policy.generation
  riskBudget := policy.riskBudget.id
  riskBudgetGeneration := policy.riskBudget.generation
  epoch := expectation.epoch

def missingEvidence (evidence : DomainEvidence) : String :=
  (if evidence.capacity.isNone then "capacity " else "") ++
    (if evidence.reservations.isNone then "reservation " else "") ++
    (if evidence.admissions.isNone then "admission " else "")

/-- A snapshot's generation must be the authoritative one. -/
def requireGeneration (acc : DomainAccounting) (snapshot authoritative : UInt64) (what : String) :
    Except Refusal Unit :=
  require (snapshot = authoritative)
    (acc.stale (if authoritative < snapshot then .generationAheadOfRuntime
        else .snapshotGenerationMismatch)
      (what ++ " snapshot generation does not match the authoritative generation"))

def bindEvidence (policy : OversubscriptionPolicy) (domain : DomainConfig)
    (expectation : AuthorityExpectation) (evidence : DomainEvidence) (acc : DomainAccounting) :
    Except Refusal Snapshots :=
  match evidence.capacity, evidence.reservations, evidence.admissions with
  | some cap, some res, some adm => do
      require (expectation.epoch.valid = true)
        (acc.unknown .generationUnset "runtime fabric epoch is unset")
      require (expectation.domainGeneration.valid && expectation.policyGeneration.valid &&
          expectation.capacityGeneration.valid && expectation.reservationGeneration.valid &&
          expectation.admissionGeneration.valid && expectation.riskBudgetGeneration.valid)
        (acc.unknown .generationUnset "runtime authority generations are unset")
      require (cap.domain = domain.id ∧ res.domain = domain.id ∧ adm.domain = domain.id)
        (acc.conflicting .evidenceContradictory "evidence was published for a different domain")
      require (cap.epoch = expectation.epoch ∧ res.epoch = expectation.epoch ∧
          adm.epoch = expectation.epoch)
        (acc.stale .epochMismatch "evidence epoch does not match the fabric epoch")
      require (domain.generation = expectation.domainGeneration)
        (acc.stale .domainGenerationMismatch
          "domain configuration generation changed since the evaluation was requested")
      require (policy.generation = expectation.policyGeneration)
        (acc.stale .policyGenerationMismatch
          "policy generation changed since the evaluation was requested")
      require (policy.riskBudget.generation = expectation.riskBudgetGeneration)
        (acc.stale .policyRiskBudgetGenerationMismatch
          "risk budget generation changed since the evaluation was requested")
      requireGeneration acc cap.generation.value expectation.capacityGeneration.value "capacity"
      requireGeneration acc res.generation.value expectation.reservationGeneration.value
        "reservation"
      requireGeneration acc adm.generation.value expectation.admissionGeneration.value "admission"
      .ok ⟨cap, res, adm⟩
  | _, _, _ =>
      .error (acc.unknown .evidenceIncomplete ("missing evidence: " ++ missingEvidence evidence))

/-- The payload digest a snapshot carries, or its canonical one. -/
def payloadDigestOr (provenance : Provenance) (computed : Digest) : Digest :=
  if provenance.payloadDigest.isZero then computed else provenance.payloadDigest

def inputDigest (policy : OversubscriptionPolicy) (domain : DomainConfig)
    (expectation : AuthorityExpectation) (snapshots : Snapshots) (tick : UInt64) : Digest :=
  let ⟨cap, res, adm⟩ := snapshots
  let h : CanonicalHasher := CanonicalHasher.addText {} "oversub.input.v1"
  let h := (h.addU64 domain.id.value).addU64 domain.generation.value
  let h := (h.addU64 policy.id.value).addU64 policy.generation.value
  let h := (h.addU64 policy.riskBudget.generation.value).addU64 expectation.epoch.value
  let h := h.addU64 tick
  let h := h.addDigest (payloadDigestOr cap.provenance (capacitySnapshotDigest cap))
  let h := h.addDigest (payloadDigestOr res.provenance (reservationSnapshotDigest res))
  (h.addDigest (payloadDigestOr adm.provenance (admissionSnapshotDigest adm))).digest

/-- The authority vector once the evidence is bound. -/
def boundAuthority (policy : OversubscriptionPolicy) (domain : DomainConfig)
    (expectation : AuthorityExpectation) (snapshots : Snapshots) (tick : UInt64) :
    AuthorityVector :=
  { initialAuthority policy domain expectation with
    capacityGeneration := snapshots.cap.generation
    reservationGeneration := snapshots.res.generation
    admissionGeneration := snapshots.adm.generation
    inputDigest := inputDigest policy domain expectation snapshots tick }

/-! ## Freshness and bounds -/

/-- `stale_or_future`: observed no later than the tick, within its budget. -/
def requireFresh (acc : DomainAccounting) (tick observed budget : UInt64) (what : String) :
    Except Refusal Unit := do
  require (observed ≤ tick)
    (acc.conflicting .evidenceFutureDated (what ++ " was observed after the evaluation tick"))
  require (tick - observed ≤ budget)
    (acc.stale .snapshotStale
      (what ++ " is stale: age " ++ toString (tick - observed).toNat ++
        " ticks exceeds the budget of " ++ toString budget.toNat))

def checkFreshness (policy : OversubscriptionPolicy) (snapshots : Snapshots) (tick : UInt64)
    (acc : DomainAccounting) : Except Refusal Unit := do
  requireFresh acc tick snapshots.cap.observedTick policy.maxCapacityAgeTicks "capacity evidence"
  requireFresh acc tick snapshots.res.observedTick policy.maxReservationAgeTicks
    "reservation evidence"
  requireFresh acc tick snapshots.adm.observedTick policy.maxAdmissionAgeTicks
    "admission evidence"

def checkBounds (limits : PolicyLimits) (snapshots : Snapshots) (acc : DomainAccounting) :
    Except Refusal Unit := do
  require (snapshots.cap.resources.length ≤ kHardMaxResourcesPerSnapshot)
    (acc.conflicting .snapshotTooLarge "capacity snapshot exceeds the structural bound")
  require (snapshots.res.guarantees.length ≤ limits.maxGuaranteesPerSnapshot.toNat ∧
      snapshots.res.guarantees.length ≤ kHardMaxGuaranteesPerSnapshot)
    (acc.conflicting .snapshotTooLarge "reservation snapshot exceeds the policy bound")
  require (snapshots.adm.records.length ≤ limits.maxDemandRecordsPerSnapshot.toNat ∧
      snapshots.adm.records.length ≤ kHardMaxDemandRecordsPerSnapshot)
    (acc.conflicting .snapshotTooLarge "admission snapshot exceeds the policy bound")

/-! ## Members -/

/-- `capacity_by_resource`, once no emplacement has found its key taken. -/
def capacityByResource (cap : CapacitySnapshot) (id : ResourceId) : Option ResourceCapacity :=
  cap.resources.find? (·.resource = id)

def sortMembers (members : List ResourceId) : List ResourceId :=
  members.insertionSort fun a b => a.value ≤ b.value

structure MemberState where
  acc : DomainAccounting
  resources : List ResourceAccum

/-- One member resource.  A health that names no enumerator passes the check
for `Unknown` and matches no arm of the switch, so it counts as no capacity. -/
def memberStep (A : Arith) (domain : DomainConfig) (cap : CapacitySnapshot) (s : MemberState)
    (member : ResourceId) : Except Refusal MemberState := do
  let rc ← orRefuse (capacityByResource cap member)
    (s.acc.unknown .resourceMissingFromCapacitySnapshot
      ("capacity evidence does not cover member resource " ++ member.toString))
  require (rc.pool = domain.pool)
    (s.acc.conflicting .resourcePoolMismatch
      ("member resource " ++ member.toString ++ " is reported in a different pool"))
  require (rc.health ≠ .unknown)
    (s.acc.unknown .resourceHealthUnknown
      ("member resource " ++ member.toString ++ " has unknown health"))
  match rc.health with
  | .healthy =>
      .ok { s with resources := s.resources ++
              [{ capacity := rc, effectiveUsable := rc.usableCapacity.toNat }] }
  | .degraded => do
      let usable ← orRefuse (A.ppmOf rc.usableCapacity.toNat rc.degradedCapacityPpm.toNat)
        (s.acc.unknown .arithmeticOverflow "degraded capacity scaling overflowed")
      .ok { acc := { s.acc with degradedResources := s.acc.degradedResources + 1 }
            resources := s.resources ++ [{ capacity := rc, effectiveUsable := usable }] }
  | .failed =>
      .ok { acc := { s.acc with failedResources := s.acc.failedResources + 1 }
            resources := s.resources ++ [{ capacity := rc }] }
  | .unknown | .unnamed _ _ =>
      .ok { s with resources := s.resources ++ [{ capacity := rc }] }

def gatherMembers (A : Arith) (domain : DomainConfig) (cap : CapacitySnapshot)
    (acc : DomainAccounting) : Except Refusal MemberState := do
  require (cap.resources.map (·.resource.value)).Nodup
    (acc.conflicting .snapshotDuplicate "capacity snapshot repeats a resource identity")
  (sortMembers domain.members).foldlM (memberStep A domain cap) { acc, resources := [] }

def resourceSetFold (resources : List ResourceAccum) : UInt64 :=
  (resources.foldl
    (fun h ra => (h.addU64 ra.capacity.resource.value).addU64 ra.capacity.generation.value)
    (CanonicalHasher.addText {} "oversub.resourceset.v1")).fold64

/-! ## Guarantees -/

/-- Totals by resource and service class. -/
abbrev ClassTable := Table (ResourceId × ServiceClassId)

structure GuaranteeState where
  acc : DomainAccounting
  resources : List ResourceAccum
  seen : List ReservationId := []
  byClass : ClassTable := ∅

def guaranteeStep (A : Arith) (index : PolicyIndex) (domain : DomainConfig) (s : GuaranteeState)
    (g : Guarantee) : Except Refusal GuaranteeState := do
  require (g.reservation ∉ s.seen)
    (s.acc.conflicting .guaranteeDuplicate
      ("reservation snapshot repeats reservation " ++ g.reservation.toString))
  let s := { s with seen := g.reservation :: s.seen }
  match findResource s.resources g.resource with
  | none =>
      .ok { s with acc := { s.acc with
              outOfScopeGuarantees :=
                A.addSat s.acc.outOfScopeGuarantees g.guaranteedCapacity.toNat } }
  | some ra => do
      require (g.protectedObligation = true ∧ g.preemptible = false)
        (s.acc.conflicting .guaranteeContradiction
          ("guarantee " ++ g.reservation.toString ++ " is not a protected obligation"))
      require (g.pool = domain.pool)
        (s.acc.conflicting .resourcePoolMismatch
          ("guarantee " ++ g.reservation.toString ++ " is reported in a different pool"))
      require ((index.serviceClass g.serviceClass).isSome = true)
        (s.acc.conflicting .guaranteeServiceClassUnknown
          ("guarantee " ++ g.reservation.toString ++ " references an unknown service class"))
      let guarantees ← orRefuse (A.addChecked ra.guarantees g.guaranteedCapacity.toNat)
        (s.acc.unknown .reservationSumOverflow "guaranteed capacity sum overflowed")
      let key := (g.resource, g.serviceClass)
      let _ ← orRefuse (A.addChecked (get s.byClass key) g.guaranteedCapacity.toNat)
        (s.acc.unknown .reservationSumOverflow "guaranteed capacity sum overflowed")
      .ok { s with
            resources := setResource s.resources g.resource { ra with guarantees }
            byClass := add s.byClass key g.guaranteedCapacity.toNat }

def gatherGuarantees (A : Arith) (index : PolicyIndex) (domain : DomainConfig)
    (res : ReservationSnapshot) (s : MemberState) : Except Refusal GuaranteeState :=
  res.guarantees.foldlM (guaranteeStep A index domain) { acc := s.acc, resources := s.resources }

/-- The checked sum of the guarantees of all members. -/
def guaranteesTotal (A : Arith) (s : GuaranteeState) : Except Refusal Nat :=
  s.resources.foldlM
    (fun total ra => orRefuse (A.addChecked total ra.guarantees)
      (s.acc.unknown .reservationSumOverflow "guaranteed capacity total overflowed")) 0

/-! ## Demand -/

structure DemandState where
  acc : DomainAccounting
  resources : List ResourceAccum
  seen : List AdmissionId := []
  contingentByClass : Table ServiceClassId := ∅
  admittedByClass : ClassTable := ∅
  ineligibleAmount : Nat := 0
  ineligibleClass : ServiceClassId := {}

/-- A record of kind `Guaranteed`. -/
def guaranteedDemand (A : Arith) (s : DemandState) (rec : DemandRecord) :
    Except Refusal DemandState := do
  let committed := rec.committedCapacity.toNat
  let admitted ← orRefuse (A.addChecked s.acc.guaranteedAdmitted committed)
    (s.acc.unknown .admissionSumOverflow "guaranteed admitted total overflowed")
  let acc := { s.acc with guaranteedAdmitted := admitted }
  let key := (rec.resource, rec.serviceClass)
  let _ ← orRefuse (A.addChecked (get s.admittedByClass key) committed)
    (acc.unknown .admissionSumOverflow "guaranteed admitted total overflowed")
  .ok { s with acc, admittedByClass := add s.admittedByClass key committed }

/-- A record of kind `Contingent` or `Burst`, on the member `ra`. -/
def contingentDemand (A : Arith) (cls : ServiceClassRef) (ra : ResourceAccum) (s : DemandState)
    (rec : DemandRecord) : Except Refusal DemandState :=
  let committed := rec.committedCapacity.toNat
  let pending := rec.pendingCapacity.toNat
  if cls.oversubscriptionEligible = false then
    .ok { s with
          ineligibleAmount := A.addSat s.ineligibleAmount (A.addSat committed pending)
          ineligibleClass := rec.serviceClass }
  else do
    let onResource ← orRefuse (A.addChecked ra.contingentCommitted committed)
      (s.acc.unknown .admissionSumOverflow "contingent committed total overflowed")
    let total ← orRefuse (A.addChecked s.acc.contingentCommitted committed)
      (s.acc.unknown .admissionSumOverflow "contingent committed total overflowed")
    let acc := { s.acc with contingentCommitted := total }
    let pendingOnResource ← orRefuse (A.addChecked ra.contingentPending pending)
      (acc.unknown .admissionSumOverflow "pending demand overflowed")
    let pendingTotal ← orRefuse (A.addChecked acc.contingentPending pending)
      (acc.unknown .admissionSumOverflow "pending demand overflowed")
    let acc := { acc with contingentPending := pendingTotal }
    let burst ←
      if rec.kind = .burst then
        orRefuse (A.addChecked acc.burstCommitted committed)
          (acc.unknown .admissionSumOverflow "burst committed overflowed")
      else .ok acc.burstCommitted
    let acc := { acc with burstCommitted := burst }
    let _ ← orRefuse (A.addChecked (get s.contingentByClass rec.serviceClass) committed)
      (acc.unknown .admissionSumOverflow "contingent committed total overflowed")
    .ok { s with
          acc
          resources := setResource s.resources rec.resource
            { ra with contingentCommitted := onResource, contingentPending := pendingOnResource }
          contingentByClass := add s.contingentByClass rec.serviceClass committed }

/-- One demand record.  A kind that names no enumerator matches no arm of the
switch, and the record leaves no trace. -/
def demandStep (A : Arith) (index : PolicyIndex) (domain : DomainConfig) (s : DemandState)
    (rec : DemandRecord) : Except Refusal DemandState := do
  require (rec.admission ∉ s.seen)
    (s.acc.conflicting .admissionDuplicate
      ("admission snapshot repeats admission " ++ rec.admission.toString))
  let s := { s with seen := rec.admission :: s.seen }
  match findResource s.resources rec.resource with
  | none =>
      .ok { s with acc := { s.acc with
              outOfScopeDemand := A.addSat s.acc.outOfScopeDemand rec.committedCapacity.toNat } }
  | some ra => do
      require (rec.pool = domain.pool)
        (s.acc.conflicting .resourcePoolMismatch
          ("admission " ++ rec.admission.toString ++ " is reported in a different pool"))
      let cls ← orRefuse (index.serviceClass rec.serviceClass)
        (s.acc.conflicting .admissionServiceClassUnknown
          ("admission " ++ rec.admission.toString ++ " references an unknown service class"))
      match rec.kind with
      | .guaranteed => guaranteedDemand A s rec
      | .contingent | .burst => contingentDemand A cls ra s rec
      | .unknown =>
          .error (s.acc.conflicting .admissionKindConflict
            ("admission " ++ rec.admission.toString ++ " has no kind"))
      | .unnamed _ _ => .ok s

def gatherDemand (A : Arith) (index : PolicyIndex) (domain : DomainConfig)
    (adm : AdmissionSnapshot) (acc : DomainAccounting) (resources : List ResourceAccum) :
    Except Refusal DemandState :=
  adm.records.foldlM (demandStep A index domain) { acc, resources }

/-! ## Hash-table order -/

/-- The orders in which the hash tables of an evaluation are traversed: any
arrangement of their entries. -/
structure MapOrder where
  admitted : List (Σ _ : ResourceId × ServiceClassId, Nat) →
    List (Σ _ : ResourceId × ServiceClassId, Nat)
  contingent : List (Σ _ : ServiceClassId, Nat) → List (Σ _ : ServiceClassId, Nat)
  admitted_perm : ∀ l, (admitted l).Perm l
  contingent_perm : ∀ l, (contingent l).Perm l

/-- The order in which the tables list their own entries. -/
def MapOrder.listed : MapOrder where
  admitted l := l
  contingent l := l
  admitted_perm _ := .refl _
  contingent_perm _ := .refl _

/-- What the guaranteed-kind admissions exceed their reservations by. -/
def unmappedGuaranteed (A : Arith) (order : MapOrder) (admitted backing : ClassTable) : Nat :=
  (order.admitted admitted.entries).foldl
    (fun unmapped e =>
      let backed := get backing e.1
      if backed < e.2 then A.addSat unmapped (e.2 - backed) else unmapped) 0

/-! ## Totals -/

structure TotalsState where
  acc : DomainAccounting
  resources : List ResourceAccum
  closed : Bool

/-- One member of the totals loop.  The last sum of the source goes to
`ra.contingent_committed`, so `ra.committed` stays zero. -/
def totalsStep (A : Arith) (s : TotalsState) (ra : ResourceAccum) : TotalsState :=
  let effective := A.addChecked s.acc.effectiveUsableCapacity ra.effectiveUsable
  let committed := A.addChecked ra.committed ra.guarantees
  { acc := { s.acc with
      physicalCapacity := A.addSat s.acc.physicalCapacity ra.capacity.physicalCapacity.toNat
      usableCapacity := A.addSat s.acc.usableCapacity ra.capacity.usableCapacity.toNat
      effectiveUsableCapacity := effective.getD s.acc.effectiveUsableCapacity }
    resources := s.resources ++
      [{ ra with contingentCommitted := committed.getD ra.contingentCommitted }]
    closed := s.closed && effective.isSome && committed.isSome }

def gatherTotals (A : Arith) (limits : PolicyLimits) (acc : DomainAccounting)
    (resources : List ResourceAccum) : Except Refusal TotalsState := do
  let s := resources.foldl (totalsStep A) { acc, resources := [], closed := true }
  require (s.acc.physicalCapacity ≤ limits.maxCapacityUnits.toNat ∧
      s.acc.usableCapacity ≤ limits.maxCapacityUnits.toNat)
    (s.acc.conflicting .resourceCapacityInvalid
      "domain capacity exceeds the policy capacity bound")
  .ok s

/-! ## All of it -/

/-- What the evidence adds up to, when nothing refused the evaluation. -/
structure Gathered where
  acc : DomainAccounting
  authority : AuthorityVector
  resources : List ResourceAccum
  contingentByClass : Table ServiceClassId
  ineligibleAmount : Nat
  ineligibleClass : ServiceClassId
  unmapped : Nat
  closed : Bool

/-- The stages over bound, fresh and bounded evidence. -/
def gatherEvidence (A : Arith) (order : MapOrder) (policy : OversubscriptionPolicy)
    (index : PolicyIndex) (domain : DomainConfig) (snapshots : Snapshots)
    (authority : AuthorityVector) (members : MemberState) : Except Refusal Gathered := do
  let guarantees ← gatherGuarantees A index domain snapshots.res members
  let total ← guaranteesTotal A guarantees
  let demand ← gatherDemand A index domain snapshots.adm
    { guarantees.acc with guaranteesTotal := total } guarantees.resources
  let totals ← gatherTotals A policy.limits demand.acc demand.resources
  .ok { acc := totals.acc
        authority := authority
        resources := totals.resources
        contingentByClass := demand.contingentByClass
        ineligibleAmount := demand.ineligibleAmount
        ineligibleClass := demand.ineligibleClass
        unmapped := unmappedGuaranteed A order demand.admittedByClass guarantees.byClass
        closed := totals.closed }

/-- A refusal before the boundary: no breakdown and no notes yet. -/
def stop (policy : OversubscriptionPolicy) (domain : DomainConfig) (authority : AuthorityVector) :
    Refusal → EvaluationResult :=
  reject policy.limits domain authority [] []

def gather (A : Arith) (order : MapOrder) (policy : OversubscriptionPolicy) (index : PolicyIndex)
    (domain : DomainConfig) (expectation : AuthorityExpectation) (evidence : DomainEvidence)
    (tick : UInt64) : Except EvaluationResult Gathered := do
  let acc := initialAccounting A domain
  let snapshots ← (bindEvidence policy domain expectation evidence acc).mapError
    (stop policy domain (initialAuthority policy domain expectation))
  let authority := boundAuthority policy domain expectation snapshots tick
  (checkFreshness policy snapshots tick acc).mapError (stop policy domain authority)
  (checkBounds policy.limits snapshots acc).mapError (stop policy domain authority)
  let members ← (gatherMembers A domain snapshots.cap acc).mapError (stop policy domain authority)
  let authority := { authority with resourceSetFold := resourceSetFold members.resources }
  (gatherEvidence A order policy index domain snapshots authority members).mapError
    (stop policy domain authority)

end Oversub
