import Mathlib.Data.List.Sort
import Oversub.Checked
import Oversub.Ids
import Oversub.Status
import Oversub.Digest

/-!
# Oversub.Policy

Policy, contention domains and the risk budget (`policy.hpp`, `policy.cpp`):
the configuration, its canonical digest, its validation and the sorted lookup
tables over it.

`validatePolicy` is the source's sequence of checks; `Installable` is what an
accepted policy is known to satisfy, in the form the engine's proofs use it.
-/

namespace Oversub

/-! ## Hard bounds -/

def kHardMaxDomains : Nat := 4096
def kHardMaxResourcesPerDomain : Nat := 4096
def kHardMaxServiceClasses : Nat := 4096
def kHardMaxCorrectiveIntents : Nat := 64
def kHardMaxExplanationLines : Nat := 4096
def kHardMaxExplanationBytes : Nat := 262144
def kHardMaxNameLength : Nat := 128
def kHardMaxRatioTermBound : Nat := 1000000
def kHardMaxExposurePpm : Nat := 10000000
def kHardMaxFreshnessTicks : Nat := 2 ^ 40
def kHardMaxCooldownTicks : Nat := 2 ^ 32
def kHardMaxConfirmations : Nat := 64
def kHardMaxGuaranteesPerSnapshot : Nat := 65536
def kHardMaxDemandRecordsPerSnapshot : Nat := 65536

/-! ## Configuration -/

structure ServiceClassRef where
  id : ServiceClassId := {}
  name : List UInt8 := []
  priority : PriorityRef := {}
  oversubscriptionEligible : Bool := true
  riskWeightPpm : UInt32 := 1000000
  hasContingentShareCap : Bool := false
  contingentShareCapPpm : UInt64 := 0
  deriving DecidableEq, Inhabited

structure RiskBudgetPolicy where
  id : RiskBudgetId := {}
  generation : RiskBudgetGeneration := {}
  hasAbsolute : Bool := false
  maxExposureUnits : UInt64 := 0
  hasPpm : Bool := false
  maxExposurePpm : UInt64 := 0
  deriving DecidableEq, Inhabited

structure OversubscriptionThresholds where
  warnUsedPpm : UInt64 := 900000
  reduceOveragePpm : UInt64 := 1
  emergencyOveragePpm : UInt64 := 100000
  deriving DecidableEq, Inhabited

structure HysteresisPolicy where
  escalationConfirmations : UInt64 := 1
  deescalationConfirmations : UInt64 := 1
  cooldownTicks : UInt64 := 0
  deescalationMarginPpm : UInt64 := 0
  deriving DecidableEq, Inhabited

structure DomainConfig where
  id : OversubscriptionDomainId := {}
  generation : DomainGeneration := {}
  name : List UInt8 := []
  pool : PoolId := {}
  members : List ResourceId := []
  configuredRatio : Ratio := {}
  hasDegradedRatioCap : Bool := false
  degradedRatioCap : Ratio := {}
  emergencyReserveUnits : UInt64 := 0
  minProtectedHeadroomUnits : UInt64 := 0
  burstPoolEnabled : Bool := false
  burstPoolCapUnits : UInt64 := 0
  deriving DecidableEq, Inhabited

structure PolicyLimits where
  maxDomains : UInt32 := 256
  maxResourcesPerDomain : UInt32 := 256
  maxServiceClasses : UInt32 := 256
  maxGuaranteesPerSnapshot : UInt64 := 16384
  maxDemandRecordsPerSnapshot : UInt64 := 32768
  maxCorrectiveIntents : UInt32 := 8
  maxExplanationLines : UInt32 := 64
  maxExplanationBytes : UInt32 := 8192
  maxResourceBreakdown : UInt32 := 32
  maxCapacityUnits : UInt64 := UInt64.ofNat kHardMaxCapacityUnits
  deriving DecidableEq, Inhabited

structure OversubscriptionPolicy where
  id : OversubscriptionPolicyId := {}
  generation : PolicyGeneration := {}
  name : List UInt8 := []
  policyRatioCap : Ratio := {}
  domains : List DomainConfig := []
  serviceClasses : List ServiceClassRef := []
  riskBudget : RiskBudgetPolicy := {}
  thresholds : OversubscriptionThresholds := {}
  hysteresis : HysteresisPolicy := {}
  limits : PolicyLimits := {}
  maxCapacityAgeTicks : UInt64 := 1
  maxReservationAgeTicks : UInt64 := 1
  maxAdmissionAgeTicks : UInt64 := 1
  digest : Digest := Digest.zero
  deriving DecidableEq, Inhabited

/-! ## Sorted values -/

def sortValues (values : List UInt64) : List UInt64 := values.insertionSort (· ≤ ·)

/-- `std::adjacent_find` found an equal pair. -/
def adjacentEqual : List UInt64 → Bool
  | x :: y :: rest => x == y || adjacentEqual (y :: rest)
  | _ => false

def hasDuplicateValues (values : List UInt64) : Bool :=
  if values.length < 2 then false else adjacentEqual (sortValues values)

def sortedMemberValues (members : List ResourceId) : List UInt64 :=
  sortValues (members.map (·.value))

instance instIsTransUInt64Le : IsTrans UInt64 (· ≤ ·) := ⟨fun _ _ _ => UInt64.le_trans⟩
instance instTotalUInt64Le : Std.Total (α := UInt64) (· ≤ ·) := ⟨UInt64.le_total⟩

theorem adjacentEqual_eq_false {values : List UInt64} (hs : values.Pairwise (· ≤ ·)) :
    adjacentEqual values = false ↔ values.Nodup := by
  induction values with
  | nil => simp [adjacentEqual]
  | cons x rest ih =>
      cases rest with
      | nil => simp [adjacentEqual]
      | cons y rest =>
          obtain ⟨hx, hrest⟩ := List.pairwise_cons.mp hs
          rw [adjacentEqual, Bool.or_eq_false_iff, ih hrest, @List.nodup_cons _ x]
          refine and_congr_left fun _ => ?_
          rw [beq_eq_false_iff_ne, List.mem_cons, not_or]
          constructor
          · intro hxy
            refine ⟨hxy, fun hmem => hxy ?_⟩
            -- `y` stands between `x` and its second occurrence
            have hyx : y ≤ x := (List.pairwise_cons.mp hrest).1 x hmem
            exact UInt64.le_antisymm (hx y List.mem_cons_self) hyx
          · exact fun h => h.1

theorem hasDuplicateValues_eq_false {values : List UInt64} :
    hasDuplicateValues values = false ↔ values.Nodup := by
  unfold hasDuplicateValues
  split
  next hlen =>
    match values, hlen with
    | [], _ => simp
    | [x], _ => simp
  next =>
    rw [sortValues, adjacentEqual_eq_false (List.pairwise_insertionSort _ values)]
    exact (List.perm_insertionSort _ values).nodup_iff

/-! ## Digests -/

/-- The fields that both the policy digest and the domain digest cover. -/
def addDomainBoundary (h : CanonicalHasher) (d : DomainConfig) : CanonicalHasher :=
  let h := (h.addString d.name).addU64 d.pool.value
  let members := sortedMemberValues d.members
  let h := members.foldl CanonicalHasher.addU64 (h.addNat members.length)
  let h := (h.addU64 d.configuredRatio.num).addU64 d.configuredRatio.den
  let h := h.addBool d.hasDegradedRatioCap
  let h := (h.addU64 d.degradedRatioCap.num).addU64 d.degradedRatioCap.den
  let h := (h.addU64 d.emergencyReserveUnits).addU64 d.minProtectedHeadroomUnits
  (h.addBool d.burstPoolEnabled).addU64 d.burstPoolCapUnits

def addServiceClass (h : CanonicalHasher) (c : ServiceClassRef) : CanonicalHasher :=
  let h := ((h.addU64 c.id.value).addString c.name).addU32 c.priority.value
  let h := (h.addBool c.oversubscriptionEligible).addU32 c.riskWeightPpm
  (h.addBool c.hasContingentShareCap).addU64 c.contingentShareCapPpm

def sortDomains (domains : List DomainConfig) : List DomainConfig :=
  domains.insertionSort fun a b => a.id.value ≤ b.id.value

def sortServiceClasses (classes : List ServiceClassRef) : List ServiceClassRef :=
  classes.insertionSort fun a b => a.id.value ≤ b.id.value

def policyDigest (policy : OversubscriptionPolicy) : Digest :=
  let h : CanonicalHasher := CanonicalHasher.addText {} "oversub.policy.v1"
  let h := ((h.addU64 policy.id.value).addU64 policy.generation.value).addString policy.name
  let h := (h.addU64 policy.policyRatioCap.num).addU64 policy.policyRatioCap.den
  let h := (sortDomains policy.domains).foldl
    (fun h d => addDomainBoundary ((h.addU64 d.id.value).addU64 d.generation.value) d)
    (h.addNat policy.domains.length)
  let h := (sortServiceClasses policy.serviceClasses).foldl addServiceClass
    (h.addNat policy.serviceClasses.length)
  let risk := policy.riskBudget
  let h := (h.addU64 risk.id.value).addU64 risk.generation.value
  let h := (h.addBool risk.hasAbsolute).addU64 risk.maxExposureUnits
  let h := (h.addBool risk.hasPpm).addU64 risk.maxExposurePpm
  let th := policy.thresholds
  let h := ((h.addU64 th.warnUsedPpm).addU64 th.reduceOveragePpm).addU64 th.emergencyOveragePpm
  let hy := policy.hysteresis
  let h := (h.addU64 hy.escalationConfirmations).addU64 hy.deescalationConfirmations
  let h := (h.addU64 hy.cooldownTicks).addU64 hy.deescalationMarginPpm
  let lim := policy.limits
  let h := ((h.addU32 lim.maxDomains).addU32 lim.maxResourcesPerDomain).addU32 lim.maxServiceClasses
  let h := (h.addU64 lim.maxGuaranteesPerSnapshot).addU64 lim.maxDemandRecordsPerSnapshot
  let h := (h.addU32 lim.maxCorrectiveIntents).addU32 lim.maxExplanationLines
  let h := (h.addU32 lim.maxExplanationBytes).addU32 lim.maxResourceBreakdown
  let h := h.addU64 lim.maxCapacityUnits
  let h := (h.addU64 policy.maxCapacityAgeTicks).addU64 policy.maxReservationAgeTicks
  (h.addU64 policy.maxAdmissionAgeTicks).digest

def computePolicyDigest (policy : OversubscriptionPolicy) : OversubscriptionPolicy :=
  { policy with digest := policyDigest policy }

/-- A domain's configuration without its generation: an install that leaves
this digest alone does not change the domain's legal boundary. -/
def domainConfigDigest (domain : DomainConfig) : Digest :=
  (addDomainBoundary
    ((CanonicalHasher.addText {} "oversub.domain.v1").addU64 domain.id.value) domain).digest

/-- The digest does not cover itself, so a computed digest is always the right one. -/
@[simp] theorem policyDigest_computePolicyDigest (policy : OversubscriptionPolicy) :
    policyDigest (computePolicyDigest policy) = (computePolicyDigest policy).digest := by
  unfold computePolicyDigest policyDigest
  rfl

/-! ## Validation -/

def ratioShapeBad (r : Ratio) : Bool := r.den == 0 || r.num == 0

def ratioOutOfBound (r : Ratio) : Bool :=
  kHardMaxRatioTermBound < r.num.toNat || kHardMaxRatioTermBound < r.den.toNat ||
    ratioLt r { num := 1, den := 1 }

def invalid (reason : ReasonCode) (detail : String) : Status :=
  .failure .invalidArgument reason detail

/-- A limit must be set and stay within its hard bound. -/
def limitCheck (limit bound : Nat) (detail : String) : Check where
  failed := limit == 0 || bound < limit
  status := invalid .policyLimitExceeded detail

def limitChecks (lim : PolicyLimits) : List Check := [
  limitCheck lim.maxDomains.toNat kHardMaxDomains "max_domains out of bound",
  limitCheck lim.maxResourcesPerDomain.toNat kHardMaxResourcesPerDomain
    "max_resources_per_domain out of bound",
  limitCheck lim.maxServiceClasses.toNat kHardMaxServiceClasses
    "max_service_classes out of bound",
  limitCheck lim.maxGuaranteesPerSnapshot.toNat kHardMaxGuaranteesPerSnapshot
    "max_guarantees_per_snapshot out of bound",
  limitCheck lim.maxDemandRecordsPerSnapshot.toNat kHardMaxDemandRecordsPerSnapshot
    "max_demand_records_per_snapshot out of bound",
  limitCheck lim.maxCorrectiveIntents.toNat kHardMaxCorrectiveIntents
    "max_corrective_intents out of bound",
  limitCheck lim.maxExplanationLines.toNat kHardMaxExplanationLines
    "max_explanation_lines out of bound",
  limitCheck lim.maxExplanationBytes.toNat kHardMaxExplanationBytes
    "max_explanation_bytes out of bound",
  limitCheck lim.maxResourceBreakdown.toNat kHardMaxResourcesPerDomain
    "max_resource_breakdown out of bound",
  limitCheck lim.maxCapacityUnits.toNat kHardMaxCapacityUnits "max_capacity_units out of bound"]

def degradedCapChecks (policy : OversubscriptionPolicy) (d : DomainConfig) : List Check := [
  { failed := ratioShapeBad d.degradedRatioCap
    status := invalid .policyRatioInvalid "degraded ratio cap has a zero term" },
  { failed := ratioOutOfBound d.degradedRatioCap
    status := invalid .policyRatioOutOfBound
      ("degraded ratio cap out of bound: " ++ ratioToString d.degradedRatioCap) },
  { failed := ratioGt d.degradedRatioCap policy.policyRatioCap
    status := invalid .policyRatioOutOfBound "degraded ratio cap exceeds the policy cap" },
  { failed := ratioGt d.degradedRatioCap d.configuredRatio
    status := invalid .policyRatioOutOfBound
      "degraded ratio cap exceeds the configured ratio (degradation must not raise the boundary)" }]

def burstPoolChecks (lim : PolicyLimits) (d : DomainConfig) : List Check :=
  if d.burstPoolEnabled then [
    { failed := d.burstPoolCapUnits == 0
      status := invalid .policyReserveInvalid "burst pool enabled with a zero cap" },
    { failed := lim.maxCapacityUnits < d.burstPoolCapUnits
      status := invalid .policyReserveInvalid "burst pool cap exceeds the capacity bound" }]
  else [
    { failed := d.burstPoolCapUnits != 0
      status := invalid .policyReserveInvalid
        "burst pool cap set while the burst pool is disabled" }]

def domainChecks (policy : OversubscriptionPolicy) (d : DomainConfig) : List Check :=
  let lim := policy.limits
  [ { failed := !d.id.valid || !d.pool.valid || !d.generation.valid
      status := invalid .invalidIdentity "domain identity unset" },
    { failed := kHardMaxNameLength < d.name.length
      status := invalid .invalidField "domain name too long" },
    { failed := d.members.isEmpty
      status := invalid .policyDomainEmpty "domain has no member resources" },
    { failed := lim.maxResourcesPerDomain.toNat < d.members.length ||
        kHardMaxResourcesPerDomain < d.members.length
      status := invalid .policyDomainTooLarge "domain has too many member resources" },
    { failed := d.members.any fun m => !m.valid
      status := invalid .invalidIdentity "member resource identity unset" },
    { failed := hasDuplicateValues (sortedMemberValues d.members)
      status := invalid .policyDomainMemberDuplicate "duplicate member resource" },
    { failed := ratioShapeBad d.configuredRatio
      status := invalid .policyRatioInvalid "domain configured ratio has a zero term" },
    { failed := ratioOutOfBound d.configuredRatio
      status := invalid .policyRatioOutOfBound
        ("domain configured ratio out of bound: " ++ ratioToString d.configuredRatio) },
    { failed := ratioGt d.configuredRatio policy.policyRatioCap
      status := invalid .policyRatioOutOfBound
        "domain configured ratio exceeds the policy cap" } ] ++
  (if d.hasDegradedRatioCap then degradedCapChecks policy d else []) ++
  [ { failed := (addChecked d.emergencyReserveUnits d.minProtectedHeadroomUnits).isNone
      status := invalid .policyReserveInvalid
        "emergency reserve plus minimum headroom overflows" },
    { failed := lim.maxCapacityUnits < d.emergencyReserveUnits ||
        lim.maxCapacityUnits < d.minProtectedHeadroomUnits
      status := invalid .policyReserveInvalid
        "reserve or headroom exceeds the capacity bound" } ] ++
  burstPoolChecks lim d

def serviceClassChecks (c : ServiceClassRef) : List Check := [
  { failed := !c.id.valid
    status := invalid .invalidIdentity "service class identity unset" },
  { failed := kHardMaxNameLength < c.name.length
    status := invalid .invalidField "service class name too long" },
  { failed := kPpmScale < c.riskWeightPpm.toNat
    status := invalid .invalidField "service class risk weight exceeds 1e6 ppm" },
  { failed := c.hasContingentShareCap && decide (kPpmScale < c.contingentShareCapPpm.toNat)
    status := invalid .invalidField "service class contingent share cap exceeds 1e6 ppm" }]

def riskBudgetChecks (risk : RiskBudgetPolicy) (lim : PolicyLimits) : List Check := [
  { failed := !risk.id.valid || !risk.generation.valid
    status := invalid .policyRiskBudgetInvalid "risk budget identity or generation unset" },
  { failed := !risk.hasAbsolute && !risk.hasPpm
    status := invalid .policyRiskBudgetInvalid
      "risk budget has neither an absolute nor a ppm ceiling" },
  { failed := risk.hasPpm && decide (kHardMaxExposurePpm < risk.maxExposurePpm.toNat)
    status := invalid .policyRiskBudgetInvalid "risk budget ppm ceiling out of bound" },
  { failed := risk.hasAbsolute && decide (lim.maxCapacityUnits < risk.maxExposureUnits)
    status := invalid .policyRiskBudgetInvalid "risk budget absolute ceiling out of bound" }]

def thresholdChecks (th : OversubscriptionThresholds) : List Check := [
  { failed := th.warnUsedPpm == 0 || kPpmScale < th.warnUsedPpm.toNat
    status := invalid .invalidField "warn threshold out of bound" },
  { failed := th.reduceOveragePpm == 0 || kPpmScale < th.reduceOveragePpm.toNat
    status := invalid .policyThresholdsInverted "reduce threshold out of bound" },
  { failed := th.emergencyOveragePpm < th.reduceOveragePpm ||
      kPpmScale < th.emergencyOveragePpm.toNat
    status := invalid .policyThresholdsInverted "emergency threshold below the reduce threshold" }]

def hysteresisChecks (hy : HysteresisPolicy) : List Check := [
  { failed := hy.escalationConfirmations == 0 ||
      kHardMaxConfirmations < hy.escalationConfirmations.toNat
    status := invalid .invalidField "escalation confirmations out of bound" },
  { failed := hy.deescalationConfirmations == 0 ||
      kHardMaxConfirmations < hy.deescalationConfirmations.toNat
    status := invalid .invalidField "deescalation confirmations out of bound" },
  { failed := kHardMaxCooldownTicks < hy.cooldownTicks.toNat
    status := invalid .invalidField "cooldown ticks out of bound" },
  { failed := kPpmScale < hy.deescalationMarginPpm.toNat
    status := invalid .invalidField "deescalation margin out of bound" }]

def freshnessChecks (age : UInt64) : List Check := [
  { failed := age == 0
    status := invalid .policyFreshnessUnbounded "evidence freshness budget of zero ticks" },
  { failed := kHardMaxFreshnessTicks < age.toNat
    status := invalid .policyLimitExceeded "evidence freshness budget out of bound" }]

/-- The checks of `validate_policy`, in the order in which it makes them. -/
def policyChecks (policy : OversubscriptionPolicy) : List Check :=
  let lim := policy.limits
  [ { failed := !policy.id.valid
      status := invalid .invalidIdentity "policy id unset" },
    { failed := !policy.generation.valid
      status := invalid .invalidIdentity "policy generation unset" },
    { failed := kHardMaxNameLength < policy.name.length
      status := invalid .invalidField "policy name too long" },
    { failed := ratioShapeBad policy.policyRatioCap
      status := invalid .policyRatioInvalid "policy ratio cap has a zero term" },
    { failed := ratioOutOfBound policy.policyRatioCap
      status := invalid .policyRatioOutOfBound
        ("policy ratio cap out of bound: " ++ ratioToString policy.policyRatioCap) } ] ++
  limitChecks lim ++
  [ { failed := lim.maxDomains.toNat < policy.domains.length ||
        kHardMaxDomains < policy.domains.length
      status := invalid .policyLimitExceeded "too many domains" },
    { failed := lim.maxServiceClasses.toNat < policy.serviceClasses.length ||
        kHardMaxServiceClasses < policy.serviceClasses.length
      status := invalid .policyLimitExceeded "too many service classes" },
    { failed := hasDuplicateValues (policy.domains.map (·.id.value))
      status := invalid .policyDomainDuplicate "duplicate domain id" } ] ++
  policy.domains.flatMap (domainChecks policy) ++
  [ { failed := hasDuplicateValues (policy.serviceClasses.map (·.id.value))
      status := invalid .policyServiceClassDuplicate "duplicate service class id" } ] ++
  policy.serviceClasses.flatMap serviceClassChecks ++
  riskBudgetChecks policy.riskBudget lim ++
  thresholdChecks policy.thresholds ++
  hysteresisChecks policy.hysteresis ++
  freshnessChecks policy.maxCapacityAgeTicks ++
  freshnessChecks policy.maxReservationAgeTicks ++
  freshnessChecks policy.maxAdmissionAgeTicks ++
  [ { failed := !policy.digest.isZero && policyDigest policy != policy.digest
      status := .failure .integrityFailure .policyDigestMismatch
        "policy digest does not match its contents" } ]

def validatePolicy (policy : OversubscriptionPolicy) : Status :=
  firstFailure (policyChecks policy)

/-- An accepted policy is accepted under its canonical digest. -/
theorem validatePolicy_computePolicyDigest {policy : OversubscriptionPolicy}
    (h : (validatePolicy policy).isOk = true) :
    (validatePolicy (computePolicyDigest policy)).isOk = true := by
  have hall := firstFailure_isOk.mp h
  refine firstFailure_isOk.mpr ?_
  unfold policyChecks at hall ⊢
  rw [allPass_append] at hall ⊢
  exact ⟨hall.1, by simp [policyDigest_computePolicyDigest]⟩

/-! ## What an accepted policy satisfies -/

/-- A ratio that the validation lets through: bounded terms, at least 1:1. -/
structure Ratio.Admissible (r : Ratio) : Prop extends Ratio.Bounded r where
  den_le_num : r.den.toNat ≤ r.num.toNat

/-- `r` is at most `s`, as fractions. -/
def Ratio.AtMost (r s : Ratio) : Prop := r.num.toNat * s.den.toNat ≤ s.num.toNat * r.den.toNat

structure DomainConfig.Installable (policy : OversubscriptionPolicy) (d : DomainConfig) : Prop where
  id_valid : d.id.valid = true
  pool_valid : d.pool.valid = true
  generation_valid : d.generation.valid = true
  members_ne_nil : d.members ≠ []
  members_valid : ∀ m ∈ d.members, m.valid = true
  members_nodup : d.members.Nodup
  configured : d.configuredRatio.Admissible
  configured_le : d.configuredRatio.AtMost policy.policyRatioCap
  degraded : d.hasDegradedRatioCap = true → d.degradedRatioCap.Admissible ∧
    d.degradedRatioCap.AtMost policy.policyRatioCap ∧
    d.degradedRatioCap.AtMost d.configuredRatio
  reserve_le : d.emergencyReserveUnits.toNat ≤ policy.limits.maxCapacityUnits.toNat
  headroom_le : d.minProtectedHeadroomUnits.toNat ≤ policy.limits.maxCapacityUnits.toNat

structure RiskBudgetPolicy.Installable (lim : PolicyLimits) (risk : RiskBudgetPolicy) : Prop where
  id_valid : risk.id.valid = true
  generation_valid : risk.generation.valid = true
  some_ceiling : risk.hasAbsolute = true ∨ risk.hasPpm = true
  ppm_le : risk.hasPpm = true → risk.maxExposurePpm.toNat ≤ kHardMaxExposurePpm
  absolute_le : risk.hasAbsolute = true → risk.maxExposureUnits.toNat ≤ lim.maxCapacityUnits.toNat

structure OversubscriptionPolicy.Installable (policy : OversubscriptionPolicy) : Prop where
  id_valid : policy.id.valid = true
  generation_valid : policy.generation.valid = true
  ratio_cap : policy.policyRatioCap.Admissible
  max_capacity_le : policy.limits.maxCapacityUnits.toNat ≤ kHardMaxCapacityUnits
  domains_nodup : (policy.domains.map (·.id.value)).Nodup
  domains : ∀ d ∈ policy.domains, d.Installable policy
  classes_nodup : (policy.serviceClasses.map (·.id.value)).Nodup
  share_le : ∀ c ∈ policy.serviceClasses, c.hasContingentShareCap = true →
    c.contingentShareCapPpm.toNat ≤ kPpmScale
  risk : policy.riskBudget.Installable policy.limits
  reduce_pos : 0 < policy.thresholds.reduceOveragePpm.toNat
  reduce_le : policy.thresholds.reduceOveragePpm.toNat ≤ policy.thresholds.emergencyOveragePpm.toNat
  emergency_le : policy.thresholds.emergencyOveragePpm.toNat ≤ kPpmScale

theorem Ratio.admissible_of_checks {r : Ratio} (hshape : ratioShapeBad r = false)
    (hbound : ratioOutOfBound r = false) : r.Admissible := by
  simp only [ratioShapeBad, Bool.or_eq_false_iff, beq_eq_false_iff_ne] at hshape
  simp only [ratioOutOfBound, Bool.or_eq_false_iff, decide_eq_false_iff_not, Nat.not_lt] at hbound
  obtain ⟨⟨hnum, hden⟩, hlt⟩ := hbound
  have hpos : 0 < r.den.toNat :=
    Nat.pos_of_ne_zero fun h0 => hshape.1 (UInt64.toNat_inj.mp h0)
  have hb : r.Bounded := ⟨hnum, hden, hpos⟩
  refine ⟨hb, ?_⟩
  rw [ratioLt, Bool.not_eq_false', ratioGe_eq, Arith.ratioGe_iff hb Ratio.bounded_one] at hlt
  simpa using hlt

theorem Ratio.atMost_of_check {r s : Ratio} (hr : r.Bounded) (hs : s.Bounded)
    (h : ratioGt r s = false) : r.AtMost s := by
  rwa [ratioGt, Bool.not_eq_false', ratioGe_eq, Arith.ratioGe_iff hs hr] at h

theorem members_nodup_of_check {members : List ResourceId}
    (h : hasDuplicateValues (sortedMemberValues members) = false) : members.Nodup := by
  rw [hasDuplicateValues_eq_false, sortedMemberValues, sortValues,
    (List.perm_insertionSort _ _).nodup_iff] at h
  exact h.of_map _

theorem degradedCapChecks_pass {policy : OversubscriptionPolicy} {d : DomainConfig}
    (hcap : policy.policyRatioCap.Admissible) (hconf : d.configuredRatio.Admissible)
    (h : AllPass (degradedCapChecks policy d)) :
    d.degradedRatioCap.Admissible ∧ d.degradedRatioCap.AtMost policy.policyRatioCap ∧
      d.degradedRatioCap.AtMost d.configuredRatio := by
  simp only [degradedCapChecks, allPass_cons] at h
  obtain ⟨hshape, hbound, hle, hle', -⟩ := h
  have hd := Ratio.admissible_of_checks hshape hbound
  exact ⟨hd, Ratio.atMost_of_check hd.toBounded hcap.toBounded hle,
    Ratio.atMost_of_check hd.toBounded hconf.toBounded hle'⟩

theorem domainChecks_pass {policy : OversubscriptionPolicy} {d : DomainConfig}
    (hcap : policy.policyRatioCap.Admissible) (h : AllPass (domainChecks policy d)) :
    d.Installable policy := by
  simp only [domainChecks, allPass_append, allPass_cons, Bool.or_eq_false_iff, Bool.not_eq_false',
    decide_eq_false_iff_not, List.any_eq_false, Bool.not_eq_true', Bool.not_eq_false,
    UInt64.not_lt, UInt64.le_iff_toNat_le] at h
  obtain ⟨⟨⟨⟨⟨⟨hid, hpool⟩, hgen⟩, -, hne, -, hvalid, hdup, hshape, hbound, hle, -⟩, hdeg⟩,
    -, ⟨hreserve, hhead⟩, -⟩, -⟩ := h
  have hconf := Ratio.admissible_of_checks hshape hbound
  refine ⟨hid, hpool, hgen, ?_, hvalid, members_nodup_of_check hdup, hconf,
    Ratio.atMost_of_check hconf.toBounded hcap.toBounded hle, fun hhas => ?_, hreserve, hhead⟩
  · simpa using hne
  · rw [if_pos hhas] at hdeg
    exact degradedCapChecks_pass hcap hconf hdeg

theorem serviceClassChecks_pass {c : ServiceClassRef} (h : AllPass (serviceClassChecks c))
    (hhas : c.hasContingentShareCap = true) : c.contingentShareCapPpm.toNat ≤ kPpmScale := by
  simp only [serviceClassChecks, allPass_cons, hhas, Bool.true_and, decide_eq_false_iff_not,
    Nat.not_lt] at h
  exact h.2.2.2.1

theorem riskBudgetChecks_pass {risk : RiskBudgetPolicy} {lim : PolicyLimits}
    (h : AllPass (riskBudgetChecks risk lim)) : risk.Installable lim := by
  simp only [riskBudgetChecks, allPass_cons, Bool.or_eq_false_iff, Bool.not_eq_false',
    Bool.and_eq_false_imp, Bool.not_eq_true', decide_eq_false_iff_not, Nat.not_lt,
    UInt64.not_lt, UInt64.le_iff_toNat_le] at h
  obtain ⟨⟨hid, hgen⟩, hsome, hppm, habs, -⟩ := h
  refine ⟨hid, hgen, ?_, hppm, habs⟩
  cases ha : risk.hasAbsolute with
  | true => exact .inl rfl
  | false => exact .inr (hsome ha)

theorem thresholdChecks_pass {th : OversubscriptionThresholds} (h : AllPass (thresholdChecks th)) :
    0 < th.reduceOveragePpm.toNat ∧
      th.reduceOveragePpm.toNat ≤ th.emergencyOveragePpm.toNat ∧
      th.emergencyOveragePpm.toNat ≤ kPpmScale := by
  simp only [thresholdChecks, allPass_cons, Bool.or_eq_false_iff, beq_eq_false_iff_ne,
    decide_eq_false_iff_not, Nat.not_lt, UInt64.not_lt, UInt64.le_iff_toNat_le] at h
  obtain ⟨-, ⟨hne, -⟩, ⟨hle, hmax⟩, -⟩ := h
  exact ⟨Nat.pos_of_ne_zero fun h0 => hne (UInt64.toNat_inj.mp h0), hle, hmax⟩

theorem limitChecks_pass {lim : PolicyLimits} (h : AllPass (limitChecks lim)) :
    lim.maxCapacityUnits.toNat ≤ kHardMaxCapacityUnits := by
  simp only [limitChecks, limitCheck, allPass_cons, Bool.or_eq_false_iff, decide_eq_false_iff_not,
    Nat.not_lt] at h
  exact h.2.2.2.2.2.2.2.2.2.1.2

/-- Every limit of an accepted policy is set. -/
theorem limit_pos {limit bound : Nat} {detail : String} {checks : List Check}
    (h : AllPass checks) (hc : limitCheck limit bound detail ∈ checks) : 0 < limit := by
  have hpass := h _ hc
  simp only [limitCheck, Bool.or_eq_false_iff, beq_eq_false_iff_ne] at hpass
  omega

/-- An accepted policy leaves room for a corrective intent. -/
theorem validatePolicy_intents_pos {policy : OversubscriptionPolicy}
    (h : (validatePolicy policy).isOk = true) :
    0 < policy.limits.maxCorrectiveIntents.toNat := by
  have hall : AllPass (policyChecks policy) := firstFailure_isOk.mp h
  have hmem : limitCheck policy.limits.maxCorrectiveIntents.toNat kHardMaxCorrectiveIntents
      "max_corrective_intents out of bound" ∈ policyChecks policy := by
    simp [policyChecks, limitChecks]
  exact limit_pos hall hmem

theorem validatePolicy_intents_le {policy : OversubscriptionPolicy}
    (h : (validatePolicy policy).isOk = true) :
    policy.limits.maxCorrectiveIntents.toNat ≤ kHardMaxCorrectiveIntents := by
  have hall : AllPass (policyChecks policy) := firstFailure_isOk.mp h
  have hmem : limitCheck policy.limits.maxCorrectiveIntents.toNat kHardMaxCorrectiveIntents
      "max_corrective_intents out of bound" ∈ policyChecks policy := by
    simp [policyChecks, limitChecks]
  have hpass := hall _ hmem
  simp only [limitCheck, Bool.or_eq_false_iff, decide_eq_false_iff_not, Nat.not_lt] at hpass
  exact hpass.2

theorem validatePolicy_warn_pos {policy : OversubscriptionPolicy} (h : (validatePolicy policy).isOk = true) :
    0 < policy.thresholds.warnUsedPpm.toNat := by
  have hall : AllPass (policyChecks policy) := firstFailure_isOk.mp h
  simp only [policyChecks, thresholdChecks, allPass_append, allPass_cons, and_assoc] at hall
  have hwarn : policy.thresholds.warnUsedPpm ≠ 0 := by
    simp_all
  exact Nat.pos_of_ne_zero fun hzero => hwarn (UInt64.toNat_inj.mp hzero)

/-- **Validation**: an accepted policy is installable. -/
theorem validatePolicy_installable {policy : OversubscriptionPolicy}
    (h : (validatePolicy policy).isOk = true) : policy.Installable := by
  have hall : AllPass (policyChecks policy) := firstFailure_isOk.mp h
  simp only [policyChecks, allPass_append, allPass_cons, allPass_nil, allPass_flatMap, and_true,
    and_assoc, Bool.not_eq_false'] at hall
  obtain ⟨hid, hgen, -, hshape, hbound, hlim, -, -, hdom, hdoms, hcls, hclss, hrisk, hth, -⟩ := hall
  have hcap := Ratio.admissible_of_checks hshape hbound
  obtain ⟨hpos, hle, hemax⟩ := thresholdChecks_pass hth
  exact ⟨hid, hgen, hcap, limitChecks_pass hlim, hasDuplicateValues_eq_false.mp hdom,
    fun d hd => domainChecks_pass hcap (hdoms d hd), hasDuplicateValues_eq_false.mp hcls,
    fun c hc hhas => serviceClassChecks_pass (hclss c hc) hhas, riskBudgetChecks_pass hrisk,
    hpos, hle, hemax⟩

/-! ## Lookup -/

def findDomain (policy : OversubscriptionPolicy) (id : OversubscriptionDomainId) :
    Option DomainConfig :=
  policy.domains.find? (·.id = id)

/-- `std::lower_bound`: the first entry whose key is not below `k`. -/
def lowerBound {α : Type} (key : α → UInt64) (l : List α) (k : UInt64) : Option α :=
  (l.dropWhile (key · < k)).head?

/-- Sorted lookup tables over a policy. -/
structure PolicyIndex where
  domains : List DomainConfig := []
  classes : List ServiceClassRef := []
  deriving DecidableEq

namespace PolicyIndex

def rebuild (policy : OversubscriptionPolicy) : PolicyIndex where
  domains := sortDomains policy.domains
  classes := sortServiceClasses policy.serviceClasses

def domain (index : PolicyIndex) (id : OversubscriptionDomainId) : Option DomainConfig :=
  match lowerBound (·.id.value) index.domains id.value with
  | none => none
  | some d => if d.id = id then some d else none

def serviceClass (index : PolicyIndex) (id : ServiceClassId) : Option ServiceClassRef :=
  match lowerBound (·.id.value) index.classes id.value with
  | none => none
  | some c => if c.id = id then some c else none

end PolicyIndex

theorem mem_of_lowerBound {α : Type} {key : α → UInt64} {l : List α} {k : UInt64} {a : α}
    (h : lowerBound key l k = some a) : a ∈ l :=
  (List.dropWhile_suffix _).subset (List.mem_of_head? h)

/-- In a table sorted by distinct keys, the lower bound of an entry's key is the entry. -/
theorem lowerBound_of_mem {α : Type} {key : α → UInt64} {l : List α} {a : α}
    (hs : l.Pairwise (key · ≤ key ·)) (hn : (l.map key).Nodup) (ha : a ∈ l) :
    lowerBound key l (key a) = some a := by
  induction l with
  | nil => cases ha
  | cons b l ih =>
      obtain ⟨hb, hs'⟩ := List.pairwise_cons.mp hs
      obtain ⟨hnb, hn'⟩ := List.nodup_cons.mp hn
      rw [lowerBound, List.dropWhile_cons]
      rcases List.mem_cons.mp ha with rfl | ha
      · simp
      · have hne : key b ≠ key a := fun h => hnb (h ▸ List.mem_map_of_mem ha)
        have hlt : key b < key a := UInt64.lt_of_le_of_ne (hb a ha) hne
        rw [if_pos (by simpa using hlt)]
        exact ih hs' hn' ha

theorem PolicyIndex.domain_eq_some {policy : OversubscriptionPolicy}
    {id : OversubscriptionDomainId} {d : DomainConfig} (h : (rebuild policy).domain id = some d) :
    d ∈ policy.domains ∧ d.id = id := by
  unfold domain at h
  split at h
  · cases h
  next d' hd =>
    split at h
    next hid =>
      obtain rfl := Option.some.inj h
      exact ⟨(List.perm_insertionSort _ _).mem_iff.mp (mem_of_lowerBound hd), hid⟩
    · cases h

theorem PolicyIndex.serviceClass_eq_some {policy : OversubscriptionPolicy}
    {id : ServiceClassId} {c : ServiceClassRef} (h : (rebuild policy).serviceClass id = some c) :
    c ∈ policy.serviceClasses ∧ c.id = id := by
  unfold serviceClass at h
  split at h
  · cases h
  next c' hc =>
    split at h
    next hid =>
      obtain rfl := Option.some.inj h
      exact ⟨(List.perm_insertionSort _ _).mem_iff.mp (mem_of_lowerBound hc), hid⟩
    · cases h

theorem PolicyIndex.serviceClass_of_mem {policy : OversubscriptionPolicy}
    (hn : (policy.serviceClasses.map (·.id.value)).Nodup) {c : ServiceClassRef}
    (hc : c ∈ policy.serviceClasses) : (rebuild policy).serviceClass c.id = some c := by
  have hperm := List.perm_insertionSort (fun a b : ServiceClassRef => a.id.value ≤ b.id.value)
    policy.serviceClasses
  have htotal : Std.Total fun a b : ServiceClassRef => a.id.value ≤ b.id.value :=
    ⟨fun _ _ => UInt64.le_total _ _⟩
  have htrans : IsTrans ServiceClassRef fun a b => a.id.value ≤ b.id.value :=
    ⟨fun _ _ _ => UInt64.le_trans⟩
  have hfound : lowerBound (·.id.value) (rebuild policy).classes c.id.value = some c :=
    lowerBound_of_mem (List.pairwise_insertionSort _ _) ((hperm.map _).nodup_iff.mpr hn)
      (hperm.mem_iff.mpr hc)
  rw [serviceClass, hfound]
  exact if_pos rfl

end Oversub
