import Oversub.Fingerprint
import Oversub.Engine.Words

/-!
# Oversub.Engine.Binding

The byte streams behind the digests of an evaluation, its result and its
input.  The result's stream determines outcome, reason, accounting and, of
every intent, the fields that are hashed; the service class of an intent is
not one of them.
-/

namespace Oversub

open Wire Streams

/-! ## Streams -/

def natStream (n : Nat) : List UInt8 := leBytes64 (UInt64.ofNat n)

/-- An enumerator, by its number. -/
def enumStream (n : Nat) : List UInt8 := leBytes32 (UInt32.ofNat n)

/-- The capacity of a domain and what is to be protected of it. -/
def capacityAmounts (a : DomainAccounting) : List UInt8 :=
  leBytes64 a.domain.value ++ leBytes64 a.pool.value ++ natStream a.physicalCapacity ++
    natStream a.usableCapacity ++ natStream a.effectiveUsableCapacity ++ natStream a.guaranteesTotal ++
    natStream a.emergencyReserve ++ natStream a.minProtectedHeadroom ++ natStream a.protectedRequired ++
    natStream a.floorRequired

/-- The ratios, the ceilings and the demand. -/
def ceilingAmounts (a : DomainAccounting) : List UInt8 :=
  ratioStream a.configuredRatio ++ ratioStream a.effectiveRatio ++ boolStream a.ratioReducedByDegradation ++
    natStream a.ceilingTotal ++ natStream a.contingentCeiling ++ natStream a.contingentCommitted ++
    natStream a.contingentPending ++ natStream a.burstCommitted ++ natStream a.guaranteedAdmitted ++
    natStream a.contingentFree ++ natStream a.committedTotal ++ natStream a.overage

/-- The exposure, the demand out of scope and the condition of the members. -/
def exposureAmounts (a : DomainAccounting) : List UInt8 :=
  natStream a.protectedHeadroom ++ natStream a.usedPpmOfCeiling ++ natStream a.exposure ++
    natStream a.riskBudgetCeiling ++ natStream a.riskExposureRemaining ++ boolStream a.riskBudgetExceeded ++
    natStream a.outOfScopeGuarantees ++ natStream a.outOfScopeDemand ++ enumStream a.degradedResources ++
    enumStream a.failedResources ++ enumStream a.bindingConstraint.ctorIdx ++ boolStream a.arithmeticClosed

/-- What `addAccounting` feeds. -/
def accountingStream (a : DomainAccounting) : List UInt8 :=
  capacityAmounts a ++ ceilingAmounts a ++ exposureAmounts a

/-- What `addResourceAccounting` feeds. -/
def resourceAccountingStream (r : ResourceAccounting) : List UInt8 :=
  leBytes64 r.resource.value ++ leBytes32 r.health.toRaw ++ natStream r.effectiveUsableCapacity ++
    natStream r.guarantees ++ natStream r.contingentCommitted ++ natStream r.ceiling ++
    natStream r.contingentCeiling ++ natStream r.contingentFree ++ natStream r.overage

/-- What `addCorrectiveIntent` feeds. -/
def intentStream (i : CorrectiveIntent) : List UInt8 :=
  enumStream i.kind.ctorIdx ++ enumStream i.target.ctorIdx ++ natStream i.amountUnits ++
    enumStream i.reason.ctorIdx

/-- What `evaluation_result_digest` hashes. -/
def resultStream (r : EvaluationResult) : List UInt8 :=
  stringStream (textBytes "oversub.result.v1") ++ enumStream r.outcome.ctorIdx ++ enumStream r.reason.ctorIdx ++
    accountingStream r.accounting ++ itemsStream resourceAccountingStream r.resources ++
    itemsStream intentStream r.intents ++ boolStream r.authorityValid ++
    boolStream r.newOversubscriptionAuthorized ++ natStream r.authorizedIncrementUnits ++
    boolStream r.fenceRequired ++ r.authority.inputDigest.bytes

/-- What the input digest hashes. -/
def inputStream (policy : OversubscriptionPolicy) (domain : DomainConfig) (expectation : AuthorityExpectation)
    (sn : Snapshots) (tick : UInt64) : List UInt8 :=
  stringStream (textBytes "oversub.input.v1") ++ leBytes64 domain.id.value ++
    leBytes64 domain.generation.value ++ leBytes64 policy.id.value ++ leBytes64 policy.generation.value ++
    leBytes64 policy.riskBudget.generation.value ++ leBytes64 expectation.epoch.value ++ leBytes64 tick ++
    (payloadDigestOr sn.cap.provenance (capacitySnapshotDigest sn.cap)).bytes ++
    (payloadDigestOr sn.res.provenance (reservationSnapshotDigest sn.res)).bytes ++
    (payloadDigestOr sn.adm.provenance (admissionSnapshotDigest sn.adm)).bytes

section

variable {h : CanonicalHasher} {bytes : List UInt8}

theorem took_capacityAmounts (a : DomainAccounting) (ht : h.Took bytes) :
    ((((((((((h.addU64 a.domain.value).addU64 a.pool.value).addNat a.physicalCapacity).addNat
      a.usableCapacity).addNat a.effectiveUsableCapacity).addNat a.guaranteesTotal).addNat
      a.emergencyReserve).addNat a.minProtectedHeadroom).addNat a.protectedRequired).addNat
      a.floorRequired).Took (bytes ++ capacityAmounts a) := by
  have htook := ((((((((ht.addU64 a.domain.value).addU64 a.pool.value).addNat a.physicalCapacity).addNat
    a.usableCapacity).addNat a.effectiveUsableCapacity).addNat a.guaranteesTotal).addNat
    a.emergencyReserve).addNat a.minProtectedHeadroom).addNat a.protectedRequired |>.addNat a.floorRequired
  simp only [capacityAmounts, natStream, ← List.append_assoc] at htook ⊢
  exact htook

theorem took_ceilingAmounts (a : DomainAccounting) (ht : h.Took bytes) :
    ((((((((((((((h.addU64 a.configuredRatio.num).addU64 a.configuredRatio.den).addU64
      a.effectiveRatio.num).addU64 a.effectiveRatio.den).addBool a.ratioReducedByDegradation).addNat
      a.ceilingTotal).addNat a.contingentCeiling).addNat a.contingentCommitted).addNat
      a.contingentPending).addNat a.burstCommitted).addNat a.guaranteedAdmitted).addNat
      a.contingentFree).addNat a.committedTotal).addNat a.overage).Took (bytes ++ ceilingAmounts a) := by
  have htook := ((((((((((((ht.addU64 a.configuredRatio.num).addU64 a.configuredRatio.den).addU64
    a.effectiveRatio.num).addU64 a.effectiveRatio.den).addBool a.ratioReducedByDegradation).addNat
    a.ceilingTotal).addNat a.contingentCeiling).addNat a.contingentCommitted).addNat
    a.contingentPending).addNat a.burstCommitted).addNat a.guaranteedAdmitted).addNat
    a.contingentFree).addNat a.committedTotal |>.addNat a.overage
  simp only [ceilingAmounts, natStream, ratioStream, boolStream, ← List.append_assoc] at htook ⊢
  exact htook

theorem took_exposureAmounts (a : DomainAccounting) (ht : h.Took bytes) :
    ((((((((((((h.addNat a.protectedHeadroom).addNat a.usedPpmOfCeiling).addNat a.exposure).addNat
      a.riskBudgetCeiling).addNat a.riskExposureRemaining).addBool a.riskBudgetExceeded).addNat
      a.outOfScopeGuarantees).addNat a.outOfScopeDemand).addU32 (.ofNat a.degradedResources)).addU32
      (.ofNat a.failedResources)).addU32 (.ofNat a.bindingConstraint.ctorIdx)).addBool
      a.arithmeticClosed).Took (bytes ++ exposureAmounts a) := by
  have htook := ((((((((((ht.addNat a.protectedHeadroom).addNat a.usedPpmOfCeiling).addNat a.exposure).addNat
    a.riskBudgetCeiling).addNat a.riskExposureRemaining).addBool a.riskBudgetExceeded).addNat
    a.outOfScopeGuarantees).addNat a.outOfScopeDemand).addU32 (.ofNat a.degradedResources)).addU32
    (.ofNat a.failedResources)).addU32 (.ofNat a.bindingConstraint.ctorIdx) |>.addBool a.arithmeticClosed
  simp only [exposureAmounts, natStream, enumStream, boolStream, ← List.append_assoc] at htook ⊢
  exact htook

theorem took_addAccounting (a : DomainAccounting) (ht : h.Took bytes) :
    (addAccounting h a).Took (bytes ++ accountingStream a) := by
  have htook := took_exposureAmounts a (took_ceilingAmounts a (took_capacityAmounts a ht))
  rw [accountingStream, ← List.append_assoc, ← List.append_assoc]
  exact htook

theorem took_addResourceAccounting (r : ResourceAccounting) (ht : h.Took bytes) :
    (addResourceAccounting h r).Took (bytes ++ resourceAccountingStream r) := by
  have htook := ((((((((ht.addU64 r.resource.value).addU32 r.health.toRaw).addU64
    (.ofNat r.effectiveUsableCapacity)).addU64 (.ofNat r.guarantees)).addU64
    (.ofNat r.contingentCommitted)).addU64 (.ofNat r.ceiling)).addU64 (.ofNat r.contingentCeiling)).addU64
    (.ofNat r.contingentFree)).addU64 (.ofNat r.overage)
  unfold addResourceAccounting CanonicalHasher.addNat
  simp only [resourceAccountingStream, natStream, ← List.append_assoc] at htook ⊢
  exact htook

theorem took_addCorrectiveIntent (i : CorrectiveIntent) (ht : h.Took bytes) :
    (addCorrectiveIntent h i).Took (bytes ++ intentStream i) := by
  have htook := (((ht.addU32 (.ofNat i.kind.ctorIdx)).addU32 (.ofNat i.target.ctorIdx)).addU64
    (.ofNat i.amountUnits)).addU32 (.ofNat i.reason.ctorIdx)
  unfold addCorrectiveIntent CanonicalHasher.addNat
  simp only [intentStream, natStream, enumStream, ← List.append_assoc] at htook ⊢
  exact htook

end

/-- **The digest of a result** is that of its stream. -/
theorem evaluationResultDigest_eq (r : EvaluationResult) : evaluationResultDigest r = sha256 (resultStream r) := by
  have hhead := took_addAccounting r.accounting (((CanonicalHasher.took_nil.addString
    (textBytes "oversub.result.v1")).addU32 (.ofNat r.outcome.ctorIdx)).addU32 (.ofNat r.reason.ctorIdx))
  have hlists := CanonicalHasher.Took.items took_addCorrectiveIntent
    (CanonicalHasher.Took.items took_addResourceAccounting hhead r.resources) r.intents
  have hall := ((((hlists.addBool r.authorityValid).addBool r.newOversubscriptionAuthorized).addU64
    (.ofNat r.authorizedIncrementUnits)).addBool r.fenceRequired).addRaw r.authority.inputDigest.bytes
  have hdigest := hall.digest
  simp only [List.nil_append, ← List.append_assoc] at hdigest
  unfold resultStream evaluationResultDigest
  simp only [stringStream, itemsStream, natStream, enumStream, boolStream, ← List.append_assoc]
  exact hdigest

/-- **The input digest** is that of its stream. -/
theorem inputDigest_eq {policy : OversubscriptionPolicy} {domain : DomainConfig}
    {expectation : AuthorityExpectation} {sn : Snapshots} {tick : UInt64} :
    inputDigest policy domain expectation sn tick =
      sha256 (inputStream policy domain expectation sn tick) := by
  have hhead := ((((((((CanonicalHasher.took_nil.addString (textBytes "oversub.input.v1")).addU64
    domain.id.value).addU64 domain.generation.value).addU64 policy.id.value).addU64
    policy.generation.value).addU64 policy.riskBudget.generation.value).addU64
    expectation.epoch.value).addU64 tick).addRaw
    (payloadDigestOr sn.cap.provenance (capacitySnapshotDigest sn.cap)).bytes
  have hdigest := ((hhead.addRaw (payloadDigestOr sn.res.provenance (reservationSnapshotDigest sn.res)).bytes).addRaw
    (payloadDigestOr sn.adm.provenance (admissionSnapshotDigest sn.adm)).bytes).digest
  simp only [List.nil_append, ← List.append_assoc] at hdigest
  unfold inputStream inputDigest
  simp only [stringStream, ← List.append_assoc]
  exact hdigest

/-! ## What the streams determine -/

section

variable {policy : OversubscriptionPolicy} {members : Nat}

/-- An amount of a coherent account. -/
theorem splits_amount {f : DomainAccounting → Nat} (hf : ∀ a, f a ∈ a.amounts) :
    Splits (DomainAccounting.Coherent policy members) (fun a => natStream (f a)) fun a b => f a = f b :=
  splits_nat fun a ha => ha.words _ (hf a)

theorem splits_capacityAmounts : Splits (DomainAccounting.Coherent policy members) capacityAmounts fun a b =>
    ((((((((a.domain = b.domain ∧ a.pool = b.pool) ∧ a.physicalCapacity = b.physicalCapacity) ∧
      a.usableCapacity = b.usableCapacity) ∧ a.effectiveUsableCapacity = b.effectiveUsableCapacity) ∧
      a.guaranteesTotal = b.guaranteesTotal) ∧ a.emergencyReserve = b.emergencyReserve) ∧
      a.minProtectedHeadroom = b.minProtectedHeadroom) ∧ a.protectedRequired = b.protectedRequired) ∧
      a.floorRequired = b.floorRequired := by
  have hid : Splits (DomainAccounting.Coherent policy members) (fun a => leBytes64 a.domain.value)
      fun a b => a.domain = b.domain := splits_id fun a : DomainAccounting => a.domain
  have hfields := ((((((((hid.append (splits_id fun a => a.pool)).append
    (splits_amount (f := fun a => a.physicalCapacity) (by simp [DomainAccounting.amounts]))).append
    (splits_amount (f := fun a => a.usableCapacity) (by simp [DomainAccounting.amounts]))).append
    (splits_amount (f := fun a => a.effectiveUsableCapacity) (by simp [DomainAccounting.amounts]))).append
    (splits_amount (f := fun a => a.guaranteesTotal) (by simp [DomainAccounting.amounts]))).append
    (splits_amount (f := fun a => a.emergencyReserve) (by simp [DomainAccounting.amounts]))).append
    (splits_amount (f := fun a => a.minProtectedHeadroom) (by simp [DomainAccounting.amounts]))).append
    (splits_amount (f := fun a => a.protectedRequired) (by simp [DomainAccounting.amounts]))).append
    (splits_amount (f := fun a => a.floorRequired) (by simp [DomainAccounting.amounts]))
  exact hfields

theorem splits_ceilingAmounts : Splits (DomainAccounting.Coherent policy members) ceilingAmounts fun a b =>
    ((((((((((a.configuredRatio = b.configuredRatio ∧ a.effectiveRatio = b.effectiveRatio) ∧
      a.ratioReducedByDegradation = b.ratioReducedByDegradation) ∧ a.ceilingTotal = b.ceilingTotal) ∧
      a.contingentCeiling = b.contingentCeiling) ∧ a.contingentCommitted = b.contingentCommitted) ∧
      a.contingentPending = b.contingentPending) ∧ a.burstCommitted = b.burstCommitted) ∧
      a.guaranteedAdmitted = b.guaranteedAdmitted) ∧ a.contingentFree = b.contingentFree) ∧
      a.committedTotal = b.committedTotal) ∧ a.overage = b.overage := by
  have hratio : Splits (DomainAccounting.Coherent policy members) (fun a => ratioStream a.configuredRatio)
      fun a b => a.configuredRatio = b.configuredRatio := splits_ratio fun a : DomainAccounting => a.configuredRatio
  have hfields := ((((((((((hratio.append (splits_ratio fun a => a.effectiveRatio)).append
    (splits_boolStream fun a => a.ratioReducedByDegradation)).append
    (splits_amount (f := fun a => a.ceilingTotal) (by simp [DomainAccounting.amounts]))).append
    (splits_amount (f := fun a => a.contingentCeiling) (by simp [DomainAccounting.amounts]))).append
    (splits_amount (f := fun a => a.contingentCommitted) (by simp [DomainAccounting.amounts]))).append
    (splits_amount (f := fun a => a.contingentPending) (by simp [DomainAccounting.amounts]))).append
    (splits_amount (f := fun a => a.burstCommitted) (by simp [DomainAccounting.amounts]))).append
    (splits_amount (f := fun a => a.guaranteedAdmitted) (by simp [DomainAccounting.amounts]))).append
    (splits_amount (f := fun a => a.contingentFree) (by simp [DomainAccounting.amounts]))).append
    (splits_amount (f := fun a => a.committedTotal) (by simp [DomainAccounting.amounts]))).append
    (splits_amount (f := fun a => a.overage) (by simp [DomainAccounting.amounts]))
  exact hfields

theorem Constraint.ctorIdx_lt (c : Constraint) : c.ctorIdx < 2 ^ 32 := by
  cases c <;> decide

theorem splits_exposureAmounts (hmembers : members < 2 ^ 32) :
    Splits (DomainAccounting.Coherent policy members) exposureAmounts fun a b =>
      ((((((((((a.protectedHeadroom = b.protectedHeadroom ∧ a.usedPpmOfCeiling = b.usedPpmOfCeiling) ∧
        a.exposure = b.exposure) ∧ a.riskBudgetCeiling = b.riskBudgetCeiling) ∧
        a.riskExposureRemaining = b.riskExposureRemaining) ∧ a.riskBudgetExceeded = b.riskBudgetExceeded) ∧
        a.outOfScopeGuarantees = b.outOfScopeGuarantees) ∧ a.outOfScopeDemand = b.outOfScopeDemand) ∧
        a.degradedResources = b.degradedResources) ∧ a.failedResources = b.failedResources) ∧
        a.bindingConstraint = b.bindingConstraint) ∧ a.arithmeticClosed = b.arithmeticClosed := by
  have hheadroom : Splits (DomainAccounting.Coherent policy members) (fun a => natStream a.protectedHeadroom)
      fun a b => a.protectedHeadroom = b.protectedHeadroom := splits_amount (by simp [DomainAccounting.amounts])
  have hdegraded : Splits (DomainAccounting.Coherent policy members) (fun a => enumStream a.degradedResources)
      fun a b => a.degradedResources = b.degradedResources := splits_nat32 fun a ha => by
    have hcount := ha.counted
    omega
  have hfailed : Splits (DomainAccounting.Coherent policy members) (fun a => enumStream a.failedResources)
      fun a b => a.failedResources = b.failedResources := splits_nat32 fun a ha => by
    have hcount := ha.counted
    omega
  have hfields := ((((((((((hheadroom.append
    (splits_amount (f := fun a => a.usedPpmOfCeiling) (by simp [DomainAccounting.amounts]))).append
    (splits_amount (f := fun a => a.exposure) (by simp [DomainAccounting.amounts]))).append
    (splits_amount (f := fun a => a.riskBudgetCeiling) (by simp [DomainAccounting.amounts]))).append
    (splits_amount (f := fun a => a.riskExposureRemaining) (by simp [DomainAccounting.amounts]))).append
    (splits_boolStream fun a => a.riskBudgetExceeded)).append
    (splits_amount (f := fun a => a.outOfScopeGuarantees) (by simp [DomainAccounting.amounts]))).append
    (splits_amount (f := fun a => a.outOfScopeDemand) (by simp [DomainAccounting.amounts]))).append
    hdegraded).append hfailed).append
    (splits_enum Constraint.ofNat_ctorIdx Constraint.ctorIdx_lt fun a => a.bindingConstraint)).append
    (splits_boolStream fun a => a.arithmeticClosed)
  exact hfields

/-- **The account** is determined by its stream. -/
theorem splits_accounting (hmembers : members < 2 ^ 32) :
    Splits (DomainAccounting.Coherent policy members) accountingStream fun a b => a = b := by
  have hfields := (splits_capacityAmounts.append splits_ceilingAmounts).append
    (@splits_exposureAmounts policy members hmembers)
  refine hfields.imp fun a b ha hb h => ?_
  have hconfigured := ha.configuredPpm
  have heffective := ha.effectivePpm
  have happroaching := ha.approaching
  have hconfigured' := hb.configuredPpm
  have heffective' := hb.effectivePpm
  have happroaching' := hb.approaching
  cases a
  cases b
  simp only [DomainAccounting.mk.injEq]
  simp_all only [and_self]

/-- Two intents of one kind, target, amount and reason. -/
structure CorrectiveIntent.Alike (i j : CorrectiveIntent) : Prop where
  kind : i.kind = j.kind
  target : i.target = j.target
  amount : i.amountUnits = j.amountUnits
  reason : i.reason = j.reason

theorem CorrectiveKind.ctorIdx_lt (k : CorrectiveKind) : k.ctorIdx < 2 ^ 32 := by
  cases k <;> decide

theorem CorrectiveTarget.ctorIdx_lt (t : CorrectiveTarget) : t.ctorIdx < 2 ^ 32 := by
  cases t <;> decide

theorem Outcome.ctorIdx_lt (o : Outcome) : o.ctorIdx < 2 ^ 32 := by
  cases o <;> decide

theorem ReasonCode.ctorIdx_lt (r : ReasonCode) : r.ctorIdx < 2 ^ 32 := by
  cases r <;> decide

theorem splits_intent :
    Splits (fun i : CorrectiveIntent => i.amountUnits < 2 ^ 64) intentStream CorrectiveIntent.Alike := by
  have hkind : Splits (fun i : CorrectiveIntent => i.amountUnits < 2 ^ 64)
      (fun i => enumStream i.kind.ctorIdx) fun i j => i.kind = j.kind :=
    splits_enum CorrectiveKind.ofNat_ctorIdx CorrectiveKind.ctorIdx_lt fun i : CorrectiveIntent => i.kind
  have hamount : Splits (fun i : CorrectiveIntent => i.amountUnits < 2 ^ 64)
      (fun i => natStream i.amountUnits) fun i j => i.amountUnits = j.amountUnits := splits_nat fun _ hi => hi
  have hfields := ((hkind.append (splits_enum CorrectiveTarget.ofNat_ctorIdx CorrectiveTarget.ctorIdx_lt
    fun i => i.target)).append hamount).append
    (splits_enum ReasonCode.ofNat_ctorIdx ReasonCode.ctorIdx_lt fun i => i.reason)
  refine hfields.mono fun i j h => ?_
  obtain ⟨⟨⟨hkind, htarget⟩, hamount⟩, hreason⟩ := h
  exact ⟨hkind, htarget, hamount, hreason⟩

theorem Digest.eq_of_bytes {d d' : Digest} (h : d.bytes = d'.bytes) : d = d' := by
  cases d
  cases d'
  simpa only [Digest.mk.injEq] using h

/-- What the stream of a result determines. -/
structure EvaluationResult.Alike (r r' : EvaluationResult) : Prop where
  outcome : r.outcome = r'.outcome
  reason : r.reason = r'.reason
  accounting : r.accounting = r'.accounting
  intents : List.Forall₂ CorrectiveIntent.Alike r.intents r'.intents
  input : r.authority.inputDigest = r'.authority.inputDigest

/-- **The stream of a result** determines the account and the intents but for
their service classes. -/
theorem splits_resultStream (hmembers : members < 2 ^ 32) :
    Splits (EvaluationResult.Coherent policy members) resultStream EvaluationResult.Alike := by
  have houtcome : Splits (EvaluationResult.Coherent policy members)
      (fun r => stringStream (textBytes "oversub.result.v1") ++ enumStream r.outcome.ctorIdx)
      fun r r' => r.outcome = r'.outcome :=
    (splits_enum Outcome.ofNat_ctorIdx Outcome.ctorIdx_lt fun r : EvaluationResult => r.outcome).tagged _
  have haccounting : Splits (EvaluationResult.Coherent policy members) (fun r => accountingStream r.accounting)
      fun r r' => r.accounting = r'.accounting :=
    (splits_accounting hmembers).comp (fun r : EvaluationResult => r.accounting) fun r hr => hr.acc
  have hresource : Splits (fun _ : ResourceAccounting => True) resourceAccountingStream fun _ _ => True :=
    splits_of_length (n := 68) (fun _ => by
      simp only [resourceAccountingStream, natStream, List.length_append, length_leBytes64, length_leBytes32])
      fun _ _ _ => trivial
  have hresources : Splits (EvaluationResult.Coherent policy members)
      (fun r => itemsStream resourceAccountingStream r.resources)
      fun r r' => List.Forall₂ (fun _ _ => True) r.resources r'.resources :=
    splits_items (fun r hr => hr.resources) (fun _ _ _ _ => trivial) hresource
  have hintents : Splits (EvaluationResult.Coherent policy members) (fun r => itemsStream intentStream r.intents)
      fun r r' => List.Forall₂ CorrectiveIntent.Alike r.intents r'.intents :=
    splits_items (fun r hr => hr.intents) (fun r hr => hr.amounts) splits_intent
  have hincrement : Splits (EvaluationResult.Coherent policy members)
      (fun r => natStream r.authorizedIncrementUnits)
      fun r r' => r.authorizedIncrementUnits = r'.authorizedIncrementUnits :=
    splits_nat fun r hr => hr.increment
  have hfields := ((((((((houtcome.append
    (splits_enum ReasonCode.ofNat_ctorIdx ReasonCode.ctorIdx_lt fun r => r.reason)).append haccounting).append
    hresources).append hintents).append (splits_boolStream fun r => r.authorityValid)).append
    (splits_boolStream fun r => r.newOversubscriptionAuthorized)).append hincrement).append
    (splits_boolStream fun r => r.fenceRequired)).append
    (splits_raw (fun r => r.authority.inputDigest.bytes) fun r => r.authority.inputDigest.length_bytes)
  refine hfields.mono fun r r' h => ?_
  obtain ⟨⟨⟨⟨⟨⟨⟨⟨⟨houtcome, hreason⟩, haccounting⟩, _⟩, hintents⟩, _⟩, _⟩, _⟩, _⟩, hbytes⟩ := h
  exact ⟨houtcome, hreason, haccounting, hintents, Digest.eq_of_bytes hbytes⟩

end

/-! ## Inputs -/

section

variable {policy : OversubscriptionPolicy} {domain : DomainConfig} {expectation : AuthorityExpectation}
  {sn sn' : Snapshots} {tick : UInt64}

theorem inputStream_inj (h : inputStream policy domain expectation sn tick =
    inputStream policy domain expectation sn' tick) :
    payloadDigestOr sn.cap.provenance (capacitySnapshotDigest sn.cap) =
        payloadDigestOr sn'.cap.provenance (capacitySnapshotDigest sn'.cap) ∧
      payloadDigestOr sn.res.provenance (reservationSnapshotDigest sn.res) =
        payloadDigestOr sn'.res.provenance (reservationSnapshotDigest sn'.res) ∧
      payloadDigestOr sn.adm.provenance (admissionSnapshotDigest sn.adm) =
        payloadDigestOr sn'.adm.provenance (admissionSnapshotDigest sn'.adm) := by
  have hlength (d d' : Digest) : d.bytes.length = d'.bytes.length := d.length_bytes.trans d'.length_bytes.symm
  unfold inputStream at h
  simp only [List.append_assoc, List.append_cancel_left_eq] at h
  obtain ⟨hcap, h⟩ := List.append_inj h (hlength _ _)
  obtain ⟨hres, hadm⟩ := List.append_inj h (hlength _ _)
  exact ⟨Digest.eq_of_bytes hcap, Digest.eq_of_bytes hres, Digest.eq_of_bytes hadm⟩

/-- A validated snapshot carries its canonical digest, or none. -/
theorem payloadDigestOr_of_checks {id : OversubscriptionDomainId} {epoch : FabricEpoch} {observed : UInt64}
    {provenance : Provenance} {computed : Digest}
    (h : AllPass (commonChecks id epoch observed provenance computed)) :
    payloadDigestOr provenance computed = computed := by
  simp only [commonChecks, allPass_cons, allPass_nil, and_true] at h
  have hpayload := h.2.2.2.2
  unfold payloadDigestOr
  cases hzero : provenance.payloadDigest.isZero with
  | true => rfl
  | false =>
      simp only [hzero, Bool.not_false, Bool.true_and, bne_eq_false_iff_eq] at hpayload
      rw [if_neg Bool.false_ne_true, hpayload]

/-- The hash tells the streams of two inputs apart. -/
structure InputsApart (policy : OversubscriptionPolicy) (domain : DomainConfig)
    (expectation : AuthorityExpectation) (tick : UInt64) (sn sn' : Snapshots) : Prop where
  input : sha256 (inputStream policy domain expectation sn tick) =
      sha256 (inputStream policy domain expectation sn' tick) →
    inputStream policy domain expectation sn tick = inputStream policy domain expectation sn' tick
  capacity : sha256 (capacityStream sn.cap) = sha256 (capacityStream sn'.cap) →
    capacityStream sn.cap = capacityStream sn'.cap
  reservation : sha256 (reservationStream sn.res) = sha256 (reservationStream sn'.res) →
    reservationStream sn.res = reservationStream sn'.res
  admission : sha256 (admissionStream sn.adm) = sha256 (admissionStream sn'.adm) →
    admissionStream sn.adm = admissionStream sn'.adm

/-- The snapshots pass their validators, digests included. -/
structure Snapshots.Accepted (sn : Snapshots) : Prop where
  cap : (validateCapacitySnapshot sn.cap).isOk = true
  res : (validateReservationSnapshot sn.res).isOk = true
  adm : (validateAdmissionSnapshot sn.adm).isOk = true

theorem Snapshots.Accepted.valid (h : sn.Accepted) : sn.Valid :=
  ⟨validateCapacitySnapshot_valid h.cap, validateReservationSnapshot_valid h.res,
    validateAdmissionSnapshot_valid h.adm⟩

theorem payloadDigestOr_of_accepted (h : sn.Accepted) :
    payloadDigestOr sn.cap.provenance (capacitySnapshotDigest sn.cap) = capacitySnapshotDigest sn.cap ∧
      payloadDigestOr sn.res.provenance (reservationSnapshotDigest sn.res) = reservationSnapshotDigest sn.res ∧
      payloadDigestOr sn.adm.provenance (admissionSnapshotDigest sn.adm) = admissionSnapshotDigest sn.adm := by
  have hcap := firstFailure_isOk.mp h.cap
  have hres := firstFailure_isOk.mp h.res
  have hadm := firstFailure_isOk.mp h.adm
  simp only [allPass_append] at hcap hres hadm
  exact ⟨payloadDigestOr_of_checks hcap.1.1.1, payloadDigestOr_of_checks hres.1.1.1,
    payloadDigestOr_of_checks hadm.1.1.1⟩

/-- **Equal input digests** are those of the same records in some order. -/
theorem records_of_inputDigest (h : sn.Accepted) (h' : sn'.Accepted)
    (hapart : InputsApart policy domain expectation tick sn sn')
    (hdigest : inputDigest policy domain expectation sn tick = inputDigest policy domain expectation sn' tick) :
    sn.cap.resources.Perm sn'.cap.resources ∧ sn.res.guarantees.Perm sn'.res.guarantees ∧
      sn.adm.records.Perm sn'.adm.records := by
  rw [inputDigest_eq, inputDigest_eq] at hdigest
  obtain ⟨hcap, hres, hadm⟩ := inputStream_inj (hapart.input hdigest)
  obtain ⟨hc, hr, ha⟩ := payloadDigestOr_of_accepted h
  obtain ⟨hc', hr', ha'⟩ := payloadDigestOr_of_accepted h'
  rw [hc, hc', capacitySnapshotDigest_eq, capacitySnapshotDigest_eq] at hcap
  rw [hr, hr', reservationSnapshotDigest_eq, reservationSnapshotDigest_eq] at hres
  rw [ha, ha', admissionSnapshotDigest_eq, admissionSnapshotDigest_eq] at hadm
  have hcap := (Snapshot.capacityStream_eq_iff h.valid.cap h'.valid.cap).mp (hapart.capacity hcap)
  have hres := (Snapshot.reservationStream_eq_iff h.valid.res h'.valid.res).mp (hapart.reservation hres)
  have hadm := (Snapshot.admissionStream_eq_iff h.valid.adm h'.valid.adm).mp (hapart.admission hadm)
  refine ⟨?_, ?_, ?_⟩
  · cases hcap with
    | capacity _ _ _ _ entries => exact entries
  · cases hres with
    | reservation _ _ _ _ entries => exact entries
  · cases hadm with
    | admission _ _ _ _ entries => exact entries

end

end Oversub
