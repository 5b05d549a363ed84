import Oversub.Engine.Intents

/-!
# Oversub.Engine.Words

The amounts of a result in 64-bit arithmetic.  Sums are checked or saturate,
so every amount is below `2 ^ 64`, whatever the evidence and wherever the
evaluation ends (`evaluate_words`).  The fields of the accounting that follow
from the others do so in every result as well (`Coherent`).
-/

namespace Oversub

open EarlyFold Tally

/-! ## Amounts -/

/-- The amounts of the account of a domain. -/
def DomainAccounting.amounts (a : DomainAccounting) : List Nat :=
  [a.physicalCapacity, a.usableCapacity, a.effectiveUsableCapacity, a.guaranteesTotal, a.emergencyReserve,
    a.minProtectedHeadroom, a.protectedRequired, a.floorRequired, a.configuredRatioPpm, a.effectiveRatioPpm,
    a.ceilingTotal, a.contingentCeiling, a.contingentCommitted, a.contingentPending, a.burstCommitted,
    a.guaranteedAdmitted, a.contingentFree, a.committedTotal, a.overage, a.protectedHeadroom,
    a.usedPpmOfCeiling, a.exposure, a.riskBudgetCeiling, a.riskExposureRemaining, a.outOfScopeGuarantees,
    a.outOfScopeDemand]

/-- All of them are 64-bit words. -/
def Words (l : List Nat) : Prop := ∀ n ∈ l, n < 2 ^ 64

/-- The amounts are words, at most `members` resources are counted, and what
follows from other fields does. -/
structure DomainAccounting.Coherent (policy : OversubscriptionPolicy) (members : Nat) (a : DomainAccounting) :
    Prop where
  words : Words a.amounts
  counted : a.degradedResources + a.failedResources ≤ members
  configuredPpm : a.configuredRatioPpm = Arith.u64.ratioPpm a.configuredRatio
  effectivePpm : a.effectiveRatioPpm = Arith.u64.ratioPpm a.effectiveRatio
  approaching : a.approachingLimit =
    (decide (a.overage = 0) && decide (policy.thresholds.warnUsedPpm.toNat ≤ a.usedPpmOfCeiling))

section

variable {a b c d n : Nat} {o : Option Nat}

theorem Words.set {l l' : List Nat} {i : Nat} (h : Words l) (hn : n < 2 ^ 64) (hl : l' = l.set i n) :
    Words l' := by
  intro m hm
  rw [hl] at hm
  rcases List.mem_or_eq_of_mem_set hm with hm | rfl
  · exact h m hm
  · exact hn

theorem word_getD (h : ∀ n, o = some n → n < 2 ^ 64) (hd : d < 2 ^ 64) : o.getD d < 2 ^ 64 := by
  cases o with
  | none => exact hd
  | some n => exact h n rfl

theorem word_addChecked (h : Arith.u64.addChecked a b = some n) : n < 2 ^ 64 := by
  obtain ⟨hfits, rfl⟩ := Arith.addChecked_eq_some.mp h
  exact Arith.u64_fits_iff.mp hfits

theorem word_addSat : Arith.u64.addSat a b < 2 ^ 64 := word_getD (fun _ => word_addChecked) (by decide)

theorem word_mulDivFloor (h : Arith.u64.mulDivFloor a b d = some n) : n < 2 ^ 64 := by
  obtain ⟨-, hfits, rfl⟩ := Arith.mulDivFloor_eq_some.mp h
  exact Arith.u64_fits_iff.mp hfits

theorem word_mulDivFloorSat : Arith.u64.mulDivFloorSat a b d < 2 ^ 64 :=
  word_getD (fun _ => word_mulDivFloor) (by decide)

theorem word_ratioPpm {r : Ratio} : Arith.u64.ratioPpm r < 2 ^ 64 := by
  unfold Arith.ratioPpm
  split
  · decide
  · exact word_mulDivFloorSat

end

/-! ## Gathering -/

section

variable {order : MapOrder} {policy : OversubscriptionPolicy} {index : PolicyIndex} {domain : DomainConfig}
  {expectation : AuthorityExpectation} {evidence : DomainEvidence} {sn : Snapshots} {tick : UInt64}
  {acc : DomainAccounting} {members n : Nat}

/-- The refusal has a coherent account. -/
def Refusal.Coherent (policy : OversubscriptionPolicy) (members : Nat) (x : Refusal) : Prop :=
  x.accounting.Coherent policy members

theorem DomainAccounting.Coherent.mono {members' : Nat} (h : acc.Coherent policy members)
    (hle : members ≤ members') : acc.Coherent policy members' :=
  { h with counted := h.counted.trans hle }

theorem initialAccounting_coherent (hwarn : 0 < policy.thresholds.warnUsedPpm.toNat) :
    (initialAccounting .u64 domain).Coherent policy 0 where
  words := by
    have hreserve := domain.emergencyReserveUnits.toNat_lt
    have hheadroom := domain.minProtectedHeadroomUnits.toNat_lt
    have hppm : Arith.u64.ratioPpm domain.configuredRatio < 2 ^ 64 := word_ratioPpm
    simp only [Words, DomainAccounting.amounts, initialAccounting, List.forall_mem_cons]
    simp_all
  counted := Nat.le_refl _
  configuredPpm := rfl
  effectivePpm := rfl
  approaching := by
    have hnot : decide (policy.thresholds.warnUsedPpm.toNat ≤ 0) = false :=
      decide_eq_false (Nat.not_le.mpr hwarn)
    exact ((congrArg (true && ·) hnot).trans rfl).symm

theorem bindEvidence_coherent (h : acc.Coherent policy members) :
    Ensures (Refusal.Coherent policy members) (fun _ => True)
      (bindEvidence policy domain expectation evidence acc) := by
  have hgeneration {snapshot authoritative : UInt64} {what : String} :
      Ensures (Refusal.Coherent policy members) (fun _ => True)
        (requireGeneration acc snapshot authoritative what) := require_keeps h
  unfold bindEvidence
  split
  · exact require_bind_keeps h <| require_bind_keeps h <| require_bind_keeps h <| require_bind_keeps h <|
      require_bind_keeps h <| require_bind_keeps h <| require_bind_keeps h <| hgeneration.bind fun _ _ =>
      hgeneration.bind fun _ _ => hgeneration.bind fun _ _ => trivial
  · exact h

theorem checkFreshness_coherent (h : acc.Coherent policy members) :
    Ensures (Refusal.Coherent policy members) (fun _ => True) (checkFreshness policy sn tick acc) := by
  have hone : ∀ observed budget what,
      Ensures (Refusal.Coherent policy members) (fun _ => True) (requireFresh acc tick observed budget what) :=
    fun _ _ _ => require_bind_keeps h (require_keeps h)
  exact (hone _ _ _).bind fun _ _ => (hone _ _ _).bind fun _ _ => hone _ _ _

theorem checkBounds_coherent (h : acc.Coherent policy members) :
    Ensures (Refusal.Coherent policy members) (fun _ => True) (checkBounds policy.limits sn acc) :=
  require_bind_keeps h <| require_bind_keeps h <| require_keeps h

/-- One more resource is counted where one less is to come. -/
theorem memberStep_coherent {s : MemberState} {m : ResourceId} {l : List ResourceId}
    (h : s.acc.Coherent policy members ∧
      s.acc.degradedResources + s.acc.failedResources + (m :: l).length ≤ members) :
    Ensures (Refusal.Coherent policy members) (fun s => s.acc.Coherent policy members ∧
      s.acc.degradedResources + s.acc.failedResources + l.length ≤ members)
      (memberStep .u64 domain sn.cap s m) := by
  obtain ⟨hacc, hcount⟩ := h
  rw [List.length_cons] at hcount
  refine orRefuse_bind_keeps hacc fun rc => require_bind_keeps hacc <| require_bind_keeps hacc ?_
  cases rc.health with
  | degraded =>
      refine orRefuse_bind_keeps hacc fun _ => ⟨{ hacc with counted := ?_ }, ?_⟩
      · show s.acc.degradedResources + 1 + s.acc.failedResources ≤ members
        omega
      · show s.acc.degradedResources + 1 + s.acc.failedResources + l.length ≤ members
        omega
  | failed =>
      refine ⟨{ hacc with counted := ?_ }, ?_⟩
      · show s.acc.degradedResources + (s.acc.failedResources + 1) ≤ members
        omega
      · show s.acc.degradedResources + (s.acc.failedResources + 1) + l.length ≤ members
        omega
  | healthy | unknown | unnamed _ _ =>
      have hrest : s.acc.degradedResources + s.acc.failedResources + l.length ≤ members := by omega
      exact ⟨hacc, hrest⟩

theorem gatherMembers_coherent (h : acc.Coherent policy 0) :
    Ensures (Refusal.Coherent policy domain.members.length)
      (fun s => s.acc.Coherent policy domain.members.length) (gatherMembers .u64 domain sn.cap acc) := by
  have hacc := h.mono (Nat.zero_le domain.members.length)
  have hsorted : (sortMembers domain.members).length = domain.members.length := List.length_insertionSort _ _
  have hloop : Ensures (Refusal.Coherent policy domain.members.length)
      (fun s : MemberState => s.acc.Coherent policy domain.members.length ∧
        s.acc.degradedResources + s.acc.failedResources + ([] : List ResourceId).length ≤
          domain.members.length)
      ((sortMembers domain.members).foldlM (memberStep .u64 domain sn.cap) { acc, resources := [] }) := by
    refine foldlM_ensures_rest (Q := fun l (s : MemberState) => s.acc.Coherent policy domain.members.length ∧
      s.acc.degradedResources + s.acc.failedResources + l.length ≤ domain.members.length)
      (fun _ _ _ => memberStep_coherent) ⟨hacc, ?_⟩
    have hzero := h.counted
    show acc.degradedResources + acc.failedResources + (sortMembers domain.members).length ≤ _
    omega
  refine require_bind_keeps hacc ?_
  cases hresult : (sortMembers domain.members).foldlM (memberStep .u64 domain sn.cap) { acc, resources := [] } with
  | error x =>
      rw [hresult] at hloop
      exact hloop
  | ok s =>
      rw [hresult] at hloop
      exact hloop.1

theorem guaranteeStep_coherent {s : GuaranteeState} {g : Guarantee} (h : s.acc.Coherent policy members) :
    Ensures (Refusal.Coherent policy members) (·.acc.Coherent policy members)
      (guaranteeStep .u64 index domain s g) := by
  refine require_bind_keeps h ?_
  dsimp only
  split
  · exact { h with words := h.words.set (i := 24) word_addSat rfl }
  · exact require_bind_keeps h <| require_bind_keeps h <| require_bind_keeps h <|
      orRefuse_bind_keeps h fun _ => orRefuse_bind_keeps h fun _ => h

theorem guaranteesTotal_word {s : GuaranteeState} (h : s.acc.Coherent policy members) :
    Ensures (Refusal.Coherent policy members) (· < 2 ^ 64) (guaranteesTotal .u64 s) := by
  refine foldlM_ensures (fun total ra _ => ?_) _ (by decide)
  cases hadd : Arith.u64.addChecked total ra.guarantees with
  | none => exact h
  | some n => exact word_addChecked hadd

/-- The demand loop, as far as it has come. -/
structure DemandState.Coherent (policy : OversubscriptionPolicy) (members : Nat) (s : DemandState) : Prop where
  acc : s.acc.Coherent policy members
  ineligible : s.ineligibleAmount < 2 ^ 64
  classes : ∀ id, get s.contingentByClass id < 2 ^ 64

theorem guaranteedDemand_coherent {s : DemandState} {r : DemandRecord} (h : s.Coherent policy members) :
    Ensures (Refusal.Coherent policy members) (DemandState.Coherent policy members)
      (guaranteedDemand .u64 s r) := by
  refine orRefuse_bind_result h.acc fun admitted hadmitted => ?_
  have hacc : DomainAccounting.Coherent policy members { s.acc with guaranteedAdmitted := admitted } :=
    { h.acc with words := h.acc.words.set (i := 15) (word_addChecked hadmitted) rfl }
  exact orRefuse_bind_keeps hacc fun _ => { h with acc := hacc }

theorem contingentDemand_coherent {cls : ServiceClassRef} {ra : ResourceAccum} {s : DemandState}
    {r : DemandRecord} (h : s.Coherent policy members) :
    Ensures (Refusal.Coherent policy members) (DemandState.Coherent policy members)
      (contingentDemand .u64 cls ra s r) := by
  unfold contingentDemand
  dsimp only
  split
  · exact { h with ineligible := word_addSat }
  refine orRefuse_bind_keeps h.acc fun _ => orRefuse_bind_result h.acc fun total htotal => ?_
  have hacc : DomainAccounting.Coherent policy members { s.acc with contingentCommitted := total } :=
    { h.acc with words := h.acc.words.set (i := 12) (word_addChecked htotal) rfl }
  refine orRefuse_bind_keeps hacc fun _ => orRefuse_bind_result hacc fun waiting hwaiting => ?_
  have hacc : DomainAccounting.Coherent policy members
      { s.acc with contingentCommitted := total, contingentPending := waiting } :=
    { hacc with words := hacc.words.set (i := 13) (word_addChecked hwaiting) rfl }
  have hrest {burst : Nat} (hburst : burst < 2 ^ 64) : DomainAccounting.Coherent policy members
      { s.acc with contingentCommitted := total, contingentPending := waiting, burstCommitted := burst } :=
    { hacc with words := hacc.words.set (i := 14) hburst rfl }
  have hclasses {n : Nat} (hn : Arith.u64.addChecked (get s.contingentByClass r.serviceClass)
      r.committedCapacity.toNat = some n) (id : ServiceClassId) :
      get (add s.contingentByClass r.serviceClass r.committedCapacity.toNat) id < 2 ^ 64 := by
    rw [get_add]
    split
    next hid =>
      subst hid
      obtain ⟨hfits, -⟩ := Arith.addChecked_eq_some.mp hn
      exact Arith.u64_fits_iff.mp hfits
    · exact h.classes id
  split
  · refine orRefuse_bind_result hacc fun burst hburst => orRefuse_bind_result (hrest (word_addChecked hburst))
      fun _ hn => ?_
    exact { h with acc := hrest (word_addChecked hburst), classes := hclasses hn }
  · have hburst : s.acc.burstCommitted < 2 ^ 64 := h.acc.words _ (by simp [DomainAccounting.amounts])
    exact orRefuse_bind_result (hrest hburst) fun _ hn => { h with acc := hrest hburst, classes := hclasses hn }

theorem demandStep_coherent {s : DemandState} {r : DemandRecord} (h : s.Coherent policy members) :
    Ensures (Refusal.Coherent policy members) (DemandState.Coherent policy members)
      (demandStep .u64 index domain s r) := by
  refine require_bind_keeps h.acc ?_
  dsimp only
  have hseen : DemandState.Coherent policy members { s with seen := r.admission :: s.seen } := { h with }
  cases findResource s.resources r.resource with
  | none => exact { h with acc := { h.acc with words := h.acc.words.set (i := 25) word_addSat rfl } }
  | some ra =>
      refine require_bind_keeps h.acc <| orRefuse_bind_keeps h.acc fun _ => ?_
      cases r.kind with
      | guaranteed => exact guaranteedDemand_coherent hseen
      | contingent => exact contingentDemand_coherent hseen
      | burst => exact contingentDemand_coherent hseen
      | unknown => exact h.acc
      | unnamed _ _ => exact hseen

theorem totalsStep_coherent {s : TotalsState} {ra : ResourceAccum} (h : s.acc.Coherent policy members) :
    (totalsStep .u64 s ra).acc.Coherent policy members := by
  have heffective : s.acc.effectiveUsableCapacity < 2 ^ 64 := h.words _ (by simp [DomainAccounting.amounts])
  have hwords := ((h.words.set (i := 0) (n := Arith.u64.addSat s.acc.physicalCapacity
    ra.capacity.physicalCapacity.toNat) word_addSat rfl).set (i := 1) (n := Arith.u64.addSat
    s.acc.usableCapacity ra.capacity.usableCapacity.toNat) word_addSat rfl).set (i := 2)
    (word_getD (o := Arith.u64.addChecked s.acc.effectiveUsableCapacity ra.effectiveUsable)
      (fun _ => word_addChecked) heffective) rfl
  exact { h with words := hwords }

theorem gatherTotals_coherent {resources : List ResourceAccum} (h : acc.Coherent policy members) :
    Ensures (Refusal.Coherent policy members) (fun s => s.acc.Coherent policy members)
      (gatherTotals .u64 policy.limits acc resources) := by
  have hfold : ∀ (l : List ResourceAccum) (s : TotalsState), s.acc.Coherent policy members →
      (l.foldl (totalsStep .u64) s).acc.Coherent policy members := by
    intro l
    induction l with
    | nil => exact fun _ hs => hs
    | cons ra l ih => exact fun _ hs => ih _ (totalsStep_coherent hs)
  have htotals := hfold resources { acc, resources := [], closed := true } h
  exact require_bind_keeps htotals htotals

/-- What the evidence adds up to. -/
structure Gathered.Coherent (policy : OversubscriptionPolicy) (members : Nat) (g : Gathered) : Prop where
  acc : g.acc.Coherent policy members
  ineligible : g.ineligibleAmount < 2 ^ 64
  classes : ∀ id, get g.contingentByClass id < 2 ^ 64

theorem gatherEvidence_coherent {authority : AuthorityVector} {s : MemberState}
    (h : s.acc.Coherent policy members) :
    Ensures (Refusal.Coherent policy members) (Gathered.Coherent policy members)
      (gatherEvidence .u64 order policy index domain sn authority s) := by
  have hguarantees : Ensures (Refusal.Coherent policy members) (·.acc.Coherent policy members)
      (gatherGuarantees .u64 index domain sn.res s) :=
    foldlM_ensures (fun _ _ hs => guaranteeStep_coherent hs) _ h
  refine hguarantees.bind fun gs hgs => (guaranteesTotal_word hgs).bind fun total htotal => ?_
  have hstart : DemandState.Coherent policy members
      { acc := { gs.acc with guaranteesTotal := total }, resources := gs.resources } :=
    ⟨{ hgs with words := hgs.words.set (i := 3) htotal rfl }, Nat.two_pow_pos 64, fun _ => Nat.two_pow_pos 64⟩
  have hdemand : Ensures (Refusal.Coherent policy members) (DemandState.Coherent policy members)
      (gatherDemand .u64 index domain sn.adm { gs.acc with guaranteesTotal := total } gs.resources) :=
    foldlM_ensures (fun _ _ hs => demandStep_coherent hs) _ hstart
  exact hdemand.bind fun _ hd => (gatherTotals_coherent hd.acc).bind fun _ ht =>
    ⟨ht, hd.ineligible, hd.classes⟩

/-- A refusal of the first half, with a coherent account. -/
def Stopped (policy : OversubscriptionPolicy) (domain : DomainConfig) (members : Nat) (r : EvaluationResult) :
    Prop := ∃ authority x, r = stop policy domain authority x ∧ x.Coherent policy members

theorem gather_coherent (hwarn : 0 < policy.thresholds.warnUsedPpm.toNat) :
    Ensures (Stopped policy domain domain.members.length) (Gathered.Coherent policy domain.members.length)
      (gather .u64 order policy index domain expectation evidence tick) := by
  have hstop : ∀ {α : Type} {x : Except Refusal α} {Q : α → Prop} {authority : AuthorityVector},
      Ensures (Refusal.Coherent policy domain.members.length) Q x →
        Ensures (Stopped policy domain domain.members.length) Q (x.mapError (stop policy domain authority)) := by
    intro α x Q authority hx
    cases x with
    | error e => exact ⟨authority, e, rfl, hx⟩
    | ok a => exact hx
  have hzero : (initialAccounting .u64 domain).Coherent policy 0 := initialAccounting_coherent hwarn
  have hacc := hzero.mono (Nat.zero_le domain.members.length)
  exact (hstop (bindEvidence_coherent hacc)).bind fun _ _ => (hstop (checkFreshness_coherent hacc)).bind
    fun _ _ => (hstop (checkBounds_coherent hacc)).bind fun _ _ =>
    (hstop (gatherMembers_coherent hzero)).bind fun _ hm => hstop (gatherEvidence_coherent hm)

end

/-! ## The boundary -/

section

variable {policy : OversubscriptionPolicy} {domain : DomainConfig} {risk : RiskBudgetPolicy}
  {effective : EffectiveRatio} {acc : DomainAccounting} {c : Ceilings} {g : Gathered} {members usable : Nat}

theorem least_le {l : List Candidate} {c : Candidate} :
    (l.foldl (fun c d => if d.value < c.value then d else c) c).value ≤ c.value := by
  induction l generalizing c with
  | nil => exact Nat.le_refl _
  | cons d l ih =>
      rw [List.foldl_cons]
      split
      next hlt => exact ih.trans hlt.le
      · exact ih

theorem ceiling_word : (ceilings .u64 risk effective usable).ceiling < 2 ^ 64 := by
  unfold ceilings
  dsimp only
  split
  · exact Nat.two_pow_pos 64
  · exact least_le.trans_lt (word_getD (fun _ => word_mulDivFloor) (Nat.two_pow_pos 64))

theorem lowerRiskCeiling_word {n : Nat} {o : Option Nat} (hn : n < 2 ^ 64) (ho : ∀ m, o = some m → m < 2 ^ 64) :
    lowerRiskCeiling n o < 2 ^ 64 := by
  cases o with
  | none => exact hn
  | some m =>
      unfold lowerRiskCeiling
      dsimp only
      split
      · exact ho m rfl
      · exact hn

theorem riskCeiling_word : (ceilings .u64 risk effective usable).riskCeiling < 2 ^ 64 := by
  refine lowerRiskCeiling_word (lowerRiskCeiling_word (Nat.two_pow_pos 64) fun m hm => ?_) fun m hm => ?_
  · split at hm
    · exact word_addChecked hm
    · cases hm
  · split at hm
    · exact word_mulDivFloor hm
    · cases hm

theorem boundary_coherent (h : acc.Coherent policy members) (hceiling : c.ceiling < 2 ^ 64)
    (hrisk : c.riskCeiling < 2 ^ 64) : (boundary .u64 policy acc effective c).1.Coherent policy members := by
  have hall := h.words
  simp only [Words, DomainAccounting.amounts, List.forall_mem_cons, List.not_mem_nil, false_imp_iff,
    implies_true, and_true] at hall
  obtain ⟨hphysical, husable, heffective, hguarantees, hreserve, hheadroom, -, -, hconfigured, -, -, -,
    hcontingent, hpending, hburst, hadmitted, -, hcommitted, -, -, -, -, -, -, houtside, hdemand⟩ := hall
  have hrequired : (Arith.u64.addChecked acc.guaranteesTotal acc.emergencyReserve).getD 0 < 2 ^ 64 :=
    word_getD (fun _ => word_addChecked) (Nat.two_pow_pos 64)
  have htotal : (Arith.u64.addChecked acc.guaranteesTotal acc.contingentCommitted).getD acc.committedTotal <
      2 ^ 64 := word_getD (fun _ => word_addChecked) hcommitted
  refine { h with words := ?_, effectivePpm := rfl, approaching := rfl }
  simp only [Words, DomainAccounting.amounts, boundary, List.forall_mem_cons, List.not_mem_nil, false_imp_iff,
    implies_true, and_true]
  have hshare : (if (Arith.u64.addChecked acc.guaranteesTotal acc.emergencyReserve).getD 0 ≤ c.ceiling
      then c.ceiling - (Arith.u64.addChecked acc.guaranteesTotal acc.emergencyReserve).getD 0 else 0) < 2 ^ 64 := by
    split <;> omega
  have hbudget : (if c.riskCeiling ≠ 0 then c.riskCeiling else c.ceiling) < 2 ^ 64 := by
    split
    · exact hrisk
    · exact hceiling
  have hused {n : Nat} : (if n = 0 then if acc.contingentCommitted = 0 then 0 else kPpmScale
      else Arith.u64.mulDivFloorSat acc.contingentCommitted kPpmScale n) < 2 ^ 64 := by
    split
    · split <;> decide
    · exact word_mulDivFloorSat
  exact ⟨hphysical, husable, heffective, hguarantees, hreserve, hheadroom, hrequired,
    word_getD (fun _ => word_addChecked) (Nat.two_pow_pos 64), hconfigured, word_ratioPpm, hceiling, hshare,
    hcontingent, hpending, hburst, hadmitted, (Nat.sub_le _ _).trans_lt hshare, htotal,
    (Nat.sub_le _ _).trans_lt htotal, (Nat.sub_le _ _).trans_lt heffective, hused,
    (Nat.sub_le _ _).trans_lt htotal, hbudget, (Nat.sub_le _ _).trans_lt hbudget, houtside, hdemand⟩

theorem violation_word {l : List ResourceAccum} {v : Nat × ResourceId} (hv : v.1 < 2 ^ 64) :
    (l.foldl (fun v ra =>
      if ra.effectiveUsable < ra.guarantees then
        (Arith.u64.addSat v.1 (ra.guarantees - ra.effectiveUsable), ra.capacity.resource)
      else v) v).1 < 2 ^ 64 := by
  induction l generalizing v with
  | nil => exact hv
  | cons ra l ih =>
      rw [List.foldl_cons]
      split
      · exact ih word_addSat
      · exact ih hv

/-- The settled account. -/
structure Settled.Coherent (policy : OversubscriptionPolicy) (members : Nat) (s : Settled) : Prop where
  acc : s.acc.Coherent policy members
  violation : s.violation < 2 ^ 64
  resources : s.resources.length < 2 ^ 64

theorem settle_coherent (h : g.Coherent policy members) :
    (settle .u64 policy domain g).Coherent policy members where
  acc := boundary_coherent h.acc ceiling_word riskCeiling_word
  violation := violation_word (Nat.two_pow_pos 64)
  resources := by
    have hlimit := policy.limits.maxResourceBreakdown.toNat_lt
    have htake : (settle .u64 policy domain g).resources.length ≤ policy.limits.maxResourceBreakdown.toNat := by
      simp only [settle, List.length_map, List.length_take]
      omega
    omega

end

/-! ## The result -/

/-- A result whose account is coherent, whose amounts are words and whose
digest is its own. -/
structure EvaluationResult.Coherent (policy : OversubscriptionPolicy) (members : Nat) (r : EvaluationResult) :
    Prop where
  acc : r.accounting.Coherent policy members
  resources : r.resources.length < 2 ^ 64
  intents : r.intents.length < 2 ^ 64
  amounts : ∀ i ∈ r.intents, i.amountUnits < 2 ^ 64
  increment : r.authorizedIncrementUnits < 2 ^ 64
  digest : r.resultDigest = evaluationResultDigest r

section

variable {order : MapOrder} {policy : OversubscriptionPolicy} {index : PolicyIndex} {domain : DomainConfig}
  {expectation : AuthorityExpectation} {evidence : DomainEvidence} {tick : UInt64} {limits : PolicyLimits}
  {g : Gathered} {s : Settled} {v : Verdict} {x : Refusal} {members : Nat} {l : List CorrectiveIntent}

theorem listed_length : (listed limits l).length < 2 ^ 64 := by
  have hlimit := limits.maxCorrectiveIntents.toNat_lt
  rw [listed, List.length_take]
  omega

/-- A result is finalized last. -/
theorem finalize_coherent {r : EvaluationResult} (hacc : r.accounting.Coherent policy members)
    (hresources : r.resources.length < 2 ^ 64) (hintents : r.intents.length < 2 ^ 64)
    (hamounts : ∀ i ∈ r.intents, i.amountUnits < 2 ^ 64) :
    (finalizeEvaluationResult r).Coherent policy members where
  acc := hacc
  resources := hresources
  intents := hintents
  amounts := hamounts
  increment := by
    rw [finalize_increment]
    split
    · exact hacc.words _ (by simp [DomainAccounting.amounts])
    · exact Nat.two_pow_pos 64
  digest := rfl

theorem rejectIntents_length {outcome : Outcome} {reason : ReasonCode} :
    (rejectIntents limits domain outcome reason []).length < 2 ^ 64 := by
  have hadd {l : List CorrectiveIntent} {a : CorrectiveIntent} :
      (addIntent limits l a).length ≤ l.length + 1 := by
    unfold addIntent
    split
    · omega
    · simp
  have hone {a : CorrectiveIntent} := @hadd [] a
  have htwo {a b : CorrectiveIntent} := (@hadd (addIntent limits [] a) b).trans (Nat.succ_le_succ hone)
  have hshort : (rejectIntents limits domain outcome reason []).length ≤ 2 := by
    cases outcome <;> unfold rejectIntents
    all_goals first
      | exact hone.trans (by decide)
      | exact htwo
      | exact Nat.zero_le _
  omega

theorem reject_coherent {authority : AuthorityVector} {resources : List ResourceAccounting}
    {notes : List String} (hx : x.Coherent policy members) (hresources : resources.length < 2 ^ 64) :
    (reject limits domain authority resources notes x).Coherent policy members := by
  refine finalize_coherent hx hresources rejectIntents_length fun i hi => ?_
  rw [(rejectIntents_plain i hi).2]
  exact Nat.two_pow_pos 64

/-- What the share loop asks for is at most what a class holds. -/
theorem shareFinding_le {ceiling excess : Nat} {id : ServiceClassId} {l : List (Σ _ : ServiceClassId, Nat)}
    (h : shareFinding .u64 index ceiling l = .exceeded id excess) : ∃ e ∈ l, excess ≤ e.2 := by
  induction l with
  | nil => cases h
  | cons e l ih =>
      have hrest (h : shareFinding .u64 index ceiling l = .exceeded id excess) : ∃ e' ∈ e :: l, excess ≤ e'.2 := by
        obtain ⟨e', he', hle⟩ := ih h
        exact ⟨e', List.mem_cons_of_mem _ he', hle⟩
      unfold shareFinding at h
      split at h
      · exact hrest h
      · split at h
        · split at h
          · cases h
          · split at h
            · injection h with _ hexcess
              exact ⟨e, List.mem_cons_self, hexcess ▸ Nat.sub_le _ _⟩
            · exact hrest h
        · exact hrest h

theorem trailingIntents_word (hs : s.Coherent policy members) :
    ∀ i ∈ trailingIntents domain s v, i.amountUnits < 2 ^ 64 := by
  have hwords := hs.acc.words
  have hguarantees : s.acc.guaranteesTotal < 2 ^ 64 := hwords _ (by simp [DomainAccounting.amounts])
  have hburst : s.acc.burstCommitted < 2 ^ 64 := hwords _ (by simp [DomainAccounting.amounts])
  have hcontingent : s.acc.contingentCommitted < 2 ^ 64 := hwords _ (by simp [DomainAccounting.amounts])
  have hshort : (if decide (s.acc.effectiveUsableCapacity < s.acc.guaranteesTotal) = true then
      s.acc.guaranteesTotal - s.acc.effectiveUsableCapacity else s.violation) < 2 ^ 64 := by
    have hviolation := hs.violation
    split <;> omega
  intro i hi
  unfold trailingIntents at hi
  simp only [List.mem_append] at hi
  rcases hi with (hi | hi) | hi
  · split at hi
    · simp only [List.mem_cons, List.not_mem_nil, or_false] at hi
      rcases hi with rfl | rfl
      · exact hshort
      · exact hshort
    · cases hi
  · split at hi
    · rw [List.mem_singleton.mp hi]
      exact (Nat.sub_le _ _).trans_lt hburst
    · cases hi
  · cases ho : v.outcome <;> rw [ho] at hi <;> simp only [outcomeIntents, List.mem_cons, List.not_mem_nil,
      or_false] at hi
    all_goals first
      | rcases hi with rfl | rfl <;> exact Nat.two_pow_pos 64
      | (subst hi; first | exact hcontingent | exact Nat.two_pow_pos 64)

theorem dueIntents_word (hg : g.Coherent policy members) (hs : s.Coherent policy members) :
    ∀ i ∈ dueIntents domain g s v, i.amountUnits < 2 ^ 64 := by
  have hover : s.acc.overage < 2 ^ 64 := hs.acc.words _ (by simp [DomainAccounting.amounts])
  intro i hi
  unfold dueIntents leadingIntents at hi
  simp only [List.mem_append] at hi
  rcases hi with ((hi | hi) | hi) | hi
  · split at hi
    · rw [List.mem_singleton.mp hi]
      exact hover
    · cases hi
  · split at hi
    · rw [List.mem_singleton.mp hi]
      exact Nat.two_pow_pos 64
    · cases hi
  · split at hi
    · rw [List.mem_singleton.mp hi]
      exact hg.ineligible
    · cases hi
  · exact trailingIntents_word hs i hi

theorem finish_coherent (hg : g.Coherent policy members) (hs : s.Coherent policy members)
    (hv : Found policy.limits domain (finding order index g s) v) :
    (finish policy.limits domain g s v).Coherent policy members := by
  obtain ⟨l, hl, hwords⟩ : ∃ l, v.intents = listed policy.limits l ∧ ∀ i ∈ l, i.amountUnits < 2 ^ 64 := by
    rcases hv with hnone | ⟨id, excess, hfound, -, hone⟩
    · exact ⟨[], hnone, by simp⟩
    · refine ⟨[shareIntent domain id excess], hone, fun i hi => ?_⟩
      obtain ⟨e, he, hle⟩ := shareFinding_le hfound
      rw [(order.contingent_perm _).mem_iff] at he
      have hclass := hg.classes e.1
      obtain ⟨-, hamount⟩ := mem_entries.mp he
      rw [← hamount] at hclass
      rw [List.mem_singleton.mp hi]
      exact hle.trans_lt hclass
  have hall : finishIntents policy.limits domain g s v = listed policy.limits (l ++ dueIntents domain g s v) :=
    finishIntents_eq hl
  have hintents : ∀ i ∈ finishIntents policy.limits domain g s v, i.amountUnits < 2 ^ 64 := by
    rw [hall]
    exact plain_of_listed (List.forall_mem_append.mpr ⟨hwords, dueIntents_word hg hs⟩)
  have hlength : (finishIntents policy.limits domain g s v).length < 2 ^ 64 := by
    rw [hall]
    exact listed_length
  exact finalize_coherent hs.acc hs.resources hlength hintents

theorem conclude_coherent (hg : g.Coherent policy members) :
    (conclude .u64 order policy index domain g).Coherent policy members := by
  have hs : (settle .u64 policy domain g).Coherent policy members := settle_coherent hg
  unfold conclude
  dsimp only
  split
  · exact finish_coherent hg hs verdict_found
  · exact reject_coherent { hs.acc with } hs.resources

/-- **Every result** is coherent. -/
theorem evaluate_coherent (hwarn : 0 < policy.thresholds.warnUsedPpm.toNat) :
    (evaluateDomain order policy index domain expectation evidence tick).Coherent policy
      domain.members.length := by
  have hgather : Ensures (Stopped policy domain domain.members.length)
      (Gathered.Coherent policy domain.members.length)
      (gather .u64 order policy index domain expectation evidence tick) := gather_coherent hwarn
  unfold evaluateDomain evaluateDomainIn
  cases hg : gather .u64 order policy index domain expectation evidence tick with
  | error r =>
      rw [hg] at hgather
      obtain ⟨authority, x, rfl, hx⟩ := hgather
      exact reject_coherent hx (Nat.two_pow_pos 64)
  | ok g =>
      rw [hg] at hgather
      exact conclude_coherent hgather

end

end Oversub
