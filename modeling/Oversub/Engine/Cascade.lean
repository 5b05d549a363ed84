import Oversub.Engine.Closed

/-!
# Oversub.Engine.Cascade

The outcome cascade decides the abstract judgement (`verdict_spec`), and
what an evaluation returns follows: it reaches the cascade with exact amounts
(`Reaches`, `evaluate_of_reaches`), or it is refused and grants nothing
(`evaluate_refused`).
-/

namespace Oversub

open EarlyFold Tally

/-! ## Findings of the evidence -/

section

variable {A : Arith}

/-- Adding saturating amounts under a condition leaves zero exactly when the
condition never applies. -/
theorem foldl_addSat_pos {α : Type} {p : α → Prop} [DecidablePred p] {f : α → Nat}
    (hf : ∀ a, p a → 0 < f a) {l : List α} {n : Nat} :
    0 < l.foldl (fun n a => if p a then A.addSat n (f a) else n) n ↔ 0 < n ∨ ∃ a ∈ l, p a := by
  induction l generalizing n with
  | nil => simp
  | cons a l ih =>
      rw [List.foldl_cons, ih]
      by_cases h : p a
      · have hpos : 0 < A.addSat n (f a) := by
          refine Nat.pos_of_ne_zero fun h0 => ?_
          have := (Arith.addSat_eq_zero.mp h0).2
          have := hf a h
          omega
        simp [h, hpos]
      · simp [h]

theorem unmapped_pos {order : MapOrder} {domain : DomainConfig} {sn : Snapshots} :
    0 < unmappedGuaranteed A order (admitted domain sn.adm.records)
        (backing domain sn.res.guarantees) ↔
      sn.adm.records.any (isUnbacked domain sn) = true := by
  have hfold : 0 < unmappedGuaranteed A order (admitted domain sn.adm.records)
      (backing domain sn.res.guarantees) ↔ 0 < 0 ∨
        ∃ e ∈ order.admitted (admitted domain sn.adm.records).entries,
          get (backing domain sn.res.guarantees) e.1 < e.2 :=
    foldl_addSat_pos fun _ h => Nat.sub_pos_of_lt h
  rw [hfold, List.any_eq_true]
  simp only [Nat.lt_irrefl, false_or, (order.admitted_perm _).mem_iff, isUnbacked,
    Bool.and_eq_true, decide_eq_true_eq]
  constructor
  · rintro ⟨⟨key, n⟩, hmem, hlt⟩
    obtain ⟨hkey, rfl⟩ := mem_entries.mp hmem
    rw [admitted, mem_collect] at hkey
    rcases hkey with hkey | ⟨r, hr, hG, rfl⟩
    · exact absurd hkey (AList.notMem_empty _)
    · exact ⟨r, hr, hG, hlt⟩
  · rintro ⟨r, hr, hG, hlt⟩
    refine ⟨⟨(r.resource, r.serviceClass), _⟩, mem_entries.mpr ⟨?_, rfl⟩, hlt⟩
    exact mem_collect.mpr (.inr ⟨r, hr, hG, rfl⟩)

theorem ineligible_pos {index : PolicyIndex} {domain : DomainConfig} {rs : List DemandRecord} :
    0 < ineligibleAmount A index domain rs ↔
      (rs.any fun r => isIneligible domain index r && (committed r != 0 || pending r != 0)) = true := by
  have hzero : ineligibleAmount A index domain rs = 0 ↔
      ∀ r ∈ rs, isIneligible domain index r = true → committed r = 0 ∧ pending r = 0 := by
    rw [ineligibleAmount, Arith.sumSat_eq_zero, List.forall_mem_map]
    simp only [List.mem_filter, and_imp, Arith.addSat_eq_zero]
  rw [Nat.pos_iff_ne_zero, ne_eq, hzero, ← Bool.not_eq_false, List.any_eq_false]
  refine not_congr (forall_congr' fun r => imp_congr_right fun _ => ?_)
  cases isIneligible domain index r <;> simp

theorem violation_pos {resources : List ResourceAccum} :
    0 < (guaranteeViolation A resources).1 ↔
      ∃ ra ∈ resources, ra.effectiveUsable < ra.guarantees := by
  have hfold : ∀ (l : List ResourceAccum) (v : Nat × ResourceId),
      (l.foldl (fun v ra =>
        if ra.effectiveUsable < ra.guarantees then
          (A.addSat v.1 (ra.guarantees - ra.effectiveUsable), ra.capacity.resource)
        else v) v).1 =
      l.foldl (fun n ra =>
        if ra.effectiveUsable < ra.guarantees then
          A.addSat n (ra.guarantees - ra.effectiveUsable) else n) v.1 := by
    intro l
    induction l with
    | nil => intro v; rfl
    | cons ra l ih =>
        intro v
        rw [List.foldl_cons, List.foldl_cons, ih]
        split <;> rfl
  rw [guaranteeViolation, hfold, foldl_addSat_pos fun _ h => Nat.sub_pos_of_lt h]
  simp

/-- The emergency threshold is reached exactly when the overage reaches that
share of the ceiling, rounded up. -/
theorem emergency_iff {acc : DomainAccounting} {s : Standing} (hm : Matches acc s)
    (hpos : 0 < s.emergencyPpm) (hle : s.emergencyPpm ≤ kPpmScale) (ho : 0 < s.overage) :
    s.emergencyPpm ≤ overagePpm A acc ↔ s.EmergencyOverage := by
  have hscale : kPpmScale = 1000000 := rfl
  unfold overagePpm Standing.EmergencyOverage
  rw [hm.ceiling, hm.overage]
  by_cases h0 : s.ceiling = 0
  · rw [if_pos h0, h0, Nat.mul_zero]
    exact iff_of_true hle (by omega)
  · rw [if_neg h0, ← hscale]
    have hc : 0 < s.ceiling := Nat.pos_of_ne_zero h0
    cases hq : A.mulDivCeil s.overage kPpmScale s.ceiling with
    | some q =>
        obtain ⟨-, rfl⟩ := Arith.mulDivCeil_eq_some hq
        rw [Option.getD_some, Floor.le_ceil_iff hc hpos]
    | none =>
        -- the quotient is beyond 64 bits, far above any threshold
        have hbig := Arith.mulDivCeil_eq_none h0 hq
        refine iff_of_true hle ?_
        refine Nat.not_le.mp fun hle' => ?_
        have hquot : s.overage * kPpmScale / s.ceiling ≤ s.emergencyPpm - 1 :=
          Nat.div_le_of_le_mul (Nat.mul_comm s.ceiling _ ▸ hle')
        omega

/-! ## Shares -/

theorem ppmOf_le {n ppm : Nat} (hppm : ppm ≤ kPpmScale) (hn : A.fits n = true) :
    A.ppmOf n ppm = some (n * ppm / kPpmScale) :=
  Arith.mulDivFloor_eq_some.mpr ⟨by decide, A.fits_mono (Floor.scale_le hppm) hn, rfl⟩

/-- With share caps of at most the whole, the loop never overflows, and finds
a class exactly when one exceeds its share. -/
theorem shareFinding_spec {index : PolicyIndex} {ceiling : Nat} (hfit : A.fits ceiling = true)
    (hshare : ∀ id cls, index.serviceClass id = some cls → cls.hasContingentShareCap = true →
      cls.contingentShareCapPpm.toNat ≤ kPpmScale) (l : List (Σ _ : ServiceClassId, Nat)) :
    (shareFinding A index ceiling l = .within ∧ ∀ e ∈ l, shareBroken index ceiling e.1 e.2 = false) ∨
      ∃ id excess, shareFinding A index ceiling l = .exceeded id excess ∧
        ∃ e ∈ l, shareBroken index ceiling e.1 e.2 = true := by
  induction l with
  | nil => exact .inl ⟨rfl, fun _ h => absurd h List.not_mem_nil⟩
  | cons e l ih =>
      have hskip : shareFinding A index ceiling (e :: l) = shareFinding A index ceiling l →
          shareBroken index ceiling e.1 e.2 = false →
          (shareFinding A index ceiling (e :: l) = .within ∧
            ∀ e' ∈ e :: l, shareBroken index ceiling e'.1 e'.2 = false) ∨
          ∃ id excess, shareFinding A index ceiling (e :: l) = .exceeded id excess ∧
            ∃ e' ∈ e :: l, shareBroken index ceiling e'.1 e'.2 = true := by
        intro hfind hok
        rw [hfind]
        rcases ih with ⟨hw, hall⟩ | ⟨id, excess, hex, e', he', hb⟩
        · exact .inl ⟨hw, List.forall_mem_cons.mpr ⟨hok, hall⟩⟩
        · exact .inr ⟨id, excess, hex, e', List.mem_cons_of_mem _ he', hb⟩
      cases hcls : index.serviceClass e.1 with
      | none => exact hskip (by simp [shareFinding, hcls]) (by simp [shareBroken, hcls])
      | some cls =>
          cases hcap : cls.hasContingentShareCap with
          | false =>
              exact hskip (by simp [shareFinding, hcls, hcap]) (by simp [shareBroken, hcls, hcap])
          | true =>
              have hallowed := ppmOf_le (hshare _ _ hcls hcap) hfit
              by_cases hlt : ceiling * cls.contingentShareCapPpm.toNat / kPpmScale < e.2
              · refine .inr ⟨e.1, e.2 - ceiling * cls.contingentShareCapPpm.toNat / kPpmScale, ?_,
                  e, List.mem_cons_self, by simp [shareBroken, hcls, hcap, hlt]⟩
                simp [shareFinding, hcls, hcap, hallowed, hlt]
              · exact hskip (by simp [shareFinding, hcls, hcap, hallowed, hlt])
                  (by simp [shareBroken, hcls, hcap, hlt])

end

/-! ## The cascade decides the judgement -/

section

variable {A : Arith} {order : MapOrder} {policy : OversubscriptionPolicy} {domain : DomainConfig}
  {sn : Snapshots} {authority : AuthorityVector}

theorem share_le_of_installable (hp : policy.Installable) (id : ServiceClassId)
    (cls : ServiceClassRef) (hcls : (PolicyIndex.rebuild policy).serviceClass id = some cls)
    (hcap : cls.hasContingentShareCap = true) : cls.contingentShareCapPpm.toNat ≤ kPpmScale :=
  hp.share_le cls (PolicyIndex.serviceClass_eq_some hcls).1 hcap

/-- Some class is found beyond its share exactly when the standing says so. -/
theorem exists_shareBroken {index : PolicyIndex} :
    (∃ e ∈ order.contingent (contingentByClass domain index sn.adm.records).entries,
        shareBroken index (standing policy index domain sn).contingentCeiling e.1 e.2 = true) ↔
      (standing policy index domain sn).shareExceeded = true := by
  simp only [standing, List.any_eq_true, (order.contingent_perm _).mem_iff, Bool.and_eq_true]
  constructor
  · rintro ⟨⟨id, n⟩, hmem, hb⟩
    obtain ⟨hid, rfl⟩ := mem_entries.mp hmem
    rw [contingentByClass, mem_collect] at hid
    rcases hid with hid | ⟨r, hr, hC, rfl⟩
    · exact absurd hid (AList.notMem_empty _)
    · rw [get_contingentByClass] at hb
      exact ⟨r, hr, hC, hb⟩
  · rintro ⟨r, hr, hC, hb⟩
    refine ⟨⟨r.serviceClass, _⟩, mem_entries.mpr ⟨mem_collect.mpr (.inr ⟨r, hr, hC, rfl⟩), rfl⟩, ?_⟩
    rw [← get_contingentByClass] at hb
    exact hb

/-- **The outcome**: on a validated policy, a closed evaluation decides the
outcome of the standing, for the same reason. -/
theorem verdict_spec (hp : policy.Installable) (hd : domain.Installable policy)
    (h : Closes A policy (.rebuild policy) domain sn) :
    (verdict A order policy (.rebuild policy) domain
        (gathered A order (.rebuild policy) domain sn authority)
        (settle A policy domain (gathered A order (.rebuild policy) domain sn authority))).outcome =
      (standing policy (.rebuild policy) domain sn).outcome ∧
    (verdict A order policy (.rebuild policy) domain
        (gathered A order (.rebuild policy) domain sn authority)
        (settle A policy domain (gathered A order (.rebuild policy) domain sn authority))).reason =
      (standing policy (.rebuild policy) domain sn).reason := by
  have hm : Matches (settle A policy domain
      (gathered A order (.rebuild policy) domain sn authority)).acc
        (standing policy (.rebuild policy) domain sn) := settle_matches hp hd h
  have hun : 0 < (gathered A order (.rebuild policy) domain sn authority).unmapped ↔
      (standing policy (.rebuild policy) domain sn).unmapped = true := unmapped_pos
  have hin : 0 < (gathered A order (.rebuild policy) domain sn authority).ineligibleAmount ↔
      (standing policy (.rebuild policy) domain sn).ineligible = true := ineligible_pos
  have hvi : 0 < (settle A policy domain
      (gathered A order (.rebuild policy) domain sn authority)).violation ↔
        (standing policy (.rebuild policy) domain sn).violated = true := by
    refine violation_pos.trans ?_
    simp [gathered, standing, totalAccum, demandAccum, guaranteeAccum, memberAccum]
  have hbu : (domain.burstPoolEnabled && decide (domain.burstPoolCapUnits.toNat <
      (settle A policy domain
        (gathered A order (.rebuild policy) domain sn authority)).acc.burstCommitted)) =
        (standing policy (.rebuild policy) domain sn).burstExceeded := rfl
  have hfit : A.fits (standing policy (.rebuild policy) domain sn).contingentCeiling = true :=
    A.fits_mono (Nat.le_trans (Nat.sub_le _ _) legalCeiling_le_ratio) h.ceilings.ratio
  have hshare := shareFinding_spec hfit (share_le_of_installable hp)
    (order.contingent (gathered A order (.rebuild policy) domain sn authority).contingentByClass.entries)
  have hem : 0 < (standing policy (.rebuild policy) domain sn).overage →
      (policy.thresholds.emergencyOveragePpm.toNat ≤ overagePpm A (settle A policy domain
          (gathered A order (.rebuild policy) domain sn authority)).acc ↔
        (standing policy (.rebuild policy) domain sn).EmergencyOverage) :=
    emergency_iff hm (Nat.lt_of_lt_of_le hp.reduce_pos hp.reduce_le) hp.emergency_le
  have hex : (∃ e ∈ order.contingent
      (contingentByClass domain (.rebuild policy) sn.adm.records).entries,
        shareBroken (.rebuild policy)
          (standing policy (.rebuild policy) domain sn).contingentCeiling e.1 e.2 = true) ↔
        (standing policy (.rebuild policy) domain sn).shareExceeded = true :=
    exists_shareBroken
  have hshares : (shareFinding A (.rebuild policy) (settle A policy domain
        (gathered A order (.rebuild policy) domain sn authority)).acc.contingentCeiling
      (order.contingent
        (gathered A order (.rebuild policy) domain sn authority).contingentByClass.entries) = .within ∧
        (standing policy (.rebuild policy) domain sn).shareExceeded = false) ∨
      ∃ id excess, shareFinding A (.rebuild policy) (settle A policy domain
        (gathered A order (.rebuild policy) domain sn authority)).acc.contingentCeiling
      (order.contingent
        (gathered A order (.rebuild policy) domain sn authority).contingentByClass.entries) =
          .exceeded id excess ∧
        (standing policy (.rebuild policy) domain sn).shareExceeded = true := by
    rw [hm.contingentCeiling]
    rcases hshare with ⟨hw, hall⟩ | ⟨id, excess, hfound, hmem⟩
    · refine .inl ⟨hw, Bool.eq_false_iff.mpr fun hs => ?_⟩
      obtain ⟨e, he, hb⟩ := hex.mpr hs
      exact Bool.false_ne_true ((hall e he).symm.trans hb)
    · exact .inr ⟨id, excess, hfound, hex.mp hmem⟩
  clear hshare hex
  generalize settle A policy domain
    (gathered A order (.rebuild policy) domain sn authority) = s at hm hvi hbu hem hshares ⊢
  generalize gathered A order (.rebuild policy) domain sn authority = g at *
  generalize standing policy (.rebuild policy) domain sn = st at *
  unfold verdict Standing.outcome Standing.reason
  dsimp only
  rw [hm.capacity, hm.guarantees, hm.protectedRequired, hm.floorRequired, hm.ceiling, hm.committed,
    hm.overage, hm.contingentFree, hbu]
  by_cases h1 : st.unmapped = true
  · rw [if_pos (hun.mpr h1), if_pos h1, if_pos h1]
    exact ⟨rfl, rfl⟩
  rw [if_neg (mt hun.mp h1), if_neg h1, if_neg h1]
  by_cases h2 : st.ineligible = true
  · rw [if_pos (hin.mpr h2), if_pos h2, if_pos h2]
    exact ⟨rfl, rfl⟩
  rw [if_neg (mt hin.mp h2), if_neg h2, if_neg h2]
  -- the three ways in which the protected obligations are short share an outcome
  by_cases h3 : st.ProtectedShort
  · rw [if_pos h3, if_pos h3]
    by_cases hv : 0 < s.violation
    · rw [if_pos hv]
      exact ⟨rfl, rfl⟩
    · have hcap : st.capacity < st.protectedRequired := h3.resolve_left (mt hvi.mpr hv)
      rw [if_neg hv]
      by_cases hg : st.capacity < st.guarantees
      · rw [if_pos hg]
        exact ⟨rfl, rfl⟩
      · rw [if_neg hg, if_pos hcap]
        exact ⟨rfl, rfl⟩
  have hv : ¬ 0 < s.violation := fun hv => h3 (.inl (hvi.mp hv))
  have hcap : ¬ st.capacity < st.protectedRequired := fun hc => h3 (.inr hc)
  have hg : ¬ st.capacity < st.guarantees := fun hg =>
    hcap (Nat.lt_of_lt_of_le hg (Nat.le_add_right _ _))
  rw [if_neg h3, if_neg h3, if_neg hv, if_neg hg, if_neg hcap]
  by_cases h4 : st.FloorShort
  · rw [if_pos h4, if_pos h4]
    by_cases hf : st.capacity < st.floorRequired
    · rw [if_pos hf]
      exact ⟨rfl, rfl⟩
    · rw [if_neg hf, if_pos (h4.resolve_left hf)]
      exact ⟨rfl, rfl⟩
  rw [if_neg h4, if_neg h4, if_neg fun hf => h4 (.inl hf), if_neg fun hf => h4 (.inr hf)]
  by_cases h5 : st.capacity = 0
  · simp only [if_pos h5]
    split <;> exact ⟨rfl, rfl⟩
  simp only [if_neg h5]
  by_cases h6 : 0 < st.overage
  · simp only [if_pos h6]
    by_cases h7 : st.EmergencyOverage
    · rw [if_pos ((hem h6).mpr h7), if_pos h7]
      exact ⟨rfl, rfl⟩
    · rw [if_neg (mt (hem h6).mp h7), if_neg h7]
      exact ⟨rfl, rfl⟩
  simp only [if_neg h6]
  cases h8 : st.burstExceeded with
  | true => exact ⟨rfl, rfl⟩
  | false =>
      rcases hshares with ⟨hw, hs⟩ | ⟨id, excess, hfound, hs⟩
      · simp only [hw, hs, Bool.or_false, Bool.false_eq_true, if_false]
        split <;> exact ⟨rfl, rfl⟩
      · rw [hfound, hs]
        exact ⟨rfl, rfl⟩

end

/-! ## What an evaluation returns -/

/-- The evidence passes its checks, and every sum over it closes. -/
structure Passes (A : Arith) (policy : OversubscriptionPolicy) (domain : DomainConfig)
    (expectation : AuthorityExpectation) (sn : Snapshots) (tick : UInt64) : Prop where
  gate : EvidenceGate policy (.rebuild policy) domain expectation sn tick
  fits : EvidenceFits A (.rebuild policy) domain sn
  closes : Closes A policy (.rebuild policy) domain sn

/-- It also stays within the policy's capacity bound, and so takes an
evaluation to its cascade. -/
structure Reaches (A : Arith) (policy : OversubscriptionPolicy) (domain : DomainConfig)
    (expectation : AuthorityExpectation) (sn : Snapshots) (tick : UInt64) : Prop
    extends Passes A policy domain expectation sn tick where
  within : WithinCapacityBound A policy.limits (memberEntries domain sn.cap)

/-- The result is the judgement of the standing, with its amounts. -/
structure Decides (result : EvaluationResult) (s : Standing) : Prop where
  outcome : result.outcome = s.outcome
  reason : result.reason = s.reason
  amounts : Matches result.accounting s
  increment : result.authorizedIncrementUnits =
    if s.outcome = .withinPolicy then s.contingentFree else 0

section

variable {A : Arith} {order : MapOrder} {policy : OversubscriptionPolicy} {index : PolicyIndex}
  {domain : DomainConfig} {expectation : AuthorityExpectation} {evidence : DomainEvidence}
  {sn : Snapshots} {tick : UInt64}

@[simp] theorem allowsNewAuthority_iff {o : Outcome} :
    o.allowsNewAuthority = true ↔ o = .withinPolicy := by
  rw [Outcome.allowsNewAuthority, beq_iff_eq]

/-- Gathering fails with a refusal. -/
theorem gather_error {r : EvaluationResult}
    (h : gather A order policy index domain expectation evidence tick = .error r) :
    ∃ authority x, r = stop policy domain authority x := by
  have hstop : ∀ {α : Type} {x : Except Refusal α} {authority : AuthorityVector},
      x.mapError (stop policy domain authority) = .error r →
        ∃ authority x, r = stop policy domain authority x := by
    intro α x authority hx
    obtain ⟨e, -, rfl⟩ := mapError_eq_error.mp hx
    exact ⟨authority, e, rfl⟩
  unfold gather at h
  simp only [bind_eq_error] at h
  rcases h with h | ⟨_, _, h | ⟨_, _, h | ⟨_, _, h | ⟨_, _, h⟩⟩⟩⟩
  all_goals exact hstop h

/-- Every result is finalized. -/
theorem evaluate_finalized : ∃ r,
    evaluateDomainIn A order policy index domain expectation evidence tick =
      finalizeEvaluationResult r := by
  unfold evaluateDomainIn
  cases hg : gather A order policy index domain expectation evidence tick with
  | error r =>
      obtain ⟨authority, x, rfl⟩ := gather_error hg
      exact ⟨_, rfl⟩
  | ok g =>
      dsimp only [conclude]
      split
      · exact ⟨_, rfl⟩
      · exact ⟨_, rfl⟩

/-- The grant follows from the outcome. -/
theorem increment_of_outcome
    (h : (evaluateDomainIn A order policy index domain expectation evidence tick).outcome ≠
      .withinPolicy) :
    (evaluateDomainIn A order policy index domain expectation evidence
      tick).authorizedIncrementUnits = 0 := by
  obtain ⟨r, hr⟩ : ∃ r, evaluateDomainIn A order policy index domain expectation evidence tick =
    finalizeEvaluationResult r := evaluate_finalized
  rw [hr, finalize_outcome] at h
  rw [hr, finalize_increment, if_neg (mt allowsNewAuthority_iff.mp h)]

/-- The evaluation of evidence that is gathered. -/
theorem evaluate_of_gather {g : Gathered}
    (h : gather A order policy index domain expectation evidence tick = .ok g) :
    evaluateDomainIn A order policy index domain expectation evidence tick =
      conclude A order policy index domain g := by
  rw [evaluateDomainIn, h]

theorem conclude_of_closed {g : Gathered} (h : (settle A policy domain g).closed = true) :
    conclude A order policy index domain g =
      finish policy.limits domain g (settle A policy domain g)
        (verdict A order policy index domain g (settle A policy domain g)) := by
  rw [conclude, if_pos h]

theorem conclude_of_not_closed {g : Gathered} (h : ¬ (settle A policy domain g).closed = true) :
    (conclude A order policy index domain g).outcome = .unknown := by
  rw [conclude, if_neg h]
  rfl

/-- Evidence that reaches the cascade is finished with the verdict of its totals. -/
theorem evaluate_eq_finish (hp : policy.Installable) (hd : domain.Installable policy)
    (h : Reaches A policy domain expectation sn tick) :
    let g := gathered A order (.rebuild policy) domain sn
      (gatheredAuthority policy domain expectation sn tick)
    evaluateDomainIn A order policy (.rebuild policy) domain expectation sn.evidence tick =
      finish policy.limits domain g (settle A policy domain g)
        (verdict A order policy (.rebuild policy) domain g (settle A policy domain g)) := by
  have hg : gather A order policy (.rebuild policy) domain expectation sn.evidence tick =
      .ok (gathered A order (.rebuild policy) domain sn
        (gatheredAuthority policy domain expectation sn tick)) :=
    (gather_eq_ok hd.members_nodup).mpr ⟨sn, rfl, h.gate, h.fits, h.within, rfl⟩
  rw [evaluate_of_gather hg, conclude_of_closed ((settle_closed hp hd).mpr h.closes)]

/-- **Deciding**: evidence that reaches the cascade is judged by its standing. -/
theorem evaluate_decides (hp : policy.Installable) (hd : domain.Installable policy)
    (h : Reaches A policy domain expectation sn tick) :
    Decides (evaluateDomainIn A order policy (.rebuild policy) domain expectation sn.evidence tick)
      (standing policy (.rebuild policy) domain sn) := by
  rw [evaluate_eq_finish hp hd h]
  have hm : Matches (settle A policy domain (gathered A order (.rebuild policy) domain sn
      (gatheredAuthority policy domain expectation sn tick))).acc
        (standing policy (.rebuild policy) domain sn) := settle_matches hp hd h.closes
  refine ⟨(verdict_spec hp hd h.closes).1, (verdict_spec hp hd h.closes).2, hm, ?_⟩
  simp only [finish, finalize_increment, (verdict_spec hp hd h.closes).1, allowsNewAuthority_iff,
    hm.contingentFree]

theorem evaluate_authority (hp : policy.Installable) (hd : domain.Installable policy)
    (h : Reaches A policy domain expectation sn tick) :
    (evaluateDomainIn A order policy (.rebuild policy) domain expectation sn.evidence tick).authority =
      gatheredAuthority policy domain expectation sn tick := by
  rw [evaluate_eq_finish hp hd h]
  rfl

/-- **Mildness**: an outcome milder than a refusal is decided by the cascade. -/
theorem evaluate_mild (hp : policy.Installable) (hd : domain.Installable policy)
    (h : (evaluateDomainIn A order policy (.rebuild policy) domain expectation evidence
      tick).outcome.severity < 5) :
    ∃ sn : Snapshots, evidence = sn.evidence ∧ Reaches A policy domain expectation sn tick := by
  cases hg : gather A order policy (.rebuild policy) domain expectation evidence tick with
  | error r =>
      rw [evaluateDomainIn, hg] at h
      obtain ⟨authority, x, rfl⟩ := gather_error hg
      exact absurd x.severe (Nat.not_le.mpr h)
  | ok g =>
      rw [evaluate_of_gather hg] at h
      obtain ⟨sn, rfl, hgate, hfits, hwithin, rfl⟩ := (gather_eq_ok hd.members_nodup).mp hg
      refine ⟨sn, rfl, ⟨hgate, hfits, Classical.byContradiction fun hc => ?_⟩, hwithin⟩
      have hopen : ¬ (settle A policy domain (gathered A order (.rebuild policy) domain sn
          (gatheredAuthority policy domain expectation sn tick))).closed = true :=
        mt (settle_closed hp hd).mp hc
      rw [conclude_of_not_closed hopen] at h
      exact absurd h (by decide)

/-- **Authority**: only evidence that reaches the cascade is given any. -/
theorem evaluate_authoritative (hp : policy.Installable) (hd : domain.Installable policy)
    (h : (evaluateDomainIn A order policy (.rebuild policy) domain expectation evidence
      tick).outcome.isAuthoritative = true) :
    ∃ sn : Snapshots, evidence = sn.evidence ∧ Reaches A policy domain expectation sn tick :=
  evaluate_mild hp hd (Nat.lt_of_le_of_lt (Outcome.isAuthoritative_iff.mp h) (by decide))

/-- The evidence that supports authority: it reaches the cascade, and its
amounts can be governed. -/
def Supports (A : Arith) (policy : OversubscriptionPolicy) (domain : DomainConfig)
    (expectation : AuthorityExpectation) (evidence : DomainEvidence) (tick : UInt64) : Prop :=
  ∃ sn : Snapshots, evidence = sn.evidence ∧ Reaches A policy domain expectation sn tick ∧
    (standing policy (.rebuild policy) domain sn).Governable

/-- **Authority** is given exactly to the evidence that supports it. -/
theorem authoritative_iff (hp : policy.Installable) (hd : domain.Installable policy) :
    (evaluateDomainIn A order policy (.rebuild policy) domain expectation evidence
        tick).outcome.isAuthoritative = true ↔
      Supports A policy domain expectation evidence tick := by
  rw [Outcome.isAuthoritative_iff]
  constructor
  · intro h
    obtain ⟨sn, rfl, hreach⟩ := evaluate_mild hp hd (Nat.lt_of_le_of_lt h (by decide))
    rw [(evaluate_decides hp hd hreach).outcome, Standing.severity_le_three_iff] at h
    exact ⟨sn, rfl, hreach, h⟩
  · rintro ⟨sn, rfl, hreach, h⟩
    rw [(evaluate_decides hp hd hreach).outcome, Standing.severity_le_three_iff]
    exact h

theorem Snapshots.evidence_inj {sn sn' : Snapshots} (h : sn.evidence = sn'.evidence) : sn = sn' := by
  cases sn
  cases sn'
  simpa [Snapshots.evidence] using h

theorem reaches_of_mild (hp : policy.Installable) (hd : domain.Installable policy)
    (h : (evaluateDomainIn A order policy (.rebuild policy) domain expectation sn.evidence
      tick).outcome.severity < 5) : Reaches A policy domain expectation sn tick := by
  obtain ⟨sn', hev, hreach⟩ := evaluate_mild hp hd h
  rwa [Snapshots.evidence_inj hev]

/-- The evidence that is not refused before the boundary is computed. -/
def Gathers (A : Arith) (policy : OversubscriptionPolicy) (domain : DomainConfig)
    (expectation : AuthorityExpectation) (sn : Snapshots) (tick : UInt64) : Prop :=
  EvidenceGate policy (.rebuild policy) domain expectation sn tick ∧
    EvidenceFits A (.rebuild policy) domain sn ∧
    WithinCapacityBound A policy.limits (memberEntries domain sn.cap)

/-- Whether or not its sums close, gathered evidence is measured at its ratio. -/
theorem evaluate_ratio_of_gathers (hp : policy.Installable) (hd : domain.Installable policy)
    (h : Gathers A policy domain expectation sn tick) :
    (evaluateDomainIn A order policy (.rebuild policy) domain expectation sn.evidence
      tick).accounting.effectiveRatio = ratioOf domain sn := by
  obtain ⟨hgate, hfits, hwithin⟩ := h
  rw [evaluate_of_gather
    ((gather_eq_ok hd.members_nodup).mpr ⟨sn, rfl, hgate, hfits, hwithin, rfl⟩), conclude]
  split
  · exact gatheredRatio_eq hp hd
  · exact gatheredRatio_eq hp hd

theorem evaluate_effectiveRatio (hp : policy.Installable) (hd : domain.Installable policy)
    (h : Reaches A policy domain expectation sn tick) :
    (evaluateDomainIn A order policy (.rebuild policy) domain expectation sn.evidence
      tick).accounting.effectiveRatio = ratioOf domain sn :=
  evaluate_ratio_of_gathers hp hd ⟨h.gate, h.fits, h.within⟩

/-- Evidence that is not gathered is refused at the configured ratio. -/
theorem evaluate_ratio_of_not_gathers (hd : domain.Installable policy)
    (h : ∀ sn : Snapshots, evidence = sn.evidence →
      ¬ Gathers A policy domain expectation sn tick) :
    (evaluateDomainIn A order policy (.rebuild policy) domain expectation evidence
      tick).accounting.effectiveRatio = domain.configuredRatio := by
  cases hg : gather A order policy (.rebuild policy) domain expectation evidence tick with
  | error r =>
      rw [evaluateDomainIn, hg]
      exact gather_error_ratio hg
  | ok g =>
      obtain ⟨sn, hev, hgate, hfits, hwithin, -⟩ := (gather_eq_ok hd.members_nodup).mp hg
      exact absurd ⟨hgate, hfits, hwithin⟩ (h sn hev)

/-- Evidence that only breaks the capacity bound is refused with no ceiling,
at the configured ratio. -/
theorem evaluate_outside (order : MapOrder) (hd : domain.Installable policy)
    (h : Passes A policy domain expectation sn tick)
    (hout : ¬ WithinCapacityBound A policy.limits (memberEntries domain sn.cap)) :
    let r := evaluateDomainIn A order policy (.rebuild policy) domain expectation sn.evidence tick
    r.accounting.ceilingTotal = 0 ∧ r.accounting.contingentCeiling = 0 ∧
      r.accounting.contingentFree = 0 ∧ r.authorizedIncrementUnits = 0 ∧
      r.accounting.effectiveRatio = domain.configuredRatio := by
  intro r
  have hr : r = stop policy domain (gatheredAuthority policy domain expectation sn tick)
      ((gatheredAccounting A (.rebuild policy) domain sn).conflicting .resourceCapacityInvalid
        "domain capacity exceeds the policy capacity bound") := by
    show evaluateDomainIn A order policy _ domain expectation sn.evidence tick = _
    rw [evaluateDomainIn, gather_outside hd.members_nodup h.gate h.fits hout]
  rw [hr]
  exact ⟨rfl, rfl, rfl, rfl, rfl⟩

end

end Oversub
