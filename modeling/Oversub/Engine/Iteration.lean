import Oversub.Lib.Rearrange
import Oversub.Engine.Grant

/-!
# Oversub.Engine.Iteration

How much of an evaluation depends on the order in which the hash tables are
walked.  The sum over the admitted totals does not (`unmapped_order`), and
the share loop names the same class in every order unless two classes exceed
their shares (`shareFinding_perm`).
-/

namespace Oversub

open Tally

/-! ## Sums -/

/-- Saturating additions commute: once saturated, a sum stays saturated. -/
theorem addSat_right_comm (n a b : Nat) :
    Arith.u64.addSat (Arith.u64.addSat n a) b = Arith.u64.addSat (Arith.u64.addSat n b) a := by
  have hmax : u64Max = 2 ^ 64 - 1 := rfl
  simp only [addSat_eq]
  split <;> split <;> split <;> split <;> omega

/-- Adding under a condition commutes as well. -/
theorem addSat_if_right_comm {p q : Prop} [Decidable p] [Decidable q] (n a b : Nat) :
    (if q then Arith.u64.addSat (if p then Arith.u64.addSat n a else n) b
        else if p then Arith.u64.addSat n a else n) =
      if p then Arith.u64.addSat (if q then Arith.u64.addSat n b else n) a
        else if q then Arith.u64.addSat n b else n := by
  by_cases hp : p
  · simp only [if_pos hp, addSat_right_comm n a b, apply_ite (Arith.u64.addSat · a)]
  · simp only [if_neg hp]

section

variable (order order' : MapOrder)

/-- What is unmapped is the same in every order. -/
theorem unmapped_order {admitted backing : ClassTable} :
    unmappedGuaranteed .u64 order admitted backing = unmappedGuaranteed .u64 order' admitted backing := by
  have hperm : (order.admitted admitted.entries).Perm (order'.admitted admitted.entries) :=
    (order.admitted_perm _).trans (order'.admitted_perm _).symm
  exact hperm.foldl_eq' (fun _ _ _ _ n => addSat_if_right_comm n _ _) 0

/-- The first half of an evaluation does not depend on the order. -/
theorem gather_order {policy : OversubscriptionPolicy} {index : PolicyIndex}
    {domain : DomainConfig} {expectation : AuthorityExpectation} {evidence : DomainEvidence}
    {tick : UInt64} :
    gather .u64 order policy index domain expectation evidence tick =
      gather .u64 order' policy index domain expectation evidence tick := by
  unfold gather gatherEvidence
  simp only [unmapped_order order order']

end

/-! ## The share loop -/

/-- What a class holds beyond its share. -/
def shareExcess (index : PolicyIndex) (ceiling : Nat) (id : ServiceClassId) (amount : Nat) : Nat :=
  match index.serviceClass id with
  | none => 0
  | some cls => amount - ceiling * cls.contingentShareCapPpm.toNat / kPpmScale

section

variable {index : PolicyIndex} {ceiling : Nat}

/-- With share caps of at most the whole, the loop stops at the first class
beyond its share. -/
theorem shareFinding_eq (hfit : Arith.u64.fits ceiling = true)
    (hshare : ∀ id cls, index.serviceClass id = some cls → cls.hasContingentShareCap = true →
      cls.contingentShareCapPpm.toNat ≤ kPpmScale) (l : List (Σ _ : ServiceClassId, Nat)) :
    shareFinding .u64 index ceiling l =
      match l.find? fun e => shareBroken index ceiling e.1 e.2 with
      | none => .within
      | some e => .exceeded e.1 (shareExcess index ceiling e.1 e.2) := by
  induction l with
  | nil => rfl
  | cons e l ih =>
      cases hb : shareBroken index ceiling e.1 e.2 with
      | true =>
          simp only [List.find?_cons, hb]
          unfold shareBroken at hb
          cases hcls : index.serviceClass e.1 with
          | none => simp [hcls] at hb
          | some cls =>
              simp only [hcls, Bool.and_eq_true, decide_eq_true_eq] at hb
              simp [shareFinding, shareExcess, hcls, hb.1, hb.2,
                ppmOf_le (hshare _ _ hcls hb.1) hfit]
      | false =>
          simp only [List.find?_cons, hb, ← ih]
          unfold shareBroken at hb
          cases hcls : index.serviceClass e.1 with
          | none => simp [shareFinding, hcls]
          | some cls =>
              cases hcap : cls.hasContingentShareCap with
              | false => simp [shareFinding, hcls, hcap]
              | true =>
                  simp only [hcls, hcap, Bool.true_and, decide_eq_false_iff_not] at hb
                  simp [shareFinding, hcls, hcap, hb, ppmOf_le (hshare _ _ hcls hcap) hfit]

/-- One class at most is beyond its share: every order finds the same. -/
theorem shareFinding_perm (hfit : Arith.u64.fits ceiling = true)
    (hshare : ∀ id cls, index.serviceClass id = some cls → cls.hasContingentShareCap = true →
      cls.contingentShareCapPpm.toNat ≤ kPpmScale) {order order' : MapOrder}
    {t : Table ServiceClassId}
    (huniq : ∀ id id', shareBroken index ceiling id (get t id) = true →
      shareBroken index ceiling id' (get t id') = true → id = id') :
    shareFinding .u64 index ceiling (order.contingent t.entries) =
      shareFinding .u64 index ceiling (order'.contingent t.entries) := by
  have hperm : (order.contingent t.entries).Perm (order'.contingent t.entries) :=
    (order.contingent_perm _).trans (order'.contingent_perm _).symm
  rw [shareFinding_eq hfit hshare, shareFinding_eq hfit hshare]
  rw [Rearrange.find?_perm hperm]
  rintro ⟨id, n⟩ he ⟨id', n'⟩ he' hb hb'
  rw [(order.contingent_perm _).mem_iff, mem_entries] at he he'
  obtain ⟨-, rfl⟩ := he
  obtain ⟨-, rfl⟩ := he'
  obtain rfl := huniq id id' hb hb'
  rfl

/-- The order that lists the class `id` first. -/
def MapOrder.leading (id : ServiceClassId) : MapOrder where
  admitted l := l
  contingent l := l.filter (fun e => e.1 = id) ++ l.filter (fun e => !decide (e.1 = id))
  admitted_perm := MapOrder.listed.admitted_perm
  contingent_perm l := List.filter_append_perm (fun e => decide (e.1 = id)) l

/-- A class beyond its share is the one that is found when it comes first. -/
theorem shareFinding_leading (hfit : Arith.u64.fits ceiling = true)
    (hshare : ∀ id cls, index.serviceClass id = some cls → cls.hasContingentShareCap = true →
      cls.contingentShareCapPpm.toNat ≤ kPpmScale) {t : Table ServiceClassId} {id : ServiceClassId}
    (hid : id ∈ t) (hb : shareBroken index ceiling id (get t id) = true) :
    ∃ excess, shareFinding .u64 index ceiling ((MapOrder.leading id).contingent t.entries) =
      .exceeded id excess := by
  have hmem : (⟨id, get t id⟩ : Σ _ : ServiceClassId, Nat) ∈
      t.entries.filter fun e => e.1 = id :=
    List.mem_filter.mpr ⟨mem_entries.mpr ⟨hid, rfl⟩, decide_eq_true rfl⟩
  rw [shareFinding_eq hfit hshare, MapOrder.leading, List.find?_append]
  cases hf : (t.entries.filter fun e => e.1 = id).find?
      fun e => shareBroken index ceiling e.1 e.2 with
  | none => exact absurd hb (List.find?_eq_none.mp hf _ hmem)
  | some e =>
      have he : e.1 = id := by simpa using (List.mem_filter.mp (List.mem_of_find?_eq_some hf)).2
      exact ⟨shareExcess index ceiling e.1 e.2, he ▸ rfl⟩

end

/-! ## The verdict -/

section

variable {order order' : MapOrder} {policy : OversubscriptionPolicy} {index : PolicyIndex}
  {domain : DomainConfig} {g : Gathered} {s : Settled}

/-- The finding of the share loop over the gathered totals. -/
def finding (order : MapOrder) (index : PolicyIndex) (g : Gathered) (s : Settled) : ShareFinding :=
  shareFinding .u64 index s.acc.contingentCeiling (order.contingent g.contingentByClass.entries)

/-- What the share loop leaves of the cascade. -/
def shareVerdict (policy : OversubscriptionPolicy) (domain : DomainConfig) (s : Settled) :
    ShareFinding → Verdict
  | .overflowed =>
      { outcome := .unknown, reason := .arithmeticOverflow
        detail := "service class share overflowed", notes := s.notes }
  | .exceeded serviceClass excess =>
      { outcome := .reductionRequired, reason := .serviceClassShareExceeded
        detail := "a service class exceeds its contingent share of the ceiling", notes := s.notes
        intents := addIntent policy.limits [] { baseIntent domain .reduceContingentAdmissionBudget
            .serviceClass .serviceClassShareExceeded
            "service class exceeds its contingent share" with
          serviceClass := serviceClass
          amountUnits := excess } }
  | .within =>
      if s.acc.contingentFree = 0 then
        { outcome := .atLimit, reason := .none
          detail := "the domain is exactly at its legal ceiling", notes := s.notes }
      else
        { outcome := .withinPolicy, reason := .none
          detail := "the domain is within its oversubscription policy"
          notes := if s.acc.approachingLimit then
              note policy.limits s.notes
                ("used " ++ toString s.acc.usedPpmOfCeiling ++ " ppm of the contingent ceiling")
            else s.notes }

/-- A verdict for every order: one that does not look at the shares, or the
rest of the cascade for all of them. -/
def OneOf (F T : MapOrder → Verdict) : Prop :=
  (∃ v : Verdict, v.reason ≠ .serviceClassShareExceeded ∧ ∀ order, F order = v) ∨
    ∀ order, F order = T order

theorem OneOf.orElse {c : Prop} [Decidable c] {F T : MapOrder → Verdict} {v : Verdict}
    (hv : v.reason ≠ .serviceClassShareExceeded) (h : OneOf F T) :
    OneOf (fun order => if c then v else F order) T := by
  by_cases hc : c
  · simp only [if_pos hc]
    exact .inl ⟨v, hv, fun _ => rfl⟩
  · simpa only [if_neg hc] using h

theorem OneOf.early {c d : Prop} [Decidable c] [Decidable d] {F T : MapOrder → Verdict}
    {v v' : Verdict} (hv : v.reason ≠ .serviceClassShareExceeded)
    (hv' : v'.reason ≠ .serviceClassShareExceeded) (h : OneOf F T) :
    OneOf (fun order => if c then if d then v else v' else F order) T := by
  by_cases hd : d
  · simpa only [if_pos hd] using h.orElse hv
  · simpa only [if_neg hd] using h.orElse hv'

/-- **The verdict**: settled before the shares in every order, or left to
them in every order. -/
theorem verdict_oneOf :
    OneOf (fun order => verdict .u64 order policy index domain g s)
      fun order => shareVerdict policy domain s (finding order index g s) := by
  unfold verdict
  dsimp only
  refine OneOf.orElse nofun <| OneOf.orElse nofun <| OneOf.orElse nofun <| OneOf.orElse nofun <|
    OneOf.orElse nofun <| OneOf.orElse nofun <| OneOf.orElse nofun <| OneOf.early nofun nofun <|
    OneOf.early nofun nofun <| OneOf.orElse nofun <| .inr fun order => ?_
  unfold finding
  cases shareFinding .u64 index s.acc.contingentCeiling
    (order.contingent g.contingentByClass.entries) <;> rfl

end

/-! ## Intents -/

section

variable {limits : PolicyLimits} {domain : DomainConfig} {g : Gathered} {s : Settled} {v : Verdict}

theorem addIntent_extends {l : List CorrectiveIntent} {intent : CorrectiveIntent} :
    l <+: addIntent limits l intent := by
  unfold addIntent
  split
  · exact List.prefix_rfl
  · exact List.prefix_append _ _

theorem addIntentIf_extends {c : Bool} {l : List CorrectiveIntent} {intent : CorrectiveIntent} :
    l <+: addIntentIf limits c intent l := by
  unfold addIntentIf
  split
  · exact addIntent_extends
  · exact List.prefix_rfl

/-- The intent of an overage. -/
def overageIntent (domain : DomainConfig) (overage : Nat) : CorrectiveIntent :=
  { baseIntent domain .reduceContingentAdmissionBudget .domain .admissionExceedsContingentCeiling
      "reduce the contingent admission budget by the overage" with
    amountUnits := overage }

/-- An overage comes right after the intents of the cascade. -/
theorem overageIntent_extends :
    addIntentIf limits (0 < s.acc.overage) (overageIntent domain s.acc.overage) v.intents <+:
      finishIntents limits domain g s v := by
  unfold finishIntents
  dsimp only
  have hsteps {l : List CorrectiveIntent} {a b c d e : CorrectiveIntent} {p q r t u : Bool} :
      l <+: addIntentIf limits u e (addIntentIf limits t d (addIntentIf limits r c (addIntentIf limits q b
        (addIntentIf limits p a l)))) :=
    addIntentIf_extends.trans <| addIntentIf_extends.trans <| addIntentIf_extends.trans <|
      addIntentIf_extends.trans addIntentIf_extends
  split
  · exact hsteps.trans addIntent_extends
  · exact hsteps.trans addIntent_extends
  · exact hsteps.trans addIntent_extends
  · exact hsteps.trans (addIntent_extends.trans addIntent_extends)
  · exact hsteps.trans addIntent_extends
  · exact hsteps

/-- The intents of the cascade stay in front. -/
theorem finishIntents_prefix : v.intents <+: finishIntents limits domain g s v :=
  addIntentIf_extends.trans overageIntent_extends

end

/-! ## Two classes beyond their shares -/

/-- The class holds more contingent demand than its share. -/
def OverShare (policy : OversubscriptionPolicy) (domain : DomainConfig) (sn : Snapshots)
    (id : ServiceClassId) : Prop :=
  shareBroken (.rebuild policy) (standing policy (.rebuild policy) domain sn).contingentCeiling id
    (contingentOf domain (.rebuild policy) sn.adm.records id) = true

/-- Two classes are over their shares, and nothing before the shares is wrong. -/
structure SharesTied (policy : OversubscriptionPolicy) (domain : DomainConfig) (sn : Snapshots) :
    Prop where
  sound : (standing policy (.rebuild policy) domain sn).Sound
  capacity : (standing policy (.rebuild policy) domain sn).capacity ≠ 0
  overage : (standing policy (.rebuild policy) domain sn).overage = 0
  burst : (standing policy (.rebuild policy) domain sn).burstExceeded = false
  classes : ∃ id id', id ≠ id' ∧ OverShare policy domain sn id ∧ OverShare policy domain sn id'

section

variable {order order' : MapOrder} {policy : OversubscriptionPolicy} {domain : DomainConfig}
  {expectation : AuthorityExpectation} {evidence : DomainEvidence} {sn : Snapshots} {tick : UInt64}
  {authority : AuthorityVector} {id : ServiceClassId}

/-- A class over its share holds contingent demand. -/
theorem OverShare.exists_record (h : OverShare policy domain sn id) :
    ∃ r ∈ sn.adm.records, isContingent domain (.rebuild policy) r = true ∧ r.serviceClass = id := by
  have hpos : contingentOf domain (.rebuild policy) sn.adm.records id ≠ 0 := by
    intro h0
    rw [OverShare, h0, shareBroken] at h
    split at h <;> simp at h
  rw [contingentOf, ne_eq, sumWhere_eq_zero] at hpos
  simp only [not_forall, Bool.and_eq_true, decide_eq_true_eq] at hpos
  obtain ⟨r, hr, hC, -⟩ := hpos
  exact ⟨r, hr, hC⟩

theorem OverShare.shareExceeded (h : OverShare policy domain sn id) :
    (standing policy (.rebuild policy) domain sn).shareExceeded = true := by
  obtain ⟨r, hr, hC, rfl⟩ := h.exists_record
  simp only [standing, List.any_eq_true, Bool.and_eq_true]
  exact ⟨r, hr, hC, h⟩

theorem contingentCeiling_fits (h : Closes .u64 policy (.rebuild policy) domain sn) :
    Arith.u64.fits (standing policy (.rebuild policy) domain sn).contingentCeiling = true :=
  Arith.u64.fits_mono (Nat.le_trans (Nat.sub_le _ _) legalCeiling_le_ratio) h.ceilings.ratio

/-- What the share loop of a closed evaluation finds. -/
theorem finding_gathered (hp : policy.Installable) (hd : domain.Installable policy)
    (h : Closes .u64 policy (.rebuild policy) domain sn) (order order' : MapOrder) :
    let g := gathered .u64 order (.rebuild policy) domain sn authority
    finding order' (.rebuild policy) g (settle .u64 policy domain g) =
      shareFinding .u64 (.rebuild policy)
        (standing policy (.rebuild policy) domain sn).contingentCeiling
        (order'.contingent (contingentByClass domain (.rebuild policy) sn.adm.records).entries) := by
  intro g
  have hm : Matches (settle .u64 policy domain g).acc (standing policy (.rebuild policy) domain sn) :=
    settle_matches hp hd h
  rw [finding, hm.contingentCeiling]
  rfl

/-- The reason of the verdict is that of the standing, in every order. -/
theorem verdict_reason (hp : policy.Installable) (hd : domain.Installable policy)
    (h : Closes .u64 policy (.rebuild policy) domain sn) (order order' : MapOrder) :
    let g := gathered .u64 order (.rebuild policy) domain sn authority
    (verdict .u64 order' policy (.rebuild policy) domain g (settle .u64 policy domain g)).reason =
      (standing policy (.rebuild policy) domain sn).reason := by
  intro g
  have hg : g = gathered .u64 order' (.rebuild policy) domain sn authority := by
    simp only [g, gathered, unmapped_order order order']
  rw [hg]
  exact (verdict_spec hp hd h).2

/-- Without a tie the verdict is the same in every order. -/
theorem verdict_order (hp : policy.Installable) (hd : domain.Installable policy)
    (h : Closes .u64 policy (.rebuild policy) domain sn) (hn : ¬ SharesTied policy domain sn) :
    let g := gathered .u64 order (.rebuild policy) domain sn authority
    verdict .u64 order policy (.rebuild policy) domain g (settle .u64 policy domain g) =
      verdict .u64 order' policy (.rebuild policy) domain g (settle .u64 policy domain g) := by
  intro g
  have hreason : ∀ o, (verdict .u64 o policy (.rebuild policy) domain g
      (settle .u64 policy domain g)).reason = (standing policy (.rebuild policy) domain sn).reason :=
    verdict_reason hp hd h order
  have hfit := contingentCeiling_fits h
  have hshare := share_le_of_installable hp
  rcases verdict_oneOf with ⟨v, -, hv⟩ | hv
  · exact (hv order).trans (hv order').symm
  dsimp only at hv
  rw [hv order, hv order', finding_gathered hp hd h, finding_gathered hp hd h]
  by_cases hs : (standing policy (.rebuild policy) domain sn).reason = .serviceClassShareExceeded
  · obtain ⟨hsound, hcap, hover, hburst, -⟩ := Standing.reason_eq_share.mp hs
    rw [shareFinding_perm hfit hshare fun id id' hb hb' => ?_]
    rw [get_contingentByClass] at hb hb'
    exact Decidable.byContradiction fun hne =>
      hn ⟨hsound, hcap, hover, hburst, id, id', hne, hb, hb'⟩
  · -- no order finds a class, or its verdict would say so
    have hwithin : ∀ o : MapOrder, shareFinding .u64 (.rebuild policy)
        (standing policy (.rebuild policy) domain sn).contingentCeiling
        (o.contingent (contingentByClass domain (.rebuild policy) sn.adm.records).entries) =
          .within := by
      intro o
      have ho := hreason o
      rw [hv o, finding_gathered hp hd h] at ho
      rw [shareFinding_eq hfit hshare] at ho ⊢
      split
      · rfl
      next e he =>
        rw [he] at ho
        exact absurd ho.symm hs
    rw [hwithin order, hwithin order']

/-- With a tie the verdict is about the class that comes first. -/
theorem verdict_leading (hp : policy.Installable) (hd : domain.Installable policy)
    (h : Closes .u64 policy (.rebuild policy) domain sn) (ht : SharesTied policy domain sn)
    (hid : OverShare policy domain sn id) :
    let g := gathered .u64 (.leading id) (.rebuild policy) domain sn authority
    let s := settle .u64 policy domain g
    ∃ excess, finding (.leading id) (.rebuild policy) g s = .exceeded id excess ∧
      verdict .u64 (.leading id) policy (.rebuild policy) domain g s =
        shareVerdict policy domain s (.exceeded id excess) := by
  intro g s
  have hreason : (verdict .u64 (.leading id) policy (.rebuild policy) domain g s).reason =
      (standing policy (.rebuild policy) domain sn).reason := verdict_reason hp hd h (.leading id) (.leading id)
  have hshare : (standing policy (.rebuild policy) domain sn).reason = .serviceClassShareExceeded :=
    Standing.reason_eq_share.mpr ⟨ht.sound, ht.capacity, ht.overage, ht.burst, hid.shareExceeded⟩
  have hmem : id ∈ contingentByClass domain (.rebuild policy) sn.adm.records := by
    obtain ⟨r, hr, hC, rfl⟩ := hid.exists_record
    exact mem_collect.mpr (.inr ⟨r, hr, hC, rfl⟩)
  obtain ⟨excess, hexcess⟩ := shareFinding_leading (contingentCeiling_fits h)
    (share_le_of_installable hp) hmem (get_contingentByClass ▸ hid)
  have hfound : finding (.leading id) (.rebuild policy) g s = .exceeded id excess :=
    (finding_gathered hp hd h (.leading id) (.leading id)).trans hexcess
  refine ⟨excess, hfound, ?_⟩
  rcases verdict_oneOf with ⟨v, hne, hv⟩ | hv
  · exact absurd ((congrArg Verdict.reason (hv (.leading id))).symm.trans (hreason.trans hshare)) hne
  · rw [← hfound]
    exact hv (.leading id)

/-- With a tie the class of the first intent is the one that comes first. -/
theorem intents_leading (hp : (validatePolicy policy).isOk = true) (hd : domain ∈ policy.domains)
    (h : Reaches .u64 policy domain expectation sn tick) (ht : SharesTied policy domain sn)
    (hid : OverShare policy domain sn id) :
    (evaluateDomain (.leading id) policy (.rebuild policy) domain expectation sn.evidence
      tick).intents.head?.map (·.serviceClass) = some id := by
  have hpi := validatePolicy_installable hp
  have hdi := hpi.domains _ hd
  have hroom : ¬ policy.limits.maxCorrectiveIntents.toNat ≤ 0 :=
    Nat.not_le.mpr (validatePolicy_intents_pos hp)
  rw [evaluateDomain, evaluate_eq_finish hpi hdi h]
  generalize gatheredAuthority policy domain expectation sn tick = authority
  obtain ⟨excess, -, hv⟩ := @verdict_leading policy domain sn authority id hpi hdi h.closes ht hid
  generalize gathered .u64 (.leading id) (.rebuild policy) domain sn authority = g at *
  obtain ⟨rest, hrest⟩ : (shareVerdict policy domain (settle .u64 policy domain g)
      (.exceeded id excess)).intents <+:
        finishIntents policy.limits domain g (settle .u64 policy domain g)
          (shareVerdict policy domain (settle .u64 policy domain g) (.exceeded id excess)) :=
    finishIntents_prefix
  rw [finish, hv, finalize_intents, ← hrest]
  simp [shareVerdict, addIntent, hroom]

/-- **Traversal order**: outcome, reason, intents and digest are the same in
every order exactly when no two classes are tied at the share loop. -/
theorem traversal_irrelevant_iff (hp : (validatePolicy policy).isOk = true)
    (hd : domain ∈ policy.domains) :
    (∀ order order' : MapOrder,
      let r := evaluateDomain order policy (.rebuild policy) domain expectation evidence tick
      let r' := evaluateDomain order' policy (.rebuild policy) domain expectation evidence tick
      r.outcome = r'.outcome ∧ r.reason = r'.reason ∧ r.intents = r'.intents ∧
        r.resultDigest = r'.resultDigest) ↔
      ¬ ∃ sn : Snapshots, evidence = sn.evidence ∧
        Reaches .u64 policy domain expectation sn tick ∧ SharesTied policy domain sn := by
  have hpi := validatePolicy_installable hp
  have hdi := hpi.domains _ hd
  constructor
  · rintro h ⟨sn, rfl, hreach, ht⟩
    obtain ⟨id, id', hne, hid, hid'⟩ := ht.classes
    have hintents := (h (.leading id) (.leading id')).2.2.1
    have hfirst := intents_leading hp hd hreach ht hid
    rw [hintents, intents_leading hp hd hreach ht hid'] at hfirst
    exact hne (Option.some.inj hfirst).symm
  · intro hn order order'
    have hsame : evaluateDomain order policy (.rebuild policy) domain expectation evidence tick =
        evaluateDomain order' policy (.rebuild policy) domain expectation evidence tick := by
      rw [evaluateDomain, evaluateDomain, evaluateDomainIn, evaluateDomainIn,
        gather_order order' order]
      cases hg : gather .u64 order policy (.rebuild policy) domain expectation evidence tick with
      | error r => rfl
      | ok g =>
          obtain ⟨sn, rfl, hgate, hfits, hwithin, rfl⟩ := (gather_eq_ok hdi.members_nodup).mp hg
          have hiff : (settle .u64 policy domain (gathered .u64 order (.rebuild policy) domain sn
              (gatheredAuthority policy domain expectation sn tick))).closed = true ↔
                Closes .u64 policy (.rebuild policy) domain sn := settle_closed hpi hdi
          by_cases hc : Closes .u64 policy (.rebuild policy) domain sn
          · have hclosed := hiff.mpr hc
            dsimp only
            rw [conclude_of_closed hclosed, conclude_of_closed hclosed,
              verdict_order hpi hdi hc fun ht => hn ⟨sn, rfl, ⟨⟨hgate, hfits, hc⟩, hwithin⟩, ht⟩]
          · have hopen := mt hiff.mp hc
            dsimp only
            rw [conclude, conclude, if_neg hopen, if_neg hopen]
    rw [hsame]
    exact ⟨rfl, rfl, rfl, rfl⟩

/-- The sample policy with two classes, each capped at a tenth of the
contingent ceiling. -/
def tiedPolicy : OversubscriptionPolicy :=
  { samplePolicy with
    serviceClasses := [
      { id := ⟨1⟩, hasContingentShareCap := true, contingentShareCapPpm := 100000 },
      { id := ⟨2⟩, hasContingentShareCap := true, contingentShareCapPpm := 100000 }] }

/-- Both classes hold more than their share of 9 units. -/
def tiedSnapshots : Snapshots :=
  let demand (id : UInt64) (amount : UInt64) : DemandRecord :=
    { admission := ⟨id⟩, resource := ⟨1⟩, pool := ⟨1⟩, serviceClass := ⟨id⟩, kind := .contingent
      committedCapacity := amount, generation := ⟨1⟩ }
  { sampleSnapshots 100 0 with
    adm := { (sampleSnapshots 100 0).adm with records := [demand 1 30, demand 2 20] } }

theorem tiedPolicy_valid : (validatePolicy tiedPolicy).isOk = true := by decide +kernel

/-- Each order asks its first class to reduce. -/
theorem tied_intents :
    (evaluateDomain (.leading ⟨1⟩) tiedPolicy (.rebuild tiedPolicy) sampleDomain sampleExpectation
        tiedSnapshots.evidence 0).intents ≠
      (evaluateDomain (.leading ⟨2⟩) tiedPolicy (.rebuild tiedPolicy) sampleDomain
        sampleExpectation tiedSnapshots.evidence 0).intents := by
  decide +kernel

theorem traversal_irrelevant_sample : ∃ sn : Snapshots, tiedSnapshots.evidence = sn.evidence ∧
    Reaches .u64 tiedPolicy sampleDomain sampleExpectation sn 0 ∧
      SharesTied tiedPolicy sampleDomain sn :=
  Classical.byContradiction fun hn =>
    tied_intents ((traversal_irrelevant_iff tiedPolicy_valid sampleDomain_mem).mpr hn
      (.leading ⟨1⟩) (.leading ⟨2⟩)).2.2.1

/-- Two classes over their shares are reported one at a time, in hash order. -/
theorem traversal_not_always_irrelevant :
    ¬ ∀ (order order' : MapOrder) (policy : OversubscriptionPolicy) (domain : DomainConfig)
        (expectation : AuthorityExpectation) (sn : Snapshots) (tick : UInt64),
      (validatePolicy policy).isOk = true → domain ∈ policy.domains →
      (validateCapacitySnapshot sn.cap).isOk = true →
      (validateReservationSnapshot sn.res).isOk = true →
      (validateAdmissionSnapshot sn.adm).isOk = true →
      let r := evaluateDomain order policy (.rebuild policy) domain expectation sn.evidence tick
      let r' := evaluateDomain order' policy (.rebuild policy) domain expectation sn.evidence tick
      r.outcome = r'.outcome ∧ r.reason = r'.reason ∧ r.intents = r'.intents ∧
        r.resultDigest = r'.resultDigest := by
  intro h
  have hsame := h (.leading ⟨1⟩) (.leading ⟨2⟩) tiedPolicy sampleDomain sampleExpectation
    tiedSnapshots 0 tiedPolicy_valid sampleDomain_mem (by decide +kernel) (by decide +kernel)
    (by decide +kernel)
  exact tied_intents hsame.2.2.1

end

end Oversub
