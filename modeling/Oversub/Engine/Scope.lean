import Oversub.Engine.Grant

/-!
# Oversub.Engine.Scope

Evidence about resources that are not members of a domain
(`DomainEvidence.inScope`).  An evaluation and the one over the evidence in
scope are compared loop by loop: a foreign record leaves nothing behind but
the two out-of-scope counters, which no later stage reads.
-/

namespace Oversub

open EarlyFold Tally

/-! ## Evidence in scope -/

/-- The entries for member resources; who published them, and under which
payload digest, is left out. -/
def CapacitySnapshot.inScope (domain : DomainConfig) (cap : CapacitySnapshot) : CapacitySnapshot :=
  { cap with
    resources := cap.resources.filter (domain.covers ·.resource)
    provenance := {} }

def ReservationSnapshot.inScope (domain : DomainConfig) (res : ReservationSnapshot) :
    ReservationSnapshot :=
  { res with
    guarantees := res.guarantees.filter (domain.covers ·.resource)
    provenance := {} }

def AdmissionSnapshot.inScope (domain : DomainConfig) (adm : AdmissionSnapshot) :
    AdmissionSnapshot :=
  { adm with
    records := adm.records.filter (domain.covers ·.resource)
    provenance := {} }

def Snapshots.inScope (domain : DomainConfig) (sn : Snapshots) : Snapshots :=
  ⟨sn.cap.inScope domain, sn.res.inScope domain, sn.adm.inScope domain⟩

def DomainEvidence.inScope (domain : DomainConfig) (evidence : DomainEvidence) : DomainEvidence where
  capacity := evidence.capacity.map (·.inScope domain)
  reservations := evidence.reservations.map (·.inScope domain)
  admissions := evidence.admissions.map (·.inScope domain)

/-- Each snapshot that is present passes its validator. -/
structure DomainEvidence.Validated (evidence : DomainEvidence) : Prop where
  capacity : ∀ cap ∈ evidence.capacity, (validateCapacitySnapshot cap).isOk = true
  reservations : ∀ res ∈ evidence.reservations, (validateReservationSnapshot res).isOk = true
  admissions : ∀ adm ∈ evidence.admissions, (validateAdmissionSnapshot adm).isOk = true

/-- Each snapshot that is present stays within the record limits of the policy. -/
structure DomainEvidence.Within (limits : PolicyLimits) (evidence : DomainEvidence) : Prop where
  guarantees : ∀ res ∈ evidence.reservations,
    res.guarantees.length ≤ limits.maxGuaranteesPerSnapshot.toNat
  records : ∀ adm ∈ evidence.admissions,
    adm.records.length ≤ limits.maxDemandRecordsPerSnapshot.toNat

/-! ## Results in scope -/

/-- The accounting without its out-of-scope counters. -/
def DomainAccounting.inScope (acc : DomainAccounting) : DomainAccounting :=
  { acc with outOfScopeGuarantees := 0, outOfScopeDemand := 0 }

theorem exists_scope {acc acc' : DomainAccounting} (h : acc.inScope = acc'.inScope) :
    ∃ m n, acc' = { acc with outOfScopeGuarantees := m, outOfScopeDemand := n } := by
  refine ⟨acc'.outOfScopeGuarantees, acc'.outOfScopeDemand, ?_⟩
  cases acc
  cases acc'
  simpa [DomainAccounting.inScope, eq_comm] using h

/-- What a result says of the domain itself. -/
structure DecidedAlike (r r' : EvaluationResult) : Prop where
  outcome : r.outcome = r'.outcome
  reason : r.reason = r'.reason
  intents : r.intents = r'.intents
  resources : r.resources = r'.resources
  increment : r.authorizedIncrementUnits = r'.authorizedIncrementUnits
  accounting : r.accounting.inScope = r'.accounting.inScope

theorem DecidedAlike.symm {r r' : EvaluationResult} (h : DecidedAlike r r') : DecidedAlike r' r :=
  ⟨h.1.symm, h.2.symm, h.3.symm, h.4.symm, h.5.symm, h.6.symm⟩

theorem DecidedAlike.trans {r r' r'' : EvaluationResult} (h : DecidedAlike r r')
    (h' : DecidedAlike r' r'') : DecidedAlike r r'' :=
  ⟨h.1.trans h'.1, h.2.trans h'.2, h.3.trans h'.3, h.4.trans h'.4, h.5.trans h'.5, h.6.trans h'.6⟩

/-- Two refusals that differ in the out-of-scope counters only. -/
structure SameRefusal (x y : Refusal) : Prop where
  outcome : x.outcome = y.outcome
  reason : x.reason = y.reason
  accounting : x.accounting.inScope = y.accounting.inScope

/-- No refusal that matters differs. -/
def Never (_ : Refusal) : Prop := False

section

variable {acc acc' : DomainAccounting} {reason : ReasonCode} {detail : String}

theorem unknown_same (h : acc.inScope = acc'.inScope) :
    SameRefusal (acc.unknown reason detail) (acc'.unknown reason detail) := ⟨rfl, rfl, h⟩

theorem stale_same (h : acc.inScope = acc'.inScope) :
    SameRefusal (acc.stale reason detail) (acc'.stale reason detail) := ⟨rfl, rfl, h⟩

theorem conflicting_same (h : acc.inScope = acc'.inScope) :
    SameRefusal (acc.conflicting reason detail) (acc'.conflicting reason detail) := ⟨rfl, rfl, h⟩

end

theorem reject_same {limits : PolicyLimits} {domain : DomainConfig}
    {authority authority' : AuthorityVector} {resources : List ResourceAccounting}
    {notes notes' : List String} {x y : Refusal} (h : SameRefusal x y) :
    DecidedAlike (reject limits domain authority resources notes x)
      (reject limits domain authority' resources notes' y) := by
  obtain ⟨ho, hr, ha⟩ := h
  have hfree : x.accounting.inScope.contingentFree = y.accounting.inScope.contingentFree := by
    rw [ha]
  refine ⟨ho, hr, ?_, rfl, ?_, ha⟩
  · simp only [reject, finalize_intents, ho, hr]
  · simp only [reject, finalize_increment, ho]
    exact congrArg (fun n => if y.outcome.allowsNewAuthority then n else 0) hfree

/-! ## Checks side by side -/

theorem require_of {c : Prop} [Decidable c] {x : Refusal} (h : c) : require c x = .ok () :=
  require_eq_ok.mpr h

section

variable {α β γ : Type} {c : Prop} [Decidable c] {o : Option α} {x y : Refusal}
  {R : β → γ → Prop}

theorem require_same {f : Unit → Except Refusal β} {g : Unit → Except Refusal γ}
    (h : SameRefusal x y) (hfg : Dominated R SameRefusal Never (f ()) (g ())) :
    Dominated R SameRefusal Never (require c x >>= f) (require c y >>= g) := by
  by_cases hc : c
  · rw [require, require, if_pos hc, if_pos hc]
    exact hfg
  · rw [require, require, if_neg hc, if_neg hc]
    exact .errors h

theorem require_bind_of {f : Unit → Except Refusal β} (h : c) : (require c x >>= f) = f () := by
  rw [require_of h]
  rfl

theorem orRefuse_same {f : α → Except Refusal β} {g : α → Except Refusal γ}
    (h : SameRefusal x y) (hfg : ∀ a, Dominated R SameRefusal Never (f a) (g a)) :
    Dominated R SameRefusal Never (orRefuse o x >>= f) (orRefuse o y >>= g) := by
  cases o with
  | none => exact .errors h
  | some a => exact hfg a

end

/-! ## Tables of members -/

section

variable {resources : List ResourceAccum} {id : ResourceId} {ra ra' : ResourceAccum}

/-- Updating a member's accumulator leaves the members as they are. -/
theorem setResource_ids (hra : findResource resources id = some ra)
    (hcap : ra'.capacity = ra.capacity) :
    (setResource resources id ra').map (·.capacity.resource) =
      resources.map (·.capacity.resource) := by
  induction resources with
  | nil => rfl
  | cons e resources ih =>
      by_cases he : e.capacity.resource = id
      · rw [findResource, List.find?_cons_of_pos (by simpa using he)] at hra
        obtain rfl := Option.some.inj hra
        simp [setResource, List.findIdx_cons, he, hcap]
      · rw [findResource, List.find?_cons_of_neg (by simpa using he)] at hra
        simpa [setResource, List.findIdx_cons, he] using ih hra

/-- The table lists the members of the domain. -/
def Lists (domain : DomainConfig) (resources : List ResourceAccum) : Prop :=
  ∀ id, id ∈ resources.map (·.capacity.resource) ↔ domain.covers id = true

theorem Lists.setResource {domain : DomainConfig} (h : Lists domain resources)
    (hra : findResource resources id = some ra) (hcap : ra'.capacity = ra.capacity) :
    Lists domain (setResource resources id ra') := by
  intro j
  rw [setResource_ids hra hcap]
  exact h j

theorem Lists.find_eq_none {domain : DomainConfig} (h : Lists domain resources) :
    findResource resources id = none ↔ domain.covers id = false := by
  rw [findResource, List.find?_eq_none, ← Bool.not_eq_true, ← h id, List.mem_map]
  simp only [decide_eq_true_eq, not_exists, not_and]

end

/-! ## The loops -/

section

variable {A : Arith} {index : PolicyIndex} {domain : DomainConfig}

/-- The guarantee loops, with `rest` still to come on the left. -/
structure SameGuarantees (domain : DomainConfig) (rest : List Guarantee) (s t : GuaranteeState) :
    Prop where
  acc : s.acc.inScope = t.acc.inScope
  resources : s.resources = t.resources
  byClass : s.byClass = t.byClass
  members : Lists domain s.resources
  nodup : (rest.map (·.reservation)).Nodup
  unseen : ∀ g ∈ rest, g.reservation ∉ s.seen ∧ g.reservation ∉ t.seen

/-- What is still to come has not been seen after one more element. -/
theorem unseen_tail {α κ : Type} {key : α → κ} {a : α} {rest : List α} {seen : List κ}
    (hn : ((a :: rest).map key).Nodup) (h : ∀ b ∈ a :: rest, key b ∉ seen) :
    ∀ b ∈ rest, key b ∉ key a :: seen := by
  intro b hb hmem
  rcases List.mem_cons.mp hmem with heq | hmem
  · exact (List.nodup_cons.mp hn).1 (heq ▸ List.mem_map_of_mem hb)
  · exact h b (List.mem_cons_of_mem _ hb) hmem

theorem guaranteeStep_out {g : Guarantee} {rest : List Guarantee} {s t : GuaranteeState}
    (hg : domain.covers g.resource = false) (h : SameGuarantees domain (g :: rest) s t) :
    ∃ s', guaranteeStep A index domain s g = .ok s' ∧ SameGuarantees domain rest s' t := by
  have hseen := (h.unseen g List.mem_cons_self).1
  have hfind : findResource s.resources g.resource = none := h.members.find_eq_none.mpr hg
  have hstep : guaranteeStep A index domain s g = .ok
      { s with
        seen := g.reservation :: s.seen
        acc := { s.acc with
          outOfScopeGuarantees :=
            A.addSat s.acc.outOfScopeGuarantees g.guaranteedCapacity.toNat } } := by
    unfold guaranteeStep
    rw [require_bind_of hseen]
    dsimp only
    rw [hfind]
  refine ⟨_, hstep, h.acc, h.resources, h.byClass, h.members, (List.nodup_cons.mp h.nodup).2, ?_⟩
  exact fun b hb => ⟨unseen_tail h.nodup (fun b hb => (h.unseen b hb).1) b hb,
    (h.unseen b (List.mem_cons_of_mem _ hb)).2⟩

theorem guaranteeStep_in {g : Guarantee} {rest : List Guarantee} {s t : GuaranteeState}
    (hg : domain.covers g.resource = true) (h : SameGuarantees domain (g :: rest) s t) :
    Dominated (SameGuarantees domain rest) SameRefusal Never (guaranteeStep A index domain s g)
      (guaranteeStep A index domain t g) := by
  have hrest : (rest.map (·.reservation)).Nodup := (List.nodup_cons.mp h.nodup).2
  have hunseen : ∀ b ∈ rest, b.reservation ∉ g.reservation :: s.seen ∧
      b.reservation ∉ g.reservation :: t.seen := fun b hb =>
    ⟨unseen_tail h.nodup (fun b hb => (h.unseen b hb).1) b hb,
      unseen_tail h.nodup (fun b hb => (h.unseen b hb).2) b hb⟩
  unfold guaranteeStep
  rw [require_bind_of (h.unseen g List.mem_cons_self).1, require_bind_of (h.unseen g List.mem_cons_self).2]
  dsimp only
  rw [← h.resources, ← h.byClass]
  cases hfind : findResource s.resources g.resource with
  | none => exact absurd (h.members.find_eq_none.mp hfind) (by simp [hg])
  | some ra =>
      refine require_same (conflicting_same h.acc) ?_
      refine require_same (conflicting_same h.acc) ?_
      refine require_same (conflicting_same h.acc) ?_
      refine orRefuse_same (unknown_same h.acc) fun _ => ?_
      refine orRefuse_same (unknown_same h.acc) fun _ => ?_
      exact .values ⟨h.acc, rfl, rfl, h.members.setResource hfind rfl, hrest, hunseen⟩

/-- **Guarantee loop**: foreign guarantees leave only their counter behind. -/
theorem gatherGuarantees_same {res : ReservationSnapshot} {s t : MemberState}
    (hn : (res.guarantees.map (·.reservation)).Nodup) (hacc : s.acc.inScope = t.acc.inScope)
    (hres : s.resources = t.resources) (hm : Lists domain s.resources) :
    Dominated (SameGuarantees domain []) SameRefusal Never (gatherGuarantees A index domain res s)
      (gatherGuarantees A index domain (res.inScope domain) t) := by
  have hstart : SameGuarantees domain res.guarantees { acc := s.acc, resources := s.resources }
      { acc := t.acc, resources := t.resources } :=
    ⟨hacc, hres, rfl, hm, hn, fun _ _ => ⟨List.not_mem_nil, List.not_mem_nil⟩⟩
  exact foldlM_skipping (R := SameGuarantees domain) (p := (domain.covers ·.resource))
    (fun _ _ _ _ hg h => guaranteeStep_out hg h) (fun _ _ _ _ hg h => guaranteeStep_in hg h) hstart

/-- The checked sum of the guarantees. -/
theorem guaranteesTotal_same {s t : GuaranteeState} (h : SameGuarantees domain [] s t) :
    Dominated Eq SameRefusal Never (guaranteesTotal A s) (guaranteesTotal A t) := by
  unfold guaranteesTotal
  rw [← h.resources]
  refine foldlM_dominated (Q := Eq) (fun n m ra ra' hnm hra => ?_)
    (List.forall₂_same.mpr fun _ _ => rfl) rfl
  subst hnm hra
  cases A.addChecked n ra.guarantees with
  | none => exact .errors (unknown_same h.acc)
  | some total => exact .values rfl

/-- The demand loops, with `rest` still to come on the left. -/
structure SameDemand (domain : DomainConfig) (rest : List DemandRecord) (s t : DemandState) :
    Prop where
  acc : s.acc.inScope = t.acc.inScope
  resources : s.resources = t.resources
  contingentByClass : s.contingentByClass = t.contingentByClass
  admittedByClass : s.admittedByClass = t.admittedByClass
  ineligibleAmount : s.ineligibleAmount = t.ineligibleAmount
  ineligibleClass : s.ineligibleClass = t.ineligibleClass
  members : Lists domain s.resources
  nodup : (rest.map (·.admission)).Nodup
  unseen : ∀ r ∈ rest, r.admission ∉ s.seen ∧ r.admission ∉ t.seen

theorem demandStep_out {r : DemandRecord} {rest : List DemandRecord} {s t : DemandState}
    (hr : domain.covers r.resource = false) (h : SameDemand domain (r :: rest) s t) :
    ∃ s', demandStep A index domain s r = .ok s' ∧ SameDemand domain rest s' t := by
  have hseen := (h.unseen r List.mem_cons_self).1
  have hfind : findResource s.resources r.resource = none := h.members.find_eq_none.mpr hr
  have hstep : demandStep A index domain s r = .ok
      { s with
        seen := r.admission :: s.seen
        acc := { s.acc with
          outOfScopeDemand := A.addSat s.acc.outOfScopeDemand r.committedCapacity.toNat } } := by
    unfold demandStep
    rw [require_bind_of hseen]
    dsimp only
    rw [hfind]
  exact ⟨_, hstep, h.acc, h.resources, h.contingentByClass, h.admittedByClass, h.ineligibleAmount,
    h.ineligibleClass, h.members, (List.nodup_cons.mp h.nodup).2, fun b hb =>
      ⟨unseen_tail h.nodup (fun b hb => (h.unseen b hb).1) b hb,
        (h.unseen b (List.mem_cons_of_mem _ hb)).2⟩⟩

theorem guaranteedDemand_same {r : DemandRecord} {rest : List DemandRecord} {s t : DemandState}
    (h : SameDemand domain rest s t) :
    Dominated (SameDemand domain rest) SameRefusal Never (guaranteedDemand A s r)
      (guaranteedDemand A t r) := by
  obtain ⟨m, n, hacc⟩ := exists_scope h.acc
  unfold guaranteedDemand
  rw [hacc, ← h.admittedByClass]
  refine orRefuse_same (unknown_same rfl) fun _ => ?_
  refine orRefuse_same (unknown_same rfl) fun _ => ?_
  exact .values ⟨rfl, h.resources, h.contingentByClass, rfl, h.ineligibleAmount, h.ineligibleClass,
    h.members, h.nodup, h.unseen⟩

theorem contingentDemand_same {cls : ServiceClassRef} {ra : ResourceAccum} {r : DemandRecord}
    {rest : List DemandRecord} {s t : DemandState} (h : SameDemand domain rest s t)
    (hra : findResource s.resources r.resource = some ra) :
    Dominated (SameDemand domain rest) SameRefusal Never (contingentDemand A cls ra s r)
      (contingentDemand A cls ra t r) := by
  obtain ⟨m, n, hacc⟩ := exists_scope h.acc
  unfold contingentDemand
  rw [hacc, ← h.resources, ← h.contingentByClass, ← h.ineligibleAmount]
  dsimp only
  split
  · exact .values ⟨rfl, rfl, rfl, h.admittedByClass, rfl, rfl, h.members, h.nodup, h.unseen⟩
  · refine orRefuse_same (unknown_same rfl) fun _ => ?_
    refine orRefuse_same (unknown_same rfl) fun _ => ?_
    refine orRefuse_same (unknown_same rfl) fun _ => ?_
    refine orRefuse_same (unknown_same rfl) fun _ => ?_
    split
    · refine orRefuse_same (unknown_same rfl) fun _ => ?_
      refine orRefuse_same (unknown_same rfl) fun _ => ?_
      exact .values ⟨rfl, rfl, rfl, h.admittedByClass, rfl, h.ineligibleClass,
        h.members.setResource hra rfl, h.nodup, h.unseen⟩
    · refine orRefuse_same (unknown_same rfl) fun _ => ?_
      exact .values ⟨rfl, rfl, rfl, h.admittedByClass, rfl, h.ineligibleClass,
        h.members.setResource hra rfl, h.nodup, h.unseen⟩

theorem demandStep_in {r : DemandRecord} {rest : List DemandRecord} {s t : DemandState}
    (hr : domain.covers r.resource = true) (h : SameDemand domain (r :: rest) s t) :
    Dominated (SameDemand domain rest) SameRefusal Never (demandStep A index domain s r)
      (demandStep A index domain t r) := by
  have hnext : SameDemand domain rest { s with seen := r.admission :: s.seen }
      { t with resources := s.resources, seen := r.admission :: t.seen } :=
    ⟨h.acc, rfl, h.contingentByClass, h.admittedByClass, h.ineligibleAmount,
      h.ineligibleClass, h.members, (List.nodup_cons.mp h.nodup).2, fun b hb =>
        ⟨unseen_tail h.nodup (fun b hb => (h.unseen b hb).1) b hb,
          unseen_tail h.nodup (fun b hb => (h.unseen b hb).2) b hb⟩⟩
  unfold demandStep
  rw [require_bind_of (h.unseen r List.mem_cons_self).1, require_bind_of (h.unseen r List.mem_cons_self).2]
  dsimp only
  rw [← h.resources]
  cases hfind : findResource s.resources r.resource with
  | none => exact absurd (h.members.find_eq_none.mp hfind) (by simp [hr])
  | some ra =>
      refine require_same (conflicting_same h.acc) <| orRefuse_same (conflicting_same h.acc) fun _ => ?_
      cases r.kind with
      | guaranteed => exact guaranteedDemand_same hnext
      | contingent => exact contingentDemand_same hnext hfind
      | burst => exact contingentDemand_same hnext hfind
      | unknown => exact .errors (conflicting_same h.acc)
      | unnamed _ _ => exact .values hnext

/-- **Demand loop**: foreign records leave only their counter behind. -/
theorem gatherDemand_same {adm : AdmissionSnapshot} {acc acc' : DomainAccounting}
    {resources : List ResourceAccum} (hn : (adm.records.map (·.admission)).Nodup)
    (hacc : acc.inScope = acc'.inScope) (hm : Lists domain resources) :
    Dominated (SameDemand domain []) SameRefusal Never
      (gatherDemand A index domain adm acc resources)
      (gatherDemand A index domain (adm.inScope domain) acc' resources) := by
  have hstart : SameDemand domain adm.records { acc, resources } { acc := acc', resources } :=
    ⟨hacc, rfl, rfl, rfl, rfl, rfl, hm, hn, fun _ _ => ⟨List.not_mem_nil, List.not_mem_nil⟩⟩
  exact foldlM_skipping (R := SameDemand domain) (p := (domain.covers ·.resource))
    (fun _ _ _ _ hr h => demandStep_out hr h) (fun _ _ _ _ hr h => demandStep_in hr h) hstart

/-- The totals loops. -/
structure SameTotals (s t : TotalsState) : Prop where
  acc : s.acc.inScope = t.acc.inScope
  resources : s.resources = t.resources
  closed : s.closed = t.closed

/-- The totals loop keeps the counters as they are. -/
theorem totals_same {resources : List ResourceAccum} {s t : TotalsState} (h : SameTotals s t) :
    SameTotals (resources.foldl (totalsStep A) s) (resources.foldl (totalsStep A) t) := by
  induction resources generalizing s t with
  | nil => exact h
  | cons ra resources ih =>
      obtain ⟨m, n, ht⟩ := exists_scope h.acc
      refine ih ⟨?_, ?_, ?_⟩
      · simp only [totalsStep, ht]
        rfl
      · simp only [totalsStep, h.resources]
      · simp only [totalsStep, ht, h.closed]

theorem gatherTotals_same {limits : PolicyLimits} {acc acc' : DomainAccounting}
    {resources : List ResourceAccum} (hacc : acc.inScope = acc'.inScope) :
    Dominated SameTotals SameRefusal Never (gatherTotals A limits acc resources)
      (gatherTotals A limits acc' resources) := by
  have hs : SameTotals (resources.foldl (totalsStep A) { acc, resources := [], closed := true })
      (resources.foldl (totalsStep A) { acc := acc', resources := [], closed := true }) :=
    totals_same ⟨hacc, rfl, rfl⟩
  obtain ⟨m, n, ht⟩ := exists_scope hs.acc
  unfold gatherTotals
  dsimp only
  rw [ht]
  exact require_same (conflicting_same rfl) (.values hs)

end

/-! ## The evaluation -/

section

variable {A : Arith} {order : MapOrder} {policy : OversubscriptionPolicy} {index : PolicyIndex}
  {domain : DomainConfig} {expectation : AuthorityExpectation} {sn : Snapshots} {tick : UInt64}

/-- Gathered totals that differ in the out-of-scope counters and the authority. -/
structure SameGathered (g g' : Gathered) : Prop where
  acc : g.acc.inScope = g'.acc.inScope
  resources : g.resources = g'.resources
  contingentByClass : g.contingentByClass = g'.contingentByClass
  ineligibleAmount : g.ineligibleAmount = g'.ineligibleAmount
  ineligibleClass : g.ineligibleClass = g'.ineligibleClass
  unmapped : g.unmapped = g'.unmapped
  closed : g.closed = g'.closed

/-- **Nothing reads the counters**: the rest of the evaluation is the same. -/
theorem conclude_same {g g' : Gathered} (h : SameGathered g g') :
    DecidedAlike (conclude A order policy index domain g)
      (conclude A order policy index domain g') := by
  obtain ⟨m, n, hacc⟩ := exists_scope h.acc
  have hg : g' = { g with
      acc := { g.acc with outOfScopeGuarantees := m, outOfScopeDemand := n }
      authority := g'.authority } := by
    cases g
    cases g'
    obtain ⟨-, h1, h2, h3, h4, h5, h6⟩ := h
    simp_all
  generalize g'.authority = authority at hg
  subst hg
  have hclosed : (settle A policy domain { g with
      acc := { g.acc with outOfScopeGuarantees := m, outOfScopeDemand := n }
      authority := authority }).closed = (settle A policy domain g).closed := rfl
  unfold conclude
  dsimp only
  rw [hclosed]
  split
  · exact ⟨rfl, rfl, rfl, rfl, rfl, rfl⟩
  · exact reject_same ⟨rfl, rfl, rfl⟩

/-- The entry of a member is in scope. -/
theorem capacityByResource_inScope {cap : CapacitySnapshot} {m : ResourceId}
    (hm : domain.covers m = true) :
    capacityByResource (cap.inScope domain) m = capacityByResource cap m := by
  unfold capacityByResource CapacitySnapshot.inScope
  rw [List.find?_filter]
  congr 1
  funext rc
  by_cases h : rc.resource = m
  · simp [h, hm]
  · simp [h]

/-- **Member loop**: only the members' entries are looked at. -/
theorem gatherMembers_inScope {cap : CapacitySnapshot} {acc : DomainAccounting}
    (hn : (cap.resources.map (·.resource.value)).Nodup) :
    gatherMembers A domain (cap.inScope domain) acc = gatherMembers A domain cap acc := by
  have hn' : ((cap.inScope domain).resources.map (·.resource.value)).Nodup :=
    hn.sublist (List.filter_sublist.map _)
  have hstep : ∀ (ms : List ResourceId) (s : MemberState), (∀ m ∈ ms, domain.covers m = true) →
      ms.foldlM (memberStep A domain (cap.inScope domain)) s =
        ms.foldlM (memberStep A domain cap) s := by
    intro ms
    induction ms with
    | nil => exact fun _ _ => rfl
    | cons m ms ih =>
        intro s hms
        obtain ⟨hm, hms⟩ := List.forall_mem_cons.mp hms
        have hone : memberStep A domain (cap.inScope domain) s m = memberStep A domain cap s m := by
          rw [memberStep, capacityByResource_inScope hm, memberStep]
        rw [List.foldlM_cons, List.foldlM_cons, hone]
        exact bind_congr fun s' => ih s' hms
  rw [gatherMembers, gatherMembers, require_of hn, require_of hn']
  exact hstep _ _ fun m hm => covers_iff.mpr (mem_sortMembers.mp hm)

theorem gatherMembers_lists {cap : CapacitySnapshot} {acc : DomainAccounting} {s : MemberState}
    (hn : domain.members.Nodup) (h : gatherMembers A domain cap acc = .ok s) :
    Lists domain s.resources := by
  have ht := memberTable_of_gathered hn h
  obtain ⟨-, -, rfl⟩ := gatherMembers_eq_ok.mp h
  intro id
  rw [List.map_map]
  exact ht.mem_iff id

/-- The stages after the members. -/
theorem gatherEvidence_same {authority authority' : AuthorityVector} {members : MemberState}
    (hg : (sn.res.guarantees.map (·.reservation)).Nodup)
    (hr : (sn.adm.records.map (·.admission)).Nodup) (hm : Lists domain members.resources) :
    Dominated SameGathered SameRefusal Never
      (gatherEvidence A order policy index domain sn authority members)
      (gatherEvidence A order policy index domain (sn.inScope domain) authority' members) := by
  refine (gatherGuarantees_same hg rfl rfl hm).bind fun s t hst => ?_
  refine (guaranteesTotal_same hst).bind fun total total' htotal => ?_
  subst htotal
  obtain ⟨m, n, hacc⟩ := exists_scope hst.acc
  have hstart : ({ s.acc with guaranteesTotal := total } : DomainAccounting).inScope =
      ({ t.acc with guaranteesTotal := total } : DomainAccounting).inScope := by
    rw [hacc]
    rfl
  rw [← hst.resources]
  refine (gatherDemand_same hr hstart hst.members).bind fun d e hde => ?_
  rw [← hde.resources]
  refine (gatherTotals_same hde.acc).bind fun u v huv => ?_
  refine .values ⟨huv.acc, huv.resources, hde.contingentByClass, hde.ineligibleAmount,
    hde.ineligibleClass, ?_, huv.closed⟩
  dsimp only
  rw [hde.admittedByClass, hst.byClass]

/-- **Gathering**: the evidence in scope is gathered to the same totals, or
refused for the same reason. -/
theorem gather_same (hd : domain.members.Nodup) (hb : Bounded policy.limits sn)
    (hc : (sn.cap.resources.map (·.resource.value)).Nodup)
    (hg : (sn.res.guarantees.map (·.reservation)).Nodup)
    (hr : (sn.adm.records.map (·.admission)).Nodup) :
    Dominated SameGathered DecidedAlike (fun _ => False)
      (gather A order policy index domain expectation sn.evidence tick)
      (gather A order policy index domain expectation (sn.inScope domain).evidence tick) := by
  have hstop : ∀ {authority authority' : AuthorityVector} (x y : Refusal), SameRefusal x y →
      DecidedAlike (stop policy domain authority x) (stop policy domain authority' y) :=
    fun _ _ h => reject_same h
  have hbind : Dominated (fun a b => a = sn ∧ b = sn.inScope domain) SameRefusal Never
      (bindEvidence policy domain expectation sn.evidence (initialAccounting A domain))
      (bindEvidence policy domain expectation (sn.inScope domain).evidence
        (initialAccounting A domain)) := by
    refine require_same ⟨rfl, rfl, rfl⟩ <| require_same ⟨rfl, rfl, rfl⟩ <|
      require_same ⟨rfl, rfl, rfl⟩ <| require_same ⟨rfl, rfl, rfl⟩ <|
      require_same ⟨rfl, rfl, rfl⟩ <| require_same ⟨rfl, rfl, rfl⟩ <|
      require_same ⟨rfl, rfl, rfl⟩ <| require_same ⟨rfl, rfl, rfl⟩ <|
      require_same ⟨rfl, rfl, rfl⟩ <| require_same ⟨rfl, rfl, rfl⟩ <| .values ⟨rfl, rfl⟩
  have hb' : Bounded policy.limits (sn.inScope domain) :=
    ⟨(List.length_filter_le _ _).trans hb.resources_le,
      ⟨(List.length_filter_le _ _).trans hb.guarantees_le.1,
        (List.length_filter_le _ _).trans hb.guarantees_le.2⟩,
      ⟨(List.length_filter_le _ _).trans hb.records_le.1,
        (List.length_filter_le _ _).trans hb.records_le.2⟩⟩
  unfold gather
  refine (hbind.mapError hstop fun _ h => h).bind fun a b hab => ?_
  obtain ⟨rfl, rfl⟩ := hab
  have hfresh : Dominated (fun _ _ => True) SameRefusal Never
      (checkFreshness policy a tick (initialAccounting A domain))
      (checkFreshness policy (a.inScope domain) tick (initialAccounting A domain)) := by
    show Dominated _ _ _ (checkFreshness policy a tick (initialAccounting A domain))
      (checkFreshness policy a tick (initialAccounting A domain))
    cases checkFreshness policy a tick (initialAccounting A domain) with
    | error x => exact .errors ⟨rfl, rfl, rfl⟩
    | ok u => exact .values trivial
  refine (hfresh.mapError hstop fun _ h => h).bind fun _ _ _ => ?_
  rw [checkBounds_eq_ok (u := ()) |>.mpr hb, checkBounds_eq_ok (u := ()) |>.mpr hb']
  show Dominated _ _ _
    ((gatherMembers A domain a.cap (initialAccounting A domain)).mapError _ >>= _)
    ((gatherMembers A domain (a.cap.inScope domain) (initialAccounting A domain)).mapError _ >>= _)
  rw [gatherMembers_inScope hc]
  cases hmem : gatherMembers A domain a.cap (initialAccounting A domain) with
  | error x => exact .errors (hstop x x ⟨rfl, rfl, rfl⟩)
  | ok members =>
      exact (gatherEvidence_same hg hr (gatherMembers_lists hd hmem)).mapError hstop fun _ h => h

/-- An evaluation and the one over the evidence in scope decide the same. -/
theorem evaluate_inScope {evidence : DomainEvidence} (hd : domain.members.Nodup)
    (hv : evidence.Validated) (hw : evidence.Within policy.limits) :
    DecidedAlike (evaluateDomainIn A order policy index domain expectation evidence tick)
      (evaluateDomainIn A order policy index domain expectation (evidence.inScope domain) tick) := by
  obtain ⟨cap?, res?, adm?⟩ := evidence
  cases hcap : cap? with
  | none => exact reject_same ⟨rfl, rfl, rfl⟩
  | some cap =>
  cases hres : res? with
  | none => exact reject_same ⟨rfl, rfl, rfl⟩
  | some res =>
  cases hadm : adm? with
  | none => exact reject_same ⟨rfl, rfl, rfl⟩
  | some adm =>
      subst hcap hres hadm
      have hc := validateCapacitySnapshot_valid (hv.capacity cap rfl)
      have hr := validateReservationSnapshot_valid (hv.reservations res rfl)
      have ha := validateAdmissionSnapshot_valid (hv.admissions adm rfl)
      have hb : Bounded policy.limits ⟨cap, res, adm⟩ :=
        ⟨hc.size_le, ⟨hw.guarantees res rfl, hr.size_le⟩, ⟨hw.records adm rfl, ha.size_le⟩⟩
      have hgs : (res.guarantees.map (·.reservation)).Nodup :=
        List.Nodup.of_map _ (by rw [List.map_map]; exact hr.nodup)
      have hrs : (adm.records.map (·.admission)).Nodup :=
        List.Nodup.of_map _ (by rw [List.map_map]; exact ha.nodup)
      have hsame : Dominated SameGathered DecidedAlike (fun _ => False)
          (gather A order policy index domain expectation ⟨some cap, some res, some adm⟩ tick)
          (gather A order policy index domain expectation
            (DomainEvidence.inScope domain ⟨some cap, some res, some adm⟩) tick) :=
        @gather_same A order policy index domain expectation ⟨cap, res, adm⟩ tick hd hb hc.nodup hgs hrs
      unfold evaluateDomainIn
      generalize gather A order policy index domain expectation ⟨some cap, some res, some adm⟩
        tick = x at hsame ⊢
      generalize gather A order policy index domain expectation
        (DomainEvidence.inScope domain ⟨some cap, some res, some adm⟩) tick = y at hsame ⊢
      cases hsame with
      | stopped _ h => exact h.elim
      | errors h => exact h
      | values h => exact conclude_same h

/-- **Non-interference**: evidence sets that agree on the members of a domain
are decided alike, whatever they say of other resources. -/
theorem out_of_scope_irrelevant {evidence evidence' : DomainEvidence}
    (hp : (validatePolicy policy).isOk = true) (hd : domain ∈ policy.domains)
    (hv : evidence.Validated) (hv' : evidence'.Validated) (hw : evidence.Within policy.limits)
    (hw' : evidence'.Within policy.limits)
    (h : evidence.inScope domain = evidence'.inScope domain) :
    DecidedAlike (evaluateDomain order policy (.rebuild policy) domain expectation evidence tick)
      (evaluateDomain order policy (.rebuild policy) domain expectation evidence' tick) := by
  have hn := ((validatePolicy_installable hp).domains _ hd).members_nodup
  refine (evaluate_inScope hn hv hw).trans ?_
  rw [h]
  exact (evaluate_inScope hn hv' hw').symm

/-- The sample evidence with entries for a resource of another domain. -/
def foreignSnapshots : Snapshots :=
  let sn := sampleSnapshots 100 50
  { cap := { sn.cap with
      resources := { resource := ⟨2⟩, pool := ⟨1⟩, physicalCapacity := 7, usableCapacity := 7
                     health := .failed, generation := ⟨1⟩ } :: sn.cap.resources }
    res := { sn.res with
      guarantees := [{ reservation := ⟨1⟩, resource := ⟨2⟩, pool := ⟨1⟩, serviceClass := ⟨9⟩
                       guaranteedCapacity := 1000, generation := ⟨1⟩ }] }
    adm := { sn.adm with
      records := { admission := ⟨2⟩, resource := ⟨2⟩, pool := ⟨3⟩, serviceClass := ⟨9⟩
                   kind := .burst, committedCapacity := 1000
                   generation := ⟨1⟩ } :: sn.adm.records } }

theorem out_of_scope_sample :
    DecidedAlike
      (evaluateDomain .listed samplePolicy (.rebuild samplePolicy) sampleDomain sampleExpectation
        (sampleSnapshots 100 50).evidence 0)
      (evaluateDomain .listed samplePolicy (.rebuild samplePolicy) sampleDomain sampleExpectation
        foreignSnapshots.evidence 0) := by
  refine out_of_scope_irrelevant samplePolicy_valid sampleDomain_mem ⟨?_, ?_, ?_⟩ ⟨?_, ?_, ?_⟩
    ⟨?_, ?_⟩ ⟨?_, ?_⟩ rfl
  all_goals
    intro snapshot h
    obtain rfl := Option.some.inj h
    decide +kernel

end

end Oversub
