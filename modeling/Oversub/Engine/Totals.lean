import Oversub.Engine.Evaluate

/-!
# Oversub.Engine.Totals

What the loops of the engine compute, without the loops.  Each total is a sum
over the part of the evidence it counts, and each loop is described by its
state after a prefix of its input, so that the loop rule of `EarlyFold` gives

* when the loop succeeds: a condition on every entry, no repeated identity,
  and sums that fit the arithmetic;
* what it then returns: the totals.

`gather_eq_ok` puts the stages together.
-/

namespace Oversub

open EarlyFold Tally

/-! ## Totals of the evidence -/

/-- The resource is a member of the domain. -/
def DomainConfig.covers (domain : DomainConfig) (id : ResourceId) : Bool :=
  decide (id ∈ domain.members)

/-- What a resource can carry, given its health. -/
def effectiveUsable (rc : ResourceCapacity) : Nat :=
  match rc.health with
  | .healthy => rc.usableCapacity.toNat
  | .degraded => rc.usableCapacity.toNat * rc.degradedCapacityPpm.toNat / kPpmScale
  | .failed | .unknown | .unnamed _ _ => 0

/-- The capacity entries of the members, in member order. -/
def memberEntries (domain : DomainConfig) (cap : CapacitySnapshot) : List ResourceCapacity :=
  (sortMembers domain.members).filterMap (capacityByResource cap)

def guaranteed (g : Guarantee) : Nat := g.guaranteedCapacity.toNat
def committed (r : DemandRecord) : Nat := r.committedCapacity.toNat
def pending (r : DemandRecord) : Nat := r.pendingCapacity.toNat

section

variable (domain : DomainConfig) (index : PolicyIndex)

def guaranteesOn (gs : List Guarantee) (id : ResourceId) : Nat :=
  sumWhere (fun g => domain.covers g.resource && decide (g.resource = id)) guaranteed gs

def guaranteesIn (gs : List Guarantee) : Nat :=
  sumWhere (fun g => domain.covers g.resource) guaranteed gs

/-- The guarantees by resource and service class. -/
def backing (gs : List Guarantee) : ClassTable :=
  collect (fun g => domain.covers g.resource) (fun g => (g.resource, g.serviceClass)) guaranteed ∅ gs

/-- The class may hold oversubscribed demand. -/
def eligible (id : ServiceClassId) : Bool := ((index.serviceClass id).map (·.oversubscriptionEligible)).getD false

def isGuaranteed (r : DemandRecord) : Bool :=
  domain.covers r.resource && decide (r.kind = .guaranteed)

/-- In scope, and contingent or burst. -/
def isOversubscribed (r : DemandRecord) : Bool :=
  domain.covers r.resource && (decide (r.kind = .contingent) || decide (r.kind = .burst))

def isContingent (r : DemandRecord) : Bool :=
  isOversubscribed domain r && eligible index r.serviceClass

def isIneligible (r : DemandRecord) : Bool :=
  isOversubscribed domain r && !eligible index r.serviceClass

def isBurst (r : DemandRecord) : Bool := isContingent domain index r && decide (r.kind = .burst)

def admittedIn (rs : List DemandRecord) : Nat := sumWhere (isGuaranteed domain) committed rs
def contingentIn (rs : List DemandRecord) : Nat := sumWhere (isContingent domain index) committed rs
def pendingIn (rs : List DemandRecord) : Nat := sumWhere (isContingent domain index) pending rs
def burstIn (rs : List DemandRecord) : Nat := sumWhere (isBurst domain index) committed rs

def contingentOn (rs : List DemandRecord) (id : ResourceId) : Nat :=
  sumWhere (fun r => isContingent domain index r && decide (r.resource = id)) committed rs

def pendingOn (rs : List DemandRecord) (id : ResourceId) : Nat :=
  sumWhere (fun r => isContingent domain index r && decide (r.resource = id)) pending rs

/-- The guaranteed-kind admissions by resource and service class. -/
def admitted (rs : List DemandRecord) : ClassTable :=
  collect (isGuaranteed domain) (fun r => (r.resource, r.serviceClass)) committed ∅ rs

/-- The contingent demand by service class. -/
def contingentByClass (rs : List DemandRecord) : Table ServiceClassId :=
  collect (isContingent domain index) (·.serviceClass) committed ∅ rs

/-- The contingent demand of one class. -/
def contingentOf (rs : List DemandRecord) (id : ServiceClassId) : Nat :=
  sumWhere (fun r => isContingent domain index r && decide (r.serviceClass = id)) committed rs

end

/-! ## Accumulators of a member table -/

/-- The accumulator of a member before guarantees and demand are counted. -/
def memberAccum (rc : ResourceCapacity) : ResourceAccum where
  capacity := rc
  effectiveUsable := effectiveUsable rc

section

variable {entries : List ResourceCapacity} {F : ResourceCapacity → ResourceAccum} {id : ResourceId}
  {rc : ResourceCapacity}

theorem findResource_map (hF : ∀ rc, (F rc).capacity = rc) :
    findResource (entries.map F) id = (entries.find? (·.resource = id)).map F := by
  rw [findResource, List.find?_map]
  simp only [Function.comp_def, hF]

theorem setResource_map (hF : ∀ rc, (F rc).capacity = rc) (hn : (entries.map (·.resource)).Nodup)
    {ra : ResourceAccum} :
    setResource (entries.map F) id ra =
      entries.map fun e => if e.resource = id then ra else F e := by
  rw [setResource, List.findIdx_map]
  simp only [Function.comp_def, hF]
  induction entries with
  | nil => rfl
  | cons e entries ih =>
      obtain ⟨hne, hn⟩ := List.nodup_cons.mp hn
      rw [List.findIdx_cons, List.map_cons, List.map_cons]
      by_cases h : e.resource = id
      · have hrest : entries.map F = entries.map fun e => if e.resource = id then ra else F e := by
          refine List.map_congr_left fun e' he' => (if_neg fun h' => hne ?_).symm
          show e.resource ∈ _
          rw [h.trans h'.symm]
          exact List.mem_map_of_mem he'
        simp only [h, decide_true, cond_true, if_true, List.modify_zero_cons, hrest]
      · simp only [h, decide_false, cond_false, if_false, List.modify_succ_cons, ih hn]

theorem find_entry_eq_none :
    entries.find? (·.resource = id) = none ↔ id ∉ entries.map (·.resource) := by
  simp [List.find?_eq_none]

theorem find_entry_resource (h : entries.find? (·.resource = id) = some rc) : rc.resource = id := by
  simpa using List.find?_some h

end

/-! ## The member loop -/

/-- A member's capacity entry supports an evaluation. -/
def EntryOk (domain : DomainConfig) (rc : ResourceCapacity) : Prop :=
  rc.pool = domain.pool ∧ rc.health ≠ .unknown

/-- A degraded entry's scaled capacity can be represented. -/
def ScaledFits (A : Arith) (rc : ResourceCapacity) : Prop :=
  rc.health = .degraded →
    A.fits (rc.usableCapacity.toNat * rc.degradedCapacityPpm.toNat / kPpmScale) = true

def MemberOk (A : Arith) (domain : DomainConfig) (cap : CapacitySnapshot) (m : ResourceId) : Prop :=
  ∃ rc, capacityByResource cap m = some rc ∧ EntryOk domain rc ∧ ScaledFits A rc

/-- `acc` with the degraded and failed entries counted. -/
def countHealth (acc : DomainAccounting) (entries : List ResourceCapacity) : DomainAccounting :=
  { acc with
    degradedResources := acc.degradedResources + entries.countP (·.health = .degraded)
    failedResources := acc.failedResources + entries.countP (·.health = .failed) }

/-- The state of the member loop after the members of `pre`. -/
def memberState (cap : CapacitySnapshot) (acc : DomainAccounting) (pre : List ResourceId) :
    MemberState :=
  let entries := pre.filterMap (capacityByResource cap)
  { acc := countHealth acc entries, resources := entries.map memberAccum }

theorem memberState_concat {cap : CapacitySnapshot} {acc : DomainAccounting} {pre : List ResourceId}
    {m : ResourceId} {rc : ResourceCapacity} (h : capacityByResource cap m = some rc) :
    memberState cap acc (pre ++ [m]) =
      { acc := countHealth (memberState cap acc pre).acc [rc]
        resources := (memberState cap acc pre).resources ++ [memberAccum rc] } := by
  simp [memberState, countHealth, List.filterMap_append, h, List.countP_append, Nat.add_assoc]

theorem memberStep_eq_ok {A : Arith} {domain : DomainConfig} {cap : CapacitySnapshot}
    {s s' : MemberState} {m : ResourceId} :
    memberStep A domain cap s m = .ok s' ↔
      ∃ rc, capacityByResource cap m = some rc ∧ EntryOk domain rc ∧ ScaledFits A rc ∧
        s' = { acc := countHealth s.acc [rc], resources := s.resources ++ [memberAccum rc] } := by
  unfold memberStep EntryOk ScaledFits
  simp only [bind_eq_ok, orRefuse_eq_ok, require_eq_ok, exists_const, and_assoc]
  refine exists_congr fun rc => and_congr_right fun _ => and_congr_right fun _ =>
    and_congr_right fun _ => ?_
  rw [@eq_comm _ s']
  cases hh : rc.health with
  | degraded =>
      simp [bind_eq_ok, Arith.ppmOf, Arith.mulDivFloor_eq_some, countHealth, memberAccum,
        effectiveUsable, hh, kPpmScale, and_assoc]
  | healthy => simp [countHealth, memberAccum, effectiveUsable, hh]
  | failed => simp [countHealth, memberAccum, effectiveUsable, hh]
  | unknown => simp [countHealth, memberAccum, effectiveUsable, hh]
  | unnamed raw hraw => simp [countHealth, memberAccum, effectiveUsable, hh]

theorem mem_sortMembers {members : List ResourceId} {m : ResourceId} :
    m ∈ sortMembers members ↔ m ∈ members := (List.perm_insertionSort _ _).mem_iff

/-- **Members**: the loop succeeds when every member is covered by a known
entry of the pool, and leaves one accumulator per member. -/
theorem gatherMembers_eq_ok {A : Arith} {domain : DomainConfig} {cap : CapacitySnapshot}
    {acc : DomainAccounting} {s : MemberState} :
    gatherMembers A domain cap acc = .ok s ↔
      (cap.resources.map (·.resource.value)).Nodup ∧
      (∀ m ∈ domain.members, MemberOk A domain cap m) ∧
      s = { acc := countHealth acc (memberEntries domain cap)
            resources := (memberEntries domain cap).map memberAccum } := by
  have hstep : ∀ pre m s, memberStep A domain cap (memberState cap acc pre) m = .ok s ↔
      MemberOk A domain cap m ∧ s = memberState cap acc (pre ++ [m]) := by
    intro pre m s
    rw [memberStep_eq_ok]
    constructor
    · rintro ⟨rc, hrc, hok, hfits, rfl⟩
      exact ⟨⟨rc, hrc, hok, hfits⟩, (memberState_concat hrc).symm⟩
    · rintro ⟨⟨rc, hrc, hok, hfits⟩, rfl⟩
      exact ⟨rc, hrc, hok, hfits, memberState_concat hrc⟩
  have hloop := foldlM_eq_ok hstep (sortMembers domain.members) s
  rw [eachPrefix_const] at hloop
  simp only [mem_sortMembers] at hloop
  unfold gatherMembers
  simp only [bind_eq_ok, require_eq_ok, exists_const]
  exact and_congr_right fun _ => hloop

theorem memberEntries_ids {domain : DomainConfig} {cap : CapacitySnapshot}
    (h : ∀ m ∈ domain.members, (capacityByResource cap m).isSome = true) :
    (memberEntries domain cap).map (·.resource) = sortMembers domain.members := by
  have h' : ∀ m ∈ sortMembers domain.members, (capacityByResource cap m).isSome = true :=
    fun m hm => h m (mem_sortMembers.mp hm)
  unfold memberEntries
  generalize sortMembers domain.members = members at h'
  induction members with
  | nil => rfl
  | cons m members ih =>
      obtain ⟨hm, hms⟩ := List.forall_mem_cons.mp h'
      obtain ⟨rc, hrc⟩ := Option.isSome_iff_exists.mp hm
      have hid : rc.resource = m := by simpa [capacityByResource] using List.find?_some hrc
      rw [List.filterMap_cons_some hrc, List.map_cons, ih hms, hid]

/-- A table with one entry for each member. -/
structure MemberTable (domain : DomainConfig) (entries : List ResourceCapacity) : Prop where
  nodup : (entries.map (·.resource)).Nodup
  mem_iff : ∀ id, id ∈ entries.map (·.resource) ↔ domain.covers id = true

theorem memberTable {domain : DomainConfig} {cap : CapacitySnapshot} (hn : domain.members.Nodup)
    (h : ∀ m ∈ domain.members, (capacityByResource cap m).isSome = true) :
    MemberTable domain (memberEntries domain cap) := by
  constructor
  · rw [memberEntries_ids h]
    exact (List.perm_insertionSort _ _).nodup_iff.mpr hn
  · intro id
    rw [memberEntries_ids h, mem_sortMembers, DomainConfig.covers, decide_eq_true_eq]

/-- A member loop that succeeds has looked all members up. -/
theorem memberTable_of_gathered {A : Arith} {domain : DomainConfig} {cap : CapacitySnapshot}
    {acc : DomainAccounting} {s : MemberState} (hn : domain.members.Nodup)
    (h : gatherMembers A domain cap acc = .ok s) : MemberTable domain (memberEntries domain cap) := by
  obtain ⟨-, hmem, -⟩ := gatherMembers_eq_ok.mp h
  refine memberTable hn fun m hm => ?_
  obtain ⟨rc, hrc, -⟩ := hmem m hm
  rw [hrc]
  rfl

theorem MemberTable.find_eq_none {domain : DomainConfig} {entries : List ResourceCapacity}
    (ht : MemberTable domain entries) {id : ResourceId} :
    entries.find? (·.resource = id) = none ↔ domain.covers id = false := by
  rw [find_entry_eq_none, ht.mem_iff, Bool.not_eq_true]

theorem MemberTable.entry_unique {domain : DomainConfig} {entries : List ResourceCapacity}
    (ht : MemberTable domain entries) {e rc : ResourceCapacity} {id : ResourceId} (he : e ∈ entries)
    (hrc : entries.find? (·.resource = id) = some rc) (hid : e.resource = id) : e = rc :=
  List.inj_on_of_nodup_map ht.nodup he (List.mem_of_find?_eq_some hrc)
    (hid.trans (find_entry_resource hrc).symm)

/-! ## The guarantee loop -/

/-- A guarantee in scope supports an evaluation. -/
def GuaranteeOk (index : PolicyIndex) (domain : DomainConfig) (g : Guarantee) : Prop :=
  (g.protectedObligation = true ∧ g.preemptible = false) ∧ g.pool = domain.pool ∧
    (index.serviceClass g.serviceClass).isSome = true

def guaranteeAccum (domain : DomainConfig) (gs : List Guarantee) (rc : ResourceCapacity) :
    ResourceAccum :=
  { memberAccum rc with guarantees := guaranteesOn domain gs rc.resource }

/-- The guarantees of other resources, in the arithmetic `A`. -/
def outOfScopeGuarantees (A : Arith) (domain : DomainConfig) (gs : List Guarantee) : Nat :=
  A.sumSat ((gs.filter fun g => !domain.covers g.resource).map guaranteed)

/-- The state of the guarantee loop after the guarantees of `pre`. -/
def guaranteeState (A : Arith) (domain : DomainConfig) (acc : DomainAccounting)
    (entries : List ResourceCapacity) (pre : List Guarantee) : GuaranteeState where
  acc := { acc with outOfScopeGuarantees := outOfScopeGuarantees A domain pre }
  resources := entries.map (guaranteeAccum domain pre)
  seen := (pre.map (·.reservation)).reverse
  byClass := backing domain pre

section

variable {A : Arith} {index : PolicyIndex} {domain : DomainConfig} {acc : DomainAccounting}
  {entries : List ResourceCapacity} {pre : List Guarantee} {g : Guarantee}

theorem guaranteesOn_concat {id : ResourceId} :
    guaranteesOn domain (pre ++ [g]) id = guaranteesOn domain pre id +
      if domain.covers g.resource && decide (g.resource = id) then guaranteed g else 0 :=
  sumWhere_concat

/-- Out of scope, a guarantee only adds to the amount out of scope. -/
theorem guaranteeState_concat_out (hg : domain.covers g.resource = false) :
    guaranteeState A domain acc entries (pre ++ [g]) =
      { guaranteeState A domain acc entries pre with
        acc := { acc with outOfScopeGuarantees :=
                  A.addSat (outOfScopeGuarantees A domain pre) (guaranteed g) }
        seen := g.reservation :: (pre.map (·.reservation)).reverse } := by
  simp [guaranteeState, outOfScopeGuarantees, backing, guaranteeAccum, guaranteesOn_concat, hg,
    Arith.sumSat_concat, collect_concat]

/-- In scope, it adds to its member and to its class. -/
theorem guaranteeState_concat_in (ht : MemberTable domain entries)
    (hg : domain.covers g.resource = true) {rc : ResourceCapacity}
    (hrc : entries.find? (·.resource = g.resource) = some rc) :
    guaranteeState A domain acc entries (pre ++ [g]) =
      { guaranteeState A domain acc entries pre with
        seen := g.reservation :: (pre.map (·.reservation)).reverse
        resources := setResource (entries.map (guaranteeAccum domain pre)) g.resource
          { guaranteeAccum domain pre rc with
            guarantees := guaranteesOn domain pre g.resource + guaranteed g }
        byClass := add (backing domain pre) (g.resource, g.serviceClass) (guaranteed g) } := by
  have hres : entries.map (guaranteeAccum domain (pre ++ [g])) =
      setResource (entries.map (guaranteeAccum domain pre)) g.resource
        { guaranteeAccum domain pre rc with
          guarantees := guaranteesOn domain pre g.resource + guaranteed g } := by
    rw [setResource_map (fun _ => rfl) ht.nodup]
    refine List.map_congr_left fun e he => ?_
    split
    next h =>
      obtain rfl : e = rc := ht.entry_unique he hrc h
      simp [guaranteeAccum, guaranteesOn_concat, hg, h]
    next h => simp [guaranteeAccum, guaranteesOn_concat, hg, Ne.symm h]
  simp [guaranteeState, ← hres, outOfScopeGuarantees, backing, collect_concat, hg]

/-- What the loop checks of a guarantee in scope, after those of `pre`. -/
def GuaranteeFits (A : Arith) (domain : DomainConfig) (pre : List Guarantee) (g : Guarantee) :
    Prop :=
  A.fits (guaranteesOn domain pre g.resource + guaranteed g) = true ∧
    A.fits (get (backing domain pre) (g.resource, g.serviceClass) + guaranteed g) = true

theorem guaranteeStep_eq_ok (ht : MemberTable domain entries) (s : GuaranteeState) :
    guaranteeStep A index domain (guaranteeState A domain acc entries pre) g = .ok s ↔
      (g.reservation ∉ pre.map (·.reservation) ∧
        (domain.covers g.resource = true → GuaranteeOk index domain g) ∧
        (domain.covers g.resource = true → GuaranteeFits A domain pre g)) ∧
      s = guaranteeState A domain acc entries (pre ++ [g]) := by
  have hseen : g.reservation ∉ (guaranteeState A domain acc entries pre).seen ↔
      g.reservation ∉ pre.map (·.reservation) := by
    rw [guaranteeState, List.mem_reverse]
  have hfind : findResource (guaranteeState A domain acc entries pre).resources g.resource =
      (entries.find? (·.resource = g.resource)).map (guaranteeAccum domain pre) :=
    findResource_map fun _ => rfl
  unfold guaranteeStep
  simp only [bind_eq_ok, require_eq_ok, exists_const, hseen, hfind, and_assoc]
  refine and_congr_right fun _ => ?_
  cases hrc : entries.find? (·.resource = g.resource) with
  | none =>
      have hg := ht.find_eq_none.mp hrc
      rw [guaranteeState_concat_out hg, @eq_comm _ s]
      simp [hg, guaranteeState, guaranteed]
  | some rc =>
      have hg : domain.covers g.resource = true := by
        rw [← Bool.not_eq_false, ← ht.find_eq_none, hrc]
        exact Option.some_ne_none rc
      have hid := find_entry_resource hrc
      rw [guaranteeState_concat_in ht hg hrc, @eq_comm _ s]
      simp only [Option.map_some, bind_eq_ok, require_eq_ok, orRefuse_eq_ok, exists_const, hg,
        forall_const, GuaranteeOk, GuaranteeFits, Arith.addChecked_eq_some, and_assoc]
      simp [guaranteeState, guaranteeAccum, hid, guaranteed]

/-- The guarantees support an evaluation: no reservation repeats, and those in
scope are protected, in the pool and of a known class. -/
structure GuaranteesOk (index : PolicyIndex) (domain : DomainConfig) (gs : List Guarantee) :
    Prop where
  nodup : (gs.map (·.reservation)).Nodup
  entry : ∀ g ∈ gs, domain.covers g.resource = true → GuaranteeOk index domain g

theorem fits_downward {A : Arith} {m n : Nat} (h : m ≤ n) (hn : A.fits n = true) :
    A.fits m = true := A.fits_mono h hn

theorem eachPrefix_guaranteeFits {gs : List Guarantee} :
    EachPrefix (fun pre g => domain.covers g.resource = true → GuaranteeFits A domain pre g) gs ↔
      (∀ id, A.fits (guaranteesOn domain gs id) = true) ∧
        ∀ key, A.fits (get (backing domain gs) key) = true := by
  simp only [GuaranteeFits, imp_and]
  rw [eachPrefix_and]
  simp only [backing, get_collect, get_empty, Nat.zero_add, guaranteesOn]
  exact and_congr (eachPrefix_table fits_downward Arith.fits_zero)
    (eachPrefix_table fits_downward Arith.fits_zero)

/-- The guarantee loop starts from no guarantees. -/
theorem guaranteeState_nil (hacc : acc.outOfScopeGuarantees = 0) :
    guaranteeState A domain acc entries [] =
      { acc := acc, resources := entries.map memberAccum } := by
  have hacc' : { acc with outOfScopeGuarantees := 0 } = acc := by rw [← hacc]
  exact congrArg (fun a => GuaranteeState.mk a (entries.map memberAccum) [] ∅) hacc'

/-- **Guarantees**: the loop succeeds on consistent guarantees whose sums fit. -/
theorem gatherGuarantees_eq_ok (ht : MemberTable domain entries)
    (hacc : acc.outOfScopeGuarantees = 0) {res : ReservationSnapshot} {s : GuaranteeState} :
    gatherGuarantees A index domain res { acc, resources := entries.map memberAccum } = .ok s ↔
      GuaranteesOk index domain res.guarantees ∧
      ((∀ id, A.fits (guaranteesOn domain res.guarantees id) = true) ∧
        ∀ key, A.fits (get (backing domain res.guarantees) key) = true) ∧
      s = guaranteeState A domain acc entries res.guarantees := by
  have hloop : res.guarantees.foldlM (guaranteeStep A index domain)
      (guaranteeState A domain acc entries []) = .ok s ↔ _ ∧ _ :=
    foldlM_eq_ok (fun _ _ => guaranteeStep_eq_ok ht) res.guarantees s
  rw [eachPrefix_and, eachPrefix_and, eachPrefix_nodup, eachPrefix_const,
    eachPrefix_guaranteeFits] at hloop
  rw [gatherGuarantees, ← guaranteeState_nil hacc, hloop, and_assoc, and_assoc]
  exact ⟨fun h => ⟨⟨h.1, h.2.1⟩, h.2.2⟩, fun h => ⟨h.1.nodup, h.1.entry, h.2⟩⟩

end

/-- A checked sum over a list. -/
theorem foldlM_addChecked_eq_ok {α : Type} {A : Arith} {f : α → Nat} {x : Refusal} {l : List α}
    {n : Nat} :
    l.foldlM (fun total a => orRefuse (A.addChecked total (f a)) x) 0 = .ok n ↔
      A.fits (l.map f).sum = true ∧ n = (l.map f).sum := by
  have hstep : ∀ (pre : List α) a n, orRefuse (A.addChecked (pre.map f).sum (f a)) x = .ok n ↔
      A.fits ((pre.map f).sum + f a) = true ∧ n = ((pre ++ [a]).map f).sum := by
    intro pre a n
    rw [orRefuse_eq_ok, Arith.addChecked_eq_some, List.map_append, List.sum_append]
    rfl
  have hfits : EachPrefix (fun pre a => A.fits ((pre.map f).sum + f a) = true) l ↔
      A.fits (l.map f).sum = true := by
    have htotal : EachPrefix (fun pre a => true = true →
          A.fits (sumWhere (fun _ => true) f pre + f a) = true) l ↔
        A.fits (sumWhere (fun _ => true) f l) = true :=
      eachPrefix_total fits_downward Arith.fits_zero
    simpa only [sumWhere_true, forall_const] using htotal
  rw [← hfits]
  exact foldlM_eq_ok (S := fun pre => (pre.map f).sum) hstep l n

/-- Summing what falls on each member is summing what falls on any. -/
theorem MemberTable.sum_on {α : Type} {domain : DomainConfig} {entries : List ResourceCapacity}
    (ht : MemberTable domain entries) {p : α → Bool} {resource : α → ResourceId} {f : α → Nat} {l : List α}
    (hp : ∀ a ∈ l, p a = true → domain.covers (resource a) = true) :
    (entries.map fun rc => sumWhere (fun a => p a && decide (resource a = rc.resource)) f l).sum =
      sumWhere p f l := by
  have hmap : (entries.map fun rc => sumWhere (fun a => p a && decide (resource a = rc.resource)) f l) =
      (entries.map (·.resource)).map fun id => sumWhere (fun a => p a && decide (resource a = id)) f l := by
    rw [List.map_map]; rfl
  rw [hmap]
  refine (sum_fibers ht.nodup).trans (sumWhere_congr (fun a ha => ?_) fun _ _ _ => rfl)
  cases hpa : p a with
  | false => rfl
  | true => simp [ht.mem_iff, hp a ha hpa]

theorem sum_guaranteesOn {domain : DomainConfig} {entries : List ResourceCapacity}
    (ht : MemberTable domain entries) (gs : List Guarantee) :
    (entries.map fun rc => guaranteesOn domain gs rc.resource).sum = guaranteesIn domain gs :=
  ht.sum_on fun _ _ h => h

theorem guaranteesOn_le {domain : DomainConfig} {gs : List Guarantee} {id : ResourceId} :
    guaranteesOn domain gs id ≤ guaranteesIn domain gs :=
  sumWhere_mono (fun _ _ h => (Bool.and_eq_true _ _ ▸ h : _ ∧ _).1) fun _ _ _ => Nat.le_refl _

theorem get_backing {domain : DomainConfig} {gs : List Guarantee}
    {key : ResourceId × ServiceClassId} :
    get (backing domain gs) key = sumWhere (fun g => domain.covers g.resource &&
      decide ((g.resource, g.serviceClass) = key)) guaranteed gs := by
  rw [backing, get_collect, get_empty, Nat.zero_add]

theorem get_backing_le {domain : DomainConfig} {gs : List Guarantee}
    {key : ResourceId × ServiceClassId} : get (backing domain gs) key ≤ guaranteesIn domain gs := by
  rw [get_backing]
  exact sumWhere_mono (fun _ _ h => (Bool.and_eq_true _ _ ▸ h : _ ∧ _).1) fun _ _ _ => Nat.le_refl _

theorem guaranteesTotal_eq_ok {A : Arith} {domain : DomainConfig} {acc : DomainAccounting}
    {entries : List ResourceCapacity} (ht : MemberTable domain entries) {gs : List Guarantee}
    {n : Nat} :
    guaranteesTotal A (guaranteeState A domain acc entries gs) = .ok n ↔
      A.fits (guaranteesIn domain gs) = true ∧ n = guaranteesIn domain gs := by
  have hsum : ((entries.map (guaranteeAccum domain gs)).map (·.guarantees)).sum =
      guaranteesIn domain gs := by
    rw [List.map_map, ← sum_guaranteesOn ht]; rfl
  rw [← hsum]
  exact foldlM_addChecked_eq_ok

/-! ## The demand loop -/

/-- A record in scope supports an evaluation. -/
def DemandOk (index : PolicyIndex) (domain : DomainConfig) (r : DemandRecord) : Prop :=
  r.pool = domain.pool ∧ (index.serviceClass r.serviceClass).isSome = true ∧ r.kind ≠ .unknown

def demandAccum (index : PolicyIndex) (domain : DomainConfig) (gs : List Guarantee)
    (rs : List DemandRecord) (rc : ResourceCapacity) : ResourceAccum :=
  { guaranteeAccum domain gs rc with
    contingentCommitted := contingentOn domain index rs rc.resource
    contingentPending := pendingOn domain index rs rc.resource }

/-- The demand on other resources, in the arithmetic `A`. -/
def outOfScopeDemand (A : Arith) (domain : DomainConfig) (rs : List DemandRecord) : Nat :=
  A.sumSat ((rs.filter fun r => !domain.covers r.resource).map committed)

def ineligibleAmount (A : Arith) (index : PolicyIndex) (domain : DomainConfig)
    (rs : List DemandRecord) : Nat :=
  A.sumSat ((rs.filter (isIneligible domain index)).map fun r => A.addSat (committed r) (pending r))

/-- The class of the last ineligible record. -/
def ineligibleClass (index : PolicyIndex) (domain : DomainConfig) (rs : List DemandRecord) :
    ServiceClassId :=
  ((rs.filter (isIneligible domain index)).getLast?.map (·.serviceClass)).getD {}

/-- `acc` with the demand of `rs` counted. -/
def countDemand (A : Arith) (index : PolicyIndex) (domain : DomainConfig) (acc : DomainAccounting)
    (rs : List DemandRecord) : DomainAccounting :=
  { acc with
    guaranteedAdmitted := admittedIn domain rs
    contingentCommitted := contingentIn domain index rs
    contingentPending := pendingIn domain index rs
    burstCommitted := burstIn domain index rs
    outOfScopeDemand := outOfScopeDemand A domain rs }

/-- The state of the demand loop after the records of `pre`. -/
def demandState (A : Arith) (index : PolicyIndex) (domain : DomainConfig) (acc : DomainAccounting)
    (entries : List ResourceCapacity) (gs : List Guarantee) (pre : List DemandRecord) :
    DemandState where
  acc := countDemand A index domain acc pre
  resources := entries.map (demandAccum index domain gs pre)
  seen := (pre.map (·.admission)).reverse
  contingentByClass := contingentByClass domain index pre
  admittedByClass := admitted domain pre
  ineligibleAmount := ineligibleAmount A index domain pre
  ineligibleClass := ineligibleClass index domain pre

/-- What the loop checks of a record in scope, after those of `pre`. -/
structure DemandFits (A : Arith) (index : PolicyIndex) (domain : DomainConfig)
    (pre : List DemandRecord) (r : DemandRecord) : Prop where
  admitted : isGuaranteed domain r = true → A.fits (admittedIn domain pre + committed r) = true
  admittedByClass : isGuaranteed domain r = true →
    A.fits (get (Oversub.admitted domain pre) (r.resource, r.serviceClass) + committed r) = true
  contingentOn : isContingent domain index r = true →
    A.fits (Oversub.contingentOn domain index pre r.resource + committed r) = true
  contingent : isContingent domain index r = true →
    A.fits (contingentIn domain index pre + committed r) = true
  pendingOn : isContingent domain index r = true →
    A.fits (Oversub.pendingOn domain index pre r.resource + Oversub.pending r) = true
  pending : isContingent domain index r = true →
    A.fits (pendingIn domain index pre + Oversub.pending r) = true
  burst : isBurst domain index r = true → A.fits (burstIn domain index pre + committed r) = true
  contingentByClass : isContingent domain index r = true →
    A.fits (get (Oversub.contingentByClass domain index pre) r.serviceClass + committed r) = true

section

variable {A : Arith} {index : PolicyIndex} {domain : DomainConfig} {acc : DomainAccounting}
  {entries : List ResourceCapacity} {gs : List Guarantee} {pre : List DemandRecord}
  {r : DemandRecord}

/-- What one more record adds to each total. -/
theorem countDemand_concat :
    countDemand A index domain acc (pre ++ [r]) =
      { acc with
        guaranteedAdmitted := admittedIn domain pre + if isGuaranteed domain r then committed r else 0
        contingentCommitted := contingentIn domain index pre +
          if isContingent domain index r then committed r else 0
        contingentPending := pendingIn domain index pre +
          if isContingent domain index r then pending r else 0
        burstCommitted := burstIn domain index pre +
          if isBurst domain index r then committed r else 0
        outOfScopeDemand := if domain.covers r.resource then outOfScopeDemand A domain pre
          else A.addSat (outOfScopeDemand A domain pre) (committed r) } := by
  unfold countDemand
  congr 1
  · exact sumWhere_concat
  · exact sumWhere_concat
  · exact sumWhere_concat
  · exact sumWhere_concat
  · unfold outOfScopeDemand
    cases h : domain.covers r.resource <;> simp [h, Arith.sumSat_concat]

/-- A record that adds to no member leaves the accumulators alone. -/
theorem demandAccum_concat_other (hr : isContingent domain index r = false) :
    entries.map (demandAccum index domain gs (pre ++ [r])) =
      entries.map (demandAccum index domain gs pre) := by
  refine List.map_congr_left fun e _ => ?_
  simp [demandAccum, contingentOn, pendingOn, sumWhere_concat, hr]

theorem demandAccum_concat_contingent (ht : MemberTable domain entries)
    (hr : isContingent domain index r = true) {rc : ResourceCapacity}
    (hrc : entries.find? (·.resource = r.resource) = some rc) :
    entries.map (demandAccum index domain gs (pre ++ [r])) =
      setResource (entries.map (demandAccum index domain gs pre)) r.resource
        { demandAccum index domain gs pre rc with
          contingentCommitted := contingentOn domain index pre r.resource + committed r
          contingentPending := pendingOn domain index pre r.resource + pending r } := by
  rw [setResource_map (fun _ => rfl) ht.nodup]
  refine List.map_congr_left fun e he => ?_
  split
  next h =>
    obtain rfl : e = rc := ht.entry_unique he hrc h
    simp [demandAccum, contingentOn, pendingOn, sumWhere_concat, hr, h]
  next h => simp [demandAccum, contingentOn, pendingOn, sumWhere_concat, hr, Ne.symm h]

theorem ineligibleAmount_concat :
    ineligibleAmount A index domain (pre ++ [r]) =
      if isIneligible domain index r then
        A.addSat (ineligibleAmount A index domain pre) (A.addSat (committed r) (pending r))
      else ineligibleAmount A index domain pre := by
  unfold ineligibleAmount
  cases h : isIneligible domain index r <;> simp [h, Arith.sumSat_concat]

theorem ineligibleClass_concat :
    ineligibleClass index domain (pre ++ [r]) =
      if isIneligible domain index r then r.serviceClass else ineligibleClass index domain pre := by
  unfold ineligibleClass
  cases h : isIneligible domain index r <;> simp [h]

theorem demandState_concat_other (hr : isContingent domain index r = false)
    (hg : isGuaranteed domain r = false) :
    demandState A index domain acc entries gs (pre ++ [r]) =
      { demandState A index domain acc entries gs pre with
        acc := countDemand A index domain acc (pre ++ [r])
        seen := r.admission :: (pre.map (·.admission)).reverse
        ineligibleAmount := ineligibleAmount A index domain (pre ++ [r])
        ineligibleClass := ineligibleClass index domain (pre ++ [r]) } := by
  simp [demandState, demandAccum_concat_other hr, contingentByClass, admitted, collect_concat, hr, hg]

theorem guaranteedDemand_eq_ok {s s' : DemandState} :
    guaranteedDemand A s r = .ok s' ↔
      A.fits (s.acc.guaranteedAdmitted + committed r) = true ∧
      A.fits (get s.admittedByClass (r.resource, r.serviceClass) + committed r) = true ∧
      s' = { s with
        acc := { s.acc with guaranteedAdmitted := s.acc.guaranteedAdmitted + committed r }
        admittedByClass := add s.admittedByClass (r.resource, r.serviceClass) (committed r) } := by
  rw [@eq_comm _ s']
  simp [guaranteedDemand, bind_eq_ok, Arith.addChecked_eq_some, committed, and_assoc]

theorem contingentDemand_eq_ok {cls : ServiceClassRef} (hcls : cls.oversubscriptionEligible = true)
    {ra : ResourceAccum} {s s' : DemandState} :
    contingentDemand A cls ra s r = .ok s' ↔
      A.fits (ra.contingentCommitted + committed r) = true ∧
      A.fits (s.acc.contingentCommitted + committed r) = true ∧
      A.fits (ra.contingentPending + pending r) = true ∧
      A.fits (s.acc.contingentPending + pending r) = true ∧
      (r.kind = .burst → A.fits (s.acc.burstCommitted + committed r) = true) ∧
      A.fits (get s.contingentByClass r.serviceClass + committed r) = true ∧
      s' = { s with
        acc := { s.acc with
          contingentCommitted := s.acc.contingentCommitted + committed r
          contingentPending := s.acc.contingentPending + pending r
          burstCommitted := s.acc.burstCommitted + if r.kind = .burst then committed r else 0 }
        resources := setResource s.resources r.resource
          { ra with
            contingentCommitted := ra.contingentCommitted + committed r
            contingentPending := ra.contingentPending + pending r }
        contingentByClass := add s.contingentByClass r.serviceClass (committed r) } := by
  rw [@eq_comm _ s']
  by_cases hk : r.kind = .burst
  · simp [contingentDemand, hcls, bind_eq_ok, Arith.addChecked_eq_some, committed, pending, hk,
      and_assoc]
  · simp [contingentDemand, hcls, bind_eq_ok, Arith.addChecked_eq_some, committed, pending, hk,
      and_assoc]

/-- The state the arms of the switch start from: the record is seen. -/
def demandSeen (A : Arith) (index : PolicyIndex) (domain : DomainConfig) (acc : DomainAccounting)
    (entries : List ResourceCapacity) (gs : List Guarantee) (pre : List DemandRecord)
    (r : DemandRecord) : DemandState :=
  { demandState A index domain acc entries gs pre with
    seen := r.admission :: (pre.map (·.admission)).reverse }

/-- A record that is neither guaranteed nor oversubscribed: out of scope, or
of a kind that names no enumerator. -/
theorem demandState_concat_ignored (hG : isGuaranteed domain r = false)
    (hO : isOversubscribed domain r = false) :
    demandState A index domain acc entries gs (pre ++ [r]) =
      { demandSeen A index domain acc entries gs pre r with
        acc := { countDemand A index domain acc pre with
          outOfScopeDemand := if domain.covers r.resource then outOfScopeDemand A domain pre
            else A.addSat (outOfScopeDemand A domain pre) (committed r) } } := by
  have hC : isContingent domain index r = false := by rw [isContingent, hO, Bool.false_and]
  have hI : isIneligible domain index r = false := by rw [isIneligible, hO, Bool.false_and]
  have hB : isBurst domain index r = false := by rw [isBurst, hC, Bool.false_and]
  rw [demandState_concat_other hC hG, ineligibleAmount_concat, ineligibleClass_concat,
    countDemand_concat]
  simp [hG, hC, hI, hB, demandSeen, demandState, countDemand]

theorem demandFits_ignored (hG : isGuaranteed domain r = false)
    (hO : isOversubscribed domain r = false) : DemandFits A index domain pre r := by
  have hC : isContingent domain index r = false := by rw [isContingent, hO, Bool.false_and]
  have hB : isBurst domain index r = false := by rw [isBurst, hC, Bool.false_and]
  constructor <;> simp [hG, hC, hB]

theorem guaranteedDemand_demandSeen (hG : isGuaranteed domain r = true) {s : DemandState} :
    guaranteedDemand A (demandSeen A index domain acc entries gs pre r) r = .ok s ↔
      DemandFits A index domain pre r ∧
      demandState A index domain acc entries gs (pre ++ [r]) = s := by
  have hk : domain.covers r.resource = true ∧ r.kind = .guaranteed := by
    simpa [isGuaranteed] using hG
  have hC : isContingent domain index r = false := by
    simp [isContingent, isOversubscribed, hk.2]
  have hI : isIneligible domain index r = false := by
    simp [isIneligible, isOversubscribed, hk.2]
  have hB : isBurst domain index r = false := by rw [isBurst, hC, Bool.false_and]
  have hfits : DemandFits A index domain pre r ↔
      A.fits (admittedIn domain pre + committed r) = true ∧
        A.fits (get (admitted domain pre) (r.resource, r.serviceClass) + committed r) = true :=
    ⟨fun h => ⟨h.admitted hG, h.admittedByClass hG⟩, fun h => by constructor <;> simp [hC, hB, h]⟩
  have hstate : demandState A index domain acc entries gs (pre ++ [r]) =
      { demandSeen A index domain acc entries gs pre r with
        acc := { countDemand A index domain acc pre with
          guaranteedAdmitted := admittedIn domain pre + committed r }
        admittedByClass := add (admitted domain pre) (r.resource, r.serviceClass) (committed r) } := by
    rw [demandState, countDemand_concat, demandAccum_concat_other hC, ineligibleAmount_concat,
      ineligibleClass_concat]
    simp [demandState, demandSeen, contingentByClass, admitted, collect_concat, hG, hC, hI, hB,
      hk.1, countDemand]
  rw [guaranteedDemand_eq_ok, hfits, hstate, @eq_comm _ s, and_assoc]
  rfl

theorem contingentDemand_demandSeen (ht : MemberTable domain entries)
    (hO : isOversubscribed domain r = true) {cls : ServiceClassRef}
    (hcls : index.serviceClass r.serviceClass = some cls) {rc : ResourceCapacity}
    (hrc : entries.find? (·.resource = r.resource) = some rc) {s : DemandState} :
    contingentDemand A cls (demandAccum index domain gs pre rc)
        (demandSeen A index domain acc entries gs pre r) r = .ok s ↔
      DemandFits A index domain pre r ∧
      demandState A index domain acc entries gs (pre ++ [r]) = s := by
  have hc : domain.covers r.resource = true ∧ (r.kind = .contingent ∨ r.kind = .burst) := by
    simpa [isOversubscribed] using hO
  have hG : isGuaranteed domain r = false := by
    rcases hc.2 with hk | hk <;> simp [isGuaranteed, hk]
  have hel : eligible index r.serviceClass = cls.oversubscriptionEligible := by
    simp [eligible, hcls]
  cases hE : cls.oversubscriptionEligible with
  | false =>
      have hC : isContingent domain index r = false := by simp [isContingent, hel, hE]
      have hI : isIneligible domain index r = true := by simp [isIneligible, hel, hE, hO]
      have hB : isBurst domain index r = false := by rw [isBurst, hC, Bool.false_and]
      have hfits : DemandFits A index domain pre r := by constructor <;> simp [hG, hC, hB]
      have hstate : demandState A index domain acc entries gs (pre ++ [r]) =
          { demandSeen A index domain acc entries gs pre r with
            ineligibleAmount := A.addSat (ineligibleAmount A index domain pre)
              (A.addSat (committed r) (pending r))
            ineligibleClass := r.serviceClass } := by
        rw [demandState_concat_other hC hG, countDemand_concat, ineligibleAmount_concat,
          ineligibleClass_concat]
        simp [hG, hC, hI, hB, hc.1, demandSeen, demandState, countDemand]
      rw [hstate, contingentDemand, if_pos hE]
      simp [hfits, committed, pending, demandSeen, demandState]
  | true =>
      have hC : isContingent domain index r = true := by simp [isContingent, hel, hE, hO]
      have hI : isIneligible domain index r = false := by simp [isIneligible, hel, hE]
      have hB : isBurst domain index r = decide (r.kind = .burst) := by
        rw [isBurst, hC, Bool.true_and]
      have hid := find_entry_resource hrc
      have hstate : demandState A index domain acc entries gs (pre ++ [r]) =
          { demandSeen A index domain acc entries gs pre r with
            acc := { countDemand A index domain acc pre with
              contingentCommitted := contingentIn domain index pre + committed r
              contingentPending := pendingIn domain index pre + pending r
              burstCommitted := burstIn domain index pre +
                if r.kind = .burst then committed r else 0 }
            resources := setResource (entries.map (demandAccum index domain gs pre)) r.resource
              { demandAccum index domain gs pre rc with
                contingentCommitted := contingentOn domain index pre r.resource + committed r
                contingentPending := pendingOn domain index pre r.resource + pending r }
            contingentByClass := add (contingentByClass domain index pre) r.serviceClass
              (committed r) } := by
        rw [← demandAccum_concat_contingent ht hC hrc, demandState, countDemand_concat,
          ineligibleAmount_concat, ineligibleClass_concat]
        simp [demandState, demandSeen, contingentByClass, admitted, collect_concat, hG, hC, hI, hB,
          hc.1, countDemand]
      have hfits : DemandFits A index domain pre r ↔
          A.fits (contingentOn domain index pre r.resource + committed r) = true ∧
          A.fits (contingentIn domain index pre + committed r) = true ∧
          A.fits (pendingOn domain index pre r.resource + pending r) = true ∧
          A.fits (pendingIn domain index pre + pending r) = true ∧
          (r.kind = .burst → A.fits (burstIn domain index pre + committed r) = true) ∧
          A.fits (get (contingentByClass domain index pre) r.serviceClass + committed r) = true :=
        ⟨fun h => ⟨h.contingentOn hC, h.contingent hC, h.pendingOn hC, h.pending hC,
            fun hk => h.burst (by simp [hB, hk]), h.contingentByClass hC⟩,
          fun h => by constructor <;> simp_all⟩
      rw [hstate, contingentDemand_eq_ok hE, hfits, @eq_comm _ s]
      simp only [demandAccum, demandSeen, demandState, countDemand, hid, and_assoc]

theorem demandStep_eq_ok (ht : MemberTable domain entries) (s : DemandState) :
    demandStep A index domain (demandState A index domain acc entries gs pre) r = .ok s ↔
      (r.admission ∉ pre.map (·.admission) ∧
        (domain.covers r.resource = true → DemandOk index domain r) ∧
        DemandFits A index domain pre r) ∧
      s = demandState A index domain acc entries gs (pre ++ [r]) := by
  have hseen : r.admission ∉ (demandState A index domain acc entries gs pre).seen ↔
      r.admission ∉ pre.map (·.admission) := by
    rw [demandState, List.mem_reverse]
  have hfind : findResource (demandState A index domain acc entries gs pre).resources r.resource =
      (entries.find? (·.resource = r.resource)).map (demandAccum index domain gs pre) :=
    findResource_map fun _ => rfl
  unfold demandStep
  simp only [bind_eq_ok, require_eq_ok, exists_const, hseen, hfind, and_assoc]
  refine and_congr_right fun _ => ?_
  rw [@eq_comm _ s]
  cases hrc : entries.find? (·.resource = r.resource) with
  | none =>
      have hc := ht.find_eq_none.mp hrc
      have hG : isGuaranteed domain r = false := by simp [isGuaranteed, hc]
      have hO : isOversubscribed domain r = false := by simp [isOversubscribed, hc]
      rw [demandState_concat_ignored hG hO]
      simp [hc, demandFits_ignored hG hO, demandSeen, demandState, countDemand, committed]
  | some rc =>
      have hc : domain.covers r.resource = true := by
        rw [← Bool.not_eq_false, ← ht.find_eq_none, hrc]
        exact Option.some_ne_none rc
      simp only [Option.map_some, bind_eq_ok, require_eq_ok, orRefuse_eq_ok, exists_const, hc,
        forall_const, DemandOk, and_assoc]
      refine and_congr_right fun _ => ?_
      cases hcls : index.serviceClass r.serviceClass with
      | none => simp
      | some cls =>
          simp only [Option.some.injEq, exists_eq_left', Option.isSome_some, true_and]
          cases hk : r.kind with
          | unknown => simp
          | unnamed raw hraw =>
              have hG : isGuaranteed domain r = false := by simp [isGuaranteed, hk]
              have hO : isOversubscribed domain r = false := by simp [isOversubscribed, hk]
              rw [demandState_concat_ignored hG hO]
              simp [hc, demandFits_ignored hG hO, demandSeen, demandState, countDemand]
          | guaranteed =>
              simp only [ne_eq, reduceCtorEq, not_false_eq_true, true_and]
              exact guaranteedDemand_demandSeen (by simp [isGuaranteed, hc, hk])
          | contingent =>
              simp only [ne_eq, reduceCtorEq, not_false_eq_true, true_and]
              exact contingentDemand_demandSeen ht (by simp [isOversubscribed, hc, hk]) hcls hrc
          | burst =>
              simp only [ne_eq, reduceCtorEq, not_false_eq_true, true_and]
              exact contingentDemand_demandSeen ht (by simp [isOversubscribed, hc, hk]) hcls hrc

/-- The totals of the demand can be represented; every partial sum is below one of them. -/
structure DemandTotalsFit (A : Arith) (index : PolicyIndex) (domain : DomainConfig)
    (rs : List DemandRecord) : Prop where
  admitted : A.fits (admittedIn domain rs) = true
  contingent : A.fits (contingentIn domain index rs) = true
  pending : A.fits (pendingIn domain index rs) = true

theorem get_admitted {rs : List DemandRecord} {key : ResourceId × ServiceClassId} :
    get (admitted domain rs) key = sumWhere
      (fun r => isGuaranteed domain r && decide ((r.resource, r.serviceClass) = key)) committed rs := by
  rw [admitted, get_collect, get_empty, Nat.zero_add]

theorem get_contingentByClass {rs : List DemandRecord} {id : ServiceClassId} :
    get (contingentByClass domain index rs) id = contingentOf domain index rs id := by
  rw [contingentByClass, get_collect, get_empty, Nat.zero_add, contingentOf]

/-- Part of a sum. -/
theorem sumWhere_and_le {α : Type} {p q : α → Bool} {f : α → Nat} {l : List α} :
    sumWhere (fun a => p a && q a) f l ≤ sumWhere p f l :=
  sumWhere_mono (fun _ _ h => (Bool.and_eq_true _ _ ▸ h : _ ∧ _).1) fun _ _ _ => Nat.le_refl _

theorem eachPrefix_demandFits {rs : List DemandRecord} :
    EachPrefix (DemandFits A index domain) rs ↔ DemandTotalsFit A index domain rs := by
  have hsplit : DemandFits A index domain = fun pre r =>
      (isGuaranteed domain r = true → A.fits (admittedIn domain pre + committed r) = true) ∧
      (isGuaranteed domain r = true →
        A.fits (get (admitted domain pre) (r.resource, r.serviceClass) + committed r) = true) ∧
      (isContingent domain index r = true →
        A.fits (contingentOn domain index pre r.resource + committed r) = true) ∧
      (isContingent domain index r = true →
        A.fits (contingentIn domain index pre + committed r) = true) ∧
      (isContingent domain index r = true →
        A.fits (pendingOn domain index pre r.resource + pending r) = true) ∧
      (isContingent domain index r = true →
        A.fits (pendingIn domain index pre + pending r) = true) ∧
      (isBurst domain index r = true → A.fits (burstIn domain index pre + committed r) = true) ∧
      (isContingent domain index r = true →
        A.fits (get (contingentByClass domain index pre) r.serviceClass + committed r) = true) := by
    funext pre r
    exact propext ⟨fun h => ⟨h.1, h.2, h.3, h.4, h.5, h.6, h.7, h.8⟩,
      fun ⟨h1, h2, h3, h4, h5, h6, h7, h8⟩ => ⟨h1, h2, h3, h4, h5, h6, h7, h8⟩⟩
  have hfits : ∀ {m n : Nat}, m ≤ n → A.fits n = true → A.fits m = true := fits_downward
  have h0 : A.fits 0 = true := Arith.fits_zero
  simp only [hsplit, eachPrefix_and, get_admitted, get_contingentByClass, contingentOn, pendingOn,
    contingentOf, admittedIn, contingentIn, pendingIn, burstIn]
  rw [eachPrefix_total hfits h0, eachPrefix_table hfits h0, eachPrefix_table hfits h0,
    eachPrefix_total hfits h0, eachPrefix_table hfits h0, eachPrefix_total hfits h0,
    eachPrefix_total hfits h0, eachPrefix_table hfits h0]
  constructor
  · rintro ⟨hadm, -, -, hcon, -, hpen, -, -⟩
    exact ⟨hadm, hcon, hpen⟩
  · rintro ⟨hadm, hcon, hpen⟩
    exact ⟨hadm, fun _ => hfits sumWhere_and_le hadm, fun _ => hfits sumWhere_and_le hcon, hcon,
      fun _ => hfits sumWhere_and_le hpen, hpen, hfits sumWhere_and_le hcon,
      fun _ => hfits sumWhere_and_le hcon⟩

/-- The demand supports an evaluation: no admission repeats, and the records in
scope are in the pool, of a known class and of some kind. -/
structure DemandsOk (index : PolicyIndex) (domain : DomainConfig) (rs : List DemandRecord) :
    Prop where
  nodup : (rs.map (·.admission)).Nodup
  entry : ∀ r ∈ rs, domain.covers r.resource = true → DemandOk index domain r

/-- The demand loop starts from no records. -/
theorem demandState_nil (hacc : countDemand A index domain acc [] = acc) :
    demandState A index domain acc entries gs [] =
      { acc := acc, resources := entries.map (guaranteeAccum domain gs) } := by
  rw [demandState, hacc]
  rfl

/-- **Demand**: the loop succeeds on consistent records whose totals fit. -/
theorem gatherDemand_eq_ok (ht : MemberTable domain entries)
    (hacc : countDemand A index domain acc [] = acc) {adm : AdmissionSnapshot} {s : DemandState} :
    gatherDemand A index domain adm acc (entries.map (guaranteeAccum domain gs)) = .ok s ↔
      DemandsOk index domain adm.records ∧ DemandTotalsFit A index domain adm.records ∧
      s = demandState A index domain acc entries gs adm.records := by
  have hloop : adm.records.foldlM (demandStep A index domain)
      (demandState A index domain acc entries gs []) = .ok s ↔ _ ∧ _ :=
    foldlM_eq_ok (fun _ _ => demandStep_eq_ok ht) adm.records s
  rw [eachPrefix_and, eachPrefix_and, eachPrefix_nodup, eachPrefix_const,
    eachPrefix_demandFits] at hloop
  rw [gatherDemand, ← demandState_nil hacc, hloop, and_assoc, and_assoc]
  exact ⟨fun h => ⟨⟨h.1, h.2.1⟩, h.2.2⟩, fun h => ⟨h.1.nodup, h.1.entry, h.2⟩⟩

end

/-! ## The totals loop -/

/-- The checked sum of the effective capacities: its value, which stops
growing at a failed addition, and whether every addition closed. -/
def effectiveTotal (A : Arith) (entries : List ResourceCapacity) : Nat × Bool :=
  entries.foldl
    (fun t rc =>
      let sum := A.addChecked t.1 (effectiveUsable rc)
      (sum.getD t.1, t.2 && sum.isSome)) (0, true)

/-- The effective capacity of the members. -/
def effectiveIn (entries : List ResourceCapacity) : Nat := (entries.map effectiveUsable).sum

def physicalIn (entries : List ResourceCapacity) : Nat :=
  (entries.map (·.physicalCapacity.toNat)).sum

def usableIn (entries : List ResourceCapacity) : Nat := (entries.map (·.usableCapacity.toNat)).sum

theorem effectiveIn_concat {entries : List ResourceCapacity} {rc : ResourceCapacity} :
    effectiveIn (entries ++ [rc]) = effectiveIn entries + effectiveUsable rc := by
  simp [effectiveIn]

theorem effectiveTotal_concat {A : Arith} {entries : List ResourceCapacity}
    {rc : ResourceCapacity} :
    effectiveTotal A (entries ++ [rc]) =
      ((A.addChecked (effectiveTotal A entries).1 (effectiveUsable rc)).getD
          (effectiveTotal A entries).1,
        (effectiveTotal A entries).2 &&
          (A.addChecked (effectiveTotal A entries).1 (effectiveUsable rc)).isSome) := by
  rw [effectiveTotal, List.foldl_append, List.foldl_cons, List.foldl_nil, ← effectiveTotal]

/-- **Closing**: the sum closes exactly when it fits, and is then the exact sum. -/
theorem effectiveTotal_spec {A : Arith} (entries : List ResourceCapacity) :
    ((effectiveTotal A entries).2 = true ↔ A.fits (effectiveIn entries) = true) ∧
      (A.fits (effectiveIn entries) = true →
        (effectiveTotal A entries).1 = effectiveIn entries) := by
  induction entries using List.reverseRecOn with
  | nil => exact ⟨iff_of_true rfl Arith.fits_zero, fun _ => rfl⟩
  | append_singleton entries rc ih =>
      obtain ⟨hclosed, hvalue⟩ := ih
      rw [effectiveTotal_concat, effectiveIn_concat]
      by_cases hfits : A.fits (effectiveIn entries + effectiveUsable rc) = true
      · have hpart : A.fits (effectiveIn entries) = true :=
          A.fits_mono (Nat.le_add_right _ _) hfits
        have hadd : A.addChecked (effectiveTotal A entries).1 (effectiveUsable rc) =
            some (effectiveIn entries + effectiveUsable rc) := by
          rw [hvalue hpart, Arith.addChecked, if_pos hfits]
        rw [hadd, hclosed.mpr hpart]
        exact ⟨iff_of_true rfl hfits, fun _ => rfl⟩
      · refine ⟨iff_of_false (fun h => hfits ?_) hfits, fun h => absurd h hfits⟩
        obtain ⟨h2, hsome⟩ := (Bool.and_eq_true _ _).mp h
        obtain ⟨n, hn⟩ := Option.isSome_iff_exists.mp hsome
        rw [hvalue (hclosed.mp h2)] at hn
        exact (Arith.addChecked_eq_some.mp hn).1

/-- The accumulator of a member after the totals loop, which overwrites the
contingent amount with the guarantees. -/
def totalAccum (index : PolicyIndex) (domain : DomainConfig) (gs : List Guarantee)
    (rs : List DemandRecord) (rc : ResourceCapacity) : ResourceAccum :=
  { demandAccum index domain gs rs rc with
    contingentCommitted := guaranteesOn domain gs rc.resource }

/-- `acc` with the capacities of `entries` summed up. -/
def countCapacity (A : Arith) (acc : DomainAccounting) (entries : List ResourceCapacity) :
    DomainAccounting :=
  { acc with
    physicalCapacity := A.sumSat (entries.map (·.physicalCapacity.toNat))
    usableCapacity := A.sumSat (entries.map (·.usableCapacity.toNat))
    effectiveUsableCapacity := (effectiveTotal A entries).1 }

/-- The state of the totals loop after the members of `pre`. -/
def totalsState (A : Arith) (index : PolicyIndex) (domain : DomainConfig) (acc : DomainAccounting)
    (gs : List Guarantee) (rs : List DemandRecord) (pre : List ResourceCapacity) : TotalsState where
  acc := countCapacity A acc pre
  resources := pre.map (totalAccum index domain gs rs)
  closed := (effectiveTotal A pre).2

theorem totalsStep_eq {A : Arith} {index : PolicyIndex} {domain : DomainConfig}
    {acc : DomainAccounting} {gs : List Guarantee} {rs : List DemandRecord}
    (hfits : ∀ id, A.fits (guaranteesOn domain gs id) = true) (pre : List ResourceCapacity)
    (rc : ResourceCapacity) :
    totalsStep A (totalsState A index domain acc gs rs pre) (demandAccum index domain gs rs rc) =
      totalsState A index domain acc gs rs (pre ++ [rc]) := by
  have hcommitted : A.addChecked (demandAccum index domain gs rs rc).committed
      (demandAccum index domain gs rs rc).guarantees =
        some (guaranteesOn domain gs rc.resource) := by
    have h0 : 0 + guaranteesOn domain gs rc.resource = guaranteesOn domain gs rc.resource :=
      Nat.zero_add _
    show A.addChecked 0 (guaranteesOn domain gs rc.resource) = _
    rw [Arith.addChecked, h0, if_pos (hfits rc.resource)]
  simp only [totalsStep, totalsState, hcommitted, countCapacity, effectiveTotal_concat,
    List.map_append, List.map_cons, List.map_nil, Arith.sumSat_concat, Option.getD_some,
    Option.isSome_some, Bool.and_true]
  rfl

section

variable {A : Arith} {index : PolicyIndex} {domain : DomainConfig} {limits : PolicyLimits}
  {acc : DomainAccounting} {entries : List ResourceCapacity} {gs : List Guarantee}
  {rs : List DemandRecord}

theorem foldl_totalsStep (hacc : countCapacity A acc [] = acc)
    (hfits : ∀ id, A.fits (guaranteesOn domain gs id) = true) :
    (entries.map (demandAccum index domain gs rs)).foldl (totalsStep A)
      { acc, resources := [], closed := true } = totalsState A index domain acc gs rs entries := by
  have hstart : ({ acc, resources := [], closed := true } : TotalsState) =
      totalsState A index domain acc gs rs [] := by
    rw [totalsState, hacc]
    rfl
  rw [List.foldl_map, hstart]
  exact foldl_eq (totalsStep_eq hfits) entries

/-- **Totals**: the last loop only refuses capacities beyond the policy's bound. -/
theorem gatherTotals_eq_ok (hacc : countCapacity A acc [] = acc)
    (hfits : ∀ id, A.fits (guaranteesOn domain gs id) = true) {s : TotalsState} :
    gatherTotals A limits acc (entries.map (demandAccum index domain gs rs)) = .ok s ↔
      (A.sumSat (entries.map (·.physicalCapacity.toNat)) ≤ limits.maxCapacityUnits.toNat ∧
        A.sumSat (entries.map (·.usableCapacity.toNat)) ≤ limits.maxCapacityUnits.toNat) ∧
      s = totalsState A index domain acc gs rs entries := by
  unfold gatherTotals
  simp only [bind_eq_ok, require_eq_ok, exists_const, foldl_totalsStep hacc hfits, Except.ok.injEq,
    @eq_comm _ _ s]
  rfl

theorem gatherTotals_eq_error (hacc : countCapacity A acc [] = acc)
    (hfits : ∀ id, A.fits (guaranteesOn domain gs id) = true) {x : Refusal} :
    gatherTotals A limits acc (entries.map (demandAccum index domain gs rs)) = .error x ↔
      ¬ (A.sumSat (entries.map (·.physicalCapacity.toNat)) ≤ limits.maxCapacityUnits.toNat ∧
        A.sumSat (entries.map (·.usableCapacity.toNat)) ≤ limits.maxCapacityUnits.toNat) ∧
      (countCapacity A acc entries).conflicting .resourceCapacityInvalid
        "domain capacity exceeds the policy capacity bound" = x := by
  unfold gatherTotals
  simp only [bind_eq_error, require_eq_error, foldl_totalsStep hacc hfits, reduceCtorEq, and_false,
    exists_false, or_false]
  rfl

end

end Oversub
