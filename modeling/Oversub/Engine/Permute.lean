import Oversub.Engine.Demand
import Oversub.Engine.Iteration
import Oversub.Engine.Scope

/-!
# Oversub.Engine.Permute

The records of a snapshot in another order (`DomainEvidence.Rearranged`).
Sums, lookups and canonical digests do not see the order; what does is which
record a loop refuses first.  In a validated snapshot a sum can only overflow
when every record counts towards it, so an overflow and an inconsistent
record exclude each other, and the outcome of a refusal is a property of the
records as a whole (`gatherEvidence_refused`).
-/

namespace Oversub

open EarlyFold Tally Rearrange

/-! ## Rearranged snapshots -/

structure CapacitySnapshot.Rearranged (cap cap' : CapacitySnapshot) : Prop where
  resources : cap.resources.Perm cap'.resources
  rest : cap' = { cap with resources := cap'.resources }

structure ReservationSnapshot.Rearranged (res res' : ReservationSnapshot) : Prop where
  guarantees : res.guarantees.Perm res'.guarantees
  rest : res' = { res with guarantees := res'.guarantees }

structure AdmissionSnapshot.Rearranged (adm adm' : AdmissionSnapshot) : Prop where
  records : adm.records.Perm adm'.records
  rest : adm' = { adm with records := adm'.records }

structure DomainEvidence.Rearranged (evidence evidence' : DomainEvidence) : Prop where
  capacity : Option.Rel CapacitySnapshot.Rearranged evidence.capacity evidence'.capacity
  reservations :
    Option.Rel ReservationSnapshot.Rearranged evidence.reservations evidence'.reservations
  admissions : Option.Rel AdmissionSnapshot.Rearranged evidence.admissions evidence'.admissions

structure Snapshots.Rearranged (sn sn' : Snapshots) : Prop where
  cap : sn.cap.Rearranged sn'.cap
  res : sn.res.Rearranged sn'.res
  adm : sn.adm.Rearranged sn'.adm

/-- The snapshots pass their validators. -/
structure Snapshots.Valid (sn : Snapshots) : Prop where
  cap : sn.cap.Valid
  res : sn.res.Valid
  adm : sn.adm.Valid

/-! ## Digests -/

/-- Sorting by a key that no two elements share. -/
theorem sortByKey_perm {α : Type} {key : α → UInt64} {l l' : List α} (h : l.Perm l')
    (hn : (l.map key).Nodup) :
    (l.insertionSort fun a b => key a ≤ key b) = l'.insertionSort fun a b => key a ≤ key b := by
  have htotal : Std.Total fun a b : α => key a ≤ key b := ⟨fun _ _ => UInt64.le_total _ _⟩
  have htrans : IsTrans α fun a b => key a ≤ key b := ⟨fun _ _ _ => UInt64.le_trans⟩
  refine insertionSort_perm h fun a ha b hb hab hba => ?_
  exact List.inj_on_of_nodup_map hn ha hb (UInt64.le_antisymm hab hba)

/-- The entries of a capacity snapshot, by resource and pool. -/
def sortedResources (l : List ResourceCapacity) : List ResourceCapacity :=
  l.insertionSort fun a b =>
    a.resource.value < b.resource.value ∨ a.resource = b.resource ∧ a.pool.value ≤ b.pool.value

/-- Which no two entries share the resource of. -/
theorem sortedResources_perm {l l' : List ResourceCapacity} (h : l.Perm l')
    (hn : (l.map (·.resource.value)).Nodup) : sortedResources l = sortedResources l' := by
  have htotal : Std.Total fun a b : ResourceCapacity => a.resource.value < b.resource.value ∨
      a.resource = b.resource ∧ a.pool.value ≤ b.pool.value := by
    refine ⟨fun a b => ?_⟩
    rcases UInt64.lt_or_le a.resource.value b.resource.value with hlt | hle
    · exact .inl (.inl hlt)
    rcases UInt64.lt_or_le b.resource.value a.resource.value with hlt | hle'
    · exact .inr (.inl hlt)
    have heq : a.resource = b.resource := congrArg StrongId.mk (UInt64.le_antisymm hle' hle)
    rcases UInt64.le_total a.pool.value b.pool.value with hp | hp
    · exact .inl (.inr ⟨heq, hp⟩)
    · exact .inr (.inr ⟨heq.symm, hp⟩)
  have htrans : IsTrans ResourceCapacity fun a b => a.resource.value < b.resource.value ∨
      a.resource = b.resource ∧ a.pool.value ≤ b.pool.value := by
    refine ⟨fun a b c hab hbc => ?_⟩
    rcases hab with hab | ⟨hab, hpab⟩
    · rcases hbc with hbc | ⟨hbc, -⟩
      · exact .inl (UInt64.lt_trans hab hbc)
      · exact .inl (hbc ▸ hab)
    · rcases hbc with hbc | ⟨hbc, hpbc⟩
      · exact .inl (hab ▸ hbc)
      · exact .inr ⟨hab.trans hbc, UInt64.le_trans hpab hpbc⟩
  refine insertionSort_perm h fun a ha b hb hab hba => ?_
  refine List.inj_on_of_nodup_map hn ha hb ?_
  rcases hab with hab | ⟨heq, -⟩
  · rcases hba with hba | ⟨heq, -⟩
    · exact absurd (UInt64.lt_trans hab hba) (UInt64.lt_irrefl _)
    · exact congrArg _ heq.symm
  · exact congrArg _ heq

section

variable {cap cap' : CapacitySnapshot} {res res' : ReservationSnapshot}
  {adm adm' : AdmissionSnapshot}

theorem capacitySnapshotDigest_perm (h : cap.Rearranged cap') (hv : cap.Valid) :
    capacitySnapshotDigest cap' = capacitySnapshotDigest cap := by
  have hsorted := sortedResources_perm h.resources hv.nodup
  unfold sortedResources at hsorted
  rw [h.rest, capacitySnapshotDigest, capacitySnapshotDigest, hsorted]

theorem reservationSnapshotDigest_perm (h : res.Rearranged res') (hv : res.Valid) :
    reservationSnapshotDigest res' = reservationSnapshotDigest res := by
  rw [h.rest, reservationSnapshotDigest, reservationSnapshotDigest,
    sortByKey_perm h.guarantees hv.nodup]

theorem admissionSnapshotDigest_perm (h : adm.Rearranged adm') (hv : adm.Valid) :
    admissionSnapshotDigest adm' = admissionSnapshotDigest adm := by
  rw [h.rest, admissionSnapshotDigest, admissionSnapshotDigest, sortByKey_perm h.records hv.nodup]

end

/-! ## Sums and lookups -/

theorem sumSat_perm {l l' : List Nat} (h : l.Perm l') :
    Arith.u64.sumSat l = Arith.u64.sumSat l' :=
  h.foldl_eq' (fun a _ b _ n => addSat_right_comm n a b) 0

section

variable {index : PolicyIndex} {domain : DomainConfig} {cap cap' : CapacitySnapshot}
  {gs gs' : List Guarantee} {rs rs' : List DemandRecord}

theorem capacityByResource_perm (h : cap.Rearranged cap') (hv : cap.Valid) (id : ResourceId) :
    capacityByResource cap' id = capacityByResource cap id := by
  refine (find?_perm h.resources fun a ha b hb hida hidb => ?_).symm
  refine List.inj_on_of_nodup_map hv.nodup ha hb ?_
  rw [of_decide_eq_true hida, of_decide_eq_true hidb]

theorem memberEntries_perm (h : cap.Rearranged cap') (hv : cap.Valid) :
    memberEntries domain cap' = memberEntries domain cap := by
  have hsame : capacityByResource cap' = capacityByResource cap :=
    funext (capacityByResource_perm h hv)
  rw [memberEntries, hsame, memberEntries]

theorem guaranteesOn_perm (h : gs.Perm gs') : guaranteesOn domain gs' = guaranteesOn domain gs :=
  funext fun _ => sumWhere_perm h.symm

theorem get_backing_perm (h : gs.Perm gs') (key : ResourceId × ServiceClassId) :
    get (backing domain gs') key = get (backing domain gs) key := by
  rw [get_backing, get_backing, sumWhere_perm h]

theorem get_admitted_perm (h : rs.Perm rs') (key : ResourceId × ServiceClassId) :
    get (admitted domain rs') key = get (admitted domain rs) key := by
  rw [get_admitted, get_admitted, sumWhere_perm h]

theorem contingentOn_perm (h : rs.Perm rs') :
    contingentOn domain index rs' = contingentOn domain index rs :=
  funext fun _ => sumWhere_perm h.symm

theorem pendingOn_perm (h : rs.Perm rs') :
    pendingOn domain index rs' = pendingOn domain index rs :=
  funext fun _ => sumWhere_perm h.symm

theorem contingentOf_perm (h : rs.Perm rs') :
    contingentOf domain index rs' = contingentOf domain index rs :=
  funext fun _ => sumWhere_perm h.symm

theorem totalAccum_perm (hg : gs.Perm gs') (hr : rs.Perm rs') :
    totalAccum index domain gs' rs' = totalAccum index domain gs rs := by
  funext rc
  rw [totalAccum, totalAccum, demandAccum, demandAccum, guaranteeAccum, guaranteeAccum,
    guaranteesOn_perm hg, contingentOn_perm hr, pendingOn_perm hr]

theorem countDemand_perm {acc : DomainAccounting} (h : rs.Perm rs') :
    countDemand .u64 index domain acc rs' = countDemand .u64 index domain acc rs := by
  have hout : outOfScopeDemand .u64 domain rs' = outOfScopeDemand .u64 domain rs :=
    sumSat_perm ((h.symm.filter _).map _)
  have hadm : admittedIn domain rs' = admittedIn domain rs := sumWhere_perm h.symm
  have hcon : contingentIn domain index rs' = contingentIn domain index rs := sumWhere_perm h.symm
  have hpen : pendingIn domain index rs' = pendingIn domain index rs := sumWhere_perm h.symm
  have hbur : burstIn domain index rs' = burstIn domain index rs := sumWhere_perm h.symm
  rw [countDemand, countDemand, hout, hadm, hcon, hpen, hbur]

end

section

variable {policy : OversubscriptionPolicy} {index : PolicyIndex} {domain : DomainConfig}
  {expectation : AuthorityExpectation} {sn sn' : Snapshots} {tick : UInt64}

theorem gatheredAccounting_perm (h : sn.Rearranged sn') (hv : sn.Valid) :
    gatheredAccounting .u64 index domain sn' = gatheredAccounting .u64 index domain sn := by
  have hin : guaranteesIn domain sn'.res.guarantees = guaranteesIn domain sn.res.guarantees :=
    sumWhere_perm h.res.guarantees.symm
  have hout : outOfScopeGuarantees .u64 domain sn'.res.guarantees =
      outOfScopeGuarantees .u64 domain sn.res.guarantees :=
    sumSat_perm ((h.res.guarantees.symm.filter _).map _)
  rw [gatheredAccounting, gatheredAccounting, memberEntries_perm h.cap hv.cap, hin, hout,
    countDemand_perm h.adm.records]

/-- **The standing** does not see the order. -/
theorem standing_perm (h : sn.Rearranged sn') (hv : sn.Valid) :
    standing policy index domain sn' = standing policy index domain sn := by
  have hentries : memberEntries domain sn'.cap = memberEntries domain sn.cap :=
    memberEntries_perm h.cap hv.cap
  have hin : guaranteesIn domain sn'.res.guarantees = guaranteesIn domain sn.res.guarantees :=
    sumWhere_perm h.res.guarantees.symm
  have hcon : contingentIn domain index sn'.adm.records = contingentIn domain index sn.adm.records :=
    sumWhere_perm h.adm.records.symm
  have hbur : burstIn domain index sn'.adm.records = burstIn domain index sn.adm.records :=
    sumWhere_perm h.adm.records.symm
  have hunbacked : isUnbacked domain sn' = isUnbacked domain sn := by
    funext r
    rw [isUnbacked, isUnbacked, get_backing_perm h.res.guarantees,
      get_admitted_perm h.adm.records]
  have hratio : ratioOf domain sn' = ratioOf domain sn := by rw [ratioOf, hentries, ratioOf]
  simp only [standing, hentries, hin, hcon, hbur, hunbacked, hratio,
    guaranteesOn_perm h.res.guarantees, contingentOf_perm h.adm.records,
    any_perm h.adm.records.symm]

theorem closes_perm (h : sn.Rearranged sn') (hv : sn.Valid) :
    Closes .u64 policy index domain sn' ↔ Closes .u64 policy index domain sn := by
  have hentries : memberEntries domain sn'.cap = memberEntries domain sn.cap :=
    memberEntries_perm h.cap hv.cap
  have hratio : ratioOf domain sn' = ratioOf domain sn := by rw [ratioOf, hentries, ratioOf]
  have hstanding : standing policy index domain sn' = standing policy index domain sn :=
    standing_perm h hv
  constructor
  · intro hc
    exact ⟨hentries ▸ hc.capacity, hentries ▸ hratio ▸ hc.ceilings, hstanding ▸ hc.floor,
      hstanding ▸ hc.committed⟩
  · intro hc
    exact ⟨hentries ▸ hc.capacity, hentries ▸ hratio ▸ hc.ceilings, hstanding ▸ hc.floor,
      hstanding ▸ hc.committed⟩

/-- The digest of the input does not see the order. -/
theorem inputDigest_perm (h : sn.Rearranged sn') (hv : sn.Valid) :
    inputDigest policy domain expectation sn' tick = inputDigest policy domain expectation sn tick := by
  have hcap : sn'.cap.provenance = sn.cap.provenance := by rw [h.cap.rest]
  have hres : sn'.res.provenance = sn.res.provenance := by rw [h.res.rest]
  have hadm : sn'.adm.provenance = sn.adm.provenance := by rw [h.adm.rest]
  rw [inputDigest, inputDigest, hcap, hres, hadm, capacitySnapshotDigest_perm h.cap hv.cap,
    reservationSnapshotDigest_perm h.res hv.res, admissionSnapshotDigest_perm h.adm hv.adm]

theorem boundAuthority_perm (h : sn.Rearranged sn') (hv : sn.Valid) :
    boundAuthority policy domain expectation sn' tick =
      boundAuthority policy domain expectation sn tick := by
  have hcap : sn'.cap.generation = sn.cap.generation := by rw [h.cap.rest]
  have hres : sn'.res.generation = sn.res.generation := by rw [h.res.rest]
  have hadm : sn'.adm.generation = sn.adm.generation := by rw [h.adm.rest]
  rw [boundAuthority, boundAuthority, inputDigest_perm h hv, hcap, hres, hadm]

theorem gatheredAuthority_perm (h : sn.Rearranged sn') (hv : sn.Valid) :
    gatheredAuthority policy domain expectation sn' tick =
      gatheredAuthority policy domain expectation sn tick := by
  rw [gatheredAuthority, gatheredAuthority, boundAuthority_perm h hv,
    memberEntries_perm h.cap hv.cap]

end

/-! ## Refusals -/

/-- A partial sum of bounded amounts. -/
theorem sumWhere_le_length {α : Type} {p : α → Bool} {f : α → Nat} {l : List α} {bound : Nat}
    (h : ∀ a ∈ l, f a ≤ bound) : sumWhere p f l ≤ l.length * bound := by
  induction l with
  | nil => exact Nat.zero_le _
  | cons a l ih =>
      obtain ⟨ha, hl⟩ := List.forall_mem_cons.mp h
      have hrest := ih hl
      rw [sumWhere_cons, List.length_cons, Nat.add_mul, Nat.one_mul]
      split <;> omega

/-- Adding to the sum over fewer than 65535 records cannot overflow. -/
theorem add_fits_of_short {α : Type} {p : α → Bool} {f : α → Nat} {pre : List α} {a : α}
    (h : ∀ b ∈ pre, f b ≤ kHardMaxCapacityUnits) (ha : f a ≤ kHardMaxCapacityUnits)
    (hlen : pre.length + 1 < 65536) : Arith.u64.fits (sumWhere p f pre + f a) = true := by
  have hunits : kHardMaxCapacityUnits = 2 ^ 48 := rfl
  have hsum : sumWhere p f pre ≤ pre.length * kHardMaxCapacityUnits := sumWhere_le_length h
  refine Arith.fits_of_lt ?_
  rw [hunits] at hsum ha
  omega

/-- No element repeats the key of one before it. -/
theorem unseen_before {α κ : Type} {key : α → κ} {l pre post : List α} {a : α}
    (hsplit : l = pre ++ a :: post) (hn : (l.map key).Nodup) : key a ∉ pre.map key := by
  rw [hsplit, List.map_append, List.map_cons, List.nodup_append] at hn
  exact fun hin => hn.2.2 _ hin _ List.mem_cons_self rfl

/-- Where a sum does overflow, no record is left. -/
theorem nothing_after {α : Type} {l pre post : List α} {a : α} (hsplit : l = pre ++ a :: post)
    (hsize : l.length ≤ 65536) (hlen : ¬ pre.length + 1 < 65536) : post = [] := by
  rw [hsplit, List.length_append, List.length_cons] at hsize
  exact List.eq_nil_of_length_eq_zero (by omega)

/-- What the guarantee loop checks of a guarantee before it counts it. -/
def GuaranteeConsistent (index : PolicyIndex) (domain : DomainConfig) (s : GuaranteeState)
    (g : Guarantee) : Prop :=
  g.reservation ∉ s.seen ∧
    ((findResource s.resources g.resource).isSome = true → GuaranteeOk index domain g)

section

variable {A : Arith} {policy : OversubscriptionPolicy} {index : PolicyIndex} {domain : DomainConfig}
  {acc : DomainAccounting} {entries : List ResourceCapacity} {gs : List Guarantee} {x : Refusal}

/-- A step refuses an inconsistent guarantee as conflicting, and a consistent
one only because a sum overflows. -/
theorem guaranteeStep_error {s : GuaranteeState} {g : Guarantee}
    (h : guaranteeStep A index domain s g = .error x) :
    (GuaranteeConsistent index domain s g → x.outcome = .unknown) ∧
      (¬ GuaranteeConsistent index domain s g → x.outcome = .conflictingInput) := by
  unfold guaranteeStep at h
  rw [bind_eq_error] at h
  rcases h with h | ⟨_, hseen, h⟩
  · obtain ⟨hseen, rfl⟩ := require_eq_error.mp h
    exact ⟨fun hc => absurd hc.1 hseen, fun _ => rfl⟩
  rw [require_eq_ok] at hseen
  dsimp only at h
  cases hfind : findResource s.resources g.resource with
  | none => simp [hfind] at h
  | some ra =>
      have hcons : GuaranteeConsistent index domain s g ↔ GuaranteeOk index domain g :=
        ⟨fun hc => hc.2 (by rw [hfind]; rfl), fun hok => ⟨hseen, fun _ => hok⟩⟩
      rw [hcons]
      simp only [hfind, bind_eq_error, require_eq_error, require_eq_ok, orRefuse_eq_error,
        reduceCtorEq, and_false, exists_false, or_false] at h
      rcases h with ⟨hprot, rfl⟩ | ⟨_, hprot, ⟨hpool, rfl⟩ | ⟨_, hpool, ⟨hcls, rfl⟩ | ⟨_, hcls, h⟩⟩⟩
      · exact ⟨fun hok => absurd hok.1 hprot, fun _ => rfl⟩
      · exact ⟨fun hok => absurd hok.2.1 hpool, fun _ => rfl⟩
      · exact ⟨fun hok => absurd hok.2.2 hcls, fun _ => rfl⟩
      · refine ⟨fun _ => ?_, fun hn => absurd ⟨hprot, hpool, hcls⟩ hn⟩
        rcases h with ⟨-, rfl⟩ | ⟨_, -, -, rfl⟩
        · rfl
        · rfl

theorem consistent_guaranteeState (ht : MemberTable domain entries) {pre : List Guarantee}
    {g : Guarantee} :
    GuaranteeConsistent index domain (guaranteeState A domain acc entries pre) g ↔
      g.reservation ∉ pre.map (·.reservation) ∧
        (domain.covers g.resource = true → GuaranteeOk index domain g) := by
  have hfind : findResource (guaranteeState A domain acc entries pre).resources g.resource =
      (entries.find? (·.resource = g.resource)).map (guaranteeAccum domain pre) :=
    findResource_map fun _ => rfl
  have hsome : (findResource (guaranteeState A domain acc entries pre).resources
      g.resource).isSome = true ↔ domain.covers g.resource = true := by
    rw [hfind, Option.isSome_map, ← Bool.not_eq_false, ← Bool.not_eq_false, ← ht.find_eq_none,
      Option.isSome_eq_false_iff, Option.isNone_iff_eq_none]
  rw [GuaranteeConsistent, hsome, guaranteeState, List.mem_reverse]

/-- Which way a loop over validated guarantees is refused. -/
theorem gatherGuarantees_refused (ht : MemberTable domain entries)
    (hacc : acc.outOfScopeGuarantees = 0) {res : ReservationSnapshot} (hv : res.Valid)
    (h : gatherGuarantees .u64 index domain res { acc, resources := entries.map memberAccum } =
      .error x) :
    (GuaranteesOk index domain res.guarantees → x.outcome = .unknown) ∧
      (¬ GuaranteesOk index domain res.guarantees → x.outcome = .conflictingInput) := by
  have hn : (res.guarantees.map (·.reservation)).Nodup :=
    List.Nodup.of_map _ (by rw [List.map_map]; exact hv.nodup)
  rw [gatherGuarantees, ← guaranteeState_nil hacc] at h
  obtain ⟨pre, g, post, hsplit, hpre, hg⟩ := foldlM_eq_error (fun _ _ => guaranteeStep_eq_ok ht) h
  obtain ⟨hunknown, hconflicting⟩ := guaranteeStep_error hg
  rw [consistent_guaranteeState ht] at hunknown hconflicting
  have hmem : g ∈ res.guarantees := by simp [hsplit]
  have hfresh : g.reservation ∉ pre.map (·.reservation) := unseen_before hsplit hn
  constructor
  · intro hok
    exact hunknown ⟨hfresh, hok.entry g hmem⟩
  · intro hbad
    refine hconflicting fun hc => hbad ⟨hn, ?_⟩
    -- the sum overflows at the last guarantee, so all the others have passed
    have hlen : ¬ pre.length + 1 < 65536 := by
      intro hlen
      have hbound : ∀ b ∈ res.guarantees, guaranteed b ≤ kHardMaxCapacityUnits := hv.capacity_le
      have hpbound : ∀ b ∈ pre, guaranteed b ≤ kHardMaxCapacityUnits := fun b hb =>
        hbound b (by simp [hsplit, hb])
      have hfits : GuaranteeFits .u64 domain pre g := by
        refine ⟨add_fits_of_short hpbound (hbound g hmem) hlen, ?_⟩
        rw [get_backing]
        exact add_fits_of_short hpbound (hbound g hmem) hlen
      have hstep : guaranteeStep .u64 index domain (guaranteeState .u64 domain acc entries pre) g =
          .ok (guaranteeState .u64 domain acc entries (pre ++ [g])) :=
        (guaranteeStep_eq_ok ht _).mpr ⟨⟨hc.1, hc.2, fun _ => hfits⟩, rfl⟩
      rw [hstep] at hg
      cases hg
    rw [hsplit, nothing_after hsplit hv.size_le hlen]
    intro b hb
    rcases List.mem_append.mp hb with hb | hb
    · rw [eachPrefix_and, eachPrefix_and, eachPrefix_const] at hpre
      exact hpre.2.1 b hb
    · rw [List.mem_singleton.mp hb]
      exact hc.2

/-- Counting one of fewer than 65536 validated records cannot overflow. -/
theorem demandFits_of_short {pre : List DemandRecord} {r : DemandRecord}
    (hc : ∀ b ∈ pre, committed b ≤ kHardMaxCapacityUnits)
    (hp : ∀ b ∈ pre, pending b ≤ kHardMaxCapacityUnits) (hrc : committed r ≤ kHardMaxCapacityUnits)
    (hrp : pending r ≤ kHardMaxCapacityUnits) (hlen : pre.length + 1 < 65536) :
    DemandFits .u64 index domain pre r where
  admitted _ := add_fits_of_short hc hrc hlen
  admittedByClass _ := by
    rw [get_admitted]
    exact add_fits_of_short hc hrc hlen
  contingentOn _ := add_fits_of_short hc hrc hlen
  contingent _ := add_fits_of_short hc hrc hlen
  pendingOn _ := add_fits_of_short hp hrp hlen
  pending _ := add_fits_of_short hp hrp hlen
  burst _ := add_fits_of_short hc hrc hlen
  contingentByClass _ := by
    rw [get_contingentByClass]
    exact add_fits_of_short hc hrc hlen

/-- Which way a loop over validated records is refused. -/
theorem gatherDemand_refused (ht : MemberTable domain entries)
    (hacc : countDemand .u64 index domain acc [] = acc) {adm : AdmissionSnapshot} (hv : adm.Valid)
    (h : gatherDemand .u64 index domain adm acc (entries.map (guaranteeAccum domain gs)) =
      .error x) :
    (DemandsOk index domain adm.records → x.outcome = .unknown) ∧
      (¬ DemandsOk index domain adm.records → x.outcome = .conflictingInput) := by
  have hn : (adm.records.map (·.admission)).Nodup :=
    List.Nodup.of_map _ (by rw [List.map_map]; exact hv.nodup)
  rw [gatherDemand, ← demandState_nil hacc] at h
  obtain ⟨pre, r, post, hsplit, hpre, hr⟩ := foldlM_eq_error (fun _ _ => demandStep_eq_ok ht) h
  obtain ⟨hunknown, hconflicting⟩ := demandStep_error hr
  rw [consistent_demandState ht] at hunknown hconflicting
  have hmem : r ∈ adm.records := by simp [hsplit]
  have hfresh : r.admission ∉ pre.map (·.admission) := unseen_before hsplit hn
  constructor
  · intro hok
    exact hunknown ⟨hfresh, hok.entry r hmem⟩
  · intro hbad
    refine hconflicting fun hc => hbad ⟨hn, ?_⟩
    have hlen : ¬ pre.length + 1 < 65536 := by
      intro hlen
      have hin : ∀ b ∈ pre, b ∈ adm.records := fun b hb => by simp [hsplit, hb]
      have hfits : DemandFits .u64 index domain pre r :=
        demandFits_of_short (fun b hb => hv.committed_le b (hin b hb))
          (fun b hb => hv.pending_le b (hin b hb)) (hv.committed_le r hmem) (hv.pending_le r hmem)
          hlen
      rw [(demandStep_eq_ok ht _).mpr ⟨⟨hc.1, hc.2, hfits⟩, rfl⟩] at hr
      cases hr
    rw [hsplit, nothing_after hsplit hv.size_le hlen]
    intro b hb
    rcases List.mem_append.mp hb with hb | hb
    · rw [eachPrefix_and, eachPrefix_and, eachPrefix_const] at hpre
      exact hpre.2.1 b hb
    · rw [List.mem_singleton.mp hb]
      exact hc.2

/-- Consistent records whose sums overflow: the guarantees, or the demand on
top of guarantees that fit. -/
def SumsOverflow (index : PolicyIndex) (domain : DomainConfig) (sn : Snapshots) : Prop :=
  GuaranteesOk index domain sn.res.guarantees ∧
    (¬ Arith.u64.fits (guaranteesIn domain sn.res.guarantees) = true ∨
      DemandsOk index domain sn.adm.records ∧
        ¬ DemandTotalsFit .u64 index domain sn.adm.records)

/-- **Refusals**: validated evidence is refused as unknown when its sums
overflow, and as conflicting otherwise. -/
theorem gatherEvidence_refused {order : MapOrder} {sn : Snapshots} {authority : AuthorityVector}
    (ht : MemberTable domain (memberEntries domain sn.cap)) (hv : sn.Valid)
    (h : gatherEvidence .u64 order policy index domain sn authority
        { acc := countHealth (initialAccounting .u64 domain) (memberEntries domain sn.cap)
          resources := (memberEntries domain sn.cap).map memberAccum } = .error x) :
    (SumsOverflow index domain sn → x.outcome = .unknown) ∧
      (¬ SumsOverflow index domain sn → x.outcome = .conflictingInput) := by
  unfold gatherEvidence at h
  rw [bind_eq_error] at h
  rcases h with h | ⟨s, hs, h⟩
  · -- the guarantee loop
    obtain ⟨hunknown, hconflicting⟩ := gatherGuarantees_refused ht rfl hv.res h
    refine ⟨fun ho => hunknown ho.1, fun hno => hconflicting fun hok => hno ⟨hok, .inl ?_⟩⟩
    intro hfits
    have hboth := h.symm.trans (Iff.mpr (gatherGuarantees_eq_ok ht rfl)
      ⟨hok, ⟨fun _ => Arith.u64.fits_mono guaranteesOn_le hfits,
        fun _ => Arith.u64.fits_mono get_backing_le hfits⟩, rfl⟩)
    cases hboth
  obtain ⟨hok, ⟨hon, -⟩, rfl⟩ := (gatherGuarantees_eq_ok ht rfl).mp hs
  rw [bind_eq_error] at h
  rcases h with h | ⟨total, htotal, h⟩
  · -- the total of the guarantees
    have hnofit : ¬ Arith.u64.fits (guaranteesIn domain sn.res.guarantees) = true := by
      intro hfits
      rw [(guaranteesTotal_eq_ok ht).mpr ⟨hfits, rfl⟩] at h
      cases h
    have hunknown : x.outcome = .unknown := by
      refine Ensures.error (B := fun y : Refusal => y.outcome = .unknown) (Q := fun _ => True) ?_ h
      refine foldlM_ensures (fun n ra _ => ?_) _ trivial
      cases Arith.u64.addChecked n ra.guarantees with
      | none => exact rfl
      | some _ => trivial
    exact ⟨fun _ => hunknown, fun hno => absurd ⟨hok, .inl hnofit⟩ hno⟩
  obtain ⟨hfits, rfl⟩ := (guaranteesTotal_eq_ok ht).mp htotal
  rw [bind_eq_error] at h
  rcases h with h | ⟨d, hd, h⟩
  · -- the demand loop
    obtain ⟨hunknown, hconflicting⟩ := gatherDemand_refused ht rfl hv.adm h
    constructor
    · rintro ⟨-, hn | ⟨hdok, -⟩⟩
      · exact absurd hfits hn
      · exact hunknown hdok
    · refine fun hno => hconflicting fun hdok => hno ⟨hok, .inr ⟨hdok, fun hdfits => ?_⟩⟩
      have hboth := h.symm.trans (Iff.mpr (gatherDemand_eq_ok ht rfl) ⟨hdok, hdfits, rfl⟩)
      cases hboth
  obtain ⟨hdok, hdfits, rfl⟩ := (gatherDemand_eq_ok ht rfl).mp hd
  rw [bind_eq_error] at h
  rcases h with h | ⟨t, -, h⟩
  · -- the capacity bound
    obtain ⟨-, rfl⟩ := (gatherTotals_eq_error rfl hon).mp h
    refine ⟨?_, fun _ => rfl⟩
    rintro ⟨-, hn | ⟨-, hn⟩⟩
    · exact absurd hfits hn
    · exact absurd hdfits hn
  · cases h

end

/-! ## The evaluation -/

section

variable {order order' : MapOrder} {policy : OversubscriptionPolicy} {index : PolicyIndex}
  {domain : DomainConfig} {expectation : AuthorityExpectation} {sn sn' : Snapshots} {tick : UInt64}
  {authority : AuthorityVector} {gs gs' : List Guarantee} {rs rs' : List DemandRecord}

theorem guaranteesOk_perm (h : gs.Perm gs') :
    GuaranteesOk index domain gs' ↔ GuaranteesOk index domain gs :=
  ⟨fun hok => ⟨(h.map _).nodup_iff.mpr hok.nodup, fun g hg => hok.entry g (h.mem_iff.mp hg)⟩,
    fun hok => ⟨(h.map _).nodup_iff.mp hok.nodup, fun g hg => hok.entry g (h.mem_iff.mpr hg)⟩⟩

theorem demandsOk_perm (h : rs.Perm rs') :
    DemandsOk index domain rs' ↔ DemandsOk index domain rs :=
  ⟨fun hok => ⟨(h.map _).nodup_iff.mpr hok.nodup, fun r hr => hok.entry r (h.mem_iff.mp hr)⟩,
    fun hok => ⟨(h.map _).nodup_iff.mp hok.nodup, fun r hr => hok.entry r (h.mem_iff.mpr hr)⟩⟩

theorem demandTotalsFit_perm (h : rs.Perm rs') :
    DemandTotalsFit .u64 index domain rs' ↔ DemandTotalsFit .u64 index domain rs := by
  have hadm : admittedIn domain rs' = admittedIn domain rs := sumWhere_perm h.symm
  have hcon : contingentIn domain index rs' = contingentIn domain index rs := sumWhere_perm h.symm
  have hpen : pendingIn domain index rs' = pendingIn domain index rs := sumWhere_perm h.symm
  exact ⟨fun hf => ⟨hadm ▸ hf.admitted, hcon ▸ hf.contingent, hpen ▸ hf.pending⟩,
    fun hf => ⟨hadm ▸ hf.admitted, hcon ▸ hf.contingent, hpen ▸ hf.pending⟩⟩

theorem guaranteesIn_perm (h : gs.Perm gs') : guaranteesIn domain gs' = guaranteesIn domain gs :=
  sumWhere_perm h.symm

theorem sumsOverflow_perm (h : sn.Rearranged sn') :
    SumsOverflow index domain sn' ↔ SumsOverflow index domain sn := by
  rw [SumsOverflow, guaranteesOk_perm h.res.guarantees, guaranteesIn_perm h.res.guarantees,
    demandsOk_perm h.adm.records, demandTotalsFit_perm h.adm.records, SumsOverflow]

/-- The member loop only looks resources up. -/
theorem gatherMembers_perm {cap cap' : CapacitySnapshot} {acc : DomainAccounting}
    (h : cap.Rearranged cap') (hv : cap.Valid) :
    gatherMembers .u64 domain cap' acc = gatherMembers .u64 domain cap acc := by
  have hn' : (cap'.resources.map (·.resource.value)).Nodup :=
    (h.resources.map _).nodup_iff.mp hv.nodup
  have hstep : memberStep .u64 domain cap' = memberStep .u64 domain cap := by
    funext s m
    rw [memberStep, capacityByResource_perm h hv, memberStep]
  rw [gatherMembers, gatherMembers, require_of hv.nodup, require_of hn', hstep]

/-- Two results grant the same authority, with the same account of it. -/
structure SameAuthority (r r' : EvaluationResult) : Prop where
  outcome : r.outcome = r'.outcome
  authorityValid : r.authorityValid = r'.authorityValid
  increment : r.authorizedIncrementUnits = r'.authorizedIncrementUnits
  authority : r.authority = r'.authority
  account : r.outcome.isAuthoritative = true →
    r.accounting = r'.accounting ∧ r.resources = r'.resources

/-- A refusal grants nothing. -/
theorem stop_sameAuthority {x y : Refusal} (h : x.outcome = y.outcome) :
    SameAuthority (stop policy domain authority x) (stop policy domain authority y) := by
  have hzero : ∀ z : Refusal, (stop policy domain authority z).authorizedIncrementUnits = 0 := by
    intro z
    have hne : z.outcome ≠ .withinPolicy := by
      intro hz
      have := z.severe
      rw [hz] at this
      exact absurd this (by decide)
    rw [stop, reject, finalize_increment, if_neg (mt allowsNewAuthority_iff.mp hne)]
  refine ⟨h, congrArg Outcome.isAuthoritative h, (hzero x).trans (hzero y).symm, rfl, fun ha => ?_⟩
  have hle : x.outcome.severity ≤ 3 := Outcome.isAuthoritative_iff.mp ha
  exact absurd x.severe (by omega)

/-- What a validator checks of a snapshot does not see the order. -/
theorem Snapshots.Valid.perm (hv : sn.Valid) (h : sn.Rearranged sn') : sn'.Valid := by
  have hc : ∀ rc ∈ sn'.cap.resources, rc ∈ sn.cap.resources := fun _ => h.cap.resources.mem_iff.mpr
  have hg : ∀ g ∈ sn'.res.guarantees, g ∈ sn.res.guarantees := fun _ => h.res.guarantees.mem_iff.mpr
  have hr : ∀ r ∈ sn'.adm.records, r ∈ sn.adm.records := fun _ => h.adm.records.mem_iff.mpr
  refine ⟨?_, ?_, ?_⟩
  · have hdomain : sn'.cap.domain = sn.cap.domain := by rw [h.cap.rest]
    have hepoch : sn'.cap.epoch = sn.cap.epoch := by rw [h.cap.rest]
    exact {
      domain_valid := hdomain ▸ hv.cap.domain_valid
      epoch_valid := hepoch ▸ hv.cap.epoch_valid
      size_le := h.cap.resources.length_eq ▸ hv.cap.size_le
      generation_valid := fun rc hrc => hv.cap.generation_valid rc (hc rc hrc)
      identity_valid := fun rc hrc => hv.cap.identity_valid rc (hc rc hrc)
      usable_le := fun rc hrc => hv.cap.usable_le rc (hc rc hrc)
      physical_le := fun rc hrc => hv.cap.physical_le rc (hc rc hrc)
      degraded_le := fun rc hrc => hv.cap.degraded_le rc (hc rc hrc)
      nodup := (h.cap.resources.map _).nodup_iff.mp hv.cap.nodup }
  · exact {
      size_le := h.res.guarantees.length_eq ▸ hv.res.size_le
      capacity_le := fun g hg' => hv.res.capacity_le g (hg g hg')
      isProtected := fun g hg' => hv.res.isProtected g (hg g hg')
      nodup := (h.res.guarantees.map _).nodup_iff.mp hv.res.nodup }
  · exact {
      size_le := h.adm.records.length_eq ▸ hv.adm.size_le
      has_kind := fun r hr' => hv.adm.has_kind r (hr r hr')
      committed_le := fun r hr' => hv.adm.committed_le r (hr r hr')
      pending_le := fun r hr' => hv.adm.pending_le r (hr r hr')
      nodup := (h.adm.records.map _).nodup_iff.mp hv.adm.nodup }

/-- The two evaluations have gathered the totals of their evidence. -/
def BothGathered (order order' : MapOrder) (index : PolicyIndex) (domain : DomainConfig)
    (sn sn' : Snapshots) (authority : AuthorityVector) (g g' : Gathered) : Prop :=
  g = gathered .u64 order index domain sn authority ∧
    g' = gathered .u64 order' index domain sn' authority

/-- The member state of an evaluation that has looked all members up. -/
def memberTotals (domain : DomainConfig) (sn : Snapshots) : MemberState where
  acc := countHealth (initialAccounting .u64 domain) (memberEntries domain sn.cap)
  resources := (memberEntries domain sn.cap).map memberAccum

theorem memberTotals_perm (h : sn.Rearranged sn') (hv : sn.Valid) :
    memberTotals domain sn' = memberTotals domain sn := by
  rw [memberTotals, memberEntries_perm h.cap hv.cap, memberTotals]

/-- The stages after the members. -/
theorem gatherEvidence_perm (ht : MemberTable domain (memberEntries domain sn.cap))
    (h : sn.Rearranged sn') (hv : sn.Valid) :
    Dominated (BothGathered order order' index domain sn sn' authority) SameOutcome Never
      (gatherEvidence .u64 order policy index domain sn authority (memberTotals domain sn))
      (gatherEvidence .u64 order' policy index domain sn' authority (memberTotals domain sn)) := by
  have hentries : memberEntries domain sn'.cap = memberEntries domain sn.cap :=
    memberEntries_perm h.cap hv.cap
  have ht' : MemberTable domain (memberEntries domain sn'.cap) := hentries ▸ ht
  have hconditions :
      (GuaranteesOk index domain sn.res.guarantees ∧ DemandsOk index domain sn.adm.records ∧
        Arith.u64.fits (guaranteesIn domain sn.res.guarantees) = true ∧
        DemandTotalsFit .u64 index domain sn.adm.records ∧
        WithinCapacityBound .u64 policy.limits (memberEntries domain sn.cap)) ↔
      (GuaranteesOk index domain sn'.res.guarantees ∧ DemandsOk index domain sn'.adm.records ∧
        Arith.u64.fits (guaranteesIn domain sn'.res.guarantees) = true ∧
        DemandTotalsFit .u64 index domain sn'.adm.records ∧
        WithinCapacityBound .u64 policy.limits (memberEntries domain sn'.cap)) := by
    rw [guaranteesOk_perm h.res.guarantees, guaranteesIn_perm h.res.guarantees,
      demandsOk_perm h.adm.records, demandTotalsFit_perm h.adm.records, hentries]
  rw [← memberTotals_perm h hv]
  cases hg' : gatherEvidence .u64 order' policy index domain sn' authority
      (memberTotals domain sn') with
  | ok g' =>
      obtain ⟨hgs, hrs, hfits, hdfits, hcap, rfl⟩ := (gatherEvidence_eq_ok ht').mp hg'
      obtain ⟨hgs, hrs, hfits, hdfits, hcap⟩ := hconditions.mpr ⟨hgs, hrs, hfits, hdfits, hcap⟩
      rw [memberTotals_perm h hv, memberTotals,
        (gatherEvidence_eq_ok ht).mpr ⟨hgs, hrs, hfits, hdfits, hcap, rfl⟩]
      exact .values ⟨rfl, rfl⟩
  | error x' =>
      rw [memberTotals_perm h hv]
      cases hg : gatherEvidence .u64 order policy index domain sn authority
          (memberTotals domain sn) with
      | ok g =>
          obtain ⟨hgs, hrs, hfits, hdfits, hcap, rfl⟩ := (gatherEvidence_eq_ok ht).mp hg
          obtain ⟨hgs, hrs, hfits, hdfits, hcap⟩ := hconditions.mp ⟨hgs, hrs, hfits, hdfits, hcap⟩
          have hboth := hg'.symm.trans
            (Iff.mpr (gatherEvidence_eq_ok ht') ⟨hgs, hrs, hfits, hdfits, hcap, rfl⟩)
          cases hboth
      | error x =>
          obtain ⟨hunknown, hconflicting⟩ := gatherEvidence_refused ht hv hg
          obtain ⟨hunknown', hconflicting'⟩ := gatherEvidence_refused ht' (hv.perm h) hg'
          rw [sumsOverflow_perm h] at hunknown' hconflicting'
          by_cases ho : SumsOverflow index domain sn
          · exact .errors ((hunknown ho).trans (hunknown' ho).symm)
          · exact .errors ((hconflicting ho).trans (hconflicting' ho).symm)

/-- The snapshots with other records. -/
def Snapshots.withRecords (sn : Snapshots) (resources : List ResourceCapacity)
    (guarantees : List Guarantee) (records : List DemandRecord) : Snapshots :=
  ⟨{ sn.cap with resources }, { sn.res with guarantees }, { sn.adm with records }⟩

theorem Snapshots.Rearranged.eq_withRecords (h : sn.Rearranged sn') :
    sn' = sn.withRecords sn'.cap.resources sn'.res.guarantees sn'.adm.records := by
  rw [withRecords, ← h.cap.rest, ← h.res.rest, ← h.adm.rest]

/-- Binding does not look at the records. -/
theorem bindEvidence_withRecords {resources : List ResourceCapacity} {guarantees : List Guarantee}
    {records : List DemandRecord} {acc : DomainAccounting} :
    Dominated (fun a b => a = sn ∧ b = sn.withRecords resources guarantees records) SameRefusal Never
      (bindEvidence policy domain expectation sn.evidence acc)
      (bindEvidence policy domain expectation
        (sn.withRecords resources guarantees records).evidence acc) :=
  require_same ⟨rfl, rfl, rfl⟩ <| require_same ⟨rfl, rfl, rfl⟩ <|
    require_same ⟨rfl, rfl, rfl⟩ <| require_same ⟨rfl, rfl, rfl⟩ <|
    require_same ⟨rfl, rfl, rfl⟩ <| require_same ⟨rfl, rfl, rfl⟩ <|
    require_same ⟨rfl, rfl, rfl⟩ <| require_same ⟨rfl, rfl, rfl⟩ <|
    require_same ⟨rfl, rfl, rfl⟩ <| require_same ⟨rfl, rfl, rfl⟩ <| .values ⟨rfl, rfl⟩

/-- **Gathering** rearranged evidence comes to the same totals, or is refused
with the same outcome. -/
theorem gather_perm (hd : domain.members.Nodup) (h : sn.Rearranged sn') (hv : sn.Valid) :
    Dominated
      (BothGathered order order' index domain sn sn'
        (gatheredAuthority policy domain expectation sn tick)) SameAuthority (fun _ => False)
      (gather .u64 order policy index domain expectation sn.evidence tick)
      (gather .u64 order' policy index domain expectation sn'.evidence tick) := by
  have hstop : ∀ {authority : AuthorityVector} (x y : Refusal), SameOutcome x y →
      SameAuthority (stop policy domain authority x) (stop policy domain authority y) :=
    fun _ _ h => stop_sameAuthority h
  have hsame : ∀ {authority : AuthorityVector} (x y : Refusal), SameRefusal x y →
      SameAuthority (stop policy domain authority x) (stop policy domain authority y) :=
    fun _ _ h => stop_sameAuthority h.outcome
  have hbind : Dominated (fun a b => a = sn ∧ b = sn') SameRefusal Never
      (bindEvidence policy domain expectation sn.evidence (initialAccounting .u64 domain))
      (bindEvidence policy domain expectation sn'.evidence (initialAccounting .u64 domain)) := by
    rw [h.eq_withRecords]
    exact bindEvidence_withRecords
  unfold gather
  refine (hbind.mapError hsame fun _ h => h).bind fun a b hab => ?_
  obtain ⟨rfl, rfl⟩ := hab
  rw [boundAuthority_perm h hv]
  have hfresh : checkFreshness policy b tick (initialAccounting .u64 domain) =
      checkFreshness policy a tick (initialAccounting .u64 domain) := by
    rw [h.eq_withRecords]
    rfl
  have hbounds : checkBounds policy.limits b (initialAccounting .u64 domain) =
      checkBounds policy.limits a (initialAccounting .u64 domain) := by
    rw [checkBounds, ← h.cap.resources.length_eq, ← h.res.guarantees.length_eq,
      ← h.adm.records.length_eq, checkBounds]
  rw [hfresh, hbounds, gatherMembers_perm h.cap hv.cap]
  cases checkFreshness policy a tick (initialAccounting .u64 domain) with
  | error x => exact .errors (hstop x x rfl)
  | ok _ =>
  cases checkBounds policy.limits a (initialAccounting .u64 domain) with
  | error x => exact .errors (hstop x x rfl)
  | ok _ =>
  cases hmem : gatherMembers .u64 domain a.cap (initialAccounting .u64 domain) with
  | error x => exact .errors (hstop x x rfl)
  | ok members =>
      have ht := memberTable_of_gathered hd hmem
      obtain ⟨-, -, rfl⟩ := gatherMembers_eq_ok.mp hmem
      exact (gatherEvidence_perm ht h hv).mapError hstop fun _ h => h

/-- Settling only reads what the evidence adds up to. -/
theorem settle_perm {A : Arith} {g g' : Gathered} (hacc : g'.acc = g.acc)
    (hres : g'.resources = g.resources) (hclosed : g'.closed = g.closed) :
    settle A policy domain g' = settle A policy domain g := by
  rw [settle, hacc, hres, hclosed, settle]

theorem settle_gathered_perm {index : PolicyIndex} (h : sn.Rearranged sn') (hv : sn.Valid) :
    settle .u64 policy domain (gathered .u64 order' index domain sn' authority) =
      settle .u64 policy domain (gathered .u64 order index domain sn authority) := by
  refine settle_perm (gatheredAccounting_perm h hv) ?_ ?_
  · simp only [gathered, memberEntries_perm h.cap hv.cap,
      totalAccum_perm h.res.guarantees h.adm.records]
  · simp only [gathered, memberEntries_perm h.cap hv.cap]

/-- Finishing with the same outcome. -/
theorem finish_sameAuthority {g g' : Gathered} {s s' : Settled} {v v' : Verdict}
    (hauth : g.authority = g'.authority) (hs : s = s') (ho : v.outcome = v'.outcome) :
    SameAuthority (finish policy.limits domain g s v) (finish policy.limits domain g' s' v') := by
  subst hs
  refine ⟨ho, congrArg Outcome.isAuthoritative ho, ?_, hauth, fun _ => ⟨rfl, rfl⟩⟩
  simp only [finish, finalize_increment, ho]

/-- **Concluding** from the totals of rearranged evidence. -/
theorem conclude_perm (hp : policy.Installable) (hd : domain.Installable policy)
    (h : sn.Rearranged sn') (hv : sn.Valid) :
    SameAuthority
      (conclude .u64 order policy (.rebuild policy) domain
        (gathered .u64 order (.rebuild policy) domain sn authority))
      (conclude .u64 order' policy (.rebuild policy) domain
        (gathered .u64 order' (.rebuild policy) domain sn' authority)) := by
  have hsettle : settle .u64 policy domain
        (gathered .u64 order' (.rebuild policy) domain sn' authority) =
      settle .u64 policy domain (gathered .u64 order (.rebuild policy) domain sn authority) :=
    settle_gathered_perm h hv
  by_cases hc : Closes .u64 policy (.rebuild policy) domain sn
  · have hc' := (closes_perm h hv).mpr hc
    have hstanding : standing policy (.rebuild policy) domain sn' =
        standing policy (.rebuild policy) domain sn := standing_perm h hv
    rw [conclude_of_closed ((settle_closed hp hd).mpr hc),
      conclude_of_closed ((settle_closed hp hd).mpr hc')]
    refine finish_sameAuthority rfl hsettle.symm ?_
    rw [(verdict_spec hp hd hc).1, (verdict_spec hp hd hc').1, hstanding]
  · have hc' := mt (closes_perm h hv).mp hc
    rw [conclude, conclude, if_neg (mt (settle_closed hp hd).mp hc),
      if_neg (mt (settle_closed hp hd).mp hc'), hsettle]
    exact ⟨rfl, rfl, rfl, rfl, fun _ => ⟨rfl, rfl⟩⟩

/-- **Record order**: rearranging the records of validated evidence changes
neither the authority it is given nor the account of it. -/
theorem record_order_irrelevant {evidence evidence' : DomainEvidence}
    (hp : (validatePolicy policy).isOk = true) (hd : domain ∈ policy.domains)
    (hv : evidence.Validated) (h : evidence.Rearranged evidence') :
    SameAuthority
      (evaluateDomain order policy (.rebuild policy) domain expectation evidence tick)
      (evaluateDomain order' policy (.rebuild policy) domain expectation evidence' tick) := by
  have hpi := validatePolicy_installable hp
  have hdi := hpi.domains _ hd
  obtain ⟨cap?, res?, adm?⟩ := evidence
  obtain ⟨cap?', res?', adm?'⟩ := evidence'
  obtain ⟨hcap, hres, hadm⟩ := h
  dsimp only at hcap hres hadm
  cases hcap with
  | none => exact stop_sameAuthority rfl
  | some hcap =>
  cases hres with
  | none => exact stop_sameAuthority rfl
  | some hres =>
  cases hadm with
  | none => exact stop_sameAuthority rfl
  | some hadm =>
  rename_i cap cap' res res' adm adm'
  have hvalid : Snapshots.Valid ⟨cap, res, adm⟩ :=
    ⟨validateCapacitySnapshot_valid (hv.capacity cap rfl),
      validateReservationSnapshot_valid (hv.reservations res rfl),
      validateAdmissionSnapshot_valid (hv.admissions adm rfl)⟩
  have hrearranged : Snapshots.Rearranged ⟨cap, res, adm⟩ ⟨cap', res', adm'⟩ := ⟨hcap, hres, hadm⟩
  have hsame : Dominated
      (BothGathered order order' (.rebuild policy) domain ⟨cap, res, adm⟩ ⟨cap', res', adm'⟩
        (gatheredAuthority policy domain expectation ⟨cap, res, adm⟩ tick)) SameAuthority
      (fun _ => False)
      (gather .u64 order policy (.rebuild policy) domain expectation ⟨some cap, some res, some adm⟩
        tick)
      (gather .u64 order' policy (.rebuild policy) domain expectation
        ⟨some cap', some res', some adm'⟩ tick) := gather_perm hdi.members_nodup hrearranged hvalid
  unfold evaluateDomain evaluateDomainIn
  generalize gather .u64 order policy (.rebuild policy) domain expectation
    ⟨some cap, some res, some adm⟩ tick = x at hsame ⊢
  generalize gather .u64 order' policy (.rebuild policy) domain expectation
    ⟨some cap', some res', some adm'⟩ tick = y at hsame ⊢
  cases hsame with
  | stopped _ h => exact h.elim
  | errors h => exact h
  | values h =>
      obtain ⟨rfl, rfl⟩ := h
      exact conclude_perm hpi hdi hrearranged hvalid

/-- The evidence of two classes over their shares, its records reversed. -/
def tiedReversed : Snapshots :=
  { tiedSnapshots with
    adm := { tiedSnapshots.adm with records := tiedSnapshots.adm.records.reverse } }

theorem record_order_sample :
    SameAuthority
      (evaluateDomain (.leading ⟨1⟩) tiedPolicy (.rebuild tiedPolicy) sampleDomain
        sampleExpectation tiedSnapshots.evidence 0)
      (evaluateDomain (.leading ⟨2⟩) tiedPolicy (.rebuild tiedPolicy) sampleDomain
        sampleExpectation tiedReversed.evidence 0) := by
  refine record_order_irrelevant tiedPolicy_valid sampleDomain_mem ⟨?_, ?_, ?_⟩
    ⟨.some ⟨.refl _, rfl⟩, .some ⟨.refl _, rfl⟩, .some ⟨(List.reverse_perm _).symm, rfl⟩⟩
  all_goals
    intro snapshot h
    obtain rfl := Option.some.inj h
    decide +kernel

end

end Oversub
