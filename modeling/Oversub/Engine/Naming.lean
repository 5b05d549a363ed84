import Oversub.Engine.Binding

/-!
# Oversub.Engine.Naming

Which service class an intent names, and whether the result digest binds it.
The class is not hashed.  It is that of the last ineligible record, or of the
first class over its share, so the order of the records and of the hash tables
decides where two classes can be named (`Ambiguous`), and nothing else does
(`digest_binds_iff`).
-/

namespace Oversub

open EarlyFold Tally Streams

/-! ## Classes that can be named -/

/-- Two ineligible classes have demand, and the intent about one of them is
within the policy's limit. -/
structure IneligibleTied (policy : OversubscriptionPolicy) (domain : DomainConfig) (sn : Snapshots) : Prop where
  room : (if 0 < (standing policy (.rebuild policy) domain sn).overage then 1 else 0) +
      (if (standing policy (.rebuild policy) domain sn).unmapped = true then 1 else 0) <
    policy.limits.maxCorrectiveIntents.toNat
  demand : (standing policy (.rebuild policy) domain sn).ineligible = true
  classes : ∃ r ∈ sn.adm.records, ∃ r' ∈ sn.adm.records, isIneligible domain (.rebuild policy) r = true ∧
    isIneligible domain (.rebuild policy) r' = true ∧ r.serviceClass ≠ r'.serviceClass

/-- What a class holds beyond its share. -/
def excessOf (policy : OversubscriptionPolicy) (domain : DomainConfig) (sn : Snapshots) (id : ServiceClassId) :
    Nat :=
  shareExcess (.rebuild policy) (standing policy (.rebuild policy) domain sn).contingentCeiling id
    (contingentOf domain (.rebuild policy) sn.adm.records id)

/-- Two classes are over their shares by the same amount, and nothing before
the shares is wrong. -/
structure ExcessTied (policy : OversubscriptionPolicy) (domain : DomainConfig) (sn : Snapshots) : Prop where
  sound : (standing policy (.rebuild policy) domain sn).Sound
  capacity : (standing policy (.rebuild policy) domain sn).capacity ≠ 0
  overage : (standing policy (.rebuild policy) domain sn).overage = 0
  burst : (standing policy (.rebuild policy) domain sn).burstExceeded = false
  classes : ∃ id id', id ≠ id' ∧ OverShare policy domain sn id ∧ OverShare policy domain sn id' ∧
    excessOf policy domain sn id = excessOf policy domain sn id'

/-- The evidence reaches the cascade, where two classes can be named. -/
def Ambiguous (policy : OversubscriptionPolicy) (domain : DomainConfig) (expectation : AuthorityExpectation)
    (evidence : DomainEvidence) (tick : UInt64) : Prop :=
  ∃ sn : Snapshots, evidence = sn.evidence ∧ Reaches .u64 policy domain expectation sn tick ∧
    (IneligibleTied policy domain sn ∨ ExcessTied policy domain sn)

/-- What an intent says. -/
def CorrectiveIntent.request (i : CorrectiveIntent) :
    CorrectiveKind × CorrectiveTarget × ServiceClassId × Nat × ReasonCode :=
  (i.kind, i.target, i.serviceClass, i.amountUnits, i.reason)

/-! ## The intents of a result -/

section

variable {order : MapOrder} {policy : OversubscriptionPolicy} {index : PolicyIndex} {domain : DomainConfig}
  {expectation : AuthorityExpectation} {evidence : DomainEvidence} {sn : Snapshots} {tick : UInt64}
  {authority : AuthorityVector} {g : Gathered} {s : Settled} {v : Verdict} {i : CorrectiveIntent}
  {id : ServiceClassId} {excess : Nat}

/-- The class and the amount that the share loop finds. -/
theorem finding_exceeded (hp : policy.Installable) (hd : domain.Installable policy)
    (h : Closes .u64 policy (.rebuild policy) domain sn)
    (hfound : finding order (.rebuild policy) (gathered .u64 order (.rebuild policy) domain sn authority)
      (settle .u64 policy domain (gathered .u64 order (.rebuild policy) domain sn authority)) =
        .exceeded id excess) :
    OverShare policy domain sn id ∧ excess = excessOf policy domain sn id := by
  rw [finding_gathered hp hd h, shareFinding_eq (contingentCeiling_fits h) (share_le_of_installable hp)] at hfound
  split at hfound
  · cases hfound
  next e he =>
    injection hfound with hid hexcess
    have hmem := List.mem_of_find?_eq_some he
    rw [(order.contingent_perm _).mem_iff] at hmem
    obtain ⟨-, hamount⟩ := mem_entries.mp hmem
    rw [get_contingentByClass] at hamount
    have hbroken := List.find?_some he
    rw [hamount, hid] at hbroken hexcess
    exact ⟨hbroken, hexcess.symm⟩

/-- An intent of an evaluation that reaches the cascade. -/
inductive Names (policy : OversubscriptionPolicy) (domain : DomainConfig) (sn : Snapshots) (i : CorrectiveIntent) :
    Prop
  | domain (h : i.Plain)
  | ineligible (amount : Nat)
      (room : (if 0 < (standing policy (.rebuild policy) domain sn).overage then 1 else 0) +
          (if (standing policy (.rebuild policy) domain sn).unmapped = true then 1 else 0) <
        policy.limits.maxCorrectiveIntents.toNat)
      (demand : (standing policy (.rebuild policy) domain sn).ineligible = true)
      (h : i = ineligibleIntent domain (ineligibleClass (.rebuild policy) domain sn.adm.records) amount)
  | share (id : ServiceClassId) (exceeds : OverShare policy domain sn id)
      (reason : (standing policy (.rebuild policy) domain sn).reason = .serviceClassShareExceeded)
      (h : i = shareIntent domain id (excessOf policy domain sn id))

/-- The number of intents before the one about an ineligible class. -/
theorem length_leadingIntents (hover : s.acc.overage = (standing policy (.rebuild policy) domain sn).overage)
    (hunmapped : 0 < g.unmapped ↔ (standing policy (.rebuild policy) domain sn).unmapped = true) :
    (leadingIntents domain g s).length =
      (if 0 < (standing policy (.rebuild policy) domain sn).overage then 1 else 0) +
        (if (standing policy (.rebuild policy) domain sn).unmapped = true then 1 else 0) := by
  unfold leadingIntents
  rw [List.length_append, hover]
  simp only [hunmapped]
  congr 1
  · split <;> rfl
  · split <;> rfl

/-- Something is asked of ineligible demand where the standing says so. -/
theorem ineligibleAmount_pos :
    0 < (gathered .u64 order (.rebuild policy) domain sn authority).ineligibleAmount ↔
      (standing policy (.rebuild policy) domain sn).ineligible = true := ineligible_pos

/-- **The intents** of an evaluation that reaches the cascade. -/
theorem evaluate_intents (hp : policy.Installable) (hd : domain.Installable policy)
    (h : Reaches .u64 policy domain expectation sn tick) :
    let g := gathered .u64 order (.rebuild policy) domain sn
      (gatheredAuthority policy domain expectation sn tick)
    let s := settle .u64 policy domain g
    ∃ l, (l = [] ∨ ∃ id, OverShare policy domain sn id ∧
        (standing policy (.rebuild policy) domain sn).reason = .serviceClassShareExceeded ∧
          l = [shareIntent domain id (excessOf policy domain sn id)]) ∧
      (evaluateDomain order policy (.rebuild policy) domain expectation sn.evidence tick).intents =
        listed policy.limits
          (l ++ dueIntents domain g s (verdict .u64 order policy (.rebuild policy) domain g s)) := by
  intro g s
  have hfound : Found policy.limits domain (finding order (.rebuild policy) g s)
      (verdict .u64 order policy (.rebuild policy) domain g s) := verdict_found
  have hreason : (verdict .u64 order policy (.rebuild policy) domain g s).reason =
      (standing policy (.rebuild policy) domain sn).reason := verdict_reason hp hd h.closes order order
  have hresult : evaluateDomain order policy (.rebuild policy) domain expectation sn.evidence tick =
      finish policy.limits domain g s (verdict .u64 order policy (.rebuild policy) domain g s) :=
    evaluate_eq_finish hp hd h
  rw [hresult, finish, finalize_intents]
  dsimp only
  rcases hfound with hnone | ⟨id, excess, hfound, hshare, hone⟩
  · exact ⟨[], .inl rfl, finishIntents_eq hnone⟩
  · obtain ⟨hover, hexcess⟩ := finding_exceeded hp hd h.closes hfound
    rw [hexcess] at hone
    exact ⟨_, .inr ⟨id, hover, hreason.symm.trans hshare, rfl⟩, finishIntents_eq hone⟩

theorem evaluate_names (hp : policy.Installable) (hd : domain.Installable policy)
    (h : Reaches .u64 policy domain expectation sn tick) :
    ∀ i ∈ (evaluateDomain order policy (.rebuild policy) domain expectation sn.evidence tick).intents,
      Names policy domain sn i := by
  obtain ⟨l, hl, hintents⟩ := @evaluate_intents order policy domain expectation sn tick hp hd h
  have hmatches : Matches (settle .u64 policy domain (gathered .u64 order (.rebuild policy) domain sn
      (gatheredAuthority policy domain expectation sn tick))).acc (standing policy (.rebuild policy) domain sn) :=
    settle_matches hp hd h.closes
  have hunmapped : 0 < (gathered .u64 order (.rebuild policy) domain sn
      (gatheredAuthority policy domain expectation sn tick)).unmapped ↔
        (standing policy (.rebuild policy) domain sn).unmapped = true := unmapped_pos
  have hdemand := @ineligibleAmount_pos order policy domain sn
    (gatheredAuthority policy domain expectation sn tick)
  have hclass : (gathered .u64 order (.rebuild policy) domain sn
      (gatheredAuthority policy domain expectation sn tick)).ineligibleClass =
        ineligibleClass (.rebuild policy) domain sn.adm.records := rfl
  intro i hi
  rw [hintents] at hi
  generalize gathered .u64 order (.rebuild policy) domain sn
    (gatheredAuthority policy domain expectation sn tick) = g at hi hmatches hunmapped hdemand hclass
  generalize verdict .u64 order policy (.rebuild policy) domain g (settle .u64 policy domain g) = v at hi
  generalize settle .u64 policy domain g = s at hi hmatches
  have hlength : (leadingIntents domain g s).length = _ := length_leadingIntents hmatches.overage hunmapped
  by_cases hplain : i.Plain
  · exact .domain hplain
  have hmem := List.mem_of_mem_take hi
  rw [List.mem_append, dueIntents, List.mem_append, List.mem_append] at hmem
  rcases hmem with hmem | (hmem | hmem) | hmem
  · rcases hl with rfl | ⟨id, hover, hreason, rfl⟩
    · cases hmem
    · exact .share id hover hreason (List.mem_singleton.mp hmem)
  · exact absurd (leadingIntents_plain i hmem) hplain
  · split at hmem
    next hpos =>
      have hineligible := hdemand.mp hpos
      refine .ineligible g.ineligibleAmount ?_ hineligible (hclass ▸ List.mem_singleton.mp hmem)
      -- no class is over its share, so the intent stands right behind the leading ones
      have hnil : l = [] := by
        rcases hl with hl | ⟨_, _, hreason, _⟩
        · exact hl
        · have hsound := (Standing.reason_eq_share.mp hreason).1
          rw [hsound.eligible] at hineligible
          cases hineligible
      rw [hnil, List.nil_append, dueIntents, List.append_assoc, listed] at hi
      by_cases hroom : policy.limits.maxCorrectiveIntents.toNat ≤ (leadingIntents domain g s).length
      · rw [List.take_append_of_le_length hroom] at hi
        exact absurd (leadingIntents_plain i (List.mem_of_mem_take hi)) hplain
      · omega
    · cases hmem
  · exact absurd (trailingIntents_plain i hmem) hplain

/-- An intent about a service class is one of an evaluation that reaches the
cascade. -/
theorem names_of_evaluate (hwarn : 0 < policy.thresholds.warnUsedPpm.toNat) (hp : policy.Installable)
    (hd : domain.Installable policy)
    (hi : i ∈ (evaluateDomain order policy (.rebuild policy) domain expectation evidence tick).intents) :
    i.Plain ∨ ∃ sn : Snapshots, evidence = sn.evidence ∧ Reaches .u64 policy domain expectation sn tick ∧
      Names policy domain sn i := by
  have hreject {authority : AuthorityVector} {resources : List ResourceAccounting} {notes : List String}
      {x : Refusal} (hi : i ∈ (reject policy.limits domain authority resources notes x).intents) : i.Plain :=
    (rejectIntents_plain i hi).1
  have hall := hi
  unfold evaluateDomain evaluateDomainIn at hi
  cases hg : gather .u64 order policy (.rebuild policy) domain expectation evidence tick with
  | error r =>
      have hstopped : Stopped policy domain domain.members.length r := (gather_coherent hwarn).error hg
      obtain ⟨authority, x, rfl, -⟩ := hstopped
      rw [hg] at hi
      exact .inl (hreject hi)
  | ok g =>
      rw [hg] at hi
      obtain ⟨sn, rfl, hgate, hfits, hwithin, rfl⟩ := (gather_eq_ok hd.members_nodup).mp hg
      by_cases hc : Closes .u64 policy (.rebuild policy) domain sn
      · have hreach : Reaches .u64 policy domain expectation sn tick := ⟨⟨hgate, hfits, hc⟩, hwithin⟩
        exact .inr ⟨sn, rfl, hreach, evaluate_names hp hd hreach i hall⟩
      · have hopen : ¬ (settle .u64 policy domain (gathered .u64 order (.rebuild policy) domain sn
            (gatheredAuthority policy domain expectation sn tick))).closed = true := mt (settle_closed hp hd).mp hc
        dsimp only at hi
        rw [conclude, if_neg hopen] at hi
        exact .inl (hreject hi)

/-! ## Evidence with the same records -/

/-- The records of one are those of the other in some order. -/
structure SameRecords (sn sn' : Snapshots) : Prop where
  resources : sn.cap.resources.Perm sn'.cap.resources
  guarantees : sn.res.guarantees.Perm sn'.res.guarantees
  records : sn.adm.records.Perm sn'.adm.records

variable {sn' : Snapshots}

theorem SameRecords.rearranged (h : SameRecords sn sn') :
    sn.Rearranged (sn.withRecords sn'.cap.resources sn'.res.guarantees sn'.adm.records) :=
  ⟨⟨h.resources, rfl⟩, ⟨h.guarantees, rfl⟩, ⟨h.records, rfl⟩⟩

theorem SameRecords.standing_eq (h : SameRecords sn sn') (hv : sn.Valid) :
    standing policy index domain sn' = standing policy index domain sn := by
  have hstanding : standing policy index domain
      (sn.withRecords sn'.cap.resources sn'.res.guarantees sn'.adm.records) = standing policy index domain sn :=
    standing_perm h.rearranged hv
  exact hstanding

theorem SameRecords.overShare (h : SameRecords sn sn') (hv : sn.Valid) :
    OverShare policy domain sn' id ↔ OverShare policy domain sn id := by
  rw [OverShare, h.standing_eq hv, contingentOf_perm h.records, OverShare]

theorem SameRecords.excessOf_eq (h : SameRecords sn sn') (hv : sn.Valid) :
    excessOf policy domain sn' id = excessOf policy domain sn id := by
  rw [excessOf, h.standing_eq hv, contingentOf_perm h.records, excessOf]

/-- The class of the last ineligible record is that of an ineligible record. -/
theorem ineligibleClass_mem {rs : List DemandRecord}
    (h : (rs.any fun r => isIneligible domain index r && (committed r != 0 || pending r != 0)) = true) :
    ∃ r ∈ rs, isIneligible domain index r = true ∧ r.serviceClass = ineligibleClass index domain rs := by
  simp only [List.any_eq_true, Bool.and_eq_true] at h
  obtain ⟨r, hr, hineligible, -⟩ := h
  have hne : rs.filter (isIneligible domain index) ≠ [] :=
    List.ne_nil_of_mem (List.mem_filter.mpr ⟨hr, hineligible⟩)
  obtain ⟨hmem, hlast⟩ := List.mem_filter.mp (List.getLast_mem hne)
  refine ⟨_, hmem, hlast, ?_⟩
  rw [ineligibleClass, List.getLast?_eq_some_getLast hne]
  rfl

/-- **The class** of an intent, where no two can be named. -/
theorem serviceClass_bound (hn : ¬ Ambiguous policy domain expectation sn.evidence tick)
    (hreach : Reaches .u64 policy domain expectation sn tick) (hv : sn.Valid) (hsame : SameRecords sn sn')
    {i' : CorrectiveIntent} (hi : Names policy domain sn i) (hi' : Names policy domain sn' i')
    (halike : i.Alike i') : i.serviceClass = i'.serviceClass := by
  have htied (h : IneligibleTied policy domain sn ∨ ExcessTied policy domain sn) : False :=
    hn ⟨sn, rfl, hreach, h⟩
  have htarget := halike.target
  have hreason := halike.reason
  cases hi with
  | domain h =>
      cases hi' with
      | domain h' => exact h.2.trans h'.2.symm
      | ineligible _ _ _ h' | share _ _ _ h' =>
          rw [h.1, h'] at htarget
          cases htarget
  | ineligible amount room demand h =>
      cases hi' with
      | domain h' =>
          rw [h, h'.1] at htarget
          cases htarget
      | share _ _ _ h' =>
          rw [h, h'] at hreason
          cases hreason
      | ineligible amount' _ demand' h' =>
          rw [h, h']
          obtain ⟨r, hr, hrec, hclass⟩ := ineligibleClass_mem demand
          obtain ⟨r', hr', hrec', hclass'⟩ := ineligibleClass_mem demand'
          refine Decidable.byContradiction fun hne => htied (.inl ⟨room, demand, r, hr, r',
            hsame.records.mem_iff.mpr hr', hrec, hrec', ?_⟩)
          rw [hclass, hclass']
          exact hne
  | share id hexceeds reason h =>
      cases hi' with
      | domain h' =>
          rw [h, h'.1] at htarget
          cases htarget
      | ineligible _ _ _ h' =>
          rw [h, h'] at hreason
          cases hreason
      | share id' hexceeds' _ h' =>
          have hamount := halike.amount
          rw [h, h'] at hamount ⊢
          have hexcess : excessOf policy domain sn id = excessOf policy domain sn id' :=
            hamount.trans (hsame.excessOf_eq hv)
          obtain ⟨hsound, hcapacity, hover, hburst, -⟩ := Standing.reason_eq_share.mp reason
          exact Decidable.byContradiction fun hne => htied (.inr ⟨hsound, hcapacity, hover, hburst, id, id', hne,
            hexceeds, (hsame.overShare hv).mp hexceeds', hexcess⟩)

/-! ## Results with one stream -/

theorem CorrectiveIntent.Alike.refl (i : CorrectiveIntent) : i.Alike i := ⟨rfl, rfl, rfl, rfl⟩

theorem alike_refl (l : List CorrectiveIntent) : List.Forall₂ CorrectiveIntent.Alike l l :=
  List.forall₂_same.mpr fun i _ => .refl i

/-- What differs in the service class only is fed the same way. -/
theorem intentStream_alike {i j : CorrectiveIntent} (h : i.Alike j) : intentStream i = intentStream j := by
  rw [intentStream, h.kind, h.target, h.amount, h.reason, intentStream]

theorem itemsStream_alike {l l' : List CorrectiveIntent} (h : List.Forall₂ CorrectiveIntent.Alike l l') :
    itemsStream intentStream l = itemsStream intentStream l' := by
  have hitems : l.flatMap intentStream = l'.flatMap intentStream := by
    induction h with
    | nil => rfl
    | cons hij _ ih => rw [List.flatMap_cons, List.flatMap_cons, intentStream_alike hij, ih]
  rw [itemsStream, h.length_eq, hitems, ← itemsStream]

theorem finish_stream {g' : Gathered} {v' : Verdict} (houtcome : v.outcome = v'.outcome)
    (hreason : v.reason = v'.reason) (hauthority : g.authority = g'.authority)
    (hintents : List.Forall₂ CorrectiveIntent.Alike (finishIntents policy.limits domain g s v)
      (finishIntents policy.limits domain g' s v')) :
    resultStream (finish policy.limits domain g s v) = resultStream (finish policy.limits domain g' s v') := by
  unfold finish finalizeEvaluationResult resultStream
  dsimp only
  rw [houtcome, hreason, hauthority, itemsStream_alike hintents]

/-- The intents that are due, but for the ineligible class. -/
theorem dueIntents_alike {g' : Gathered} {v' : Verdict} (hunmapped : 0 < g.unmapped ↔ 0 < g'.unmapped)
    (hamount : g.ineligibleAmount = g'.ineligibleAmount) (houtcome : v.outcome = v'.outcome)
    (hreason : v.reason = v'.reason) :
    List.Forall₂ CorrectiveIntent.Alike (dueIntents domain g s v) (dueIntents domain g' s v') := by
  have hleading : leadingIntents domain g s = leadingIntents domain g' s := by
    unfold leadingIntents
    simp only [hunmapped]
  have htrailing : trailingIntents domain s v = trailingIntents domain s v' := by
    unfold trailingIntents
    rw [houtcome, hreason]
  unfold dueIntents
  rw [hleading, htrailing, hamount]
  refine List.rel_append (List.rel_append (alike_refl _) ?_) (alike_refl _)
  split
  · exact .cons ⟨rfl, rfl, rfl, rfl⟩ .nil
  · exact .nil

/-! ## Rearranged evidence -/

/-- Validation does not see the order. -/
theorem validateAdmissionSnapshot_perm {adm adm' : AdmissionSnapshot} (h : adm.Rearranged adm')
    (hok : (validateAdmissionSnapshot adm).isOk = true) : (validateAdmissionSnapshot adm').isOk = true := by
  have hdigest := admissionSnapshotDigest_perm h (validateAdmissionSnapshot_valid hok)
  have hall := firstFailure_isOk.mp hok
  refine firstFailure_isOk.mpr ?_
  simp only [allPass_append, allPass_cons, allPass_nil, allPass_flatMap, and_true, decide_eq_false_iff_not,
    hasDuplicateValues_eq_false] at hall ⊢
  obtain ⟨⟨⟨hcommon, hsize⟩, hrecords⟩, hnodup⟩ := hall
  refine ⟨⟨⟨?_, ?_⟩, fun r hr => hrecords r (h.records.mem_iff.mpr hr)⟩, (h.records.map _).nodup_iff.mp hnodup⟩
  · rw [hdigest, h.rest]
    exact hcommon
  · rw [← h.records.length_eq]
    exact hsize

/-- Rearranged evidence reaches the cascade as well. -/
theorem reaches_perm (hd : domain.Installable policy) (h : sn.Rearranged sn')
    (hv : sn.Valid) (hreach : Reaches .u64 policy domain expectation sn tick) :
    Reaches .u64 policy domain expectation sn' tick := by
  have hsame : Dominated (BothGathered .listed .listed (.rebuild policy) domain sn sn'
      (gatheredAuthority policy domain expectation sn tick)) SameAuthority (fun _ => False)
      (gather .u64 .listed policy (.rebuild policy) domain expectation sn.evidence tick)
      (gather .u64 .listed policy (.rebuild policy) domain expectation sn'.evidence tick) :=
    gather_perm hd.members_nodup h hv
  rw [(gather_eq_ok hd.members_nodup).mpr ⟨sn, rfl, hreach.gate, hreach.fits, hreach.within, rfl⟩] at hsame
  cases hother : gather .u64 .listed policy (.rebuild policy) domain expectation sn'.evidence tick with
  | error r =>
      rw [hother] at hsame
      cases hsame with
      | stopped _ hfalse => exact hfalse.elim
  | ok g =>
      obtain ⟨sn'', hevidence, hgate, hfits, hwithin, -⟩ := (gather_eq_ok hd.members_nodup).mp hother
      rw [← Snapshots.evidence_inj hevidence] at hgate hfits hwithin
      exact ⟨⟨hgate, hfits, (closes_perm h hv).mpr hreach.closes⟩, hwithin⟩

/-- The intent about the ineligible class comes right behind the leading ones. -/
theorem listed_ineligible {limits : PolicyLimits}
    (hroom : (leadingIntents domain g s).length < limits.maxCorrectiveIntents.toNat)
    (hpos : 0 < g.ineligibleAmount) :
    (listed limits (dueIntents domain g s v))[(leadingIntents domain g s).length]? =
      some (ineligibleIntent domain g.ineligibleClass g.ineligibleAmount) := by
  rw [listed, List.getElem?_take_of_lt hroom, dueIntents, List.append_assoc,
    List.getElem?_append_right (Nat.le_refl _), Nat.sub_self, if_pos hpos]
  rfl

/-- A record moved to the end is the last one. -/
theorem ineligibleClass_moved {rs : List DemandRecord} {r : DemandRecord}
    (h : isIneligible domain index r = true) : ineligibleClass index domain (rs ++ [r]) = r.serviceClass := by
  rw [ineligibleClass, List.filter_append, List.filter_cons_of_pos h, List.filter_nil,
    List.getLast?_append_cons]
  rfl

/-- Where ineligible demand is reported no class is found over its share. -/
theorem evaluate_ineligible_intents (hp : policy.Installable) (hd : domain.Installable policy)
    (hreach : Reaches .u64 policy domain expectation sn tick)
    (hdemand : (standing policy (.rebuild policy) domain sn).ineligible = true) :
    let g := gathered .u64 order (.rebuild policy) domain sn
      (gatheredAuthority policy domain expectation sn tick)
    let s := settle .u64 policy domain g
    (evaluateDomain order policy (.rebuild policy) domain expectation sn.evidence tick).intents =
      listed policy.limits (dueIntents domain g s (verdict .u64 order policy (.rebuild policy) domain g s)) := by
  obtain ⟨l, hl, hintents⟩ := @evaluate_intents order policy domain expectation sn tick hp hd hreach
  have hnil : l = [] := by
    rcases hl with hl | ⟨_, _, hreason, _⟩
    · exact hl
    · have hsound := (Standing.reason_eq_share.mp hreason).1
      rw [hsound.eligible] at hdemand
      cases hdemand
  rw [hnil, List.nil_append] at hintents
  exact hintents

/-- **Ineligible classes**: in another order of the records the same result names
another class. -/
theorem ineligible_ambiguous (hp : policy.Installable) (hd : domain.Installable policy) (hv : sn.Accepted)
    (hreach : Reaches .u64 policy domain expectation sn tick) (ht : IneligibleTied policy domain sn) :
    ∃ sn' : Snapshots, sn.Rearranged sn' ∧ sn'.Accepted ∧
      let r := evaluateDomain order policy (.rebuild policy) domain expectation sn.evidence tick
      let r' := evaluateDomain order policy (.rebuild policy) domain expectation sn'.evidence tick
      resultStream r = resultStream r' ∧ r.intents.map (·.serviceClass) ≠ r'.intents.map (·.serviceClass) := by
  -- one of the two classes is not that of the last ineligible record
  obtain ⟨q, hq, hineligible, hother⟩ : ∃ q ∈ sn.adm.records, isIneligible domain (.rebuild policy) q = true ∧
      q.serviceClass ≠ ineligibleClass (.rebuild policy) domain sn.adm.records := by
    obtain ⟨r, hr, r', hr', hrec, hrec', hne⟩ := ht.classes
    by_cases hlast : r.serviceClass = ineligibleClass (.rebuild policy) domain sn.adm.records
    · exact ⟨r', hr', hrec', fun hlast' => hne (hlast.trans hlast'.symm)⟩
    · exact ⟨r, hr, hrec, hlast⟩
  have hperm : sn.adm.records.Perm (sn.adm.records.erase q ++ [q]) :=
    (List.perm_cons_erase hq).trans (List.perm_append_singleton q _).symm
  have hrearranged : sn.Rearranged
      (sn.withRecords sn.cap.resources sn.res.guarantees (sn.adm.records.erase q ++ [q])) :=
    ⟨⟨.refl _, rfl⟩, ⟨.refl _, rfl⟩, ⟨hperm, rfl⟩⟩
  refine ⟨_, hrearranged, ⟨hv.cap, hv.res, validateAdmissionSnapshot_perm hrearranged.adm hv.adm⟩, ?_⟩
  have hmoved : ineligibleClass (.rebuild policy) domain
      (sn.withRecords sn.cap.resources sn.res.guarantees (sn.adm.records.erase q ++ [q])).adm.records =
        q.serviceClass := ineligibleClass_moved hineligible
  generalize sn.withRecords sn.cap.resources sn.res.guarantees (sn.adm.records.erase q ++ [q]) = sn' at *
  have hvalid := hv.valid
  have hreach' : Reaches .u64 policy domain expectation sn' tick := reaches_perm hd hrearranged hvalid hreach
  have hstanding : standing policy (.rebuild policy) domain sn' = standing policy (.rebuild policy) domain sn :=
    standing_perm hrearranged hvalid
  have hauthority : gatheredAuthority policy domain expectation sn' tick =
      gatheredAuthority policy domain expectation sn tick := gatheredAuthority_perm hrearranged hvalid
  have hintents := @evaluate_ineligible_intents order policy domain expectation sn tick hp hd hreach ht.demand
  have hintents' := @evaluate_ineligible_intents order policy domain expectation sn' tick hp hd hreach'
    (hstanding ▸ ht.demand)
  have hresult : evaluateDomain order policy (.rebuild policy) domain expectation sn.evidence tick = _ :=
    evaluate_eq_finish hp hd hreach
  have hresult' : evaluateDomain order policy (.rebuild policy) domain expectation sn'.evidence tick = _ :=
    evaluate_eq_finish hp hd hreach'
  have hverdict := @verdict_spec .u64 order policy domain sn
    (gatheredAuthority policy domain expectation sn tick) hp hd hreach.closes
  have hverdict' := @verdict_spec .u64 order policy domain sn'
    (gatheredAuthority policy domain expectation sn tick) hp hd hreach'.closes
  have hmatches : Matches (settle .u64 policy domain (gathered .u64 order (.rebuild policy) domain sn
      (gatheredAuthority policy domain expectation sn tick))).acc (standing policy (.rebuild policy) domain sn) :=
    settle_matches hp hd hreach.closes
  have hunmapped : 0 < (gathered .u64 order (.rebuild policy) domain sn
      (gatheredAuthority policy domain expectation sn tick)).unmapped ↔
        (standing policy (.rebuild policy) domain sn).unmapped = true := unmapped_pos
  have hunmapped' : 0 < (gathered .u64 order (.rebuild policy) domain sn'
      (gatheredAuthority policy domain expectation sn tick)).unmapped ↔
        (standing policy (.rebuild policy) domain sn').unmapped = true := unmapped_pos
  have hpos := (@ineligibleAmount_pos order policy domain sn
    (gatheredAuthority policy domain expectation sn tick)).mpr ht.demand
  have hamount : (gathered .u64 order (.rebuild policy) domain sn
      (gatheredAuthority policy domain expectation sn tick)).ineligibleAmount =
        (gathered .u64 order (.rebuild policy) domain sn'
          (gatheredAuthority policy domain expectation sn tick)).ineligibleAmount :=
    sumSat_perm ((hrearranged.adm.records.filter _).map _)
  have hclass : (gathered .u64 order (.rebuild policy) domain sn
      (gatheredAuthority policy domain expectation sn tick)).ineligibleClass ≠
        (gathered .u64 order (.rebuild policy) domain sn'
          (gatheredAuthority policy domain expectation sn tick)).ineligibleClass := by
    show ineligibleClass _ _ _ ≠ ineligibleClass _ _ _
    rw [hmoved]
    exact hother.symm
  have hsettle : settle .u64 policy domain (gathered .u64 order (.rebuild policy) domain sn'
      (gatheredAuthority policy domain expectation sn tick)) =
        settle .u64 policy domain (gathered .u64 order (.rebuild policy) domain sn
          (gatheredAuthority policy domain expectation sn tick)) := settle_gathered_perm hrearranged hvalid
  have hsame : (gathered .u64 order (.rebuild policy) domain sn
      (gatheredAuthority policy domain expectation sn tick)).authority =
        (gathered .u64 order (.rebuild policy) domain sn'
          (gatheredAuthority policy domain expectation sn tick)).authority := rfl
  dsimp only at hintents hintents' ⊢
  rw [hauthority] at hintents' hresult'
  rw [hstanding] at hverdict' hunmapped'
  rw [hsettle] at hverdict' hintents' hresult'
  generalize gathered .u64 order (.rebuild policy) domain sn
    (gatheredAuthority policy domain expectation sn tick) = g at *
  generalize gathered .u64 order (.rebuild policy) domain sn'
    (gatheredAuthority policy domain expectation sn tick) = g' at *
  generalize settle .u64 policy domain g = s at *
  generalize verdict .u64 order policy (.rebuild policy) domain g s = v at *
  generalize verdict .u64 order policy (.rebuild policy) domain g' s = v' at *
  have hbetween : 0 < g.unmapped ↔ 0 < g'.unmapped := hunmapped.trans hunmapped'.symm
  have houtcome : v.outcome = v'.outcome := hverdict.1.trans hverdict'.1.symm
  have hreason : v.reason = v'.reason := hverdict.2.trans hverdict'.2.symm
  have hdue : List.Forall₂ CorrectiveIntent.Alike (dueIntents domain g s v) (dueIntents domain g' s v') :=
    dueIntents_alike hbetween hamount houtcome hreason
  constructor
  · have halike : List.Forall₂ CorrectiveIntent.Alike (finishIntents policy.limits domain g s v)
        (finishIntents policy.limits domain g' s v') := by
      have hlisted := List.forall₂_take policy.limits.maxCorrectiveIntents.toNat hdue
      rw [← listed, ← listed, ← hintents, ← hintents', hresult, hresult'] at hlisted
      exact hlisted
    rw [hresult, hresult']
    exact finish_stream houtcome hreason hsame halike
  · -- the classes differ where the intent about them stands
    intro hmaps
    have hlength : (leadingIntents domain g s).length = _ := length_leadingIntents hmatches.overage hunmapped
    have hlength' : (leadingIntents domain g' s).length = _ := length_leadingIntents hmatches.overage hunmapped'
    have hroom := ht.room
    have hget := @listed_ineligible domain g s v policy.limits (hlength ▸ hroom) hpos
    have hget' := @listed_ineligible domain g' s v' policy.limits (hlength' ▸ hroom) (hamount ▸ hpos)
    rw [← hintents, hlength] at hget
    rw [← hintents', hlength'] at hget'
    generalize evaluateDomain order policy (.rebuild policy) domain expectation sn.evidence tick = r at *
    generalize evaluateDomain order policy (.rebuild policy) domain expectation sn'.evidence tick = r' at *
    have hat := congrArg (fun l : List ServiceClassId => l[(leadingIntents domain g s).length]?) hmaps
    rw [List.getElem?_map, List.getElem?_map, hlength, hget, hget'] at hat
    exact hclass (Option.some.inj hat)

theorem shareVerdict_listed : (shareVerdict policy domain s (.exceeded id excess)).intents =
    listed policy.limits [shareIntent domain id excess] := by
  have hone := @addIntent_listed policy.limits [] (shareIntent domain id excess)
  rw [listed, List.take_nil] at hone
  exact hone

/-- **Shares**: in another order of the hash tables the same result names
another class. -/
theorem excess_ambiguous (hp : (validatePolicy policy).isOk = true) (hd : domain ∈ policy.domains)
    (hreach : Reaches .u64 policy domain expectation sn tick) (ht : ExcessTied policy domain sn) :
    ∃ order order' : MapOrder,
      let r := evaluateDomain order policy (.rebuild policy) domain expectation sn.evidence tick
      let r' := evaluateDomain order' policy (.rebuild policy) domain expectation sn.evidence tick
      resultStream r = resultStream r' ∧ r.intents.map (·.serviceClass) ≠ r'.intents.map (·.serviceClass) := by
  have hpi := validatePolicy_installable hp
  have hdi := hpi.domains _ hd
  obtain ⟨id, id', hne, hid, hid', hexcess⟩ := ht.classes
  have htied : SharesTied policy domain sn :=
    ⟨ht.sound, ht.capacity, ht.overage, ht.burst, id, id', hne, hid, hid'⟩
  refine ⟨.leading id, .leading id', ?_, ?_⟩
  · have hresult : evaluateDomain (.leading id) policy (.rebuild policy) domain expectation sn.evidence tick = _ :=
      evaluate_eq_finish hpi hdi hreach
    have hresult' : evaluateDomain (.leading id') policy (.rebuild policy) domain expectation sn.evidence tick = _ :=
      evaluate_eq_finish hpi hdi hreach
    have hsame : gathered .u64 (.leading id') (.rebuild policy) domain sn
        (gatheredAuthority policy domain expectation sn tick) =
          gathered .u64 (.leading id) (.rebuild policy) domain sn
            (gatheredAuthority policy domain expectation sn tick) := by
      simp only [gathered, unmapped_order (.leading id') (.leading id)]
    obtain ⟨excess, hfound, hv⟩ := @verdict_leading policy domain sn
      (gatheredAuthority policy domain expectation sn tick) id hpi hdi hreach.closes htied hid
    obtain ⟨excess', hfound', hv'⟩ := @verdict_leading policy domain sn
      (gatheredAuthority policy domain expectation sn tick) id' hpi hdi hreach.closes htied hid'
    have hvalue := (finding_exceeded hpi hdi hreach.closes hfound).2
    have hvalue' := (finding_exceeded hpi hdi hreach.closes hfound').2
    have hequal : excess = excess' := hvalue.trans (hexcess.trans hvalue'.symm)
    rw [hresult, hresult', hv, hv', hsame, hequal]
    generalize gathered .u64 (.leading id) (.rebuild policy) domain sn
      (gatheredAuthority policy domain expectation sn tick) = g
    generalize settle .u64 policy domain g = s
    refine finish_stream rfl rfl rfl ?_
    rw [finishIntents_eq shareVerdict_listed, finishIntents_eq shareVerdict_listed]
    have hshare : (shareIntent domain id excess').Alike (shareIntent domain id' excess') := ⟨rfl, rfl, rfl, rfl⟩
    exact List.forall₂_take _ (.cons hshare (dueIntents_alike .rfl rfl rfl rfl))
  · intro hmaps
    have hfirst := intents_leading hp hd hreach htied hid
    have hfirst' := intents_leading hp hd hreach htied hid'
    have hheads := congrArg List.head? hmaps
    rw [List.head?_map, List.head?_map, hfirst, hfirst'] at hheads
    exact hne (Option.some.inj hheads)

/-! ## The digest -/

/-- Rearranged evidence is hashed the same way. -/
theorem inputsApart_of_rearranged (h : sn.Rearranged sn') (hv : sn.Accepted) (hv' : sn'.Accepted) :
    InputsApart policy domain expectation tick sn sn' := by
  have hcap := capacitySnapshotDigest_perm h.cap hv.valid.cap
  have hres := reservationSnapshotDigest_perm h.res hv.valid.res
  have hadm := admissionSnapshotDigest_perm h.adm hv.valid.adm
  obtain ⟨hc, hr, ha⟩ := payloadDigestOr_of_accepted hv
  obtain ⟨hc', hr', ha'⟩ := payloadDigestOr_of_accepted hv'
  refine ⟨fun _ => ?_, fun _ => ?_, fun _ => ?_, fun _ => ?_⟩
  · rw [inputStream, inputStream, hc, hr, ha, hc', hr', ha', hcap, hres, hadm]
  · have hsorted := sortedResources_perm h.cap.resources hv.valid.cap.nodup
    rw [h.cap.rest, capacityStream, capacityStream, hsorted]
  · have hsorted : sortedGuarantees sn.res.guarantees = sortedGuarantees sn'.res.guarantees :=
      sortByKey_perm h.res.guarantees hv.valid.res.nodup
    rw [h.res.rest, reservationStream, reservationStream, hsorted]
  · have hsorted : sortedRecords sn.adm.records = sortedRecords sn'.adm.records :=
      sortByKey_perm h.adm.records hv.valid.adm.nodup
    rw [h.adm.rest, admissionStream, admissionStream, hsorted]

theorem DomainEvidence.Validated.accepted (h : sn.evidence.Validated) : sn.Accepted :=
  ⟨h.capacity _ rfl, h.reservations _ rfl, h.admissions _ rfl⟩

theorem Snapshots.Accepted.validated (h : sn.Accepted) : sn.evidence.Validated where
  capacity _ hc := Option.some.inj hc ▸ h.cap
  reservations _ hr := Option.some.inj hr ▸ h.res
  admissions _ ha := Option.some.inj ha ▸ h.adm

/-- The result of an evaluation that reaches the cascade carries the digest of
its input. -/
theorem evaluate_inputDigest (hp : policy.Installable) (hd : domain.Installable policy)
    (h : Reaches .u64 policy domain expectation sn tick) :
    (evaluateDomain order policy (.rebuild policy) domain expectation sn.evidence tick).authority.inputDigest =
      inputDigest policy domain expectation sn tick := by
  have hresult : evaluateDomain order policy (.rebuild policy) domain expectation sn.evidence tick = _ :=
    evaluate_eq_finish hp hd h
  have hauthority {g : Gathered} {s : Settled} {v : Verdict} :
      (finish policy.limits domain g s v).authority = g.authority := rfl
  have hgathered : (gathered .u64 order (.rebuild policy) domain sn
      (gatheredAuthority policy domain expectation sn tick)).authority =
        gatheredAuthority policy domain expectation sn tick := rfl
  rw [hresult, hauthority, hgathered, gatheredAuthority, boundAuthority]

/-- An intent about the domain names no service class. -/
theorem Names.plain (h : Names policy domain sn i) (ht : i.target = .domain) : i.Plain := by
  cases h with
  | domain h => exact h
  | ineligible _ _ _ h | share _ _ _ h =>
      rw [h] at ht
      cases ht

theorem members_bound (hp : (validatePolicy policy).isOk = true) (hd : domain ∈ policy.domains) :
    domain.members.length < 2 ^ 32 := by
  have hall : AllPass (policyChecks policy) := firstFailure_isOk.mp hp
  simp only [policyChecks, allPass_append, allPass_cons, allPass_nil, allPass_flatMap, and_true,
    and_assoc] at hall
  obtain ⟨_, _, _, _, _, _, _, _, _, hdomain, _⟩ := hall
  have hchecks := hdomain domain hd
  simp only [domainChecks, allPass_append, allPass_cons, and_assoc] at hchecks
  obtain ⟨_, _, _, hmembers, _⟩ := hchecks
  simp only [Bool.or_eq_false_iff, decide_eq_false_iff_not, Nat.not_lt] at hmembers
  exact hmembers.2.trans_lt (by decide)

/-- The hash tells apart what two evaluations hash. -/
structure HashesApart (order order' : MapOrder) (policy : OversubscriptionPolicy) (domain : DomainConfig)
    (expectation : AuthorityExpectation) (tick : UInt64) (evidence evidence' : DomainEvidence) : Prop where
  result :
    let r := evaluateDomain order policy (.rebuild policy) domain expectation evidence tick
    let r' := evaluateDomain order' policy (.rebuild policy) domain expectation evidence' tick
    sha256 (resultStream r) = sha256 (resultStream r') → resultStream r = resultStream r'
  input : ∀ sn sn' : Snapshots, evidence = sn.evidence → evidence' = sn'.evidence →
    InputsApart policy domain expectation tick sn sn'

/-- **Alike results** name the same classes where no two can be named. -/
theorem serviceClass_of_alike {order' : MapOrder} {evidence' : DomainEvidence} {i' : CorrectiveIntent}
    (hp : (validatePolicy policy).isOk = true) (hd : domain ∈ policy.domains)
    (hn : ¬ Ambiguous policy domain expectation evidence tick) (hv : evidence.Validated)
    (hv' : evidence'.Validated)
    (hsha : HashesApart order order' policy domain expectation tick evidence evidence')
    (halike : (evaluateDomain order policy (.rebuild policy) domain expectation evidence tick).Alike
      (evaluateDomain order' policy (.rebuild policy) domain expectation evidence' tick))
    (hi : i ∈ (evaluateDomain order policy (.rebuild policy) domain expectation evidence tick).intents)
    (hi' : i' ∈ (evaluateDomain order' policy (.rebuild policy) domain expectation evidence' tick).intents)
    (h : i.Alike i') : i.serviceClass = i'.serviceClass := by
  have hpi := validatePolicy_installable hp
  have hdi := hpi.domains _ hd
  have hwarn := validatePolicy_warn_pos hp
  rcases names_of_evaluate hwarn hpi hdi hi with hplain | ⟨sn, rfl, hreach, hnames⟩
  · rcases names_of_evaluate hwarn hpi hdi hi' with hplain' | ⟨sn', rfl, -, hnames'⟩
    · exact hplain.2.trans hplain'.2.symm
    · exact hplain.2.trans (hnames'.plain (h.target.symm.trans hplain.1)).2.symm
  · rcases names_of_evaluate hwarn hpi hdi hi' with hplain' | ⟨sn', rfl, hreach', hnames'⟩
    · exact (hnames.plain (h.target.trans hplain'.1)).2.trans hplain'.2.symm
    · have hdigest := halike.input
      rw [evaluate_inputDigest hpi hdi hreach, evaluate_inputDigest hpi hdi hreach'] at hdigest
      obtain ⟨hresources, hguarantees, hrecords⟩ :=
        records_of_inputDigest hv.accepted hv'.accepted (hsha.input _ _ rfl rfl) hdigest
      exact serviceClass_bound hn hreach hv.accepted.valid ⟨hresources, hguarantees, hrecords⟩ hnames hnames' h

/-- **The result digest** binds outcome, reason, accounting and intents, service
classes included, exactly where no two classes can be named. -/
theorem digest_binds_iff (hp : (validatePolicy policy).isOk = true) (hd : domain ∈ policy.domains)
    (hv : evidence.Validated) :
    (∀ (order order' : MapOrder) (evidence' : DomainEvidence), evidence'.Validated →
      HashesApart order order' policy domain expectation tick evidence evidence' →
      let r := evaluateDomain order policy (.rebuild policy) domain expectation evidence tick
      let r' := evaluateDomain order' policy (.rebuild policy) domain expectation evidence' tick
      r.resultDigest = r'.resultDigest →
        r.outcome = r'.outcome ∧ r.reason = r'.reason ∧ r.accounting = r'.accounting ∧
          r.intents.map (·.request) = r'.intents.map (·.request)) ↔
      ¬ Ambiguous policy domain expectation evidence tick := by
  have hpi := validatePolicy_installable hp
  have hdi := hpi.domains _ hd
  have hcoherent {order : MapOrder} {evidence : DomainEvidence} :
      (evaluateDomain order policy (.rebuild policy) domain expectation evidence tick).Coherent policy
        domain.members.length := evaluate_coherent (validatePolicy_warn_pos hp)
  have hdigest {order : MapOrder} {evidence : DomainEvidence} :
      (evaluateDomain order policy (.rebuild policy) domain expectation evidence tick).resultDigest =
        sha256 (resultStream (evaluateDomain order policy (.rebuild policy) domain expectation evidence tick)) :=
    hcoherent.digest.trans (evaluationResultDigest_eq _)
  have hclasses {l l' : List CorrectiveIntent} (h : l.map (·.request) = l'.map (·.request)) :
      l.map (·.serviceClass) = l'.map (·.serviceClass) := by
    have hmap := congrArg (List.map (·.2.2.1)) h
    rw [List.map_map, List.map_map] at hmap
    exact hmap
  constructor
  · rintro h ⟨sn, rfl, hreach, hineligible | hexcess⟩
    · obtain ⟨sn', hrearranged, haccepted, hstream, hne⟩ :=
        @ineligible_ambiguous .listed policy domain expectation sn tick hpi hdi hv.accepted hreach hineligible
      have hsha : HashesApart .listed .listed policy domain expectation tick sn.evidence sn'.evidence := by
        refine ⟨fun _ => hstream, fun s s' hs hs' => ?_⟩
        rw [← Snapshots.evidence_inj hs, ← Snapshots.evidence_inj hs']
        exact inputsApart_of_rearranged hrearranged hv.accepted haccepted
      have hsame := h .listed .listed sn'.evidence haccepted.validated hsha
        (hdigest.trans ((congrArg sha256 hstream).trans hdigest.symm))
      exact hne (hclasses hsame.2.2.2)
    · obtain ⟨order, order', hstream, hne⟩ := excess_ambiguous hp hd hreach hexcess
      have hsha : HashesApart order order' policy domain expectation tick sn.evidence sn.evidence := by
        refine ⟨fun _ => hstream, fun s s' hs hs' => ?_⟩
        rw [← Snapshots.evidence_inj hs, ← Snapshots.evidence_inj hs']
        exact ⟨fun _ => rfl, fun _ => rfl, fun _ => rfl, fun _ => rfl⟩
      have hsame := h order order' sn.evidence hv hsha
        (hdigest.trans ((congrArg sha256 hstream).trans hdigest.symm))
      exact hne (hclasses hsame.2.2.2)
  · intro hn order order' evidence' hv' hsha r r' hequal
    have hstream : resultStream r = resultStream r' :=
      hsha.result (hdigest.symm.trans (hequal.trans hdigest))
    have halike : r.Alike r' := (splits_resultStream (members_bound hp hd)).whole hcoherent hcoherent hstream
    refine ⟨halike.outcome, halike.reason, halike.accounting, ?_⟩
    refine Pointwise.map_eq_of_mem halike.intents fun i hi i' hi' h => ?_
    have hclass : i.serviceClass = i'.serviceClass :=
      serviceClass_of_alike hp hd hn hv hv' hsha halike hi hi' h
    rw [CorrectiveIntent.request, CorrectiveIntent.request, h.kind, h.target, hclass, h.amount, h.reason]

end

/-- The sample policy with two classes that must not be oversubscribed. -/
def fencedPolicy : OversubscriptionPolicy :=
  { samplePolicy with
    serviceClasses := [
      { id := ⟨1⟩, oversubscriptionEligible := false }, { id := ⟨2⟩, oversubscriptionEligible := false }] }

/-- Contingent demand of the classes `first` and `second`, in this order. -/
def fencedSnapshots (first second : UInt64) : Snapshots :=
  let demand (id : UInt64) : DemandRecord :=
    { admission := ⟨id⟩, resource := ⟨1⟩, pool := ⟨1⟩, serviceClass := ⟨id⟩, kind := .contingent
      committedCapacity := 10, generation := ⟨1⟩ }
  { sampleSnapshots 100 0 with
    adm := { (sampleSnapshots 100 0).adm with records := [demand first, demand second] } }

theorem fencedSnapshots_accepted {first second : UInt64} (h : first = 1 ∧ second = 2 ∨ first = 2 ∧ second = 1) :
    (fencedSnapshots first second).Accepted := by
  rcases h with ⟨rfl, rfl⟩ | ⟨rfl, rfl⟩
  · exact ⟨by decide +kernel, by decide +kernel, by decide +kernel⟩
  · exact ⟨by decide +kernel, by decide +kernel, by decide +kernel⟩

theorem fencedSnapshots_rearranged {first second : UInt64} :
    (fencedSnapshots first second).Rearranged (fencedSnapshots second first) :=
  ⟨⟨.refl _, rfl⟩, ⟨.refl _, rfl⟩, ⟨.swap _ _ _, rfl⟩⟩

/-- The result of the evaluation, in either order. -/
def fencedResult (first second : UInt64) : EvaluationResult :=
  evaluateDomain .listed fencedPolicy (.rebuild fencedPolicy) sampleDomain sampleExpectation
    (fencedSnapshots first second).evidence 0

theorem fencedPolicy_valid : (validatePolicy fencedPolicy).isOk = true := by decide +kernel

theorem sampleDomain_mem_fenced : sampleDomain ∈ fencedPolicy.domains := List.mem_cons_self

theorem fencedResult_inputDigest :
    (fencedResult 1 2).authority.inputDigest = (fencedResult 2 1).authority.inputDigest := by
  have hpi := validatePolicy_installable fencedPolicy_valid
  have hdi := hpi.domains _ sampleDomain_mem_fenced
  have hmild : (fencedResult 1 2).outcome.severity < 5 := by decide +kernel
  have hmild' : (fencedResult 2 1).outcome.severity < 5 := by decide +kernel
  have hreach : Reaches .u64 fencedPolicy sampleDomain sampleExpectation (fencedSnapshots 1 2) 0 :=
    reaches_of_mild hpi hdi hmild
  have hreach' : Reaches .u64 fencedPolicy sampleDomain sampleExpectation (fencedSnapshots 2 1) 0 :=
    reaches_of_mild hpi hdi hmild'
  have hvalid := (fencedSnapshots_accepted (.inl ⟨rfl, rfl⟩)).valid
  unfold fencedResult
  rw [evaluate_inputDigest hpi hdi hreach, evaluate_inputDigest hpi hdi hreach']
  exact (inputDigest_perm fencedSnapshots_rearranged hvalid).symm

/-- Both orders are hashed the same way. -/
theorem fencedResult_stream : resultStream (fencedResult 1 2) = resultStream (fencedResult 2 1) := by
  unfold resultStream
  rw [fencedResult_inputDigest]
  congr 1

theorem fencedResult_digest (first second : UInt64) :
    (fencedResult first second).resultDigest = sha256 (resultStream (fencedResult first second)) := by
  have hcoherent : (fencedResult first second).Coherent fencedPolicy sampleDomain.members.length :=
    evaluate_coherent (validatePolicy_warn_pos fencedPolicy_valid)
  rw [hcoherent.digest, evaluationResultDigest_eq]

theorem fencedResult_requests :
    (fencedResult 1 2).intents.map (·.request) ≠ (fencedResult 2 1).intents.map (·.request) := by
  decide +kernel

theorem fenced_apart : HashesApart .listed .listed fencedPolicy sampleDomain sampleExpectation 0
    (fencedSnapshots 1 2).evidence (fencedSnapshots 2 1).evidence := by
  refine ⟨fun _ => fencedResult_stream, fun s s' hs hs' => ?_⟩
  rw [← Snapshots.evidence_inj hs, ← Snapshots.evidence_inj hs']
  exact inputsApart_of_rearranged fencedSnapshots_rearranged (fencedSnapshots_accepted (.inl ⟨rfl, rfl⟩))
    (fencedSnapshots_accepted (.inr ⟨rfl, rfl⟩))

/-- The evidence of two ineligible classes is ambiguous. -/
theorem digest_binds_sample :
    Ambiguous fencedPolicy sampleDomain sampleExpectation (fencedSnapshots 1 2).evidence 0 := by
  have haccepted : (fencedSnapshots 1 2).Accepted := fencedSnapshots_accepted (.inl ⟨rfl, rfl⟩)
  have haccepted' : (fencedSnapshots 2 1).Accepted := fencedSnapshots_accepted (.inr ⟨rfl, rfl⟩)
  have hdigest : (fencedResult 1 2).resultDigest = (fencedResult 2 1).resultDigest := by
    rw [fencedResult_digest, fencedResult_digest, fencedResult_stream]
  exact Classical.byContradiction fun hn => fencedResult_requests
    ((digest_binds_iff fencedPolicy_valid sampleDomain_mem_fenced haccepted.validated).mpr hn .listed .listed
      (fencedSnapshots 2 1).evidence haccepted'.validated fenced_apart hdigest).2.2.2

/-- Two records in two orders: one digest, and an intent about the one class or
the other. -/
theorem digest_not_always_binds :
    ¬ ∀ (order order' : MapOrder) (policy : OversubscriptionPolicy) (domain : DomainConfig)
        (expectation : AuthorityExpectation) (evidence evidence' : DomainEvidence) (tick : UInt64),
      (validatePolicy policy).isOk = true → domain ∈ policy.domains → evidence.Validated →
      evidence'.Validated →
      HashesApart order order' policy domain expectation tick evidence evidence' →
      let r := evaluateDomain order policy (.rebuild policy) domain expectation evidence tick
      let r' := evaluateDomain order' policy (.rebuild policy) domain expectation evidence' tick
      r.resultDigest = r'.resultDigest →
        r.outcome = r'.outcome ∧ r.reason = r'.reason ∧ r.accounting = r'.accounting ∧
          r.intents.map (·.request) = r'.intents.map (·.request) := by
  intro h
  have haccepted : (fencedSnapshots 1 2).Accepted := fencedSnapshots_accepted (.inl ⟨rfl, rfl⟩)
  have haccepted' : (fencedSnapshots 2 1).Accepted := fencedSnapshots_accepted (.inr ⟨rfl, rfl⟩)
  have hdigest : (fencedResult 1 2).resultDigest = (fencedResult 2 1).resultDigest := by
    rw [fencedResult_digest, fencedResult_digest, fencedResult_stream]
  exact fencedResult_requests (h .listed .listed fencedPolicy sampleDomain sampleExpectation
    (fencedSnapshots 1 2).evidence (fencedSnapshots 2 1).evidence 0 fencedPolicy_valid sampleDomain_mem_fenced
    haccepted.validated haccepted'.validated fenced_apart hdigest).2.2.2

end Oversub
