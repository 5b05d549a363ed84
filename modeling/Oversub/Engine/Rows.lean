import Oversub.Engine.Words

/-!
# Oversub.Engine.Rows

The amounts of the breakdown in 64-bit arithmetic, as those of the account
(`Oversub.Engine.Words`): every row of every result holds words
(`evaluate_rows`).
-/

namespace Oversub

open EarlyFold Tally

def ResourceAccum.amounts (ra : ResourceAccum) : List Nat :=
  [ra.effectiveUsable, ra.guarantees, ra.contingentCommitted, ra.contingentPending, ra.committed]

def ResourceAccounting.amounts (e : ResourceAccounting) : List Nat :=
  [e.physicalCapacity, e.usableCapacity, e.effectiveUsableCapacity, e.guarantees, e.contingentCommitted,
    e.contingentPending, e.ceiling, e.contingentCeiling, e.contingentFree, e.overage, e.protectedHeadroom]

/-- The table of the members holds words. -/
def WordTable (l : List ResourceAccum) : Prop := ∀ ra ∈ l, Words ra.amounts

section

variable {order : MapOrder} {policy : OversubscriptionPolicy} {index : PolicyIndex} {domain : DomainConfig}
  {expectation : AuthorityExpectation} {evidence : DomainEvidence} {sn : Snapshots} {tick : UInt64}
  {acc : DomainAccounting} {resources : List ResourceAccum} {ra : ResourceAccum} {id : ResourceId}
  {n : Nat}

/-- A computation that returns `Q`, whatever it stops with. -/
abbrev Returning {α : Type} (Q : α → Prop) (x : Except Refusal α) : Prop := Ensures (fun _ => True) Q x

theorem words_fresh {rc : ResourceCapacity} (hn : n < 2 ^ 64) :
    Words (ResourceAccum.amounts { capacity := rc, effectiveUsable := n }) := by
  simp only [Words, ResourceAccum.amounts, List.forall_mem_cons, List.not_mem_nil, false_imp_iff, implies_true,
    and_true]
  exact ⟨hn, Nat.two_pow_pos 64, Nat.two_pow_pos 64, Nat.two_pow_pos 64, Nat.two_pow_pos 64⟩

theorem WordTable.concat (h : WordTable resources) (hra : Words ra.amounts) : WordTable (resources ++ [ra]) :=
  List.forall_mem_append.mpr ⟨h, List.forall_mem_singleton.mpr hra⟩

theorem WordTable.find (h : WordTable resources) (hra : findResource resources id = some ra) :
    Words ra.amounts := h ra (List.mem_of_find?_eq_some hra)

theorem WordTable.setResource (h : WordTable resources) (hra : Words ra.amounts) :
    WordTable (setResource resources id ra) := by
  have hmodify : ∀ (l : List ResourceAccum) (i : Nat), WordTable l → WordTable (l.modify i fun _ => ra) := by
    intro l
    induction l with
    | nil => exact fun i hl => by rwa [List.modify_nil]
    | cons e l ih =>
        intro i hl
        obtain ⟨he, hl⟩ := List.forall_mem_cons.mp hl
        cases i with
        | zero => exact List.forall_mem_cons.mpr ⟨hra, hl⟩
        | succ i => exact List.forall_mem_cons.mpr ⟨he, ih i hl⟩
  exact hmodify _ _ h

/-! ## Gathering -/

theorem memberStep_rows {s : MemberState} {m : ResourceId} (h : WordTable s.resources) :
    Returning (fun s => WordTable s.resources) (memberStep .u64 domain sn.cap s m) := by
  refine orRefuse_bind_keeps trivial fun rc => require_bind_keeps trivial <| require_bind_keeps trivial ?_
  have hzero : WordTable (s.resources ++ [{ capacity := rc }]) := h.concat (words_fresh (Nat.two_pow_pos 64))
  cases rc.health with
  | healthy => exact h.concat (words_fresh rc.usableCapacity.toNat_lt)
  | degraded =>
      exact orRefuse_bind_result trivial fun _ husable => h.concat (words_fresh (word_mulDivFloor husable))
  | failed | unknown | unnamed _ _ => exact hzero

theorem guaranteeStep_rows {s : GuaranteeState} {g : Guarantee} (h : WordTable s.resources) :
    Returning (fun s => WordTable s.resources) (guaranteeStep .u64 index domain s g) := by
  refine require_bind_keeps trivial ?_
  dsimp only
  cases hra : findResource s.resources g.resource with
  | none => exact h
  | some ra =>
      have hwords := h.find hra
      refine require_bind_keeps trivial <| require_bind_keeps trivial <| require_bind_keeps trivial <|
        orRefuse_bind_result trivial fun total htotal => orRefuse_bind_keeps trivial fun _ => ?_
      exact h.setResource (hwords.set (i := 1) (word_addChecked htotal) rfl)

theorem contingentDemand_rows {cls : ServiceClassRef} {s : DemandState} {r : DemandRecord}
    (h : WordTable s.resources) (hra : Words ra.amounts) :
    Returning (fun s => WordTable s.resources) (contingentDemand .u64 cls ra s r) := by
  unfold contingentDemand
  dsimp only
  split
  · exact h
  refine orRefuse_bind_result trivial fun total htotal => orRefuse_bind_keeps trivial fun _ =>
    orRefuse_bind_result trivial fun waiting hwaiting => orRefuse_bind_keeps trivial fun _ => ?_
  have hset := (hra.set (i := 2) (word_addChecked htotal) rfl).set (i := 3) (word_addChecked hwaiting) rfl
  have hafter : WordTable (setResource s.resources r.resource
      { ra with contingentCommitted := total, contingentPending := waiting }) := h.setResource hset
  split
  · exact orRefuse_bind_keeps trivial fun _ => orRefuse_bind_keeps trivial fun _ => hafter
  · exact orRefuse_bind_keeps trivial fun _ => hafter

theorem demandStep_rows {s : DemandState} {r : DemandRecord} (h : WordTable s.resources) :
    Returning (fun s => WordTable s.resources) (demandStep .u64 index domain s r) := by
  refine require_bind_keeps trivial ?_
  dsimp only
  cases hra : findResource s.resources r.resource with
  | none => exact h
  | some ra =>
      refine require_bind_keeps trivial <| orRefuse_bind_keeps trivial fun _ => ?_
      cases r.kind with
      | guaranteed =>
          exact orRefuse_bind_keeps trivial fun _ => orRefuse_bind_keeps trivial fun _ => h
      | contingent => exact contingentDemand_rows h (h.find hra)
      | burst => exact contingentDemand_rows h (h.find hra)
      | unknown => trivial
      | unnamed _ _ => exact h

theorem totalsStep_rows {s : TotalsState} (h : WordTable s.resources) (hra : Words ra.amounts) :
    WordTable (totalsStep .u64 s ra).resources := by
  have hcontingent : ra.contingentCommitted < 2 ^ 64 := hra _ (by simp [ResourceAccum.amounts])
  exact h.concat (hra.set (i := 2) (word_getD (fun _ => word_addChecked) hcontingent) rfl)

theorem gatherTotals_rows (h : WordTable resources) :
    Returning (fun s => WordTable s.resources) (gatherTotals .u64 policy.limits acc resources) := by
  have hfold : ∀ (l : List ResourceAccum) (s : TotalsState), WordTable l → WordTable s.resources →
      WordTable (l.foldl (totalsStep .u64) s).resources := by
    intro l
    induction l with
    | nil => exact fun _ _ hs => hs
    | cons ra l ih =>
        intro s hl hs
        obtain ⟨hra, hl⟩ := List.forall_mem_cons.mp hl
        exact ih _ hl (totalsStep_rows hs hra)
  exact require_bind_keeps trivial (hfold _ _ h (List.forall_mem_nil _))

theorem gatherEvidence_rows {authority : AuthorityVector} {s : MemberState} (h : WordTable s.resources) :
    Returning (fun g => WordTable g.resources) (gatherEvidence .u64 order policy index domain sn authority s) := by
  have hguarantees : Returning (fun s => WordTable s.resources) (gatherGuarantees .u64 index domain sn.res s) :=
    foldlM_ensures (fun _ _ hs => guaranteeStep_rows hs) _ h
  refine hguarantees.bind fun gs hgs => ?_
  have htotal : Returning (fun _ => True) (guaranteesTotal .u64 gs) :=
    foldlM_ensures (fun _ _ _ => orRefuse_keeps trivial) _ trivial
  have hdemand {acc : DomainAccounting} : Returning (fun s => WordTable s.resources)
      (gatherDemand .u64 index domain sn.adm acc gs.resources) :=
    foldlM_ensures (fun _ _ hs => demandStep_rows hs) _ hgs
  exact htotal.bind fun _ _ => hdemand.bind fun _ hd => (gatherTotals_rows hd).bind fun _ ht => ht

theorem gatherMembers_rows :
    Returning (fun s => WordTable s.resources) (gatherMembers .u64 domain sn.cap acc) :=
  require_bind_keeps trivial <| foldlM_ensures (fun _ _ hs => memberStep_rows hs) _ (List.forall_mem_nil _)

/-! ## The breakdown -/

/-- Every row of the breakdown holds words. -/
def EvaluationResult.Rows (r : EvaluationResult) : Prop := ∀ e ∈ r.resources, Words e.amounts

theorem resourceAccounting_words {ratio : Ratio} {binding : Constraint} (h : Words ra.amounts) :
    Words (resourceAccounting .u64 ratio binding ra).amounts := by
  have hceiling : (resourceCeiling .u64 ratio ra).getD 0 < 2 ^ 64 :=
    word_getD (fun _ => word_mulDivFloor) (Nat.two_pow_pos 64)
  have hphysical := ra.capacity.physicalCapacity.toNat_lt
  have husable := ra.capacity.usableCapacity.toNat_lt
  simp only [Words, ResourceAccum.amounts, ResourceAccounting.amounts, resourceAccounting, List.forall_mem_cons,
    List.not_mem_nil, false_imp_iff, implies_true, and_true] at h ⊢
  obtain ⟨heffective, hguarantees, hcontingent, hpending, hcommitted⟩ := h
  have hshare := (Nat.sub_le ((resourceCeiling .u64 ratio ra).getD 0) ra.guarantees).trans_lt hceiling
  exact ⟨hphysical, husable, heffective, hguarantees, hcontingent, hpending, hceiling, hshare,
    (Nat.sub_le _ _).trans_lt hshare, (Nat.sub_le _ _).trans_lt hcommitted, (Nat.sub_le _ _).trans_lt heffective⟩

theorem settle_rows {g : Gathered} (h : WordTable g.resources) :
    ∀ e ∈ (settle .u64 policy domain g).resources, Words e.amounts := by
  intro e he
  obtain ⟨ra, hra, rfl⟩ := List.mem_map.mp he
  exact resourceAccounting_words (h ra (List.mem_of_mem_take hra))

theorem gather_rows : Ensures (fun r => r.resources = []) (fun g => WordTable g.resources)
    (gather .u64 order policy index domain expectation evidence tick) := by
  have hstop {α : Type} {Q : α → Prop} {authority : AuthorityVector} {x : Except Refusal α} (h : Returning Q x) :
      Ensures (fun r : EvaluationResult => r.resources = []) Q (x.mapError (stop policy domain authority)) := by
    cases x with
    | error e => rfl
    | ok a => exact h
  have hbind : Returning (fun _ => True) (bindEvidence policy domain expectation evidence
      (initialAccounting .u64 domain)) := by
    cases bindEvidence policy domain expectation evidence (initialAccounting .u64 domain) <;> trivial
  have hunit {x : Except Refusal Unit} : Returning (fun _ => True) x := by cases x <;> trivial
  exact (hstop hbind).bind fun _ _ => (hstop hunit).bind fun _ _ => (hstop hunit).bind fun _ _ =>
    (hstop gatherMembers_rows).bind fun _ hm => hstop (gatherEvidence_rows hm)

/-- **Every row** of every result holds words. -/
theorem evaluate_rows : (evaluateDomain order policy index domain expectation evidence tick).Rows := by
  have hgather : Ensures (fun r : EvaluationResult => r.resources = []) (fun g => WordTable g.resources)
      (gather .u64 order policy index domain expectation evidence tick) := gather_rows
  unfold evaluateDomain evaluateDomainIn
  cases hg : gather .u64 order policy index domain expectation evidence tick with
  | error r =>
      rw [hg] at hgather
      intro e he
      rw [show r.resources = [] from hgather] at he
      cases he
  | ok g =>
      rw [hg] at hgather
      dsimp only
      unfold conclude
      dsimp only
      split
      · exact settle_rows hgather
      · exact settle_rows hgather

end

end Oversub
