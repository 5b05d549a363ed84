import Oversub.Runtime.Records

/-!
# Oversub.Runtime.Replayed

The replay of a session's audit records against the runtime state the session
left: they agree for the domains that were left fenced, and for no other.
-/

namespace Oversub

open Crash Files Trace

namespace Governor

/-! ## Fences after an evaluation -/

/-- An outcome that takes effect leaves the domain fenced. -/
def Fencing (before : DomainRuntimeState) (effective : Code Outcome) : Prop :=
  fenceWorthy effective = true ∨ before.fenced = true ∧ effective.isAuthoritative = false

/-- An evaluation leaves its domain fenced: an outcome that restricts it does,
or the sticky outcome that stays in its place. -/
def LeavesFenced (hysteresis : HysteresisPolicy) (result : EvaluationResult) (tick : UInt64)
    (before : DomainRuntimeState) : Prop :=
  if 2 ≤ result.outcome.severity then Fencing before result.outcome.code
  else
    result.outcome.severity < before.stickyOutcome.severity ∧ Fencing before before.stickyOutcome ∧
      ¬ (MayRelax hysteresis result tick before ∧
        hysteresis.deescalationConfirmations ≤ (before.confirmations + 1).toUInt64)

section

variable {hysteresis : HysteresisPolicy} {result : EvaluationResult} {tick : UInt64}
  {before : DomainRuntimeState} {effective : Code Outcome}

/-- What does not restrict a domain does not leave it fenced. -/
theorem not_fencing (h : effective.severity < 2) : ¬ Fencing before effective := by
  intro hfencing
  rcases hfencing with hworthy | ⟨_, hauthority⟩
  · simp only [fenceWorthy, Bool.or_eq_true, beq_iff_eq] at hworthy
    rcases hworthy with (rfl | rfl) | rfl
    all_goals
      rw [Code.severity_code] at h
      exact absurd h (by decide)
  · unfold Code.severity at h
    unfold Code.isAuthoritative at hauthority
    cases hout : effective.outcome with
    | none =>
        rw [hout] at h
        exact absurd h (by decide)
    | some o =>
        rw [hout, Option.map_some, Option.getD_some] at h hauthority
        rw [Outcome.isAuthoritative_iff.mpr (by omega)] at hauthority
        cases hauthority

/-- The fence that hysteresis leads to, and the sticky outcome it comes with. -/
theorem Weighs.fencing {r : DomainRuntimeState × Code Outcome}
    (h : Weighs hysteresis result tick before r) :
    (Fencing before r.2 ↔ LeavesFenced hysteresis result tick before) ∧
      (Fencing before r.2 → r.1.stickyOutcome = r.2) := by
  have hwithin : Outcome.withinPolicy.code.severity = 0 := rfl
  have hlimit : Outcome.atLimit.code.severity = 1 := rfl
  unfold LeavesFenced
  cases h with
  | restricted hraw =>
      rw [if_pos hraw]
      exact ⟨Iff.rfl, fun _ => rfl⟩
  | held hraw hsticky hrelax =>
      rw [if_neg (Nat.not_le.mpr hraw)]
      refine ⟨⟨fun hfencing => ⟨hsticky, hfencing, fun hboth => hrelax hboth.1⟩, fun h => h.2.1⟩, ?_⟩
      exact fun _ => rfl
  | limited confirmations hraw hsticky =>
      have hlow : ¬ 2 ≤ result.outcome.severity := by rw [hraw]; decide
      have heffective : (if hysteresis.escalationConfirmations ≤ confirmations.toUInt64 then
          Outcome.atLimit.code else Outcome.withinPolicy.code).severity < 2 := by
        split <;> omega
      rw [if_neg hlow]
      exact ⟨iff_of_false (not_fencing heffective) fun h => not_fencing hsticky h.2.1,
        fun h => absurd h (not_fencing heffective)⟩
  | clear hraw hsticky =>
      have hlow : ¬ 2 ≤ result.outcome.severity := by rw [hraw]; decide
      have heffective : result.outcome.code.severity < 2 := by rw [hraw]; decide
      rw [if_neg hlow]
      exact ⟨iff_of_false (not_fencing heffective) fun h => not_fencing (by omega) h.2.1,
        fun h => absurd h (not_fencing heffective)⟩
  | confirmed hsticky hrelax hcount =>
      have hlow : ¬ 2 ≤ result.outcome.severity := by rw [hrelax.raw]; decide
      have hbelow : result.outcome.severity < before.stickyOutcome.severity := by rwa [hrelax.raw]
      have hshort : ¬ hysteresis.deescalationConfirmations ≤ (before.confirmations + 1).toUInt64 :=
        UInt64.not_le.mpr hcount
      rw [if_neg hlow]
      refine ⟨⟨fun hfencing => ⟨hbelow, hfencing, fun hboth => hshort hboth.2⟩, fun h => h.2.1⟩, ?_⟩
      exact fun _ => rfl
  | relaxed _ hrelax hcount =>
      have hlow : ¬ 2 ≤ result.outcome.severity := by rw [hrelax.raw]; decide
      have heffective : result.outcome.code.severity < 2 := by rw [hrelax.raw]; decide
      rw [if_neg hlow]
      exact ⟨iff_of_false (not_fencing heffective) fun h => h.2.2 ⟨hrelax, hcount⟩,
        fun h => absurd h (not_fencing heffective)⟩

end

section

variable {g : Governor} {order : MapOrder} {domain : OversubscriptionDomainId} {tick wall : UInt64}

/-- What a record says of the runtime state that its decision left. -/
theorem ofRecord_rule : DomainRuntimeState.ofRecord (g.rule order domain tick wall).record =
    { (g.rule order domain tick wall).working with
      stickyOutcome := (g.weighed order domain tick).2
      fenceEpoch := g.state.epoch } :=
  congrArg (fun domain' => { (g.rule order domain tick wall).working with
      domain := domain'
      stickyOutcome := (g.weighed order domain tick).2
      fenceEpoch := g.state.epoch }) rule_working_domain.symm

theorem fenced_rule : (g.rule order domain tick wall).working.fenced = true ↔
    LeavesFenced g.state.policy.hysteresis (g.evaluationAt order domain tick) tick
      (g.workingFor domain (g.evaluationAt order domain tick)) := by
  have hweighs : Weighs g.state.policy.hysteresis (g.evaluationAt order domain tick) tick
    (g.workingFor domain (g.evaluationAt order domain tick)) (g.weighed order domain tick) :=
    weighs_applyHysteresis
  rw [← hweighs.fencing.1, Fencing]
  have hfenced : (g.rule order domain tick wall).working.fenced =
      (fenceWorthy (g.weighed order domain tick).2 ||
        ((g.workingFor domain (g.evaluationAt order domain tick)).fenced &&
          !(g.weighed order domain tick).2.isAuthoritative)) := rfl
  rw [hfenced, Bool.or_eq_true, Bool.and_eq_true, Bool.not_eq_true']

/-- A record is as good as its decision exactly when that leaves a fence. -/
theorem ofRecord_rule_iff (hepoch : g.state.epoch.valid = true) :
    DomainRuntimeState.ofRecord (g.rule order domain tick wall).record =
      (g.rule order domain tick wall).working ↔
        (g.rule order domain tick wall).working.fenced = true := by
  have hweighs : Weighs g.state.policy.hysteresis (g.evaluationAt order domain tick) tick
    (g.workingFor domain (g.evaluationAt order domain tick)) (g.weighed order domain tick) :=
    weighs_applyHysteresis
  have hkept : (g.rule order domain tick wall).working.fenceEpoch =
      if (g.rule order domain tick wall).working.fenced then g.state.epoch else {} := rfl
  rw [ofRecord_rule]
  constructor
  · intro h
    by_contra hfenced
    rw [if_neg hfenced] at hkept
    have hzero : g.state.epoch = {} := (congrArg (·.fenceEpoch) h).trans hkept
    rw [hzero] at hepoch
    cases hepoch
  · intro hfenced
    rw [if_pos hfenced] at hkept
    rw [fenced_rule, ← hweighs.fencing.1] at hfenced
    rw [← hkept, ← hweighs.fencing.2 hfenced]
    rfl

end

end Governor

/-! ## The replay of a session -/

theorem Step.ruling_eq_some {t : Step} {r : Ruling} (h : t.ruling = some r) :
    t.after.governor.isOpen = true ∧ ∃ order wall request, t.command = .evaluate order wall request ∧
      r = t.before.governor.rule order request.domain
        (max request.tick t.before.governor.clock.tick) wall := by
  unfold Step.ruling at h
  split at h
  next order wall request hcommand =>
    split at h
    next hissues =>
      exact ⟨hissues.1, order, wall, request, hcommand, (Option.some.inj h).symm⟩
    · cases h
  · cases h

/-- The evaluation leaves its domain fenced. -/
def Step.LeavesFenced (t : Step) : Prop :=
  ∃ order wall request, t.command = .evaluate order wall request ∧
    Governor.LeavesFenced t.before.governor.state.policy.hysteresis
      (t.before.governor.evaluationAt order request.domain
        (max request.tick t.before.governor.clock.tick))
      (max request.tick t.before.governor.clock.tick)
      (t.before.governor.workingFor request.domain (t.before.governor.evaluationAt order request.domain
        (max request.tick t.before.governor.clock.tick)))

/-- The last decision of every domain left it fenced. -/
def LastFenced (us : List Step) : Prop :=
  ∀ vs y ws, us = vs ++ y :: ws → ∀ r, y.ruling = some r →
    (∀ w ∈ ws, ∀ r', w.ruling = some r' → r'.record.domain ≠ r.record.domain) → y.LeavesFenced

theorem Step.leavesFenced_iff {t : Step} {r : Ruling} (h : t.ruling = some r) :
    t.LeavesFenced ↔ r.working.fenced = true := by
  obtain ⟨-, order, wall, request, hcommand, rfl⟩ := ruling_eq_some h
  rw [Governor.fenced_rule]
  constructor
  · intro ⟨order', wall', request', hcommand', hfenced⟩
    obtain ⟨rfl, rfl, rfl⟩ := Command.evaluate.inj (hcommand.symm.trans hcommand')
    exact hfenced
  · intro hfenced
    exact ⟨order, wall, request, hcommand, hfenced⟩

/-- A record is as good as the ruling it goes with exactly when that leaves a
fence. -/
theorem Step.ofRecord_ruling_iff {t : Step} {r : Ruling} (h : t.ruling = some r)
    (hepoch : t.before.governor.state.epoch.valid = true) :
    DomainRuntimeState.ofRecord r.record = r.working ↔ t.LeavesFenced := by
  rw [leavesFenced_iff h]
  obtain ⟨-, order, wall, request, _, rfl⟩ := ruling_eq_some h
  exact Governor.ofRecord_rule_iff hepoch

/-- The epoch stays in a session that does not change it. -/
theorem epoch_of_run {a s : System} {us : List Step} (hrun : Run System.step a us s)
    (hsession : ∀ u ∈ us, ¬ u.Reopens) (hepoch : ∀ u ∈ us, ¬ u.AdvancesEpoch)
    (hopen : s.governor.isOpen = true) : s.governor.state.epoch = a.governor.state.epoch := by
  induction hrun with
  | nil => rfl
  | snoc _ c ih =>
      rw [List.forall_mem_append, List.forall_mem_singleton] at hsession hepoch
      have hwas := (System.inSession hsession.2 hopen).wasOpen
      exact (epoch_step hsession.2 hopen hepoch.2).trans (ih hsession.1 hepoch.1 hwas)

/-- The runtime states of a session: those its last rulings left. -/
theorem Recorded.runtime {a g : Governor} {rs : List Ruling} (h : Recorded a g rs)
    (domain : OversubscriptionDomainId) : g.runtime domain =
      ((Ledger.last (·.record.domain) domain rs).map (·.working)).or (a.runtime domain) := by
  have hput : Table.get (·.domain) domain g.state.domains =
      ((Ledger.last (·.working.domain) domain rs).map (·.working)).or (a.runtime domain) := by
    rw [h.domains]
    exact Ledger.get_foldl_put (fun _ => rfl) _
  rw [Ledger.last_congr h.consistent] at hput
  exact hput

/-- The domains of a session that starts without any: those of its rulings. -/
theorem Recorded.mem_domains {a g : Governor} {rs : List Ruling} (h : Recorded a g rs)
    (hnone : a.state.domains = []) {domain : OversubscriptionDomainId} :
    domain ∈ g.state.domains.map (·.domain) ↔ ∃ r ∈ rs, r.record.domain = domain := by
  have hruntime : Table.get (·.domain) domain g.state.domains =
      (Ledger.last (·.record.domain) domain rs).map (·.working) := by
    have hget := h.runtime domain
    rwa [Governor.runtime, Governor.runtime, hnone, Table.get_nil, Option.or_none] at hget
  rw [← Table.get_isSome, hruntime, Option.isSome_map, Option.isSome_iff_ne_none, Ne, Ledger.last_eq_none]
  simp

/-- They are a home for an earlier state of the session and its records. -/
theorem Recorded.houses {a g₁ g : Governor} {rs₁ rs : List Ruling} {s : DurableState}
    {records : List AuditRecord} (h₁ : Recorded a g₁ rs₁) (h : Recorded a g rs)
    (hnone : a.state.domains = []) (hearlier : ∀ r ∈ rs₁, r ∈ rs)
    (hrecords : ∀ record ∈ records, record ∈ rs.map (·.record))
    (hbound : g.state.domains.length ≤ kMaxDomainsState) (hs : s.domains = g₁.state.domains) :
    Houses (g.state.domains.map (·.domain)) s records where
  nodup := by
    rw [hs, h₁.domains]
    exact Ledger.nodup_foldl_put (by rw [hnone]; exact List.nodup_nil)
  domains := by
    intro domain hdomain
    rw [hs] at hdomain
    obtain ⟨r, hr, rfl⟩ := (h₁.mem_domains hnone).mp hdomain
    exact (h.mem_domains hnone).mpr ⟨r, hearlier r hr, rfl⟩
  records := by
    intro record hrecord
    obtain ⟨r, hr, rfl⟩ := List.mem_map.mp (hrecords record hrecord)
    exact (h.mem_domains hnone).mpr ⟨r, hr, rfl⟩
  bound := (List.length_map _).trans_le hbound

/-- The runtime a first open leaves on a directory without a state file. -/
theorem fresh_of_reopens {t : Step} (h : t.Reopens) (hdisk : t.before.disk .state = none) :
    t.after.governor.state.domains = [] ∧ t.after.governor.state.decisionsIssued = 0 ∧
      t.after.governor.state.epoch = ⟨1⟩ := by
  obtain ⟨⟨options, policy, hcommand⟩, hclosed, hopen⟩ := h
  replace hopen : (t.before.step t.label).governor.isOpen = true := hopen
  show (t.before.step t.label).governor.state.domains = [] ∧
    (t.before.step t.label).governor.state.decisionsIssued = 0 ∧
      (t.before.step t.label).governor.state.epoch = ⟨1⟩
  obtain ⟨x, hboots, hend⟩ := System.open_cases hcommand
  rcases hend with hend | ⟨_, hboot⟩
  · rw [hend] at hopen ⊢
    generalize (t.before.step t.label).disk = disk' at hboots
    cases hboots with
    | refused hwas => exact absurd hwas (by simp [hclosed])
    | failed _ hg => exact absurd hopen (by simp [hg])
    | live _ hbooted hstarts =>
        have hstate := hstarts.core
        cases hbooted with
        | fresh =>
            exact ⟨(congrArg (·.domains) hstate).trans rfl,
              (congrArg (·.decisionsIssued) hstate).trans rfl, (congrArg (·.epoch) hstate).trans rfl⟩
        | loaded hloads =>
            obtain ⟨_, _, _, hfound, _⟩ := hloads.found
            rw [hdisk] at hfound
            cases hfound
  · rw [hboot] at hopen
    cases hopen

/-- The replay of a session that starts without decisions. -/
theorem replay_session {a s : System} {us : List Step} {s₀ : DurableState}
    (hus : Run System.step a us s) (hnone : a.governor.state.domains = [])
    (hzero : a.governor.state.decisionsIssued = 0) (hone : a.governor.state.epoch.valid = true)
    (hsession : ∀ u ∈ us, ¬ u.Reopens) (hepoch : ∀ u ∈ us, ¬ u.AdvancesEpoch)
    (hids : ∀ u ∈ us, ¬ u.ExhaustsIds) (hopen : s.governor.isOpen = true)
    (hdomains : s₀.domains = []) (hissued : s₀.decisionsIssued = 0) :
    ((∀ domain, Table.get (·.domain) domain (rebuildFromAudit s₀ (auditRecords us)).1.domains =
        s.governor.runtime domain) ∧
      (rebuildFromAudit s₀ (auditRecords us)).1.decisionsIssued = s.governor.state.decisionsIssued) ↔
      LastFenced us := by
  have hrecorded : Recorded a.governor s.governor (rulings us) :=
    recorded_of_run hus hsession hepoch hids hopen
  have hbounded : s.governor.state.domains.length ≤ kMaxDomainsState :=
    bounded_of_run hus hsession hopen (by rw [hnone]; exact Nat.zero_le _)
  have hrising : Rising 0 (auditRecords us) := by
    have hrising := hrecorded.rising
    rw [hzero] at hrising
    exact hrising
  have hruntime (domain : OversubscriptionDomainId) : s.governor.runtime domain =
      (Ledger.last (·.record.domain) domain (rulings us)).map (·.working) := by
    rw [hrecorded.runtime, Governor.runtime, hnone, Table.get_nil, Option.or_none]
  have hhouses : Houses (s.governor.state.domains.map (·.domain)) s₀ (auditRecords us) :=
    recorded_nil.houses hrecorded hnone (fun _ h => absurd h List.not_mem_nil) (fun _ h => h) hbounded
      (hdomains.trans hnone.symm)
  have hreplayed (domain : OversubscriptionDomainId) :
      Table.get (·.domain) domain (rebuildFromAudit s₀ (auditRecords us)).1.domains =
        (Ledger.last (·.record.domain) domain (rulings us)).map
          fun r => DomainRuntimeState.ofRecord r.record := by
    rw [rebuildFromAudit_eq hrising hhouses, get_foldl_applying, hdomains, Table.get_nil,
      Option.or_none, lastRecord, auditRecords, Ledger.last_map, Option.map_map]
    rfl
  have hcount : (rebuildFromAudit s₀ (auditRecords us)).1.decisionsIssued =
      s.governor.state.decisionsIssued := by
    have hstart : Rising s₀.decisionsIssued.toNat (auditRecords us) := by
      rw [hissued]
      exact hrising
    rw [rebuildFromAudit_eq hrising hhouses, decisionsIssued_foldl_applying hstart, hissued,
      hrecorded.issued, hzero]
    rfl
  have hvalid {vs ws : List Step} {y : Step} (hsplit : us = vs ++ y :: ws) {r : Ruling}
      (hr : y.ruling = some r) : y.before.governor.state.epoch.valid = true := by
    subst hsplit
    obtain ⟨hvs, -⟩ := hus.at_step
    have hwas : y.before.governor.isOpen = true :=
      (System.inSession (hsession y (by simp)) (Step.ruling_eq_some hr).1).wasOpen
    rwa [epoch_of_run hvs (fun u hu => hsession u (by simp [hu]))
      (fun u hu => hepoch u (by simp [hu])) hwas]
  simp only [hreplayed, hruntime, hcount, and_true]
  constructor
  · intro h vs y ws hsplit r hr hlast
    have hlast' : Ledger.last (·.record.domain) r.record.domain (rulings us) = some r :=
      Ledger.last_filterMap.mpr ⟨vs, y, ws, hsplit, hr, rfl, hlast⟩
    have hsame := h r.record.domain
    rw [hlast'] at hsame
    exact (Step.ofRecord_ruling_iff hr (hvalid hsplit hr)).mp (Option.some.inj hsame)
  · intro h domain
    cases hlast : Ledger.last (·.record.domain) domain (rulings us) with
    | none => rfl
    | some r =>
        obtain ⟨vs, y, ws, hsplit, hr, rfl, hrest⟩ := Ledger.last_filterMap.mp hlast
        exact congrArg some ((Step.ofRecord_ruling_iff hr (hvalid hsplit hr)).mpr
          (h vs y ws hsplit r hr hrest))

/-- **Replay equals live** in a session exactly when the last decision of
every domain left it fenced. -/
theorem replay_iff {disk : Disk} {ts us : List Step} {x : Step} {s : System} {s₀ : DurableState}
    (hrun : SessionRun disk (ts ++ x :: us) s) (hx : x.Reopens) (hfresh : x.before.disk .state = none)
    (hsession : ∀ u ∈ us, ¬ u.Reopens) (hepoch : ∀ u ∈ us, ¬ u.AdvancesEpoch)
    (hids : ∀ u ∈ us, ¬ u.ExhaustsIds) (hopen : s.governor.isOpen = true)
    (hdomains : s₀.domains = []) (hissued : s₀.decisionsIssued = 0) :
    ((∀ domain, Table.get (·.domain) domain (rebuildFromAudit s₀ (auditRecords us)).1.domains =
        s.governor.runtime domain) ∧
      (rebuildFromAudit s₀ (auditRecords us)).1.decisionsIssued = s.governor.state.decisionsIssued) ↔
      LastFenced us := by
  obtain ⟨-, hus⟩ := hrun.at_step
  replace hus : Run System.step x.after us s := hus
  obtain ⟨hnone, hzero, hone⟩ := fresh_of_reopens hx hfresh
  have hvalid : x.after.governor.state.epoch.valid = true := by
    rw [hone]
    rfl
  exact replay_session hus hnone hzero hvalid hsession hepoch hids hopen hdomains hissued

namespace Governor

/-! ## A decision without a fence -/

/-- A session of one decision, after its start. -/
def firstDecision : List Step :=
  Trace.play System.step ((System.boot emptyDisk).step (openCall samplePolicy)) [evaluateCall]

section

variable {g : Governor} {request : EvaluationRequest}

theorem ruling_eq : g.ruling .listed 0 request =
    g.rule .listed request.domain (max request.tick g.clock.tick) 0 := rule_congr rfl

/-- An evaluation that is answered records its ruling. -/
theorem ruling_of_answers (disk : Disk) (h : Answers .listed 0 g request) :
    Step.ruling ⟨⟨g, disk⟩, ⟨.evaluate .listed 0 request, []⟩⟩ = some (g.ruling .listed 0 request) := by
  obtain ⟨disk', hperform⟩ := perform_evaluate disk h
  have hafter : System.step ⟨g, disk⟩ ⟨.evaluate .listed 0 request, []⟩ =
      ⟨g.decided .listed 0 request, disk'⟩ := System.step_of_perform hperform
  have hissues : (g.decided .listed 0 request).isOpen = true ∧
      (g.decided .listed 0 request).state.decisionsIssued ≠ g.state.decisionsIssued :=
    ⟨h.isOpen, add_one_ne_self _⟩
  rw [ruling_eq]
  simp only [Step.ruling, Step.command, Step.after, hafter]
  exact if_pos hissues

end

theorem unseen_checks : unseen.fenced = false := by decide +kernel

/-- A runtime on an empty directory has decided nothing. -/
theorem state_started (policy : OversubscriptionPolicy) :
    (started policy).state.domains = [] ∧ (started policy).state.decisionsIssued = 0 ∧
      (started policy).state.epoch = ⟨1⟩ := ⟨rfl, rfl, rfl⟩

theorem firstDecision_quiet : ∀ u ∈ firstDecision, ¬ u.Reopens ∧ ¬ u.AdvancesEpoch ∧ ¬ u.ExhaustsIds := by
  intro u hu
  obtain ⟨disk, hopen⟩ := sample_started
  rw [firstDecision, hopen] at hu
  obtain rfl := List.mem_singleton.mp hu
  refine ⟨fun ⟨⟨_, _, hcommand⟩, _⟩ => ?_, fun ⟨⟨_, hcommand⟩, _⟩ => ?_, fun ⟨_, hmax⟩ => ?_⟩
  · cases hcommand
  · cases hcommand
  · have hzero : (started samplePolicy).state.decisionsIssued = UInt64.ofNat u64Max := hmax
    rw [(state_started samplePolicy).2.1] at hzero
    exact absurd hzero (by decide)

theorem sample_reopens : Step.Reopens ⟨System.boot emptyDisk, openCall samplePolicy⟩ := by
  obtain ⟨disk, hopen⟩ := sample_started
  have hroomy : Roomy 100 (started samplePolicy) := roomy_started sample_checks.1
  refine ⟨⟨sampleOptions, samplePolicy, rfl⟩, rfl, ?_⟩
  simp only [Step.after, hopen]
  exact hroomy.isOpen

/-- The runtime after its first decision. -/
def firstDecided : System :=
  [evaluateCall].foldl System.step ((System.boot emptyDisk).step (openCall samplePolicy))

theorem firstDecided_eq : ∃ disk,
    firstDecided = ⟨(started samplePolicy).decided .listed 0 sampleRequest, disk⟩ := by
  obtain ⟨disk₁, hopen⟩ := sample_started
  have hanswers : Answers .listed 0 (started samplePolicy) sampleRequest :=
    (roomy_started sample_checks.1).answers rfl
  obtain ⟨disk₂, hdecided⟩ := perform_evaluate disk₁ hanswers
  refine ⟨disk₂, ?_⟩
  rw [firstDecided, hopen, List.foldl_cons, List.foldl_nil, evaluateCall,
    System.step_of_perform hdecided]

theorem firstDecided_isOpen : firstDecided.governor.isOpen = true := by
  obtain ⟨disk, hdecided⟩ := firstDecided_eq
  have hroomy : Roomy 99 ((started samplePolicy).decided .listed 0 sampleRequest) :=
    (roomy_started sample_checks.1).decided rfl
  rw [hdecided]
  exact hroomy.isOpen

theorem firstDecision_run : SessionRun emptyDisk
    ([] ++ ⟨System.boot emptyDisk, openCall samplePolicy⟩ :: firstDecision) firstDecided := by
  have hrun : SessionRun emptyDisk
      (Trace.play System.step (System.boot emptyDisk) [] ++
        ⟨System.boot emptyDisk, openCall samplePolicy⟩ :: firstDecision) firstDecided :=
    Trace.run_play_at (openCall samplePolicy) [evaluateCall] rfl
  exact hrun

/-- The replay of a session with one decision. -/
theorem replay_sample :
    ((∀ domain, Table.get (·.domain) domain
          (rebuildFromAudit {} (auditRecords firstDecision)).1.domains =
        firstDecided.governor.runtime domain) ∧
      (rebuildFromAudit {} (auditRecords firstDecision)).1.decisionsIssued =
        firstDecided.governor.state.decisionsIssued) ↔
      LastFenced firstDecision :=
  replay_iff firstDecision_run sample_reopens rfl (fun u hu => (firstDecision_quiet u hu).1)
    (fun u hu => (firstDecision_quiet u hu).2.1) (fun u hu => (firstDecision_quiet u hu).2.2)
    firstDecided_isOpen rfl rfl

/-- A first decision without a fence is replayed with the epoch as its fence. -/
theorem replay_not_live : ¬ ∀ (disk : Disk) (ts us : List Step) (x : Step) (s : System)
    (s₀ : DurableState), SessionRun disk (ts ++ x :: us) s → x.Reopens →
      x.before.disk .state = none → (∀ u ∈ us, ¬ u.Reopens) → (∀ u ∈ us, ¬ u.AdvancesEpoch) →
      s.governor.isOpen = true → s₀.domains = [] → s₀.decisionsIssued = 0 →
      (∀ domain, Table.get (·.domain) domain (rebuildFromAudit s₀ (auditRecords us)).1.domains =
          s.governor.runtime domain) ∧
        (rebuildFromAudit s₀ (auditRecords us)).1.decisionsIssued =
          s.governor.state.decisionsIssued := by
  intro h
  have hequal := h emptyDisk [] firstDecision _ firstDecided {} firstDecision_run sample_reopens rfl
    (fun u hu => (firstDecision_quiet u hu).1) (fun u hu => (firstDecision_quiet u hu).2.1)
    firstDecided_isOpen rfl rfl
  obtain ⟨disk, hopen⟩ := sample_started
  obtain ⟨hdomains, hissued, hepoch⟩ := state_started samplePolicy
  have hstart : Run System.step ((System.boot emptyDisk).step (openCall samplePolicy)) firstDecision
    firstDecided := Trace.run_play _ _
  have hlast : LastFenced firstDecision := by
    refine (replay_session hstart ?_ ?_ ?_ (fun u hu => (firstDecision_quiet u hu).1)
      (fun u hu => (firstDecision_quiet u hu).2.1) (fun u hu => (firstDecision_quiet u hu).2.2)
      firstDecided_isOpen rfl rfl).mp hequal
    · rw [hopen, hdomains]
    · rw [hopen, hissued]
    · rw [hopen, hepoch]
      rfl
  have hanswers : Answers .listed 0 (started samplePolicy) sampleRequest :=
    (roomy_started sample_checks.1).answers rfl
  have hruling := ruling_of_answers disk hanswers
  rw [firstDecision, hopen] at hlast
  have hfenced := (Step.leavesFenced_iff hruling).mp
    (hlast [] _ [] rfl _ hruling fun _ hw => absurd hw List.not_mem_nil)
  have hunfenced : ((started samplePolicy).ruling .listed 0 sampleRequest).working.fenced = false :=
    unseen_checks
  rw [hunfenced] at hfenced
  cases hfenced

end Governor

end Oversub
