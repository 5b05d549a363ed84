import Oversub.Runtime.Cancel
import Oversub.Runtime.Registrations

/-!
# Oversub.Runtime.Places

The table of domains over a run.  An entry is made for every domain a decision
is recorded for, covered by the policy or not, and none is ever removed.  So a
domain without an entry finds the table full only after evaluations of as many
other domains as the table holds; and then it does, covered or not.
-/

namespace Oversub

open Crash Files Trace

/-! ## The domains of a table -/

/-- Every domain of a state, in its table or in its history, satisfies `Q`, and
none has two entries in the table. -/
structure Named (Q : OversubscriptionDomainId → Prop) (s : DurableState) : Prop where
  nodup : (s.domains.map (·.domain)).Nodup
  domains : ∀ domain ∈ s.domains.map (·.domain), Q domain
  audit : ∀ r ∈ s.audit, Q r.domain

section

variable {Q : OversubscriptionDomainId → Prop} {s s' b : DurableState} {rs : List AuditRecord}
  {g g' : Governor} {options : StoreOptions}

/-- Only the domains of the table and the history count. -/
theorem Named.congr (h : Named Q s) (hkeys : s'.domains.map (·.domain) = s.domains.map (·.domain))
    (haudit : s'.audit = s.audit) : Named Q s' :=
  ⟨hkeys ▸ h.nodup, hkeys ▸ h.domains, haudit ▸ h.audit⟩

/-- A replay makes an entry for no domain but that of a record. -/
theorem named_replayRecord {r : Replay} {record : AuditRecord} (h : Named Q r.state)
    (hrecord : Q record.domain) : Named Q (replayRecord r record).state := by
  have hreplayed {domains : List DomainRuntimeState} (hnodup : (domains.map (·.domain)).Nodup)
      (hdomains : ∀ domain ∈ domains.map (·.domain), Q domain) :
      Named Q ({ r.state with domains }.replayed record) := by
    have hkeys : (DurableState.replayed { r.state with domains } record).domains.map (·.domain) =
        domains.map (·.domain) := Table.map_key_modify fun _ hd => hd
    exact ⟨hkeys ▸ hnodup, hkeys ▸ hdomains, h.audit⟩
  unfold replayRecord
  dsimp only
  split
  · exact h
  · split
    · exact hreplayed h.nodup h.domains
    next hnone =>
      split
      · exact h
      · rw [Table.get_eq_none] at hnone
        refine hreplayed ?_ ?_
        · rw [List.map_append, List.map_singleton]
          exact List.Nodup.append h.nodup (List.nodup_singleton _)
            (List.disjoint_singleton.mpr hnone)
        · rw [List.map_append, List.forall_mem_append]
          exact ⟨h.domains, List.forall_mem_singleton.mpr hrecord⟩

theorem named_foldl_replayRecord (rs : List AuditRecord) (r : Replay) (h : Named Q r.state)
    (hrs : ∀ record ∈ rs, Q record.domain) : Named Q (rs.foldl replayRecord r).state := by
  induction rs generalizing r with
  | nil => exact h
  | cons record rs ih =>
      obtain ⟨hrecord, hrest⟩ := List.forall_mem_cons.mp hrs
      rw [List.foldl_cons]
      exact ih _ (named_replayRecord h hrecord) hrest

/-- What is loaded from a directory. -/
theorem named_reopened (h : Named Q b) (hrs : ∀ record ∈ rs, Q record.domain) :
    Named Q (b.reopened options rs) := by
  have hmerged : ∀ r ∈ mergeAudit options b.audit rs, Q r.domain := fun r hr =>
    (List.mem_append.mp (mergeAudit_subset hr)).elim (h.audit r) (hrs r)
  have hrecovered : Named Q (recoverState options b rs).1 := by
    unfold recoverState
    dsimp only
    split
    · exact h.congr rfl rfl
    · have hreplayed := named_foldl_replayRecord rs
        { state := { b with audit := mergeAudit options b.audit rs } } ⟨h.nodup, h.domains, hmerged⟩ hrs
      exact hreplayed.congr rfl rfl
  exact hrecovered.congr rfl rfl

/-- No call but an evaluation changes which domains have entries. -/
theorem Governor.Effect.keys_eq {c : Command} {reply : Reply} (h : Governor.Effect g c reply g')
    (hc : c.opens = false) (hquiet : c.journals = false) :
    g'.state.domains.map (·.domain) = g.state.domains.map (·.domain) := by
  have hsame {x : Governor} (hcore : g'.core = x.core) :
      g'.state.domains.map (·.domain) = x.state.domains.map (·.domain) :=
    Governor.core_congr (·.state.domains.map (·.domain)) (fun _ => rfl) hcore
  cases h with
  | kept _ hcore => exact hsame hcore
  | opened => cases hc
  | stopped _ hcore => exact (hsame hcore).trans rfl
  | installed _ _ hcore => exact (hsame hcore).trans rfl
  | advanced _ hcore =>
      refine (hsame hcore).trans ?_
      rw [Governor.withEpoch, List.map_map]
      rfl
  | registered _ hcore => exact (hsame hcore).trans rfl
  | adopted hcore => exact (hsame hcore).trans rfl
  | ingested _ h =>
      exact (Governor.rest_congr (·.state.domains.map (·.domain)) (fun _ => rfl) h.rest :)
  | evaluated h => cases hquiet

/-- A decision makes an entry for its domain, where it has none. -/
theorem Governor.keys_withRuling {domain : OversubscriptionDomainId} {r : Ruling}
    (hr : r.working.domain = domain) : (g.withRuling domain r).state.domains.map (·.domain) =
      if (g.runtime domain).isSome then g.state.domains.map (·.domain)
      else g.state.domains.map (·.domain) ++ [domain] := by
  unfold withRuling
  cases hfound : g.runtime domain with
  | none =>
      simp [hr]
  | some previous =>
      dsimp only
      rw [if_pos Option.isSome_some]
      exact Table.map_key_modify fun _ _ => hr

theorem Named.recorded {domain : OversubscriptionDomainId} {r : Ruling} (h : Named Q g.state)
    (hr : r.working.domain = domain) (hrecord : r.record.domain = domain) (hdomain : Q domain) :
    Named Q ((g.journaled r.record).withRuling domain r).state := by
  have hkeys := Governor.keys_withRuling (g := g.journaled r.record) hr
  have haudit : ∀ record ∈ ((g.journaled r.record).withRuling domain r).state.audit, Q record.domain := by
    intro record hmem
    have hold : record ∈ g.state.audit ++ [r.record] := List.mem_of_mem_drop hmem
    rcases List.mem_append.mp hold with hold | hnew
    · exact h.audit record hold
    · rw [List.mem_singleton.mp hnew, hrecord]
      exact hdomain
  cases hfound : g.runtime domain with
  | some previous =>
      have hsome : ((g.journaled r.record).runtime domain).isSome = true := by
        rw [show (g.journaled r.record).runtime domain = some previous from hfound]
        rfl
      rw [if_pos hsome] at hkeys
      exact ⟨hkeys ▸ h.nodup, hkeys ▸ h.domains, haudit⟩
  | none =>
      have hnone : ¬ ((g.journaled r.record).runtime domain).isSome = true := by
        rw [show (g.journaled r.record).runtime domain = none from hfound]
        exact Bool.false_ne_true
      have hnew : domain ∉ g.state.domains.map (·.domain) := Table.get_eq_none.mp hfound
      rw [if_neg hnone] at hkeys
      refine ⟨?_, ?_, haudit⟩
      · rw [hkeys]
        exact List.Nodup.append h.nodup (List.nodup_singleton _) (List.disjoint_singleton.mpr hnew)
      · rw [hkeys, List.forall_mem_append]
        exact ⟨h.domains, List.forall_mem_singleton.mpr hdomain⟩

end

/-! ## The table over a run -/

/-- The domains of a directory. -/
structure NamedOnFile (Q : OversubscriptionDomainId → Prop) (b : DurableState) (rs : List AuditRecord) :
    Prop where
  state : Named Q b
  journal : ∀ r ∈ rs, Q r.domain

/-- And those of the runtime on it. -/
structure NamedLive (Q : OversubscriptionDomainId → Prop) (b : DurableState) (rs : List AuditRecord)
    (g : Governor) : Prop where
  onFile : NamedOnFile Q b rs
  runtime : Named Q g.state

/-- An evaluation names its domain. -/
def Step.Evaluates (t : Step) (domain : OversubscriptionDomainId) : Prop :=
  ∃ order wall request, t.command = .evaluate order wall request ∧ request.domain = domain

section

variable {Q : OversubscriptionDomainId → Prop} {b : DurableState} {rs : List AuditRecord} {g : Governor}

theorem NamedOnFile.readable {options : StoreOptions} (h : NamedOnFile Q b rs) :
    NamedOnFile Q b (readable options 0 rs) :=
  ⟨h.state, fun r hr => h.journal r <| readable_prefix.subset hr⟩

theorem NamedLive.saved (h : NamedLive Q b rs g) : NamedLive Q g.state rs g :=
  ⟨⟨h.runtime, h.onFile.journal⟩, h.runtime⟩

/-- A runtime that is opened on the directory. -/
theorem NamedOnFile.reopened {options : GovernorOptions} {o : StoreOptions} (h : NamedOnFile Q b rs)
    (hstarts : Governor.Starts options (b.reopened o rs) g) : NamedLive Q g.state rs g := by
  have hdomains : g.state.domains = (b.reopened o rs).domains := (congrArg (·.domains) hstarts.core :)
  exact NamedLive.saved ⟨h, (named_reopened h.state h.journal).congr (by rw [hdomains]) hstarts.audit⟩

/-- A journal that is compacted. -/
theorem NamedLive.compacted (h : NamedLive Q b rs g) : NamedLive Q b g.kept g.compacting := by
  have hwindow (r : AuditRecord) (hr : r ∈ g.window) : Q r.domain :=
    h.runtime.audit r (List.mem_of_mem_drop hr)
  have hkept (r : AuditRecord) (hr : r ∈ g.kept) : Q r.domain := hwindow r <| fitting_prefix.subset hr
  exact ⟨⟨h.onFile.state, hkept⟩, h.runtime.nodup, h.runtime.domains, hwindow⟩

theorem upkeep_named : Upkeep (fun t => ∀ domain, t.Evaluates domain → Q domain) (NamedOnFile Q)
    (NamedLive Q) where
  recovered _ _ h := h.readable
  loaded _ _ h hstarts _ _ := h.readable.reopened hstarts
  cold h := h.onFile
  called _ hc hquiet h hends _ _ _ :=
    ⟨h.onFile, h.runtime.congr (hends.effect.keys_eq hc hquiet) (hends.quiet hquiet).audit⟩
  settled _ hc hquiet h hends _ _ :=
    NamedLive.saved ⟨h.onFile,
      h.runtime.congr (hends.effect.keys_eq hc hquiet) (hends.quiet hquiet).audit⟩
  ticking h := ⟨h.onFile, h.runtime.congr rfl rfl⟩
  compacted _ _ h _ _ _ := h.compacted
  recorded hC hc h _ _ _ _ _ := by
    have hdomain := hC _ ⟨_, _, _, hc, rfl⟩
    refine ⟨⟨h.onFile.state, ?_⟩, h.runtime.recorded Governor.rule_working_domain rfl hdomain⟩
    rw [List.forall_mem_append]
    exact ⟨h.onFile.journal, List.forall_mem_singleton.mpr hdomain⟩
  unsaved h := ⟨h.onFile, h.runtime.congr rfl rfl⟩
  saved h := NamedLive.saved ⟨h.onFile, h.runtime.congr rfl rfl⟩

theorem founds_named : Founds (fun t => ∀ domain, t.Evaluates domain → Q domain) (NamedLive Q) := by
  intro t options policy g _ _ hstarts _ _
  have hdomains : g.state.domains = [] := (congrArg (·.domains) hstarts.core :)
  have haudit : g.state.audit = [] := hstarts.audit
  have hnamed : Named Q g.state := by
    constructor
    · rw [hdomains]
      exact List.nodup_nil
    · rw [hdomains]
      exact List.forall_mem_nil _
    · rw [haudit]
      exact List.forall_mem_nil _
  exact ⟨⟨hnamed, List.forall_mem_nil _⟩, hnamed⟩

/-- **The table** of a runtime has entries for domains that evaluations named,
one for each at most. -/
theorem named_of_run {disk : Disk} {ts : List Step} {s : System} (hrun : SessionRun disk ts s)
    (hstate : disk .state = none) (hjournal : disk .journal = none) (hclean : ∀ t ∈ ts, t.Clean)
    (hopen : s.governor.isOpen = true) :
    Named (fun domain => ∃ t ∈ ts, Step.Evaluates t domain) s.governor.state := by
  have hnamed (t : Step) (ht : t ∈ ts) (domain : OversubscriptionDomainId) (h : t.Evaluates domain) :
      ∃ u ∈ ts, Step.Evaluates u domain := ⟨t, ht, h⟩
  rcases upkeep_named.run founds_named hrun hstate hjournal hnamed hclean with
    hunused | ⟨b, rs, hfiled⟩
  · rw [hunused.isOpen] at hopen
    cases hopen
  · exact (hfiled.warm hopen).2.runtime

end

/-! ## Refusals -/

namespace Governor

section

variable {g : Governor} {order : MapOrder} {wall : UInt64} {request : EvaluationRequest}

/-- A runtime that has no place for a domain. -/
structure Crowded (g : Governor) (domain : OversubscriptionDomainId) : Prop where
  absent : g.runtime domain = none
  full : kMaxDomainsState ≤ g.state.domains.length

theorem evaluate_of_crowded (haccepting : g.accepting = true) (hopen : g.isOpen = true)
    (hdomain : request.domain.valid = true) (h : g.Crowded request.domain) :
    g.evaluate order wall request = pure (.error tableFull, g.ticking request) := by
  have habsent : ((g.ticking request).runtime request.domain).isNone = true :=
    Option.isNone_iff_eq_none.mpr h.absent
  unfold evaluate evaluateLocked
  rw [if_neg (by simp [haccepting]), if_neg (by simp [hopen]), if_neg (by simp [hdomain])]
  dsimp only
  rw [if_neg Bool.false_ne_true]
  exact if_pos ⟨habsent, h.full⟩

/-- An evaluation is refused for the table where its domain has no place in it,
and nowhere else. -/
theorem yields_evaluate_tableFull : Yields (g.evaluate order wall request) fun r =>
    r.1 = .error tableFull → g.isOpen = true ∧ g.Crowded request.domain := by
  have hother {status : Status} {x : Governor} (h : status ≠ tableFull) :
      Yields (pure (Except.error status, x) : Storage (Except Status Decision × Governor))
        fun r => r.1 = .error tableFull → g.isOpen = true ∧ g.Crowded request.domain :=
    yields_pure fun hstatus => absurd (Except.error.inj hstatus) h
  unfold evaluate
  split
  · exact hother (by decide)
  unfold evaluateLocked
  split
  · exact hother (by decide)
  next hopen =>
  split
  · exact hother (by decide)
  dsimp only
  rw [if_neg Bool.false_ne_true]
  split
  next hfull =>
    exact yields_pure fun _ => ⟨open_of_not hopen, Option.isNone_iff_eq_none.mp hfull.1, hfull.2⟩
  · refine yields_appendJournal_storing.bind fun ⟨status, g₁⟩ h₁ => ?_
    dsimp only at h₁ ⊢
    split
    · exact hother h₁.2
    · refine yields_persistState_storing.bind fun ⟨status, g₂⟩ h₂ => ?_
      dsimp only at h₂ ⊢
      split
      · exact yields_pure nofun
      · exact hother h₂.2

end

end Governor

namespace Governor

def patientOptions : GovernorOptions := { sampleOptions with saveStateEveryDecisions := 8192 }

/-- A runtime that saves its decisions late. -/
def patient (policy : OversubscriptionPolicy) : Governor :=
  (({} : Governor).initialized patientOptions emptyDisk policy).live

def openPatient (policy : OversubscriptionPolicy) : System.Call := ⟨.openRuntime patientOptions policy, []⟩

/-- The evaluation of the `n`th domain that the sample policy does not cover. -/
def strangerRequest (n : Nat) : EvaluationRequest := ⟨⟨UInt64.ofNat (n + 2)⟩, 0⟩

def strangerCall (n : Nat) : System.Call := ⟨.evaluate .listed 0 (strangerRequest n), []⟩

/-- The runtime after the evaluations of `n` such domains. -/
def visited (policy : OversubscriptionPolicy) : Nat → Governor
  | 0 => patient policy
  | n + 1 => (visited policy n).decided .listed 0 (strangerRequest n)

section

variable {policy : OversubscriptionPolicy} {n : Nat}

theorem roomy_patient (hlength : (writePolicy (initialPolicy policy)).length ≤ 4096) :
    Roomy kMaxDomainsState (patient policy) := by
  refine roomy_live rfl nofun ?_ (by decide : 0 + kMaxDomainsState ≤ kMaxPublishers)
    (by decide : 0 + kMaxDomainsState ≤ kMaxDomainsState)
    (by decide : 0 + 510 * kMaxDomainsState ≤ patientOptions.maxJournalBytes.toNat)
    (by decide : 0 + kMaxDomainsState ≤ patientOptions.maxJournalRecords.toNat)
    (by decide : kMaxDomainsState < patientOptions.saveStateEveryDecisions.toNat)
  show 124 + (writePolicy (initialPolicy policy)).length + 0 + 0 + 0 + 0 + 600 * kMaxDomainsState ≤
    32 * 1024 * 1024
  have hbound : kMaxDomainsState = 4096 := rfl
  omega

theorem value_stranger (hn : n < kMaxDomainsState) : (strangerRequest n).domain.value.toNat = n + 2 := by
  have hbound : kMaxDomainsState = 4096 := rfl
  rw [strangerRequest, UInt64.toNat_ofNat']
  exact Nat.mod_eq_of_lt (by omega)

theorem valid_stranger (hn : n < kMaxDomainsState) : (strangerRequest n).domain.valid = true := by
  have hvalue := value_stranger hn
  rw [StrongId.valid, bne_iff_ne]
  intro hzero
  rw [hzero] at hvalue
  cases hvalue

theorem roomy_visited (hlength : (writePolicy (initialPolicy policy)).length ≤ 4096) {k : Nat}
    (hn : n + k = kMaxDomainsState) : Roomy k (visited policy n) := by
  induction n generalizing k with
  | zero =>
      rw [Nat.zero_add] at hn
      rw [hn]
      exact roomy_patient hlength
  | succ n ih =>
      have hroomy : Roomy (k + 1) (visited policy n) := ih (by omega)
      exact hroomy.decided (valid_stranger (by omega))

/-- Each of them takes a place. -/
theorem keys_visited (hn : n ≤ kMaxDomainsState) : (visited policy n).state.domains.map (·.domain) =
    (List.range n).map fun i => (strangerRequest i).domain := by
  induction n with
  | zero => rfl
  | succ n ih =>
      have hkeys := ih (by omega)
      have hnew : (visited policy n).runtime (strangerRequest n).domain = none := by
        rw [runtime, Table.get_eq_none, hkeys, List.mem_map]
        intro ⟨i, hi, hsame⟩
        rw [List.mem_range] at hi
        have hvalue : (strangerRequest i).domain.value.toNat = (strangerRequest n).domain.value.toNat := by
          rw [hsame]
        rw [value_stranger (by omega), value_stranger (by omega)] at hvalue
        omega
      have hdecided : (visited policy (n + 1)).state.domains.map (·.domain) =
          (visited policy n).state.domains.map (·.domain) ++ [(strangerRequest n).domain] := by
        have hstep := keys_withRuling (g := visited policy n)
          (r := (visited policy n).ruling .listed 0 (strangerRequest n)) rule_working_domain
        rw [hnew] at hstep
        exact hstep
      rw [hdecided, hkeys, List.range_succ, List.map_append, List.map_singleton]

/-- The sample domain has no place after them. -/
theorem crowded_visited : (visited policy kMaxDomainsState).Crowded ⟨1⟩ := by
  have hkeys := @keys_visited policy _ (Nat.le_refl _)
  constructor
  · rw [runtime, Table.get_eq_none, hkeys, List.mem_map]
    intro ⟨i, hi, hsame⟩
    rw [List.mem_range] at hi
    have hvalue := value_stranger hi
    rw [hsame] at hvalue
    have hone : (1 : UInt64).toNat = 1 := rfl
    have hdomain : (⟨1⟩ : OversubscriptionDomainId).value.toNat = 1 := hone
    omega
  · have hlength := congrArg List.length hkeys
    rw [List.length_map, List.length_map, List.length_range] at hlength
    rw [hlength]

theorem clean_of_completes {s : System} {c : Command} : Step.Clean ⟨s, ⟨c, []⟩⟩ := fun _ kept hkept => by
  cases hkept

theorem step_patient (hp : (validatePolicy (initialPolicy policy)).isOk = true)
    (hlength : (writePolicy (initialPolicy policy)).length ≤ 4096) :
    ∃ disk, (System.boot emptyDisk).step (openPatient policy) = ⟨patient policy, disk⟩ := by
  have hsavable := savable_initialized hlength
  have hs : Savable (({} : Governor).initialized patientOptions emptyDisk policy) :=
    ⟨hsavable.isOpen, hsavable.summaries, hsavable.fits⟩
  have haccepts : Accepts patientOptions :=
    ⟨by decide, by decide, by decide, by decide, by decide, by decide, by decide, by decide⟩
  exact ⟨_, System.step_of_perform (System.perform_of_completes (completes_replying
    (completes_open_fresh rfl haccepts rfl hp hs)))⟩

/-- A run that visits them. -/
theorem run_visited (hp : (validatePolicy (initialPolicy policy)).isOk = true)
    (hlength : (writePolicy (initialPolicy policy)).length ≤ 4096) (hn : n ≤ kMaxDomainsState) :
    ∃ ts disk, SessionRun emptyDisk ts ⟨visited policy n, disk⟩ ∧ ∀ t ∈ ts, Step.Clean t := by
  induction n with
  | zero =>
      obtain ⟨disk, hopened⟩ := step_patient hp hlength
      have hrun : SessionRun emptyDisk _ _ := Run.nil.snoc (openPatient policy)
      rw [hopened] at hrun
      exact ⟨_, disk, hrun, List.forall_mem_singleton.mpr clean_of_completes⟩
  | succ n ih =>
      obtain ⟨ts, disk, hrun, hclean⟩ := ih (by omega)
      have hroomy : Roomy (kMaxDomainsState - (n + 1) + 1) (visited policy n) :=
        roomy_visited hlength (by omega)
      have hanswers : Answers .listed 0 (visited policy n) (strangerRequest n) :=
        hroomy.answers (valid_stranger (by omega))
      obtain ⟨disk', hperform⟩ := perform_evaluate disk hanswers
      have hnext := hrun.snoc (strangerCall n)
      rw [strangerCall, System.step_of_perform hperform] at hnext
      exact ⟨_, disk', hnext,
        List.forall_mem_append.mpr ⟨hclean, List.forall_mem_singleton.mpr clean_of_completes⟩⟩

/-- The evaluation of a domain that has no place. -/
theorem perform_crowded {g : Governor} {disk : Disk} (haccepting : g.accepting = true)
    (hopen : g.isOpen = true) (h : g.Crowded ⟨1⟩) :
    System.perform ⟨g, disk⟩ evaluateCall =
      (some (.decided (.error tableFull)), ⟨g.ticking sampleRequest, disk⟩) := by
  have hevaluate : g.evaluate .listed 0 sampleRequest = pure (.error tableFull, g.ticking sampleRequest) :=
    evaluate_of_crowded haccepting hopen rfl h
  have hperform : evaluateCall.command.perform g = replying .decided (g.evaluate .listed 0 sampleRequest) := rfl
  rw [hevaluate] at hperform
  unfold System.perform
  rw [hperform]
  rfl

end

theorem policy_visited {policy : OversubscriptionPolicy} {n : Nat} :
    (visited policy n).state.policy = initialPolicy policy := by
  induction n with
  | zero => rfl
  | succ n ih => exact ih

/-- The sample session, after all those domains: its own is refused. -/
theorem run_crowded : ∃ g ts disk, SessionRun emptyDisk ts ⟨g, disk⟩ ∧ (∀ t ∈ ts, Step.Clean t) ∧
    g.isOpen = true ∧ g.state.policy = initialPolicy samplePolicy ∧
      System.perform ⟨g, disk⟩ evaluateCall =
        (some (.decided (.error tableFull)), ⟨g.ticking sampleRequest, disk⟩) := by
  obtain ⟨ts, disk, hrun, hclean⟩ := run_visited initialPolicy_sample sample_checks.1 (Nat.le_refl _)
  have hroomy : Roomy 0 (visited samplePolicy kMaxDomainsState) := roomy_visited sample_checks.1 (Nat.add_zero _)
  exact ⟨_, ts, disk, hrun, hclean, hroomy.isOpen, policy_visited,
    perform_crowded hroomy.accepting hroomy.isOpen crowded_visited⟩

end Governor

end Oversub
