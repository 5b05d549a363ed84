import Oversub.Lib.Checkpoint
import Oversub.Runtime.Numbering

/-!
# Oversub.Runtime.Survival

What the runtime states of the domains survive.  The state file is a
checkpoint of the decisions up to some point and the journal a log of the
newest ones, and neither a crash nor a compaction lets them drift apart, as
long as a compaction keeps at least what is not saved.  So the runtime state of
a domain says after any number of restarts what its last decision left, and the
history has no gaps.
-/

namespace Oversub

open Crash Files Trace Ledger

/-! ## Views of runtime states -/

namespace DomainRuntimeState

/-- What a record tells of a runtime state: neither the sticky outcome nor the
epoch of its fence. -/
def told (d : DomainRuntimeState) : DomainRuntimeState := { d with stickyOutcome := {}, fenceEpoch := {} }

/-- What is left of a runtime state without its fence. -/
def unfenced (d : DomainRuntimeState) : DomainRuntimeState :=
  { d with stickyOutcome := {}, fenced := false, fenceReason := {}, fenceEpoch := {} }

end DomainRuntimeState

section

variable {α : Type}

/-- It depends on nothing but what a record tells. -/
def Telling (look : DomainRuntimeState → α) : Prop :=
  ∀ (d : DomainRuntimeState) sticky epoch, look { d with stickyOutcome := sticky, fenceEpoch := epoch } = look d

/-- It does not depend on the fence. -/
def Unfencing (look : DomainRuntimeState → α) : Prop := ∀ (d : DomainRuntimeState) reason epoch sticky,
  look { d with fenced := true, fenceReason := reason, fenceEpoch := epoch, stickyOutcome := sticky } = look d

/-- What the runtime state of a domain tells. -/
def DurableState.view (look : DomainRuntimeState → α) (s : DurableState) (domain : OversubscriptionDomainId) :
    Option α := (Table.get (·.domain) domain s.domains).map look

/-- What the last record of a domain tells. -/
def retold (look : DomainRuntimeState → α) (domain : OversubscriptionDomainId) (rs : List AuditRecord) :
    Option α := (lastRecord domain rs).map fun r => look (.ofRecord r)

variable {look : DomainRuntimeState → α} {domain : OversubscriptionDomainId} {g g' : Governor}
  {b : DurableState} {rs saved log : List AuditRecord} {r : AuditRecord}

theorem telling_told : Telling DomainRuntimeState.told := fun _ _ _ => rfl

theorem telling_unfenced : Telling DomainRuntimeState.unfenced := fun _ _ _ => rfl

theorem unfencing_unfenced : Unfencing DomainRuntimeState.unfenced := fun _ _ _ _ => rfl

theorem retold_snoc : retold look domain (rs ++ [r]) =
    if r.domain = domain then some (look (.ofRecord r)) else retold look domain rs := by
  rw [retold, lastRecord, last_snoc]
  split
  · rfl
  · rfl

/-- A replay of the log over the checkpoint. -/
theorem view_applied (h : Spans saved log rs) (hb : b.view look domain = retold look domain saved) :
    (log.foldl DurableState.applying b).view look domain = retold look domain rs := by
  have hlast : lastRecord domain rs = (lastRecord domain log).or (lastRecord domain saved) := h.last_eq
  rw [retold, hlast, DurableState.view, get_foldl_applying]
  cases lastRecord domain log with
  | some r => rfl
  | none =>
      rw [Option.map_none, Option.none_or, Option.none_or]
      exact hb

/-- An epoch fences the domains, and does nothing else to them. -/
theorem Governor.view_withEpoch {next : FabricEpoch} (hlook : Unfencing look) :
    (g.withEpoch next).state.view look domain = g.state.view look domain := by
  have hruntime : (g.withEpoch next).runtime domain = (g.runtime domain).map _ :=
    Table.get_map fun _ => rfl
  refine (congrArg (Option.map look) hruntime).trans ?_
  rw [Option.map_map]
  exact congrArg (fun f => Option.map f (g.runtime domain)) (funext fun d => hlook d _ _ _)

/-- No call but an evaluation changes what a runtime state tells, except that
an epoch fences it. -/
theorem Governor.Effect.view_eq {c : Command} {reply : Reply} (h : Governor.Effect g c reply g')
    (hc : c.opens = false) (hquiet : c.journals = false)
    (hfence : (∃ next, c = .advanceEpoch next) → Unfencing look) :
    g'.state.view look domain = g.state.view look domain := by
  have hsame {x : Governor} (hcore : g'.core = x.core) : g'.state.view look domain = x.state.view look domain :=
    Governor.core_congr (·.state.view look domain) (fun _ => rfl) hcore
  cases h with
  | kept _ hcore => exact hsame hcore
  | opened => cases hc
  | stopped _ hcore => exact (hsame hcore).trans rfl
  | installed _ _ hcore => exact (hsame hcore).trans rfl
  | advanced _ hcore => exact (hsame hcore).trans (Governor.view_withEpoch (hfence ⟨_, rfl⟩))
  | registered _ hcore => exact (hsame hcore).trans rfl
  | adopted hcore => exact (hsame hcore).trans rfl
  | ingested _ h => exact (Governor.rest_congr (·.state.view look domain) (fun _ => rfl) h.rest :)
  | evaluated h => cases hquiet

/-- A decision leaves what its record tells. -/
theorem Governor.view_withRuling {order : MapOrder} {tick wall : UInt64} {x : Governor}
    {named : OversubscriptionDomainId} (hlook : Telling look) :
    (g.withRuling named (x.rule order named tick wall)).state.view look domain =
      if named = domain then some (look (.ofRecord (x.rule order named tick wall).record))
      else g.state.view look domain := by
  by_cases hdomain : named = domain
  · subst hdomain
    have hruntime : Table.get (·.domain) named (g.withRuling named (x.rule order named tick wall)).state.domains =
        some (x.rule order named tick wall).working := Governor.runtime_withRuling Governor.rule_working_domain
    rw [if_pos rfl, DurableState.view, hruntime, Option.map_some, Governor.ofRecord_rule]
    exact congrArg some (hlook _ _ _).symm
  · have hruntime : Table.get (·.domain) domain (g.withRuling named (x.rule order named tick wall)).state.domains =
        Table.get (·.domain) domain g.state.domains :=
      Governor.runtime_withRuling_ne Governor.rule_working_domain (Ne.symm hdomain)
    rw [if_neg hdomain, DurableState.view, hruntime]
    rfl

end

/-! ## The history behind a directory -/

/-- All decisions that were ever recorded, and those of them that the state
file knows of. -/
structure Annals {α : Type} (look : DomainRuntimeState → α) (b : DurableState) (rs all saved : List AuditRecord) :
    Prop where
  counted : Counted AuditRecord.number all
  spans : Spans saved rs all
  last : rs.getLast? = all.getLast?
  history : b.audit <:+ saved
  views : ∀ domain, b.view look domain = retold look domain saved

/-- A runtime that knows of all decisions, and has counted those that are not
saved. -/
structure Following {α : Type} (look : DomainRuntimeState → α) (g : Governor) (all saved : List AuditRecord) :
    Prop where
  history : g.state.audit <:+ all
  views : ∀ domain, g.state.view look domain = retold look domain all
  unsaved : all.length ≤ saved.length + g.decisionsSinceSave.toNat
  fewer : g.decisionsSinceSave.toNat ≤ all.length
  kept : min (all.length - saved.length) g.options.maxAuditRecords.toNat ≤ g.state.audit.length

section

variable {α : Type} {look : DomainRuntimeState → α} {o : GovernorOptions} {m : Mark} {b : DurableState}
  {rs all saved : List AuditRecord} {g g' : Governor} {r : AuditRecord}

/-- Only these parts count. -/
theorem Following.congr (h : Following look g all saved) (haudit : g'.state.audit = g.state.audit)
    (hviews : ∀ domain, g'.state.view look domain = g.state.view look domain)
    (hsince : g'.decisionsSinceSave = g.decisionsSinceSave) (hoptions : g'.options = g.options) :
    Following look g' all saved where
  history := haudit ▸ h.history
  views domain := (hviews domain).trans (h.views domain)
  unsaved := hsince ▸ h.unsaved
  fewer := hsince ▸ h.fewer
  kept := by
    rw [haudit, hoptions]
    exact h.kept

/-- A runtime that saves itself. -/
theorem Annals.settled (ha : Annals look b rs all saved) (h : Following look g all saved)
    (haudit : g'.state.audit = g.state.audit)
    (hviews : ∀ domain, g'.state.view look domain = g.state.view look domain)
    (hsince : g'.decisionsSinceSave = g.decisionsSinceSave ∨ g'.decisionsSinceSave = 0) :
    Annals look g'.state rs all all ∧ Following look g' all all := by
  have hhistory : g'.state.audit <:+ all := haudit ▸ h.history
  have hall (domain : OversubscriptionDomainId) : g'.state.view look domain = retold look domain all :=
    (hviews domain).trans (h.views domain)
  refine ⟨⟨ha.counted, spans_saved ha.spans.back, ha.last, hhistory, hall⟩, hhistory, hall,
    Nat.le_add_right _ _, ?_, ?_⟩
  · rcases hsince with hsince | hsince
    · rw [hsince]
      exact h.fewer
    · rw [hsince]
      exact Nat.zero_le _
  · rw [Nat.sub_self, Nat.zero_min]
    exact Nat.zero_le _

/-- The history of a runtime that is opened. -/
theorem Annals.audit_reopened {options : StoreOptions} (h : Annals look b rs all saved) :
    (if rs = [] then b.audit else mergeAudit options b.audit rs) <:+ all := by
  split
  next hnil =>
    have hwhole := h.spans.whole
    rw [hnil, List.length_nil, Nat.add_zero] at hwhole
    rw [← h.spans.front.eq_of_length_le hwhole]
    exact h.history
  next hne =>
    obtain ⟨oldest, log, rfl⟩ := List.exists_cons_of_ne_nil hne
    have hfilter : b.audit.filter (·.id.value < oldest.id.value) =
        b.audit.filter (fun r => r.number < oldest.number) :=
      List.filter_congr fun r _ => decide_eq_decide.mpr UInt64.lt_iff_toNat_lt
    have hmerged := h.spans.merged h.counted h.history
    rw [← hfilter] at hmerged
    exact (List.drop_suffix _ _).trans hmerged

/-- A runtime that is opened on the directory. -/
theorem Annals.reopened (h : Annals look b rs all saved) (hn : Numbered o m b rs)
    (hstarts : Governor.Starts o (b.reopened o.storeOptions rs) g) (hg : g.Pristine) :
    Annals look g.state rs all all ∧ Following look g all all := by
  obtain ⟨keys, hchronicle, hhouses⟩ := hn.journal
  have hdomains : g.state.domains = (rs.foldl DurableState.applying b).domains :=
    (congrArg (·.domains) hstarts.core :).trans
      (congrArg (·.domains) (recoverState_eq hchronicle.rising hhouses))
  have haudit : g.state.audit <:+ all := by
    rw [(hstarts.audit.trans audit_recoverState :)]
    exact h.audit_reopened
  have hviews (domain : OversubscriptionDomainId) : g.state.view look domain = retold look domain all := by
    rw [← view_applied h.spans (h.views domain), DurableState.view, hdomains]
    rfl
  refine ⟨⟨h.counted, spans_saved h.spans.back, h.last, haudit, hviews⟩, haudit, hviews,
    Nat.le_add_right _ _, ?_, ?_⟩
  · rw [hg.since]
    exact Nat.zero_le _
  · rw [Nat.sub_self, Nat.zero_min]
    exact Nat.zero_le _

/-- Options under which a compaction keeps all decisions that are not saved. -/
def GovernorOptions.keeps (o : GovernorOptions) : Nat :=
  min (min o.journalCompactionRecords o.maxJournalRecords).toNat o.maxAuditRecords.toNat

/-- A compaction. -/
theorem Annals.compacted (h : Annals look b rs all saved) (hf : Following look g all saved)
    (hn : Numbering o m b rs g) (ho : o.Lossless) (hkeeps : g.decisionsSinceSave.toNat ≤ o.keeps) :
    Annals look b g.kept all saved ∧ Following look g.compacting all saved := by
  have hunsaved := hf.unsaved
  have hkept := hf.kept
  have hlength : (min o.journalCompactionRecords o.maxJournalRecords).toNat ⊓ g.state.audit.length =
      g.window.length := by
    rw [Governor.window, hn.options, List.length_drop]
    omega
  rw [hn.options] at hkept
  rw [GovernorOptions.keeps] at hkeeps
  have hwhole : all.length ≤ saved.length + g.window.length := by omega
  have hback : g.window <:+ all := (List.drop_suffix _ _).trans hf.history
  have hlast : g.window.getLast? = all.getLast? := (hn.getLast?_window ho).trans h.last
  rw [hn.kept_eq ho]
  refine ⟨⟨h.counted, ⟨h.spans.front, hback, hwhole⟩, hlast, h.history, h.views⟩, hback, hf.views, hf.unsaved,
    hf.fewer, ?_⟩
  show min _ g.options.maxAuditRecords.toNat ≤ g.window.length
  omega

/-- A decision that is recorded. -/
theorem Annals.recorded {named : OversubscriptionDomainId} {x : Ruling} (h : Annals look b rs all saved)
    (hf : Following look g all saved) (hn : Numbering o m b rs g) (hdue : g.Due named x)
    (hviews : ∀ domain, ((g.journaled x.record).withRuling named x).state.view look domain =
      if named = domain then some (look (.ofRecord x.record)) else g.state.view look domain) :
    Annals look b (rs ++ [x.record]) (all ++ [x.record]) saved ∧
      Following look ((g.journaled x.record).withRuling named x) (all ++ [x.record]) saved := by
  have hissued : g.state.decisionsIssued.toNat = all.length := by
    have hnewest : newest AuditRecord.number rs = newest AuditRecord.number all := newest_congr h.last
    rw [← h.counted.newest_eq, ← hnewest]
    exact hn.issued
  have hnumber := hdue.number
  rw [hissued] at hnumber
  have hmore : g.state.decisionsIssued.toNat ≠ 2 ^ 64 - 1 := fun heq => hdue.more (UInt64.toNat_inj.mp heq)
  have hlt := g.state.decisionsIssued.toNat_lt
  have hfewer := hf.fewer
  have hunsaved := hf.unsaved
  have hkept := hf.kept
  have hsince : ((g.journaled x.record).withRuling named x).decisionsSinceSave.toNat =
      g.decisionsSinceSave.toNat + 1 := by
    show (g.decisionsSinceSave + 1).toNat = _
    rw [UInt64.toNat_add, UInt64.toNat_one]
    omega
  have haudit : ((g.journaled x.record).withRuling named x).state.audit =
      (g.state.audit ++ [x.record]).drop
        ((g.state.audit ++ [x.record]).length - g.options.maxAuditRecords.toNat) := rfl
  have hback : g.state.audit ++ [x.record] <:+ all ++ [x.record] := by
    obtain ⟨older, holder⟩ := hf.history
    exact ⟨older, by rw [← List.append_assoc, holder]⟩
  refine ⟨⟨h.counted.snoc hnumber, h.spans.snoc, ?_, h.history, h.views⟩, ?_, fun domain => ?_, ?_, ?_, ?_⟩
  · rw [List.getLast?_concat, List.getLast?_concat]
  · rw [haudit]
    exact (List.drop_suffix _ _).trans hback
  · rw [hviews, hf.views, retold_snoc, hdue.names]
  · rw [hsince, List.length_append, List.length_singleton]
    omega
  · rw [hsince, List.length_append, List.length_singleton]
    omega
  · rw [haudit, List.length_drop, List.length_append, List.length_append, List.length_singleton]
    show min _ g.options.maxAuditRecords.toNat ≤ _
    omega

end

/-! ## Every step -/

/-- An evaluation finds no more decisions unsaved than a compaction keeps. -/
def Step.Punctual (o : GovernorOptions) (t : Step) : Prop :=
  t.command.journals = true → t.before.governor.decisionsSinceSave.toNat ≤ o.keeps

section

variable {α : Type} {look : DomainRuntimeState → α} {o : GovernorOptions} {Q : List AuditRecord → Prop}
  {b : DurableState} {rs : List AuditRecord} {g : Governor}

/-- What is asked of a step: `look` does not see the fences it makes, and `Q`
goes on to hold with a decision it records. -/
structure Step.Follows (look : DomainRuntimeState → α) (o : GovernorOptions) (Q : List AuditRecord → Prop)
    (t : Step) : Prop where
  under : t.Under o
  punctual : t.Punctual o
  fences : (∃ next, t.command = .advanceEpoch next) → Unfencing look
  admits : ∀ domain, t.Evaluates domain → ∀ all r, r.domain = domain → Q all → Q (all ++ [r])

/-- A directory that tells all decisions, of which `Q` holds. -/
structure Recounted (look : DomainRuntimeState → α) (o : GovernorOptions) (Q : List AuditRecord → Prop)
    (b : DurableState) (rs : List AuditRecord) : Prop where
  numbered : Numbered o ⟨0, 0, 0⟩ b rs
  annals : ∃ all saved, Annals look b rs all saved ∧ Q all

/-- The runtime on it does so, too. -/
structure Recounting (look : DomainRuntimeState → α) (o : GovernorOptions) (Q : List AuditRecord → Prop)
    (b : DurableState) (rs : List AuditRecord) (g : Governor) : Prop where
  numbering : Numbering o ⟨0, 0, 0⟩ b rs g
  annals : ∃ all saved, Annals look b rs all saved ∧ Following look g all saved ∧ Q all

theorem upkeep_recounting (ho : o.Lossless) (hlook : Telling look) :
    Upkeep (Step.Follows look o Q) (Recounted look o Q) (Recounting look o Q) where
  recovered hC hc h := by
    obtain rfl := hC.under.options _ _ hc
    rw [readable_eq (h.numbered.within ho)]
    exact h
  loaded hC hc h hstarts hg _ := by
    obtain rfl := hC.under.options _ _ hc
    obtain ⟨all, saved, hannals, hall⟩ := h.annals
    rw [readable_eq (h.numbered.within ho)] at hstarts ⊢
    obtain ⟨hannals', hfollowing⟩ := hannals.reopened h.numbered hstarts hg
    exact ⟨h.numbered.reopened ho hstarts, all, all, hannals', hfollowing, hall⟩
  cold h := by
    obtain ⟨all, saved, hannals, -, hall⟩ := h.annals
    exact ⟨h.numbering.numbered, all, saved, hannals, hall⟩
  called hC hc hquiet h hends _ hsince _ := by
    obtain ⟨all, saved, hannals, hfollowing, hall⟩ := h.annals
    have hviews := fun domain => @Governor.Effect.view_eq _ look domain _ _ _ _ hends.effect hc hquiet hC.fences
    exact ⟨h.numbering.quiet hc hquiet hends, all, saved, hannals,
      hfollowing.congr (hends.quiet hquiet).audit hviews hsince (hends.effect.options_eq hc), hall⟩
  settled hC hc hquiet h hends _ _ := by
    obtain ⟨all, saved, hannals, hfollowing, hall⟩ := h.annals
    have hviews := fun domain => @Governor.Effect.view_eq _ look domain _ _ _ _ hends.effect hc hquiet hC.fences
    obtain ⟨hannals', hfollowing'⟩ := hannals.settled hfollowing (hends.quiet hquiet).audit hviews
      ((hends.since hquiet).imp_right And.left)
    exact ⟨(h.numbering.quiet hc hquiet hends).saved, all, all, hannals', hfollowing', hall⟩
  ticking h := by
    obtain ⟨all, saved, hannals, hfollowing, hall⟩ := h.annals
    exact ⟨(upkeep_numbering ho).ticking h.numbering, all, saved, hannals,
      hfollowing.congr rfl (fun _ => rfl) rfl rfl, hall⟩
  compacted hC hc h hlog hfull hfits := by
    obtain ⟨all, saved, hannals, hfollowing, hall⟩ := h.annals
    have hkeeps := hC.punctual (Command.journals_eq_true.mpr ⟨_, _, _, hc⟩)
    obtain ⟨hannals', hfollowing'⟩ := hannals.compacted hfollowing h.numbering ho hkeeps
    exact ⟨h.numbering.compacted ho, all, saved, hannals', hfollowing', hall⟩
  recorded {t order wall request _ _ g _} hC hc h hlog hcore hclock hserves hroom := by
    obtain ⟨all, saved, hannals, hfollowing, hall⟩ := h.annals
    have hdue : g.Due request.domain (t.before.governor.ruling order wall request) :=
      Governor.due_ruling hcore hclock hserves fun hids => hC.under.ids ⟨⟨_, _, _, hc⟩, hids⟩
    obtain ⟨hannals', hfollowing'⟩ := hannals.recorded hfollowing h.numbering hdue
      fun domain => Governor.view_withRuling hlook
    exact ⟨h.numbering.recorded ho hlog hroom hdue, _, saved, hannals', hfollowing',
      hC.admits _ ⟨_, _, _, hc, rfl⟩ _ _ rfl hall⟩
  unsaved h := by
    obtain ⟨all, saved, hannals, hfollowing, hall⟩ := h.annals
    exact ⟨(upkeep_numbering ho).unsaved h.numbering, all, saved, hannals,
      hfollowing.congr rfl (fun _ => rfl) rfl rfl, hall⟩
  saved {_ rs g} h := by
    obtain ⟨all, saved, hannals, hfollowing, hall⟩ := h.annals
    obtain ⟨hannals', hfollowing'⟩ : Annals look g.saved.state rs all all ∧ Following look g.saved all all :=
      hannals.settled hfollowing rfl (fun _ => rfl) (.inr rfl)
    exact ⟨(upkeep_numbering ho).saved h.numbering, all, all, hannals', hfollowing', hall⟩

theorem founds_recounting (hQ : Q []) : Founds (Step.Follows look o Q) (Recounting look o Q) := by
  intro t options policy g hC hc hstarts hg hstamped
  have hdomains : g.state.domains = [] := (congrArg (·.domains) hstarts.core :)
  have haudit : g.state.audit = [] := hstarts.audit
  have hviews (domain : OversubscriptionDomainId) : g.state.view look domain = none := by
    rw [DurableState.view, hdomains]
    rfl
  have hsuffix : g.state.audit <:+ [] := by rw [haudit]
  refine ⟨@founds_numbering o t _ _ _ hC.under hc hstarts hg hstamped, [], [], ?_, ?_, hQ⟩
  · exact ⟨counted_nil, spans_saved List.suffix_rfl, rfl, hsuffix, hviews⟩
  · refine ⟨hsuffix, hviews, Nat.zero_le _, ?_, ?_⟩
    · rw [hg.since]
      exact Nat.zero_le _
    · exact (Nat.min_le_left _ _).trans (Nat.zero_le _)

/-- What `Q` says of all decisions may be exchanged where the runtime is
open. -/
theorem Filed.recounting {s : System} {Q' : List AuditRecord → Prop} (ho : o.Lossless) (hlook : Telling look)
    (h : Filed (Recounted look o Q) (Recounting look o Q) b rs s) (hopen : s.governor.isOpen = true)
    (hQ : ∀ all saved, Annals look b rs all saved → Following look s.governor all saved → Q all → Q' all) :
    Filed (Recounted look o Q') (Recounting look o Q') b rs s := by
  obtain ⟨hlog, hwarm⟩ := h.warm hopen
  obtain ⟨all, saved, hannals, hfollowing, hall⟩ := hwarm.annals
  have hwarm' : Recounting look o Q' b rs s.governor :=
    ⟨hwarm.numbering, all, saved, hannals, hfollowing, hQ all saved hannals hfollowing hall⟩
  exact ⟨h.saved, h.policy, h.framed, (upkeep_recounting ho hlook).cold hwarm', fun _ => ⟨hlog, hwarm'⟩⟩

end

/-! ## Runs -/

/-- A step under these options, each evaluation in time and with an id for its
decision, whose failing writes leave nothing in the journal. -/
structure Step.Orderly (o : GovernorOptions) (t : Step) : Prop where
  under : t.Under o
  punctual : t.Punctual o
  clean : t.Clean

section

variable {α : Type} {look : DomainRuntimeState → α} {o : GovernorOptions} {disk : Disk} {us vs : List Step}
  {a s : System} {domain : OversubscriptionDomainId}

/-- The decisions behind a run. -/
theorem recounting_of_run (hus : SessionRun disk us a) (hstate : disk .state = none)
    (hjournal : disk .journal = none) (ho : o.Lossless) (hlook : Telling look)
    (horderly : ∀ u ∈ us, Step.Orderly o u)
    (hfences : ∀ u ∈ us, (∃ next, Step.command u = .advanceEpoch next) → Unfencing look)
    (hopen : a.governor.isOpen = true) :
    ∃ b rs, Filed (Recounted look o fun _ => True) (Recounting look o fun _ => True) b rs a := by
  have hfollows : ∀ u ∈ us, Step.Follows look o (fun _ => True) u := fun u hu =>
    ⟨(horderly u hu).under, (horderly u hu).punctual, hfences u hu, fun _ _ _ _ _ _ => trivial⟩
  rcases (upkeep_recounting ho hlook).run (founds_recounting trivial) hus hstate hjournal hfollows
    (fun u hu => (horderly u hu).clean) with hunused | hfiled
  · exact absurd hopen (by simp [hunused.isOpen])
  · exact hfiled

/-- What a runtime state tells, at two points of a run between which its domain
is not evaluated. -/
theorem view_of_run (hus : SessionRun disk us a) (hvs : Run System.step a vs s) (hstate : disk .state = none)
    (hjournal : disk .journal = none) (ho : o.Lossless) (hlook : Telling look)
    (horderly : ∀ u ∈ us ++ vs, Step.Orderly o u)
    (hfences : ∀ u ∈ us ++ vs, (∃ next, Step.command u = .advanceEpoch next) → Unfencing look)
    (hquiet : ∀ v ∈ vs, ¬ Step.Evaluates v domain) (hopen : a.governor.isOpen = true)
    (hopen' : s.governor.isOpen = true) :
    s.governor.state.view look domain = a.governor.state.view look domain := by
  rw [List.forall_mem_append] at horderly hfences
  obtain ⟨b, rs, hfiled⟩ := recounting_of_run hus hstate hjournal ho hlook horderly.1 hfences.1 hopen
  have hfiled' : Filed (Recounted look o fun all => retold look domain all = a.governor.state.view look domain)
      (Recounting look o fun all => retold look domain all = a.governor.state.view look domain) b rs a :=
    hfiled.recounting ho hlook hopen fun all _ _ hfollowing _ => (hfollowing.views domain).symm
  have hfollows : ∀ v ∈ vs,
      Step.Follows look o (fun all => retold look domain all = a.governor.state.view look domain) v := by
    intro v hv
    refine ⟨(horderly.2 v hv).under, (horderly.2 v hv).punctual, hfences.2 v hv, ?_⟩
    intro named hnamed all r hr hall
    have hne : r.domain ≠ domain := fun heq => hquiet v hv (heq ▸ hr ▸ hnamed)
    rw [retold_snoc, if_neg hne, hall]
  obtain ⟨b', rs', hafter⟩ := (upkeep_recounting ho hlook).of_run hus hvs hfiled' hfollows
    fun v hv => (horderly.2 v hv).clean
  obtain ⟨all, saved, -, hfollowing, hall⟩ := (hafter.warm hopen').2.annals
  exact (hfollowing.views domain).trans hall

end

namespace Governor

/-- An evaluation of a domain that the policy does not cover. -/
def strangeCall : System.Call := ⟨.evaluate .listed 0 ⟨⟨2⟩, 0⟩, []⟩

def decidedElse : Governor := decidedOnce.decided .listed 0 ⟨⟨2⟩, 0⟩

theorem orderly_open {s : System} : Step.Orderly sampleOptions ⟨s, openCall samplePolicy⟩ where
  under := ⟨fun _ _ hc => (Command.openRuntime.inj hc).1.symm, fun ⟨⟨_, _, _, hc⟩, _⟩ => (nomatch hc)⟩
  punctual := nofun
  clean := (journals_of_fates rfl).clean

theorem orderly_evaluate {s : System} {request : EvaluationRequest}
    (hids : s.governor.state.decisionsIssued ≠ UInt64.ofNat u64Max)
    (hsince : s.governor.decisionsSinceSave.toNat ≤ sampleOptions.keeps) :
    Step.Orderly sampleOptions ⟨s, ⟨.evaluate .listed 0 request, []⟩⟩ where
  under := ⟨fun _ _ hc => (nomatch hc), fun h => hids h.2⟩
  punctual := fun _ => hsince
  clean := (journals_of_fates rfl).clean

/-- A session of one decision, and another for another domain. -/
theorem survived_run : ∃ disk disk' disk'',
    SessionRun emptyDisk [⟨System.boot emptyDisk, openCall samplePolicy⟩, ⟨⟨started samplePolicy, disk⟩, evaluateCall⟩]
      ⟨decidedOnce, disk'⟩ ∧
    Run System.step ⟨decidedOnce, disk'⟩ [⟨⟨decidedOnce, disk'⟩, strangeCall⟩] ⟨decidedElse, disk''⟩ := by
  obtain ⟨disk, hopen⟩ := sample_started
  have hfirst : Answers .listed 0 (started samplePolicy) sampleRequest :=
    (roomy_started sample_checks.1).answers rfl
  have hsecond : Answers .listed 0 decidedOnce ⟨⟨2⟩, 0⟩ :=
    ((roomy_started sample_checks.1).decided rfl : Roomy 99 decidedOnce).answers rfl
  obtain ⟨-, disk', hstep⟩ := issues_of_answers disk hfirst
  obtain ⟨-, disk'', hstep'⟩ := issues_of_answers disk' hsecond
  replace hstep : System.step ⟨started samplePolicy, disk⟩ evaluateCall = ⟨decidedOnce, disk'⟩ := hstep
  replace hstep' : System.step ⟨decidedOnce, disk'⟩ strangeCall = ⟨decidedElse, disk''⟩ := hstep'
  have hrun : SessionRun emptyDisk _ _ := (Run.nil.snoc (openCall samplePolicy)).snoc evaluateCall
  have hrun' : Run System.step ⟨decidedOnce, disk'⟩ _ _ := Run.nil.snoc strangeCall
  rw [hopen, hstep] at hrun
  rw [hstep'] at hrun'
  exact ⟨disk, disk', disk'', hrun, hrun'⟩

theorem orderly_survived (disk disk' : Disk) :
    ∀ u ∈ [⟨System.boot emptyDisk, openCall samplePolicy⟩, ⟨⟨started samplePolicy, disk⟩, evaluateCall⟩] ++
      [⟨⟨decidedOnce, disk'⟩, strangeCall⟩], Step.Orderly sampleOptions u := by
  have hfirst : (started samplePolicy).state.decisionsIssued = 0 ∧ (started samplePolicy).decisionsSinceSave = 0 :=
    ⟨rfl, rfl⟩
  have hsecond : decidedOnce.state.decisionsIssued = 1 ∧ decidedOnce.decisionsSinceSave = 1 := ⟨rfl, rfl⟩
  rw [List.forall_mem_append, List.forall_mem_cons, List.forall_mem_singleton, List.forall_mem_singleton]
  refine ⟨⟨orderly_open, orderly_evaluate ?_ ?_⟩, orderly_evaluate ?_ ?_⟩
  · rw [hfirst.1]
    decide
  · rw [hfirst.2]
    exact Nat.zero_le _
  · rw [hsecond.1]
    decide
  · rw [hsecond.2]
    decide

end Governor

end Oversub
