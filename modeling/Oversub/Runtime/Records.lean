import Oversub.Replay
import Oversub.Runtime.Cooldown

/-!
# Oversub.Runtime.Records

The decisions a session records, and what its tables are made of: each
decision puts the runtime state it leaves under its domain, and takes the next
id.
-/

namespace Oversub

open Crash Files Trace

namespace Step

/-- The ruling a step recorded, with the runtime still open after it. -/
def ruling (t : Step) : Option Ruling :=
  match t.command with
  | .evaluate order wall request =>
      if t.after.governor.isOpen = true ∧
          t.after.governor.state.decisionsIssued ≠ t.before.governor.state.decisionsIssued then
        some (t.before.governor.rule order request.domain
          (max request.tick t.before.governor.clock.tick) wall)
      else none
  | _ => none

end Step

/-- The rulings that some steps recorded. -/
def rulings (ts : List Step) : List Ruling := ts.filterMap Step.ruling

/-- The audit records that go with them, in the order they were appended. -/
def auditRecords (ts : List Step) : List AuditRecord := (rulings ts).map (·.record)

namespace Governor

section

variable {g g' : Governor} {c : Command} {reply : Reply} {order : MapOrder}
  {domain : OversubscriptionDomainId} {tick wall : UInt64}

@[simp] theorem record_domain_rule : (g.rule order domain tick wall).record.domain = domain := rfl

@[simp] theorem record_id_rule :
    (g.rule order domain tick wall).record.id.value = g.state.decisionsIssued + 1 := rfl

@[simp] theorem decision_id_rule :
    (g.rule order domain tick wall).decision.id.value = g.state.decisionsIssued + 1 := rfl

theorem domains_withRuling {r : Ruling} (h : r.working.domain = domain) :
    (g.withRuling domain r).state.domains = Table.put (·.domain) r.working g.state.domains := by
  subst h
  unfold withRuling Table.put runtime
  cases Table.get (·.domain) r.working.domain g.state.domains <;> rfl

/-- The tables of the decisions, over a call that is no change of the epoch. -/
theorem Effect.decisions_cases (h : Effect g c reply g') (hc : c.opens = false)
    (hepoch : g'.state.epoch = g.state.epoch) :
    g'.state.domains = g.state.domains ∧ g'.state.decisionsIssued = g.state.decisionsIssued ∨
      ∃ order wall request, c = .evaluate order wall request ∧
        g'.state.domains = Table.put (·.domain)
          (g.rule order request.domain (max request.tick g.clock.tick) wall).working g.state.domains ∧
        g'.state.decisionsIssued = g.state.decisionsIssued + 1 := by
  have hsame {x : Governor} (hcore : g'.core = x.core) (hdomains : x.state.domains = g.state.domains)
      (hissued : x.state.decisionsIssued = g.state.decisionsIssued) :
      g'.state.domains = g.state.domains ∧ g'.state.decisionsIssued = g.state.decisionsIssued :=
    ⟨(core_congr (·.state.domains) (fun _ => rfl) hcore).trans hdomains,
      (core_congr (·.state.decisionsIssued) (fun _ => rfl) hcore).trans hissued⟩
  cases h with
  | kept _ hcore => exact .inl (hsame hcore rfl rfl)
  | opened => cases hc
  | stopped _ hcore => exact .inl (hsame hcore rfl rfl)
  | installed _ _ hcore => exact .inl (hsame hcore rfl rfl)
  | @advanced next _ _ hnext hcore =>
      have hafter : g'.state.epoch = next := core_congr (·.state.epoch) (fun _ => rfl) hcore
      rw [← hafter, hepoch] at hnext
      exact absurd hnext (UInt64.lt_irrefl _)
  | registered _ hcore => exact .inl (hsame hcore rfl rfl)
  | adopted hcore => exact .inl (hsame hcore rfl rfl)
  | ingested _ h =>
      exact .inl ⟨(rest_congr (·.state.domains) (fun _ => rfl) h.rest :),
        (rest_congr (·.state.decisionsIssued) (fun _ => rfl) h.rest :)⟩
  | @evaluated order wall request _ _ h =>
      cases h with
      | refused hcore => exact .inl (hsame hcore rfl rfl)
      | recorded _ _ htick _ hcore =>
          subst htick
          refine .inr ⟨order, wall, request, rfl, ?_, ?_⟩
          · exact (core_congr (·.state.domains) (fun _ => rfl) hcore).trans
              (domains_withRuling rule_working_domain)
          · exact core_congr (·.state.decisionsIssued) (fun _ => rfl) hcore

/-- The epoch is touched by its change only. -/
theorem Effect.epoch_eq (h : Effect g c reply g') (hc : c.opens = false)
    (hadvance : ∀ next, c ≠ .advanceEpoch next) : g'.state.epoch = g.state.epoch := by
  have hsame {x : Governor} (hcore : g'.core = x.core) : g'.state.epoch = x.state.epoch :=
    core_congr (·.state.epoch) (fun _ => rfl) hcore
  cases h with
  | kept _ hcore => exact hsame hcore
  | opened => cases hc
  | stopped _ hcore => exact (hsame hcore).trans rfl
  | installed _ _ hcore => exact (hsame hcore).trans rfl
  | advanced => exact absurd rfl (hadvance _)
  | registered _ hcore => exact (hsame hcore).trans rfl
  | adopted hcore => exact (hsame hcore).trans rfl
  | ingested _ h => exact (rest_congr (·.state.epoch) (fun _ => rfl) h.rest :)
  | evaluated h =>
      cases h with
      | refused hcore => exact hsame hcore
      | recorded _ _ _ _ hcore => exact (hsame hcore).trans rfl

/-- An evaluation keeps the table of domains within its bound. -/
theorem bounded_evaluate {request : EvaluationRequest} : Yields (g.evaluate order wall request)
    fun r => g.state.domains.length ≤ kMaxDomainsState →
      r.2.state.domains.length ≤ kMaxDomainsState := by
  unfold evaluate evaluateLocked
  split
  · exact yields_pure id
  split
  · exact yields_pure id
  split
  · exact yields_pure id
  dsimp only
  split
  · exact yields_pure id
  split
  · exact yields_pure id
  next hroom =>
    refine yields_appendJournal.bind fun ⟨status, g₁⟩ hcore => ?_
    have hdomains : g₁.state.domains = g.state.domains :=
      core_congr (·.state.domains) (fun _ => rfl) hcore
    dsimp only
    split
    · exact yields_pure fun h => hdomains ▸ h
    · refine yields_persistState.bind fun ⟨status, g₂⟩ hcore₂ => yields_pure fun hbound => ?_
      have hafter : g₂.state.domains = Table.put (·.domain) _ g₁.state.domains :=
        (core_congr (·.state.domains) (fun _ => rfl) hcore₂).trans
          (domains_withRuling rule_working_domain)
      dsimp only
      rw [hafter, hdomains]
      by_cases hfound : (g.runtime request.domain).isSome = true
      · exact (Table.length_put (by rw [rule_working_domain]; exact hfound)).trans_le hbound
      · refine Nat.le_trans Table.length_put_le (Nat.lt_of_not_le fun hfull => hroom ⟨?_, hfull⟩)
        exact Option.not_isSome_iff_eq_none.mp hfound ▸ rfl

/-- Other calls keep its length. -/
theorem Effect.length_domains (h : Effect g c reply g') (hc : c.opens = false)
    (hjournals : c.journals = false) : g'.state.domains.length = g.state.domains.length := by
  have hsame {x : Governor} (hcore : g'.core = x.core) :
      g'.state.domains.length = x.state.domains.length :=
    core_congr (·.state.domains.length) (fun _ => rfl) hcore
  cases h with
  | kept _ hcore => exact hsame hcore
  | opened => cases hc
  | stopped _ hcore => exact (hsame hcore).trans rfl
  | installed _ _ hcore => exact (hsame hcore).trans rfl
  | advanced _ hcore => exact (hsame hcore).trans (List.length_map _)
  | registered _ hcore => exact (hsame hcore).trans rfl
  | adopted hcore => exact (hsame hcore).trans rfl
  | ingested _ h => exact (rest_congr (·.state.domains.length) (fun _ => rfl) h.rest :)
  | evaluated => cases hjournals

/-- No call takes the table of domains over its bound. -/
theorem bounded_perform (c : Command) (hc : c.opens = false) : Yields (c.perform g)
    fun r => g.state.domains.length ≤ kMaxDomainsState →
      r.2.state.domains.length ≤ kMaxDomainsState := by
  cases hjournals : c.journals with
  | true =>
      obtain ⟨order, wall, request, rfl⟩ := Command.journals_eq_true.mp hjournals
      exact bounded_evaluate.bind fun _ h => yields_pure h
  | false => exact (perform_effect c).mono fun r h => (h.length_domains hc hjournals).trans_le

end

end Governor

/-! ## Steps -/

/-- The epoch stays over a step of a session that does not change it. -/
theorem epoch_step {s : System} {c : System.Call} (h : ¬ Step.Reopens ⟨s, c⟩)
    (hopen : (s.step c).governor.isOpen = true) (hepoch : ¬ Step.AdvancesEpoch ⟨s, c⟩) :
    (s.step c).governor.state.epoch = s.governor.state.epoch := by
  cases hc : c.command.opens with
  | true => rw [System.step_same h hopen hc]
  | false =>
      obtain ⟨reply, _, heffect⟩ := System.effect_of_open hopen
      by_contra hne
      refine hne (heffect.epoch_eq hc fun next hcommand => hepoch ?_)
      exact ⟨⟨next, hcommand⟩, hne⟩

/-- A step of a session records nothing, or a ruling. -/
inductive Step.Recording (t : Step) : Prop
  | nothing (h : t.ruling = none)
      (hdomains : t.after.governor.state.domains = t.before.governor.state.domains)
      (hissued : t.after.governor.state.decisionsIssued = t.before.governor.state.decisionsIssued)
  | ruled {order : MapOrder} {wall : UInt64} {request : EvaluationRequest}
      (hcommand : t.command = .evaluate order wall request)
      (h : t.ruling = some (t.before.governor.rule order request.domain
        (max request.tick t.before.governor.clock.tick) wall))
      (hdomains : t.after.governor.state.domains = Table.put (·.domain)
        (t.before.governor.rule order request.domain
          (max request.tick t.before.governor.clock.tick) wall).working t.before.governor.state.domains)
      (hissued : t.after.governor.state.decisionsIssued =
        t.before.governor.state.decisionsIssued + 1)

theorem add_one_ne_self (n : UInt64) : n + 1 ≠ n := by simp

theorem Step.recording {t : Step} (h : ¬ t.Reopens) (hopen : t.after.governor.isOpen = true)
    (hepoch : ¬ t.AdvancesEpoch) : t.Recording := by
  have hsame : t.after.governor.state.epoch = t.before.governor.state.epoch := epoch_step h hopen hepoch
  -- a step that issued no decision has no ruling
  have hquiet (hissued : t.after.governor.state.decisionsIssued =
      t.before.governor.state.decisionsIssued) : t.ruling = none := by
    unfold Step.ruling
    split
    · rw [if_neg fun hissues => hissues.2 hissued]
    · rfl
  cases hc : t.command.opens with
  | true =>
      have hgovernor : t.after.governor = t.before.governor := System.step_same h hopen hc
      exact .nothing (hquiet (by rw [hgovernor])) (by rw [hgovernor]) (by rw [hgovernor])
  | false =>
      obtain ⟨reply, _, heffect⟩ := System.effect_of_open (s := t.before) (c := t.label) hopen
      rcases heffect.decisions_cases hc hsame with ⟨hdomains, hissued⟩ |
        ⟨order, wall, request, hcommand, hdomains, hissued⟩
      · exact .nothing (hquiet hissued) hdomains hissued
      · refine .ruled hcommand ?_ hdomains hissued
        have hissues : t.after.governor.isOpen = true ∧ t.after.governor.state.decisionsIssued ≠
            t.before.governor.state.decisionsIssued := by
          refine ⟨hopen, ?_⟩
          rw [Step.after, hissued]
          exact add_one_ne_self _
        rw [Step.ruling, Step.command, hcommand]
        exact if_pos hissues

/-- The table of domains stays within its bound over a step of a session. -/
theorem bounded_step {s : System} {c : System.Call} (h : ¬ Step.Reopens ⟨s, c⟩)
    (hopen : (s.step c).governor.isOpen = true)
    (hbound : s.governor.state.domains.length ≤ kMaxDomainsState) :
    (s.step c).governor.state.domains.length ≤ kMaxDomainsState := by
  cases hc : c.command.opens with
  | true => rwa [System.step_same h hopen hc]
  | false =>
      obtain ⟨reply, hreply, _⟩ := System.effect_of_open hopen
      obtain ⟨governor, w, hp, hs⟩ := System.perform_eq_some hreply
      rw [hs]
      exact (Governor.bounded_perform c.command hc _).returned hp hbound

/-! ## Sessions -/

/-- What a session has recorded since a state. -/
structure Recorded (a g : Governor) (rs : List Ruling) : Prop where
  domains : g.state.domains =
    rs.foldl (fun t r => Table.put (·.domain) r.working t) a.state.domains
  rising : Rising a.state.decisionsIssued.toNat (rs.map (·.record))
  issued : g.state.decisionsIssued =
    (((rs.map (·.record)).getLast?.map fun r => r.id.value).getD a.state.decisionsIssued)
  consistent : ∀ r ∈ rs, r.working.domain = r.record.domain

/-- The ids given so far are no greater than the last. -/
theorem Recorded.le_issued {a g : Governor} {rs : List Ruling} (h : Recorded a g rs) :
    a.state.decisionsIssued.toNat ≤ g.state.decisionsIssued.toNat ∧
      ∀ r ∈ rs.map (·.record), r.number ≤ g.state.decisionsIssued.toNat := by
  rw [h.issued]
  cases hlast : (rs.map (·.record)).getLast? with
  | none =>
      rw [List.getLast?_eq_none_iff] at hlast
      rw [hlast]
      exact ⟨Nat.le_refl _, nofun⟩
  | some newest =>
      exact ⟨Nat.le_of_lt (h.rising.above newest (List.mem_of_getLast? hlast)),
        fun r hr => h.rising.le_getLast hlast hr⟩

theorem recorded_nil {g : Governor} : Recorded g g [] :=
  ⟨rfl, Ledger.rising_nil, rfl, fun _ hr => absurd hr List.not_mem_nil⟩

theorem rulings_snoc {ts : List Step} {t : Step} :
    rulings (ts ++ [t]) = rulings ts ++ t.ruling.toList := by
  rw [rulings, rulings, List.filterMap_append, List.filterMap_cons, List.filterMap_nil]
  cases t.ruling <;> rfl

theorem Recorded.step {a : Governor} {rs : List Ruling} {t : Step} (h : Recorded a t.before.governor rs)
    (hrecording : t.Recording) (hids : ¬ t.ExhaustsIds) :
    Recorded a t.after.governor (rs ++ t.ruling.toList) := by
  cases hrecording with
  | nothing hnone hdomains hissued =>
      rw [hnone, Option.toList_none, List.append_nil]
      exact ⟨hdomains.trans h.domains, h.rising, hissued.trans h.issued, h.consistent⟩
  | @ruled order wall request hcommand hruling hdomains hissued =>
      have hnext : (t.before.governor.state.decisionsIssued + 1).toNat =
          t.before.governor.state.decisionsIssued.toNat + 1 := by
        have hne := Governor.add_one_ne_zero_of_ne_max fun hmax =>
          hids ⟨⟨order, wall, request, hcommand⟩, hmax⟩
        have hlt := UInt64.lt_iff_toNat_lt.mp (Governor.lt_add_one_of_ne hne)
        have hone : (1 : UInt64).toNat = 1 := rfl
        have hle := Nat.mod_le (t.before.governor.state.decisionsIssued.toNat + 1) (2 ^ 64)
        rw [UInt64.toNat_add, hone] at hlt ⊢
        omega
      obtain ⟨hfirst, hbefore⟩ := h.le_issued
      rw [hruling, Option.toList_some]
      refine ⟨?_, ?_, ?_, ?_⟩
      · rw [List.foldl_append, ← h.domains]
        exact hdomains
      · rw [List.map_append]
        refine h.rising.snoc ?_ fun r hr => ?_
        · exact (Nat.lt_succ_of_le hfirst).trans_eq hnext.symm
        · exact (Nat.lt_succ_of_le (hbefore r hr)).trans_eq hnext.symm
      · rw [List.map_append, List.map_singleton, List.getLast?_append, List.getLast?_singleton,
          hissued]
        rfl
      · intro r hr
        rcases List.mem_append.mp hr with hr | hr
        · exact h.consistent r hr
        · rw [List.mem_singleton.mp hr]
          exact Governor.rule_working_domain

/-- **What a session records**: its rulings, in order. -/
theorem recorded_of_run {a s : System} {us : List Step} (hrun : Run System.step a us s)
    (hsession : ∀ u ∈ us, ¬ u.Reopens) (hepoch : ∀ u ∈ us, ¬ u.AdvancesEpoch)
    (hids : ∀ u ∈ us, ¬ u.ExhaustsIds) (hopen : s.governor.isOpen = true) :
    Recorded a.governor s.governor (rulings us) := by
  induction hrun with
  | nil => exact recorded_nil
  | @snoc us t _ c ih =>
      rw [List.forall_mem_append, List.forall_mem_singleton] at hsession hepoch hids
      have hwas := (System.inSession hsession.2 hopen).wasOpen
      rw [rulings_snoc]
      exact (ih hsession.1 hepoch.1 hids.1 hwas).step (Step.recording hsession.2 hopen hepoch.2) hids.2

/-- The table of domains stays within its bound in a session. -/
theorem bounded_of_run {a s : System} {us : List Step} (hrun : Run System.step a us s)
    (hsession : ∀ u ∈ us, ¬ u.Reopens) (hopen : s.governor.isOpen = true)
    (hbound : a.governor.state.domains.length ≤ kMaxDomainsState) :
    s.governor.state.domains.length ≤ kMaxDomainsState := by
  induction hrun with
  | nil => exact hbound
  | snoc _ c ih =>
      rw [List.forall_mem_append, List.forall_mem_singleton] at hsession
      have hwas := (System.inSession hsession.2 hopen).wasOpen
      exact bounded_step hsession.2 hopen (ih hsession.1 hwas)

end Oversub
