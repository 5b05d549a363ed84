import Oversub.Canonical
import Oversub.Runtime.Installs

/-!
# Oversub.Runtime.Reinstall

Installing a policy that is in force.  `install_policy` compares the digests of
the two contents, so it leaves the policy and the evidence alone exactly where
the contents are the same; else the policy generation goes up by one and no
evidence stays.
-/

namespace Oversub

open Crash Files Trace

/-! ## Policies and what is installed of them -/

/-- A policy under the id of another one, if it has none of its own. -/
def OversubscriptionPolicy.identified (p current : OversubscriptionPolicy) : OversubscriptionPolicy :=
  { p with id := if p.id.valid then p.id else current.id }

section

variable {p q : OversubscriptionPolicy}

/-- An install keeps the content. -/
theorem sameContent_stampedPolicy (hq : q.id.valid = true) :
    (Governor.stampedPolicy q p).SameContent q ↔ (p.identified q).SameContent q := by
  have hid : (Governor.stampedPolicy q p).id = (p.identified q).id := by
    unfold Governor.stampedPolicy OversubscriptionPolicy.identified computePolicyDigest
    dsimp only
    rw [if_pos hq]
  have hfields : { Governor.stampedPolicy q p with
      generation := {}, domains := [], serviceClasses := [], digest := .zero } =
        { p.identified q with generation := {}, domains := [], serviceClasses := [], digest := .zero } := by
    simp only [OversubscriptionPolicy.mk.injEq, and_true, true_and]
    exact ⟨hid, rfl, rfl, rfl, rfl, rfl, rfl, rfl, rfl, rfl⟩
  have hdomains : (Governor.stampedPolicy q p).domains.map DomainConfig.canonical =
      (p.identified q).domains.map DomainConfig.canonical := by
    have hmap : (Governor.stampedPolicy q p).domains = p.domains.map (Governor.installDomain q) := rfl
    rw [hmap, List.map_map]
    exact List.map_congr_left fun d _ => (sameBoundary_iff.mp installDomain_same).symm
  constructor
  · intro h
    refine ⟨hfields.symm.trans h.fields, ?_, h.classes⟩
    rw [sameDomains_iff, ← hdomains, ← sameDomains_iff]
    exact h.domains
  · intro h
    refine ⟨hfields.trans h.fields, ?_, h.classes⟩
    rw [sameDomains_iff, hdomains, ← sameDomains_iff]
    exact h.domains

/-- The digests that an install compares. -/
theorem policyContentDigest_iff (hp : (validatePolicy p).isOk = true) (hq : (validatePolicy q).isOk = true)
    (hsha : sha256 (policyStream p.content) = sha256 (policyStream q.content) →
      policyStream p.content = policyStream q.content) :
    Governor.policyContentDigest q = Governor.policyContentDigest p ↔ p.SameContent q := by
  have hcontent := policyDigest_content_iff hp hq hsha
  rw [← hcontent]
  exact eq_comm

end

namespace Governor

/-! ## An install and what it leaves -/

/-- The policy with its generations, and all slots, are as they were. -/
structure Untouched (g g' : Governor) : Prop where
  policy : g'.state.policy = g.state.policy
  slots : g'.slots = g.slots

/-- The policy is a generation further, and no slot has content. -/
structure Renewed (g g' : Governor) : Prop where
  generation : g'.state.policy.generation.value.toNat = g.state.policy.generation.value.toNat + 1
  emptied : ∀ slot ∈ g'.slots, slot.hasContent = false

section

variable {g g' x : Governor} {policy : OversubscriptionPolicy} {tick : UInt64}

theorem untouched_of_core (h : g'.core = g.core) : Untouched g g' :=
  ⟨core_congr (·.state.policy) (fun _ => rfl) h, core_congr (·.slots) (fun _ => rfl) h⟩

theorem not_untouched (h : Renewed g g') : ¬ Untouched g g' := by
  intro hsame
  have hgeneration := h.generation
  rw [hsame.policy] at hgeneration
  omega

theorem renewed_withPolicy (hvalid : g.state.policy.generation.valid = true)
    (hnext : nextPolicyGeneration g.state.policy ≠ 0) (hcore : g'.core =
      (g.withPolicy (stampedPolicy g.state.policy policy)).core) : Renewed g g' := by
  have hpolicy : g'.state.policy = stampedPolicy g.state.policy policy :=
    core_congr (·.state.policy) (fun _ => rfl) hcore
  have hslots : g'.slots = g.slots.map EvidenceSlot.dropped := core_congr (·.slots) (fun _ => rfl) hcore
  constructor
  · have hvalue : g'.state.policy.generation.value = g.state.policy.generation.value + 1 := by
      have hstamped : (stampedPolicy g.state.policy policy).generation.value =
          nextPolicyGeneration g.state.policy := rfl
      rw [hpolicy, hstamped, nextPolicyGeneration, if_pos hvalid]
    rw [nextPolicyGeneration, if_pos hvalid] at hnext
    have hne : (g.state.policy.generation.value + 1).toNat ≠ 0 := fun h => hnext (UInt64.toNat_inj.mp h)
    have hone : (1 : UInt64).toNat = 1 := rfl
    have hlt := g.state.policy.generation.value.toNat_lt
    rw [hvalue]
    rw [UInt64.toNat_add, hone] at hne ⊢
    omega
  · intro slot hslot
    rw [hslots] at hslot
    obtain ⟨slot, _, rfl⟩ := List.mem_map.mp hslot
    rfl

/-- There is a generation for the next policy. -/
theorem nextPolicyGeneration_ne_zero {current : OversubscriptionPolicy}
    (h : current.generation.value.toNat < u64Max) : nextPolicyGeneration current ≠ 0 := by
  unfold nextPolicyGeneration
  split
  · have hone : (1 : UInt64).toNat = 1 := rfl
    have hbound : u64Max = 2 ^ 64 - 1 := rfl
    intro hzero
    have hnat := congrArg UInt64.toNat hzero
    rw [UInt64.toNat_add, hone] at hnat
    have hnone : (0 : UInt64).toNat = 0 := rfl
    omega
  · decide

end

/-- **An install** leaves the policy and the evidence alone exactly where it
brings the content that is in force, and renews both where it does not. -/
theorem install_iff {disk : Disk} {ts : List Step} {s : System} {policy : OversubscriptionPolicy}
    {tick : UInt64} {w : List Fate} {reply : Reply} (hrun : SessionRun disk ts s)
    (hopen : s.governor.isOpen = true) (haccepting : s.governor.accepting = true)
    (hnext : s.governor.state.policy.generation.value.toNat < u64Max)
    (hvalid : (validatePolicy (stampedPolicy s.governor.state.policy policy)).isOk = true)
    (hsha : sha256 (policyStream (stampedPolicy s.governor.state.policy policy).content) =
        sha256 (policyStream s.governor.state.policy.content) →
      policyStream (stampedPolicy s.governor.state.policy policy).content =
        policyStream s.governor.state.policy.content)
    (hreply : (s.perform ⟨.installPolicy policy tick, w⟩).1 = some reply) :
    (Untouched s.governor (s.step ⟨.installPolicy policy tick, w⟩).governor ↔
      (policy.identified s.governor.state.policy).SameContent s.governor.state.policy) ∧
    (¬ (policy.identified s.governor.state.policy).SameContent s.governor.state.policy →
      Renewed s.governor (s.step ⟨.installPolicy policy tick, w⟩).governor) := by
  have hcurrent := (live_of_run hrun hopen).policy
  have hinstallable := validatePolicy_installable hcurrent
  have hpolicy : (s.governor.observing tick).state.policy = s.governor.state.policy :=
    core_congr (·.state.policy) (fun _ => rfl) core_observing
  have hslots : (s.governor.observing tick).slots = s.governor.slots :=
    core_congr (·.slots) (fun _ => rfl) core_observing
  have hgeneration := nextPolicyGeneration_ne_zero hnext
  have hcontent := policyContentDigest_iff hvalid hcurrent hsha
  rw [sameContent_stampedPolicy hinstallable.id_valid] at hcontent
  obtain ⟨x, w', hp, hstep⟩ := System.perform_eq_some hreply
  have hgovernor : (s.step ⟨.installPolicy policy tick, w⟩).governor = x := by rw [hstep]
  rw [hgovernor]
  have hperform : Command.perform s.governor (.installPolicy policy tick) =
      replying .status (s.governor.installPolicy policy tick) := rfl
  rw [hperform, installPolicy, if_neg (by simp [hopen]), if_neg (by simp [haccepting])] at hp
  dsimp only at hp
  rw [hpolicy, if_neg hgeneration, hinstallable.generation_valid, Bool.true_and] at hp
  by_cases hsame : policyContentDigest s.governor.state.policy =
      policyContentDigest (stampedPolicy s.governor.state.policy policy)
  · rw [if_pos (decide_eq_true hsame)] at hp
    cases hp
    have huntouched := untouched_of_core (@core_observing s.governor tick)
    exact ⟨iff_of_true huntouched (hcontent.mp hsame), fun hother => absurd (hcontent.mp hsame) hother⟩
  · rw [if_neg (by simp [hsame]), if_neg (by simp [hvalid])] at hp
    have hyields : Yields (replying Reply.status
        (((s.governor.observing tick).withPolicy (stampedPolicy s.governor.state.policy policy)).persistState
          true)) fun r => r.2.core =
            ((s.governor.observing tick).withPolicy (stampedPolicy s.governor.state.policy policy)).core :=
      yields_persistState.bind fun r hr => yields_pure hr
    have hcore := (hyields _).returned hp
    rw [← hpolicy] at hcore hgeneration
    have hrenewed : Renewed (s.governor.observing tick) x :=
      renewed_withPolicy (hpolicy ▸ hinstallable.generation_valid) hgeneration hcore
    have hafter : Renewed s.governor x := ⟨hpolicy ▸ hrenewed.generation, hrenewed.emptied⟩
    have hother := mt hcontent.mpr hsame
    exact ⟨iff_of_false (not_untouched hafter) hother, fun _ => hafter⟩

/-- A runtime that is shutting down. -/
def halted (g : Governor) : Governor := { g with accepting := false, shuttingDown := true }

theorem Savable.halted {g : Governor} (h : Savable g) : Savable g.halted :=
  ⟨h.isOpen, h.summaries, h.fits⟩

theorem perform_shutdown {g : Governor} (disk : Disk) (hopen : g.isOpen = true) (hs : Savable g.halted) :
    ∃ disk', System.perform ⟨g, disk⟩ ⟨.shutdown, []⟩ = (some (.status .success), ⟨g.halted.saved, disk'⟩) := by
  have hcompletes : Completes g.shutdown disk (.success, g.halted.saved) (withState disk g.halted.stamped.state) := by
    unfold shutdown
    rw [if_neg (by simp [hopen])]
    exact completes_persistState hs
  exact ⟨_, System.perform_of_completes (completes_replying hcompletes)⟩

theorem generation_initial {policy : OversubscriptionPolicy} :
    (initialPolicy policy).generation.value.toNat < u64Max := by
  have hone : (initialPolicy policy).generation.value = 1 := rfl
  rw [hone]
  decide

/-- The sample policy and the one without its domain have other contents. -/
theorem other_emptied : ¬ (emptiedPolicy.identified (initialPolicy samplePolicy)).SameContent
    (initialPolicy samplePolicy) := by
  intro hsame
  obtain ⟨l, hperm, hl⟩ := hsame.domains
  have hlength := hperm.length_eq.trans hl.length_eq
  rw [domains_initial] at hlength
  cases hlength

/-- Their digests tell them apart. -/
theorem sha_emptied :
    sha256 (policyStream (stampedPolicy (initialPolicy samplePolicy) emptiedPolicy).content) ≠
      sha256 (policyStream (initialPolicy samplePolicy).content) := by
  have hdigests := installs_digests.1
  intro hsame
  rw [← policyDigest_eq, ← policyDigest_eq] at hsame
  exact hdigests hsame.symm

/-- An install while the runtime shuts down is refused, whatever it brings. -/
theorem install_refused : ¬ ∀ (disk : Disk) (ts : List Step) (s : System) (policy : OversubscriptionPolicy)
    (tick : UInt64) (reply : Reply), SessionRun disk ts s → (∀ t ∈ ts, ¬ t.LosesWrite) →
    s.governor.isOpen = true →
    (validatePolicy (stampedPolicy s.governor.state.policy policy)).isOk = true →
    (sha256 (policyStream (stampedPolicy s.governor.state.policy policy).content) =
        sha256 (policyStream s.governor.state.policy.content) →
      policyStream (stampedPolicy s.governor.state.policy policy).content =
        policyStream s.governor.state.policy.content) →
    (s.perform ⟨.installPolicy policy tick, []⟩).1 = some reply →
    ¬ (policy.identified s.governor.state.policy).SameContent s.governor.state.policy →
    Renewed s.governor (s.step ⟨.installPolicy policy tick, []⟩).governor := by
  intro h
  obtain ⟨disk, hstarted⟩ := sample_started
  have hroomy : Roomy 100 (started samplePolicy) := roomy_started sample_checks.1
  obtain ⟨disk', hhalted⟩ : ∃ disk', System.perform ⟨started samplePolicy, disk⟩ ⟨.shutdown, []⟩ =
      (some (.status .success), ⟨(started samplePolicy).halted.saved, disk'⟩) :=
    perform_shutdown disk rfl hroomy.savable.halted
  have hrun : SessionRun emptyDisk _ _ :=
    (Run.nil.snoc (openCall samplePolicy)).snoc (⟨.shutdown, []⟩ : System.Call)
  rw [hstarted, System.step_of_perform hhalted] at hrun
  have hrefused : System.perform ⟨(started samplePolicy).halted.saved, disk'⟩ ⟨.installPolicy emptiedPolicy 0, []⟩ =
      (some (.status shuttingDownStatus), ⟨(started samplePolicy).halted.saved, disk'⟩) := rfl
  have hrenewed := h _ _ _ emptiedPolicy 0 _ hrun (by
    simp only [List.nil_append, List.forall_mem_append, List.forall_mem_singleton]
    exact ⟨not_losesWrite_closed rfl, not_losesWrite hhalted rfl⟩) rfl valid_emptied
    (fun hsame => absurd hsame sha_emptied) (congrArg Prod.fst hrefused) other_emptied
  have hgeneration := hrenewed.generation
  rw [System.step_of_perform hrefused] at hgeneration
  omega

/-- The sample policy gives way to the one without its domain. -/
theorem install_sample : Renewed (started samplePolicy) emptied := by
  obtain ⟨disk, hstarted⟩ := sample_started
  obtain ⟨disk', hemptied⟩ : ∃ disk', System.perform ⟨started samplePolicy, disk⟩
      ⟨.installPolicy emptiedPolicy 0, []⟩ = (some (.status .success), ⟨emptied, disk'⟩) :=
    perform_install disk changes_emptied
  have hrun : SessionRun emptyDisk _ _ := Run.nil.snoc (openCall samplePolicy)
  rw [hstarted] at hrun
  have hinstall := install_iff hrun rfl rfl generation_initial valid_emptied
    (fun hsame => absurd hsame sha_emptied) (congrArg Prod.fst hemptied)
  rw [System.step_of_perform hemptied] at hinstall
  exact hinstall.2 other_emptied

end Governor

end Oversub
