import Oversub.Canonical
import Oversub.Hashing
import Oversub.Runtime.Books
import Oversub.Runtime.Control

/-!
# Oversub.Runtime.Installs

The generations of domains over the policies of a run.  An install raises the
generation of a domain whose configuration it changes.  It looks at the policy
in force alone, though: a domain that comes back after it was left out has the
generation its caller gave it.
-/

namespace Oversub

open Crash Files Trace

/-! ## Configurations and their generations -/

/-- A configuration of a domain may come after another one. -/
structure DomainConfig.Follows (a b : DomainConfig) : Prop where
  same : a.SameBoundary b → a.generation.value ≤ b.generation.value
  other : ¬ a.SameBoundary b → a.generation.value < b.generation.value

/-- The configurations of every domain of two policies may come in this order. -/
def OversubscriptionPolicy.Precedes (p q : OversubscriptionPolicy) : Prop :=
  ∀ a ∈ p.domains, ∀ b ∈ q.domains, a.id = b.id → a.Follows b

/-- The later configuration of a domain, where it is another one, has the larger
generation. -/
def OversubscriptionPolicy.Identifies (p q : OversubscriptionPolicy) : Prop :=
  ∀ a ∈ p.domains, ∀ b ∈ q.domains, a.id = b.id → ¬ a.SameBoundary b →
    a.generation.value < b.generation.value

section

variable {a b c d : DomainConfig} {p q : OversubscriptionPolicy}

/-- What may come after a configuration may come after the same one. -/
theorem DomainConfig.Follows.of_same (h : a.Follows b) (hsame : b.SameBoundary c)
    (hle : b.generation.value ≤ c.generation.value) : a.Follows c where
  same hac := UInt64.le_trans (h.same (hac.trans hsame.symm)) hle
  other hac := UInt64.lt_of_lt_of_le (h.other fun hab => hac (hab.trans hsame)) hle

/-- A larger generation follows on whatever its predecessor followed on. -/
theorem DomainConfig.Follows.of_lt (h : a.Follows b) (hlt : b.generation.value < c.generation.value) :
    a.Follows c := by
  have hle : a.generation.value ≤ b.generation.value := by
    by_cases hab : a.SameBoundary b
    · exact h.same hab
    · exact UInt64.le_of_lt (h.other hab)
  have hac : a.generation.value < c.generation.value := UInt64.lt_of_le_of_lt hle hlt
  exact ⟨fun _ => UInt64.le_of_lt hac, fun _ => hac⟩

theorem OversubscriptionPolicy.Precedes.identifies (h : p.Precedes q) : p.Identifies q :=
  fun a ha b hb hid => (h a ha b hb hid).other

/-- No domain of a policy has two configurations. -/
theorem precedes_self (hp : (validatePolicy p).isOk = true) : p.Precedes p := by
  intro a ha b hb hid
  have hnodup : (p.domains.map (·.id.value)).Nodup := (validatePolicy_installable hp).domains_nodup
  have hab : a = b := List.inj_on_of_nodup_map hnodup ha hb (congrArg (·.value) hid)
  rw [hab]
  exact ⟨fun _ => UInt64.le_refl _, fun hother => absurd (.refl b) hother⟩

end

/-! ## One install -/

/-- An install keeps to the generations of the policies there have been: a
domain that is in force has one left for a change, and its digest tells a
change, and a domain that comes back has one that may come after all those
it had. -/
def Renews (past : List OversubscriptionPolicy) (current policy : OversubscriptionPolicy) : Prop :=
  ∀ d ∈ policy.domains,
    match findDomain current d.id with
    | some previous => previous.SameBoundary d ∨
        domainConfigDigest previous ≠ domainConfigDigest d ∧ previous.generation.value.toNat ≠ u64Max
    | none => ∀ p ∈ past, ∀ a ∈ p.domains, a.id = d.id → a.Follows (Governor.stampDomain d)

section

variable {past : List OversubscriptionPolicy} {p current policy : OversubscriptionPolicy}
  {a d previous : DomainConfig}

theorem stampDomain_same : d.SameBoundary (Governor.stampDomain d) := by
  unfold Governor.stampDomain
  split
  · exact .refl d
  · exact ⟨.refl _, rfl⟩

theorem le_stampDomain (d : DomainConfig) : d.generation.value ≤ (Governor.stampDomain d).generation.value := by
  unfold Governor.stampDomain
  split
  · exact UInt64.le_refl _
  next hvalid =>
    have hzero : d.generation.value = 0 := by simpa [Gen.valid] using hvalid
    rw [hzero]
    exact UInt64.zero_le

/-- An install changes nothing of a configuration but its generation. -/
theorem installDomain_same : d.SameBoundary (Governor.installDomain current d) := by
  have hgeneration (n : DomainGeneration) : d.SameBoundary { d with generation := n } := ⟨.refl _, rfl⟩
  unfold Governor.installDomain
  split
  · exact stampDomain_same
  · split
    · exact (hgeneration _).trans stampDomain_same
    · split
      · exact (hgeneration _).trans stampDomain_same
      · exact stampDomain_same

/-- A domain whose digest stays has at least the generation it had. -/
theorem le_installDomain (hfound : findDomain current d.id = some previous)
    (hdigest : domainConfigDigest previous = domainConfigDigest d) :
    previous.generation.value ≤ (Governor.installDomain current d).generation.value := by
  unfold Governor.installDomain
  rw [hfound]
  dsimp only
  rw [if_pos hdigest]
  exact le_stampDomain { d with generation := previous.generation }

/-- One whose digest changes has a larger one, if there is one. -/
theorem lt_installDomain (hfound : findDomain current d.id = some previous)
    (hdigest : domainConfigDigest previous ≠ domainConfigDigest d)
    (hmax : previous.generation.value.toNat ≠ u64Max) :
    previous.generation.value < (Governor.installDomain current d).generation.value := by
  have hnext : previous.generation.value < previous.generation.value + 1 := by
    have hlt := previous.generation.value.toNat_lt
    have hbound : u64Max = 2 ^ 64 - 1 := rfl
    have hone : (1 : UInt64).toNat = 1 := rfl
    rw [UInt64.lt_iff_toNat_lt, UInt64.toNat_add, hone]
    omega
  unfold Governor.installDomain
  rw [hfound]
  dsimp only
  rw [if_neg hdigest]
  split
  · have hle := le_stampDomain { d with generation := ⟨previous.generation.value + 1⟩ }
    exact UInt64.lt_of_lt_of_le hnext hle
  next hlarger =>
    exact UInt64.lt_of_lt_of_le hnext (UInt64.le_trans (UInt64.not_lt.mp hlarger) (le_stampDomain d))

/-- **An install** that keeps to the generations comes after every policy that
the one in force came after. -/
theorem precedes_stampedPolicy (hp : p ∈ past) (hcurrent : p.Precedes current)
    (h : Renews past current policy) : p.Precedes (Governor.stampedPolicy current policy) := by
  intro a ha b hb hid
  obtain ⟨d, hd, rfl⟩ := List.mem_map.mp hb
  have hsame : d.SameBoundary (Governor.installDomain current d) := installDomain_same
  have hdid : d.id = (Governor.installDomain current d).id := congrArg (·.id) hsame.rest
  have hrenews := h d hd
  cases hfound : findDomain current d.id with
  | none =>
      rw [hfound] at hrenews
      have hinstalled : Governor.installDomain current d = Governor.stampDomain d := by
        unfold Governor.installDomain
        rw [hfound]
      rw [hinstalled]
      exact hrenews p hp a ha (hid.trans hdid.symm)
  | some previous =>
      rw [hfound] at hrenews
      have hmem : previous ∈ current.domains := List.mem_of_find?_eq_some hfound
      have hprevious : previous.id = d.id := by simpa using List.find?_some hfound
      have hfollows := hcurrent a ha previous hmem (hid.trans (hdid.symm.trans hprevious.symm))
      rcases hrenews with hunchanged | ⟨hdigest, hmax⟩
      · exact hfollows.of_same (hunchanged.trans hsame)
          (le_installDomain hfound (domainConfigDigest_congr hunchanged))
      · exact hfollows.of_lt (lt_installDomain hfound hdigest hmax)

end

/-! ## Runs -/

/-- The policies in force after the steps of a run. -/
def policiesOf (ts : List Step) : List OversubscriptionPolicy :=
  (ts.filter fun t => t.after.governor.isOpen).map fun t => t.after.governor.state.policy

/-- An install that takes effect keeps to the generations. -/
def Step.Renews (past : List OversubscriptionPolicy) (t : Step) : Prop :=
  ∀ policy tick, t.command = .installPolicy policy tick → t.InstallsPolicy →
    Oversub.Renews past t.before.governor.state.policy policy

/-- The policies there have been, and one that may come next. -/
structure Orderly (past : List OversubscriptionPolicy) (p : OversubscriptionPolicy) : Prop where
  ordered : past.Pairwise OversubscriptionPolicy.Precedes
  next : ∀ q ∈ past, q.Precedes p

section

variable {past : List OversubscriptionPolicy} {p : OversubscriptionPolicy} {b b' : DurableState}
  {s : System} {c : System.Call} {disk : Disk} {ts : List Step}

/-- It comes into force. -/
theorem Orderly.snoc (h : Orderly past p) (hp : (validatePolicy p).isOk = true) :
    Orderly (past ++ [p]) p where
  ordered := by
    rw [List.pairwise_append]
    exact ⟨h.ordered, List.pairwise_singleton _ _, fun q hq r hr => List.mem_singleton.mp hr ▸ h.next q hq⟩
  next := List.forall_mem_append.mpr ⟨h.next, List.forall_mem_singleton.mpr (precedes_self hp)⟩

theorem policiesOf_snoc : policiesOf (ts ++ [⟨s, c⟩]) = policiesOf ts ++
    if (s.step c).governor.isOpen then [(s.step c).governor.state.policy] else [] := by
  unfold policiesOf
  rw [List.filter_append, List.map_append]
  cases hopen : (s.step c).governor.isOpen with
  | false =>
      have hfilter : [(⟨s, c⟩ : Step)].filter (fun t => (Step.after t).governor.isOpen) = [] := by
        simp [Step.after, hopen]
      rw [hfilter]
      rfl
  | true =>
      have hfilter : [(⟨s, c⟩ : Step)].filter (fun t => (Step.after t).governor.isOpen) = [⟨s, c⟩] := by
        simp [Step.after, hopen]
      rw [hfilter]
      rfl

/-- A call that has no install keeps the policy. -/
theorem Governor.Effect.policy_cases {g g' : Governor} {c : Command} {reply : Reply}
    (h : Governor.Effect g c reply g') (hc : c.opens = false) : g'.state.policy = g.state.policy ∨
      ∃ policy tick, c = .installPolicy policy tick ∧ Governor.nextPolicyGeneration g.state.policy ≠ 0 ∧
        g'.state.policy = Governor.stampedPolicy g.state.policy policy := by
  have hsame {x : Governor} (hcore : g'.core = x.core) : g'.state.policy = x.state.policy :=
    Governor.core_congr (·.state.policy) (fun _ => rfl) hcore
  cases h with
  | kept _ hcore => exact .inl (hsame hcore)
  | opened => cases hc
  | stopped _ hcore => exact .inl ((hsame hcore).trans rfl)
  | installed hnext _ hcore => exact .inr ⟨_, _, rfl, hnext, (hsame hcore).trans rfl⟩
  | advanced _ hcore => exact .inl ((hsame hcore).trans rfl)
  | registered _ hcore => exact .inl ((hsame hcore).trans rfl)
  | adopted hcore => exact .inl ((hsame hcore).trans rfl)
  | ingested _ h => exact .inl (Governor.rest_congr (·.state.policy) (fun _ => rfl) h.rest :)
  | evaluated h =>
      cases h with
      | refused hcore => exact .inl (hsame hcore)
      | recorded _ _ _ _ hcore => exact .inl ((hsame hcore).trans rfl)

/-- What a step makes of the policy on file comes after the same policies. -/
theorem Orderly.turned (h : Orderly past b.policy) (hturns : Turns s c b b')
    (hvalid : s.governor.isOpen = true → (validatePolicy s.governor.state.policy).isOk = true)
    (hrenews : Step.Renews past ⟨s, c⟩) : Orderly past b'.policy := by
  cases hturns with
  | same => exact h
  | booted _ hrebooted => exact hrebooted.policy ▸ h
  | @called _ reply x hc hopen hkept heffect _ hkept' hend =>
      rcases heffect.policy_cases hc with hsame | ⟨policy, tick, hcommand, hnext, hpolicy⟩
      · rw [← hkept'.policy, hsame, hkept.policy]
        exact h
      · have hchanged : (s.step c).governor.state.policy ≠ s.governor.state.policy := by
          intro hsame
          rcases hend with ⟨_, hx⟩ | hnone
          · rw [hx, hpolicy] at hsame
            exact Governor.nextPolicyGeneration_ne (congrArg (·.generation.value) hsame)
          · obtain ⟨w, _, hboot⟩ := System.perform_eq_none hnone
            rw [hboot] at hsame
            have hgeneration := (validatePolicy_installable (hvalid hopen)).generation_valid
            have hunset : (System.boot w.disk).governor.state.policy.generation.valid = false := rfl
            rw [← hsame, hunset] at hgeneration
            cases hgeneration
        have hstep : Oversub.Renews past s.governor.state.policy policy :=
          hrenews policy tick hcommand ⟨⟨policy, tick, hcommand⟩, hchanged⟩
        rw [← hkept'.policy, hpolicy]
        refine ⟨h.ordered, fun q hq => precedes_stampedPolicy hq ?_ hstep⟩
        rw [hkept.policy]
        exact h.next q hq

/-- The policies of a run whose installs keep to the generations. -/
theorem orderly_of_run (hrun : SessionRun disk ts s) (hlost : ∀ t ∈ ts, ¬ t.LosesWrite)
    (hrenews : ∀ us t vs, ts = us ++ t :: vs → t.Renews (policiesOf us)) :
    policiesOf ts = [] ∨ ∃ b, OnFile b s ∧ Orderly (policiesOf ts) b.policy := by
  induction hrun with
  | nil => exact .inl rfl
  | @snoc ts a hrun c ih =>
      rw [List.forall_mem_append, List.forall_mem_singleton] at hlost
      have hnext : Step.Renews (policiesOf ts) ⟨a, c⟩ := hrenews ts _ [] rfl
      have hbefore := ih hlost.1 fun us t vs hts => hrenews us t (vs ++ [⟨a, c⟩]) (by
        rw [hts, List.append_assoc, List.cons_append])
      rw [policiesOf_snoc]
      rcases hbefore with hnone | ⟨b, hb, horderly⟩
      · rw [hnone, List.nil_append]
        split
        next hopen =>
          have hall : ∀ t ∈ ts ++ [⟨a, c⟩], ¬ Step.LosesWrite t :=
            List.forall_mem_append.mpr ⟨hlost.1, List.forall_mem_singleton.mpr hlost.2⟩
          obtain ⟨b, hb⟩ := onFile_of_run (hrun.snoc c) hall hopen
          have hpolicy := (hb.kept hopen).policy
          rw [hpolicy]
          exact .inr ⟨b, hb, List.pairwise_singleton _ _,
            List.forall_mem_singleton.mpr (precedes_self hb.policy)⟩
        · exact .inl rfl
      · obtain ⟨b', hb', hturns⟩ := System.onFile_step hb (live_of_run hrun) hlost.2
        have hturned : Orderly (policiesOf ts) b'.policy :=
          horderly.turned hturns (fun hopen => (live_of_run hrun hopen).policy) hnext
        refine .inr ⟨b', hb', ?_⟩
        split
        next hopen =>
          rw [(hb'.kept hopen).policy]
          exact hturned.snoc hb'.policy
        · rw [List.append_nil]
          exact hturned

end

/-! ## A domain that comes back -/

namespace Governor

section

variable {g : Governor} {policy : OversubscriptionPolicy} {disk : Disk}

/-- An install that finds nothing to refuse it. -/
structure Changes (g : Governor) (policy : OversubscriptionPolicy) : Prop where
  isOpen : g.isOpen = true
  accepting : g.accepting = true
  generation : nextPolicyGeneration g.state.policy ≠ 0
  content : policyContentDigest g.state.policy ≠ policyContentDigest (stampedPolicy g.state.policy policy)
  valid : (validatePolicy (stampedPolicy g.state.policy policy)).isOk = true
  savable : Savable (g.withPolicy (stampedPolicy g.state.policy policy))

/-- A governor that has installed a policy. -/
def installing (g : Governor) (policy : OversubscriptionPolicy) : Governor :=
  (g.withPolicy (stampedPolicy g.state.policy policy)).saved

theorem completes_installPolicy (h : Changes g policy) :
    Completes (g.installPolicy policy 0) disk (.success, g.installing policy)
      (withState disk (g.withPolicy (stampedPolicy g.state.policy policy)).stamped.state) := by
  have hobserving : g.observing 0 = g := if_pos rfl
  unfold installPolicy
  rw [if_neg (by simp [h.isOpen]), if_neg (by simp [h.accepting])]
  dsimp only
  rw [hobserving, if_neg h.generation, if_neg (by simp [h.content]), if_neg (by simp [h.valid])]
  exact completes_persistState h.savable

theorem perform_install (disk : Disk) (h : Changes g policy) : ∃ disk',
    System.perform ⟨g, disk⟩ ⟨.installPolicy policy 0, []⟩ =
      (some (.status .success), ⟨g.installing policy, disk'⟩) :=
  ⟨_, System.perform_of_completes (completes_replying (completes_installPolicy h))⟩

/-- A policy takes the room that its bytes need. -/
theorem Roomy.withPolicy {n k : Nat} (h : Roomy (n + k) g) (hlength : (writePolicy policy).length ≤ 600 * k) :
    Roomy n (g.withPolicy policy) := by
  have hsize := h.size
  have hpublishers := h.publishers
  have hdomains := h.domains
  have hbytes := h.journalBytes
  have hrecords := h.journalRecords
  have hunsaved := h.unsaved
  exact { h with
    size := by
      have hslots : (g.withPolicy policy).slots.length = g.slots.length := List.length_map _
      show 124 + (writePolicy policy).length + 45 * g.state.publishers.length +
        89 * g.state.domains.length + 93 * (g.withPolicy policy).slots.length +
          466 * g.state.audit.length + 600 * n ≤ g.store.options.maxStateBytes.toNat
      unfold Governor.size at hsize
      omega
    publishers := by
      show g.state.publishers.length + n ≤ kMaxPublishers
      omega
    domains := by
      show g.state.domains.length + n ≤ kMaxDomainsState
      omega
    journalBytes := by
      show g.store.journalBytes.toNat + 510 * n ≤ g.store.options.maxJournalBytes.toNat
      omega
    journalRecords := by
      show g.store.journalRecords.toNat + n ≤ g.store.options.maxJournalRecords.toNat
      omega
    unsaved := by
      show g.decisionsSinceSave.toNat + n < g.options.saveStateEveryDecisions.toNat
      omega }

theorem Roomy.installing {n k : Nat} (h : Roomy (n + k) g)
    (hlength : (writePolicy (stampedPolicy g.state.policy policy)).length ≤ 600 * k) :
    Roomy n (g.installing policy) := (h.withPolicy hlength).saved

end

/-- The sample policy without its domain. -/
def emptiedPolicy : OversubscriptionPolicy := { samplePolicy with domains := [] }

/-- Its domain, with a larger reserve and no generation of its own. -/
def tightenedDomain : DomainConfig := { sampleDomain with generation := {}, emergencyReserveUnits := 20 }

def tightenedPolicy : OversubscriptionPolicy := { samplePolicy with domains := [tightenedDomain] }

/-- The runtimes after the installs of both. -/
def emptied : Governor := (started samplePolicy).installing emptiedPolicy

def tightened : Governor := emptied.installing tightenedPolicy

theorem policyContentDigest_bytes {policy : OversubscriptionPolicy} {stream : List UInt8}
    (hstream : policyStream { policy with
      generation := ⟨1⟩, domains := policy.domains.map fun d => { d with generation := ⟨1⟩ } } = stream)
    (h : stream.length < 2 ^ 61) :
    (policyContentDigest policy).bytes =
      (Sha256.wordsDigest ((Fips180.blocks (Fips180.pad stream)).foldl Sha256.slidingTransform
        Sha256.init.state)).bytes := by
  rw [policyContentDigest, policyDigest_eq, hstream, Sha256.sha256_sliding h]

/-- What has to be computed for them: the digests differ in their first byte. -/
theorem installs_digests :
    policyContentDigest (initialPolicy samplePolicy) ≠
      policyContentDigest (stampedPolicy (initialPolicy samplePolicy) emptiedPolicy) ∧
    policyContentDigest (stampedPolicy (initialPolicy samplePolicy) emptiedPolicy) ≠
      policyContentDigest (stampedPolicy (stampedPolicy (initialPolicy samplePolicy) emptiedPolicy)
        tightenedPolicy) := by
  have hinitial : (policyContentDigest (initialPolicy samplePolicy)).bytes.head? = some 0 := by
    rw [policyContentDigest_bytes rfl (by decide +kernel)]
    decide +kernel
  have hemptied : (policyContentDigest
      (stampedPolicy (initialPolicy samplePolicy) emptiedPolicy)).bytes.head? = some 149 := by
    rw [policyContentDigest_bytes rfl (by decide +kernel)]
    decide +kernel
  have htightened : (policyContentDigest (stampedPolicy (stampedPolicy (initialPolicy samplePolicy) emptiedPolicy)
      tightenedPolicy)).bytes.head? = some 223 := by
    rw [policyContentDigest_bytes rfl (by decide +kernel)]
    decide +kernel
  constructor
  · intro hsame
    rw [hsame, hemptied] at hinitial
    cases hinitial
  · intro hsame
    rw [hsame, htightened] at hemptied
    cases hemptied

/-- The policies are short and valid. -/
theorem installs_checks :
    (writePolicy (stampedPolicy (initialPolicy samplePolicy) emptiedPolicy)).length ≤ 1000 ∧
    (writePolicy (stampedPolicy emptied.state.policy tightenedPolicy)).length ≤ 1000 := by
  decide +kernel

theorem policyOf_started {policy : OversubscriptionPolicy} :
    (started policy).state.policy = initialPolicy policy := rfl

theorem policy_installing {g : Governor} {policy : OversubscriptionPolicy} :
    (g.installing policy).state.policy = stampedPolicy g.state.policy policy := rfl

theorem valid_emptied : (validatePolicy (stampedPolicy (initialPolicy samplePolicy) emptiedPolicy)).isOk = true :=
  validatePolicy_computePolicyDigest (by decide +kernel)

theorem valid_tightened : (validatePolicy (stampedPolicy emptied.state.policy tightenedPolicy)).isOk = true :=
  validatePolicy_computePolicyDigest (by decide +kernel)

theorem roomy_emptied : Roomy 98 emptied := by
  have hroomy : Roomy (98 + 2) (started samplePolicy) := roomy_started sample_checks.1
  refine hroomy.installing ?_
  rw [policyOf_started]
  exact Nat.le_trans installs_checks.1 (by decide)

theorem changes_emptied : Changes (started samplePolicy) emptiedPolicy := by
  have hroomy : Roomy (98 + 2) (started samplePolicy) := roomy_started sample_checks.1
  have hnext : Roomy 98 ((started samplePolicy).withPolicy
      (stampedPolicy (started samplePolicy).state.policy emptiedPolicy)) := by
    refine hroomy.withPolicy ?_
    rw [policyOf_started]
    exact Nat.le_trans installs_checks.1 (by decide)
  exact ⟨hroomy.isOpen, hroomy.accepting, by decide, installs_digests.1, valid_emptied, hnext.savable⟩

theorem changes_tightened : Changes emptied tightenedPolicy := by
  have hroomy : Roomy (96 + 2) emptied := roomy_emptied
  have hnext : Roomy 96 (emptied.withPolicy (stampedPolicy emptied.state.policy tightenedPolicy)) :=
    hroomy.withPolicy (Nat.le_trans installs_checks.2 (by decide))
  have hdigests : policyContentDigest emptied.state.policy ≠
      policyContentDigest (stampedPolicy emptied.state.policy tightenedPolicy) := by
    rw [emptied, policy_installing, policyOf_started]
    exact installs_digests.2
  exact ⟨hroomy.isOpen, hroomy.accepting, by decide, hdigests, valid_tightened, hnext.savable⟩

/-- The session of the two installs. -/
theorem run_tightened : ∃ (disk₁ disk₂ disk₃ : Disk),
    SessionRun emptyDisk [⟨System.boot emptyDisk, openCall samplePolicy⟩,
      ⟨⟨started samplePolicy, disk₁⟩, ⟨.installPolicy emptiedPolicy 0, []⟩⟩,
      ⟨⟨emptied, disk₂⟩, ⟨.installPolicy tightenedPolicy 0, []⟩⟩] ⟨tightened, disk₃⟩ ∧
    (System.boot emptyDisk).step (openCall samplePolicy) = ⟨started samplePolicy, disk₁⟩ ∧
    System.perform ⟨started samplePolicy, disk₁⟩ ⟨.installPolicy emptiedPolicy 0, []⟩ =
      (some (.status .success), ⟨emptied, disk₂⟩) ∧
    System.perform ⟨emptied, disk₂⟩ ⟨.installPolicy tightenedPolicy 0, []⟩ =
      (some (.status .success), ⟨tightened, disk₃⟩) := by
  obtain ⟨disk₁, hopened⟩ := sample_started
  obtain ⟨disk₂, hemptied⟩ : ∃ disk₂,
      System.perform ⟨started samplePolicy, disk₁⟩ ⟨.installPolicy emptiedPolicy 0, []⟩ =
        (some (.status .success), ⟨emptied, disk₂⟩) := perform_install disk₁ changes_emptied
  obtain ⟨disk₃, htightened⟩ : ∃ disk₃,
      System.perform ⟨emptied, disk₂⟩ ⟨.installPolicy tightenedPolicy 0, []⟩ =
        (some (.status .success), ⟨tightened, disk₃⟩) := perform_install disk₂ changes_tightened
  have hrun : SessionRun emptyDisk _ _ := ((Run.nil.snoc (openCall samplePolicy)).snoc
    (⟨.installPolicy emptiedPolicy 0, []⟩ : System.Call)).snoc
      (⟨.installPolicy tightenedPolicy 0, []⟩ : System.Call)
  rw [hopened, System.step_of_perform hemptied, System.step_of_perform htightened] at hrun
  exact ⟨disk₁, disk₂, disk₃, hrun, hopened, hemptied, htightened⟩

end Governor

section

variable {s : System} {c : System.Call} {ts : List Step} {disk : Disk} {g : Governor}

theorem policiesOf_step (h : s.step c = ⟨g, disk⟩) (hopen : g.isOpen = true) :
    policiesOf (ts ++ [⟨s, c⟩]) = policiesOf ts ++ [g.state.policy] := by
  rw [policiesOf_snoc, h, if_pos hopen]

end

namespace Governor

theorem domains_initial : (initialPolicy samplePolicy).domains = [sampleDomain] := rfl

theorem domains_tightened : tightened.state.policy.domains = [{ tightenedDomain with generation := ⟨1⟩ }] :=
  rfl

end Governor

end Oversub
