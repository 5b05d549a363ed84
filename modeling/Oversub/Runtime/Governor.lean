import Oversub.Recovery

/-!
# Oversub.Runtime.Governor

The governance runtime (`governor.hpp`, `governor.cpp`, `clock.hpp`): what a
governor holds, how it is made durable, and its lifecycle and configuration.

A governor is the state behind the runtime's mutex.  Its operations run under
that mutex, so each is one program over the directory that returns its status
and the governor it leaves.  Statistics and the worker queue are not part of
it.
-/

namespace Oversub

open Crash Files

/-! ## Logical time -/

structure LogicalClock where
  tick : UInt64 := 0
  deriving DecidableEq, Inhabited

namespace LogicalClock

/-- Fails where the tick would overflow. -/
def advance (c : LogicalClock) (delta : UInt64) : Option LogicalClock :=
  (addChecked c.tick delta).map LogicalClock.mk

/-- Never moves backwards. -/
def observe (c : LogicalClock) (candidate : UInt64) : LogicalClock :=
  if candidate ≤ c.tick then c else ⟨candidate⟩

end LogicalClock

/-! ## Data -/

structure GovernorOptions where
  stateDirectory : String := ""
  workerThreads : UInt32 := 0
  maxPendingJobs : UInt32 := 64
  journalCompactionRecords : UInt64 := 4096
  saveStateEveryDecisions : UInt64 := 256
  autoAssignGenerations : Bool := true
  maxStateBytes : UInt64 := 32 * 1024 * 1024
  maxJournalBytes : UInt64 := 64 * 1024 * 1024
  maxJournalRecords : UInt64 := 200000
  maxAuditRecords : UInt32 := 65536
  deriving DecidableEq, Inhabited

def GovernorOptions.storeOptions (o : GovernorOptions) : StoreOptions where
  directory := o.stateDirectory
  maxStateBytes := o.maxStateBytes
  maxJournalBytes := o.maxJournalBytes
  maxJournalRecords := o.maxJournalRecords
  maxAuditRecords := o.maxAuditRecords

/-- The bookkeeping of one domain and kind, and the snapshot it is about. -/
structure EvidenceSlot where
  state : EvidenceSlotState := {}
  capacity : Option CapacitySnapshot := none
  reservations : Option ReservationSnapshot := none
  admissions : Option AdmissionSnapshot := none
  hasContent : Bool := false
  deriving DecidableEq, Inhabited

/-- `slot_key`. -/
def slotKey (domain : OversubscriptionDomainId) (kind : EvidenceKind) :
    OversubscriptionDomainId × Code EvidenceKind := (domain, kind.code)

namespace EvidenceSlot

def key (slot : EvidenceSlot) : OversubscriptionDomainId × Code EvidenceKind :=
  (slot.state.domain, slot.state.kind)

/-- The slot, its snapshot forgotten. -/
def cleared (slot : EvidenceSlot) : EvidenceSlot :=
  { slot with capacity := none, reservations := none, admissions := none, hasContent := false }

/-- The slot after `drop_evidence_content_locked`. -/
def dropped (slot : EvidenceSlot) : EvidenceSlot :=
  { slot.cleared with state := { slot.state with revalidationRequired := true } }

/-- The slot some durable bookkeeping comes back as: without content. -/
def restored (state : EvidenceSlotState) : EvidenceSlot :=
  { state := { state with revalidationRequired := true } }

@[simp] theorem key_cleared (slot : EvidenceSlot) : slot.cleared.key = slot.key := rfl
@[simp] theorem key_dropped (slot : EvidenceSlot) : slot.dropped.key = slot.key := rfl

end EvidenceSlot

structure Governor where
  options : GovernorOptions := {}
  isOpen : Bool := false
  accepting : Bool := false
  shuttingDown : Bool := false
  state : DurableState := {}
  store : Store := {}
  index : PolicyIndex := {}
  slots : List EvidenceSlot := []    -- `slot_index_` finds the first slot of a key
  clock : LogicalClock := {}
  decisionsSinceSave : UInt64 := 0
  stateDirty : Bool := false
  deriving Inhabited

def notOpen : Status := invalid .persistenceNotInitialized "not open"

def shuttingDownStatus : Status := .failure .shuttingDown .shuttingDown "runtime is shutting down"

def staleEpoch : Status :=
  .failure .stale .epochMismatch "publisher epoch does not match the fabric epoch"

namespace Governor

def findSlot (g : Governor) (domain : OversubscriptionDomainId) (kind : EvidenceKind) :
    Option EvidenceSlot :=
  Table.get EvidenceSlot.key (slotKey domain kind) g.slots

def modifySlot (g : Governor) (domain : OversubscriptionDomainId) (kind : EvidenceKind)
    (f : EvidenceSlot → EvidenceSlot) : Governor :=
  { g with slots := Table.modify EvidenceSlot.key (slotKey domain kind) f g.slots }

/-- `ensure_slot`: the slot exists afterwards. -/
def ensureSlot (g : Governor) (domain : OversubscriptionDomainId) (kind : EvidenceKind) : Governor :=
  match g.findSlot domain kind with
  | some _ => g
  | none => { g with slots := g.slots ++ [{ state := { domain, kind := kind.code } }] }

def registration (g : Governor) (publisher : PublisherId) : Option PublisherRegistration :=
  Table.get (·.publisher) publisher g.state.publishers

def modifyRegistration (g : Governor) (publisher : PublisherId)
    (f : PublisherRegistration → PublisherRegistration) : Governor :=
  { g with state := { g.state with
      publishers := Table.modify (·.publisher) publisher f g.state.publishers } }

/-- The runtime state of a domain. -/
def runtime (g : Governor) (domain : OversubscriptionDomainId) : Option DomainRuntimeState :=
  Table.get (·.domain) domain g.state.domains

def dropEvidenceContent (g : Governor) : Governor :=
  { g with slots := g.slots.map EvidenceSlot.dropped }

def marked (g : Governor) : Governor := { g with stateDirty := true }

def observing (g : Governor) (tick : UInt64) : Governor :=
  if tick = 0 then g else { g with clock := g.clock.observe tick }

/-! ## Durability -/

/-- The state as it is about to be saved. -/
def stamped (g : Governor) : Governor :=
  { g with state := { g.state with
      evidence := g.slots.map (·.state)
      tick := g.clock.tick
      revision := g.state.revision + 1 } }

def saveState (g : Governor) : Storage (Status × Governor) := do
  let g := g.stamped
  let status ← g.store.save g.state
  pure (status, if status.isOk then { g with decisionsSinceSave := 0, stateDirty := false } else g)

/-- `persist_state_locked`; during `open` the store is live before the runtime
is. -/
def persistState (g : Governor) (force : Bool) : Storage (Status × Governor) :=
  if !g.isOpen then
    if g.store.isOpen then g.saveState else pure (notOpen, g)
  else if !force && !g.stateDirty then pure (.success, g)
  else if !force && g.decisionsSinceSave < g.options.saveStateEveryDecisions then
    pure (.success, g)
  else g.saveState

/-! ## Lifecycle -/

def stampDomain (d : DomainConfig) : DomainConfig :=
  if d.generation.valid then d else { d with generation := ⟨1⟩ }

/-- The initial policy, with the identities it leaves unset. -/
def initialPolicy (policy : OversubscriptionPolicy) : OversubscriptionPolicy :=
  computePolicyDigest { policy with
    id := if policy.id.valid then policy.id else ⟨1⟩
    generation := ⟨1⟩
    domains := policy.domains.map stampDomain }

def freshState (policy : OversubscriptionPolicy) : DurableState where
  revision := 1
  incarnation := ⟨1⟩
  epoch := ⟨1⟩
  policy := policy
  policyGeneration := policy.generation
  policyDigest := policy.digest

/-- `initialize_locked`. -/
def initializeLocked (g : Governor) (policy : OversubscriptionPolicy) : Storage (Status × Governor) :=
  let policy := initialPolicy policy
  let status := validatePolicy policy
  if !status.isOk then pure (status, g)
  else
    persistState
      { g with
        state := freshState policy
        index := .rebuild policy
        slots := []
        stateDirty := true } true

/-- The runtime over a state that was loaded. -/
def restored (g : Governor) (state : DurableState) : Governor :=
  let epoch := if state.epoch.valid then state.epoch else ⟨1⟩
  let evidence := state.evidence.map fun e => { e with revalidationRequired := true }
  { g with
    state := { state with incarnation := ⟨state.incarnation.value + 1⟩, epoch, evidence }
    clock := ⟨state.tick⟩
    slots := evidence.map EvidenceSlot.restored
    index := .rebuild state.policy
    stateDirty := true }

def closeStore (g : Governor) : Governor := { g with store := g.store.close }

/-- What `open` ends with: a runtime that is live, or a closed store. -/
def opened (r : Status × Governor) : Status × Governor :=
  if r.1.isOk then (.success, { r.2 with isOpen := true, accepting := true })
  else (r.1, r.2.closeStore)

/-- `shutdown`, without the jobs it cancels. -/
def shutdown (g : Governor) : Storage (Status × Governor) :=
  let g := { g with accepting := false, shuttingDown := true }
  if !g.isOpen then pure (.success, g) else g.persistState true

def close (g : Governor) : Storage (Status × Governor) := do
  let (status, g) ← g.shutdown
  pure (status, if g.isOpen then { g.closeStore with isOpen := false } else g)

end Governor

def Governor.open (g : Governor) (options : GovernorOptions) (policy : OversubscriptionPolicy) :
    Storage (Status × Governor) :=
  if g.isOpen then pure (.failure .alreadyExists .none "governor is already open", g)
  else if options.stateDirectory = "" then
    pure (invalid .persistenceNotInitialized "state_directory is required", g)
  else if 64 < options.workerThreads then
    pure (outOfRange .limitExceeded "worker_threads out of bound", g)
  else if options.maxPendingJobs = 0 then
    pure (outOfRange .limitExceeded "max_pending_jobs must be non-zero", g)
  else do
    let g := { g with options }
    let (status, store) ← g.store.open options.storeOptions
    let g := { g with store }
    if !status.isOk then pure (status, g)
    else
      let (loaded, store) ← store.load
      let g := { g with store }
      match loaded with
      | .error status => pure (status, g.closeStore)
      | .ok (none, _) => do
          let r ← g.initializeLocked policy
          pure (Governor.opened r)
      | .ok (some state, _) =>
          if state.incarnation.value = UInt64.ofNat u64Max then
            pure (.failure .overflow .arithmeticOverflow "incarnation overflow",
              { g with state }.closeStore)
          else do
            let r ← (g.restored state).persistState true
            pure (Governor.opened r)

namespace Governor

/-! ## Configuration -/

/-- The generation `install_policy` gives a domain, from its predecessor. -/
def installDomain (current : OversubscriptionPolicy) (d : DomainConfig) : DomainConfig :=
  match findDomain current d.id with
  | none => stampDomain d
  | some previous =>
      stampDomain <|
        if domainConfigDigest previous = domainConfigDigest d then
          { d with generation := previous.generation }
        else if d.generation.value < previous.generation.value + 1 then
          { d with generation := ⟨previous.generation.value + 1⟩ }
        else d

/-- `policy_content_digest`: the digest, whatever the generations. -/
def policyContentDigest (policy : OversubscriptionPolicy) : Digest :=
  policyDigest { policy with
    generation := ⟨1⟩
    domains := policy.domains.map fun d => { d with generation := ⟨1⟩ } }

def nextPolicyGeneration (current : OversubscriptionPolicy) : UInt64 :=
  if current.generation.valid then current.generation.value + 1 else 1

/-- The policy `install_policy` puts in place. -/
def stampedPolicy (current policy : OversubscriptionPolicy) : OversubscriptionPolicy :=
  computePolicyDigest { policy with
    id := if policy.id.valid then policy.id else if current.id.valid then current.id else ⟨1⟩
    generation := ⟨nextPolicyGeneration current⟩
    domains := policy.domains.map (installDomain current) }

/-- The runtime under another policy: no evidence survives the change. -/
def withPolicy (g : Governor) (policy : OversubscriptionPolicy) : Governor :=
  { g.dropEvidenceContent with
    state := { g.state with
      policy, policyGeneration := policy.generation, policyDigest := policy.digest }
    index := .rebuild policy
    stateDirty := true }

def installPolicy (g : Governor) (policy : OversubscriptionPolicy) (tick : UInt64) :
    Storage (Status × Governor) :=
  if !g.isOpen then pure (notOpen, g)
  else if !g.accepting then pure (shuttingDownStatus, g)
  else
    let g := g.observing tick
    let current := g.state.policy
    if nextPolicyGeneration current = 0 then
      pure (.failure .overflow .arithmeticOverflow "policy generation overflow", g)
    else
      let next := stampedPolicy current policy
      if current.generation.valid && policyContentDigest current = policyContentDigest next then
        pure (.success, g)
      else
        let status := validatePolicy next
        if !status.isOk then pure (status, g) else (g.withPolicy next).persistState true

/-- The runtime in a later epoch: publishers and domains are fenced, and no
evidence survives. -/
def withEpoch (g : Governor) (next : FabricEpoch) : Governor :=
  { g.dropEvidenceContent with
    state := { g.state with
      epoch := next
      publishers := g.state.publishers.map fun r =>
        { r with fenced := true, fenceReason := ReasonCode.epochNotAdvanced.code }
      domains := g.state.domains.map fun d =>
        { d with
          fenced := true
          fenceReason := ReasonCode.epochMismatch.code
          fenceEpoch := next
          stickyOutcome := Outcome.stale.code } }
    stateDirty := true }

def advanceEpoch (g : Governor) (next : FabricEpoch) : Storage (Status × Governor) :=
  if !g.isOpen then pure (notOpen, g)
  else if !next.valid ∨ next.value ≤ g.state.epoch.value then
    pure (invalid .epochNotAdvanced "the fabric epoch must strictly advance", g)
  else (g.withEpoch next).persistState true

def advanceTick (g : Governor) (delta : UInt64) : Storage (Status × Governor) :=
  if !g.isOpen then pure (notOpen, g)
  else
    match g.clock.advance delta with
    | none => pure (.failure .overflow .arithmeticOverflow "tick overflow", g)
    | some clock =>
        pure (.success,
          { g with clock, state := { g.state with tick := clock.tick }, stateDirty := true })

def save (g : Governor) : Storage (Status × Governor) :=
  if !g.isOpen then pure (notOpen, g) else g.persistState true

end Governor

end Oversub
