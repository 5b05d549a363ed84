import Oversub.Lib.Trace
import Oversub.Runtime.Decide

/-!
# Oversub.Runtime.Session

Runs of the runtime: a governor and its directory, under any sequence of
calls.  A crash at any write leaves the directory as that write left it and a
governor that has yet to be opened.

The steps of a run are classified by what they did, so that a property of
runs can say what happened since when.
-/

namespace Oversub

open Crash Files Trace

/-! ## Calls -/

inductive Command where
  | openRuntime (options : GovernorOptions) (policy : OversubscriptionPolicy)
  | close
  | shutdown
  | installPolicy (policy : OversubscriptionPolicy) (tick : UInt64)
  | advanceEpoch (next : FabricEpoch)
  | advanceTick (delta : UInt64)
  | save
  | registerPublisher (publisher : PublisherId) (incarnation : IncarnationId) (epoch : FabricEpoch)
      (tick : UInt64)
  | adoptIncarnation (publisher : PublisherId) (incarnation : IncarnationId) (epoch : FabricEpoch)
      (tick : UInt64)
  | fencePublisher (publisher : PublisherId) (reason : Code ReasonCode)
  | ingestCapacity (snapshot : CapacitySnapshot)
  | ingestReservations (snapshot : ReservationSnapshot)
  | ingestAdmissions (snapshot : AdmissionSnapshot)
  | evaluate (order : MapOrder) (wall : UInt64) (request : EvaluationRequest)
  | revalidate (decision : Decision)
  | crash

inductive Reply where
  | status (status : Status)
  | ingested (outcome : IngestOutcome)
  | decided (result : Except Status Decision)
  | revalidated (result : Except Status RevalidationReport)

/-- The slot a call publishes to. -/
def Command.publication : Command → Option (OversubscriptionDomainId × EvidenceKind)
  | .ingestCapacity snapshot => some (snapshot.domain, .capacity)
  | .ingestReservations snapshot => some (snapshot.domain, .reservation)
  | .ingestAdmissions snapshot => some (snapshot.domain, .admission)
  | _ => none

/-- The generation under which a publication was accepted as new. -/
def Reply.accepted : Reply → Option UInt64
  | .ingested outcome =>
      if outcome.status.isOk && !outcome.duplicate then some outcome.generation else none
  | _ => none

theorem Reply.accepted_eq_some {reply : Reply} {n : UInt64} (h : reply.accepted = some n) :
    ∃ o, reply = .ingested o ∧ o.status.isOk = true ∧ o.duplicate = false := by
  cases reply with
  | ingested o =>
      unfold Reply.accepted at h
      dsimp only at h
      split at h
      next ho =>
        rw [Bool.and_eq_true, Bool.not_eq_true'] at ho
        exact ⟨o, rfl, ho⟩
      · cases h
  | _ => cases h

/-- The decision that was issued. -/
def Reply.issued : Reply → Option Decision
  | .decided (.ok d) => some d
  | _ => none

/-- A reply, with the governor that gave it. -/
def replying {α : Type} (reply : α → Reply) (p : Storage (α × Governor)) :
    Storage (Reply × Governor) := do
  let r ← p
  pure (reply r.1, r.2)

def Command.perform (g : Governor) : Command → Storage (Reply × Governor)
  | .openRuntime options policy => replying .status (g.open options policy)
  | .close => replying .status g.close
  | .shutdown => replying .status g.shutdown
  | .installPolicy policy tick => replying .status (g.installPolicy policy tick)
  | .advanceEpoch next => replying .status (g.advanceEpoch next)
  | .advanceTick delta => replying .status (g.advanceTick delta)
  | .save => replying .status g.save
  | .registerPublisher publisher incarnation epoch tick =>
      replying .status (g.registerPublisher publisher incarnation epoch tick)
  | .adoptIncarnation publisher incarnation epoch tick =>
      replying .status (g.adoptIncarnation publisher incarnation epoch tick)
  | .fencePublisher publisher reason => replying .status (g.fencePublisher publisher reason)
  | .ingestCapacity snapshot => replying .ingested (g.ingestCapacity snapshot)
  | .ingestReservations snapshot => replying .ingested (g.ingestReservations snapshot)
  | .ingestAdmissions snapshot => replying .ingested (g.ingestAdmissions snapshot)
  | .evaluate order wall request => replying .decided (g.evaluate order wall request)
  | .revalidate decision => pure (.revalidated (g.revalidate decision), g)
  | .crash => fun w => (none, w)

/-! ## Runs -/

structure System where
  governor : Governor
  disk : Disk

namespace System

/-- A process that has just started on a directory. -/
def boot (disk : Disk) : System := ⟨{}, disk⟩

/-- A call, and what becomes of the operations it makes on the directory. -/
structure Call where
  command : Command
  fates : List Fate := []

/-- The reply to a call, none where the process crashed, and the state after
it. -/
def perform (s : System) (c : Call) : Option Reply × System :=
  match c.command.perform s.governor ⟨s.disk, c.fates⟩ with
  | (some (reply, governor), w) => (some reply, ⟨governor, w.disk⟩)
  | (none, w) => (none, boot w.disk)

def step (s : System) (c : Call) : System := (s.perform c).2

end System

abbrev Step := Transition System System.Call

/-- The steps from a process started on `disk` to a state. -/
abbrev SessionRun (disk : Disk) (ts : List Step) (s : System) : Prop :=
  Run System.step (System.boot disk) ts s

/-! ## What a step did -/

namespace Step

def reply (t : Step) : Option Reply := (t.before.perform t.label).1

def after (t : Step) : System := t.before.step t.label

def command (t : Step) : Command := t.label.command

/-- The runtime was opened. -/
def Reopens (t : Step) : Prop :=
  (∃ options policy, t.command = .openRuntime options policy) ∧
    t.before.governor.isOpen = false ∧ t.after.governor.isOpen = true

/-- The fabric epoch changed, whatever the call reported. -/
def AdvancesEpoch (t : Step) : Prop :=
  (∃ next, t.command = .advanceEpoch next) ∧
    t.after.governor.state.epoch ≠ t.before.governor.state.epoch

/-- The policy changed, whatever the call reported. -/
def InstallsPolicy (t : Step) : Prop :=
  (∃ policy tick, t.command = .installPolicy policy tick) ∧
    t.after.governor.state.policy ≠ t.before.governor.state.policy

/-- A publication for a slot was accepted as new. -/
def Accepts (t : Step) (domain : OversubscriptionDomainId) (kind : EvidenceKind) : Prop :=
  t.command.publication = some (domain, kind) ∧
    ∃ reply generation, t.reply = some reply ∧ reply.accepted = some generation

/-- The registration of a publisher was changed by an adoption. -/
def Adopts (t : Step) (publisher : PublisherId) : Prop :=
  (∃ incarnation epoch tick, t.command = .adoptIncarnation publisher incarnation epoch tick) ∧
    t.after.governor.registration publisher ≠ t.before.governor.registration publisher

/-- A decision for a domain was recorded, whatever the call reported. -/
def Records (t : Step) (domain : OversubscriptionDomainId) : Prop :=
  (∃ order wall tick, t.command = .evaluate order wall ⟨domain, tick⟩) ∧
    t.after.governor.state.decisionsIssued ≠ t.before.governor.state.decisionsIssued

/-- An evaluation that finds no id for its decision. -/
def ExhaustsIds (t : Step) : Prop :=
  (∃ order wall request, t.command = .evaluate order wall request) ∧
    t.before.governor.state.decisionsIssued = UInt64.ofNat u64Max

/-- Nothing in a step ends the authority of the decisions for a domain. -/
structure Upholds (t : Step) (domain : OversubscriptionDomainId) : Prop where
  reopened : ¬ t.Reopens
  epoch : ¬ t.AdvancesEpoch
  policy : ¬ t.InstallsPolicy
  accepted : ∀ kind, ¬ t.Accepts domain kind
  adopted : ∀ publisher, t.Adopts publisher → ∀ kind slot,
    t.before.governor.findSlot domain kind = some slot → slot.state.publisher ≠ publisher
  recorded : ¬ t.Records domain

end Step

end Oversub
