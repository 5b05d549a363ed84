import Oversub.Lib.Simulation
import Oversub.Runtime.Exchange
import Oversub.Runtime.Jobs

/-!
# Oversub.Runtime.Coordinator

The coordinator process (`coordinator.hpp`, `coordinator.cpp`): the thread that
starts and stops it, the accept loop, and a handler for each connection, over
one governor.  A handler is cut where it reads or calls the governor, so other
handlers may come in between: HELLO is many steps, and a later frame is one.

Whatever the peers send and however the handlers interleave, the governor and
its directory go through a session (`Coordinator.refines`).
-/

namespace Oversub

open Wire Reader Crash Files Trace

structure CoordinatorOptions where
  governor : GovernorOptions := {}
  maxConnections : UInt32 := 8
  maxFramesPerConnection : UInt64 := 65536

namespace Coordinator

/-! ## A connection -/

/-- What a response to HELLO still lacks. -/
inductive Reading where
  | epoch | policyGeneration | evidenceGenerations | publisherSequence
  deriving DecidableEq

/-- Where a handler is in `handle_connection`: before HELLO, about to read the
epoch, about to register or to adopt with the epoch it read, about to read
something for the response, at the head of the loop with so many frames
counted, in `recv_frame`, or past the end. -/
inductive Phase where
  | fresh
  | greeting (hello : HelloRequest) (adopt : Bool)
  | registering (hello : HelloRequest) (adopt : Bool) (epoch : FabricEpoch)
  | welcoming (hello : HelloRequest) (reading : Reading) (response : HelloAck)
  | serving (frames : UInt64)
  | receiving (frames : UInt64)
  | closed

/-- A connection with its handler, and the frames it was sent. -/
structure Handler where
  id : Nat
  phase : Phase := .fresh
  sent : List Frame := []
  finished : Bool := false

/-- The first frame of a connection, as far as the governor is not asked. -/
def readGreeting (f : Frame) : Except Status HelloRequest :=
  if f.1 ≠ MessageType.hello.raw then .error (invalid .protocolViolation "the first frame must be HELLO")
  else
    match readHello.whole f.2 with
    | none => .error (frameMalformed "HELLO payload is malformed")
    | some hello =>
        if hello.protocolVersion ≠ kProtocolVersion then
          .error (.failure .unsupported .publisherProtocolMismatch "protocol version mismatch")
        else .ok hello

/-- The HELLO of a worker is read as it was meant. -/
theorem readGreeting_frame {request : HelloRequest} : readGreeting (WorkerRequest.hello request).frame =
    .ok { request with protocolVersion := kProtocolVersion } := by
  have htype : (WorkerRequest.hello request).frame.1 = MessageType.hello.raw := rfl
  have hread : readHello.whole (WorkerRequest.hello request).frame.2 =
      some { request with protocolVersion := kProtocolVersion } := (reads_hello _).whole
  rw [readGreeting, if_neg (not_not.mpr htype), hread]
  exact if_neg (not_not.mpr rfl)

/-- What a handler did, and whether it requests the stop of the coordinator. -/
structure Turn where
  handler : Handler
  stops : Bool := false

namespace Handler

def enter (h : Handler) (phase : Phase) : Turn where
  handler := { h with phase }

/-- A frame is sent, and the connection is left. -/
def leave (h : Handler) (reply : Frame) : Turn where
  handler := { h with phase := .closed, sent := h.sent ++ [reply] }

/-- A frame is sent, and the handler goes on if that succeeds. -/
def goOn (h : Handler) (reply : Frame) (sends : Bool) (phase : Phase) : Turn where
  handler := { h with phase := if sends then phase else .closed, sent := h.sent ++ [reply] }

def greeted (h : Handler) (frame : Frame) : Turn :=
  match readGreeting frame with
  | .error status => h.leave (rejectWith status)
  | .ok hello => h.enter (.greeting hello hello.adoptIncarnation)

/-- What becomes of the status of a registration. -/
def registered (h : Handler) (hello : HelloRequest) (adopted : Bool) (status : Status) : Turn :=
  if !status.isOk && adopted && status.reason = .publisherNotRegistered then h.enter (.greeting hello false)
  else if !status.isOk then h.leave (rejectWith status)
  else h.enter (.welcoming hello .epoch {})

/-- A reading for the response, which is sent after the last one. -/
def welcome (h : Handler) (g : Governor) (hello : HelloRequest) (reading : Reading) (response : HelloAck)
    (sends : Bool) : Turn :=
  let full := helloResponse g hello
  match reading with
  | .epoch => h.enter (.welcoming hello .policyGeneration { response with epoch := full.epoch })
  | .policyGeneration =>
      h.enter (.welcoming hello .evidenceGenerations { response with policyGeneration := full.policyGeneration })
  | .evidenceGenerations =>
      h.enter (.welcoming hello .publisherSequence { response with
        capacityGeneration := full.capacityGeneration
        reservationGeneration := full.reservationGeneration
        admissionGeneration := full.admissionGeneration })
  | .publisherSequence =>
      h.goOn (MessageType.helloAck.raw, encodeHelloResponse { response with lastSequence := full.lastSequence })
        sends (.serving 0)

/-- The reply to a frame: a handler returns after a rejection, and after it has
acknowledged SHUTDOWN. -/
def answered (h : Handler) (frames : UInt64) (reply : Frame) (sends : Bool) : Turn :=
  if reply.1 = MessageType.reject.raw then h.leave reply
  else if reply.1 = MessageType.shutdownAck.raw then { h.leave reply with stops := true }
  else h.goOn reply sends (.serving frames)

/-- What comes next for a handler: `recv_frame` returns with a frame or fails,
it goes on, or its thread ends.  Its own frame may or may not be sent. -/
inductive Action where
  | receive (frame : Frame) (sends : Bool) (order : MapOrder) (wall : UInt64)
  | hangUp
  | proceed (sends : Bool)
  | finish

/-- A part of `handle_connection` that does not change the governor. -/
def quiet (stopRequested : Bool) (g : Governor) (h : Handler) (a : Action) : Turn :=
  match a, h.phase with
  | .receive frame _ _ _, .fresh => h.greeted frame
  | .hangUp, .fresh => h.enter .closed
  | .hangUp, .receiving _ => h.enter .closed
  | .proceed _, .greeting hello adopt => h.enter (.registering hello adopt g.state.epoch)
  | .proceed sends, .welcoming hello reading response => h.welcome g hello reading response sends
  | .proceed _, .serving frames => h.enter (if stopRequested then .closed else .receiving frames)
  | .finish, .closed => { handler := { h with finished := true } }
  | _, _ => { handler := h }

/-- The part of `handle_connection` from one cut to the next. -/
def act (o : CoordinatorOptions) (stopRequested : Bool) (g : Governor) (h : Handler) (a : Action) :
    Storage (Turn × Governor) :=
  match a, h.phase with
  | .receive frame sends order wall, .receiving frames => do
      let (answer, g) ← serve order wall (o.maxFramesPerConnection < frames + 1) g frame
      pure (h.answered (frames + 1) answer.frame sends, g)
  | .proceed _, .registering hello true epoch => do
      let (status, g) ← g.adoptIncarnation hello.publisher hello.incarnation epoch hello.tick
      pure (h.registered hello true status, g)
  | .proceed _, .registering hello false epoch => do
      let (status, g) ← g.registerPublisher hello.publisher hello.incarnation epoch hello.tick
      pure (h.registered hello false status, g)
  | _, _ => pure (h.quiet stopRequested g a, g)

end Handler

/-! ## The process -/

/-- Where the accept loop is: not begun, at its head with so many failures in a
row, in `tcp_accept`, or past the end. -/
inductive Acceptor where
  | idle
  | looping (failures : UInt32)
  | accepting (failures : UInt32)
  | ended
  deriving DecidableEq

end Coordinator

/-- The connections are numbered through all processes on a directory. -/
structure Coordinator where
  options : CoordinatorOptions := {}
  system : System
  stopRequested : Bool := false
  acceptor : Coordinator.Acceptor := .idle
  handlers : List Coordinator.Handler := []
  connections : Nat := 0

namespace Coordinator

/-- `start`, with what becomes of `tcp_listen`; the accept loop; a handler; the
first and the last part of `stop`; and the end of the process. -/
inductive Event where
  | start (options : CoordinatorOptions) (policy : OversubscriptionPolicy) (listens : Bool)
      (fates closeFates : List Fate)
  | poll
  | accept (ok : Bool)
  | handle (id : Nat) (action : Handler.Action) (fates : List Fate)
  | requestStop
  | close (fates : List Fate)
  | crash

/-- A process that has just started on a directory. -/
def boot (disk : Disk) (connections : Nat) : Coordinator := { system := .boot disk, connections }

/-- A call of the governor, and what the coordinator makes of its result. -/
def run {α : Type} (s : Coordinator) (fates : List Fate) (p : Storage (α × Governor))
    (k : α → Coordinator → Coordinator) : Coordinator :=
  match p ⟨s.system.disk, fates⟩ with
  | (some (a, governor), w) => k a { s with system := ⟨governor, w.disk⟩ }
  | (none, w) => boot w.disk s.connections

def find (s : Coordinator) (id : Nat) : Option Handler := s.handlers.find? (·.id = id)

def put (s : Coordinator) (h : Handler) : Coordinator :=
  { s with handlers := s.handlers.map fun x => if x.id = h.id then h else x }

/-- `start`, after the runtime was opened or not. -/
def listen (s : Coordinator) (listens : Bool) (closeFates : List Fate) (status : Status) : Coordinator :=
  if !status.isOk then s
  else if listens then { s with acceptor := .looping 0 }
  else s.run closeFates s.system.governor.close fun _ s => s

def start (s : Coordinator) (options : CoordinatorOptions) (policy : OversubscriptionPolicy) (listens : Bool)
    (fates closeFates : List Fate) : Coordinator :=
  if s.acceptor ≠ .idle then s
  else if options.maxConnections = 0 || options.maxFramesPerConnection = 0 then { s with options }
  else
    { s with options }.run fates (s.system.governor.open options.governor policy) fun status s =>
      s.listen listens closeFates status

def poll (s : Coordinator) : Coordinator :=
  match s.acceptor with
  | .looping failures => { s with acceptor := if s.stopRequested then .ended else .accepting failures }
  | _ => s

def reapHandlers (s : Coordinator) : Coordinator := { s with handlers := s.handlers.filter (!·.finished) }

/-- `tcp_accept` returns; a connection for which there is no room is rejected
on the spot. -/
def accept (s : Coordinator) (ok : Bool) : Coordinator :=
  match s.acceptor with
  | .accepting failures =>
      if !ok then
        { s with acceptor := if s.stopRequested || 16 < failures + 1 then .ended else .looping (failures + 1) }
      else if s.stopRequested then { s with acceptor := .ended }
      else
        let s := { s.reapHandlers with acceptor := .looping 0 }
        if s.options.maxConnections.toNat ≤ s.handlers.length then s
        else { s with handlers := s.handlers ++ [{ id := s.connections }], connections := s.connections + 1 }
  | _ => s

def dispatch (s : Coordinator) (id : Nat) (action : Handler.Action) (fates : List Fate) : Coordinator :=
  match s.find id with
  | none => s
  | some h =>
      s.run fates (h.act s.options s.stopRequested s.system.governor action) fun turn s =>
        { s.put turn.handler with stopRequested := s.stopRequested || turn.stops }

/-- The accept loop and all handlers have been joined. -/
def Joined (s : Coordinator) : Prop :=
  s.stopRequested = true ∧ (s.acceptor = .idle ∨ s.acceptor = .ended) ∧ ∀ h ∈ s.handlers, h.finished = true

instance (s : Coordinator) : Decidable s.Joined := inferInstanceAs (Decidable (_ ∧ _))

def close (s : Coordinator) (fates : List Fate) : Coordinator :=
  if s.Joined then
    { s with acceptor := .idle, handlers := [] }.run fates s.system.governor.close fun _ s => s
  else s

def step (s : Coordinator) : Event → Coordinator
  | .start options policy listens fates closeFates => s.start options policy listens fates closeFates
  | .poll => s.poll
  | .accept ok => s.accept ok
  | .handle id action fates => s.dispatch id action fates
  | .requestStop => { s with stopRequested := true }
  | .close fates => s.close fates
  | .crash => boot s.system.disk s.connections

end Coordinator

/-- A step of the coordinator. -/
abbrev Coordinator.Step : Type := Transition Coordinator Coordinator.Event

/-- The steps of the coordinators of a directory, one process after the other. -/
abbrev Coordinator.History (disk : Disk) (ts : List Coordinator.Step) (s : Coordinator) : Prop :=
  Run Coordinator.step (Coordinator.boot disk 0) ts s

namespace Coordinator

/-! ## The calls of the governor -/

/-- The call that a frame asks for, or the reply where it asks for none. -/
def asked (order : MapOrder) (wall : UInt64) (spent : Bool) (f : Frame) : Except Frame Command :=
  let malformed (detail : String) : Except Frame Command := .error (rejectWith (frameMalformed detail))
  let published {σ : Type} (decoded : Option σ) (call : σ → Command) (what : String) : Except Frame Command :=
    match decoded with
    | none => malformed (what ++ " snapshot is malformed")
    | some snapshot => .ok (call snapshot)
  if spent then
    .error (rejectWith (outOfRange .queueLimitExceeded "frame budget for this connection is exhausted"))
  else if f.1 = MessageType.publish.raw then
    match u32 f.2 with
    | none => malformed "PUBLISH header is malformed"
    | some (kind, body) =>
        if kind = EvidenceKind.capacity.code.raw then
          published (decodeCapacitySnapshot body) .ingestCapacity "capacity"
        else if kind = EvidenceKind.reservation.code.raw then
          published (decodeReservationSnapshot body) .ingestReservations "reservation"
        else if kind = EvidenceKind.admission.code.raw then
          published (decodeAdmissionSnapshot body) .ingestAdmissions "admission"
        else .error (rejectWith (invalid .evidenceMalformed "unknown evidence kind"))
  else if f.1 = MessageType.evaluate.raw then
    match (readTwo u64 u64).whole f.2 with
    | none => malformed "EVALUATE payload is malformed"
    | some (domain, tick) => .ok (.evaluate order wall ⟨⟨domain⟩, tick⟩)
  else if f.1 = MessageType.revalidate.raw then
    match decodeRevalidateRequest f.2 with
    | none => malformed "REVALIDATE payload is malformed"
    | some d => .ok (.revalidate d)
  else if f.1 = MessageType.fencePublisher.raw then
    match (readTwo u64 u32).whole f.2 with
    | none => malformed "FENCE_PUBLISHER payload is malformed"
    | some (publisher, reason) => .ok (.fencePublisher ⟨publisher⟩ ⟨reason⟩)
  else if f.1 = MessageType.shutdown.raw then .error (MessageType.shutdownAck.raw, encodeStatus .success)
  else .error (rejectWith (invalid .protocolViolation "unexpected message type"))

/-- The reply to a frame that tells what the governor returned. -/
def toldOf : Reply → Frame
  | .status status => (MessageType.publishAck.raw, encodeStatus status)
  | .ingested outcome =>
      (MessageType.publishAck.raw, encodePublishAck {
        code := outcome.status.code.code
        reason := outcome.status.reason.code
        detail := textBytes outcome.status.detail
        generation := outcome.generation
        duplicate := outcome.duplicate })
  | .decided result => decisionFrame result
  | .revalidated result => (MessageType.revalidateAck.raw, encodeRevalidateAck (revalidateAck result))

/-- The reply to a frame, after the call it asks for. -/
def telling (g : Governor) : Except Frame Command → Storage (Answer × Governor)
  | .error reply => pure ({ frame := reply }, g)
  | .ok c => do
      let r ← c.perform g
      pure ({ returned := some r.1, frame := toldOf r.1 }, r.2)

section

variable {order : MapOrder} {wall : UInt64} {spent : Bool} {g : Governor} {f : Frame}

/-- What follows a call gets its reply. -/
theorem replying_bind {α β : Type} {reply : α → Reply} {p : Storage (α × Governor)}
    {f : Reply × Governor → Storage β} :
    (replying reply p >>= f : Storage β) = (do let r ← p; f (reply r.1, r.2) : Storage β) := by
  funext w
  rw [replying, bind_apply, bind_apply, bind_apply]
  cases p w with
  | mk o w' => cases o <;> rfl

/-- A frame is served by at most one call of the governor. -/
theorem serve_asked : serve order wall spent g f = telling g (asked order wall spent f) := by
  have htelling {α : Type} {c : Command} {reply : α → Reply} {p : Storage (α × Governor)}
      (hc : c.perform g = replying reply p) : telling g (.ok c) =
        (do let r ← p; pure ({ returned := some (reply r.1), frame := toldOf (reply r.1) }, r.2) :
          Storage (Answer × Governor)) := by
    rw [telling, hc, replying_bind]
  unfold serve asked
  dsimp only
  split
  · rfl
  split
  · cases u32 f.2 with
    | none => rfl
    | some p =>
        dsimp only
        split
        · unfold publish
          cases decodeCapacitySnapshot p.2 with
          | none => rfl
          | some snapshot => exact (htelling rfl).symm
        split
        · unfold publish
          cases decodeReservationSnapshot p.2 with
          | none => rfl
          | some snapshot => exact (htelling rfl).symm
        split
        · unfold publish
          cases decodeAdmissionSnapshot p.2 with
          | none => rfl
          | some snapshot => exact (htelling rfl).symm
        · rfl
  split
  · cases (readTwo u64 u64).whole f.2 with
    | none => rfl
    | some p => exact (htelling rfl).symm
  split
  · cases decodeRevalidateRequest f.2 with
    | none => rfl
    | some d => rfl
  split
  · cases (readTwo u64 u32).whole f.2 with
    | none => rfl
    | some p => exact (htelling rfl).symm
  split
  · rfl
  · rfl

end

namespace Handler

/-- What comes next asks the governor, or gets a reply without. -/
def asks (o : CoordinatorOptions) (h : Handler) (a : Action) : Option (Except Frame Command) :=
  match a, h.phase with
  | .receive frame _ order wall, .receiving frames =>
      some (asked order wall (o.maxFramesPerConnection < frames + 1) frame)
  | .proceed _, .registering hello true epoch =>
      some (.ok (.adoptIncarnation hello.publisher hello.incarnation epoch hello.tick))
  | .proceed _, .registering hello false epoch =>
      some (.ok (.registerPublisher hello.publisher hello.incarnation epoch hello.tick))
  | _, _ => none

/-- What the handler makes of the reply. -/
def replied (h : Handler) (a : Action) (reply : Except Frame Reply) : Turn :=
  match a, h.phase, reply with
  | .receive _ sends _ _, .receiving frames, .error frame => h.answered (frames + 1) frame sends
  | .receive _ sends _ _, .receiving frames, .ok reply => h.answered (frames + 1) (toldOf reply) sends
  | .proceed _, .registering hello adopt _, .ok (.status status) => h.registered hello adopt status
  | _, _, _ => { handler := h }

variable {o : CoordinatorOptions} {stopRequested : Bool} {g : Governor} {h : Handler} {a : Action}

/-- **A part of a handler** calls the governor at most once. -/
theorem act_eq : h.act o stopRequested g a = match h.asks o a with
    | none => pure (h.quiet stopRequested g a, g)
    | some (.error reply) => pure (h.replied a (.error reply), g)
    | some (.ok c) => (do let r ← c.perform g; pure (h.replied a (.ok r.1), r.2) : Storage (Turn × Governor)) := by
  cases a with
  | hangUp | finish => rfl
  | receive frame sends order wall =>
      cases hphase : h.phase with
      | receiving frames =>
          simp only [act, asks, hphase]
          rw [serve_asked]
          cases asked order wall (o.maxFramesPerConnection < frames + 1) frame with
          | error reply => simp only [replied, hphase]; rfl
          | ok c =>
              simp only [replied, hphase]
              funext w
              rw [telling, bind_apply, bind_apply, bind_apply]
              cases c.perform g w with
              | mk r w' => cases r <;> rfl
      | fresh | greeting _ _ | registering _ _ _ | welcoming _ _ _ | serving _ | closed =>
          simp only [act, asks, hphase]
  | proceed sends =>
      cases hphase : h.phase with
      | registering hello adopt epoch =>
          cases adopt with
          | true =>
              simp only [act, asks, replied, hphase]
              rw [Command.perform, replying_bind]
          | false =>
              simp only [act, asks, replied, hphase]
              rw [Command.perform, replying_bind]
      | fresh | greeting _ _ | receiving _ | welcoming _ _ _ | serving _ | closed =>
          simp only [act, asks, hphase]

end Handler

/-- The runtime can be opened. -/
def opens (s : System) (options : GovernorOptions) (policy : OversubscriptionPolicy) (fates : List Fate) : Bool :=
  match (s.perform ⟨.openRuntime options policy, fates⟩).1 with
  | some (.status status) => status.isOk
  | _ => false

/-- The calls of the governor that an event makes. -/
def calls (s : Coordinator) : Event → List System.Call
  | .start options policy listens fates closeFates =>
      if s.acceptor ≠ .idle || options.maxConnections = 0 || options.maxFramesPerConnection = 0 then []
      else
        ⟨.openRuntime options.governor policy, fates⟩ ::
          if opens s.system options.governor policy fates && !listens then [⟨.close, closeFates⟩] else []
  | .handle id action fates =>
      match (s.find id).bind fun h => h.asks s.options action with
      | some (.ok c) => [⟨c, fates⟩]
      | _ => []
  | .close fates => if s.Joined then [⟨.close, fates⟩] else []
  | .crash => [⟨.crash, []⟩]
  | .poll | .accept _ | .requestStop => []

section

variable {s : Coordinator} {fates : List Fate} {α : Type} {p : Storage (α × Governor)}
  {k : α → Coordinator → Coordinator} {c : Command} {id : Nat} {h : Handler} {action : Handler.Action}

/-- How a call ends: it returns, or a process is left that has just started. -/
inductive Ran (s : Coordinator) (c : System.Call) (returned : Reply → Coordinator → Coordinator) :
    Coordinator → Prop
  | returned {reply : Reply} (h : (s.system.perform c).1 = some reply) :
      Ran s c returned (returned reply { s with system := s.system.step c })
  | crashed (h : (s.system.perform c).1 = none) (hboot : s.system.step c = .boot (s.system.step c).disk) :
      Ran s c returned (boot (s.system.step c).disk s.connections)

/-- A program that is a call, and what follows from its reply. -/
theorem run_perform {f : Reply → α} {returned : Reply → Coordinator → Coordinator}
    (hp : p = (do let r ← c.perform s.system.governor; pure (f r.1, r.2) : Storage (α × Governor)))
    (hk : ∀ reply s, returned reply s = k (f reply) s) : Ran s ⟨c, fates⟩ returned (s.run fates p k) := by
  cases hreply : (s.system.perform ⟨c, fates⟩).1 with
  | none =>
      obtain ⟨w, hw, hstep⟩ := System.perform_eq_none hreply
      have hrun : s.run fates p k = boot (s.system.step ⟨c, fates⟩).disk s.connections := by
        rw [run, hp, bind_apply, hw, hstep]
        rfl
      rw [hrun]
      exact .crashed hreply (by rw [hstep]; rfl)
  | some reply =>
      obtain ⟨governor, w, hw, hstep⟩ := System.perform_eq_some hreply
      have hrun : s.run fates p k = returned reply { s with system := s.system.step ⟨c, fates⟩ } := by
        rw [run, hp, bind_apply, hw, hk, hstep]
        rfl
      rw [hrun]
      exact .returned hreply

/-- A program that a call replies with. -/
theorem run_replying {reply : α → Reply} {returned : Reply → Coordinator → Coordinator}
    (hc : c.perform s.system.governor = replying reply p) (hk : ∀ a s, returned (reply a) s = k a s) :
    Ran s ⟨c, fates⟩ returned (s.run fates p k) := by
  have hrun : s.run fates p k = s.run fates (c.perform s.system.governor) returned := by
    have hp : c.perform s.system.governor ⟨s.system.disk, fates⟩ =
        replying reply p ⟨s.system.disk, fates⟩ := by rw [hc]
    rw [run, run, hp, replying, bind_apply]
    cases p ⟨s.system.disk, fates⟩ with
    | mk r w =>
        cases r with
        | none => rfl
        | some r => exact (hk r.1 _).symm
  rw [hrun]
  refine run_perform (f := id) ?_ fun _ _ => rfl
  funext w
  rw [bind_apply]
  cases c.perform s.system.governor w with
  | mk r w => cases r <;> rfl

/-- The system after a call, if what follows leaves it as it is. -/
theorem Ran.system {returned : Reply → Coordinator → Coordinator} {c : System.Call} {t : Coordinator}
    (h : Ran s c returned t) (hk : ∀ reply, (s.system.perform c).1 = some reply →
      (returned reply { s with system := s.system.step c }).system = s.system.step c) :
    t.system = s.system.step c := by
  cases h with
  | returned h => exact hk _ h
  | crashed _ hboot => exact hboot.symm

/-- How a call ends whose end is known. -/
theorem Ran.of_perform {returned : Reply → Coordinator → Coordinator} {c : System.Call} {t : Coordinator}
    {reply : Reply} {system : System} (h : Ran s c returned t)
    (hperform : s.system.perform c = (some reply, system)) : t = returned reply { s with system } := by
  have hstep : s.system.step c = system := System.step_of_perform hperform
  cases h with
  | crashed hnone =>
      rw [hperform] at hnone
      cases hnone
  | returned hreply =>
      rw [hperform] at hreply
      obtain rfl := Option.some.inj hreply
      rw [hstep]

/-- A handler that asks the governor. -/
theorem dispatch_called (hfind : s.find id = some h) (hasks : h.asks s.options action = some (.ok c)) :
    Ran s ⟨c, fates⟩ (fun reply s => { s.put (h.replied action (.ok reply)).handler with
      stopRequested := s.stopRequested || (h.replied action (.ok reply)).stops }) (s.dispatch id action fates) := by
  unfold dispatch
  rw [hfind]
  exact run_perform (by rw [Handler.act_eq, hasks]) fun _ _ => rfl

/-- A handler that does not. -/
theorem dispatch_quiet (hfind : s.find id = some h) {turn : Turn}
    (hturn : h.asks s.options action = none ∧ turn = h.quiet s.stopRequested s.system.governor action ∨
      ∃ reply, h.asks s.options action = some (.error reply) ∧ turn = h.replied action (.error reply)) :
    s.dispatch id action fates =
      { s.put turn.handler with stopRequested := s.stopRequested || turn.stops } := by
  unfold dispatch
  rw [hfind]
  dsimp only
  rw [run, Handler.act_eq]
  rcases hturn with ⟨hasks, rfl⟩ | ⟨reply, hasks, rfl⟩
  · rw [hasks]
    rfl
  · rw [hasks]
    rfl

/-! ## One step -/

section

variable {options : CoordinatorOptions} {policy : OversubscriptionPolicy} {listens ok : Bool}
  {closeFates : List Fate}

/-- What `start` makes of a reply. -/
def listened (listens : Bool) (closeFates : List Fate) (reply : Reply) (s : Coordinator) : Coordinator :=
  match reply with
  | .status status => s.listen listens closeFates status
  | _ => s

/-- A coordinator that opens the runtime. -/
theorem start_called (hidle : s.acceptor = .idle)
    (hoptions : (options.maxConnections = 0 || options.maxFramesPerConnection = 0) = false) :
    Ran { s with options } ⟨.openRuntime options.governor policy, fates⟩ (listened listens closeFates)
      (s.start options policy listens fates closeFates) := by
  unfold start
  rw [if_neg (not_not.mpr hidle), if_neg (by rw [hoptions]; exact Bool.false_ne_true)]
  exact run_replying rfl fun _ _ => rfl

theorem close_called (s : Coordinator) : Ran s ⟨.close, fates⟩ (fun _ s => s)
    (s.run fates s.system.governor.close fun _ s => s) := run_replying rfl fun _ _ => rfl

theorem system_listen {t : Coordinator} {status : Status} : (t.listen listens closeFates status).system =
    (if status.isOk && !listens then [⟨.close, closeFates⟩] else []).foldl System.step t.system := by
  unfold listen
  by_cases hok : status.isOk = true
  · simp only [hok, Bool.not_true, Bool.true_and]
    cases listens with
    | true => rfl
    | false => exact (close_called t).system fun _ _ => rfl
  · simp [hok]

theorem system_start : (s.start options policy listens fates closeFates).system =
    (s.calls (.start options policy listens fates closeFates)).foldl System.step s.system := by
  by_cases hidle : s.acceptor = .idle
  · cases hoptions : (options.maxConnections = 0 || options.maxFramesPerConnection = 0) with
    | true => simp [start, calls, hidle, hoptions]
    | false =>
        have hran := @start_called s fates options policy listens closeFates hidle hoptions
        have hcalls : s.calls (.start options policy listens fates closeFates) =
            ⟨.openRuntime options.governor policy, fates⟩ ::
              if opens s.system options.governor policy fates && !listens then [⟨.close, closeFates⟩] else [] := by
          simp only [Bool.or_eq_false_iff] at hoptions
          simp only [calls, hidle, hoptions]
          simp
        rw [hcalls, opens]
        generalize s.start options policy listens fates closeFates = t at hran
        cases hran with
        | crashed hnone hboot =>
            rw [hnone]
            exact hboot.symm
        | returned hreply =>
            rename_i reply
            replace hreply : (s.system.perform ⟨.openRuntime options.governor policy, fates⟩).1 = some reply := hreply
            rw [hreply]
            cases reply with
            | status status =>
                exact system_listen
            | ingested | decided | revalidated => rfl
  · simp [start, calls, hidle]

theorem system_dispatch : (s.dispatch id action fates).system =
    (s.calls (.handle id action fates)).foldl System.step s.system := by
  cases hfind : s.find id with
  | none => simp [dispatch, calls, hfind]
  | some h =>
      cases hasks : h.asks s.options action with
      | none =>
          rw [dispatch_quiet hfind (.inl ⟨hasks, rfl⟩)]
          simp [calls, hfind, hasks, put]
      | some r =>
          cases r with
          | error reply =>
              rw [dispatch_quiet hfind (.inr ⟨reply, hasks, rfl⟩)]
              simp [calls, hfind, hasks, put]
          | ok c =>
              rw [(dispatch_called hfind hasks).system fun _ _ => rfl]
              simp [calls, hfind, hasks]

/-- **In view of the governor** and its directory, an event is some calls of a
session. -/
theorem simulates : Simulates step System.step (·.system) calls := by
  intro s e
  cases e with
  | start options policy listens fates closeFates => exact system_start
  | poll =>
      simp only [step, poll, calls]
      split <;> rfl
  | accept ok =>
      simp only [step, accept, calls]
      repeat' split
      all_goals rfl
  | handle id action fates => exact system_dispatch
  | requestStop => rfl
  | close fates =>
      simp only [step, close, calls]
      split
      · exact (close_called _).system fun _ _ => rfl
      · rfl
  | crash => rfl

end

end

/-- **The coordinator refines the session**: through all interleavings of the
connections, whatever they send, and through all restarts, the governor and its
directory go through the calls that the steps made, one after the other. -/
theorem refines {disk : Disk} {ts : List Step} {s : Coordinator} (h : History disk ts s) :
    ∃ us, SessionRun disk us s.system ∧ us.map (·.label) = ts.flatMap fun t => t.before.calls t.label :=
  ⟨_, simulates.run h, map_label_image⟩

/-- A coordinator that starts, and a connection to it. -/
def firstEvents : List Event :=
  [.start { governor := Governor.sampleOptions } samplePolicy true [] [], .poll, .accept true,
    .handle 0 (.receive (MessageType.hello.raw, []) true .listed 0) []]

theorem refines_sample : ∃ us, SessionRun Governor.emptyDisk us (firstEvents.foldl step (boot Governor.emptyDisk 0)).system ∧
    us.map (·.label) = (play step (boot Governor.emptyDisk 0) firstEvents).flatMap fun t => t.before.calls t.label :=
  refines (run_play_foldl rfl)

end Coordinator

end Oversub
