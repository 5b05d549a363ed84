import Oversub.Net
import Oversub.Protocol
import Oversub.Worker
import Oversub.Runtime.DecisionCodec
import Oversub.Runtime.Explanation
import Oversub.Runtime.Room

/-!
# Oversub.Runtime.Exchange

One request of the worker and the coordinator's reply to it (`protocol.cpp`,
`coordinator.cpp`, `worker.cpp`).  Every reply but that to FENCE_PUBLISHER is
written by the encoder whose decoder the worker applies
(`reply_understood_iff`).
-/

namespace Oversub

open Wire Reader Crash Files

/-! ## Messages -/

inductive MessageType where
  | hello | helloAck | reject | publish | publishAck | evaluate | decisionMessage | revalidate
  | revalidateAck | fencePublisher | shutdown | shutdownAck
  deriving DecidableEq

/-- The values of the source begin with one. -/
def MessageType.raw (t : MessageType) : UInt32 := UInt32.ofNat (t.ctorIdx + 1)

@[simp] theorem MessageType.raw_inj {t t' : MessageType} : t.raw = t'.raw ↔ t = t' := by
  cases t <;> cases t' <;> decide

def kProtocolVersion : UInt32 := 1

def StatusCode.code (c : StatusCode) : Code StatusCode := ⟨UInt32.ofNat c.ctorIdx⟩

structure HelloRequest where
  protocolVersion : UInt32 := kProtocolVersion
  publisher : PublisherId
  incarnation : IncarnationId
  domain : OversubscriptionDomainId
  adoptIncarnation : Bool := false
  tick : UInt64 := 0

/-- `HelloResponse` with the fields the worker does not go on to use. -/
structure HelloAck extends HelloResponse where
  protocolVersion : UInt32 := kProtocolVersion
  policyGeneration : PolicyGeneration := {}
  capacityGeneration : UInt64 := 0
  reservationGeneration : UInt64 := 0
  admissionGeneration : UInt64 := 0

/-- `Status` in the words of the machine. -/
structure StatusMessage where
  code : Code StatusCode
  reason : Code ReasonCode
  detail : List UInt8

structure PublishAck where
  code : Code StatusCode
  reason : Code ReasonCode
  generation : UInt64
  duplicate : Bool
  detail : List UInt8

structure RevalidateAck where
  valid : Bool
  reason : Code ReasonCode
  detail : List UInt8

def encodeHello (h : HelloRequest) : List UInt8 :=
  leBytes32 h.protocolVersion ++ (leBytes64 h.publisher.value ++ (leBytes64 h.incarnation.value ++
    (leBytes64 h.domain.value ++ (writeBoolean h.adoptIncarnation ++ leBytes64 h.tick))))

def readHello : Reader HelloRequest := do
  let protocolVersion ← u32
  let publisher ← u64
  let incarnation ← u64
  let domain ← u64
  let adoptIncarnation ← boolean
  let tick ← u64
  pure {
    protocolVersion, publisher := ⟨publisher⟩, incarnation := ⟨incarnation⟩, domain := ⟨domain⟩,
    adoptIncarnation, tick }

def encodeHelloResponse (r : HelloAck) : List UInt8 :=
  leBytes32 r.protocolVersion ++ (leBytes64 r.epoch.value ++ (leBytes64 r.policyGeneration.value ++
    (leBytes64 r.capacityGeneration ++ (leBytes64 r.reservationGeneration ++
      (leBytes64 r.admissionGeneration ++ leBytes64 r.lastSequence)))))

def readHelloResponse : Reader HelloAck := do
  let protocolVersion ← u32
  let epoch ← u64
  let policyGeneration ← u64
  let capacityGeneration ← u64
  let reservationGeneration ← u64
  let admissionGeneration ← u64
  let lastSequence ← u64
  pure {
    protocolVersion, epoch := ⟨epoch⟩, policyGeneration := ⟨policyGeneration⟩, capacityGeneration,
    reservationGeneration, admissionGeneration, lastSequence }

/-- A detail, cut. -/
def writeDetail (detail : List UInt8) : List UInt8 :=
  writeString kMaxDetailLength (detail.take kMaxDetailLength)

def Status.message (s : Status) : StatusMessage := ⟨s.code.code, s.reason.code, textBytes s.detail⟩

def encodeStatus (s : Status) : List UInt8 :=
  leBytes32 s.message.code.raw ++ (leBytes32 s.message.reason.raw ++ writeDetail s.message.detail)

def readStatus : Reader StatusMessage := do
  let code ← u32
  let reason ← u32
  let detail ← string kMaxDetailLength
  pure { code := ⟨code⟩, reason := ⟨reason⟩, detail }

def encodePublishAck (a : PublishAck) : List UInt8 :=
  leBytes32 a.code.raw ++ (leBytes32 a.reason.raw ++ (leBytes64 a.generation ++ (writeBoolean a.duplicate ++
    writeDetail a.detail)))

def readPublishAck : Reader PublishAck := do
  let code ← u32
  let reason ← u32
  let generation ← u64
  let duplicate ← boolean
  let detail ← string kMaxDetailLength
  pure { code := ⟨code⟩, reason := ⟨reason⟩, generation, duplicate, detail }

def encodeRevalidateAck (a : RevalidateAck) : List UInt8 :=
  writeBoolean a.valid ++ (leBytes32 a.reason.raw ++ writeDetail a.detail)

def readRevalidateAck : Reader RevalidateAck := do
  let valid ← boolean
  let reason ← u32
  let detail ← string kMaxDetailLength
  pure { valid, reason := ⟨reason⟩, detail }

section

variable {detail : List UInt8}

theorem reads_detail : (string kMaxDetailLength).Reads (writeDetail detail) (detail.take kMaxDetailLength) :=
  reads_writeString (by decide) (List.length_take_le _ _)

theorem reads_hello (h : HelloRequest) : readHello.Reads (encodeHello h) h :=
  (reads_u32 _).bind <| (reads_u64 _).bind <| (reads_u64 _).bind <| (reads_u64 _).bind <|
    (reads_writeBoolean _).bind (reads_u64 _).map

theorem reads_helloResponse (r : HelloAck) : readHelloResponse.Reads (encodeHelloResponse r) r :=
  (reads_u32 _).bind <| (reads_u64 _).bind <| (reads_u64 _).bind <| (reads_u64 _).bind <| (reads_u64 _).bind <|
    (reads_u64 _).bind (reads_u64 _).map

theorem reads_status (s : Status) : readStatus.Reads (encodeStatus s)
    { s.message with detail := s.message.detail.take kMaxDetailLength } :=
  (reads_u32 _).bind <| (reads_u32 _).bind reads_detail.map

theorem reads_publishAck (a : PublishAck) : readPublishAck.Reads (encodePublishAck a)
    { a with detail := a.detail.take kMaxDetailLength } :=
  (reads_u32 _).bind <| (reads_u32 _).bind <| (reads_u64 _).bind <| (reads_writeBoolean _).bind reads_detail.map

theorem reads_revalidateAck (a : RevalidateAck) : readRevalidateAck.Reads (encodeRevalidateAck a)
    { a with detail := a.detail.take kMaxDetailLength } :=
  (reads_writeBoolean _).bind <| (reads_u32 _).bind reads_detail.map

end

/-! ## The worker -/

/-- A call of the worker that makes an exchange. -/
inductive WorkerRequest where
  | hello (request : HelloRequest)
  | publishCapacity (snapshot : CapacitySnapshot)
  | publishReservations (snapshot : ReservationSnapshot)
  | publishAdmissions (snapshot : AdmissionSnapshot)
  | evaluate (domain : OversubscriptionDomainId) (tick : UInt64)
  | revalidate (decision : Decision)
  | fencePublisher (publisher : PublisherId) (reason : Code ReasonCode)
  | shutdown

/-- What the worker makes of a reply. -/
inductive Received where
  | rejected (status : StatusMessage)
  | greeted (response : HelloAck)
  | published (ack : PublishAck)
  | decided (decision : DecisionMessage)
  | revalidated (ack : RevalidateAck)
  | fenced (status : StatusMessage)
  | stopped

namespace WorkerRequest

/-- The type of the frame that is sent. -/
def sent : WorkerRequest → MessageType
  | .hello _ => .hello
  | .publishCapacity _ | .publishReservations _ | .publishAdmissions _ => .publish
  | .evaluate _ _ => .evaluate
  | .revalidate _ => .revalidate
  | .fencePublisher _ _ => .fencePublisher
  | .shutdown => .shutdown

def publication (kind : EvidenceKind) (body : List UInt8) : List UInt8 := leBytes32 kind.code.raw ++ body

def payload : WorkerRequest → List UInt8
  | .hello request => encodeHello { request with protocolVersion := kProtocolVersion }
  | .publishCapacity snapshot => publication .capacity (encodeCapacitySnapshot snapshot)
  | .publishReservations snapshot => publication .reservation (encodeReservationSnapshot snapshot)
  | .publishAdmissions snapshot => publication .admission (encodeAdmissionSnapshot snapshot)
  | .evaluate domain tick => leBytes64 domain.value ++ leBytes64 tick
  | .revalidate decision => encodeRevalidateRequest decision
  | .fencePublisher publisher reason => leBytes64 publisher.value ++ leBytes32 reason.raw
  | .shutdown => []

def frame (r : WorkerRequest) : Frame := (r.sent.raw, r.payload)

/-- The type of the reply that is expected. -/
def expected : WorkerRequest → MessageType
  | .hello _ => .helloAck
  | .publishCapacity _ | .publishReservations _ | .publishAdmissions _ => .publishAck
  | .evaluate _ _ => .decisionMessage
  | .revalidate _ => .revalidateAck
  | .fencePublisher _ _ => .publishAck
  | .shutdown => .shutdownAck

def malformedReply (what : String) : Status :=
  .failure .corruptData .frameMalformed (what ++ " is malformed")

def decoded {α : Type} (what : String) (make : α → Received) : Option α → Except Status Received
  | none => .error (malformedReply what)
  | some a => .ok (make a)

def ofAck (ack : PublishAck) : Received := .fenced ⟨ack.code, ack.reason, ack.detail⟩

/-- A reply of the expected type. -/
def accept (r : WorkerRequest) (response : List UInt8) : Except Status Received :=
  match r with
  | .hello _ =>
      match readHelloResponse.whole response with
      | none => .error (malformedReply "HELLO_ACK")
      | some ack =>
          if ack.protocolVersion ≠ kProtocolVersion then
            .error (.failure .unsupported .publisherProtocolMismatch "coordinator protocol version mismatch")
          else .ok (.greeted ack)
  | .publishCapacity _ | .publishReservations _ | .publishAdmissions _ =>
      decoded "PUBLISH_ACK" .published (readPublishAck.whole response)
  | .evaluate _ _ => decoded "DECISION" .decided (decodeDecision response)
  | .revalidate _ => decoded "REVALIDATE_ACK" .revalidated (readRevalidateAck.whole response)
  | .fencePublisher _ _ => decoded "FENCE ack" ofAck (readPublishAck.whole response)
  | .shutdown => .ok .stopped

/-- `exchange` and what the call makes of its response. -/
def receive (r : WorkerRequest) (reply : Frame) : Except Status Received :=
  if reply.1 = MessageType.reject.raw then decoded "REJECT" .rejected (readStatus.whole reply.2)
  else if reply.1 ≠ r.expected.raw then
    .error (.failure .conflict .protocolViolation ("unexpected response type " ++ toString reply.1.toNat))
  else r.accept reply.2

end WorkerRequest

/-! ## The coordinator -/

/-- A reply, with what the governor returned if it was asked. -/
structure Answer where
  returned : Option Reply := none
  frame : Frame

namespace Coordinator

def rejectWith (status : Status) : Frame := (MessageType.reject.raw, encodeStatus status)

/-- A refusal of the coordinator's own. -/
def refuse (status : Status) (g : Governor) : Storage (Answer × Governor) :=
  pure ({ frame := rejectWith status }, g)

def frameMalformed (detail : String) : Status := .failure .corruptData .frameMalformed detail

/-- The response to a publisher that is registered. -/
def helloResponse (g : Governor) (hello : HelloRequest) : HelloAck where
  epoch := g.state.epoch
  policyGeneration := g.state.policy.generation
  capacityGeneration := if g.isOpen then (g.slotState hello.domain .capacity).generation else 0
  reservationGeneration := if g.isOpen then (g.slotState hello.domain .reservation).generation else 0
  admissionGeneration := if g.isOpen then (g.slotState hello.domain .admission).generation else 0
  lastSequence :=
    if hello.publisher.valid then ((g.registration hello.publisher).map (·.lastSequence)).getD 0 else 0

/-- The registration of a publisher that says hello. -/
def register (g : Governor) (hello : HelloRequest) : Storage (Status × Governor) :=
  if hello.adoptIncarnation then do
    let (status, g) ← g.adoptIncarnation hello.publisher hello.incarnation g.state.epoch hello.tick
    if !status.isOk && status.reason = .publisherNotRegistered then
      g.registerPublisher hello.publisher hello.incarnation g.state.epoch hello.tick
    else pure (status, g)
  else g.registerPublisher hello.publisher hello.incarnation g.state.epoch hello.tick

/-- The first frame of a connection. -/
def greet (g : Governor) (f : Frame) : Storage (Answer × Governor) :=
  if f.1 ≠ MessageType.hello.raw then
    refuse (invalid .protocolViolation "the first frame must be HELLO") g
  else
    match readHello.whole f.2 with
    | none => refuse (frameMalformed "HELLO payload is malformed") g
    | some hello =>
        if hello.protocolVersion ≠ kProtocolVersion then
          refuse (.failure .unsupported .publisherProtocolMismatch "protocol version mismatch") g
        else do
          let (status, g) ← register g hello
          pure ({
            returned := some (.status status)
            frame :=
              if !status.isOk then rejectWith status
              else (MessageType.helloAck.raw, encodeHelloResponse (helloResponse g hello)) }, g)

/-- A publication of some kind, as far as its snapshot can be read. -/
def publish {σ : Type} (g : Governor) (decode : List UInt8 → Option σ)
    (ingest : Governor → σ → Storage (IngestOutcome × Governor)) (what : String) (body : List UInt8) :
    Storage (Answer × Governor) :=
  match decode body with
  | none => refuse (frameMalformed (what ++ " snapshot is malformed")) g
  | some snapshot => do
      let (outcome, g) ← ingest g snapshot
      pure ({
        returned := some (.ingested outcome)
        frame := (MessageType.publishAck.raw, encodePublishAck {
          code := outcome.status.code.code
          reason := outcome.status.reason.code
          detail := textBytes outcome.status.detail
          generation := outcome.generation
          duplicate := outcome.duplicate }) }, g)

def readTwo {α β : Type} (first : Reader α) (second : Reader β) : Reader (α × β) := do
  let a ← first
  let b ← second
  pure (a, b)

def decisionFrame : Except Status Decision → Frame
  | .error status => rejectWith status
  | .ok d => (MessageType.decisionMessage.raw, encodeDecision d)

def revalidateAck : Except Status RevalidationReport → RevalidateAck
  | .error status => { valid := false, reason := status.reason.code, detail := textBytes status.detail }
  | .ok report => { valid := report.valid, reason := report.reason.code, detail := textBytes report.detail }

/-- A later frame; `spent` says that the connection has used up its frames. -/
def serve (order : MapOrder) (wall : UInt64) (spent : Bool) (g : Governor) (f : Frame) :
    Storage (Answer × Governor) :=
  if spent then
    refuse (outOfRange .queueLimitExceeded "frame budget for this connection is exhausted") g
  else if f.1 = MessageType.publish.raw then
    match u32 f.2 with
    | none => refuse (frameMalformed "PUBLISH header is malformed") g
    | some (kind, body) =>
        if kind = EvidenceKind.capacity.code.raw then
          publish g decodeCapacitySnapshot Governor.ingestCapacity "capacity" body
        else if kind = EvidenceKind.reservation.code.raw then
          publish g decodeReservationSnapshot Governor.ingestReservations "reservation" body
        else if kind = EvidenceKind.admission.code.raw then
          publish g decodeAdmissionSnapshot Governor.ingestAdmissions "admission" body
        else refuse (invalid .evidenceMalformed "unknown evidence kind") g
  else if f.1 = MessageType.evaluate.raw then
    match (readTwo u64 u64).whole f.2 with
    | none => refuse (frameMalformed "EVALUATE payload is malformed") g
    | some (domain, tick) => do
        let (result, g) ← g.evaluate order wall ⟨⟨domain⟩, tick⟩
        pure ({
          returned := some (.decided result)
          frame := decisionFrame result }, g)
  else if f.1 = MessageType.revalidate.raw then
    match decodeRevalidateRequest f.2 with
    | none => refuse (frameMalformed "REVALIDATE payload is malformed") g
    | some d =>
        pure ({
          returned := some (.revalidated (g.revalidate d))
          frame := (MessageType.revalidateAck.raw, encodeRevalidateAck (revalidateAck (g.revalidate d))) }, g)
  else if f.1 = MessageType.fencePublisher.raw then
    match (readTwo u64 u32).whole f.2 with
    | none => refuse (frameMalformed "FENCE_PUBLISHER payload is malformed") g
    | some (publisher, reason) => do
        let (status, g) ← g.fencePublisher ⟨publisher⟩ ⟨reason⟩
        pure ({
          returned := some (.status status)
          frame := (MessageType.publishAck.raw, encodeStatus status) }, g)
  else if f.1 = MessageType.shutdown.raw then
    pure ({ frame := (MessageType.shutdownAck.raw, encodeStatus .success) }, g)
  else refuse (invalid .protocolViolation "unexpected message type") g

/-- The reply to a frame of a connection that has been greeted or not. -/
def handle (order : MapOrder) (wall : UInt64) (greeted spent : Bool) (g : Governor) (f : Frame) :
    Storage (Answer × Governor) :=
  if greeted then serve order wall spent g f else greet g f

end Coordinator

/-! ## Acknowledgements that are none -/

section

variable {b₀ b₁ b₂ b₃ : UInt8} {bound : Nat} {bytes : List UInt8}

theorem le_ofLeBytes32 (h : b₃ ≠ 0) : 2 ^ 24 ≤ (ofLeBytes32 b₀ b₁ b₂ b₃).toNat := by
  have hpos : 1 ≤ b₃.toNat := Nat.pos_of_ne_zero fun hzero => h (UInt8.toNat_inj.mp hzero)
  have hlt : b₃.toNat < 256 := b₃.toNat_lt
  have hshift : (b₃.toUInt32 <<< 24).toNat = b₃.toNat * 2 ^ 24 := by
    rw [UInt32.toNat_shiftLeft, Nat.shiftLeft_eq]
    simp
    omega
  calc 2 ^ 24 ≤ b₃.toNat * 2 ^ 24 := Nat.le_mul_of_pos_left _ hpos
    _ ≤ (ofLeBytes32 b₀ b₁ b₂ b₃).toNat := by
      rw [ofLeBytes32, UInt32.toNat_or, hshift]
      exact Nat.right_le_or

/-- A string whose length has a fourth byte is too long. -/
theorem string_fourth (hb : bound < 2 ^ 24) (h : b₃ ≠ 0) :
    string bound (b₀ :: b₁ :: b₂ :: b₃ :: bytes) = none := if_pos (Nat.lt_of_lt_of_le hb (le_ofLeBytes32 h))

theorem string_short (h : bytes.length < 4) : string bound bytes = none := by
  have hnone : u32 bytes = none := Option.eq_none_iff_forall_ne_some.mpr fun p hp => by
    have hlength := @length_u32 _ _ _ hp
    omega
  rw [string, hnone]

/-- The length of a detail and its first bytes are read as a generation, the
fifth as a flag, and the four that follow as the length of another detail. -/
theorem publishAck_misread {code reason length : UInt32} (h : bytes[8]? ≠ some 0) :
    readPublishAck.whole (leBytes32 code ++ (leBytes32 reason ++ (leBytes32 length ++ bytes))) = none := by
  have hdetail : string kMaxDetailLength (bytes.drop 5) = none := by
    match hb : bytes.drop 5 with
    | b₀ :: b₁ :: b₂ :: b₃ :: rest =>
        have hninth : bytes[8]? = some b₃ := by
          have hdrop : (bytes.drop 5)[3]? = bytes[8]? := List.getElem?_drop
          rw [← hdrop, hb]
          rfl
        exact string_fourth (by decide) fun hzero => h (hninth.trans (congrArg some hzero))
    | [] | [_] | [_, _] | [_, _, _] => exact string_short (by simp)
  match bytes with
  | [] | [_] | [_, _] | [_, _, _] | [_, _, _, _] => rfl
  | b₀ :: b₁ :: b₂ :: b₃ :: b₄ :: rest =>
      have hrest : string kMaxDetailLength rest = none := hdetail
      obtain ⟨f, hf⟩ : ∃ f, readPublishAck (leBytes32 code ++ (leBytes32 reason ++ (leBytes32 length ++
          b₀ :: b₁ :: b₂ :: b₃ :: b₄ :: rest))) = (string kMaxDetailLength rest).bind f := ⟨_, rfl⟩
      rw [whole, hf, hrest]
      rfl

end

/-! ## What is understood -/

abbrev StatusWords := Code StatusCode × Code ReasonCode

def Status.words (s : Status) : StatusWords := (s.code.code, s.reason.code)

/-- The status code and the reason that the governor returned. -/
def Reply.words : Reply → StatusWords
  | .status s => s.words
  | .ingested outcome => outcome.status.words
  | .decided (.error s) => s.words
  | .decided (.ok _) => Status.success.words
  | .revalidated (.error s) => s.words
  | .revalidated (.ok report) => (StatusCode.ok.code, report.reason.code)

/-- Those that the worker has decoded. -/
def Received.words : Received → StatusWords
  | .rejected status => (status.code, status.reason)
  | .greeted _ => Status.success.words
  | .published ack => (ack.code, ack.reason)
  | .decided _ => Status.success.words
  | .revalidated ack => (StatusCode.ok.code, ack.reason)
  | .fenced status => (status.code, status.reason)
  | .stopped => Status.success.words

/-- The decoder of the call accepts the reply, and finds in it what the
governor returned. -/
def Answer.Understood (a : Answer) (r : WorkerRequest) : Prop :=
  ∃ received, r.receive a.frame = .ok received ∧ ∀ reply, a.returned = some reply → received.words = reply.words

/-- The requests whose replies are not understood: the governor is asked to
fence a publisher, or to revalidate a decision while it is not open. -/
def WorkerRequest.Misread (g : Governor) : WorkerRequest → Prop
  | .fencePublisher _ _ => True
  | .revalidate _ => g.isOpen = false
  | _ => False

section

variable {r : WorkerRequest} {g : Governor} {order : MapOrder} {wall : UInt64} {status : Status}

theorem receive_reject : r.receive (Coordinator.rejectWith status) =
    .ok (.rejected { status.message with detail := status.message.detail.take kMaxDetailLength }) := by
  have htype : (Coordinator.rejectWith status).1 = MessageType.reject.raw := rfl
  rw [WorkerRequest.receive, if_pos htype]
  show WorkerRequest.decoded "REJECT" .rejected (readStatus.whole (encodeStatus status)) = _
  rw [(reads_status status).whole]
  rfl

/-- A rejection with what the governor returned, or without having asked it. -/
theorem understood_reject {returned : Option Reply} (h : ∀ reply, returned = some reply → reply.words = status.words) :
    Answer.Understood ⟨returned, Coordinator.rejectWith status⟩ r :=
  ⟨_, receive_reject, fun reply hreply => (h reply hreply).symm⟩

/-- A reply of the type that is expected. -/
theorem receive_expected {bytes : List UInt8} : r.receive (r.expected.raw, bytes) = r.accept bytes := by
  have hraw : r.expected.raw ≠ MessageType.reject.raw := by
    cases r <;> simp [WorkerRequest.expected]
  rw [WorkerRequest.receive, if_neg hraw, if_neg (not_not.mpr rfl)]

theorem yields_refuse : Yields (Coordinator.refuse status g) fun p => p.1.Understood r := by
  have hrejected : Answer.Understood ⟨none, Coordinator.rejectWith status⟩ r :=
    understood_reject fun _ hreply => nomatch hreply
  unfold Coordinator.refuse
  exact yields_pure hrejected

end

/-! ## What the governor returns -/

def Status.ninthByte (s : Status) : Option UInt8 := (textBytes s.detail)[8]?

/-- A status that says no more than success where it is one, and whose detail
does not hold a zero as its ninth byte. -/
structure Status.Plain (s : Status) : Prop where
  success : s.isOk = true → s = .success
  ninth : s.ninthByte ≠ some 0

section

variable {g : Governor} {code : StatusCode} {reason : ReasonCode} {detail text : String}

/-- The details of the statuses that the calls below return. -/
def plainDetails : List String :=
  ["", "not open", "store is not open", "audit summary too long", "serialized state exceeds max_state_bytes",
    "failed to write temporary file: ", "publisher identity unset", "publisher is not registered",
    "publisher table is full", "runtime is shutting down", "publisher epoch does not match the fabric epoch",
    "a different incarnation is registered; adopt_incarnation is required to fence it"]

theorem ninth_details : (plainDetails.all fun detail => (textBytes detail)[8]? ≠ some 0) = true := by
  decide +kernel

theorem ninth_of_mem (h : detail ∈ plainDetails) : (textBytes detail)[8]? ≠ some 0 :=
  of_decide_eq_true (List.all_eq_true.mp ninth_details detail h)

theorem plain_success : Status.success.Plain := ⟨fun _ => rfl, ninth_of_mem List.mem_cons_self⟩

theorem plain_failure (hcode : code ≠ .ok) (hninth : (textBytes detail)[8]? ≠ some 0) :
    (Status.failure code reason detail).Plain :=
  ⟨fun h => absurd (of_decide_eq_true h) hcode, hninth⟩

theorem plain_of_mem (hcode : code ≠ .ok) (h : detail ∈ plainDetails) :
    (Status.failure code reason detail).Plain := plain_failure hcode (ninth_of_mem h)

/-- A long text decides about its continuations. -/
theorem ninth_append (hlong : 8 < (textBytes text).length) (h : (textBytes text)[8]? ≠ some 0) :
    (textBytes (text ++ detail))[8]? ≠ some 0 := by
  rwa [textBytes_append, List.getElem?_append_left hlong]

theorem plain_notOpen : notOpen.Plain := plain_of_mem nofun (by simp [plainDetails])

theorem yields_writeFileAtomic {path : String} {name : FileName} {bytes : List UInt8} :
    Yields (writeFileAtomic path name bytes) Status.Plain := by
  unfold writeFileAtomic
  refine yields_true.bind fun ok _ => ?_
  split
  · exact yields_pure plain_success
  · refine yields_pure (plain_failure nofun ?_)
    rw [String.append_assoc]
    exact ninth_append (by decide +kernel) (by decide +kernel)

theorem yields_save {store : Store} {state : DurableState} : Yields (store.save state) Status.Plain := by
  unfold Store.save
  split
  · exact yields_pure (plain_of_mem nofun (by simp [plainDetails]))
  · split
    next status hstatus =>
      rw [serializeState_error hstatus]
      exact yields_pure (plain_of_mem nofun (by simp [plainDetails]))
    · split
      · exact yields_pure (plain_of_mem nofun (by simp [plainDetails]))
      · exact yields_writeFileAtomic

theorem yields_persistState {force : Bool} : Yields (g.persistState force) fun p => p.1.Plain := by
  have hsave : Yields g.saveState fun p => p.1.Plain := by
    unfold Governor.saveState
    exact yields_save.bind fun status hstatus => yields_pure hstatus
  unfold Governor.persistState
  split
  · split
    · exact hsave
    · exact yields_pure plain_notOpen
  · split
    · exact yields_pure plain_success
    · split
      · exact yields_pure plain_success
      · exact hsave

theorem yields_fencePublisher {publisher : PublisherId} {reason : Code ReasonCode} :
    Yields (g.fencePublisher publisher reason) fun p => p.1.Plain := by
  unfold Governor.fencePublisher
  split
  · exact yields_pure plain_notOpen
  · split
    · exact yields_pure (plain_of_mem nofun (by simp [plainDetails]))
    · exact yields_persistState

section

variable {publisher : PublisherId} {incarnation : IncarnationId} {epoch : FabricEpoch} {tick : UInt64}

theorem yields_registerPublisher :
    Yields (g.registerPublisher publisher incarnation epoch tick) fun p => p.1.Plain := by
  unfold Governor.registerPublisher
  dsimp only
  split
  · exact yields_pure plain_notOpen
  split
  · exact yields_pure (plain_of_mem nofun (by simp [plainDetails]))
  split
  · exact yields_pure (plain_of_mem nofun (by simp [plainDetails]))
  split
  · exact yields_pure (plain_of_mem nofun (by simp [plainDetails]))
  split
  · split
    · split
      · exact yields_persistState
      · exact yields_pure plain_success
    · exact yields_pure (plain_of_mem nofun (by simp [plainDetails]))
  · split
    · exact yields_pure (plain_of_mem nofun (by simp [plainDetails]))
    · exact yields_persistState

theorem yields_adoptIncarnation :
    Yields (g.adoptIncarnation publisher incarnation epoch tick) fun p => p.1.Plain := by
  unfold Governor.adoptIncarnation
  dsimp only
  split
  · exact yields_pure plain_notOpen
  split
  · exact yields_pure (plain_of_mem nofun (by simp [plainDetails]))
  split
  · exact yields_pure (plain_of_mem nofun (by simp [plainDetails]))
  split
  · exact yields_pure (plain_of_mem nofun (by simp [plainDetails]))
  split
  · exact yields_pure (plain_of_mem nofun (by simp [plainDetails]))
  split
  · exact yields_pure plain_success
  · exact yields_persistState

theorem yields_register {hello : HelloRequest} : Yields (Coordinator.register g hello) fun p => p.1.Plain := by
  unfold Coordinator.register
  split
  · refine yields_adoptIncarnation.bind fun p hp => ?_
    dsimp only
    split
    · exact yields_registerPublisher
    · exact yields_pure hp
  · exact yields_registerPublisher

end

/-- An evaluation that gives a decision has short rationales. -/
theorem yields_evaluate {order : MapOrder} {wall : UInt64} {request : EvaluationRequest} :
    Yields (g.evaluate order wall request) fun p => ∀ d, p.1 = .ok d →
      ∀ i ∈ d.evaluation.intents, (textBytes i.rationale).length ≤ kMaxDetailLength := by
  intro w
  refine (Governor.obeys_evaluate w).mono (fun p w' h d hd => ?_) fun _ _ => trivial
  have heffect := h.1.effect
  rw [hd] at heffect
  cases heffect.evaluates with
  | recorded _ _ _ hruling _ =>
      rw [hruling d rfl]
      exact Governor.rule_said

end

/-! ## Replies -/

section

variable {r : WorkerRequest} {g : Governor} {order : MapOrder} {wall : UInt64}

/-- A reply of the type that is expected, with what the governor returned. -/
theorem understood_accepted {reply : Reply} {bytes : List UInt8} {received : Received}
    (haccept : r.accept bytes = .ok received) (hwords : received.words = reply.words) :
    Answer.Understood ⟨some reply, (r.expected.raw, bytes)⟩ r :=
  ⟨received, receive_expected.trans haccept, fun _ hreply => Option.some.inj hreply ▸ hwords⟩

/-- A status, told in a rejection or not at all. -/
theorem understood_told {status : Status} {bytes : List UInt8} {received : Received} (hplain : status.Plain)
    (haccept : r.accept bytes = .ok received) (hwords : received.words = Status.success.words) :
    Answer.Understood ⟨some (.status status),
      if !status.isOk then Coordinator.rejectWith status else (r.expected.raw, bytes)⟩ r := by
  cases hok : status.isOk with
  | false => exact understood_reject fun _ hreply => Option.some.inj hreply ▸ rfl
  | true =>
      have hsuccess := hplain.success hok
      exact understood_accepted haccept (hwords.trans (congrArg Status.words hsuccess.symm))

theorem yields_greet : Yields (Coordinator.greet g r.frame) fun p => p.1.Understood r := by
  unfold Coordinator.greet
  split
  · exact yields_refuse
  next htype =>
    have hsent : r.sent = .hello := MessageType.raw_inj.mp (of_not_not htype)
    cases r with
    | hello request =>
        have hread : readHello.whole (WorkerRequest.hello request).frame.2 =
            some { request with protocolVersion := kProtocolVersion } := (reads_hello _).whole
        rw [hread]
        dsimp only
        rw [if_neg (not_not.mpr rfl)]
        refine yields_register.bind fun p hp => yields_pure ?_
        refine @understood_told (.hello request) _ _
          (.greeted (Coordinator.helloResponse p.2 { request with protocolVersion := kProtocolVersion })) hp ?_ rfl
        rw [WorkerRequest.accept, (reads_helloResponse _).whole]
        exact if_neg (not_not.mpr rfl)
    | publishCapacity _ | publishReservations _ | publishAdmissions _ | evaluate _ _ | revalidate _
    | fencePublisher _ _ | shutdown => cases hsent

theorem yields_publish {σ : Type} {decode : List UInt8 → Option σ}
    {ingest : Governor → σ → Storage (IngestOutcome × Governor)} {what : String} {body : List UInt8}
    (hexpected : r.expected = .publishAck)
    (haccept : ∀ bytes, r.accept bytes =
      WorkerRequest.decoded "PUBLISH_ACK" .published (readPublishAck.whole bytes)) :
    Yields (Coordinator.publish g decode ingest what body) fun p => p.1.Understood r := by
  unfold Coordinator.publish
  split
  · exact yields_refuse
  · refine yields_true.bind fun p _ => yields_pure ?_
    rw [← hexpected]
    have hack (ack : PublishAck) : r.accept (encodePublishAck ack) =
        .ok (.published { ack with detail := ack.detail.take kMaxDetailLength }) := by
      rw [haccept, (reads_publishAck _).whole]
      rfl
    exact understood_accepted (hack _) rfl

theorem understood_decided {domain : OversubscriptionDomainId} {tick : UInt64} {result : Except Status Decision}
    (hsaid : ∀ d, result = .ok d → ∀ i ∈ d.evaluation.intents, (textBytes i.rationale).length ≤ kMaxDetailLength) :
    Answer.Understood ⟨some (.decided result), Coordinator.decisionFrame result⟩ (.evaluate domain tick) := by
  cases result with
  | error status => exact understood_reject fun _ hreply => Option.some.inj hreply ▸ rfl
  | ok d =>
      have haccept : (WorkerRequest.evaluate domain tick).accept (encodeDecision d) = .ok (.decided d.message.kept) := by
        rw [WorkerRequest.accept, decode_encodeDecision (hsaid d rfl)]
        rfl
      exact understood_accepted haccept rfl

/-- An acknowledgement has no place for the code of a failure. -/
theorem understood_revalidated {d : Decision} :
    Answer.Understood ⟨some (.revalidated (g.revalidate d)),
      (MessageType.revalidateAck.raw, encodeRevalidateAck (Coordinator.revalidateAck (g.revalidate d)))⟩
      (.revalidate d) ↔ g.isOpen = true := by
  have haccept (ack : RevalidateAck) : (WorkerRequest.revalidate d).accept (encodeRevalidateAck ack) =
      .ok (.revalidated { ack with detail := ack.detail.take kMaxDetailLength }) := by
    rw [WorkerRequest.accept, (reads_revalidateAck _).whole]
    rfl
  unfold Governor.revalidate
  cases g.isOpen with
  | false =>
      refine iff_of_false ?_ nofun
      rintro ⟨received, hreceived, hwords⟩
      have hwords := hwords _ rfl
      rw [← Except.ok.inj ((receive_expected.trans (haccept _)).symm.trans hreceived)] at hwords
      have hcode : StatusCode.ok.code.raw = notOpen.code.code.raw := congrArg (fun p => p.1.raw) hwords
      exact absurd hcode (by decide)
  | true => exact iff_of_true (understood_accepted (haccept _) rfl) rfl

/-- A plain status in the place of an acknowledgement. -/
theorem not_understood_fenced {status : Status} {publisher : PublisherId} {reason : Code ReasonCode}
    {returned : Option Reply} (h : status.Plain) :
    ¬ Answer.Understood ⟨returned, (MessageType.publishAck.raw, encodeStatus status)⟩
      (.fencePublisher publisher reason) := by
  rintro ⟨received, hreceived, -⟩
  have hninth : ((textBytes status.detail).take kMaxDetailLength)[8]? ≠ some 0 := by
    rw [List.getElem?_take_of_lt (by decide)]
    exact h.ninth
  have hread : readPublishAck.whole (encodeStatus status) = none := by
    rw [encodeStatus, writeDetail, writeString, if_neg (Nat.not_lt.mpr (List.length_take_le _ _))]
    exact publishAck_misread hninth
  have haccept : (WorkerRequest.fencePublisher publisher reason).accept (encodeStatus status) =
      .error (WorkerRequest.malformedReply "FENCE ack") := by
    rw [WorkerRequest.accept, hread]
    rfl
  have hboth := (receive_expected.trans haccept).symm.trans hreceived
  cases hboth

theorem reads_two {α β : Type} {first : Reader α} {second : Reader β} {a : α} {b : β} {bytes bytes' : List UInt8}
    (hfirst : first.Reads bytes a) (hsecond : second.Reads bytes' b) :
    (Coordinator.readTwo first second).Reads (bytes ++ bytes') (a, b) := hfirst.bind hsecond.map

theorem yields_serve {spent : Bool} : Yields (Coordinator.serve order wall spent g r.frame) fun p =>
    (p.1.Understood r ↔ ¬ (spent = false ∧ r.Misread g)) := by
  have hunderstood {p : Storage (Answer × Governor)} (hp : Yields p fun p => p.1.Understood r)
      (hr : ¬ (spent = false ∧ r.Misread g)) :
      Yields p fun p => (p.1.Understood r ↔ ¬ (spent = false ∧ r.Misread g)) :=
    hp.mono fun _ h => iff_of_true h hr
  unfold Coordinator.serve
  cases spent with
  | true => exact hunderstood yields_refuse nofun
  | false =>
      cases r with
      | hello request =>
          refine hunderstood ?_ fun h => h.2
          simp only [WorkerRequest.frame, WorkerRequest.sent, MessageType.raw_inj, reduceCtorEq, Bool.false_eq_true,
            if_false]
          exact yields_refuse
      | publishCapacity _ | publishReservations _ | publishAdmissions _ =>
          refine hunderstood ?_ fun h => h.2
          simp only [WorkerRequest.frame, WorkerRequest.sent, WorkerRequest.payload, WorkerRequest.publication,
            Bool.false_eq_true, if_true, if_false]
          rw [reads_u32]
          exact yields_publish rfl fun _ => rfl
      | evaluate domain tick =>
          refine hunderstood ?_ fun h => h.2
          simp only [WorkerRequest.frame, WorkerRequest.sent, WorkerRequest.payload, MessageType.raw_inj, reduceCtorEq,
            Bool.false_eq_true, if_true, if_false]
          rw [(reads_two (reads_u64 _) (reads_u64 _)).whole]
          exact yields_evaluate.bind fun _ hsaid => yields_pure (understood_decided hsaid)
      | revalidate d =>
          simp only [WorkerRequest.frame, WorkerRequest.sent, WorkerRequest.payload, MessageType.raw_inj, reduceCtorEq,
            Bool.false_eq_true, if_true, if_false]
          rw [decode_encodeRevalidateRequest]
          refine yields_pure (understood_revalidated.trans ?_)
          cases hopen : g.isOpen with
          | false => exact iff_of_false nofun fun h => h ⟨trivial, hopen⟩
          | true => exact iff_of_true rfl fun h => absurd (hopen.symm.trans h.2) nofun
      | fencePublisher publisher reason =>
          simp only [WorkerRequest.frame, WorkerRequest.sent, WorkerRequest.payload, MessageType.raw_inj, reduceCtorEq,
            Bool.false_eq_true, if_true, if_false]
          rw [(reads_two (reads_u64 _) (reads_u32 _)).whole]
          exact yields_fencePublisher.bind fun _ hplain =>
            yields_pure (iff_of_false (not_understood_fenced hplain) fun h => h ⟨trivial, trivial⟩)
      | shutdown =>
          refine hunderstood ?_ fun h => h.2
          simp only [WorkerRequest.frame, WorkerRequest.sent, MessageType.raw_inj, reduceCtorEq, Bool.false_eq_true,
            if_true, if_false]
          exact yields_pure ⟨.stopped, receive_expected, fun _ hreply => nomatch hreply⟩

/-- **Replies are understood**, but for those to FENCE_PUBLISHER, and to
REVALIDATE where the governor is not open. -/
theorem reply_understood_iff {greeted spent : Bool} :
    Yields (Coordinator.handle order wall greeted spent g r.frame) fun p =>
      (p.1.Understood r ↔ ¬ (greeted = true ∧ spent = false ∧ r.Misread g)) := by
  unfold Coordinator.handle
  cases greeted with
  | false => exact yields_greet.mono fun _ h => iff_of_true h nofun
  | true => exact yields_serve.mono fun _ h => by simpa using h

/-- A runtime that has just started, and a publisher that it does not know. -/
theorem fence_reply_malformed :
    ¬ Yields (Coordinator.handle .listed 0 true false (Governor.started samplePolicy)
      (WorkerRequest.fencePublisher ⟨1⟩ ReasonCode.none.code).frame)
      fun p => p.1.Understood (.fencePublisher ⟨1⟩ ReasonCode.none.code) := by
  intro h
  have hunknown : (Governor.started samplePolicy).fencePublisher ⟨1⟩ ReasonCode.none.code =
      pure (Governor.publisherUnknown, Governor.started samplePolicy) := rfl
  have hplain : Governor.publisherUnknown.Plain := plain_failure nofun (by decide +kernel)
  have hreply := h ⟨Governor.emptyDisk, []⟩
  simp only [Coordinator.handle, Coordinator.serve, WorkerRequest.frame, WorkerRequest.sent, WorkerRequest.payload,
    MessageType.raw_inj, reduceCtorEq, Bool.false_eq_true, if_true, if_false] at hreply
  rw [(reads_two (reads_u64 _) (reads_u32 _)).whole] at hreply
  dsimp only at hreply
  rw [hunknown] at hreply
  exact not_understood_fenced hplain hreply

end

end Oversub
