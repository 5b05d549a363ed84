import Oversub.Runtime.Serving

/-!
# Oversub.Runtime.Remote

A request of a worker at the coordinator that serves it: the frame makes the
call of the governor that the request stands for, with the arguments the worker
gave, and the reply tells what it returned (`Coordinator.remote_of_run`).  The
steps of HELLO, where no other handler comes in between, are the one step that
the exchange of a lone connection takes (`Coordinator.greet_undisturbed`).
-/

namespace Oversub

open Wire Reader Crash Files Trace

/-! ## Calls through the wire -/

namespace WorkerRequest

/-- The call that a request stands for. -/
def command (order : MapOrder) (wall : UInt64) : WorkerRequest → Option Command
  | .hello _ | .shutdown => none
  | .publishCapacity snapshot => some (.ingestCapacity snapshot)
  | .publishReservations snapshot => some (.ingestReservations snapshot)
  | .publishAdmissions snapshot => some (.ingestAdmissions snapshot)
  | .evaluate domain tick => some (.evaluate order wall ⟨domain, tick⟩)
  | .revalidate decision => some (.revalidate decision)
  | .fencePublisher publisher reason => some (.fencePublisher publisher reason)

/-- A snapshot is within the structural bound of its kind. -/
def Fits : WorkerRequest → Prop
  | .publishCapacity snapshot => snapshot.resources.length ≤ kHardMaxResourcesPerSnapshot
  | .publishReservations snapshot => snapshot.guarantees.length ≤ kHardMaxGuaranteesPerSnapshot
  | .publishAdmissions snapshot => snapshot.records.length ≤ kHardMaxDemandRecordsPerSnapshot
  | .hello _ | .evaluate _ _ | .revalidate _ | .fencePublisher _ _ | .shutdown => True

/-- The one request whose reply is not read as it was written. -/
def fences : WorkerRequest → Bool
  | .fencePublisher _ _ => true
  | _ => false

end WorkerRequest

def StatusMessage.cut (s : StatusMessage) : StatusMessage := { s with detail := s.detail.take kMaxDetailLength }

/-- What the worker has to see of a reply, with its details cut. -/
def Reply.seen : Reply → Received
  | .status told => .fenced told.message.cut
  | .ingested outcome => .published {
      code := outcome.status.code.code
      reason := outcome.status.reason.code
      detail := (textBytes outcome.status.detail).take kMaxDetailLength
      generation := outcome.generation
      duplicate := outcome.duplicate }
  | .decided (.error told) => .rejected told.message.cut
  | .decided (.ok d) => .decided d.message.kept
  | .revalidated result =>
      .revalidated { Coordinator.revalidateAck result with
        detail := (Coordinator.revalidateAck result).detail.take kMaxDetailLength }

namespace Coordinator

section

variable {r : WorkerRequest} {order : MapOrder} {wall : UInt64} {c : Command} {g : Governor}

/-- **A request** asks for its call. -/
theorem asked_request (hfits : r.Fits) (hc : r.command order wall = some c) :
    ∃ c', asked order wall false r.frame = .ok c' ∧ ∀ g, c'.perform g = c.perform g := by
  have hkinds : EvidenceKind.reservation.code.raw ≠ EvidenceKind.capacity.code.raw ∧
      EvidenceKind.admission.code.raw ≠ EvidenceKind.capacity.code.raw ∧
      EvidenceKind.admission.code.raw ≠ EvidenceKind.reservation.code.raw := by decide
  cases r with
  | hello | shutdown => cases hc
  | publishCapacity snapshot =>
      obtain rfl := Option.some.inj hc
      refine ⟨_, ?_, fun _ => rfl⟩
      simp only [asked, WorkerRequest.frame, WorkerRequest.sent, WorkerRequest.payload, WorkerRequest.publication,
        Bool.false_eq_true, if_true, if_false]
      rw [reads_u32]
      simp only [if_true]
      rw [decode_encodeCapacitySnapshot hfits]
  | publishReservations snapshot =>
      obtain rfl := Option.some.inj hc
      refine ⟨_, ?_, fun _ => rfl⟩
      simp only [asked, WorkerRequest.frame, WorkerRequest.sent, WorkerRequest.payload, WorkerRequest.publication,
        Bool.false_eq_true, if_true, if_false]
      rw [reads_u32]
      simp only [hkinds.1, if_true, if_false]
      rw [decode_encodeReservationSnapshot hfits]
  | publishAdmissions snapshot =>
      obtain rfl := Option.some.inj hc
      refine ⟨_, ?_, fun _ => rfl⟩
      simp only [asked, WorkerRequest.frame, WorkerRequest.sent, WorkerRequest.payload, WorkerRequest.publication,
        Bool.false_eq_true, if_true, if_false]
      rw [reads_u32]
      simp only [hkinds.2.1, hkinds.2.2, if_true, if_false]
      rw [decode_encodeAdmissionSnapshot hfits]
  | evaluate domain tick =>
      obtain rfl := Option.some.inj hc
      refine ⟨_, ?_, fun _ => rfl⟩
      simp only [asked, WorkerRequest.frame, WorkerRequest.sent, WorkerRequest.payload, MessageType.raw_inj,
        reduceCtorEq, Bool.false_eq_true, if_true, if_false]
      rw [(reads_two (reads_u64 _) (reads_u64 _)).whole]
  | revalidate d =>
      obtain rfl := Option.some.inj hc
      refine ⟨.revalidate d.request, ?_, fun g => ?_⟩
      · simp only [asked, WorkerRequest.frame, WorkerRequest.sent, WorkerRequest.payload, MessageType.raw_inj,
          reduceCtorEq, Bool.false_eq_true, if_true, if_false]
        rw [decode_encodeRevalidateRequest]
      · rw [Command.perform, Command.perform, Governor.revalidate_request]
  | fencePublisher publisher reason =>
      obtain rfl := Option.some.inj hc
      refine ⟨_, ?_, fun _ => rfl⟩
      simp only [asked, WorkerRequest.frame, WorkerRequest.sent, WorkerRequest.payload, MessageType.raw_inj,
        reduceCtorEq, Bool.false_eq_true, if_true, if_false]
      rw [(reads_two (reads_u64 _) (reads_u32 _)).whole]

/-- **A reply** is read as it was written, whatever the call returned. -/
theorem yields_told (hc : r.command order wall = some c) (hfences : r.fences = false) (hopen : g.isOpen = true) :
    Yields (c.perform g) fun p => r.receive (toldOf p.1) = .ok p.1.seen ∧ p.1.seen.words = p.1.words := by
  have hpublished (hexpected : r.expected = .publishAck) (haccept : ∀ bytes, r.accept bytes =
      WorkerRequest.decoded "PUBLISH_ACK" .published (readPublishAck.whole bytes)) (o : IngestOutcome) :
      r.receive (toldOf (.ingested o)) = .ok (Reply.ingested o).seen ∧
        (Reply.ingested o).seen.words = (Reply.ingested o).words := by
    refine ⟨?_, rfl⟩
    rw [toldOf, ← hexpected, receive_expected, haccept, (reads_publishAck _).whole]
    rfl
  cases r with
  | hello | shutdown => cases hc
  | publishCapacity snapshot =>
      obtain rfl := Option.some.inj hc
      exact yields_true.bind fun p _ => yields_pure (hpublished rfl (fun _ => rfl) p.1)
  | publishReservations snapshot =>
      obtain rfl := Option.some.inj hc
      exact yields_true.bind fun p _ => yields_pure (hpublished rfl (fun _ => rfl) p.1)
  | publishAdmissions snapshot =>
      obtain rfl := Option.some.inj hc
      exact yields_true.bind fun p _ => yields_pure (hpublished rfl (fun _ => rfl) p.1)
  | evaluate domain tick =>
      obtain rfl := Option.some.inj hc
      refine yields_evaluate.bind fun p hsaid => yields_pure ?_
      dsimp only at hsaid ⊢
      generalize p.1 = result at hsaid
      cases result with
      | error status => exact ⟨receive_reject, rfl⟩
      | ok d =>
          refine ⟨?_, rfl⟩
          show WorkerRequest.receive _ (MessageType.decisionMessage.raw, encodeDecision d) = _
          have hexpected : (WorkerRequest.evaluate domain tick).expected = .decisionMessage := rfl
          rw [← hexpected, receive_expected, WorkerRequest.accept, decode_encodeDecision (hsaid d rfl)]
          rfl
  | revalidate d =>
      obtain rfl := Option.some.inj hc
      refine yields_pure ⟨?_, ?_⟩
      · show WorkerRequest.receive _ (MessageType.revalidateAck.raw, _) = _
        have hexpected : (WorkerRequest.revalidate d).expected = .revalidateAck := rfl
        rw [← hexpected, receive_expected, WorkerRequest.accept, (reads_revalidateAck _).whole]
        rfl
      · unfold Governor.revalidate
        rw [hopen]
        rfl
  | fencePublisher => cases hfences

end

/-! ## Through a connection -/

section

variable {s : Coordinator} {id : Nat} {x x' : Handler} {r : WorkerRequest} {c : Command} {order : MapOrder}
  {wall frames : UInt64} {sends : Bool} {fates : List Fate}

theorem find_put (hfind : s.find id = some x) (hid : x'.id = x.id) : (s.put x').find id = some x' := by
  obtain ⟨_, hx⟩ := find_eq_some hfind
  have hsame : (fun y : Handler => decide ((if y.id = x'.id then x' else y).id = id)) = fun y => decide (y.id = id) := by
    funext y
    split
    next h => rw [h]
    · rfl
  show (s.handlers.map _).find? _ = _
  rw [List.find?_map]
  show Option.map _ (s.handlers.find? fun y => decide ((if y.id = x'.id then x' else y).id = id)) = _
  rw [hsame]
  rw [find] at hfind
  rw [hfind, Option.map_some, if_pos hid.symm]

/-- The first publication of the sample worker. -/
def firstPublication : WorkerRequest := .publishCapacity (Governor.nthCapacity 1 100)

end

/-! ## HELLO without others in between -/

/-- The parts of a handler one after the other; what is left are the frames it has
sent, and the governor. -/
def undisturbed (o : CoordinatorOptions) (g : Governor) (h : Handler) :
    List Handler.Action → Storage (List Frame × Governor)
  | [] => pure (h.sent, g)
  | a :: as => do
      let (turn, g) ← h.act o false g a
      undisturbed o g turn.handler as

section

variable {o : CoordinatorOptions} {g : Governor} {h : Handler} {a : Handler.Action} {as : List Handler.Action}
  {hello : HelloRequest} {epoch : FabricEpoch} {sent : List Frame} {id n : Nat} {frame : Frame}

theorem undisturbed_quiet (hasks : h.asks o a = none) :
    undisturbed o g h (a :: as) = undisturbed o g (h.quiet false g a).handler as := by
  rw [undisturbed, Handler.act_eq, hasks]
  rfl

/-- A handler that is past the end, or waits for a frame. -/
theorem undisturbed_rest {phase : Phase} (hphase : phase = .closed ∨ ∃ frames, phase = .receiving frames) :
    undisturbed o g ⟨id, phase, sent, false⟩ (List.replicate n (.proceed true)) = pure (sent, g) := by
  induction n with
  | zero => rfl
  | succ n ih =>
      rw [List.replicate_succ]
      rcases hphase with rfl | ⟨frames, rfl⟩
      · exact (undisturbed_quiet rfl).trans ih
      · exact (undisturbed_quiet rfl).trans ih

/-- The readings for the response, and the response. -/
theorem undisturbed_welcoming : undisturbed o g ⟨id, .welcoming hello .epoch {}, [], false⟩
    (List.replicate (n + 5) (.proceed true)) = pure ([helloAckFrame (helloResponse g hello)], g) := by
  have hreceiving : undisturbed o g ⟨id, .receiving 0, [helloAckFrame (helloResponse g hello)], false⟩
      (List.replicate n (.proceed true)) = pure ([helloAckFrame (helloResponse g hello)], g) :=
    undisturbed_rest (.inr ⟨0, rfl⟩)
  rw [← hreceiving]
  rfl

/-- What comes of a registration. -/
theorem undisturbed_registered {status : Status} {adopted : Bool}
    (hreturn : (adopted = true → status.reason ≠ .publisherNotRegistered) ∨ status.isOk = true) {phase : Phase} :
    undisturbed o g (Handler.registered ⟨id, phase, [], false⟩ hello adopted status).handler
      (List.replicate (n + 5) (.proceed true)) =
        pure ([if !status.isOk then rejectWith status else helloAckFrame (helloResponse g hello)], g) := by
  unfold Handler.registered
  split
  next hagain => simp_all
  split
  · exact undisturbed_rest (.inl rfl)
  · exact undisturbed_welcoming

/-- The reply to a HELLO whose registration has ended with a status. -/
def helloReply (g : Governor) (hello : HelloRequest) (status : Status) : Frame :=
  if !status.isOk then rejectWith status else helloAckFrame (helloResponse g hello)

theorem undisturbed_registering : undisturbed o g ⟨id, .registering hello false epoch, [], false⟩
    (List.replicate (n + 6) (.proceed true)) = (do
      let r ← g.registerPublisher hello.publisher hello.incarnation epoch hello.tick
      pure ([helloReply r.2 hello r.1], r.2) : Storage (List Frame × Governor)) := by
  have hact : Handler.act o false g ⟨id, .registering hello false epoch, [], false⟩ (.proceed true) =
      g.registerPublisher hello.publisher hello.incarnation epoch hello.tick >>= fun r =>
        pure (Handler.registered ⟨id, .registering hello false epoch, [], false⟩ hello false r.1, r.2) := rfl
  rw [List.replicate_succ, undisturbed, hact, bind_bind]
  exact congrArg (_ >>= ·) (funext fun r => @undisturbed_registered o r.2 hello id n r.1 false (.inl nofun) _)

theorem undisturbed_adopting : undisturbed o g ⟨id, .registering hello true epoch, [], false⟩
    (List.replicate (n + 8) (.proceed true)) = (do
      let r ← g.adoptIncarnation hello.publisher hello.incarnation epoch hello.tick
      if !r.1.isOk && r.1.reason = .publisherNotRegistered then
        undisturbed o r.2 ⟨id, .registering hello false r.2.state.epoch, [], false⟩
          (List.replicate (n + 6) (.proceed true))
      else pure ([helloReply r.2 hello r.1], r.2) : Storage (List Frame × Governor)) := by
  have hact : Handler.act o false g ⟨id, .registering hello true epoch, [], false⟩ (.proceed true) =
      g.adoptIncarnation hello.publisher hello.incarnation epoch hello.tick >>= fun r =>
        pure (Handler.registered ⟨id, .registering hello true epoch, [], false⟩ hello true r.1, r.2) := rfl
  rw [List.replicate_succ, undisturbed, hact, bind_bind]
  refine congrArg (_ >>= ·) (funext fun r => ?_)
  show undisturbed o r.2 (Handler.registered ⟨id, .registering hello true epoch, [], false⟩ hello true r.1).handler
    _ = _
  by_cases hagain : (!r.1.isOk && r.1.reason = .publisherNotRegistered) = true
  · have hregistered : Handler.registered ⟨id, .registering hello true epoch, [], false⟩ hello true r.1 =
        Handler.enter ⟨id, .registering hello true epoch, [], false⟩ (.greeting hello false) := by
      unfold Handler.registered
      rw [Bool.and_true, if_pos hagain]
    rw [if_pos hagain, hregistered]
    exact undisturbed_quiet rfl
  · rw [if_neg hagain]
    refine @undisturbed_registered o r.2 hello id (n + 2) r.1 true ?_ _
    simp only [Bool.and_eq_true, Bool.not_eq_true', decide_eq_true_eq, not_and_or, Bool.not_eq_false] at hagain
    exact hagain.symm.imp_left fun h _ => h

/-- The first frame of a connection, in the steps of `readGreeting`. -/
theorem greet_eq : greet g frame = match readGreeting frame with
    | .error status => refuse status g
    | .ok hello => (do
        let r ← register g hello
        pure ({ returned := some (.status r.1), frame := helloReply r.2 hello r.1 }, r.2) :
          Storage (Answer × Governor)) := by
  unfold greet readGreeting
  by_cases htype : frame.1 ≠ MessageType.hello.raw
  · rw [if_pos htype, if_pos htype]
  · rw [if_neg htype, if_neg htype]
    cases readHello.whole frame.2 with
    | none => rfl
    | some hello =>
        dsimp only
        split
        · rfl
        · rfl

/-- **HELLO undisturbed**: where no other handler comes in between, the many steps
of a handler do what the one step of the exchange does. -/
theorem greet_undisturbed {order : MapOrder} {wall : UInt64} {sends : Bool} :
    undisturbed o g { id } (.receive frame sends order wall :: List.replicate 9 (.proceed true)) = (do
      let r ← greet g frame
      pure ([r.1.frame], r.2) : Storage (List Frame × Governor)) := by
  rw [greet_eq, undisturbed_quiet rfl]
  show undisturbed o g (Handler.greeted { id } frame).handler _ = _
  unfold Handler.greeted
  cases readGreeting frame with
  | error status => exact undisturbed_rest (.inl rfl)
  | ok hello =>
      rw [bind_bind]
      refine (undisturbed_quiet rfl).trans ?_
      show undisturbed o g ⟨id, .registering hello hello.adoptIncarnation g.state.epoch, [], false⟩ _ = _
      unfold register
      cases hello.adoptIncarnation with
      | true =>
          rw [if_pos rfl, bind_bind]
          refine (@undisturbed_adopting o g hello g.state.epoch id 0).trans
            (congrArg (_ >>= ·) (funext fun r => ?_))
          dsimp only
          split
          · exact undisturbed_registering
          · rfl
      | false => exact @undisturbed_registering o g hello g.state.epoch id 2

end

end Coordinator

end Oversub
