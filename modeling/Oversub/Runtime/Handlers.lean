import Oversub.Refusals
import Oversub.Runtime.Coordinator

/-!
# Oversub.Runtime.Handlers

What holds at the coordinator whatever the peers send: of its handlers, of what
each connection was sent, and of the runtime while it listens.  No call that a
connection can make changes the epoch, the policy or the incarnation, so what a
handler has read of them stays true however it is interleaved with the others.
-/

namespace Oversub

open Wire Reader Crash Files Trace

/-! ## What connections cannot change -/

/-- The calls that a connection can make. -/
def Command.remote : Command → Bool
  | .registerPublisher .. | .adoptIncarnation .. | .fencePublisher .. | .ingestCapacity _ | .ingestReservations _
  | .ingestAdmissions _ | .evaluate .. | .revalidate _ => true
  | _ => false

namespace Governor

/-- What stays as it is while a coordinator listens. -/
structure SameTenure (g g' : Governor) : Prop where
  flags : SameFlags g g'
  options : g'.options = g.options
  incarnation : g'.state.incarnation = g.state.incarnation
  epoch : g'.state.epoch = g.state.epoch
  policy : g'.state.policy = g.state.policy

section

variable {g g' : Governor} {c : Command} {reply : Reply} {options : GovernorOptions}
  {policy : OversubscriptionPolicy}

theorem SameTenure.refl (g : Governor) : SameTenure g g := ⟨.refl g, rfl, rfl, rfl, rfl⟩

theorem SameTenure.trans {x : Governor} (h : SameTenure g g') (h' : SameTenure g' x) : SameTenure g x where
  flags := ⟨h'.flags.isOpen.trans h.flags.isOpen, h'.flags.accepting.trans h.flags.accepting,
    h'.flags.shuttingDown.trans h.flags.shuttingDown⟩
  options := h'.options.trans h.options
  incarnation := h'.incarnation.trans h.incarnation
  epoch := h'.epoch.trans h.epoch
  policy := h'.policy.trans h.policy

theorem Effect.tenure (h : Effect g c reply g') (hc : c.remote = true) (hflags : SameFlags g g') :
    SameTenure g g' := by
  have hsame {x : Governor} (hcore : g'.core = x.core) (hoptions : x.options = g.options)
      (hincarnation : x.state.incarnation = g.state.incarnation) (hepoch : x.state.epoch = g.state.epoch)
      (hpolicy : x.state.policy = g.state.policy) : SameTenure g g' :=
    ⟨hflags, (core_congr (·.options) (fun _ => rfl) hcore).trans hoptions,
      (core_congr (·.state.incarnation) (fun _ => rfl) hcore).trans hincarnation,
      (core_congr (·.state.epoch) (fun _ => rfl) hcore).trans hepoch,
      (core_congr (·.state.policy) (fun _ => rfl) hcore).trans hpolicy⟩
  cases h with
  | kept _ hcore => exact hsame hcore rfl rfl rfl rfl
  | opened => cases hc
  | stopped _ hcore => exact hsame hcore rfl rfl rfl rfl
  | installed => cases hc
  | advanced => cases hc
  | registered _ hcore => exact hsame hcore rfl rfl rfl rfl
  | adopted hcore => exact hsame hcore rfl rfl rfl rfl
  | ingested _ h =>
      exact ⟨hflags, rest_congr (·.options) (fun _ => rfl) h.rest,
        rest_congr (·.state.incarnation) (fun _ => rfl) h.rest, rest_congr (·.state.epoch) (fun _ => rfl) h.rest,
        rest_congr (·.state.policy) (fun _ => rfl) h.rest⟩
  | evaluated h =>
      cases h with
      | refused hcore => exact hsame hcore rfl rfl rfl rfl
      | recorded _ _ _ _ hcore => exact hsame hcore rfl rfl rfl rfl

theorem yields_perform_tenure (hc : c.remote = true) : Yields (c.perform g) fun r => SameTenure g r.2 := by
  have hopens : c.opens = false := by cases c <;> first | rfl | cases hc
  have hstops : c.stops = false := by cases c <;> first | rfl | cases hc
  exact fun w => ((perform_effect c w).and (yields_perform_flags hopens hstops w)).mono
    (fun _ _ h => h.1.tenure hc h.2) fun _ _ => trivial

/-! ## Opening and closing -/

theorem yields_initializeLocked_isOpen (hclosed : g.isOpen = false) :
    Yields (g.initializeLocked policy) fun r => r.2.isOpen = false :=
  yields_initializeLocked_flags.mono fun _ h => h.2.trans hclosed

/-- The end of `open`, where the runtime is not open yet. -/
theorem yields_opened {p : Storage (Status × Governor)} (h : Yields p fun r => r.2.isOpen = false) :
    Yields (do let r ← p; pure (opened r) : Storage (Status × Governor)) fun r => r.2.isOpen = r.1.isOk := by
  refine h.bind fun r hr => yields_pure ?_
  unfold opened
  split
  · rfl
  next hbad => exact hr.trans (Bool.eq_false_iff.mpr hbad).symm

theorem yields_open_isOpen (hclosed : g.isOpen = false) :
    Yields (g.open options policy) fun r => r.2.isOpen = r.1.isOk := by
  have hrefused {status : Status} {x : Governor} (hopen : x.isOpen = false) (hbad : status.Refuses) :
      Yields (pure (status, x) : Storage (Status × Governor)) fun r => r.2.isOpen = r.1.isOk :=
    yields_pure (hopen.trans (Eq.symm hbad))
  unfold Governor.open
  split
  next hopen => exact absurd hopen (by simp [hclosed])
  split
  · exact hrefused hclosed rfl
  split
  · exact hrefused hclosed rfl
  split
  · exact hrefused hclosed rfl
  refine yields_true.bind fun ⟨status, store⟩ _ => ?_
  dsimp only
  split
  next hbad => exact hrefused hclosed (by rw [Status.Refuses]; simpa using hbad)
  refine yields_load.bind fun ⟨loaded, store⟩ hloaded => ?_
  dsimp only at hloaded ⊢
  split
  next status => exact hrefused hclosed (hloaded _ rfl)
  · exact yields_opened (@yields_initializeLocked_isOpen { g with options, store } policy hclosed)
  next state _ =>
    split
    · exact hrefused hclosed rfl
    · refine yields_opened (yields_persistState.mono fun r hr => ?_)
      exact (sameFlags_of_core hr).isOpen.trans hclosed

theorem yields_close : Yields g.close fun r => r.2.isOpen = false := by
  refine yields_true.bind fun r _ => yields_pure ?_
  dsimp only
  split
  · rfl
  next h => simpa using h

theorem yields_perform_close : Yields (Command.close.perform g) fun r => r.2.isOpen = false :=
  yields_close.bind fun _ h => yields_pure h

/-- A status that reports how a runtime was opened. -/
def Launched (r : Reply × Governor) : Prop :=
  ∃ status, r.1 = .status status ∧ r.2.isOpen = status.isOk ∧ (r.2.isOpen = true → r.2.accepting = true)

theorem yields_perform_open (hclosed : g.isOpen = false) :
    Yields (Command.perform g (.openRuntime options policy)) Launched := by
  have hopen : Yields (g.open options policy) fun r => r.2.isOpen = r.1.isOk ∧ KeepsDown g r.2 := fun w =>
    ((yields_open_isOpen hclosed w).and (yields_open_flags w)).mono (fun _ _ h => h) fun _ _ => trivial
  exact hopen.bind fun r h => yields_pure ⟨r.1, rfl, h.1, h.2.2 hclosed⟩

end

end Governor

/-- What a call yields holds of its reply and of the governor after it. -/
theorem System.yielded {s : System} {c : System.Call} {reply : Reply} {Q : Reply × Governor → Prop}
    (h : Yields (c.command.perform s.governor) Q) (hreply : (s.perform c).1 = some reply) :
    Q (reply, (s.step c).governor) := by
  obtain ⟨governor, w, hp, hs⟩ := perform_eq_some hreply
  rw [hs]
  exact (h _).returned hp

namespace Coordinator

/-! ## Frames and their replies -/

/-- The replies after which a handler goes on. -/
def Frame.Continues (f : Frame) : Prop :=
  f.1 = MessageType.publishAck.raw ∨ f.1 = MessageType.decisionMessage.raw ∨ f.1 = MessageType.revalidateAck.raw

/-- The replies after which it returns. -/
def Frame.Ends (f : Frame) : Prop := f.1 = MessageType.reject.raw ∨ f.1 = MessageType.shutdownAck.raw

section

variable {order : MapOrder} {wall : UInt64} {spent : Bool} {f reply : Frame} {c : Command}

theorem toldOf_type (r : Reply) : Frame.Continues (toldOf r) ∨ Frame.Ends (toldOf r) := by
  cases r with
  | status => exact .inl (.inl rfl)
  | ingested => exact .inl (.inl rfl)
  | decided result =>
      cases result with
      | error => exact .inr (.inl rfl)
      | ok => exact .inl (.inr (.inl rfl))
  | revalidated => exact .inl (.inr (.inr rfl))

/-- A reply that does not tell of a call is the last one. -/
theorem asked_error (h : asked order wall spent f = .error reply) : Frame.Ends reply := by
  unfold asked at h
  dsimp only at h
  repeat' split at h
  all_goals cases h
  all_goals first | exact .inl rfl | exact .inr rfl

theorem asked_ok (h : asked order wall spent f = .ok c) : spent = false ∧ c.remote = true := by
  unfold asked at h
  dsimp only at h
  repeat' split at h
  all_goals cases h
  all_goals exact ⟨by simpa using ‹¬ spent = true›, rfl⟩

end

/-- The call that a HELLO asks for. -/
def registration (hello : HelloRequest) (epoch : FabricEpoch) : Bool → Command
  | true => .adoptIncarnation hello.publisher hello.incarnation epoch hello.tick
  | false => .registerPublisher hello.publisher hello.incarnation epoch hello.tick

theorem Handler.asks_registering {o : CoordinatorOptions} {h : Handler} {hello : HelloRequest} {adopt sends : Bool}
    {epoch : FabricEpoch} (hphase : h.phase = .registering hello adopt epoch) :
    h.asks o (.proceed sends) = some (.ok (registration hello epoch adopt)) := by
  unfold Handler.asks
  rw [hphase]
  cases adopt <;> rfl

theorem Handler.asks_receiving {o : CoordinatorOptions} {h : Handler} {frames : UInt64} {frame : Frame} {sends : Bool}
    {order : MapOrder} {wall : UInt64} (hphase : h.phase = .receiving frames) :
    h.asks o (.receive frame sends order wall) =
      some (asked order wall (o.maxFramesPerConnection < frames + 1) frame) := by
  unfold Handler.asks
  rw [hphase]

/-- Where a handler asks the governor. -/
inductive Handler.Asks (o : CoordinatorOptions) (h : Handler) : Handler.Action → Except Frame Command → Prop
  | serving {frames : UInt64} {frame : Frame} {sends : Bool} {order : MapOrder} {wall : UInt64}
      (hphase : h.phase = .receiving frames) :
      Asks o h (.receive frame sends order wall) (asked order wall (o.maxFramesPerConnection < frames + 1) frame)
  | registering {hello : HelloRequest} {adopt : Bool} {epoch : FabricEpoch} {sends : Bool}
      (hphase : h.phase = .registering hello adopt epoch) :
      Asks o h (.proceed sends) (.ok (registration hello epoch adopt))

theorem Handler.asks_cases {o : CoordinatorOptions} {h : Handler} {a : Handler.Action}
    {r : Except Frame Command} (hasks : h.asks o a = some r) : Handler.Asks o h a r := by
  unfold Handler.asks at hasks
  split at hasks
  next hphase => exact Option.some.inj hasks ▸ .serving hphase
  next sends hello epoch hphase =>
    have hregistering : Handler.Asks o h (.proceed sends) (.ok (registration hello epoch true)) := .registering hphase
    exact Option.some.inj hasks ▸ hregistering
  next sends hello epoch hphase =>
    have hregistering : Handler.Asks o h (.proceed sends) (.ok (registration hello epoch false)) := .registering hphase
    exact Option.some.inj hasks ▸ hregistering
  next => cases hasks

/-! ## What an event does -/

/-- What a handler does, and the system after it. -/
inductive Turned (s : Coordinator) (h : Handler) (a : Handler.Action) (fates : List Fate) :
    Turn → System → Prop
  | quiet (hasks : h.asks s.options a = none) :
      Turned s h a fates (h.quiet s.stopRequested s.system.governor a) s.system
  | answered {reply : Frame} (hasks : h.asks s.options a = some (.error reply)) :
      Turned s h a fates (h.replied a (.error reply)) s.system
  | called {c : Command} {reply : Reply} (hasks : h.asks s.options a = some (.ok c))
      (hreply : (s.system.perform ⟨c, fates⟩).1 = some reply) :
      Turned s h a fates (h.replied a (.ok reply)) (s.system.step ⟨c, fates⟩)

/-- Everything an event can do to a coordinator. -/
inductive Happens (s : Coordinator) : Event → Coordinator → Prop
  | kept {e : Event} : Happens s e s
  | rebooted {e : Event} {disk : Disk} : Happens s e (boot disk s.connections)
  | begun {options : CoordinatorOptions} {policy : OversubscriptionPolicy} {listens : Bool}
      {fates closeFates : List Fate} {system : System} {acceptor : Acceptor} (hidle : s.acceptor = .idle)
      (h : s.system.governor.isOpen = false → acceptor = .idle ∧ system.governor.isOpen = false ∨
        acceptor = .looping 0 ∧ system.governor.isOpen = true ∧ system.governor.accepting = true) :
      Happens s (.start options policy listens fates closeFates) { s with options, system, acceptor }
  | moved {e : Event} {acceptor : Acceptor} (hwas : s.acceptor ≠ .idle) (his : acceptor ≠ .idle) :
      Happens s e { s with acceptor }
  | reaped {e : Event} (hwas : s.acceptor ≠ .idle) :
      Happens s e { s.reapHandlers with acceptor := .looping 0 }
  | admitted {e : Event} (hwas : s.acceptor ≠ .idle) (hstop : s.stopRequested = false)
      (hroom : s.reapHandlers.handlers.length < s.options.maxConnections.toNat) :
      Happens s e { s with
        acceptor := .looping 0
        handlers := s.reapHandlers.handlers ++ [{ id := s.connections }]
        connections := s.connections + 1 }
  | turned {id : Nat} {a : Handler.Action} {fates : List Fate} {h : Handler} {turn : Turn} {system : System}
      (hfind : s.find id = some h) (hturned : Turned s h a fates turn system) :
      Happens s (.handle id a fates) { s.put turn.handler with
        system, stopRequested := s.stopRequested || turn.stops }
  | stopping : Happens s .requestStop { s with stopRequested := true }
  | closed {fates : List Fate} {system : System} (h : s.Joined) (hclosed : system.governor.isOpen = false) :
      Happens s (.close fates) { s with acceptor := .idle, handlers := [], system }

section

variable {s : Coordinator} {fates closeFates : List Fate} {id : Nat} {a : Handler.Action}
  {options : CoordinatorOptions} {policy : OversubscriptionPolicy} {listens : Bool}

/-- What becomes of a handler that comes next. -/
theorem dispatch_turned {h : Handler} (hfind : s.find id = some h) :
    (∃ disk, s.dispatch id a fates = boot disk s.connections) ∨ ∃ turn system, Turned s h a fates turn system ∧
      s.dispatch id a fates = { s.put turn.handler with system, stopRequested := s.stopRequested || turn.stops } := by
  cases hasks : h.asks s.options a with
  | none => exact .inr ⟨_, _, .quiet hasks, dispatch_quiet hfind (.inl ⟨hasks, rfl⟩)⟩
  | some r =>
      cases r with
      | error reply => exact .inr ⟨_, _, .answered hasks, dispatch_quiet hfind (.inr ⟨reply, hasks, rfl⟩)⟩
      | ok c =>
          have hran := @dispatch_called s fates c id h a hfind hasks
          generalize s.dispatch id a fates = t at hran
          cases hran with
          | crashed => exact .inl ⟨_, rfl⟩
          | returned hreply => exact .inr ⟨_, _, .called hasks hreply, rfl⟩

/-- There may be none. -/
theorem dispatch_none (hfind : s.find id = none) : s.dispatch id a fates = s := by simp [dispatch, hfind]

theorem dispatch_cases : Happens s (.handle id a fates) (s.dispatch id a fates) := by
  cases hfind : s.find id with
  | none =>
      rw [dispatch_none hfind]
      exact .kept
  | some h =>
      rcases @dispatch_turned s fates id a h hfind with ⟨disk, hboot⟩ | ⟨turn, system, hturned, hstep⟩
      · rw [hboot]
        exact .rebooted
      · rw [hstep]
        exact .turned hfind hturned

theorem close_cases : Happens s (.close fates) (s.close fates) := by
  unfold close
  split
  next hjoined =>
    have hran := @close_called fates { s with acceptor := .idle, handlers := [] }
    generalize { s with acceptor := .idle, handlers := [] }.run fates _ _ = t at hran
    cases hran with
    | crashed => exact .rebooted
    | returned hreply => exact .closed hjoined (System.yielded Governor.yields_perform_close hreply)
  · exact .kept

theorem listen_cases {reply : Reply} {system : System} (hidle : s.acceptor = .idle)
    (hlaunched : s.system.governor.isOpen = false → Governor.Launched (reply, system.governor)) :
    Happens s (.start options policy listens fates closeFates)
      (listened listens closeFates reply { s with options, system }) := by
  have hbegun (h : s.system.governor.isOpen = false → system.governor.isOpen = false) :
      Happens s (.start options policy listens fates closeFates) { s with options, system, acceptor := s.acceptor } :=
    .begun hidle fun hclosed => .inl ⟨hidle, h hclosed⟩
  cases reply with
  | status status =>
      replace hlaunched (hclosed : s.system.governor.isOpen = false) :
          system.governor.isOpen = status.isOk ∧
            (system.governor.isOpen = true → system.governor.accepting = true) := by
        obtain ⟨status', hstatus, h⟩ := hlaunched hclosed
        cases hstatus
        exact h
      unfold listened listen
      dsimp only
      split
      next hbad => exact hbegun fun hclosed => (hlaunched hclosed).1.trans (by simpa using hbad)
      next hok =>
        replace hok : status.isOk = true := by simpa using hok
        split
        · refine .begun hidle fun hclosed => .inr ⟨rfl, ?_⟩
          obtain ⟨hopen, haccepting⟩ := hlaunched hclosed
          exact ⟨hopen.trans hok, haccepting (hopen.trans hok)⟩
        · have hran := @close_called closeFates { s with options, system }
          generalize Coordinator.run { s with options, system } closeFates _ _ = t at hran
          cases hran with
          | crashed => exact .rebooted
          | returned hreply =>
              exact .begun hidle fun _ => .inl ⟨hidle, System.yielded Governor.yields_perform_close hreply⟩
  | ingested | decided | revalidated =>
      refine hbegun fun hclosed => ?_
      obtain ⟨_, hstatus, _⟩ := hlaunched hclosed
      cases hstatus

theorem start_cases : Happens s (.start options policy listens fates closeFates)
    (s.start options policy listens fates closeFates) := by
  by_cases hidle : s.acceptor = .idle
  · cases hoptions : (options.maxConnections = 0 || options.maxFramesPerConnection = 0) with
    | true =>
        have hstart : s.start options policy listens fates closeFates =
            { s with options, system := s.system, acceptor := s.acceptor } := by
          unfold start
          rw [if_neg (not_not.mpr hidle), if_pos hoptions]
        rw [hstart]
        exact .begun hidle fun hclosed => .inl ⟨hidle, hclosed⟩
    | false =>
        have hran := @start_called s fates options policy listens closeFates hidle hoptions
        generalize s.start options policy listens fates closeFates = t at hran
        cases hran with
        | crashed => exact .rebooted
        | returned hreply =>
            rename_i reply
            replace hreply : (s.system.perform ⟨.openRuntime options.governor policy, fates⟩).1 = some reply := hreply
            have hlaunched (hclosed : s.system.governor.isOpen = false) :=
              System.yielded (Governor.yields_perform_open hclosed) hreply
            dsimp only
            generalize s.system.step ⟨.openRuntime options.governor policy, fates⟩ = system at hlaunched
            exact listen_cases hidle hlaunched
  · have hstart : s.start options policy listens fates closeFates = s := by
      unfold start
      rw [if_pos hidle]
    rw [hstart]
    exact .kept

theorem poll_cases : Happens s .poll s.poll := by
  unfold poll
  split
  next hacceptor =>
    refine .moved (by simp [hacceptor]) ?_
    split <;> simp
  · exact .kept

theorem accept_cases {ok : Bool} : Happens s (.accept ok) (s.accept ok) := by
  unfold accept
  split
  next failures hacceptor =>
    have hwas : s.acceptor ≠ .idle := by simp [hacceptor]
    split
    · refine .moved hwas ?_
      split <;> simp
    split
    · exact .moved hwas nofun
    next hstop =>
      dsimp only
      split
      · exact .reaped hwas
      next hroom => exact .admitted hwas (by simpa using hstop) (Nat.not_le.mp hroom)
  · exact .kept

/-! ## What a handler leaves as it is -/

section

variable {h : Handler} {turn : Turn} {system : System} {c : Command}

theorem remote_registration {hello : HelloRequest} {epoch : FabricEpoch} {adopt : Bool} :
    (registration hello epoch adopt).remote = true := by
  cases adopt <;> rfl

theorem remote_asked {o : CoordinatorOptions} (hasks : h.asks o a = some (.ok c)) : c.remote = true := by
  generalize hr : Except.ok c = r at hasks
  cases Handler.asks_cases hasks with
  | serving => exact (asked_ok hr.symm).2
  | registering => exact Except.ok.inj hr ▸ remote_registration

/-- No handler changes what the runtime is bound to. -/
theorem Turned.tenure (h' : Turned s h a fates turn system) :
    Governor.SameTenure s.system.governor system.governor := by
  cases h' with
  | quiet => exact .refl _
  | answered => exact .refl _
  | called hasks hreply => exact System.yielded (Governor.yields_perform_tenure (remote_asked hasks)) hreply

/-- Neither the number of a connection nor whether its thread has ended is changed
by a step that leaves the handler there. -/
structure Turn.Keeps (t : Turn) (h : Handler) : Prop where
  id : t.handler.id = h.id
  finished : t.handler.finished = true → h.finished = true ∨ t.handler.phase = .closed

theorem keeps_same {stops : Bool} : Turn.Keeps { handler := h, stops } h := ⟨rfl, .inl⟩

theorem keeps_enter {phase : Phase} : (h.enter phase).Keeps h := ⟨rfl, .inl⟩

theorem keeps_leave {reply : Frame} : (h.leave reply).Keeps h := ⟨rfl, .inl⟩

theorem keeps_goOn {reply : Frame} {sends : Bool} {phase : Phase} : (h.goOn reply sends phase).Keeps h := ⟨rfl, .inl⟩

theorem keeps_quiet {stopRequested : Bool} {g : Governor} : (h.quiet stopRequested g a).Keeps h := by
  unfold Handler.quiet
  split
  · unfold Handler.greeted
    split
    · exact keeps_leave
    · exact keeps_enter
  · exact keeps_enter
  · exact keeps_enter
  · exact keeps_enter
  · unfold Handler.welcome
    dsimp only
    split
    · exact keeps_enter
    · exact keeps_enter
    · exact keeps_enter
    · exact keeps_goOn
  · exact keeps_enter
  next hphase => exact ⟨rfl, fun _ => .inr hphase⟩
  · exact keeps_same

theorem keeps_answered {frames : UInt64} {reply : Frame} {sends : Bool} :
    (h.answered frames reply sends).Keeps h := by
  unfold Handler.answered
  split
  · exact keeps_leave
  split
  · exact ⟨rfl, .inl⟩
  · exact keeps_goOn

theorem keeps_registered {hello : HelloRequest} {adopted : Bool} {status : Status} :
    (h.registered hello adopted status).Keeps h := by
  unfold Handler.registered
  split
  · exact keeps_enter
  split
  · exact keeps_leave
  · exact keeps_enter

theorem keeps_replied {reply : Except Frame Reply} : (h.replied a reply).Keeps h := by
  unfold Handler.replied
  split
  · exact keeps_answered
  · exact keeps_answered
  · exact keeps_registered
  · exact keeps_same

theorem Turned.keeps (h' : Turned s h a fates turn system) : turn.Keeps h := by
  cases h' with
  | quiet => exact keeps_quiet
  | answered => exact keeps_replied
  | called => exact keeps_replied

theorem Turned.asking (h' : Turned s h a fates turn system) :
    turn = h.quiet s.stopRequested s.system.governor a ∧ system = s.system ∨
      ∃ r, Handler.Asks s.options h a r := by
  cases h' with
  | quiet => exact .inl ⟨rfl, rfl⟩
  | answered hasks => exact .inr ⟨_, Handler.asks_cases hasks⟩
  | called hasks => exact .inr ⟨_, Handler.asks_cases hasks⟩

/-- A handler that is past the end stays there. -/
theorem Turned.closed (h' : Turned s h a fates turn system) (hclosed : h.phase = .closed) :
    turn.handler.phase = .closed := by
  rcases h'.asking with ⟨rfl, _⟩ | ⟨r, hr⟩
  · unfold Handler.quiet
    rw [hclosed]
    cases a with
    | finish => rfl
    | receive | hangUp | proceed => exact hclosed
  · cases hr with
    | serving hphase => exact absurd (hclosed.symm.trans hphase) nofun
    | registering hphase => exact absurd (hclosed.symm.trans hphase) nofun

theorem find_eq_some (hfind : s.find id = some h) : h ∈ s.handlers ∧ h.id = id :=
  ⟨List.mem_of_find?_eq_some hfind, by simpa using List.find?_some hfind⟩

theorem mem_put {x : Handler} (hx : x ∈ (s.put h).handlers) : x = h ∨ x ∈ s.handlers ∧ x.id ≠ h.id := by
  obtain ⟨y, hy, rfl⟩ := List.mem_map.mp hx
  split
  · exact .inl rfl
  next hne => exact .inr ⟨hy, hne⟩

theorem ids_put : (s.put h).handlers.map (·.id) = s.handlers.map (·.id) := by
  rw [put, List.map_map]
  refine List.map_congr_left fun x _ => ?_
  dsimp only [Function.comp]
  split
  next heq => exact heq.symm
  · rfl

end

/-- **A step** of the coordinator. -/
theorem step_cases (s : Coordinator) (e : Event) : Happens s e (s.step e) := by
  cases e with
  | start options policy listens fates closeFates => exact start_cases
  | poll => exact poll_cases
  | accept ok => exact accept_cases
  | handle id action fates => exact dispatch_cases
  | requestStop => exact .stopping
  | close fates => exact close_cases
  | crash => exact .rebooted

end

end Coordinator

end Oversub
