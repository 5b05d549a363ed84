import Oversub.Runtime.Handlers

/-!
# Oversub.Runtime.Conversations

What each connection is sent, in every reachable state of the coordinator: an
acknowledgement of HELLO and a reply to each frame in its order, up to a reply
that ends it.  What HELLO was told of the epoch and of the policy stays true as
long as the connection lives (`Coordinator.sound_of_run`).
-/

namespace Oversub

open Wire Reader Crash Files Trace

namespace Coordinator

/-! ## A connection -/

/-- What the readings so far have put into a response. -/
structure Reads (g : Governor) (reading : Reading) (response : HelloAck) : Prop where
  epoch : reading ≠ .epoch → response.epoch = g.state.epoch
  policyGeneration : reading ≠ .epoch → reading ≠ .policyGeneration →
    response.policyGeneration = g.state.policy.generation

/-- A connection that was acknowledged, with the replies to so many frames. -/
structure Conversed (o : CoordinatorOptions) (g : Governor) (response : HelloAck) (replies : List Frame)
    (frames : UInt64) : Prop where
  epoch : response.epoch = g.state.epoch
  policyGeneration : response.policyGeneration = g.state.policy.generation
  continues : ∀ f ∈ replies, Frame.Continues f
  bounded : frames ≤ o.maxFramesPerConnection
  counted : o.maxFramesPerConnection.toNat < u64Max → replies.length = frames.toNat

def helloAckFrame (response : HelloAck) : Frame := (MessageType.helloAck.raw, encodeHelloResponse response)

/-- Where a handler can be, with what it has sent. -/
inductive Proper (o : CoordinatorOptions) (g : Governor) : Phase → List Frame → Prop
  | fresh : Proper o g .fresh []
  | greeting (hello : HelloRequest) (adopt : Bool) : Proper o g (.greeting hello adopt) []
  | registering (hello : HelloRequest) (adopt : Bool) {epoch : FabricEpoch} (h : epoch = g.state.epoch) :
      Proper o g (.registering hello adopt epoch) []
  | welcoming (hello : HelloRequest) {reading : Reading} {response : HelloAck} (h : Reads g reading response) :
      Proper o g (.welcoming hello reading response) []
  | serving {response : HelloAck} {replies : List Frame} {frames : UInt64}
      (h : Conversed o g response replies frames) :
      Proper o g (.serving frames) (helloAckFrame response :: replies)
  | receiving {response : HelloAck} {replies : List Frame} {frames : UInt64}
      (h : Conversed o g response replies frames) :
      Proper o g (.receiving frames) (helloAckFrame response :: replies)
  | unheard : Proper o g .closed []
  | refused (status : Status) : Proper o g .closed [rejectWith status]
  | left {response : HelloAck} {replies : List Frame} {frames : UInt64}
      (h : Conversed o g response replies frames) : Proper o g .closed (helloAckFrame response :: replies)
  | ended {response : HelloAck} {replies : List Frame} {frames : UInt64} {last : Frame}
      (h : Conversed o g response replies frames) (hlast : Frame.Ends last) :
      Proper o g .closed (helloAckFrame response :: (replies ++ [last]))

section

variable {o : CoordinatorOptions} {g g' : Governor} {phase : Phase} {sent : List Frame} {h : Handler}
  {response : HelloAck} {replies : List Frame} {frames : UInt64} {reply : Frame} {sends : Bool}

theorem Conversed.congr (h : Conversed o g response replies frames) (hg : Governor.SameTenure g g') :
    Conversed o g' response replies frames :=
  ⟨h.epoch.trans hg.epoch.symm, h.policyGeneration.trans (congrArg (·.generation) hg.policy).symm,
    h.continues, h.bounded, h.counted⟩

/-- Nothing that a connection can do makes another one improper. -/
theorem Proper.congr (h : Proper o g phase sent) (hg : Governor.SameTenure g g') : Proper o g' phase sent := by
  cases h with
  | fresh => exact .fresh
  | greeting hello adopt => exact .greeting hello adopt
  | registering hello adopt h => exact .registering hello adopt (h.trans hg.epoch.symm)
  | welcoming hello h =>
      exact .welcoming hello ⟨fun hr => (h.epoch hr).trans hg.epoch.symm,
        fun hr hr' => (h.policyGeneration hr hr').trans (congrArg (·.generation) hg.policy).symm⟩
  | serving h => exact .serving (h.congr hg)
  | receiving h => exact .receiving (h.congr hg)
  | unheard => exact .unheard
  | refused status => exact .refused status
  | left h => exact .left (h.congr hg)
  | ended h hlast => exact .ended (h.congr hg) hlast

/-! ## One part of a handler -/

/-- A frame more, within the bound. -/
theorem Conversed.extend (h : Conversed o g response replies frames)
    (hbound : frames + 1 ≤ o.maxFramesPerConnection) (hreply : Frame.Continues reply) :
    Conversed o g response (replies ++ [reply]) (frames + 1) where
  epoch := h.epoch
  policyGeneration := h.policyGeneration
  continues := by
    rw [List.forall_mem_append, List.forall_mem_singleton]
    exact ⟨h.continues, hreply⟩
  bounded := hbound
  counted := by
    intro hmax
    have hframes := h.bounded
    have hcounted := h.counted hmax
    rw [UInt64.le_iff_toNat_le] at hframes
    have hnext : (frames + 1).toNat = frames.toNat + 1 := by
      rw [UInt64.toNat_add]
      have hu64 : u64Max = 2 ^ 64 - 1 := rfl
      have hone : (1 : UInt64).toNat = 1 := rfl
      rw [hone]
      omega
    rw [List.length_append, List.length_singleton, hcounted, hnext]

/-- The reply to a frame: within the bound it may be any, and else it is the
last. -/
theorem Proper.answered {finished : Bool} {id : Nat} (h : Conversed o g response replies frames)
    (hreply : Frame.Ends reply ∨ frames + 1 ≤ o.maxFramesPerConnection ∧ Frame.Continues reply) :
    let turn := Handler.answered ⟨id, .receiving frames, helloAckFrame response :: replies, finished⟩
      (frames + 1) reply sends
    Proper o g turn.handler.phase turn.handler.sent := by
  dsimp only
  unfold Handler.answered
  split
  next hreject => exact .ended h (.inl hreject)
  split
  next hack => exact .ended h (.inr hack)
  next hreject hack =>
    obtain ⟨hbound, hcontinues⟩ := hreply.resolve_left (not_or.mpr ⟨hreject, hack⟩)
    have hextended := h.extend hbound hcontinues
    cases sends with
    | true => exact .serving hextended
    | false => exact .left hextended

theorem Proper.quiet {stopRequested : Bool} {a : Handler.Action} (hp : Proper o g h.phase h.sent) :
    Proper o g (h.quiet stopRequested g a).handler.phase (h.quiet stopRequested g a).handler.sent := by
  obtain ⟨id, phase, sent, finished⟩ := h
  dsimp only at hp
  have hsame := hp
  cases a with
  | receive frame sends order wall =>
      cases hp with
      | fresh =>
          unfold Handler.quiet
          dsimp only
          unfold Handler.greeted
          split
          next status _ => exact .refused status
          next hello _ => exact .greeting hello hello.adoptIncarnation
      | greeting | registering | welcoming | serving | receiving | unheard | refused | left | ended => exact hsame
  | hangUp =>
      cases hp with
      | fresh => exact .unheard
      | receiving h => exact .left h
      | greeting | registering | welcoming | serving | unheard | refused | left | ended => exact hsame
  | finish => cases hp <;> exact hsame
  | proceed sends =>
      cases hp with
      | greeting hello adopt => exact .registering hello adopt rfl
      | welcoming hello h =>
          rename_i reading response
          unfold Handler.quiet
          dsimp only
          unfold Handler.welcome
          cases reading with
          | epoch => exact .welcoming hello ⟨fun _ => rfl, fun _ hne => absurd rfl hne⟩
          | policyGeneration => exact .welcoming hello ⟨fun _ => h.epoch nofun, fun _ _ => rfl⟩
          | evidenceGenerations =>
              exact .welcoming hello ⟨fun _ => h.epoch nofun, fun _ _ => h.policyGeneration nofun nofun⟩
          | publisherSequence =>
              have hconversed : Conversed o g
                  { response with lastSequence := (helloResponse g hello).lastSequence } [] 0 :=
                ⟨h.epoch nofun, h.policyGeneration nofun nofun, nofun, Nat.zero_le _, fun _ => rfl⟩
              cases sends with
              | true => exact .serving hconversed
              | false => exact .left hconversed
      | serving h =>
          unfold Handler.quiet
          dsimp only
          cases stopRequested with
          | true => exact .left h
          | false => exact .receiving h
      | fresh | registering | receiving | unheard | refused | left | ended => exact hsame

/-- A handler that replies without having asked. -/
theorem Proper.replied_error {a : Handler.Action} (hp : Proper o g h.phase h.sent)
    (hasks : h.asks o a = some (.error reply)) :
    Proper o g (h.replied a (.error reply)).handler.phase (h.replied a (.error reply)).handler.sent := by
  obtain ⟨id, phase, sent, finished⟩ := h
  generalize hr : Except.error reply = r at hasks
  cases Handler.asks_cases hasks with
  | registering => cases hr
  | serving hphase =>
      dsimp only at hphase hp
      subst hphase
      cases hp with
      | receiving h => exact Proper.answered h (.inl (asked_error hr.symm))

/-- A handler that tells of a call. -/
theorem Proper.replied_ok {a : Handler.Action} {c : Command} {answer : Reply} (hp : Proper o g h.phase h.sent)
    (hasks : h.asks o a = some (.ok c)) :
    Proper o g (h.replied a (.ok answer)).handler.phase (h.replied a (.ok answer)).handler.sent := by
  obtain ⟨id, phase, sent, finished⟩ := h
  generalize hr : Except.ok c = r at hasks
  cases Handler.asks_cases hasks with
  | registering hphase =>
      rename_i hello adopt epoch sends
      dsimp only at hphase hp
      subst hphase
      have hsame := hp
      cases hp with
      | registering =>
          cases answer with
          | status status =>
              unfold Handler.replied
              dsimp only
              unfold Handler.registered
              split
              · exact .greeting hello false
              split
              · exact .refused status
              · exact .welcoming hello ⟨nofun, nofun⟩
          | ingested | decided | revalidated => exact hsame
  | serving hphase =>
      dsimp only at hphase hp
      subst hphase
      cases hp with
      | receiving h =>
          obtain ⟨hspent, _⟩ := asked_ok hr.symm
          have hbound : _ ≤ o.maxFramesPerConnection := UInt64.not_lt.mp (of_decide_eq_false hspent)
          refine Proper.answered h ?_
          exact (toldOf_type answer).elim (fun h => .inr ⟨hbound, h⟩) .inl

end

/-! ## The coordinator -/

/-- What holds of the coordinator between its steps. -/
structure Sound (s : Coordinator) : Prop where
  idle : s.acceptor = .idle → s.handlers = [] ∧ s.system.governor.isOpen = false
  running : s.acceptor ≠ .idle → s.system.governor.isOpen = true ∧ s.system.governor.accepting = true
  room : s.handlers.length ≤ s.options.maxConnections.toNat
  numbered : ∀ h ∈ s.handlers, h.id < s.connections
  distinct : (s.handlers.map (·.id)).Nodup
  proper : ∀ h ∈ s.handlers, Proper s.options s.system.governor h.phase h.sent
  finished : ∀ h ∈ s.handlers, h.finished = true → h.phase = .closed

theorem sound_boot {disk : Disk} {connections : Nat} : (boot disk connections).Sound where
  idle _ := ⟨rfl, rfl⟩
  running h := absurd rfl h
  room := Nat.zero_le _
  numbered := nofun
  distinct := List.nodup_nil
  proper := nofun
  finished := nofun

section

variable {s t : Coordinator} {e : Event} {handlers : List Handler}

/-- Some of the handlers, with the accept loop elsewhere. -/
theorem Sound.sublist (h : s.Sound) {acceptor : Acceptor} (hsub : handlers.Sublist s.handlers)
    (hwas : s.acceptor ≠ .idle) (his : acceptor ≠ .idle) : Sound { s with acceptor, handlers } where
  idle hidle := absurd hidle his
  running _ := h.running hwas
  room := Nat.le_trans hsub.length_le h.room
  numbered x hx := h.numbered x (hsub.subset hx)
  distinct := h.distinct.sublist (hsub.map _)
  proper x hx := h.proper x (hsub.subset hx)
  finished x hx := h.finished x (hsub.subset hx)

theorem Sound.admitted (h : s.Sound) (hsub : handlers.Sublist s.handlers) (hwas : s.acceptor ≠ .idle)
    (hroom : handlers.length < s.options.maxConnections.toNat) :
    Sound { s with
      acceptor := .looping 0
      handlers := handlers ++ [{ id := s.connections }]
      connections := s.connections + 1 } where
  idle := nofun
  running _ := h.running hwas
  room := by
    rw [List.length_append, List.length_singleton]
    exact hroom
  numbered := by
    rw [List.forall_mem_append, List.forall_mem_singleton]
    exact ⟨fun x hx => Nat.lt_succ_of_lt (h.numbered x (hsub.subset hx)), Nat.lt_succ_self _⟩
  distinct := by
    rw [List.map_append, List.map_singleton, ← List.concat_eq_append]
    refine List.Nodup.concat (fun hmem => ?_) (h.distinct.sublist (hsub.map _))
    obtain ⟨x, hx, hid⟩ := List.mem_map.mp hmem
    exact Nat.lt_irrefl _ (hid ▸ h.numbered x (hsub.subset hx))
  proper := by
    rw [List.forall_mem_append, List.forall_mem_singleton]
    exact ⟨fun x hx => h.proper x (hsub.subset hx), .fresh⟩
  finished := by
    rw [List.forall_mem_append, List.forall_mem_singleton]
    exact ⟨fun x hx => h.finished x (hsub.subset hx), nofun⟩

/-- A handler makes a step. -/
theorem Sound.turned (h : s.Sound) {id : Nat} {a : Handler.Action} {fates : List Fate} {x : Handler} {turn : Turn}
    {system : System} {stopRequested : Bool} (hfind : s.find id = some x)
    (hturned : Turned s x a fates turn system) :
    Sound { s.put turn.handler with system, stopRequested } := by
  obtain ⟨hx, _⟩ := find_eq_some hfind
  have htenure := hturned.tenure
  have hkeeps := hturned.keeps
  have hproper : Proper s.options system.governor turn.handler.phase turn.handler.sent := by
    have hp := h.proper x hx
    refine Proper.congr ?_ htenure
    cases hturned with
    | quiet => exact hp.quiet
    | answered hasks => exact hp.replied_error hasks
    | called hasks => exact hp.replied_ok hasks
  refine ⟨fun hidle => ?_, fun hrunning => ?_, ?_, ?_, ?_, ?_, ?_⟩
  · exact absurd hx (by simp [(h.idle hidle).1])
  · rw [htenure.flags.isOpen, htenure.flags.accepting]
    exact h.running hrunning
  · exact Nat.le_trans (Nat.le_of_eq (List.length_map ..)) h.room
  · intro y hy
    rcases mem_put hy with rfl | ⟨hy, _⟩
    · exact hkeeps.id ▸ h.numbered x hx
    · exact h.numbered y hy
  · exact (ids_put (h := turn.handler)).symm ▸ h.distinct
  · intro y hy
    rcases mem_put hy with rfl | ⟨hy, _⟩
    · exact hproper
    · exact (h.proper y hy).congr htenure
  · intro y hy hfinished
    rcases mem_put hy with rfl | ⟨hy, _⟩
    · exact (hkeeps.finished hfinished).elim (fun hwas => hturned.closed (h.finished x hx hwas)) fun hclosed => hclosed
    · exact h.finished y hy hfinished

/-- **A step** keeps it. -/
theorem Sound.step (h : s.Sound) (e : Event) : (s.step e).Sound := by
  have hcases := step_cases s e
  generalize s.step e = t at hcases
  cases hcases with
  | kept => exact h
  | rebooted => exact sound_boot
  | begun hidle hbegun =>
      obtain ⟨hnil, hclosed⟩ := h.idle hidle
      rcases hbegun hclosed with ⟨hacceptor, hopen⟩ | ⟨hacceptor, hopen⟩
      · exact ⟨fun _ => ⟨hnil, hopen⟩, fun hne => absurd hacceptor hne, by simp [hnil], by simp [hnil], by simp [hnil],
          by simp [hnil], by simp [hnil]⟩
      · exact ⟨fun hidle => by simp [hacceptor] at hidle, fun _ => hopen, by simp [hnil], by simp [hnil], by simp [hnil],
          by simp [hnil], by simp [hnil]⟩
  | moved hwas his => exact h.sublist (List.Sublist.refl _) hwas his
  | reaped hwas => exact h.sublist List.filter_sublist hwas nofun
  | admitted hwas _ hroom => exact h.admitted List.filter_sublist hwas hroom
  | turned hfind hturned => exact h.turned hfind hturned
  | stopping => exact ⟨h.idle, h.running, h.room, h.numbered, h.distinct, h.proper, h.finished⟩
  | closed _ hclosed =>
      exact ⟨fun _ => ⟨rfl, hclosed⟩, fun hne => absurd rfl hne, Nat.zero_le _, nofun, List.nodup_nil, nofun, nofun⟩

/-- **In every history** of a directory. -/
theorem sound_of_run {disk : Disk} {ts : List Step} (h : History disk ts s) : s.Sound :=
  h.invariant sound_boot fun _ e hs => hs.step e

/-! ## What a connection is sent -/

/-- All that a connection can have been sent. -/
inductive Conversation : List Frame → Prop
  | silent : Conversation []
  | refused (status : Status) : Conversation [rejectWith status]
  | going {response : HelloAck} {replies : List Frame} (h : ∀ f ∈ replies, Frame.Continues f) :
      Conversation (helloAckFrame response :: replies)
  | ended {response : HelloAck} {replies : List Frame} {last : Frame} (h : ∀ f ∈ replies, Frame.Continues f)
      (hlast : Frame.Ends last) : Conversation (helloAckFrame response :: (replies ++ [last]))

theorem Proper.conversation {o : CoordinatorOptions} {g : Governor} {phase : Phase} {sent : List Frame}
    (h : Proper o g phase sent) : Conversation sent := by
  cases h with
  | fresh | greeting | registering | welcoming | unheard => exact .silent
  | refused status => exact .refused status
  | serving h | receiving h | left h => exact .going h.continues
  | ended h hlast => exact .ended h.continues hlast

theorem Conversed.length_le {o : CoordinatorOptions} {g : Governor} {response : HelloAck} {replies : List Frame}
    {frames : UInt64} (h : Conversed o g response replies frames) (hmax : o.maxFramesPerConnection.toNat < u64Max) :
    replies.length ≤ o.maxFramesPerConnection.toNat := by
  rw [h.counted hmax]
  exact h.bounded

/-- No connection is sent more than its frames allow, the acknowledgement of HELLO
and a last reply. -/
theorem Proper.length_le {o : CoordinatorOptions} {g : Governor} {phase : Phase} {sent : List Frame}
    (h : Proper o g phase sent) (hmax : o.maxFramesPerConnection.toNat < u64Max) :
    sent.length ≤ o.maxFramesPerConnection.toNat + 2 := by
  cases h with
  | fresh | greeting | registering | welcoming | unheard => exact Nat.zero_le _
  | refused => simp
  | serving h | receiving h | left h =>
      have hle := h.length_le hmax
      rw [List.length_cons]
      omega
  | ended h _ =>
      have hle := h.length_le hmax
      rw [List.length_cons, List.length_append, List.length_singleton]
      omega

end

/-! ## A sample history -/

def sampleHello : HelloRequest where
  publisher := ⟨1⟩
  incarnation := ⟨1⟩
  domain := ⟨1⟩

def sampleCoordinatorOptions : CoordinatorOptions where
  governor := Governor.sampleOptions

/-- A coordinator that listens, after so many connections. -/
def listening (system : System) (handlers : List Handler) (connections : Nat) : Coordinator where
  options := sampleCoordinatorOptions
  system := system
  acceptor := .looping 0
  handlers := handlers
  connections := connections

/-- The coordinator starts, and a worker connects and says HELLO. -/
def helloEvents : List Event :=
  [.start sampleCoordinatorOptions samplePolicy true [] [], .poll, .accept true,
    .handle 0 (.receive (WorkerRequest.hello sampleHello).frame true .listed 0) [], .handle 0 (.proceed true) []]

/-- The worker is registered, and its HELLO acknowledged. -/
def welcomeEvents : List Event := .replicate 6 (.handle 0 (.proceed true) [])

/-- The connection that comes of it. -/
def welcomed (g : Governor) : Handler :=
  { id := 0, phase := .receiving 0, sent := [helloAckFrame (helloResponse g sampleHello)] }

theorem sample_hello : ∃ disk, helloEvents.foldl step (boot Governor.emptyDisk 0) =
    listening ⟨Governor.started samplePolicy, disk⟩
      [{ id := 0, phase := .registering sampleHello false ⟨1⟩ }] 1 := by
  obtain ⟨disk, hopen⟩ := Governor.sample_opened
  have hlistened (disk : Disk) (system : System) : listened true [] (.status .success)
      { boot disk 0 with options := sampleCoordinatorOptions, system } = listening system [] 0 := rfl
  have hstart : (boot Governor.emptyDisk 0).step (.start sampleCoordinatorOptions samplePolicy true [] []) =
      listening ⟨Governor.started samplePolicy, disk⟩ [] 0 :=
    (Ran.of_perform (@start_called (boot Governor.emptyDisk 0) [] sampleCoordinatorOptions samplePolicy true []
      rfl rfl) hopen).trans (hlistened Governor.emptyDisk _)
  have hgreeted : Handler.greeted { id := 0 } (WorkerRequest.hello sampleHello).frame =
      Handler.enter { id := 0 } (.greeting sampleHello false) := by
    rw [Handler.greeted, readGreeting_frame]
    rfl
  have hheard (system : System) :
      [.poll, .accept true, .handle 0 (.receive (WorkerRequest.hello sampleHello).frame true .listed 0) []].foldl
        step (listening system [] 0) =
      listening system [(Handler.greeted { id := 0 } (WorkerRequest.hello sampleHello).frame).handler] 1 := rfl
  refine ⟨disk, ?_⟩
  rw [helloEvents, List.foldl_cons, hstart]
  rw [hgreeted] at hheard
  exact congrArg (fun s => step s (.handle 0 (.proceed true) [])) (hheard _)

theorem sample_welcomed : ∃ disk, (helloEvents ++ welcomeEvents).foldl step (boot Governor.emptyDisk 0) =
    listening ⟨Governor.staffed (Governor.started samplePolicy), disk⟩
      [welcomed (Governor.staffed (Governor.started samplePolicy))] 1 := by
  obtain ⟨disk, hhello⟩ := sample_hello
  obtain ⟨disk', hregister⟩ := Governor.sample_registered disk
  have hregistered {system system' : System}
      (h : system.perform Governor.registerCall = (some (.status .success), system')) :
      (listening system [{ id := 0, phase := .registering sampleHello false ⟨1⟩ }] 1).step
        (.handle 0 (.proceed true) []) = listening system' [{ id := 0, phase := .welcoming sampleHello .epoch {} }] 1 :=
    Ran.of_perform (@dispatch_called (listening system [{ id := 0, phase := .registering sampleHello false ⟨1⟩ }] 1)
      [] _ 0 _ (.proceed true) rfl rfl) h
  have hread (g : Governor) (disk : Disk) : (List.replicate 5 (.handle 0 (.proceed true) [])).foldl step
      (listening ⟨g, disk⟩ [{ id := 0, phase := .welcoming sampleHello .epoch {} }] 1) =
      listening ⟨g, disk⟩ [welcomed g] 1 := rfl
  refine ⟨disk', ?_⟩
  rw [List.foldl_append, hhello, welcomeEvents, List.replicate_succ, List.foldl_cons, hregistered hregister]
  exact hread _ _

/-! ## In every history -/

section

variable {s : Coordinator}

/-- **The limits hold** in every reachable state: on the connections that are
served at a time, and on what each of them is sent. -/
theorem limits_of_run {disk : Disk} {ts : List Step} (h : History disk ts s) :
    s.handlers.length ≤ s.options.maxConnections.toNat ∧ (s.handlers.map (·.id)).Nodup ∧
      ∀ x ∈ s.handlers, s.options.maxFramesPerConnection.toNat < u64Max →
        x.sent.length ≤ s.options.maxFramesPerConnection.toNat + 2 :=
  have hs := sound_of_run h
  ⟨hs.room, hs.distinct, fun x hx => (hs.proper x hx).length_le⟩

theorem limits_sample : ∃ ts s, History Governor.emptyDisk ts s ∧ s.handlers ≠ [] ∧
    (s.handlers.length ≤ s.options.maxConnections.toNat ∧ (s.handlers.map (·.id)).Nodup ∧
      ∀ x ∈ s.handlers, s.options.maxFramesPerConnection.toNat < u64Max →
        x.sent.length ≤ s.options.maxFramesPerConnection.toNat + 2) := by
  obtain ⟨disk, hrun⟩ := sample_welcomed
  exact ⟨_, _, run_play_foldl hrun, nofun, limits_of_run (run_play_foldl hrun)⟩

/-- **Replies come in order**: whatever a connection sends, it is sent nothing, a
rejection, or the acknowledgement of HELLO with replies of which only the last
one may end the connection; and while it is served it has got one reply for each
frame. -/
theorem conversation_of_run {disk : Disk} {ts : List Step} (h : History disk ts s) :
    ∀ x ∈ s.handlers, Conversation x.sent ∧
      ∀ frames, x.phase = .receiving frames → s.options.maxFramesPerConnection.toNat < u64Max →
        x.sent.length = frames.toNat + 1 := by
  intro x hx
  have hproper := (sound_of_run h).proper x hx
  refine ⟨hproper.conversation, fun frames hphase hmax => ?_⟩
  rw [hphase] at hproper
  generalize x.sent = sent at hproper
  cases hproper with
  | receiving h => rw [List.length_cons, h.counted hmax]

theorem conversation_sample : ∃ ts s, History Governor.emptyDisk ts s ∧ s.handlers ≠ [] ∧
    (∀ x ∈ s.handlers, Conversation x.sent ∧
      ∀ frames, x.phase = .receiving frames → s.options.maxFramesPerConnection.toNat < u64Max →
        x.sent.length = frames.toNat + 1) := by
  obtain ⟨disk, hrun⟩ := sample_welcomed
  exact ⟨_, _, run_play_foldl hrun, nofun, conversation_of_run (run_play_foldl hrun)⟩

/-- **What HELLO was told stays true**: as long as the connection lives, the epoch
and the policy generation that its worker decodes are those of the runtime, which
is open, so the worker claims the current epoch. -/
theorem greeting_current {disk : Disk} {ts : List Step} (h : History disk ts s) :
    ∀ x ∈ s.handlers, ∀ frame ∈ x.sent, frame.1 = MessageType.helloAck.raw →
      s.system.governor.isOpen = true ∧ ∃ response, readHelloResponse.whole frame.2 = some response ∧
        response.policyGeneration = s.system.governor.state.policy.generation ∧
        ∀ publisher incarnation,
          (WorkerClient.connected response.toHelloResponse publisher incarnation).claimedEpoch =
            s.system.governor.state.epoch := by
  intro x hx frame hframe htype
  have hs := sound_of_run h
  have hproper := hs.proper x hx
  have hopen : s.system.governor.isOpen = true := (hs.running fun hidle => by simp [(hs.idle hidle).1] at hx).1
  have hcontinues {f : Frame} (hf : Frame.Continues f) : f.1 ≠ MessageType.helloAck.raw := by
    rcases hf with hf | hf | hf <;> simp [hf]
  have hends {f : Frame} (hf : Frame.Ends f) : f.1 ≠ MessageType.helloAck.raw := by
    rcases hf with hf | hf <;> simp [hf]
  have htold {response : HelloAck} {replies : List Frame} {frames : UInt64}
      (h : Conversed s.options s.system.governor response replies frames) :
      ∃ response', readHelloResponse.whole (helloAckFrame response).2 = some response' ∧
        response'.policyGeneration = s.system.governor.state.policy.generation ∧
        ∀ publisher incarnation,
          (WorkerClient.connected response'.toHelloResponse publisher incarnation).claimedEpoch =
            s.system.governor.state.epoch :=
    ⟨response, (reads_helloResponse response).whole, h.policyGeneration, fun _ _ => h.epoch⟩
  refine ⟨hopen, ?_⟩
  generalize x.sent = sent at hproper hframe
  generalize x.phase = phase at hproper
  cases hproper with
  | fresh | greeting | registering | welcoming | unheard => cases hframe
  | refused status =>
      rw [List.mem_singleton.mp hframe] at htype
      exact absurd htype (hends (.inl rfl))
  | serving h | receiving h | left h =>
      rcases List.mem_cons.mp hframe with rfl | hframe
      · exact htold h
      · exact absurd htype (hcontinues (h.continues _ hframe))
  | ended h hlast =>
      rcases List.mem_cons.mp hframe with rfl | hframe
      · exact htold h
      · rcases List.mem_append.mp hframe with hframe | hframe
        · exact absurd htype (hcontinues (h.continues _ hframe))
        · rw [List.mem_singleton.mp hframe] at htype
          exact absurd htype (hends hlast)

theorem greeting_sample : ∃ ts s, History Governor.emptyDisk ts s ∧ s.handlers ≠ [] ∧
    (∀ x ∈ s.handlers, ∀ frame ∈ x.sent, frame.1 = MessageType.helloAck.raw →
      s.system.governor.isOpen = true ∧ ∃ response, readHelloResponse.whole frame.2 = some response ∧
        response.policyGeneration = s.system.governor.state.policy.generation ∧
        ∀ publisher incarnation,
          (WorkerClient.connected response.toHelloResponse publisher incarnation).claimedEpoch =
            s.system.governor.state.epoch) := by
  obtain ⟨disk, hrun⟩ := sample_welcomed
  exact ⟨_, _, run_play_foldl hrun, nofun, greeting_current (run_play_foldl hrun)⟩

end

end Coordinator

end Oversub
