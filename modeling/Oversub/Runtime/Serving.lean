import Oversub.Runtime.Conversations
import Oversub.Runtime.Registrations

/-!
# Oversub.Runtime.Serving

What a connection is sent, against the steps of a history: after its first
frame, the replies to its own frames and no others, each telling what one call
of the governor returned (`Coordinator.replies_of_run`).  No connection is
served before the governor has accepted its HELLO, nor by another runtime
(`Coordinator.accepted_of_run`).
-/

namespace Oversub

open Wire Reader Crash Files Trace

namespace Coordinator

/-! ## The reply to a frame -/

/-- The reply to a frame that asks for a call, or for none. -/
def told (system : System) (fates : List Fate) : Except Frame Command → Option Frame
  | .error reply => some reply
  | .ok c => (system.perform ⟨c, fates⟩).1.map toldOf

/-- It waits for a frame, or has got one. -/
def Phase.serves : Phase → Bool
  | .receiving _ => true
  | _ => false

/-- The reply to the frame of a step, if there is one on the connection. -/
def replyTo (id : Nat) (x : Step) : Option Frame :=
  match x.label with
  | .handle id' action fates =>
      if id' = id then
        (x.before.find id).bind fun h =>
          if h.phase.serves then (h.asks x.before.options action).bind (told x.before.system fates) else none
      else none
  | _ => none

section

variable {s : Coordinator} {e : Event} {fates : List Fate} {id : Nat} {a : Handler.Action} {h : Handler}
  {turn : Turn} {system : System}

theorem replyTo_of_find_none (hfind : s.find id = none) : replyTo id ⟨s, e⟩ = none := by
  unfold replyTo
  dsimp only
  split
  · split
    · rw [hfind]
      rfl
    · rfl
  · rfl

theorem replyTo_other {id' : Nat} (hne : id' ≠ id) : replyTo id ⟨s, .handle id' a fates⟩ = none := if_neg hne

theorem replyTo_handle (hfind : s.find id = some h) : replyTo id ⟨s, .handle id a fates⟩ =
    if h.phase.serves then (h.asks s.options a).bind (told s.system fates) else none := by
  have hself : replyTo id ⟨s, .handle id a fates⟩ = (s.find id).bind fun h =>
      if h.phase.serves then (h.asks s.options a).bind (told s.system fates) else none := if_pos rfl
  rw [hself, hfind]
  rfl

theorem sent_answered {frames : UInt64} {reply : Frame} {sends : Bool} :
    (h.answered frames reply sends).handler.sent = h.sent ++ [reply] := by
  unfold Handler.answered
  split
  · rfl
  split
  · rfl
  · rfl

/-- Before HELLO is acknowledged. -/
def Phase.Early : Phase → Prop
  | .fresh | .greeting _ _ | .registering _ _ _ | .welcoming _ _ _ => True
  | .serving _ | .receiving _ | .closed => False

theorem Proper.silent {o : CoordinatorOptions} {g : Governor} {phase : Phase} {sent : List Frame}
    (hp : Proper o g phase sent) (hphase : phase.Early) : sent = [] := by
  cases hp with
  | fresh | greeting | registering | welcoming | unheard => rfl
  | serving | receiving | refused | left | ended => cases hphase

/-- Before it is served a connection is sent one frame at most. -/
theorem tail_early {o : CoordinatorOptions} {g : Governor} {reply : Frame} (hp : Proper o g h.phase h.sent)
    (hphase : h.phase.Early) : (h.sent ++ [reply]).tail = h.sent.tail := by
  rw [hp.silent hphase]
  rfl

theorem tail_quiet {o : CoordinatorOptions} {g : Governor} {stopRequested : Bool}
    (hp : Proper o g h.phase h.sent) : (h.quiet stopRequested g a).handler.sent.tail = h.sent.tail := by
  unfold Handler.quiet
  split
  next hphase =>
    unfold Handler.greeted
    split
    · exact tail_early hp (hphase ▸ trivial)
    · rfl
  · rfl
  · rfl
  · rfl
  next hphase =>
    unfold Handler.welcome
    dsimp only
    split
    · rfl
    · rfl
    · rfl
    · exact tail_early hp (hphase ▸ trivial)
  · rfl
  · rfl
  · rfl

theorem tail_registered {o : CoordinatorOptions} {g : Governor} {hello : HelloRequest} {adopted : Bool}
    {status : Status} (hp : Proper o g h.phase h.sent) (hphase : h.phase.Early) :
    (h.registered hello adopted status).handler.sent.tail = h.sent.tail := by
  unfold Handler.registered
  split
  · rfl
  split
  · exact tail_early hp hphase
  · rfl

/-- A reply goes to the end. -/
theorem tail_receiving {o : CoordinatorOptions} {g : Governor} {frames : UInt64} {reply : Frame}
    (hp : Proper o g (.receiving frames) h.sent) : (h.sent ++ [reply]).tail = h.sent.tail ++ [reply] := by
  generalize h.sent = sent at hp
  cases hp
  rfl

/-- **A handler** sends the reply to the step, once it is served. -/
theorem Turned.tail (h' : Turned s h a fates turn system) (hfind : s.find id = some h)
    (hp : Proper s.options s.system.governor h.phase h.sent) :
    turn.handler.sent.tail = h.sent.tail ++ (replyTo id ⟨s, .handle id a fates⟩).toList := by
  rw [replyTo_handle hfind]
  cases h' with
  | quiet hasks => rw [hasks, tail_quiet hp, Option.bind_none, ite_self, Option.toList_none, List.append_nil]
  | answered hasks =>
      rename_i reply
      rw [hasks, Option.bind_some]
      generalize hr : Except.error reply = r at hasks
      cases Handler.asks_cases hasks with
      | serving hphase =>
          have hserves : h.phase.serves = true := by rw [hphase, Phase.serves]
          rw [← hr, if_pos hserves]
          rw [hphase] at hp
          simp only [Handler.replied, hphase, sent_answered]
          exact tail_receiving hp
      | registering => cases hr
  | called hasks hreply =>
      rename_i c reply
      have htold : told s.system fates (.ok c) = some (toldOf reply) := by rw [told, hreply, Option.map_some]
      rw [hasks, Option.bind_some, htold]
      generalize hr : Except.ok c = r at hasks
      cases Handler.asks_cases hasks with
      | serving hphase =>
          have hserves : h.phase.serves = true := by rw [hphase, Phase.serves]
          rw [if_pos hserves]
          rw [hphase] at hp
          simp only [Handler.replied, hphase, sent_answered]
          exact tail_receiving hp
      | registering hphase =>
          have hearly : h.phase.Early := hphase ▸ trivial
          have hserves : ¬ h.phase.serves = true := by simp [hphase, Phase.serves]
          rw [if_neg hserves, Option.toList_none, List.append_nil]
          cases reply with
          | status status =>
              simp only [Handler.replied, hphase]
              exact tail_registered hp hearly
          | ingested | decided | revalidated => simp only [Handler.replied, hphase]

/-! ## A step and the connections -/

theorem connections_step (e : Event) : s.connections ≤ (s.step e).connections := by
  have hcases := step_cases s e
  generalize s.step e = t at hcases
  cases hcases with
  | admitted => exact Nat.le_succ _
  | kept | rebooted | begun | moved | reaped | turned | stopping | closed => exact Nat.le_refl _

/-- Where a handler comes from: it was there and did not come next, it is new, or
it came next. -/
inductive Becomes (s : Coordinator) : Event → Handler → Prop
  | same {e : Event} {x : Handler} (hx : x ∈ s.handlers)
      (hother : ∀ a fates, e = .handle x.id a fates → s.find x.id = none) : Becomes s e x
  | new {e : Event} : Becomes s e { id := s.connections }
  | turned {h : Handler} {a : Handler.Action} {fates : List Fate} {turn : Turn} {system : System}
      (hfind : s.find h.id = some h) (hturned : Turned s h a fates turn system) :
      Becomes s (.handle h.id a fates) turn.handler

theorem becomes_dispatch : ∀ x ∈ (s.dispatch id a fates).handlers, Becomes s (.handle id a fates) x := by
  intro x hx
  cases hfind : s.find id with
  | none =>
      rw [dispatch_none hfind] at hx
      refine .same hx fun a fates he => ?_
      cases he
      exact hfind
  | some h =>
      obtain ⟨hmem, rfl⟩ := find_eq_some hfind
      rcases @dispatch_turned s fates h.id a h hfind with ⟨disk, hboot⟩ | ⟨turn, system, hturned, hstep⟩
      · rw [hboot] at hx
        cases hx
      · rw [hstep] at hx
        rcases mem_put hx with rfl | ⟨hx, hne⟩
        · exact .turned hfind hturned
        · refine .same hx fun a fates he => ?_
          injection he with hid
          exact absurd (hid.symm.trans hturned.keeps.id.symm) hne

/-- **The handlers** after a step. -/
theorem becomes_step (e : Event) : ∀ x ∈ (s.step e).handlers, Becomes s e x := by
  have hquiet (he : ∀ id a fates, e ≠ .handle id a fates) : ∀ x ∈ (s.step e).handlers, Becomes s e x := by
    have hcases := step_cases s e
    generalize s.step e = t at hcases
    have hsame {x : Handler} (hx : x ∈ s.handlers) : Becomes s e x := .same hx fun _ _ h => absurd h (he _ _ _)
    have hreaped {x : Handler} (hx : x ∈ s.reapHandlers.handlers) : Becomes s e x :=
      hsame (List.mem_of_mem_filter hx)
    intro x hx
    cases hcases with
    | kept | begun | moved | stopping => exact hsame hx
    | rebooted | closed => cases hx
    | reaped => exact hreaped hx
    | admitted =>
        rcases List.mem_append.mp hx with hx | hx
        · exact hreaped hx
        · exact List.mem_singleton.mp hx ▸ .new
    | turned => exact absurd rfl (he _ _ _)
  cases e with
  | handle id a fates => exact becomes_dispatch
  | start | poll | accept | requestStop | close | crash => exact hquiet nofun

theorem replyTo_same {x : Handler} (hother : ∀ a fates, e = .handle x.id a fates → s.find x.id = none) :
    replyTo x.id ⟨s, e⟩ = none := by
  cases e with
  | handle id' a fates =>
      by_cases hid : id' = x.id
      · subst hid
        exact replyTo_of_find_none (hother a fates rfl)
      · exact replyTo_other hid
  | start | poll | accept | requestStop | close | crash => rfl

/-- **A step** adds its reply to what the connection was sent, and no other
connection is sent anything but its first frame. -/
theorem Sound.tail_step (hs : s.Sound) (e : Event) : ∀ x ∈ (s.step e).handlers,
    (∃ h ∈ s.handlers, h.id = x.id ∧ x.sent.tail = h.sent.tail ++ (replyTo x.id ⟨s, e⟩).toList) ∨
      x = { id := s.connections } := by
  intro x hx
  cases becomes_step e x hx with
  | same hx hother =>
      refine .inl ⟨x, hx, rfl, ?_⟩
      rw [replyTo_same hother, Option.toList_none, List.append_nil]
  | new => exact .inr rfl
  | turned hfind hturned =>
      rename_i h a fates turn system
      obtain ⟨hmem, _⟩ := find_eq_some hfind
      refine .inl ⟨h, hmem, hturned.keeps.id.symm, ?_⟩
      rw [hturned.keeps.id]
      exact hturned.tail hfind (hs.proper h hmem)

/-! ## A history and its connections -/

/-- Each connection was sent, after its first frame, the replies to its steps. -/
structure Logged (ts : List Step) (s : Coordinator) : Prop where
  sent : ∀ h ∈ s.handlers, h.sent.tail = ts.filterMap (replyTo h.id)
  unused : ∀ id, s.connections ≤ id → ts.filterMap (replyTo id) = []

theorem filterMap_snoc {ts : List Step} {x : Step} :
    (ts ++ [x]).filterMap (replyTo id) = ts.filterMap (replyTo id) ++ (replyTo id x).toList := by
  rw [List.filterMap_append]
  cases hreply : replyTo id x <;> simp [hreply]

theorem Sound.find_eq_none (hs : s.Sound) (hid : s.connections ≤ id) : s.find id = none := by
  cases hfind : s.find id with
  | none => rfl
  | some h =>
      obtain ⟨hmem, rfl⟩ := find_eq_some hfind
      exact absurd hid (Nat.not_le.mpr (hs.numbered h hmem))

theorem Logged.snoc {ts : List Step} (h : Logged ts s) (hs : s.Sound) (e : Event) :
    Logged (ts ++ [⟨s, e⟩]) (s.step e) where
  sent := by
    intro x hx
    rw [filterMap_snoc]
    rcases hs.tail_step e x hx with ⟨y, hy, hid, htail⟩ | rfl
    · rw [htail, h.sent y hy, hid]
    · rw [h.unused _ (Nat.le_refl _), replyTo_of_find_none (hs.find_eq_none (Nat.le_refl _))]
      rfl
  unused := by
    intro id hid
    have hle := Nat.le_trans (connections_step e) hid
    rw [filterMap_snoc, h.unused id hle, replyTo_of_find_none (hs.find_eq_none hle)]
    rfl

theorem logged_of_run {disk : Disk} {ts : List Step} (h : History disk ts s) : Logged ts s := by
  induction h with
  | nil => exact ⟨nofun, fun _ _ => rfl⟩
  | snoc h e ih => exact ih.snoc (sound_of_run h) e

/-- The call behind a reply, or the refusal of a frame that asks for none. -/
theorem replyTo_eq_some {y : Step} {reply : Frame} (h : replyTo id y = some reply) :
    (∃ c answer, y.before.calls y.label = [c] ∧ (y.before.system.perform c).1 = some answer ∧
        reply = toldOf answer) ∨
      y.before.calls y.label = [] ∧ Frame.Ends reply := by
  obtain ⟨s, e⟩ := y
  unfold replyTo at h
  dsimp only at h ⊢
  split at h
  next id' action fates =>
    split at h
    next hid =>
      subst hid
      obtain ⟨x, hfind, hreply⟩ := Option.bind_eq_some_iff.mp h
      split at hreply
      · obtain ⟨r, hasks, htold⟩ := Option.bind_eq_some_iff.mp hreply
        have hcalls : (s.find id').bind (fun x => x.asks s.options action) = some r := by
          rw [hfind, Option.bind_some, hasks]
        rw [calls, hcalls]
        cases r with
        | error refusal =>
            obtain rfl := Option.some.inj htold
            generalize hr : Except.error refusal = r at hasks
            cases Handler.asks_cases hasks with
            | serving =>
                rw [← hr]
                exact .inr ⟨rfl, asked_error hr.symm⟩
            | registering => cases hr
        | ok c =>
            obtain ⟨answer, hanswer, rfl⟩ := Option.map_eq_some_iff.mp htold
            exact .inl ⟨_, answer, rfl, hanswer, rfl⟩
      · cases hreply
    · cases h
  · cases h

/-! ## The runtime of a connection -/

/-- A step of a coordinator that listens before and after it. -/
theorem tenure_step (h : s.acceptor ≠ .idle) (h' : (s.step e).acceptor ≠ .idle) :
    Governor.SameTenure s.system.governor (s.step e).system.governor := by
  have hcases := step_cases s e
  generalize s.step e = t at hcases h'
  cases hcases with
  | kept | moved | reaped | admitted | stopping => exact .refl _
  | rebooted | closed => exact absurd rfl h'
  | begun hidle => exact absurd hidle h
  | turned _ hturned => exact hturned.tenure

/-- **While it listens**, whatever the peers send. -/
theorem tenure_while {t : Coordinator} {us : List Step} (hrun : Run step s us t)
    (hus : ∀ y ∈ us, y.before.acceptor ≠ .idle) (ht : t.acceptor ≠ .idle) :
    Governor.SameTenure s.system.governor t.system.governor :=
  Run.related_while (R := fun s t => Governor.SameTenure s.system.governor t.system.governor)
    (P := fun s => s.acceptor ≠ .idle) (fun _ => .refl _) .trans (fun _ _ => tenure_step) hrun hus ht

/-- A connection whose HELLO was accepted: it is being acknowledged, or was. -/
def Handler.Greeted (x : Handler) : Prop :=
  (∃ hello reading response, x.phase = .welcoming hello reading response) ∨
    ∃ f ∈ x.sent, f.1 = MessageType.helloAck.raw

/-- A step in which the governor accepts the HELLO of a connection. -/
inductive Greets (id : Nat) (hello : HelloRequest) : Step → Prop
  | mk {s : Coordinator} {h : Handler} {adopt sends : Bool} {fates : List Fate} {status : Status}
      (hfind : s.find id = some h) (hphase : h.phase = .registering hello adopt s.system.governor.state.epoch)
      (hreply : (s.system.perform ⟨registration hello s.system.governor.state.epoch adopt, fates⟩).1 =
        some (.status status))
      (hok : status.isOk = true) : Greets id hello ⟨s, .handle id (.proceed sends) fates⟩

theorem not_greeted_early {id : Nat} {phase : Phase} {finished : Bool}
    (hphase : ∀ hello reading response, phase ≠ .welcoming hello reading response) :
    ¬ Handler.Greeted ⟨id, phase, [], finished⟩ := by
  rintro (⟨_, _, _, h⟩ | ⟨_, hf, _⟩)
  · exact hphase _ _ _ h
  · cases hf

theorem not_greeted_refused {id : Nat} {status : Status} {finished : Bool} :
    ¬ Handler.Greeted ⟨id, .closed, [rejectWith status], finished⟩ := by
  rintro (⟨_, _, _, h⟩ | ⟨f, hf, htype⟩)
  · cases h
  · rw [List.mem_singleton.mp hf] at htype
    exact absurd (MessageType.raw_inj.mp htype) nofun

/-- A handler that asks nothing was greeted if it is. -/
theorem greeted_quiet {o : CoordinatorOptions} {g : Governor} {stopRequested : Bool}
    (hp : Proper o g h.phase h.sent) (hgreeted : (h.quiet stopRequested g a).handler.Greeted) : h.Greeted := by
  have hwelcoming {id : Nat} {hello : HelloRequest} {reading : Reading} {response : HelloAck} {sent : List Frame}
      {finished : Bool} : Handler.Greeted ⟨id, .welcoming hello reading response, sent, finished⟩ :=
    .inl ⟨_, _, _, rfl⟩
  have hsent {x : Handler} (hx : x.Greeted) (hsame : x.sent = h.sent)
      (hphase : ∀ hello reading response, x.phase ≠ .welcoming hello reading response) : h.Greeted := hx.elim (fun ⟨_, _, _, hw⟩ => absurd hw (hphase _ _ _)) fun hack => .inr (hsame ▸ hack)
  obtain ⟨id, phase, sent, finished⟩ := h
  cases phase with
  | welcoming => exact hwelcoming
  | fresh =>
      cases hp.silent trivial
      cases a with
      | receive frame sends order wall =>
          unfold Handler.quiet at hgreeted
          dsimp only at hgreeted
          unfold Handler.greeted at hgreeted
          split at hgreeted
          · exact absurd hgreeted not_greeted_refused
          · exact absurd hgreeted (not_greeted_early nofun)
      | hangUp => exact hsent hgreeted rfl nofun
      | proceed | finish => exact hgreeted
  | serving =>
      cases a with
      | proceed sends =>
          refine hsent hgreeted rfl fun _ _ _ => ?_
          cases stopRequested <;> nofun
      | receive | hangUp | finish => exact hgreeted
  | greeting => cases a <;> exact hsent hgreeted rfl nofun
  | registering => cases a <;> exact hsent hgreeted rfl nofun
  | receiving => cases a <;> exact hsent hgreeted rfl nofun
  | closed => cases a <;> exact hsent hgreeted rfl nofun

/-- A connection that waits for a frame was acknowledged. -/
theorem greeted_receiving {o : CoordinatorOptions} {g : Governor} {frames : UInt64}
    (hp : Proper o g (.receiving frames) h.sent) : h.Greeted := by
  obtain ⟨id, phase, sent, finished⟩ := h
  cases hp
  exact .inr ⟨_, List.mem_cons_self, rfl⟩

/-- **A handler** is greeted by the governor. -/
theorem Turned.greeted (h' : Turned s h a fates turn system) (hfind : s.find id = some h)
    (hp : Proper s.options s.system.governor h.phase h.sent) (hgreeted : turn.handler.Greeted) :
    h.Greeted ∨ ∃ hello, Greets id hello ⟨s, .handle id a fates⟩ := by
  cases h' with
  | quiet => exact .inl (greeted_quiet hp hgreeted)
  | answered hasks =>
      rename_i reply
      generalize hr : Except.error reply = r at hasks
      cases Handler.asks_cases hasks with
      | serving hphase =>
          rw [hphase] at hp
          exact .inl (greeted_receiving hp)
      | registering => cases hr
  | called hasks hreply =>
      rename_i c reply
      generalize hr : Except.ok c = r at hasks
      cases Handler.asks_cases hasks with
      | serving hphase =>
          rw [hphase] at hp
          exact .inl (greeted_receiving hp)
      | registering hphase =>
          rename_i hello adopt epoch sends
          obtain rfl := Except.ok.inj hr
          obtain ⟨n, phase, sent, finished⟩ := h
          dsimp only at hphase hp
          subst hphase
          cases hp with
          | registering _ _ hepoch =>
              cases reply with
              | status status =>
                  unfold Handler.replied at hgreeted
                  dsimp only at hgreeted
                  unfold Handler.registered at hgreeted
                  split at hgreeted
                  · exact absurd hgreeted (not_greeted_early nofun)
                  split at hgreeted
                  · exact absurd hgreeted not_greeted_refused
                  next hok =>
                    refine .inr ⟨hello, .mk hfind (congrArg _ hepoch) (hepoch ▸ hreply) (by simpa using hok)⟩
              | ingested | decided | revalidated => exact absurd hgreeted (not_greeted_early nofun)

/-- **A step** in which a connection is greeted. -/
theorem Sound.greeted_step (hs : s.Sound) (e : Event) : ∀ x ∈ (s.step e).handlers, x.Greeted →
    (∃ h ∈ s.handlers, h.id = x.id ∧ h.Greeted) ∨ ∃ hello, Greets x.id hello ⟨s, e⟩ := by
  intro x hx hgreeted
  cases becomes_step e x hx with
  | same hx => exact .inl ⟨x, hx, rfl, hgreeted⟩
  | new => exact absurd hgreeted (not_greeted_early nofun)
  | turned hfind hturned =>
      rename_i h a fates turn system
      obtain ⟨hmem, _⟩ := find_eq_some hfind
      rw [hturned.keeps.id]
      exact (hturned.greeted hfind (hs.proper h hmem) hgreeted).imp_left fun hwas => ⟨h, hmem, rfl, hwas⟩

/-- What the governor has done in a step that greets a connection. -/
theorem Greets.admits {y : Step} {hello : HelloRequest} (h : Greets id hello y) :
    Admits hello.publisher hello.incarnation (y.after step).system.governor.state.publishers := by
  obtain ⟨hfind, hphase, hreply, hok⟩ := h
  rename_i s h adopt sends fates status
  have hran := @dispatch_called s fates _ id h (.proceed sends) hfind (Handler.asks_registering hphase)
  have hsystem : (s.dispatch id (.proceed sends) fates).system = s.system.step _ := hran.system fun _ _ => rfl
  have henrolls : Step.Enrolls ⟨s.system, ⟨registration hello s.system.governor.state.epoch adopt, fates⟩⟩
      hello.publisher hello.incarnation s.system.governor.state.epoch :=
    ⟨hello.tick, status, by cases adopt <;> simp [Step.command, registration], hreply, hok⟩
  have hadmits := henrolls.admits.2
  rw [Step.after, ← hsystem] at hadmits
  exact hadmits

/-! ## In every history -/

/-- Each state that a history was in. -/
theorem sound_before {disk : Disk} {ts : List Step} (h : History disk ts s) : ∀ y ∈ ts, y.before.Sound := by
  intro y hy
  obtain ⟨us, vs, rfl⟩ := List.append_of_mem hy
  exact sound_of_run h.at_step.1

theorem Sound.not_idle (hs : s.Sound) {x : Handler} (hx : x ∈ s.handlers) : s.acceptor ≠ .idle := by
  intro hidle
  rw [(hs.idle hidle).1] at hx
  cases hx

/-- **Nothing before HELLO**: a connection that is acknowledged was greeted in a
step that registered its publisher under its incarnation, and the runtime is
still the one that did so. -/
theorem accepted_of_run {disk : Disk} {ts : List Step} (h : History disk ts s) :
    ∀ x ∈ s.handlers, x.Greeted → ∃ us y vs hello, ts = us ++ y :: vs ∧ Greets x.id hello y ∧
      Admits hello.publisher hello.incarnation (y.after step).system.governor.state.publishers ∧
      Governor.SameTenure (y.after step).system.governor s.system.governor := by
  intro x hx hgreeted
  obtain ⟨us, y, vs, rfl, hbefore, hafter, hvs⟩ :=
    Run.entered (P := fun s => ∃ h ∈ s.handlers, h.id = x.id ∧ h.Greeted) h (fun ⟨_, hmem, _⟩ => nomatch hmem)
      ⟨x, hx, rfl, hgreeted⟩
  obtain ⟨hus, hrest⟩ := h.at_step
  obtain ⟨z, hz, hid, hzg⟩ := hafter
  have hgreets : ∃ hello, Greets x.id hello y :=
    hid ▸ ((sound_of_run hus).greeted_step y.label z hz hzg).resolve_left (hid ▸ hbefore)
  obtain ⟨hello, hgreets⟩ := hgreets
  refine ⟨us, y, vs, hello, rfl, hgreets, hgreets.admits, tenure_while hrest (fun v hv => ?_) ?_⟩
  · obtain ⟨w, hw, _⟩ := hvs v hv
    exact (sound_before h v (by simp [hv])).not_idle hw
  · exact (sound_of_run h).not_idle hx

theorem accepted_sample : ∃ ts s, History Governor.emptyDisk ts s ∧ ∃ x ∈ s.handlers, x.Greeted ∧
    ∃ us y vs hello, ts = us ++ y :: vs ∧ Greets x.id hello y ∧
      Admits hello.publisher hello.incarnation (y.after step).system.governor.state.publishers ∧
      Governor.SameTenure (y.after step).system.governor s.system.governor := by
  obtain ⟨disk, hrun⟩ := sample_welcomed
  have hgreeted : (welcomed (Governor.staffed (Governor.started samplePolicy))).Greeted :=
    .inr ⟨_, List.mem_cons_self, rfl⟩
  exact ⟨_, _, run_play_foldl hrun, _, List.mem_cons_self, hgreeted,
    accepted_of_run (run_play_foldl hrun) _ List.mem_cons_self hgreeted⟩

end

end Coordinator

end Oversub
