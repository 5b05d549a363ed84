import Oversub.Runtime.DecisionCodec

/-!
# Oversub.Runtime.Adapters

Where corrective intents go (`adapters.hpp`): the sinks an operator wires, the
sink that records what it is given, and the dispatch of a decision's intents.

The governor bounds the intents of its decisions, so a dispatch within the
default budget ends with what the sink says.
-/

namespace Oversub

open Crash Trace

/-! ## Sinks -/

/-- `CorrectiveIntentSink`: what a delivery answers, and the sink after it. -/
structure CorrectiveIntentSink (σ : Type) where
  deliver : σ → Decision → CorrectiveIntent → Status × σ

namespace CorrectiveIntentSink

variable {σ : Type}

/-- The sink after some intents of a decision, whatever it answered. -/
def handing (sink : CorrectiveIntentSink σ) (d : Decision) (s : σ) (intents : List CorrectiveIntent) : σ :=
  intents.foldl (fun s i => (sink.deliver s d i).2) s

/-- Every one of these intents is accepted at its turn. -/
def AcceptsAll (sink : CorrectiveIntentSink σ) (d : Decision) : σ → List CorrectiveIntent → Prop
  | _, [] => True
  | s, i :: intents => (sink.deliver s d i).1.isOk = true ∧ sink.AcceptsAll d (sink.deliver s d i).2 intents

theorem acceptsAll_append {sink : CorrectiveIntentSink σ} {d : Decision} {l m : List CorrectiveIntent} {s : σ} :
    sink.AcceptsAll d s (l ++ m) ↔ sink.AcceptsAll d s l ∧ sink.AcceptsAll d (sink.handing d s l) m := by
  induction l generalizing s with
  | nil => exact ⟨fun h => ⟨trivial, h⟩, fun h => h.2⟩
  | cons i l ih => exact (and_congr_right fun _ => ih).trans and_assoc.symm

end CorrectiveIntentSink

/-! ## Recording -/

/-- `RecordingIntentSink::Record`. -/
structure IntentRecord where
  decision : DecisionId
  kind : CorrectiveKind
  target : CorrectiveTarget
  domain : OversubscriptionDomainId
  serviceClass : ServiceClassId
  resource : ResourceId
  amountUnits : Nat
  reason : ReasonCode
  deriving DecidableEq

def IntentRecord.of (d : Decision) (i : CorrectiveIntent) : IntentRecord where
  decision := d.id
  kind := i.kind
  target := i.target
  domain := i.domain
  serviceClass := i.serviceClass
  resource := i.resource
  amountUnits := i.amountUnits
  reason := i.reason

structure RecordingIntentSink where
  capacity : Nat
  records : List IntentRecord := []
  delivered : UInt64 := 0
  dropped : UInt64 := 0
  positive : 0 < capacity
  bounded : records.length ≤ capacity

namespace RecordingIntentSink

/-- A sink for some number of records, at least one. -/
def new (capacity : Nat := 256) : RecordingIntentSink where
  capacity := if capacity = 0 then 1 else capacity
  positive := by split <;> omega
  bounded := Nat.zero_le _

def bufferFull : Status := outOfRange .limitExceeded "intent record buffer is full"

/-- `deliver`: a sink that is full counts what it drops. -/
def deliver (s : RecordingIntentSink) (d : Decision) (i : CorrectiveIntent) : Status × RecordingIntentSink :=
  let s := { s with delivered := s.delivered + 1 }
  if h : s.capacity ≤ s.records.length then (bufferFull, { s with dropped := s.dropped + 1 })
  else
    (.success,
      { s with
        records := s.records ++ [.of d i]
        bounded := by rw [List.length_append, List.length_singleton]; omega })

def clear (s : RecordingIntentSink) : RecordingIntentSink :=
  { s with records := [], delivered := 0, dropped := 0, bounded := Nat.zero_le _ }

/-- The sink as the dispatch sees it. -/
def sink : CorrectiveIntentSink RecordingIntentSink := ⟨deliver⟩

inductive Use where
  | deliver (d : Decision) (i : CorrectiveIntent)
  | clear

def use (s : RecordingIntentSink) : Use → RecordingIntentSink
  | .deliver d i => (s.deliver d i).2
  | .clear => s.clear

/-- What was handed to a sink since it was last cleared. -/
def handed : List Use → List (Decision × CorrectiveIntent) :=
  List.foldl (fun l u => match u with
    | .deliver d i => l ++ [(d, i)]
    | .clear => []) []

/-- A sink that was handed these intents. -/
structure Holds (s : RecordingIntentSink) (capacity : Nat) (l : List (Decision × CorrectiveIntent)) : Prop where
  room : s.capacity = capacity
  records : s.records = (l.take capacity).map fun p => .of p.1 p.2
  delivered : s.delivered = UInt64.ofNat l.length
  dropped : s.dropped = UInt64.ofNat (l.length - capacity)

section

variable {s : RecordingIntentSink} {capacity : Nat} {l : List (Decision × CorrectiveIntent)} {d : Decision}
  {i : CorrectiveIntent}

theorem Holds.length (h : s.Holds capacity l) : s.records.length = min capacity l.length := by
  rw [h.records, List.length_map, List.length_take]

theorem Holds.isOk_iff (h : s.Holds capacity l) : (s.deliver d i).1.isOk = true ↔ l.length < capacity := by
  have hlen := h.length
  have hcap := h.room
  unfold deliver
  dsimp only
  split
  next hfull => exact iff_of_false Bool.false_ne_true (by omega)
  next hroom => exact iff_of_true rfl (by omega)

theorem Holds.deliver (h : s.Holds capacity l) : (s.deliver d i).2.Holds capacity (l ++ [(d, i)]) := by
  have hlen := h.length
  have hcap := h.room
  unfold RecordingIntentSink.deliver
  dsimp only
  have hdelivered : s.delivered + 1 = UInt64.ofNat (l ++ [(d, i)]).length := by
    rw [h.delivered, List.length_append, List.length_singleton, UInt64.ofNat_add]
    rfl
  split
  next hfull =>
    have hover : capacity ≤ l.length := by omega
    refine ⟨hcap, ?_, hdelivered, ?_⟩
    · rw [List.take_append_of_le_length hover]
      exact h.records
    · have hmore : (l ++ [(d, i)]).length - capacity = l.length - capacity + 1 := by
        rw [List.length_append, List.length_singleton]
        omega
      rw [hmore, UInt64.ofNat_add]
      exact congrArg (· + 1) h.dropped
  next hroom =>
    have hunder : (l ++ [(d, i)]).length ≤ capacity := by
      rw [List.length_append, List.length_singleton]
      omega
    refine ⟨hcap, ?_, hdelivered, ?_⟩
    · have hrecords : s.records = l.map fun p => .of p.1 p.2 := by
        rw [h.records, List.take_of_length_le (by omega)]
      rw [List.take_of_length_le hunder, List.map_append, ← hrecords]
      rfl
    · rw [Nat.sub_eq_zero_of_le hunder]
      have hnone : l.length - capacity = 0 := by omega
      exact hnone ▸ h.dropped

/-- A sink without records was handed nothing. -/
theorem holds_nil (hroom : s.capacity = capacity) (hrecords : s.records = []) (hdelivered : s.delivered = 0)
    (hdropped : s.dropped = 0) : s.Holds capacity [] := by
  refine ⟨hroom, ?_, hdelivered, ?_⟩
  · rw [hrecords, List.take_nil, List.map_nil]
  · rw [hdropped, List.length_nil, Nat.zero_sub]
    rfl

theorem Holds.clear (h : s.Holds capacity l) : s.clear.Holds capacity [] := holds_nil h.room rfl rfl rfl

end

/-- **The recording sink** keeps the first intents it is handed after it was
cleared, as many as it has room for, and counts the others: those it refuses. -/
theorem records_of_uses (capacity : Nat) (uses : List Use) :
    (uses.foldl use (new capacity)).Holds (max 1 capacity) (handed uses) ∧
      ∀ d i, ((uses.foldl use (new capacity)).deliver d i).1.isOk = true ↔
        (handed uses).length < max 1 capacity := by
  suffices h : (uses.foldl use (new capacity)).Holds (max 1 capacity) (handed uses) from
    ⟨h, fun d i => h.isOk_iff⟩
  induction uses using List.reverseRecOn with
  | nil =>
      refine holds_nil ?_ rfl rfl rfl
      show (if capacity = 0 then 1 else capacity) = max 1 capacity
      split <;> omega
  | append_singleton uses u ih =>
      have hhanded : handed (uses ++ [u]) = match u with
          | .deliver d i => handed uses ++ [(d, i)]
          | .clear => [] := by
        rw [handed, List.foldl_append]
        cases u <;> rfl
      rw [List.foldl_append, hhanded]
      cases u with
      | deliver d i => exact ih.deliver
      | clear => exact ih.clear

end RecordingIntentSink

/-! ## Dispatch -/

def budgetExhausted : Status := outOfRange .limitExceeded "corrective intent dispatch budget exhausted"

/-- The loop of `dispatch_corrective_intent`, with what it has delivered. -/
def dispatchFrom {σ : Type} (sink : CorrectiveIntentSink σ) (d : Decision) (maxIntents : UInt32) :
    UInt32 → List CorrectiveIntent → σ → Status × σ
  | _, [], s => (.success, s)
  | delivered, i :: intents, s =>
      if i.kind = .none then dispatchFrom sink d maxIntents delivered intents s
      else if maxIntents ≤ delivered then (budgetExhausted, s)
      else
        let (status, s) := sink.deliver s d i
        if !status.isOk then (status, s) else dispatchFrom sink d maxIntents (delivered + 1) intents s

def dispatchCorrectiveIntent {σ : Type} (sink : CorrectiveIntentSink σ) (d : Decision) (s : σ)
    (maxIntents : UInt32 := UInt32.ofNat kHardMaxCorrectiveIntents) : Status × σ :=
  dispatchFrom sink d maxIntents 0 d.evaluation.intents s

/-- The intents of a decision that are to be delivered. -/
def Decision.deliverable (d : Decision) : List CorrectiveIntent :=
  d.evaluation.intents.filter fun i => i.kind ≠ .none

/-- How a dispatch of intents ends, within a budget. -/
inductive Dispatched {σ : Type} (sink : CorrectiveIntentSink σ) (d : Decision) (budget : Nat)
    (intents : List CorrectiveIntent) (s : σ) : Status × σ → Prop
  | complete (hall : sink.AcceptsAll d s intents) (hbudget : intents.length ≤ budget) :
      Dispatched sink d budget intents s (.success, sink.handing d s intents)
  | refused (pre : List CorrectiveIntent) {post : List CorrectiveIntent} {i : CorrectiveIntent}
      (hintents : intents = pre ++ i :: post) (hpre : sink.AcceptsAll d s pre) (hbudget : pre.length < budget)
      (hbad : (sink.deliver (sink.handing d s pre) d i).1.isOk = false) :
      Dispatched sink d budget intents s (sink.deliver (sink.handing d s pre) d i)
  | exhausted (pre : List CorrectiveIntent) {post : List CorrectiveIntent} {i : CorrectiveIntent}
      (hintents : intents = pre ++ i :: post) (hpre : sink.AcceptsAll d s pre) (hbudget : pre.length = budget) :
      Dispatched sink d budget intents s (budgetExhausted, sink.handing d s pre)

section

variable {σ : Type} {sink : CorrectiveIntentSink σ} {d : Decision} {budget : Nat}
  {intents : List CorrectiveIntent} {i : CorrectiveIntent} {s : σ} {r : Status × σ}

/-- One intent that is accepted comes before the rest. -/
theorem Dispatched.cons (hok : (sink.deliver s d i).1.isOk = true)
    (h : Dispatched sink d budget intents (sink.deliver s d i).2 r) :
    Dispatched sink d (budget + 1) (i :: intents) s r := by
  cases h with
  | complete hall hbudget => exact .complete ⟨hok, hall⟩ (Nat.succ_le_succ hbudget)
  | @refused pre post j hintents hpre hbudget hbad =>
      exact .refused (i :: pre) (congrArg (i :: ·) hintents) ⟨hok, hpre⟩ (Nat.succ_lt_succ hbudget) hbad
  | @exhausted pre post j hintents hpre hbudget =>
      exact .exhausted (i :: pre) (congrArg (i :: ·) hintents) ⟨hok, hpre⟩ (congrArg (· + 1) hbudget)

theorem dispatchFrom_dispatched {maxIntents : UInt32} (intents : List CorrectiveIntent) {delivered : UInt32}
    (h : delivered ≤ maxIntents) (s : σ) :
    Dispatched sink d (maxIntents.toNat - delivered.toNat) (intents.filter fun i => i.kind ≠ .none) s
      (dispatchFrom sink d maxIntents delivered intents s) := by
  induction intents generalizing delivered s with
  | nil => exact .complete trivial (Nat.zero_le _)
  | cons i intents ih =>
      unfold dispatchFrom
      split
      next hnone =>
        rw [List.filter_cons_of_neg (by simp [hnone])]
        exact ih h s
      next hkind =>
        rw [List.filter_cons_of_pos (by simp [hkind])]
        have hle := UInt32.le_iff_toNat_le.mp h
        split
        next hfull =>
          have heq := UInt32.le_iff_toNat_le.mp hfull
          exact .exhausted [] rfl trivial (by rw [List.length_nil]; omega)
        next hroom =>
          have hlt : delivered.toNat < maxIntents.toNat := UInt32.lt_iff_toNat_lt.mp (UInt32.not_le.mp hroom)
          have hnext : (delivered + 1).toNat = delivered.toNat + 1 := by
            have hmax := maxIntents.toNat_lt
            rw [UInt32.toNat_add, UInt32.toNat_one]
            omega
          dsimp only
          split
          next hbad =>
            replace hbad : (sink.deliver s d i).1.isOk = false := by simpa using hbad
            exact .refused [] rfl trivial (by rw [List.length_nil]; omega) hbad
          next hok =>
            have hbudget : maxIntents.toNat - delivered.toNat =
                maxIntents.toNat - (delivered + 1).toNat + 1 := by omega
            rw [hbudget]
            exact (ih (UInt32.le_iff_toNat_le.mpr (by omega)) _).cons (by simpa using hok)

theorem dispatch_dispatched : Dispatched sink d kHardMaxCorrectiveIntents d.deliverable s
    (dispatchCorrectiveIntent sink d s) :=
  @dispatchFrom_dispatched σ sink d (UInt32.ofNat kHardMaxCorrectiveIntents) d.evaluation.intents 0 (by decide) s

/-- A dispatch that ends as the sink says: all is accepted, or the first intent
that is refused is the last one it sees. -/
def CorrectiveIntentSink.Rules (sink : CorrectiveIntentSink σ) (d : Decision) (s : σ)
    (intents : List CorrectiveIntent) (r : Status × σ) : Prop :=
  (sink.AcceptsAll d s intents ∧ r = (.success, sink.handing d s intents)) ∨
    ∃ pre i post, intents = pre ++ i :: post ∧ sink.AcceptsAll d s pre ∧
      (sink.deliver (sink.handing d s pre) d i).1.isOk = false ∧ r = sink.deliver (sink.handing d s pre) d i

/-- A dispatch that the budget leaves room for does. -/
theorem Dispatched.rules (h : Dispatched sink d budget intents s r) (hbudget : intents.length ≤ budget) :
    sink.Rules d s intents r := by
  cases h with
  | complete hall => exact .inl ⟨hall, rfl⟩
  | refused pre hintents hpre _ hbad => exact .inr ⟨pre, _, _, hintents, hpre, hbad, rfl⟩
  | exhausted pre hintents _ hfull =>
      rw [hintents, List.length_append, List.length_cons] at hbudget
      omega

theorem Dispatched.isOk_iff (h : Dispatched sink d budget intents s r) (hbudget : intents.length ≤ budget) :
    r.1.isOk = true ↔ sink.AcceptsAll d s intents := by
  rcases h.rules hbudget with ⟨hall, rfl⟩ | ⟨pre, i, post, rfl, hpre, hbad, rfl⟩
  · exact iff_of_true rfl hall
  · refine iff_of_false (by rw [hbad]; exact Bool.false_ne_true) fun hall => ?_
    rw [(sink.acceptsAll_append.mp hall).2.1] at hbad
    cases hbad

end

namespace Governor

variable {g : Governor} {order : MapOrder} {domain : OversubscriptionDomainId} {tick wall : UInt64}

/-- An open runtime decides within the default budget. -/
theorem rule_deliverable (hg : g.Live) :
    (g.rule order domain tick wall).decision.deliverable.length ≤ kHardMaxCorrectiveIntents := by
  refine (List.length_filter_le _ _).trans ?_
  show (g.evaluationAt order domain tick).intents.length ≤ _
  unfold evaluationAt
  split
  · exact Nat.succ_le_succ (Nat.zero_le 63)
  · exact evaluate_intents_le.trans (validatePolicy_intents_le hg.policy)

end Governor

theorem issued_deliverable {disk : Disk} {ts : List Step} {s : System} (hrun : SessionRun disk ts s)
    {c : System.Call} {order : MapOrder} {wall : UInt64} {request : EvaluationRequest} {d : Decision}
    (hc : c.command = .evaluate order wall request) (hreply : (s.perform c).1 = some (.decided (.ok d))) :
    d.deliverable.length ≤ kHardMaxCorrectiveIntents := by
  have heffect := System.effect_of_reply hreply
  rw [hc] at heffect
  cases heffect.evaluates with
  | @recorded tick _ _ hopen _ _ hruling _ =>
      rw [hruling d rfl]
      exact Governor.rule_deliverable (live_of_run hrun hopen)

namespace RecordingIntentSink

variable {s : RecordingIntentSink} {d : Decision} {intents : List CorrectiveIntent}

/-- How much more a sink keeps. -/
def room (s : RecordingIntentSink) : Nat := s.capacity - s.records.length

theorem deliver_isOk_iff {i : CorrectiveIntent} : (s.deliver d i).1.isOk = true ↔ 0 < s.room := by
  unfold deliver room
  dsimp only
  split
  next hfull => exact iff_of_false Bool.false_ne_true (by omega)
  next hroom => exact iff_of_true rfl (by omega)

theorem deliver_of_room {i : CorrectiveIntent} (h : 0 < s.room) :
    (s.deliver d i).2.records = s.records ++ [.of d i] ∧ (s.deliver d i).2.room + 1 = s.room ∧
      (s.deliver d i).2.dropped = s.dropped := by
  have hroom : ¬ s.capacity ≤ s.records.length := by
    unfold room at h
    omega
  unfold deliver
  dsimp only
  rw [dif_neg hroom]
  refine ⟨rfl, ?_, rfl⟩
  show s.capacity - (s.records ++ [IntentRecord.of d i]).length + 1 = s.capacity - s.records.length
  rw [List.length_append, List.length_singleton]
  omega

theorem deliver_of_full {i : CorrectiveIntent} (h : s.room = 0) :
    (s.deliver d i).1 = bufferFull ∧ (s.deliver d i).2.records = s.records ∧
      (s.deliver d i).2.dropped = s.dropped + 1 := by
  have hfull : s.capacity ≤ s.records.length := by
    unfold room at h
    omega
  unfold deliver
  dsimp only
  rw [dif_pos hfull]
  exact ⟨rfl, rfl, rfl⟩

/-- The sink takes as many intents as it has room for. -/
theorem acceptsAll_iff : sink.AcceptsAll d s intents ↔ intents.length ≤ s.room := by
  induction intents generalizing s with
  | nil => exact iff_of_true trivial (Nat.zero_le _)
  | cons i intents ih =>
      show (s.deliver d i).1.isOk = true ∧ sink.AcceptsAll d (s.deliver d i).2 intents ↔ _
      rw [deliver_isOk_iff, ih, List.length_cons]
      constructor
      · rintro ⟨hroom, hrest⟩
        have hnext := (deliver_of_room (d := d) (i := i) hroom).2.1
        omega
      · intro hrest
        have hroom : 0 < s.room := by omega
        have hnext := (deliver_of_room (d := d) (i := i) hroom).2.1
        exact ⟨hroom, by omega⟩

theorem handing_of_room (h : intents.length ≤ s.room) :
    (sink.handing d s intents).records = s.records ++ intents.map (.of d) ∧
      (sink.handing d s intents).room + intents.length = s.room ∧
      (sink.handing d s intents).dropped = s.dropped := by
  induction intents generalizing s with
  | nil => exact ⟨(List.append_nil _).symm, rfl, rfl⟩
  | cons i intents ih =>
      rw [List.length_cons] at h
      obtain ⟨hrecords, hroom, hdropped⟩ := @deliver_of_room s d i (by omega)
      obtain ⟨hrecords', hroom', hdropped'⟩ := @ih (s.deliver d i).2 (by omega)
      refine ⟨?_, ?_, hdropped'.trans hdropped⟩
      · rw [List.map_cons, List.append_cons, ← hrecords]
        exact hrecords'
      · rw [List.length_cons, ← hroom, ← hroom', Nat.add_assoc]
        rfl

end RecordingIntentSink

end Oversub
