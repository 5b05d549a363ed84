import Oversub.Evidence

/-!
# Oversub.Worker

The publisher client (`worker.hpp`, `worker.cpp`): how a publication is
stamped.  The evidence id is a multiple of the incarnation plus a counter, or
the counter alone where the multiple does not fit into 64 bits, so ids of two
incarnations can meet (`evidence_ids_apart_iff`).
-/

namespace Oversub

/-! ## The client -/

/-- What the client keeps of the coordinator's answer. -/
structure HelloResponse where
  epoch : FabricEpoch := {}
  lastSequence : UInt64 := 0

structure WorkerClient where
  hello : HelloResponse := {}
  publisher : PublisherId := {}
  incarnation : IncarnationId := {}
  sequence : UInt64 := 0
  evidenceCounter : UInt64 := 0
  epochOverride : FabricEpoch := {}

namespace WorkerClient

/-- The counters resume at the last sequence that the coordinator has accepted. -/
def connected (hello : HelloResponse) (publisher : PublisherId) (incarnation : IncarnationId) : WorkerClient where
  hello := hello
  publisher := publisher
  incarnation := incarnation
  sequence := hello.lastSequence
  evidenceCounter := hello.lastSequence

def claimedEpoch (w : WorkerClient) : FabricEpoch :=
  if w.epochOverride.valid then w.epochOverride else w.hello.epoch

/-- The idempotency key of a publication. -/
def evidenceIdOf (incarnation : IncarnationId) (counter : UInt64) : UInt64 :=
  let evidenceId := addSat ((mulChecked incarnation.value 1000003).getD 0) counter
  if evidenceId = 0 then counter else evidenceId

/-- The provenance of the next publication, and the client after it. -/
def stampProvenance (w : WorkerClient) (provenance : Provenance) (observedTick wallMillis : UInt64) :
    WorkerClient × Provenance :=
  let w := { w with sequence := w.sequence + 1, evidenceCounter := w.evidenceCounter + 1 }
  (w, { provenance with
    publisher := w.publisher
    incarnation := w.incarnation
    epoch := w.claimedEpoch
    sequence := w.sequence
    observedTick := observedTick
    observedWallMillis := wallMillis
    evidenceId := ⟨evidenceIdOf w.incarnation w.evidenceCounter⟩ })

end WorkerClient

/-! ## Evidence ids -/

/-- The product of an incarnation fits into 64 bits. -/
def Scales (i : Nat) : Prop := i * 1000003 < 2 ^ 64

/-- The sum of a publication reaches the maximum. -/
def Saturates (i c : Nat) : Prop := c = u64Max ∨ (Scales i ∧ u64Max ≤ i * 1000003 + c)

/-- Incarnations `i` and `j` meet at the counters `c` and `c'`. -/
inductive Meet (i j c c' : Nat) : Prop
  | scaled (hi : Scales i) (hj : Scales j) (h : i * 1000003 + c = j * 1000003 + c')
  | unscaled (hi : ¬ Scales i) (hj : ¬ Scales j) (h : c = c')
  | left (hi : Scales i) (hj : ¬ Scales j) (h : i * 1000003 + c = c')
  | right (hi : ¬ Scales i) (hj : Scales j) (h : c = j * 1000003 + c')
  | saturated (h : Saturates i c) (h' : Saturates j c')

/-- The counter has wrapped, and the incarnation adds nothing to it. -/
def Blank (i c : Nat) : Prop := ¬ Scales i ∧ c = 0

instance (i : Nat) : Decidable (Scales i) := inferInstanceAs (Decidable (_ < _))

/-- The evidence id in exact arithmetic. -/
theorem evidenceIdOf_toNat (incarnation : IncarnationId) (counter : UInt64) :
    (WorkerClient.evidenceIdOf incarnation counter).toNat =
      min ((if Scales incarnation.value.toNat then incarnation.value.toNat * 1000003 else 0) + counter.toNat)
        u64Max := by
  have hproduct := mulChecked_toNat incarnation.value 1000003
  have hfactor : (1000003 : UInt64).toNat = 1000003 := rfl
  have hbase : ((mulChecked incarnation.value 1000003).getD 0).toNat =
      if Scales incarnation.value.toNat then incarnation.value.toNat * 1000003 else 0 := by
    rw [hfactor] at hproduct
    cases hm : mulChecked incarnation.value 1000003 with
    | none =>
        rw [hm, Option.map_none] at hproduct
        split at hproduct
        · cases hproduct
        next h =>
          have hscales : ¬ Scales incarnation.value.toNat := h
          rw [if_neg hscales]
          rfl
    | some m =>
        rw [hm, Option.map_some] at hproduct
        split at hproduct
        next h =>
          have hscales : Scales incarnation.value.toNat := h
          rw [if_pos hscales]
          exact Option.some.inj hproduct
        · cases hproduct
  have hsum := addSat_toNat ((mulChecked incarnation.value 1000003).getD 0) counter
  have hcounter := counter.toNat_lt
  have hmax : u64Max = 2 ^ 64 - 1 := rfl
  rw [hbase, addSat_eq] at hsum
  unfold WorkerClient.evidenceIdOf
  dsimp only
  generalize addSat ((mulChecked incarnation.value 1000003).getD 0) counter = id at hsum ⊢
  generalize (if Scales incarnation.value.toNat then incarnation.value.toNat * 1000003 else 0) = base at hsum ⊢
  by_cases hzero : id = 0
  · rw [if_pos hzero]
    rw [hzero, UInt64.toNat_zero] at hsum
    split at hsum <;> omega
  · rw [if_neg hzero, hsum]
    split <;> omega

/-- **Two incarnations** get the same id exactly where they meet. -/
theorem evidenceIdOf_eq_iff {i j : IncarnationId} {c c' : UInt64} :
    WorkerClient.evidenceIdOf i c = WorkerClient.evidenceIdOf j c' ↔
      Meet i.value.toNat j.value.toNat c.toNat c'.toNat := by
  have hc := c.toNat_lt
  have hc' := c'.toNat_lt
  have hmax : u64Max = 2 ^ 64 - 1 := rfl
  rw [← UInt64.toNat_inj, evidenceIdOf_toNat, evidenceIdOf_toNat]
  generalize c.toNat = c at *
  generalize c'.toNat = c' at *
  generalize i.value.toNat = i
  generalize j.value.toNat = j
  constructor
  · intro h
    by_cases hi : Scales i <;> by_cases hj : Scales j <;> simp only [hi, hj, if_true, if_false] at h
    · by_cases hsum : i * 1000003 + c = j * 1000003 + c'
      · exact .scaled hi hj hsum
      · exact .saturated (.inr ⟨hi, by omega⟩) (.inr ⟨hj, by omega⟩)
    · by_cases hsum : i * 1000003 + c = c'
      · exact .left hi hj hsum
      · exact .saturated (.inr ⟨hi, by omega⟩) (.inl (by omega))
    · by_cases hsum : c = j * 1000003 + c'
      · exact .right hi hj hsum
      · exact .saturated (.inl (by omega)) (.inr ⟨hj, by omega⟩)
    · exact .unscaled hi hj (by omega)
  · have hreach {i c : Nat} (h : Saturates i c) (hc : c < 2 ^ 64) :
        min ((if Scales i then i * 1000003 else 0) + c) u64Max = u64Max := by
      rcases h with h | ⟨hi, h⟩
      · omega
      · rw [if_pos hi]
        omega
    intro h
    cases h with
    | scaled hi hj h => rw [if_pos hi, if_pos hj, h]
    | unscaled hi hj h => rw [if_neg hi, if_neg hj, h]
    | left hi hj h => rw [if_pos hi, if_neg hj, h, Nat.zero_add]
    | right hi hj h => rw [if_neg hi, if_pos hj, ← h, Nat.zero_add]
    | saturated h h' => rw [hreach h hc, hreach h' hc']

theorem evidenceIdOf_eq_zero {i : IncarnationId} {c : UInt64} (hi : i.valid = true) :
    WorkerClient.evidenceIdOf i c = 0 ↔ Blank i.value.toNat c.toNat := by
  have hpos : i.value.toNat ≠ 0 := by
    intro h
    have hzero : i.value = 0 := UInt64.toNat_inj.mp h
    rw [StrongId.valid, hzero] at hi
    cases hi
  have hmax : u64Max = 2 ^ 64 - 1 := rfl
  rw [← UInt64.toNat_inj, evidenceIdOf_toNat, UInt64.toNat_zero]
  unfold Blank
  by_cases hscales : Scales i.value.toNat
  · rw [if_pos hscales]
    refine iff_of_false (by omega) fun h => h.1 hscales
  · rw [if_neg hscales]
    refine ⟨fun h => ⟨hscales, by omega⟩, fun h => by omega⟩

/-- Small incarnations with fewer than 1000003 publications stay apart. -/
theorem not_meet_of_small {i j c c' : Nat} (hi : Scales (i + 1)) (hj : Scales (j + 1)) (hne : i ≠ j)
    (hc : c < 1000003) (hc' : c' < 1000003) : ¬ Meet i j c c' := by
  unfold Scales at hi hj
  have hmax : u64Max = 2 ^ 64 - 1 := rfl
  have hscales {i : Nat} (hi : (i + 1) * 1000003 < 2 ^ 64) : Scales i :=
    Nat.lt_of_le_of_lt (Nat.mul_le_mul_right _ (Nat.le_succ i)) hi
  intro h
  cases h with
  | scaled _ _ h => omega
  | unscaled h | right h => exact h (hscales hi)
  | left _ h => exact h (hscales hj)
  | saturated h _ =>
      rcases h with h | ⟨-, h⟩
      · omega
      · omega

/-! ## Publications -/

namespace WorkerClient

variable {w w' : WorkerClient} {p p' : Provenance} {tick tick' wall wall' : UInt64}

/-- The counter of the next publication. -/
def nextCounter (w : WorkerClient) : Nat := (w.evidenceCounter + 1).toNat

/-- **Evidence ids** of two incarnations differ, and none is zero, exactly where
the incarnations do not meet and no counter has wrapped. -/
theorem evidence_ids_apart_iff (hw : w.incarnation.valid = true) (hw' : w'.incarnation.valid = true) :
    ((w.stampProvenance p tick wall).2.evidenceId ≠ (w'.stampProvenance p' tick' wall').2.evidenceId ∧
        (w.stampProvenance p tick wall).2.evidenceId.valid = true ∧
        (w'.stampProvenance p' tick' wall').2.evidenceId.valid = true) ↔
      ¬ Meet w.incarnation.value.toNat w'.incarnation.value.toNat w.nextCounter w'.nextCounter ∧
        ¬ Blank w.incarnation.value.toNat w.nextCounter ∧
        ¬ Blank w'.incarnation.value.toNat w'.nextCounter := by
  have hid {w : WorkerClient} {p : Provenance} {tick wall : UInt64} :
      (w.stampProvenance p tick wall).2.evidenceId = ⟨evidenceIdOf w.incarnation (w.evidenceCounter + 1)⟩ := rfl
  have hvalid {w : WorkerClient} (hw : w.incarnation.valid = true) :
      StrongId.valid (⟨evidenceIdOf w.incarnation (w.evidenceCounter + 1)⟩ : EvidenceId) = true ↔
        ¬ Blank w.incarnation.value.toNat w.nextCounter := by
    rw [nextCounter, ← evidenceIdOf_eq_zero hw, StrongId.valid, bne_iff_ne]
  rw [hid, hid, hvalid hw, hvalid hw', ne_eq, StrongId.mk.injEq, evidenceIdOf_eq_iff, nextCounter, nextCounter]

/-- The first publications of the incarnations 1 and 2. -/
theorem evidence_ids_apart_sample :
    ({ incarnation := ⟨1⟩ : WorkerClient }.stampProvenance {} 0 0).2.evidenceId ≠
        ({ incarnation := ⟨2⟩ : WorkerClient }.stampProvenance {} 0 0).2.evidenceId ∧
      ({ incarnation := ⟨1⟩ : WorkerClient }.stampProvenance {} 0 0).2.evidenceId.valid = true ∧
      ({ incarnation := ⟨2⟩ : WorkerClient }.stampProvenance {} 0 0).2.evidenceId.valid = true := by
  have happart : ¬ Meet 1 2 1 1 := not_meet_of_small (by decide) (by decide) (by decide) (by decide) (by decide)
  have hblank {i c : Nat} (h : Scales i) : ¬ Blank i c := fun hb => hb.1 h
  exact (evidence_ids_apart_iff (by decide) (by decide)).mpr ⟨happart, hblank (by decide), hblank (by decide)⟩

/-- The first publications of two large incarnations have the id 1 both. -/
theorem evidence_ids_not_apart :
    ¬ ∀ (w w' : WorkerClient) (p p' : Provenance) (tick tick' wall wall' : UInt64), w.publisher = w'.publisher →
      w.incarnation.valid = true → w'.incarnation.valid = true → w.incarnation ≠ w'.incarnation →
      (w.stampProvenance p tick wall).2.evidenceId ≠ (w'.stampProvenance p' tick' wall').2.evidenceId ∧
        (w.stampProvenance p tick wall).2.evidenceId.valid = true ∧
        (w'.stampProvenance p' tick' wall').2.evidenceId.valid = true := by
  intro h
  have hapart := h (.connected { epoch := ⟨1⟩ } ⟨1⟩ ⟨9223372036854775808⟩)
    (.connected { epoch := ⟨1⟩ } ⟨1⟩ ⟨9223372036854775809⟩) {} {} 0 0 0 0 rfl (by decide) (by decide) (by decide)
  exact absurd hapart.1 (by decide)

end WorkerClient

end Oversub
