import Mathlib.Tactic.SplitIfs
import Oversub.Status

/-!
# Oversub.Engine.Standing

What a domain is judged by, in exact amounts, and the judgement.  This is the
engine's purpose stated on its own: nothing here is translated from the
source, and `Oversub.Engine.Closed` shows that a closed evaluation computes
exactly this.

The outcome is characterised by thresholds (`six_le`, `four_le`, …): how bad
a standing has to be for at least a given severity.  Comparing the outcomes
of two standings is then comparing conditions, threshold by threshold.
-/

namespace Oversub

structure Standing where
  unmapped : Bool          -- guaranteed admissions exceed their reservations
  ineligible : Bool        -- an ineligible class holds oversubscribed demand
  violated : Bool          -- the guarantees on some member exceed its capacity
  capacity : Nat
  guarantees : Nat
  reserve : Nat
  headroom : Nat
  contingent : Nat
  ceiling : Nat
  emergencyPpm : Nat       -- the share of the ceiling an emergency starts at
  burstExceeded : Bool
  shareExceeded : Bool
  deriving DecidableEq

namespace Standing

/-! ## Derived amounts -/

/-- What must be withheld from contingent demand. -/
def protectedRequired (s : Standing) : Nat := s.guarantees + s.reserve

def floorRequired (s : Standing) : Nat := s.protectedRequired + s.headroom

def committed (s : Standing) : Nat := s.guarantees + s.contingent

def contingentCeiling (s : Standing) : Nat := s.ceiling - s.protectedRequired

def contingentFree (s : Standing) : Nat := s.contingentCeiling - s.contingent

def overage (s : Standing) : Nat := s.committed - s.ceiling

/-! ## Conditions -/

/-- The protected obligations exceed what the members can carry. -/
def ProtectedShort (s : Standing) : Prop :=
  s.violated = true ∨ s.capacity < s.protectedRequired

/-- The obligations and the minimum headroom do not fit under capacity and ceiling. -/
def FloorShort (s : Standing) : Prop :=
  s.capacity < s.floorRequired ∨ s.ceiling < s.floorRequired

/-- The overage reaches the emergency share of the ceiling, rounded up. -/
def EmergencyOverage (s : Standing) : Prop :=
  (s.emergencyPpm - 1) * s.ceiling < s.overage * 1000000

/-- Nothing is wrong with the evidence or the protected obligations. -/
structure Sound (s : Standing) : Prop where
  mapped : s.unmapped = false
  eligible : s.ineligible = false
  protectedFits : ¬ s.ProtectedShort
  floorFits : ¬ s.FloorShort

instance (s : Standing) : Decidable s.ProtectedShort := inferInstanceAs (Decidable (_ ∨ _))
instance (s : Standing) : Decidable s.FloorShort := inferInstanceAs (Decidable (_ ∨ _))
instance (s : Standing) : Decidable s.EmergencyOverage := inferInstanceAs (Decidable (_ < _))

/-! ## The judgement -/

def outcome (s : Standing) : Outcome :=
  if s.unmapped then .conflictingInput
  else if s.ineligible then .policyRejected
  else if s.ProtectedShort then .emergencyReduction
  else if s.FloorShort then .policyRejected
  else if s.capacity = 0 then
    if 0 < s.committed then .emergencyReduction else .atLimit
  else if 0 < s.overage then
    if s.EmergencyOverage then .emergencyReduction else .reductionRequired
  else if s.burstExceeded || s.shareExceeded then .reductionRequired
  else if s.contingentFree = 0 then .atLimit
  else .withinPolicy

/-- Why: the branches of `outcome`, burst pool before shares. -/
def reason (s : Standing) : ReasonCode :=
  if s.unmapped then .admissionKindConflict
  else if s.ineligible then .policyServiceClassIneligibleDemand
  else if s.ProtectedShort then .guaranteeSumExceedsUsable
  else if s.FloorShort then .guaranteeFloorExceedsCeiling
  else if s.capacity = 0 then
    if 0 < s.committed then .admissionNoContingentCeiling else .resourceFailed
  else if 0 < s.overage then .admissionExceedsContingentCeiling
  else if s.burstExceeded then .burstPoolExceeded
  else if s.shareExceeded then .serviceClassShareExceeded
  else .none

variable {s t : Standing}

theorem outcome_of_sound (h : s.Sound) :
    s.outcome =
      if s.capacity = 0 then if 0 < s.committed then .emergencyReduction else .atLimit
      else if 0 < s.overage then
        if s.EmergencyOverage then .emergencyReduction else .reductionRequired
      else if s.burstExceeded || s.shareExceeded then .reductionRequired
      else if s.contingentFree = 0 then .atLimit
      else .withinPolicy := by
  rw [outcome, h.mapped, h.eligible, if_neg Bool.false_ne_true, if_neg Bool.false_ne_true,
    if_neg h.protectedFits, if_neg h.floorFits]

/-- A reduction or less is only asked of a sound standing. -/
theorem sound_of_severity_le_two (h : s.outcome.severity ≤ 2) : s.Sound := by
  unfold outcome at h
  by_cases h1 : s.unmapped = true
  · rw [if_pos h1] at h
    exact absurd h (by decide)
  rw [if_neg h1] at h
  by_cases h2 : s.ineligible = true
  · rw [if_pos h2] at h
    exact absurd h (by decide)
  rw [if_neg h2] at h
  by_cases h3 : s.ProtectedShort
  · rw [if_pos h3] at h
    exact absurd h (by decide)
  rw [if_neg h3] at h
  by_cases h4 : s.FloorShort
  · rw [if_pos h4] at h
    exact absurd h (by decide)
  exact ⟨Bool.eq_false_iff.mpr h1, Bool.eq_false_iff.mpr h2, h3, h4⟩

/-- New oversubscription is authorized only by a sound standing with free
contingent capacity and nothing exceeded. -/
theorem outcome_eq_withinPolicy :
    s.outcome = .withinPolicy ↔ s.Sound ∧ s.capacity ≠ 0 ∧ s.overage = 0 ∧
      s.burstExceeded = false ∧ s.shareExceeded = false ∧ 0 < s.contingentFree := by
  constructor
  · intro h
    have hs : s.Sound := sound_of_severity_le_two (by rw [h]; decide)
    rw [outcome_of_sound hs] at h
    refine ⟨hs, ?_⟩
    by_cases hE : s.capacity = 0
    · rw [if_pos hE] at h
      split at h <;> cases h
    by_cases hO : 0 < s.overage
    · rw [if_neg hE, if_pos hO] at h
      split at h <;> cases h
    rw [if_neg hE, if_neg hO] at h
    cases hB : s.burstExceeded with
    | true => simp [hB] at h
    | false =>
        cases hS : s.shareExceeded with
        | true => simp [hS] at h
        | false =>
            have hF : s.contingentFree ≠ 0 := fun h0 => by simp [hB, hS, h0] at h
            exact ⟨hE, by omega, rfl, rfl, by omega⟩
  · rintro ⟨hs, hE, hO, hB, hS, hF⟩
    rw [outcome_of_sound hs, if_neg hE, if_neg (by omega), hB, hS, if_neg (by decide),
      if_neg (by omega)]

/-- At the limit: nothing is exceeded, and nothing contingent is left. -/
theorem outcome_eq_atLimit :
    s.outcome = .atLimit ↔ s.Sound ∧ (s.capacity = 0 ∧ s.committed = 0 ∨
      s.capacity ≠ 0 ∧ s.overage = 0 ∧ s.burstExceeded = false ∧ s.shareExceeded = false ∧
        s.contingentFree = 0) := by
  constructor
  · intro h
    have hs : s.Sound := sound_of_severity_le_two (by rw [h]; decide)
    rw [outcome_of_sound hs] at h
    refine ⟨hs, ?_⟩
    by_cases hE : s.capacity = 0
    · have hcom : ¬ 0 < s.committed := fun hc => by simp [hE, hc] at h
      exact .inl ⟨hE, by omega⟩
    by_cases hO : 0 < s.overage
    · rw [if_neg hE, if_pos hO] at h
      split at h <;> cases h
    rw [if_neg hE, if_neg hO] at h
    cases hB : s.burstExceeded with
    | true => simp [hB] at h
    | false =>
        cases hS : s.shareExceeded with
        | true => simp [hS] at h
        | false =>
            have hF : s.contingentFree = 0 :=
              Decidable.byContradiction fun h0 => by simp [hB, hS, h0] at h
            exact .inr ⟨hE, by omega, rfl, rfl, hF⟩
  · rintro ⟨hs, ⟨hE, hC⟩ | ⟨hE, hO, hB, hS, hF⟩⟩
    · rw [outcome_of_sound hs, if_pos hE, if_neg (by omega)]
    · rw [outcome_of_sound hs, if_neg hE, if_neg (by omega), hB, hS, if_neg (by decide), if_pos hF]

/-- An exceeded share is the reason once nothing before it is. -/
theorem reason_eq_share :
    s.reason = .serviceClassShareExceeded ↔ s.Sound ∧ s.capacity ≠ 0 ∧ s.overage = 0 ∧
      s.burstExceeded = false ∧ s.shareExceeded = true := by
  constructor
  · intro h
    unfold reason at h
    split_ifs at h with h1 h2 h3 h4 h5 _ h6 h7 h8
    exact ⟨⟨Bool.eq_false_iff.mpr h1, Bool.eq_false_iff.mpr h2, h3, h4⟩, h5, by omega,
      Bool.eq_false_iff.mpr h7, h8⟩
  · rintro ⟨hs, hE, hO, hB, hS⟩
    rw [reason, hs.mapped, hs.eligible, if_neg Bool.false_ne_true, if_neg Bool.false_ne_true,
      if_neg hs.protectedFits, if_neg hs.floorFits, if_neg hE, if_neg (by omega), hB, hS,
      if_neg Bool.false_ne_true, if_pos rfl]

/-! ## Severity thresholds -/

theorem outcome_ne_stale : s.outcome ≠ .stale ∧ s.outcome ≠ .unknown := by
  unfold outcome
  split_ifs <;> simp

theorem severity_le_six : s.outcome.severity ≤ 6 := by
  unfold outcome
  split_ifs <;> decide

theorem severity_ne_five : s.outcome.severity ≠ 5 := by
  unfold outcome
  split_ifs <;> decide

theorem five_le : 5 ≤ s.outcome.severity ↔ s.unmapped = true := by
  unfold outcome
  split_ifs <;> simp_all [Outcome.severity]

theorem four_le : 4 ≤ s.outcome.severity ↔
    s.unmapped = true ∨ s.ineligible = true ∨ ¬ s.ProtectedShort ∧ s.FloorShort := by
  unfold outcome
  split_ifs <;> simp_all [Outcome.severity]

theorem three_le : 3 ≤ s.outcome.severity ↔
    s.unmapped = true ∨ s.ineligible = true ∨ s.ProtectedShort ∨ s.FloorShort ∨
      (s.capacity = 0 ∧ 0 < s.committed) ∨
      (s.capacity ≠ 0 ∧ 0 < s.overage ∧ s.EmergencyOverage) := by
  unfold outcome
  split_ifs <;> simp_all [Outcome.severity]

theorem two_le : 2 ≤ s.outcome.severity ↔
    s.unmapped = true ∨ s.ineligible = true ∨ s.ProtectedShort ∨ s.FloorShort ∨
      (s.capacity = 0 ∧ 0 < s.committed) ∨
      (s.capacity ≠ 0 ∧ (0 < s.overage ∨ s.burstExceeded = true ∨ s.shareExceeded = true)) := by
  unfold outcome
  split_ifs <;> simp_all [Outcome.severity]

theorem one_le : 1 ≤ s.outcome.severity ↔
    s.unmapped = true ∨ s.ineligible = true ∨ s.ProtectedShort ∨ s.FloorShort ∨ s.capacity = 0 ∨
      0 < s.overage ∨ (s.burstExceeded = true ∨ s.shareExceeded = true) ∨ s.contingentFree = 0 := by
  unfold outcome
  split_ifs <;> simp_all [Outcome.severity]

/-- Policy and evidence leave room for a judgement: an emergency at worst. -/
structure Governable (s : Standing) : Prop where
  mapped : s.unmapped = false
  eligible : s.ineligible = false
  floor : ¬ s.ProtectedShort → ¬ s.FloorShort

theorem severity_le_three_iff : s.outcome.severity ≤ 3 ↔ s.Governable := by
  have h4 : s.outcome.severity ≤ 3 ↔ ¬ 4 ≤ s.outcome.severity := by omega
  rw [h4, four_le]
  constructor
  · intro h
    simp only [not_or, Bool.not_eq_true, not_and] at h
    exact ⟨h.1, h.2.1, h.2.2⟩
  · rintro ⟨hu, hi, hf⟩
    simp only [hu, hi, Bool.false_eq_true, false_or, not_and]
    exact hf

/-- Severities compare as soon as the thresholds do. -/
theorem severity_le_of_thresholds
    (h5 : 5 ≤ s.outcome.severity → 5 ≤ t.outcome.severity)
    (h4 : 4 ≤ s.outcome.severity → 4 ≤ t.outcome.severity)
    (h3 : 3 ≤ s.outcome.severity → 3 ≤ t.outcome.severity)
    (h2 : 2 ≤ s.outcome.severity → 2 ≤ t.outcome.severity)
    (h1 : 1 ≤ s.outcome.severity → 1 ≤ t.outcome.severity) :
    s.outcome.severity ≤ t.outcome.severity := by
  have hs6 : s.outcome.severity ≤ 6 := severity_le_six
  have hs5 : s.outcome.severity ≠ 5 := severity_ne_five
  have ht5 : t.outcome.severity ≠ 5 := severity_ne_five
  omega

end Standing

end Oversub
