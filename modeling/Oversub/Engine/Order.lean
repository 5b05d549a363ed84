import Oversub.Engine.Standing

/-!
# Oversub.Engine.Order

Two standings side by side: one under more demand (`MoreDemand`), one with
less capacity (`LessCapacity`).  More demand is never judged more mildly.
Less capacity is, in one case only: a standing that is rejected because its
headroom does not fit becomes an emergency, the milder outcome, once its
protected obligations do not fit either (`severity_le_iff`).
-/

namespace Oversub.Standing

/-! ## More demand -/

/-- `t` is `s` under more demand. -/
structure MoreDemand (s t : Standing) : Prop where
  unmapped : s.unmapped = true → t.unmapped = true
  ineligible : s.ineligible = true → t.ineligible = true
  violated : t.violated = s.violated
  capacity : t.capacity = s.capacity
  guarantees : t.guarantees = s.guarantees
  reserve : t.reserve = s.reserve
  headroom : t.headroom = s.headroom
  contingent : s.contingent ≤ t.contingent
  ceiling : t.ceiling = s.ceiling
  emergencyPpm : t.emergencyPpm = s.emergencyPpm
  burst : s.burstExceeded = true → t.burstExceeded = true
  share : s.shareExceeded = true → t.shareExceeded = true

variable {s t : Standing}

namespace MoreDemand

theorem protectedShort (h : s.MoreDemand t) : t.ProtectedShort ↔ s.ProtectedShort := by
  unfold ProtectedShort protectedRequired
  rw [h.violated, h.capacity, h.guarantees, h.reserve]

theorem floorShort (h : s.MoreDemand t) : t.FloorShort ↔ s.FloorShort := by
  unfold FloorShort floorRequired protectedRequired
  rw [h.capacity, h.ceiling, h.guarantees, h.reserve, h.headroom]

theorem committed_le (h : s.MoreDemand t) : s.committed ≤ t.committed := by
  unfold committed
  rw [h.guarantees]
  exact Nat.add_le_add_left h.contingent _

theorem overage_le (h : s.MoreDemand t) : s.overage ≤ t.overage := by
  unfold overage
  rw [h.ceiling]
  exact Nat.sub_le_sub_right h.committed_le _

theorem emergencyOverage (h : s.MoreDemand t) : s.EmergencyOverage → t.EmergencyOverage := by
  unfold EmergencyOverage
  rw [h.ceiling, h.emergencyPpm]
  intro hs
  exact Nat.lt_of_lt_of_le hs (Nat.mul_le_mul_right _ h.overage_le)

theorem contingentFree_le (h : s.MoreDemand t) : t.contingentFree ≤ s.contingentFree := by
  unfold contingentFree contingentCeiling protectedRequired
  rw [h.ceiling, h.guarantees, h.reserve]
  exact Nat.sub_le_sub_left h.contingent _

/-- **More demand** never lowers the severity. -/
theorem severity_le (h : s.MoreDemand t) : s.outcome.severity ≤ t.outcome.severity := by
  have hover : 0 < s.overage → 0 < t.overage := fun hs => Nat.lt_of_lt_of_le hs h.overage_le
  have hcom : 0 < s.committed → 0 < t.committed := fun hs => Nat.lt_of_lt_of_le hs h.committed_le
  have hfree : s.contingentFree = 0 → t.contingentFree = 0 := fun hs =>
    Nat.le_zero.mp (hs ▸ h.contingentFree_le)
  refine severity_le_of_thresholds ?_ ?_ ?_ ?_ ?_
  · rw [five_le, five_le]
    exact h.unmapped
  · rw [four_le, four_le, h.protectedShort, h.floorShort]
    exact Or.imp h.unmapped (Or.imp_left h.ineligible)
  · rw [three_le, three_le, h.protectedShort, h.floorShort, h.capacity]
    exact Or.imp h.unmapped <| Or.imp h.ineligible <| Or.imp_right <| Or.imp_right <|
      Or.imp (And.imp_right hcom) (And.imp_right (And.imp hover h.emergencyOverage))
  · rw [two_le, two_le, h.protectedShort, h.floorShort, h.capacity]
    exact Or.imp h.unmapped <| Or.imp h.ineligible <| Or.imp_right <| Or.imp_right <|
      Or.imp (And.imp_right hcom) (And.imp_right (Or.imp hover (Or.imp h.burst h.share)))
  · rw [one_le, one_le, h.protectedShort, h.floorShort, h.capacity]
    exact Or.imp h.unmapped <| Or.imp h.ineligible <| Or.imp_right <| Or.imp_right <|
      Or.imp_right <| Or.imp hover (Or.imp (Or.imp h.burst h.share) hfree)

end MoreDemand

/-! ## Less capacity -/

/-- Whatever exceeds a bound is some contingent demand. -/
structure Coherent (s : Standing) : Prop where
  burst : s.burstExceeded = true → 0 < s.contingent
  share : s.shareExceeded = true → 0 < s.contingent

/-- `t` is `s` with less capacity. -/
structure LessCapacity (s t : Standing) : Prop where
  unmapped : t.unmapped = s.unmapped
  ineligible : t.ineligible = s.ineligible
  violated : s.violated = true → t.violated = true
  capacity : t.capacity ≤ s.capacity
  guarantees : t.guarantees = s.guarantees
  reserve : t.reserve = s.reserve
  headroom : t.headroom = s.headroom
  contingent : t.contingent = s.contingent
  ceiling : t.ceiling ≤ s.ceiling
  emergencyPpm : t.emergencyPpm = s.emergencyPpm
  burst : t.burstExceeded = s.burstExceeded
  share : s.shareExceeded = true → t.shareExceeded = true

/-- Rejected for want of headroom alone: the protected obligations fit. -/
structure HeadroomRejected (s : Standing) : Prop where
  mapped : s.unmapped = false
  eligible : s.ineligible = false
  protectedFits : ¬ s.ProtectedShort
  floorShort : s.FloorShort

namespace LessCapacity

theorem protectedShort (h : s.LessCapacity t) : s.ProtectedShort → t.ProtectedShort := by
  have hreq : t.protectedRequired = s.protectedRequired := by
    unfold protectedRequired
    rw [h.guarantees, h.reserve]
  unfold ProtectedShort
  rw [hreq]
  exact Or.imp h.violated (Nat.lt_of_le_of_lt h.capacity)

theorem floorShort (h : s.LessCapacity t) : s.FloorShort → t.FloorShort := by
  have hreq : t.floorRequired = s.floorRequired := by
    unfold floorRequired protectedRequired
    rw [h.guarantees, h.reserve, h.headroom]
  unfold FloorShort
  rw [hreq]
  exact Or.imp (Nat.lt_of_le_of_lt h.capacity) (Nat.lt_of_le_of_lt h.ceiling)

theorem committed_eq (h : s.LessCapacity t) : t.committed = s.committed := by
  unfold committed
  rw [h.guarantees, h.contingent]

theorem overage_le (h : s.LessCapacity t) : s.overage ≤ t.overage := by
  unfold overage
  rw [h.committed_eq]
  exact Nat.sub_le_sub_left h.ceiling _

theorem emergencyOverage (h : s.LessCapacity t) : s.EmergencyOverage → t.EmergencyOverage := by
  unfold EmergencyOverage
  rw [h.emergencyPpm]
  intro hs
  calc (s.emergencyPpm - 1) * t.ceiling
      ≤ (s.emergencyPpm - 1) * s.ceiling := Nat.mul_le_mul_left _ h.ceiling
    _ < s.overage * 1000000 := hs
    _ ≤ t.overage * 1000000 := Nat.mul_le_mul_right _ h.overage_le

theorem contingentCeiling_le (h : s.LessCapacity t) :
    t.contingentCeiling ≤ s.contingentCeiling := by
  unfold contingentCeiling protectedRequired
  rw [h.guarantees, h.reserve]
  exact Nat.sub_le_sub_right h.ceiling _

theorem contingentFree_le (h : s.LessCapacity t) : t.contingentFree ≤ s.contingentFree := by
  unfold contingentFree
  rw [h.contingent]
  exact Nat.sub_le_sub_right h.contingentCeiling_le _

/-- An overage is committed. -/
theorem committed_pos (h : s.LessCapacity t) (ho : 0 < s.overage) : 0 < t.committed := by
  rw [h.committed_eq]
  exact Nat.lt_of_lt_of_le ho (Nat.sub_le _ _)

/-- What calls for an emergency still does with less capacity. -/
theorem emergency (h : s.LessCapacity t) :
    s.capacity = 0 ∧ 0 < s.committed ∨ s.capacity ≠ 0 ∧ 0 < s.overage ∧ s.EmergencyOverage →
      t.capacity = 0 ∧ 0 < t.committed ∨
        t.capacity ≠ 0 ∧ 0 < t.overage ∧ t.EmergencyOverage := by
  have hle := h.capacity
  rintro (⟨hE, hC⟩ | ⟨-, hO, hEm⟩)
  · exact .inl ⟨by omega, h.committed_eq ▸ hC⟩
  · by_cases h0 : t.capacity = 0
    · exact .inl ⟨h0, h.committed_pos hO⟩
    · exact .inr ⟨h0, Nat.lt_of_lt_of_le hO h.overage_le, h.emergencyOverage hEm⟩

/-- What calls for a reduction still does with less capacity. -/
theorem reduction (h : s.LessCapacity t) (hs : s.Coherent) :
    s.capacity = 0 ∧ 0 < s.committed ∨ s.capacity ≠ 0 ∧
        (0 < s.overage ∨ s.burstExceeded = true ∨ s.shareExceeded = true) →
      t.capacity = 0 ∧ 0 < t.committed ∨ t.capacity ≠ 0 ∧
        (0 < t.overage ∨ t.burstExceeded = true ∨ t.shareExceeded = true) := by
  have hle := h.capacity
  have hcom : s.contingent ≤ s.committed := Nat.le_add_left _ _
  rintro (⟨hE, hC⟩ | ⟨-, hfound⟩)
  · exact .inl ⟨by omega, h.committed_eq ▸ hC⟩
  · by_cases h0 : t.capacity = 0
    · refine .inl ⟨h0, ?_⟩
      rcases hfound with hO | hB | hS
      · exact h.committed_pos hO
      · rw [h.committed_eq]
        exact Nat.lt_of_lt_of_le (hs.burst hB) hcom
      · rw [h.committed_eq]
        exact Nat.lt_of_lt_of_le (hs.share hS) hcom
    · refine .inr ⟨h0, ?_⟩
      rw [h.burst]
      exact Or.imp (fun hO => Nat.lt_of_lt_of_le hO h.overage_le) (Or.imp_right h.share) hfound

/-- **Less capacity** lowers the severity exactly when a rejection for want of
headroom turns into an emergency of the protected obligations. -/
theorem severity_le_iff (h : s.LessCapacity t) (hs : s.Coherent) :
    s.outcome.severity ≤ t.outcome.severity ↔ ¬ (s.HeadroomRejected ∧ t.ProtectedShort) := by
  constructor
  · rintro hle ⟨hrej, hshort⟩
    have hs4 : 4 ≤ s.outcome.severity :=
      four_le.mpr (.inr (.inr ⟨hrej.protectedFits, hrej.floorShort⟩))
    have ht4 : 4 ≤ t.outcome.severity := Nat.le_trans hs4 hle
    rw [four_le, h.unmapped, h.ineligible, hrej.mapped, hrej.eligible] at ht4
    rcases ht4 with hf | hf | ⟨hfits, -⟩
    · exact Bool.false_ne_true hf
    · exact Bool.false_ne_true hf
    · exact hfits hshort
  · intro hnot
    have hle := h.capacity
    refine severity_le_of_thresholds ?_ ?_ ?_ ?_ ?_
    · rw [five_le, five_le, h.unmapped]
      exact id
    · rw [four_le, four_le, h.unmapped, h.ineligible]
      cases hu : s.unmapped with
      | true => exact fun _ => .inl rfl
      | false =>
          cases hi : s.ineligible with
          | true => exact fun _ => .inr (.inl rfl)
          | false =>
              rintro (hf | hf | ⟨hfits, hshort⟩)
              · exact absurd hf Bool.false_ne_true
              · exact absurd hf Bool.false_ne_true
              · exact .inr (.inr ⟨fun ht => hnot ⟨⟨hu, hi, hfits, hshort⟩, ht⟩,
                  h.floorShort hshort⟩)
    · rw [three_le, three_le, h.unmapped, h.ineligible]
      exact Or.imp_right <| Or.imp_right <| Or.imp h.protectedShort <| Or.imp h.floorShort
        h.emergency
    · rw [two_le, two_le, h.unmapped, h.ineligible]
      exact Or.imp_right <| Or.imp_right <| Or.imp h.protectedShort <| Or.imp h.floorShort
        (h.reduction hs)
    · rw [one_le, one_le, h.unmapped, h.ineligible, h.burst]
      exact Or.imp_right <| Or.imp_right <| Or.imp h.protectedShort <| Or.imp h.floorShort <|
        Or.imp (fun h0 => by omega) <|
        Or.imp (fun hO => Nat.lt_of_lt_of_le hO h.overage_le) <|
        Or.imp (Or.imp_right h.share) fun h0 => Nat.le_zero.mp (h0 ▸ h.contingentFree_le)

/-- A standing that grants with less capacity grants with more. -/
theorem withinPolicy (h : s.LessCapacity t) (hs : s.Coherent) (ht : t.outcome = .withinPolicy) :
    s.outcome = .withinPolicy := by
  have hsound : t.Sound := (outcome_eq_withinPolicy.mp ht).1
  have hle : s.outcome.severity ≤ t.outcome.severity :=
    (h.severity_le_iff hs).mpr fun hbad => hsound.protectedFits hbad.2
  rw [ht] at hle
  exact Outcome.severity_eq_zero.mp (Nat.le_zero.mp hle)

/-- What a standing grants only shrinks with its capacity. -/
theorem increment_le (h : s.LessCapacity t) (hs : s.Coherent) :
    (if t.outcome = .withinPolicy then t.contingentFree else 0) ≤
      if s.outcome = .withinPolicy then s.contingentFree else 0 := by
  by_cases ht : t.outcome = .withinPolicy
  · rw [if_pos ht, if_pos (h.withinPolicy hs ht)]
    exact h.contingentFree_le
  · rw [if_neg ht]
    exact Nat.zero_le _

end LessCapacity

end Oversub.Standing
