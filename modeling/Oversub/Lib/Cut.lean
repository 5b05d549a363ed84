import Oversub.Lib.Wire

/-!
# Oversub.Lib.Cut

Byte strings that are cut short, or that go on.  A reader is *local* if what it
reads does not depend on what comes after; local readers compose.  Whatever a
local reader reads, it reads neither a proper prefix of it as a whole nor a
proper extension.
-/

namespace Wire

/-- One of two byte strings is the other, cut short. -/
def Cuts (bytes input : List UInt8) : Prop := input ≠ bytes ∧ (input <+: bytes ∨ bytes <+: input)

namespace Reader

variable {α β : Type} {r : Reader α} {f : α → Reader β} {a a' : α} {b : β} {bytes rest input : List UInt8}

theorem bind_eq_some : (r >>= f) bytes = some (b, rest) ↔ ∃ p, r bytes = some p ∧ f p.1 p.2 = some (b, rest) := by
  show (r bytes).bind (fun p => f p.1 p.2) = _ ↔ _
  rw [Option.bind_eq_some_iff]

/-- What follows does not disturb a reading. -/
class Local (r : Reader α) : Prop where
  undisturbed : ∀ {bytes rest : List UInt8} {a : α} (more : List UInt8), r bytes = some (a, rest) →
    r (bytes ++ more) = some (a, rest ++ more)

instance local_pure : Local (pure a : Reader α) where
  undisturbed := by
    intro bytes rest a' more h
    cases h
    rfl

instance local_bind [Local r] [∀ a, Local (f a)] : Local (r >>= f) where
  undisturbed := by
    intro bytes rest b more h
    obtain ⟨p, hr, hf⟩ := bind_eq_some.mp h
    exact bind_eq_some.mpr ⟨_, Local.undisturbed more hr, Local.undisturbed more hf⟩

instance local_u8 : Local u8 where
  undisturbed := by
    intro bytes rest x more h
    cases bytes with
    | nil => cases h
    | cons b bytes =>
        cases h
        rfl

instance local_u32 : Local u32 where
  undisturbed := by
    intro bytes rest x more h
    unfold u32 at h
    split at h
    · cases h
      rfl
    · cases h

instance local_u64 : Local u64 where
  undisturbed := by
    intro bytes rest x more h
    unfold u64 at h
    split at h
    · cases h
      rfl
    · cases h

instance local_boolean : Local boolean := local_bind

instance local_raw {n : Nat} : Local (raw n) where
  undisturbed := by
    intro bytes rest x more h
    unfold raw at h
    split at h
    next hle =>
      cases h
      have hle' : n ≤ (bytes ++ more).length := by
        rw [List.length_append]
        omega
      simp only [raw, dif_pos hle', List.take_append_of_le_length hle, List.drop_append_of_le_length hle]
    next => cases h

instance local_string {bound : Nat} : Local (string bound) where
  undisturbed := by
    intro bytes rest x more h
    unfold string at h
    cases hu : u32 bytes with
    | none =>
        rw [hu] at h
        cases h
    | some p =>
        rw [hu] at h
        have hu' := Local.undisturbed more hu
        rw [string, hu']
        by_cases hbound : bound < p.1.toNat
        · simp [hbound] at h
        by_cases hleft : p.2.length < p.1.toNat
        · simp [hbound, hleft] at h
        have hle := Nat.not_lt.mp hleft
        have hleft' : ¬ (p.2 ++ more).length < p.1.toNat := by
          rw [List.length_append]
          omega
        simp only [if_neg hbound, if_neg hleft] at h
        cases h
        simp only [if_neg hbound, if_neg hleft', List.take_append_of_le_length hle,
          List.drop_append_of_le_length hle]

instance local_require {c : Prop} [Decidable c] : Local (require c) where
  undisturbed := by
    intro bytes rest x more h
    unfold require at h ⊢
    split at h
    next hc =>
      cases h
      rw [if_pos hc]
    next => cases h

instance local_times [Local r] {n : Nat} : Local (times r n) := by
  induction n with
  | zero => exact local_pure
  | succ n ih => exact local_bind

theorem whole_eq_some : r.whole input = some a ↔ r input = some (a, []) := by
  unfold whole
  cases h : r input with
  | none => simp
  | some p =>
      obtain ⟨x, rest⟩ := p
      cases rest with
      | nil => simp
      | cons b rest => simp

/-- What is read is read from nothing that is cut short, or goes on. -/
theorem Reads.whole_cut [Local r] (h : r.Reads bytes a) (hcut : Cuts bytes input) : r.whole input = none := by
  obtain ⟨hne, hcut⟩ := hcut
  have hread := h []
  rw [List.append_nil] at hread
  rw [Option.eq_none_iff_forall_ne_some]
  intro a' hwhole
  rw [whole_eq_some] at hwhole
  rcases hcut with ⟨more, rfl⟩ | ⟨more, rfl⟩
  · have hmore := Local.undisturbed more hwhole
    rw [hread, List.nil_append] at hmore
    cases hmore
    exact hne (List.append_nil input).symm
  · rw [h more] at hwhole
    cases hwhole
    exact hne (List.append_nil bytes)

end Reader

namespace Decoder

variable {ε α β : Type} {d : Decoder ε α} {f : α → Decoder ε β} {a a' : α} {e : ε} {P : Prop}
  {bytes rest input : List UInt8}

/-- What follows does not disturb a decoding. -/
class Local (d : Decoder ε α) : Prop where
  undisturbed : ∀ {bytes rest : List UInt8} {a : α} (more : List UInt8), d bytes = .ok (a, rest) →
    d (bytes ++ more) = .ok (a, rest ++ more)

instance local_pure : Local (pure a : Decoder ε α) where
  undisturbed := by
    intro bytes rest a' more h
    cases h
    rfl

instance local_bind [Local d] [∀ a, Local (f a)] : Local (d >>= f) where
  undisturbed := by
    intro bytes rest b more h
    obtain ⟨p, hd, hf⟩ := bind_eq_ok.mp h
    exact bind_eq_ok.mpr ⟨_, Local.undisturbed more hd, Local.undisturbed more hf⟩

instance local_check {c : Prop} [Decidable c] : Local (check c e) where
  undisturbed := by
    intro bytes rest x more h
    unfold check at h ⊢
    split at h
    next hc =>
      cases h
      rw [if_pos hc]
    next => cases h

instance local_ofReader {r : Reader α} [Reader.Local r] : Local (ofReader r e) where
  undisturbed := by
    intro bytes rest x more h
    unfold ofReader at h ⊢
    cases hr : r bytes with
    | none =>
        rw [hr] at h
        cases h
    | some p =>
        rw [hr] at h
        cases h
        rw [Reader.Local.undisturbed more hr]

instance local_ofExcept {x : Except ε α} : Local (ofExcept x) where
  undisturbed := by
    intro bytes rest a more h
    cases x with
    | error e => cases h
    | ok a =>
        cases h
        rfl

instance local_need {n : Nat} : Local (need n e) where
  undisturbed := by
    intro bytes rest x more h
    unfold need at h ⊢
    split at h
    next hle =>
      cases h
      have hle' : n ≤ (bytes ++ more).length := by
        rw [List.length_append]
        omega
      rw [if_pos hle']
    next => cases h

instance local_times [Local d] {n : Nat} : Local (times d n) := by
  induction n with
  | zero => exact local_pure
  | succ n ih => exact local_bind

theorem whole_eq_ok : d.whole e input = .ok a ↔ d input = .ok (a, []) := by
  unfold whole
  cases h : d input with
  | error e => simp
  | ok p =>
      obtain ⟨x, rest⟩ := p
      cases rest with
      | nil => simp
      | cons b rest => simp

/-- What is decoded is decoded from nothing that is cut short, or goes on. -/
theorem Decodes.whole_cut [Local d] (h : d.Decodes bytes a P) (hP : P) (hcut : Cuts bytes input) :
    d.whole e input ≠ .ok a' := by
  obtain ⟨hne, hcut⟩ := hcut
  have hread := (h [] (a, [])).mpr ⟨hP, rfl⟩
  rw [List.append_nil] at hread
  intro hwhole
  rw [whole_eq_ok] at hwhole
  rcases hcut with ⟨more, rfl⟩ | ⟨more, rfl⟩
  · have hmore := Local.undisturbed more hwhole
    rw [hread, List.nil_append] at hmore
    cases hmore
    exact hne (List.append_nil input).symm
  · rw [(h more _).mpr ⟨hP, rfl⟩] at hwhole
    cases hwhole
    exact hne (List.append_nil bytes)

end Decoder

end Wire
