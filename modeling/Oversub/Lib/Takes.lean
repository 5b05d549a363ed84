import Oversub.Lib.Wire

/-!
# Oversub.Lib.Takes

What a reader takes off its input.  `Takes r Q` says that a reading is the
reading of a front of the input, whatever follows it, and that `Q` relates what
was read to the size of that front.  It composes along `>>=`, so the size of a
record is the sum over its fields in order.
-/

namespace Wire.Reader

variable {α β : Type} {r : Reader α} {f : α → Reader β} {Q Q' : α → Nat → Prop} {R : β → Nat → Prop}

/-- What `r` reads is read off a front of its input, of a size that `Q` allows. -/
def Takes (r : Reader α) (Q : α → Nat → Prop) : Prop :=
  ∀ bytes a rest, r bytes = some (a, rest) → ∃ front, bytes = front ++ rest ∧ r.Reads front a ∧ Q a front.length

theorem takes_pure {a : α} (h : Q a 0) : Takes (pure a) Q := by
  intro bytes a' rest hread
  cases hread
  exact ⟨[], rfl, reads_pure, h⟩

theorem Takes.mono (h : r.Takes Q) (hQ : ∀ a n, Q a n → Q' a n) : r.Takes Q' := by
  intro bytes a rest hread
  obtain ⟨front, hbytes, hreads, hsize⟩ := h _ _ _ hread
  exact ⟨front, hbytes, hreads, hQ a _ hsize⟩

theorem Takes.bind (h : r.Takes Q) (hf : ∀ a n, Q a n → (f a).Takes fun b m => R b (n + m)) :
    (r >>= f).Takes R := by
  intro bytes b rest hread
  have hsplit : (r bytes).bind (fun p => f p.1 p.2) = some (b, rest) := hread
  obtain ⟨⟨a, middle⟩, hr, hfa⟩ := Option.bind_eq_some_iff.mp hsplit
  obtain ⟨front, rfl, hreads, hsize⟩ := h _ _ _ hr
  obtain ⟨back, rfl, hreads', hsize'⟩ := hf a _ hsize _ _ _ hfa
  refine ⟨front ++ back, (List.append_assoc ..).symm, hreads.bind hreads', ?_⟩
  rwa [List.length_append]

theorem takes_u8 : u8.Takes fun _ n => n = 1 := by
  intro bytes a rest hread
  cases bytes with
  | nil => cases hread
  | cons b bytes =>
      cases hread
      exact ⟨[a], rfl, reads_u8 a, rfl⟩

theorem takes_u32 : u32.Takes fun _ n => n = 4 := by
  intro bytes a rest hread
  unfold u32 at hread
  split at hread
  next b₀ b₁ b₂ b₃ rest' =>
    cases hread
    exact ⟨[b₀, b₁, b₂, b₃], rfl, fun _ => rfl, rfl⟩
  next => cases hread

theorem takes_u64 : u64.Takes fun _ n => n = 8 := by
  intro bytes a rest hread
  unfold u64 at hread
  split at hread
  next b₀ b₁ b₂ b₃ b₄ b₅ b₆ b₇ rest' =>
    cases hread
    exact ⟨[b₀, b₁, b₂, b₃, b₄, b₅, b₆, b₇], rfl, fun _ => rfl, rfl⟩
  next => cases hread

theorem takes_boolean : boolean.Takes fun _ n => n = 1 :=
  takes_u8.bind fun _ _ hn => takes_pure (by simp [hn])

theorem takes_raw {k : Nat} : (raw k).Takes fun _ n => n = k := by
  intro bytes a rest hread
  unfold raw at hread
  split at hread
  next hle =>
    cases hread
    exact ⟨bytes.take k, (List.take_append_drop k bytes).symm, reads_raw ⟨_, _⟩, List.length_take_of_le hle⟩
  next => cases hread

/-- A string is within its bound, and comes behind its length. -/
theorem takes_string {bound : Nat} : (string bound).Takes fun x n => x.length ≤ bound ∧ n = 4 + x.length := by
  intro bytes x rest hread
  unfold string at hread
  cases hu : u32 bytes with
  | none =>
      rw [hu] at hread
      cases hread
  | some p =>
      obtain ⟨length, tail⟩ := p
      simp only [hu] at hread
      split at hread
      · cases hread
      next hbound =>
        split at hread
        · cases hread
        next hleft =>
          cases hread
          obtain ⟨front, hbytes, hreads, hsize⟩ := takes_u32 _ _ _ hu
          have hlength : (tail.take length.toNat).length = length.toNat :=
            List.length_take_of_le (Nat.not_lt.mp hleft)
          refine ⟨front ++ tail.take length.toNat, ?_, fun more => ?_, ?_, ?_⟩
          · rw [hbytes, List.append_assoc, List.take_append_drop]
          · have hmore : ¬ (tail.take length.toNat ++ more).length < length.toNat := by
              rw [List.length_append]
              omega
            rw [string, List.append_assoc, hreads]
            simp only [if_neg hbound, if_neg hmore]
            rw [List.take_left' hlength, List.drop_left' hlength]
          · omega
          · rw [List.length_append]
            omega

/-! ## Fields of a fixed size -/

theorem takes_u32_bind {f : UInt32 → Reader β} (hf : ∀ a, (f a).Takes fun b m => R b (4 + m)) :
    (u32 >>= f).Takes R := takes_u32.bind fun a _ hn => hn ▸ hf a

theorem takes_u64_bind {f : UInt64 → Reader β} (hf : ∀ a, (f a).Takes fun b m => R b (8 + m)) :
    (u64 >>= f).Takes R := takes_u64.bind fun a _ hn => hn ▸ hf a

theorem takes_boolean_bind {f : Bool → Reader β} (hf : ∀ a, (f a).Takes fun b m => R b (1 + m)) :
    (boolean >>= f).Takes R := takes_boolean.bind fun a _ hn => hn ▸ hf a

end Wire.Reader
