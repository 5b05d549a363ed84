import Oversub.Lib.Wire

/-!
# Oversub.Lib.Refusals

What every failure of a decoder has in common.  `Fails B d` says that a failure
of `d` satisfies `B`, on any input; it holds of a decoder if it holds of its
parts, so only the errors that are written out have to be looked at.
-/

namespace Wire.Decoder

variable {ε α β : Type} {B : ε → Prop} {d : Decoder ε α} {f : α → Decoder ε β} {e : ε}

/-- Every failure of `d` satisfies `B`. -/
def Fails (B : ε → Prop) (d : Decoder ε α) : Prop := ∀ bytes e, d bytes = .error e → B e

theorem fails_pure {a : α} : Fails B (pure a : Decoder ε α) := nofun

theorem Fails.bind (h : d.Fails B) (hf : ∀ a, (f a).Fails B) : (d >>= f).Fails B := by
  intro bytes e he
  cases hd : d bytes with
  | error e' =>
      have hbind : (d >>= f) bytes = .error e' := by simp only [Bind.bind, hd]
      exact Except.error.inj (hbind.symm.trans he) ▸ h bytes e' hd
  | ok p =>
      have hbind : (d >>= f) bytes = f p.1 p.2 := by simp only [Bind.bind, hd]
      exact hf p.1 p.2 e (hbind.symm.trans he)

theorem fails_check {c : Prop} [Decidable c] (h : B e) : (check c e).Fails B := by
  intro bytes e' he
  unfold check at he
  split at he
  · cases he
  · exact Except.error.inj he ▸ h

theorem fails_ofReader {r : Reader α} (h : B e) : (ofReader r e).Fails B := by
  intro bytes e' he
  unfold ofReader at he
  split at he
  · cases he
  · exact Except.error.inj he ▸ h

theorem fails_need {n : Nat} (h : B e) : (need n e).Fails B := by
  intro bytes e' he
  unfold need at he
  split at he
  · cases he
  · exact Except.error.inj he ▸ h

theorem fails_ofExcept {x : Except ε α} (h : ∀ e, x = .error e → B e) : (ofExcept x).Fails B := by
  intro bytes e' he
  unfold ofExcept at he
  split at he
  · cases he
  · exact h _ (congrArg Except.error (Except.error.inj he))

theorem Fails.times (h : d.Fails B) (n : Nat) : (times d n).Fails B := by
  induction n with
  | zero => exact fails_pure
  | succ n ih => exact h.bind fun _ => ih.bind fun _ => fails_pure

theorem Fails.whole (h : d.Fails B) (he : B e) {bytes : List UInt8} {e' : ε}
    (herror : d.whole e bytes = .error e') : B e' := by
  unfold Decoder.whole at herror
  split at herror
  · cases herror
  · exact Except.error.inj herror ▸ he
  next hd => exact Except.error.inj herror ▸ h bytes _ hd

end Wire.Decoder
