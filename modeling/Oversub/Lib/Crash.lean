/-!
# Oversub.Lib.Crash

Programs over a durable state that may be cut off.  A run returns a value or
ends in a crash; the state survives either way.

`Meets p Q C s` is the crash Hoare triple: from `s`, every return of `p`
satisfies `Q` and every crash leaves a state that satisfies `C`.
-/

namespace Crash

/-- A program over the durable state `σ`; `none` is a crash. -/
def Prog (σ α : Type) : Type := σ → Option α × σ

variable {σ α β : Type}

namespace Prog

instance : Monad (Prog σ) where
  pure a := fun s => (some a, s)
  bind p f := fun s =>
    match p s with
    | (some a, t) => f a t
    | (none, t) => (none, t)

/-- The durable state. -/
def get : Prog σ σ := fun s => (some s, s)

def set (t : σ) : Prog σ Unit := fun _ => (some (), t)

/-- The end of the process, leaving `t` behind. -/
def crash (t : σ) : Prog σ α := fun _ => (none, t)

end Prog

/-! ## Crash triples -/

/-- From `s`, `p` returns with `Q` or crashes with `C`. -/
def Meets (p : Prog σ α) (Q : α → σ → Prop) (C : σ → Prop) (s : σ) : Prop :=
  match p s with
  | (some a, t) => Q a t
  | (none, t) => C t

section

variable {p : Prog σ α} {f : α → Prog σ β} {Q Q' : α → σ → Prop} {R : β → σ → Prop}
  {C C' : σ → Prop} {s t : σ} {a : α}

@[simp] theorem meets_pure : Meets (pure a) Q C s ↔ Q a s := Iff.rfl

@[simp] theorem meets_get {Q : σ → σ → Prop} : Meets Prog.get Q C s ↔ Q s s := Iff.rfl

@[simp] theorem meets_set {Q : Unit → σ → Prop} : Meets (Prog.set t) Q C s ↔ Q () t := Iff.rfl

@[simp] theorem meets_crash : Meets (Prog.crash t : Prog σ α) Q C s ↔ C t := Iff.rfl

theorem bind_apply : (p >>= f) s = match p s with
    | (some a, t) => f a t
    | (none, t) => (none, t) := rfl

theorem bind_bind {γ : Type} {g : β → Prog σ γ} : (p >>= f) >>= g = p >>= fun a => f a >>= g := by
  funext s
  rw [bind_apply, bind_apply, bind_apply]
  cases p s with
  | mk o t => cases o <;> rfl

/-- Sequencing: the second program starts where the first returned. -/
@[simp] theorem meets_bind :
    Meets (p >>= f) R C s ↔ Meets p (fun a t => Meets (f a) R C t) C s := by
  unfold Meets
  rw [bind_apply]
  cases p s with
  | mk o t =>
      cases o with
      | none => exact Iff.rfl
      | some a => exact Iff.rfl

theorem Meets.mono (h : Meets p Q C s) (hQ : ∀ a t, Q a t → Q' a t) (hC : ∀ t, C t → C' t) :
    Meets p Q' C' s := by
  unfold Meets at h ⊢
  split at h
  · exact hQ _ _ h
  · exact hC _ h

/-! ## What is returned -/

/-- Whatever `p` returns satisfies `Q`, from every state. -/
def Yields (p : Prog σ α) (Q : α → Prop) : Prop := ∀ s, Meets p (fun a _ => Q a) (fun _ => True) s

theorem yields_pure {Q : α → Prop} (h : Q a) : Yields (pure a : Prog σ α) Q := fun _ => h

theorem Yields.bind {S : α → Prop} {Q : β → Prop} (h : Yields p S) (hf : ∀ a, S a → Yields (f a) Q) :
    Yields (p >>= f) Q := by
  intro s
  rw [meets_bind]
  exact (h s).mono (fun a t ha => hf a ha t) fun _ => id

theorem Yields.mono {Q Q' : α → Prop} (h : Yields p Q) (hQ : ∀ a, Q a → Q' a) : Yields p Q' :=
  fun s => (h s).mono (fun a _ => hQ a) fun _ => id

theorem yields_true : Yields p fun _ => True := by
  intro s
  unfold Meets
  split <;> trivial

/-! ## Runs that return -/

/-- From `s`, `p` returns `a` and leaves `t`. -/
def Returns (p : Prog σ α) (s : σ) (a : α) (t : σ) : Prop := p s = (some a, t)

theorem returns_pure : Returns (pure a : Prog σ α) s a s := rfl

theorem Returns.bind {u : σ} {b : β} (hp : Returns p s a t) (hf : Returns (f a) t b u) :
    Returns (p >>= f) s b u := by
  unfold Returns at hp ⊢
  rw [bind_apply, hp]
  exact hf

/-! ## Combining triples -/

theorem Meets.and (h : Meets p Q C s) (h' : Meets p Q' C' s) :
    Meets p (fun a t => Q a t ∧ Q' a t) (fun t => C t ∧ C' t) s := by
  unfold Meets at h h' ⊢
  split at h
  next hp => exact ⟨h, by rw [hp] at h'; exact h'⟩
  next hp => exact ⟨h, by rw [hp] at h'; exact h'⟩

/-- A run ends in what it ends in. -/
theorem meets_self : Meets p (fun a t => p s = (some a, t)) (fun t => p s = (none, t)) s := by
  unfold Meets
  split
  next h => exact h
  next h => exact h

/-- What a triple says of a run that returned. -/
theorem Meets.returned (h : Meets p Q C s) (hp : p s = (some a, t)) : Q a t := by
  unfold Meets at h
  rw [hp] at h
  exact h

/-- What a triple says of a run that crashed. -/
theorem Meets.crashed (h : Meets p Q C s) (hp : p s = (none, t)) : C t := by
  unfold Meets at h
  rw [hp] at h
  exact h

end

end Crash
