import Mathlib.Data.List.Forall2
import Mathlib.Data.List.Induction

/-!
# EarlyFold

Loops that may stop early, as `List.foldlM` in `Except`.  A loop is described
by its state as a function of the elements consumed so far: it succeeds
exactly when its guard holds at every element, and then returns the state of
the whole list (`foldlM_eq_ok`).  Two loops over related lists are compared
by `Dominated`, which lets the second one stop first.  What every end of a
loop has in common is `Ensures`.

This module depends only on the list library.
-/

namespace EarlyFold

universe u v w

variable {ε : Type u} {σ τ σ' τ' : Type v} {α β : Type w}

/-! ## Sequencing -/

theorem bind_eq_ok {x : Except ε σ} {f : σ → Except ε τ} {t : τ} :
    (x >>= f) = .ok t ↔ ∃ s, x = .ok s ∧ f s = .ok t := by
  cases x with
  | error e => simp [bind, Except.bind]
  | ok s => simp [bind, Except.bind]

theorem bind_eq_error {x : Except ε σ} {f : σ → Except ε τ} {e : ε} :
    (x >>= f) = .error e ↔ x = .error e ∨ ∃ s, x = .ok s ∧ f s = .error e := by
  cases x with
  | error e' => simp [bind, Except.bind]
  | ok s => simp [bind, Except.bind]

theorem mapError_eq_ok {ε' : Type*} {x : Except ε α} {f : ε → ε'} {a : α} :
    x.mapError f = .ok a ↔ x = .ok a := by
  cases x <;> simp [Except.mapError]

theorem mapError_eq_error {ε' : Type*} {x : Except ε α} {f : ε → ε'} {e' : ε'} :
    x.mapError f = .error e' ↔ ∃ e, x = .error e ∧ f e = e' := by
  cases x <;> simp [Except.mapError]

/-! ## Loops by the consumed prefix -/

/-- `P` holds of every element of the list and the elements before it. -/
def EachPrefix (P : List α → α → Prop) (l : List α) : Prop :=
  ∀ pre a post, l = pre ++ a :: post → P pre a

@[simp] theorem eachPrefix_nil (P : List α → α → Prop) : EachPrefix P [] := by
  intro pre a post h
  exact absurd h (by simp)

theorem eachPrefix_concat {P : List α → α → Prop} {l : List α} {a : α} :
    EachPrefix P (l ++ [a]) ↔ EachPrefix P l ∧ P l a := by
  constructor
  · intro h
    refine ⟨fun pre b post hl => h pre b (post ++ [a]) ?_, h l a [] rfl⟩
    rw [hl, List.append_assoc, List.cons_append]
  · rintro ⟨hl, ha⟩ pre b post h
    cases hpost : post.reverse with
    | nil =>
        rw [List.reverse_eq_nil_iff] at hpost
        subst hpost
        obtain ⟨rfl, hab⟩ := List.append_inj' h rfl
        obtain rfl := List.singleton_inj.mp hab
        exact ha
    | cons c rest =>
        have hpost' : post = rest.reverse ++ [c] := by
          rw [← List.reverse_reverse post, hpost, List.reverse_cons]
        subst hpost'
        rw [← List.cons_append, ← List.append_assoc] at h
        exact hl pre b rest.reverse (List.append_inj_left' h rfl)

/-- **Loop rule**: when the state is a function `S` of the elements consumed,
and a step checks `P` and moves on to the next such state, the loop succeeds
exactly when `P` holds at every element, and returns `S` of the whole list. -/
theorem foldlM_eq_ok {step : σ → α → Except ε σ} {S : List α → σ} {P : List α → α → Prop}
    (hstep : ∀ pre a s, step (S pre) a = .ok s ↔ P pre a ∧ s = S (pre ++ [a])) (l : List α)
    (s : σ) : l.foldlM step (S []) = .ok s ↔ EachPrefix P l ∧ s = S l := by
  induction l using List.reverseRecOn generalizing s with
  | nil => simp [pure, Except.pure, eq_comm]
  | append_singleton l a ih =>
      rw [List.foldlM_append, bind_eq_ok, eachPrefix_concat]
      simp only [List.foldlM_cons, List.foldlM_nil, bind_pure]
      constructor
      · rintro ⟨t, ht, ha⟩
        obtain ⟨hl, rfl⟩ := (ih t).mp ht
        obtain ⟨hP, rfl⟩ := (hstep l a s).mp ha
        exact ⟨⟨hl, hP⟩, rfl⟩
      · rintro ⟨⟨hl, hP⟩, rfl⟩
        exact ⟨S l, (ih _).mpr ⟨hl, rfl⟩, (hstep l a _).mpr ⟨hP, rfl⟩⟩

/-- A loop that stops does so at some element, after a prefix it accepts. -/
theorem foldlM_eq_error {step : σ → α → Except ε σ} {S : List α → σ} {P : List α → α → Prop}
    (hstep : ∀ pre a s, step (S pre) a = .ok s ↔ P pre a ∧ s = S (pre ++ [a])) {l : List α}
    {e : ε} (h : l.foldlM step (S []) = .error e) :
    ∃ pre a post, l = pre ++ a :: post ∧ EachPrefix P pre ∧ step (S pre) a = .error e := by
  induction l using List.reverseRecOn with
  | nil => cases h
  | append_singleton l a ih =>
      rw [List.foldlM_append, bind_eq_error] at h
      rcases h with h | ⟨s, hs, h⟩
      · obtain ⟨pre, b, post, rfl, hP, hb⟩ := ih h
        exact ⟨pre, b, post ++ [a], by simp, hP, hb⟩
      · obtain ⟨hP, rfl⟩ := (foldlM_eq_ok hstep l s).mp hs
        simp only [List.foldlM_cons, List.foldlM_nil, bind_pure] at h
        exact ⟨l, a, [], rfl, hP, h⟩

/-- The same for a loop that cannot stop. -/
theorem foldl_eq {step : σ → α → σ} {S : List α → σ}
    (hstep : ∀ pre a, step (S pre) a = S (pre ++ [a])) (l : List α) : l.foldl step (S []) = S l := by
  induction l using List.reverseRecOn with
  | nil => rfl
  | append_singleton l a ih => rw [List.foldl_append, List.foldl_cons, List.foldl_nil, ih, hstep]

theorem eachPrefix_and {P Q : List α → α → Prop} {l : List α} :
    EachPrefix (fun pre a => P pre a ∧ Q pre a) l ↔ EachPrefix P l ∧ EachPrefix Q l := by
  simp only [EachPrefix]
  exact ⟨fun h => ⟨fun pre a post hl => (h pre a post hl).1, fun pre a post hl => (h pre a post hl).2⟩,
    fun h pre a post hl => ⟨h.1 pre a post hl, h.2 pre a post hl⟩⟩

/-- A guard that does not look back is a condition on every element. -/
theorem eachPrefix_const {P : α → Prop} {l : List α} :
    EachPrefix (fun _ a => P a) l ↔ ∀ a ∈ l, P a := by
  constructor
  · intro h a ha
    obtain ⟨pre, post, hl⟩ := List.append_of_mem ha
    exact h pre a post hl
  · intro h pre a post hl
    exact h a (hl ▸ List.mem_append_right _ List.mem_cons_self)

/-- Checking each identity against those already seen is checking that none repeats. -/
theorem eachPrefix_nodup {κ : Type*} {key : α → κ} {l : List α} :
    EachPrefix (fun pre a => key a ∉ pre.map key) l ↔ (l.map key).Nodup := by
  induction l using List.reverseRecOn with
  | nil => simp
  | append_singleton l a ih =>
      rw [eachPrefix_concat, ih, List.map_append, List.map_singleton,
        (List.perm_append_singleton _ _).nodup_iff, List.nodup_cons, and_comm]

/-! ## What a computation ends with -/

/-- `B` of the error it stops with, `Q` of the value it returns. -/
def Ensures (B : ε → Prop) (Q : σ → Prop) : Except ε σ → Prop
  | .error e => B e
  | .ok s => Q s

section

variable {B : ε → Prop} {Q : σ → Prop} {Q' : τ → Prop} {x : Except ε σ} {step : σ → α → Except ε σ}

theorem Ensures.error {e : ε} (h : Ensures B Q x) (hx : x = .error e) : B e := by
  rw [hx] at h
  exact h

theorem Ensures.bind {f : σ → Except ε τ} (h : Ensures B Q x)
    (hf : ∀ s, Q s → Ensures B Q' (f s)) : Ensures B Q' (x >>= f) := by
  cases x with
  | error e => exact h
  | ok s => exact hf s h

/-- A loop whose steps keep `Q`, which may look at the elements still to come. -/
theorem foldlM_ensures_rest {Q : List α → σ → Prop}
    (hstep : ∀ s a l, Q (a :: l) s → Ensures B (Q l) (step s a)) {l : List α} {s : σ} (hs : Q l s) :
    Ensures B (Q []) (l.foldlM step s) := by
  induction l generalizing s with
  | nil => exact hs
  | cons a l ih =>
      rw [List.foldlM_cons]
      exact (hstep s a l hs).bind fun _ h => ih h

/-- A loop whose steps keep `Q` keeps it. -/
theorem foldlM_ensures (hstep : ∀ s a, Q s → Ensures B Q (step s a))
    (l : List α) {s : σ} (hs : Q s) : Ensures B Q (l.foldlM step s) :=
  foldlM_ensures_rest (Q := fun _ => Q) (fun s a _ => hstep s a) hs

end

/-! ## Two loops side by side -/

/-- `y` dominates `x`: it stopped with a final error, or both stopped with
related errors, or both returned related values. -/
inductive Dominated (R : σ → τ → Prop) (S : ε → ε → Prop) (B : ε → Prop) :
    Except ε σ → Except ε τ → Prop
  | stopped (x : Except ε σ) {e : ε} : B e → Dominated R S B x (.error e)
  | errors {e e' : ε} : S e e' → Dominated R S B (.error e) (.error e')
  | values {s : σ} {t : τ} : R s t → Dominated R S B (.ok s) (.ok t)

variable {R : σ → τ → Prop} {S : ε → ε → Prop} {B : ε → Prop}

theorem Dominated.bind {R' : σ' → τ' → Prop} {x : Except ε σ} {y : Except ε τ}
    {f : σ → Except ε σ'} {g : τ → Except ε τ'} (h : Dominated R S B x y)
    (hfg : ∀ s t, R s t → Dominated R' S B (f s) (g t)) :
    Dominated R' S B (x >>= f) (y >>= g) := by
  cases h with
  | stopped _ hB => exact .stopped _ hB
  | errors hS => exact .errors hS
  | values hR => exact hfg _ _ hR

/-- A computation dominates itself. -/
theorem Dominated.same (hS : ∀ e, S e e) (x : Except ε σ) :
    Dominated (fun s t => t = s ∧ x = .ok s) S B x x := by
  cases x with
  | error e => exact .errors (hS e)
  | ok s => exact .values ⟨rfl, rfl⟩

theorem Dominated.mapError {ε' : Type*} {S' : ε' → ε' → Prop} {B' : ε' → Prop} {x : Except ε σ}
    {y : Except ε τ} {f g : ε → ε'} (h : Dominated R S B x y)
    (hS : ∀ e e', S e e' → S' (f e) (g e')) (hB : ∀ e, B e → B' (g e)) :
    Dominated R S' B' (x.mapError f) (y.mapError g) := by
  cases h with
  | stopped _ he => exact .stopped _ (hB _ he)
  | errors he => exact .errors (hS _ _ he)
  | values hst => exact .values hst

/-- **Two-loop rule**: if every step of the second loop dominates the step of
the first, the second loop dominates the first. -/
theorem foldlM_dominated {Q : α → β → Prop} {step₁ : σ → α → Except ε σ} {step₂ : τ → β → Except ε τ}
    (hstep : ∀ s t a b, R s t → Q a b → Dominated R S B (step₁ s a) (step₂ t b))
    {l₁ : List α} {l₂ : List β} (hl : List.Forall₂ Q l₁ l₂) {s : σ} {t : τ} (hst : R s t) :
    Dominated R S B (l₁.foldlM step₁ s) (l₂.foldlM step₂ t) := by
  induction hl generalizing s t with
  | nil => exact .values hst
  | cons hab _ ih =>
      rw [List.foldlM_cons, List.foldlM_cons]
      exact (hstep s t _ _ hst hab).bind fun _ _ h => ih h

/-- **Skipping rule**: a loop against the loop over the elements that satisfy
`p`, when every other element leaves the states related.  The relation may
look at the elements still to come. -/
theorem foldlM_skipping {R : List α → σ → τ → Prop} {p : α → Bool}
    {step₁ : σ → α → Except ε σ} {step₂ : τ → α → Except ε τ}
    (hskip : ∀ a l s t, p a = false → R (a :: l) s t → ∃ s', step₁ s a = .ok s' ∧ R l s' t)
    (hstep : ∀ a l s t, p a = true → R (a :: l) s t →
      Dominated (R l) S B (step₁ s a) (step₂ t a))
    {l : List α} {s : σ} {t : τ} (h : R l s t) :
    Dominated (R []) S B (l.foldlM step₁ s) ((l.filter p).foldlM step₂ t) := by
  induction l generalizing s t with
  | nil => exact .values h
  | cons a l ih =>
      rw [List.foldlM_cons]
      cases hp : p a with
      | false =>
          obtain ⟨s', hs', hR⟩ := hskip a l s t hp h
          rw [List.filter_cons_of_neg (by simp [hp]), hs']
          exact ih hR
      | true =>
          rw [List.filter_cons_of_pos hp, List.foldlM_cons]
          exact (hstep a l s t hp h).bind fun _ _ hR => ih hR

end EarlyFold
