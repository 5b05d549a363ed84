import Mathlib.Algebra.GroupWithZero.Nat
import Oversub.Lib.Trace

/-!
# Oversub.Lib.Simulation

One system seen as another, and counting along a run.  Where each step of a
system is, in a view of its state, some steps of another, so are its runs.  A
quantity that pays for what the steps cost bounds what a run costs.
-/

namespace Trace

variable {σ κ α β : Type}

section

variable {step : σ → κ → σ} {s t : σ} {ts : List (Transition σ κ)} {x : Transition σ κ}
  {astep : α → β → α} {view : σ → α} {labels : σ → κ → List β}

/-- In view of the other system, a step takes the steps with some labels. -/
def Simulates (step : σ → κ → σ) (astep : α → β → α) (view : σ → α) (labels : σ → κ → List β) : Prop :=
  ∀ s k, view (step s k) = (labels s k).foldl astep (view s)

/-- The steps of the other system that a step takes. -/
def Transition.image (astep : α → β → α) (view : σ → α) (labels : σ → κ → List β) (x : Transition σ κ) :
    List (Transition α β) := play astep (view x.before) (labels x.before x.label)

theorem map_label_play {ks : List κ} : (play step s ks).map (·.label) = ks := by
  induction ks generalizing s with
  | nil => rfl
  | cons k ks ih => rw [play, List.map_cons, ih]

/-- **A run is a run** of the other system. -/
theorem Simulates.run (h : Simulates step astep view labels) (hrun : Run step s ts t) :
    Run astep (view s) (ts.flatMap (·.image astep view labels)) (view t) := by
  induction hrun with
  | nil => exact .nil
  | snoc _ k ih =>
      rw [List.flatMap_append, List.flatMap_singleton, h]
      exact ih.append (run_play _ _)

/-- Its labels are those of the steps, in order. -/
theorem map_label_image : (ts.flatMap (·.image astep view labels)).map (·.label) =
    ts.flatMap fun x => labels x.before x.label := by
  rw [List.map_flatMap]
  exact congrArg (ts.flatMap ·) (funext fun _ => map_label_play)

/-! ## Since when -/

/-- Where something holds that did not hold at first, there is a last step that
made it hold. -/
theorem Run.entered {P : σ → Prop} (h : Run step s ts t) (hs : ¬ P s) (ht : P t) :
    ∃ us x vs, ts = us ++ x :: vs ∧ ¬ P x.before ∧ P (x.after step) ∧ ∀ y ∈ vs, P y.before := by
  induction h with
  | nil => exact absurd ht hs
  | snoc h k ih =>
      rename_i ts t
      by_cases hwas : P t
      · obtain ⟨us, x, vs, rfl, hbefore, hafter, hvs⟩ := ih hwas
        refine ⟨us, x, vs ++ [⟨t, k⟩], by simp, hbefore, hafter, fun y hy => ?_⟩
        rcases List.mem_append.mp hy with hy | hy
        · exact hvs y hy
        · obtain rfl := List.mem_singleton.mp hy
          exact hwas
      · exact ⟨ts, ⟨t, k⟩, [], rfl, hwas, ht, nofun⟩

/-- A preorder that the steps respect which leave something as it holds relates
the ends of a run throughout which it holds. -/
theorem Run.related_while {R : σ → σ → Prop} {P : σ → Prop} (hrefl : ∀ s, R s s)
    (htrans : ∀ {s t u}, R s t → R t u → R s u) (hstep : ∀ s k, P s → P (step s k) → R s (step s k))
    (h : Run step s ts t) (hts : ∀ x ∈ ts, P x.before) (ht : P t) : R s t := by
  induction h with
  | nil => exact hrefl _
  | snoc h k ih =>
      rw [List.forall_mem_append, List.forall_mem_singleton] at hts
      exact htrans (ih hts.1 hts.2) (hstep _ k hts.2 ht)

/-! ## What a run costs -/

/-- A quantity that goes down by what a step costs, while an invariant holds,
bounds the cost of a run. -/
theorem Run.cost (I : σ → Prop) (left : σ → Nat) (cost : Transition σ κ → Nat)
    (h : Run step s ts t) (hs : I s) (hinv : ∀ x ∈ ts, I x.before → I (x.after step))
    (hstep : ∀ x ∈ ts, I x.before → left (x.after step) + cost x ≤ left x.before) :
    I t ∧ (ts.map cost).sum + left t ≤ left s := by
  induction h with
  | nil => exact ⟨hs, by simp⟩
  | snoc h k ih =>
      rw [List.forall_mem_append, List.forall_mem_singleton] at hinv hstep
      obtain ⟨hI, hle⟩ := ih hinv.1 hstep.1
      have hpaid := hstep.2 hI
      dsimp only [Transition.after] at hpaid
      refine ⟨hinv.2 hI, ?_⟩
      rw [List.map_append, List.map_singleton, List.sum_append, List.sum_singleton]
      omega

end

end Trace
