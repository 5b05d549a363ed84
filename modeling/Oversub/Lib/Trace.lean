import Mathlib.Data.List.Basic

/-!
# Oversub.Lib.Trace

Runs of a system that takes one labelled step after the other, with all steps
on record.  A run grows at its end, so an invariant may speak of the steps so
far; a run splits anywhere, so two points of it can be compared.
-/

namespace Trace

variable {σ κ : Type}

/-- A step of a run: where it was taken, and its label. -/
structure Transition (σ κ : Type) where
  before : σ
  label : κ

/-- `ts` are the steps of a run from `s` to the last state. -/
inductive Run (step : σ → κ → σ) (s : σ) : List (Transition σ κ) → σ → Prop where
  | nil : Run step s [] s
  | snoc {ts : List (Transition σ κ)} {t : σ} (h : Run step s ts t) (k : κ) :
      Run step s (ts ++ [⟨t, k⟩]) (step t k)

section

variable {step : σ → κ → σ} {s t u : σ} {ts us : List (Transition σ κ)} {x : Transition σ κ}

/-- The state a step leads to. -/
def Transition.after (step : σ → κ → σ) (x : Transition σ κ) : σ := step x.before x.label

theorem Run.append (h : Run step s ts t) (h' : Run step t us u) : Run step s (ts ++ us) u := by
  induction h' with
  | nil => rwa [List.append_nil]
  | snoc _ k ih =>
      rw [← List.append_assoc]
      exact ih.snoc k

/-- A run splits at any of its steps. -/
theorem Run.split (h : Run step s (ts ++ us) u) : ∃ m, Run step s ts m ∧ Run step m us u := by
  generalize hl : ts ++ us = l at h
  induction h generalizing us with
  | nil =>
      obtain ⟨rfl, rfl⟩ := List.append_eq_nil_iff.mp hl
      exact ⟨s, .nil, .nil⟩
  | snoc h k ih =>
      rcases List.eq_nil_or_concat us with rfl | ⟨vs, y, rfl⟩
      · rw [List.append_nil] at hl
        exact ⟨_, hl ▸ h.snoc k, .nil⟩
      · rw [List.concat_eq_append, ← List.append_assoc] at hl
        obtain ⟨hts, hy⟩ := List.append_inj' hl rfl
        obtain rfl : y = _ := List.singleton_inj.mp hy
        obtain ⟨m, hm, hm'⟩ := ih hts
        exact ⟨m, hm, by simpa using hm'.snoc k⟩

/-- The part of a run before one of its steps, and the part after it. -/
theorem Run.at_step (h : Run step s (ts ++ x :: us) u) :
    Run step s ts x.before ∧ Run step (x.after step) us u := by
  have hassoc : ts ++ x :: us = (ts ++ [x]) ++ us := by simp
  rw [hassoc] at h
  obtain ⟨m, hm, hus⟩ := h.split
  generalize hl : ts ++ [x] = l at hm
  cases hm with
  | nil => simp at hl
  | snoc hts k =>
      obtain ⟨rfl, hx⟩ := List.append_inj' hl rfl
      obtain rfl := List.singleton_inj.mp hx
      exact ⟨hts, hus⟩

/-! ## Runs of given labels -/

/-- The steps a system takes under some labels. -/
def play (step : σ → κ → σ) (s : σ) : List κ → List (Transition σ κ)
  | [] => []
  | k :: ks => ⟨s, k⟩ :: play step (step s k) ks

theorem run_play (s : σ) (ks : List κ) : Run step s (play step s ks) (ks.foldl step s) := by
  induction ks generalizing s with
  | nil => exact .nil
  | cons k ks ih => exact (Run.nil.snoc k).append (ih _)

theorem run_play_foldl {ks : List κ} (h : ks.foldl step s = t) :
    Run step s (play step s ks) t := h ▸ run_play s ks

theorem label_of_mem_play {ks : List κ} {x : Transition σ κ} (h : x ∈ play step s ks) :
    x.label ∈ ks := by
  induction ks generalizing s with
  | nil => cases h
  | cons k ks ih =>
      cases h with
      | head => exact List.mem_cons_self
      | tail _ h => exact List.mem_cons_of_mem _ (ih h)

theorem play_append {ks ks' : List κ} :
    play step s (ks ++ ks') = play step s ks ++ play step (ks.foldl step s) ks' := by
  induction ks generalizing s with
  | nil => rfl
  | cons k ks ih => simp [play, ih]

/-- The run under some labels, at one of them. -/
theorem run_play_at {ks : List κ} (k : κ) (ks' : List κ) (h : ks.foldl step s = t) :
    Run step s (play step s ks ++ ⟨t, k⟩ :: play step (step t k) ks')
      (ks'.foldl step (step t k)) := by
  have hplay : Run step s _ _ := run_play s (ks ++ k :: ks')
  rw [play_append, List.foldl_append, h] at hplay
  exact hplay

/-! ## Invariants -/

/-- An invariant of the steps holds at the end. -/
theorem Run.invariant {I : σ → Prop} (h : Run step s ts t) (hs : I s)
    (hstep : ∀ s k, I s → I (step s k)) : I t := by
  induction h with
  | nil => exact hs
  | snoc _ k ih => exact hstep _ k ih

/-- A preorder that every step respects relates the ends of a run. -/
theorem Run.related {R : σ → σ → Prop} {I : σ → Prop} (hrefl : ∀ s, R s s)
    (htrans : ∀ {s t u}, R s t → R t u → R s u) (hinv : ∀ s k, I s → I (step s k))
    (hstep : ∀ s k, I s → R s (step s k)) (h : Run step s ts t) (hs : I s) : R s t := by
  have hboth : I t ∧ R s t := by
    induction h with
    | nil => exact ⟨hs, hrefl _⟩
    | snoc _ k ih => exact ⟨hinv _ k ih.1, htrans ih.2 (hstep _ k ih.1)⟩
  exact hboth.2

end

end Trace
