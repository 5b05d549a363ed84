import Oversub.Lib.Ledger

/-!
# Oversub.Lib.Checkpoint

A history that is kept in two parts: a checkpoint, which covers the history up
to some point, and a log of its newest records.  As long as the two meet or
overlap, they tell together what the whole history does: the last record of
each key, and, where the records are counted, the records in order.
-/

namespace Ledger

variable {ρ κ : Type} {r : ρ} {rs saved log audit : List ρ}

/-! ## Counted records -/

/-- The records are numbered from one on, without gaps. -/
def Counted (number : ρ → Nat) (rs : List ρ) : Prop :=
  ∀ before r after, rs = before ++ r :: after → number r = before.length + 1

section

variable {number : ρ → Nat} {newer older : List ρ}

theorem counted_nil : Counted number [] := fun before _ _ h => by simp at h

theorem Counted.snoc (h : Counted number rs) (hr : number r = rs.length + 1) : Counted number (rs ++ [r]) := by
  intro before r' after heq
  rcases List.eq_nil_or_concat after with rfl | ⟨middle, last, rfl⟩
  · obtain ⟨hbefore, hlast⟩ := List.append_inj' heq rfl
    obtain rfl := List.singleton_inj.mp hlast
    rw [← hbefore]
    exact hr
  · rw [List.concat_eq_append, ← List.cons_append, ← List.append_assoc] at heq
    obtain ⟨hbefore, -⟩ := List.append_inj' heq rfl
    exact h before r' middle hbefore

/-- How many records there are from one of the newest on. -/
theorem Counted.number_add (h : Counted number rs) (hnewer : newer <:+ rs) {before after : List ρ}
    (heq : newer = before ++ r :: after) : number r + after.length = rs.length := by
  obtain ⟨older, rfl⟩ := hnewer
  have hr := h (older ++ before) r after (by rw [heq, List.append_assoc])
  rw [heq, hr]
  simp only [List.length_append, List.length_cons]
  omega

theorem Counted.newest_eq (h : Counted number rs) : newest number rs = rs.length := by
  rcases List.eq_nil_or_concat rs with rfl | ⟨older, last, rfl⟩
  · rfl
  · rw [List.concat_eq_append] at h ⊢
    rw [newest_snoc, h older last [] rfl, List.length_append, List.length_singleton]

theorem Counted.le_length (h : Counted number (older ++ newer)) (hr : r ∈ older) : number r ≤ older.length := by
  obtain ⟨before, after, rfl⟩ := List.append_of_mem hr
  rw [h before r (after ++ newer) (by simp)]
  simp

theorem Counted.length_lt (h : Counted number (older ++ newer)) (hr : r ∈ newer) : older.length < number r := by
  obtain ⟨before, after, rfl⟩ := List.append_of_mem hr
  rw [h (older ++ before) r after (by simp), List.length_append]
  omega

end

/-! ## Checkpoints and logs -/

/-- The checkpoint is of the history up to some point, and what came after it
is in the log. -/
structure Spans (saved log rs : List ρ) : Prop where
  front : saved <+: rs
  back : log <:+ rs
  whole : rs.length ≤ saved.length + log.length

theorem Spans.snoc (h : Spans saved log rs) : Spans saved (log ++ [r]) (rs ++ [r]) where
  front := h.front.trans (List.prefix_append _ _)
  back := by
    obtain ⟨older, rfl⟩ := h.back
    exact ⟨older, by rw [List.append_assoc]⟩
  whole := by
    have hwhole := h.whole
    simp only [List.length_append, List.length_singleton]
    omega

/-- A checkpoint of everything. -/
theorem spans_saved (hlog : log <:+ rs) : Spans rs log rs := ⟨List.prefix_rfl, hlog, Nat.le_add_right _ _⟩

/-- Where the two meet. -/
theorem Spans.overlap (h : Spans saved log rs) : ∃ before middle after,
    saved = before ++ middle ∧ log = middle ++ after ∧ rs = before ++ middle ++ after := by
  obtain ⟨after, rfl⟩ := h.front
  obtain ⟨before, hlog⟩ := h.back
  have hwhole := h.whole
  have hlength := congrArg List.length hlog
  simp only [List.length_append] at hwhole hlength
  obtain ⟨middle, rfl⟩ : before <+: saved :=
    List.prefix_of_prefix_length_le ⟨log, hlog⟩ (List.prefix_append _ _) (by omega)
  rw [List.append_assoc, List.append_cancel_left_eq] at hlog
  exact ⟨before, middle, after, rfl, hlog, rfl⟩

/-- **The last record** of a key is in the log, or else in the checkpoint. -/
theorem Spans.last_eq [DecidableEq κ] {key : ρ → κ} {k : κ} (h : Spans saved log rs) :
    last key k rs = (last key k log).or (last key k saved) := by
  obtain ⟨before, middle, after, rfl, rfl, rfl⟩ := h.overlap
  rw [last_append, last_append, last_append]
  cases last key k after with
  | some r => rfl
  | none => cases last key k middle <;> rfl

/-- **The records in order**: those of the checkpoint that are older than the
log, and the log. -/
theorem Spans.merged {number : ρ → Nat} {oldest : ρ} (h : Spans saved (oldest :: log) rs)
    (hcounted : Counted number rs) (haudit : audit <:+ saved) :
    audit.filter (fun r => number r < number oldest) ++ oldest :: log <:+ rs := by
  obtain ⟨before, middle, after, rfl, hlog, rfl⟩ := h.overlap
  rw [List.append_assoc, ← hlog] at hcounted ⊢
  have holdest : number oldest = before.length + 1 := hcounted before oldest log rfl
  -- of the checkpoint the filter leaves what comes before the log
  have hkept : (before ++ middle).filter (fun r => number r < number oldest) = before := by
    rw [List.filter_append, List.filter_eq_self.mpr, List.filter_eq_nil_iff.mpr, List.append_nil]
    · intro r hr
      have hlt : before.length < number r := hcounted.length_lt (hlog ▸ List.mem_append_left _ hr)
      rw [decide_eq_true_eq]
      omega
    · intro r hr
      have hle : number r ≤ before.length := hcounted.le_length hr
      rw [decide_eq_true_eq]
      omega
  obtain ⟨older, holder⟩ := haudit
  rw [← holder, List.filter_append] at hkept
  refine ⟨older.filter (fun r => number r < number oldest), ?_⟩
  rw [← List.append_assoc, hkept]

end Ledger
