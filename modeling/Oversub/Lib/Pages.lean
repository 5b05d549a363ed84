import Mathlib.Algebra.GroupWithZero.Nat
import Mathlib.Data.List.Count
import Mathlib.Tactic.Cases

/-!
# Oversub.Lib.Pages

A text written line by line within a budget of symbols and of lines.  A line
that does not fit is cut so that its separator ends the budget exactly, and
nothing is written after that.  The text stays within the budget
(`foldl_push_within`), it holds all lines where they fit, and is full where they
do not (`foldl_push_full`).
-/

namespace Pages

variable {α : Type*}

/-- The symbols and the lines a text may have. -/
structure Budget where
  symbols : Nat
  lines : Nat

/-- What has been written so far. -/
structure Page (α : Type*) where
  text : List α := []
  lines : Nat := 0

/-- One more line, as much of it as there is room for. -/
def push (b : Budget) (newline : α) (p : Page α) (line : List α) : Page α :=
  if b.symbols ≤ p.text.length ∨ b.lines ≤ p.lines then p
  else
    let room := b.symbols - p.text.length
    if room < line.length + 1 then
      { text := p.text ++ line.take (room - 1) ++ [newline], lines := p.lines + 1 }
    else { text := p.text ++ line ++ [newline], lines := p.lines + 1 }

/-- The lines with their separators. -/
def render (newline : α) (lines : List (List α)) : List α := lines.flatMap fun line => line ++ [newline]

/-- The symbols of the lines and of their separators. -/
def size (lines : List (List α)) : Nat := (lines.map fun line => line.length + 1).sum

section

variable {b : Budget} {newline : α} {p : Page α} {line : List α} {lines : List (List α)}

theorem size_cons : size (line :: lines) = line.length + 1 + size lines := by
  rw [size, List.map_cons, List.sum_cons, size]

theorem size_append {lines' : List (List α)} : size (lines ++ lines') = size lines + size lines' := by
  rw [size, List.map_append, List.sum_append, size, size]

theorem render_cons : render newline (line :: lines) = line ++ [newline] ++ render newline lines := by
  rw [render, List.flatMap_cons, render]

theorem length_render : (render newline lines).length = size lines := by
  induction lines with
  | nil => rfl
  | cons line lines ih => simp only [render_cons, size_cons, List.length_append, List.length_singleton, ih]

/-- The text is within the budget. -/
structure Page.Within (b : Budget) (p : Page α) : Prop where
  symbols : p.text.length ≤ b.symbols
  lines : p.lines ≤ b.lines

/-- There is no room for another line. -/
def Page.Full (b : Budget) (p : Page α) : Prop := b.symbols ≤ p.text.length ∨ b.lines ≤ p.lines

/-- There is room for the lines. -/
structure Fits (b : Budget) (p : Page α) (lines : List (List α)) : Prop where
  symbols : p.text.length + size lines ≤ b.symbols
  lines : p.lines + lines.length ≤ b.lines

theorem fits_start : Fits b {} lines ↔ size lines ≤ b.symbols ∧ lines.length ≤ b.lines := by
  have hsymbols : ({} : Page α).text.length + size lines = size lines := Nat.zero_add _
  have hlines : ({} : Page α).lines + lines.length = lines.length := Nat.zero_add _
  constructor
  · intro h
    exact ⟨hsymbols ▸ h.symbols, hlines ▸ h.lines⟩
  · intro h
    exact ⟨hsymbols.symm ▸ h.1, hlines.symm ▸ h.2⟩

theorem push_of_full (h : p.Full b) : push b newline p line = p := if_pos h

theorem foldl_push_of_full (h : p.Full b) : lines.foldl (push b newline) p = p := by
  induction lines with
  | nil => rfl
  | cons line lines ih => rw [List.foldl_cons, push_of_full h, ih]

/-- A line that is pushed. -/
theorem push_cases (h : ¬ p.Full b) :
    (b.symbols - p.text.length < line.length + 1 ∧ push b newline p line =
        { text := p.text ++ line.take (b.symbols - p.text.length - 1) ++ [newline], lines := p.lines + 1 }) ∨
      (line.length + 1 ≤ b.symbols - p.text.length ∧
        push b newline p line = { text := p.text ++ line ++ [newline], lines := p.lines + 1 }) := by
  have hroom : ¬ (b.symbols ≤ p.text.length ∨ b.lines ≤ p.lines) := h
  unfold push
  rw [if_neg hroom]
  dsimp only
  split
  next hcut => exact .inl ⟨hcut, rfl⟩
  next hwhole => exact .inr ⟨Nat.not_lt.mp hwhole, rfl⟩

/-- **One line** keeps the text within the budget. -/
theorem push_within (h : p.Within b) : (push b newline p line).Within b := by
  have hsymbols := h.symbols
  have hlines := h.lines
  by_cases hfull : p.Full b
  · rw [push_of_full hfull]
    exact h
  · have hroom : p.text.length < b.symbols ∧ p.lines < b.lines := by
      unfold Page.Full at hfull
      omega
    rcases push_cases hfull with ⟨hcut, hpush⟩ | ⟨hwhole, hpush⟩
    · rw [hpush]
      constructor
      · simp only [List.length_append, List.length_take, List.length_singleton]
        omega
      · exact hroom.2
    · rw [hpush]
      constructor
      · simp only [List.length_append, List.length_singleton]
        omega
      · exact hroom.2

/-- **All lines** keep it within. -/
theorem foldl_push_within (h : p.Within b) : (lines.foldl (push b newline) p).Within b := by
  induction lines generalizing p with
  | nil => exact h
  | cons line lines ih =>
      rw [List.foldl_cons]
      exact ih (push_within h)

/-- Lines that fit are written whole. -/
theorem foldl_push_of_fits (h : Fits b p lines) : lines.foldl (push b newline) p =
    { text := p.text ++ render newline lines, lines := p.lines + lines.length } := by
  induction lines generalizing p with
  | nil => rw [render, List.flatMap_nil, List.append_nil]; rfl
  | cons line lines ih =>
      obtain ⟨hsymbols, hlines⟩ := h
      rw [size_cons] at hsymbols
      rw [List.length_cons] at hlines
      have hroom : ¬ p.Full b := by
        unfold Page.Full
        omega
      rcases @push_cases _ b newline p line hroom with ⟨hcut, -⟩ | ⟨-, hpush⟩
      · omega
      · rw [List.foldl_cons, hpush, ih]
        · simp only [render_cons, List.append_assoc, List.length_cons]
          rw [Nat.add_assoc, Nat.add_comm 1]
        · constructor
          · simp only [List.length_append, List.length_singleton]
            omega
          · show p.lines + 1 + lines.length ≤ b.lines
            omega

/-- **Lines that do not fit** fill the budget. -/
theorem foldl_push_full (h : p.Within b) (hn : ¬ Fits b p lines) : (lines.foldl (push b newline) p).Full b := by
  induction lines generalizing p with
  | nil =>
      have hsymbols := h.symbols
      have hlines := h.lines
      exact absurd ⟨hsymbols, hlines⟩ hn
  | cons line lines ih =>
      by_cases hfull : p.Full b
      · rw [foldl_push_of_full hfull]
        exact hfull
      · rw [List.foldl_cons]
        rcases @push_cases _ b newline p line hfull with ⟨hcut, hpush⟩ | ⟨hwhole, hpush⟩
        · -- the line is cut where the budget ends
          have hroom : p.text.length < b.symbols ∧ p.lines < b.lines := by
            unfold Page.Full at hfull
            omega
          have hend : (push b newline p line).Full b := by
            rw [hpush]
            left
            simp only [List.length_append, List.length_take, List.length_singleton]
            omega
          rw [foldl_push_of_full hend]
          exact hend
        · refine ih (push_within h) fun hfits => hn ?_
          rw [hpush] at hfits
          obtain ⟨hsymbols, hlines⟩ := hfits
          simp only [List.length_append, List.length_singleton] at hsymbols hlines
          constructor
          · rw [size_cons]
            omega
          · rw [List.length_cons]
            omega

variable [DecidableEq α]

/-- No line holds a separator. -/
theorem count_render (h : ∀ line ∈ lines, newline ∉ line) : (render newline lines).count newline = lines.length := by
  induction lines with
  | nil => rfl
  | cons line lines ih =>
      have hline := List.count_eq_zero.mpr (h line List.mem_cons_self)
      have hlines := ih fun l hl => h l (List.mem_cons_of_mem _ hl)
      simp only [render_cons, List.count_append, hline, hlines, List.count_singleton_self, List.length_cons]
      omega

theorem count_push (hline : newline ∉ line) (h : p.text.count newline = p.lines) :
    (push b newline p line).text.count newline = (push b newline p line).lines := by
  have htake (n : Nat) : (line.take n).count newline = 0 :=
    List.count_eq_zero.mpr fun hmem => hline (List.mem_of_mem_take hmem)
  by_cases hfull : p.Full b
  · rw [push_of_full hfull]
    exact h
  · rcases push_cases hfull with ⟨-, hpush⟩ | ⟨-, hpush⟩
    · rw [hpush]
      simp only [List.count_append, htake, h, List.count_singleton_self, Nat.add_zero]
    · rw [hpush]
      simp only [List.count_append, List.count_eq_zero.mpr hline, h, List.count_singleton_self, Nat.add_zero]

/-- **Separators** are counted exactly. -/
theorem count_foldl_push (hlines : ∀ line ∈ lines, newline ∉ line) (h : p.text.count newline = p.lines) :
    (lines.foldl (push b newline) p).text.count newline = (lines.foldl (push b newline) p).lines := by
  induction lines generalizing p with
  | nil => exact h
  | cons line lines ih =>
      rw [List.foldl_cons]
      exact ih (fun l hl => hlines l (List.mem_cons_of_mem _ hl)) (count_push (hlines line List.mem_cons_self) h)

/-- **More lines behind a text** that was written within the budget: both stay
within it exactly where all lines together fit. -/
theorem within_append_iff {more : List (List α)} (hmore : more ≠ []) (hlines : ∀ line ∈ lines, newline ∉ line)
    (hall : ∀ line ∈ more, newline ∉ line) :
    ((lines.foldl (push b newline) {}).text ++ render newline more).length ≤ b.symbols ∧
        ((lines.foldl (push b newline) {}).text ++ render newline more).count newline ≤ b.lines ↔
      Fits b {} (lines ++ more) := by
  have hcount := @count_foldl_push _ b newline {} lines _ hlines rfl
  have hpos : 0 < more.length := List.length_pos_iff.mpr hmore
  have hsize : 0 < size more := by
    cases more with
    | nil => exact absurd rfl hmore
    | cons line more =>
        rw [size_cons]
        omega
  rw [List.length_append, length_render, List.count_append, hcount, count_render hall, fits_start, size_append,
    List.length_append]
  by_cases hfits : Fits b {} lines
  · rw [foldl_push_of_fits hfits]
    dsimp only
    rw [List.nil_append, length_render, Nat.zero_add]
  · have hfull : (lines.foldl (push b newline) {}).Full b :=
      foldl_push_full ⟨Nat.zero_le _, Nat.zero_le _⟩ hfits
    rw [fits_start] at hfits
    unfold Page.Full at hfull
    omega

end

end Pages
