import Mathlib.Data.List.Basic

/-!
# Oversub.Lib.Arrivals

A stream that arrives in pieces.  Every receive takes the front of the next
piece, as much as was asked for; a loop of receives reads an exact number of
elements.  What it reads depends on the stream only, not on its pieces.
-/

namespace Arrivals

variable {α ε : Type}

/-- A piece of the stream, never empty, or a failure to receive. -/
inductive Arrival (α ε : Type) where
  | data (head : α) (tail : List α)
  | failure (error : ε)

/-- The pieces of a stream that is all there. -/
def pieces : List α → List (Arrival α ε)
  | [] => []
  | a :: l => [.data a l]

/-- The elements of the stream. -/
def stream : List (Arrival α ε) → List α
  | [] => []
  | .data a l :: arrivals => a :: l ++ stream arrivals
  | .failure _ :: arrivals => stream arrivals

/-- No receive fails. -/
def Quiet : List (Arrival α ε) → Prop
  | [] => True
  | .data _ _ :: arrivals => Quiet arrivals
  | .failure _ :: _ => False

/-- What a receive returns. -/
inductive Received (α ε : Type) where
  | data (head : α) (tail : List α)
  | failure (error : ε)
  | closed

/-- A receive of at most `n` elements; nothing is left once the peer has closed. -/
def recv (n : Nat) : List (Arrival α ε) → Received α ε × List (Arrival α ε)
  | [] => (.closed, [])
  | .failure e :: arrivals => (.failure e, arrivals)
  | .data a l :: arrivals => (.data a (l.take (n - 1)), pieces (l.drop (n - 1)) ++ arrivals)

/-- How a loop of receives ends. -/
inductive Ending (α ε : Type) where
  | all (elements : List α)
  | short (missing : Nat)
  | failed (error : ε)

/-- Receives until `n` elements have arrived. -/
def readAll (n : Nat) (arrivals : List (Arrival α ε)) : Ending α ε × List (Arrival α ε) :=
  if n = 0 then (.all [], arrivals)
  else
    match recv n arrivals with
    | (.closed, rest) => (.short n, rest)
    | (.failure e, rest) => (.failed e, rest)
    | (.data a l, rest) =>
        match readAll (n - (l.length + 1)) rest with
        | (.all elements, rest) => (.all (a :: l ++ elements), rest)
        | (.short missing, rest) => (.short missing, rest)
        | (.failed e, rest) => (.failed e, rest)
termination_by n

section

variable {n : Nat} {arrivals : List (Arrival α ε)} {l : List α}

theorem stream_pieces : stream (pieces l ++ arrivals) = l ++ stream arrivals := by
  cases l with
  | nil => rfl
  | cons a l => rfl

theorem quiet_pieces (h : Quiet arrivals) : Quiet (pieces l ++ arrivals) := by
  cases l with
  | nil => exact h
  | cons a l => exact h

/-- A receive takes the front of the stream. -/
theorem recv_data (h : Quiet arrivals) (hn : n ≠ 0) (hne : stream arrivals ≠ []) :
    ∃ a l rest, recv n arrivals = (.data a l, rest) ∧ Quiet rest ∧ l.length + 1 ≤ n ∧
      stream arrivals = (a :: l) ++ stream rest := by
  cases arrivals with
  | nil => exact absurd rfl hne
  | cons arrival arrivals =>
      cases arrival with
      | failure e => exact h.elim
      | data a l =>
          refine ⟨a, l.take (n - 1), _, rfl, quiet_pieces h, ?_, ?_⟩
          · rw [List.length_take]
            omega
          · rw [stream_pieces, List.cons_append, ← List.append_assoc, List.take_append_drop, stream,
              List.cons_append]

theorem recv_closed (h : Quiet arrivals) (hnil : stream arrivals = []) : recv n arrivals = (.closed, []) := by
  cases arrivals with
  | nil => rfl
  | cons arrival arrivals =>
      cases arrival with
      | failure e => exact h.elim
      | data a l => simp [stream] at hnil

/-- A stream that is long enough is read, whatever its pieces. -/
theorem readAll_of_le (h : Quiet arrivals) (hle : n ≤ (stream arrivals).length) :
    ∃ rest, readAll n arrivals = (.all ((stream arrivals).take n), rest) ∧ Quiet rest ∧
      stream rest = (stream arrivals).drop n := by
  induction n using Nat.strongRecOn generalizing arrivals with
  | ind n ih =>
      rw [readAll]
      by_cases hn : n = 0
      · rw [if_pos hn, hn]
        exact ⟨arrivals, rfl, h, rfl⟩
      have hne : stream arrivals ≠ [] := by
        intro hnil
        rw [hnil, List.length_nil] at hle
        omega
      obtain ⟨a, l, rest, hrecv, hrest, hlength, hstream⟩ := recv_data h hn hne
      have hle' : n - (l.length + 1) ≤ (stream rest).length := by
        rw [hstream, List.length_append, List.length_cons] at hle
        omega
      obtain ⟨rest', hread, hquiet, hleft⟩ := ih (n - (l.length + 1)) (by omega) hrest hle'
      rw [if_neg hn, hrecv]
      simp only [hread]
      have hfront : (a :: l).take n = a :: l := List.take_of_length_le hlength
      have hback : (a :: l).drop n = [] := List.drop_of_length_le hlength
      refine ⟨rest', ?_, hquiet, ?_⟩
      · rw [hstream, List.take_append, hfront, List.length_cons]
      · rw [hstream, List.drop_append, hback, List.nil_append, List.length_cons, hleft]

/-- A stream that is too short is read to its end. -/
theorem readAll_of_lt (h : Quiet arrivals) (hlt : (stream arrivals).length < n) :
    readAll n arrivals = (.short (n - (stream arrivals).length), []) := by
  induction n using Nat.strongRecOn generalizing arrivals with
  | ind n ih =>
      have hn : n ≠ 0 := by omega
      rw [readAll, if_neg hn]
      by_cases hnil : stream arrivals = []
      · rw [recv_closed h hnil, hnil]
        rfl
      obtain ⟨a, l, rest, hrecv, hrest, hlength, hstream⟩ := recv_data h hn hnil
      have htotal : (stream arrivals).length = l.length + 1 + (stream rest).length := by
        rw [hstream, List.length_append, List.length_cons]
      have hread := ih (n - (l.length + 1)) (by omega) hrest (by omega)
      rw [hrecv]
      simp only [hread]
      rw [htotal, Nat.sub_sub]

end

end Arrivals
