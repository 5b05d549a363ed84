import Mathlib.Logic.Function.Basic
import Oversub.Lib.Crash

/-!
# Oversub.Lib.Files

A directory of files under the names `ν`, whose operations may fail or be cut
off by a crash.  What happens to each operation is decided by a list of fates;
an operation past the end of the list completes.

A replacement is atomic, also across a crash.  An append that does not
complete leaves any prefix of what it was to append.
-/

namespace Files

open Crash

/-- What becomes of an operation.  A number counts the bytes of an append that
reach the file; a replacement that crashes has happened iff it is not zero. -/
inductive Fate where
  | completes
  | fails (kept : Nat)
  | crashes (kept : Nat)
  deriving DecidableEq

structure World (ν : Type) where
  disk : ν → Option (List UInt8)
  fates : List Fate

variable {ν : Type}

/-- The fate of the next operation. -/
def World.fate (w : World ν) : Fate := w.fates.headD .completes

/-- The world after an operation that leaves `disk` behind. -/
def World.next (w : World ν) (disk : ν → Option (List UInt8)) : World ν := ⟨disk, w.fates.tail⟩

/-- Some fate of the list fails. -/
def SomeFails (fates : List Fate) : Prop := ∃ kept, Fate.fails kept ∈ fates

theorem World.fate_mem {w : World ν} (h : w.fate ≠ .completes) : w.fate ∈ w.fates := by
  unfold World.fate at h ⊢
  cases hf : w.fates with
  | nil =>
      rw [hf] at h
      exact absurd rfl h
  | cons f fates => exact List.mem_cons_self

theorem World.fails_mem {w : World ν} {kept : Nat} (h : w.fate = .fails kept) :
    Fate.fails kept ∈ w.fates :=
  h ▸ World.fate_mem (by rw [h]; exact Fate.noConfusion)

/-- No operation from here on fails. -/
def World.Reliable (w : World ν) : Prop := ¬ SomeFails w.fates

theorem World.Reliable.next {w : World ν} (h : w.Reliable) (disk : ν → Option (List UInt8)) :
    (w.next disk).Reliable := fun ⟨kept, hkept⟩ => h ⟨kept, List.mem_of_mem_tail hkept⟩

/-- The next operation fails. -/
def World.Failing (w : World ν) : Prop := ∃ kept, w.fate = .fails kept

theorem World.Failing.someFails {w : World ν} (h : w.Failing) : SomeFails w.fates := by
  obtain ⟨kept, hkept⟩ := h
  exact ⟨kept, World.fails_mem hkept⟩

/-- What fails from here on leaves nothing of what it was to write. -/
def World.Clean (w : World ν) : Prop := ∀ kept, .fails kept ∈ w.fates → kept = 0

theorem World.Reliable.clean {w : World ν} (h : w.Reliable) : w.Clean := fun kept hkept =>
  absurd ⟨kept, hkept⟩ h

theorem World.Clean.later {w w' : World ν} (h : w.Clean) (hsub : w'.fates ⊆ w.fates) : w'.Clean :=
  fun kept hkept => h kept (hsub hkept)

theorem SomeFails.earlier {fates fates' : List Fate} (h : SomeFails fates') (hsub : fates' ⊆ fates) :
    SomeFails fates := by
  obtain ⟨kept, hkept⟩ := h
  exact ⟨kept, hsub hkept⟩

theorem World.next_subset {w : World ν} {disk : ν → Option (List UInt8)} :
    (w.next disk).fates ⊆ w.fates := fun _ h => List.mem_of_mem_tail h

/-! ## Operations that change no file -/

/-- The contents of a file, if it exists. -/
def content (name : ν) : Prog (World ν) (Option (List UInt8)) := fun w => (some (w.disk name), w)

/-- An operation that changes no file: whether it completed. -/
def attempt : Prog (World ν) Bool := fun w =>
  match w.fate with
  | .completes => (some true, w.next w.disk)
  | .fails _ => (some false, w.next w.disk)
  | .crashes _ => (none, w.next w.disk)

section

variable {w : World ν} {name : ν} {C : World ν → Prop}

@[simp] theorem meets_content {Q : Option (List UInt8) → World ν → Prop} :
    Meets (content name) Q C w ↔ Q (w.disk name) w := Iff.rfl

theorem meets_attempt {Q : Bool → World ν → Prop} (hdone : Q true (w.next w.disk))
    (hfail : SomeFails w.fates → Q false (w.next w.disk)) (hcrash : C (w.next w.disk)) :
    Meets attempt Q C w := by
  unfold Meets attempt
  cases hf : w.fate with
  | completes => exact hdone
  | fails kept => exact hfail ⟨kept, World.fails_mem hf⟩
  | crashes kept => exact hcrash

end

/-! ## Operations that write -/

variable [DecidableEq ν]

/-- The file, with `bytes` at its end. -/
def appended (disk : ν → Option (List UInt8)) (name : ν) (bytes : List UInt8) :
    ν → Option (List UInt8) :=
  Function.update disk name (some ((disk name).getD [] ++ bytes))

def replaced (disk : ν → Option (List UInt8)) (name : ν) (bytes : List UInt8) :
    ν → Option (List UInt8) :=
  Function.update disk name (some bytes)

section

variable {disk : ν → Option (List UInt8)} {name other : ν} {bytes : List UInt8}

@[simp] theorem replaced_self : replaced disk name bytes name = some bytes :=
  Function.update_self ..

theorem replaced_ne (h : other ≠ name) : replaced disk name bytes other = disk other :=
  Function.update_of_ne h ..

@[simp] theorem appended_self :
    appended disk name bytes name = some ((disk name).getD [] ++ bytes) := Function.update_self ..

theorem appended_ne (h : other ≠ name) : appended disk name bytes other = disk other :=
  Function.update_of_ne h ..

end

/-- The atomic replacement of a file: whether it completed. -/
def replace (name : ν) (bytes : List UInt8) : Prog (World ν) Bool := fun w =>
  match w.fate with
  | .completes => (some true, w.next (replaced w.disk name bytes))
  | .fails _ => (some false, w.next w.disk)
  | .crashes kept => (none, w.next (if kept = 0 then w.disk else replaced w.disk name bytes))

/-- Appending to a file: whether it completed. -/
def append (name : ν) (bytes : List UInt8) : Prog (World ν) Bool := fun w =>
  match w.fate with
  | .completes => (some true, w.next (appended w.disk name bytes))
  | .fails kept => (some false, w.next (appended w.disk name (bytes.take kept)))
  | .crashes kept => (none, w.next (appended w.disk name (bytes.take kept)))

section

variable {w : World ν} {name : ν} {bytes : List UInt8} {C : World ν → Prop}

theorem meets_replace {Q : Bool → World ν → Prop}
    (hdone : Q true (w.next (replaced w.disk name bytes)))
    (hfail : SomeFails w.fates → Q false (w.next w.disk)) (hcrash : C (w.next w.disk))
    (hdonecrash : C (w.next (replaced w.disk name bytes))) :
    Meets (replace name bytes) Q C w := by
  unfold Meets replace
  cases hf : w.fate with
  | completes => exact hdone
  | fails kept => exact hfail ⟨kept, World.fails_mem hf⟩
  | crashes kept =>
      by_cases hk : kept = 0
      · simpa [hk] using hcrash
      · simpa [hk] using hdonecrash

theorem meets_append {Q : Bool → World ν → Prop}
    (hdone : Q true (w.next (appended w.disk name bytes)))
    (hfail : ∀ kept, .fails kept ∈ w.fates →
      Q false (w.next (appended w.disk name (bytes.take kept))))
    (hcrash : ∀ kept, C (w.next (appended w.disk name (bytes.take kept)))) :
    Meets (append name bytes) Q C w := by
  unfold Meets append
  cases hf : w.fate with
  | completes => exact hdone
  | fails kept => exact hfail kept (World.fails_mem hf)
  | crashes kept => exact hcrash kept

end

/-! ## Operations that leave nothing behind where they fail -/

section

variable {w : World ν} {name : ν} {bytes : List UInt8}

/-- A replacement is done or fails. -/
theorem meets_replace_tried : Meets (replace name bytes)
    (fun ok w' => w'.fates ⊆ w.fates ∧ (ok = true ∧ ¬ w.Failing ∧ w'.disk = replaced w.disk name bytes ∨
      ok = false ∧ w.Failing ∧ w'.disk = w.disk))
    (fun w' => w'.disk = w.disk ∨ w'.disk = replaced w.disk name bytes) w := by
  unfold Meets replace
  cases hf : w.fate with
  | completes =>
      have hcompletes : ¬ w.Failing := fun ⟨kept, hkept⟩ => by simp [hf] at hkept
      exact ⟨World.next_subset, .inl ⟨rfl, hcompletes, rfl⟩⟩
  | fails kept => exact ⟨World.next_subset, .inr ⟨rfl, ⟨kept, hf⟩, rfl⟩⟩
  | crashes kept =>
      by_cases hk : kept = 0
      · exact .inl (by simp [hk, World.next])
      · exact .inr (by simp [hk, World.next])

/-- An append that leaves nothing where it fails. -/
theorem meets_append_clean (h : w.Clean) : Meets (append name bytes)
    (fun ok w' => w'.fates ⊆ w.fates ∧ (ok = true ∧ w'.disk = appended w.disk name bytes ∨
      ok = false ∧ w.Failing ∧ w'.disk = appended w.disk name []))
    (fun w' => ∃ kept, w'.disk = appended w.disk name (bytes.take kept)) w := by
  unfold Meets append
  cases hf : w.fate with
  | completes => exact ⟨World.next_subset, .inl ⟨rfl, rfl⟩⟩
  | fails kept =>
      have hkept : kept = 0 := h kept (World.fails_mem hf)
      exact ⟨World.next_subset, .inr ⟨rfl, ⟨kept, hf⟩, by simp [hkept, World.next]⟩⟩
  | crashes kept => exact ⟨kept, rfl⟩

end

/-! ## Operations that complete -/

/-- Where no operation fails, `p` returns `a` and leaves `disk'`. -/
def Completes {α : Type} (p : Prog (World ν) α) (disk : ν → Option (List UInt8)) (a : α)
    (disk' : ν → Option (List UInt8)) : Prop := Returns p ⟨disk, []⟩ a ⟨disk', []⟩

section

variable {α β : Type} {name : ν} {bytes : List UInt8} {p : Prog (World ν) α}
  {f : α → Prog (World ν) β} {a : α} {b : β} {disk disk₁ disk₂ : ν → Option (List UInt8)}

omit [DecidableEq ν] in
theorem completes_pure : Completes (pure a) disk a disk := rfl

omit [DecidableEq ν] in
theorem Completes.bind (hp : Completes p disk a disk₁) (hf : Completes (f a) disk₁ b disk₂) :
    Completes (p >>= f) disk b disk₂ := Returns.bind hp hf

omit [DecidableEq ν] in
theorem completes_content : Completes (content name) disk (disk name) disk := rfl

omit [DecidableEq ν] in
theorem completes_attempt : Completes attempt disk true disk := rfl

theorem completes_replace :
    Completes (replace name bytes) disk true (replaced disk name bytes) := rfl

theorem completes_append :
    Completes (append name bytes) disk true (appended disk name bytes) := rfl

/-- Where no operation fails, `p` returns. -/
def Steady {α : Type} (p : Prog (World ν) α) : Prop := ∀ disk, ∃ a disk', Completes p disk a disk'

omit [DecidableEq ν] in
theorem steady_pure : Steady (ν := ν) (pure a) := fun disk => ⟨a, disk, completes_pure⟩

omit [DecidableEq ν] in
theorem Steady.bind (hp : Steady p) (hf : ∀ a, Steady (f a)) : Steady (p >>= f) := by
  intro disk
  obtain ⟨a, disk₁, ha⟩ := hp disk
  obtain ⟨b, disk₂, hb⟩ := hf a disk₁
  exact ⟨b, disk₂, ha.bind hb⟩

omit [DecidableEq ν] in
theorem steady_content : Steady (content name) := fun disk => ⟨disk name, disk, completes_content⟩

omit [DecidableEq ν] in
theorem steady_attempt : Steady (attempt : Prog (World ν) Bool) :=
  fun disk => ⟨true, disk, completes_attempt⟩

theorem steady_replace : Steady (replace name bytes) := fun _ => ⟨true, _, completes_replace⟩

theorem steady_append : Steady (append name bytes) := fun _ => ⟨true, _, completes_append⟩

/-- A replacement that fails changes nothing. -/
theorem returns_replace {kept : Nat} {fates : List Fate} :
    Returns (replace name bytes) ⟨disk, .fails kept :: fates⟩ false ⟨disk, fates⟩ := rfl

/-- An append that fails leaves a part of what it was to append. -/
theorem returns_append {kept : Nat} {fates : List Fate} :
    Returns (append name bytes) ⟨disk, .fails kept :: fates⟩ false
      ⟨appended disk name (bytes.take kept), fates⟩ := rfl

end

/-! ## Files left alone -/

/-- Whatever becomes of `p`, the file stays as it is. -/
def Spares {α : Type} (name : ν) (p : Prog (World ν) α) : Prop :=
  ∀ w, Meets p (fun _ w' => w'.disk name = w.disk name) (fun w' => w'.disk name = w.disk name) w

section

variable {α β : Type} {name other : ν} {bytes : List UInt8} {p : Prog (World ν) α}
  {f : α → Prog (World ν) β}

omit [DecidableEq ν] in
theorem spares_pure {a : α} : Spares name (pure a : Prog (World ν) α) := fun _ => rfl

omit [DecidableEq ν] in
theorem Spares.bind (hp : Spares name p) (hf : ∀ a, Spares name (f a)) : Spares name (p >>= f) := by
  intro w
  rw [meets_bind]
  refine (hp w).mono (fun a w' h => ?_) fun _ => id
  exact (hf a w').mono (fun _ _ h' => h'.trans h) fun _ h' => h'.trans h

omit [DecidableEq ν] in
theorem spares_content : Spares name (content other) := fun _ => rfl

omit [DecidableEq ν] in
theorem spares_attempt : Spares name (attempt : Prog (World ν) Bool) :=
  fun _ => meets_attempt rfl (fun _ => rfl) rfl

theorem spares_replace (h : name ≠ other) : Spares name (replace other bytes) :=
  fun _ => meets_replace (replaced_ne h) (fun _ => rfl) rfl (replaced_ne h)

theorem spares_append (h : name ≠ other) : Spares name (append other bytes) :=
  fun _ => meets_append (appended_ne h) (fun _ _ => appended_ne h) fun _ => appended_ne h

end

end Files
