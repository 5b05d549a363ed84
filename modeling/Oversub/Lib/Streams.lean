import Oversub.Lib.Wire

/-!
# Oversub.Lib.Streams

Byte streams that can be split again.  `Splits w R` says that where two
streams start with what `w` writes, equal streams come from values that `R`
relates and go on equally.  It composes along appending, so a record is
determined by its stream as soon as each of its fields is.
-/

namespace Streams

open Wire

variable {α β : Type}

/-- Equal streams that start with `w` come from values that `R` relates, and go
on equally. -/
def Splits (P : α → Prop) (w : α → List UInt8) (R : α → α → Prop) : Prop :=
  ∀ a b s t, P a → P b → w a ++ s = w b ++ t → R a b ∧ s = t

section

variable {P : α → Prop} {w w' : α → List UInt8} {R R' : α → α → Prop}

theorem Splits.mono (h : Splits P w R) (hR : ∀ a b, R a b → R' a b) : Splits P w R' :=
  fun a b s t ha hb hst => (h a b s t ha hb hst).imp_left (hR a b)

/-- The same with what is known of the values. -/
theorem Splits.imp (h : Splits P w R) (hR : ∀ a b, P a → P b → R a b → R' a b) : Splits P w R' :=
  fun a b s t ha hb hst => (h a b s t ha hb hst).imp_left (hR a b ha hb)

theorem Splits.of_imp {Q : α → Prop} (h : Splits P w R) (hQ : ∀ a, Q a → P a) : Splits Q w R :=
  fun a b s t ha hb => h a b s t (hQ a ha) (hQ b hb)

/-- The stream of a field. -/
theorem Splits.comp {Q : β → Prop} {v : β → List UInt8} {S : β → β → Prop} (h : Splits Q v S) (f : α → β)
    (hf : ∀ a, P a → Q (f a)) : Splits P (fun a => v (f a)) fun a b => S (f a) (f b) :=
  fun a b s t ha hb => h (f a) (f b) s t (hf a ha) (hf b hb)

theorem Splits.append (h : Splits P w R) (h' : Splits P w' R') :
    Splits P (fun a => w a ++ w' a) fun a b => R a b ∧ R' a b := by
  intro a b s t ha hb hst
  rw [List.append_assoc, List.append_assoc] at hst
  obtain ⟨hR, hrest⟩ := h a b _ _ ha hb hst
  obtain ⟨hR', hend⟩ := h' a b _ _ ha hb hrest
  exact ⟨⟨hR, hR'⟩, hend⟩

/-- What comes after a fixed text. -/
theorem Splits.tagged (tag : List UInt8) (h : Splits P w R) : Splits P (fun a => tag ++ w a) R := by
  intro a b s t ha hb hst
  rw [List.append_assoc, List.append_assoc] at hst
  exact h a b s t ha hb (List.append_cancel_left hst)

/-- Whole streams. -/
theorem Splits.whole (h : Splits P w R) {a b : α} (ha : P a) (hb : P b) (hab : w a = w b) : R a b :=
  (h a b [] [] ha hb (by rw [hab])).1

/-- A field of fixed width. -/
theorem splits_of_length {n : Nat} (hlength : ∀ a, (w a).length = n) (hinj : ∀ a b, w a = w b → R a b) :
    Splits P w R := by
  intro a b s t _ _ hst
  obtain ⟨hab, hrest⟩ := List.append_inj hst ((hlength a).trans (hlength b).symm)
  exact ⟨hinj a b hab, hrest⟩

end

/-! ## Fields -/

theorem leBytes32_inj {x y : UInt32} (h : leBytes32 x = leBytes32 y) : x = y := by
  have hread := Reader.reads_u32 x []
  rw [h, Reader.reads_u32 y []] at hread
  exact (congrArg Prod.fst (Option.some.inj hread)).symm

theorem leBytes64_inj {x y : UInt64} (h : leBytes64 x = leBytes64 y) : x = y := by
  have hread := Reader.reads_u64 x []
  rw [h, Reader.reads_u64 y []] at hread
  exact (congrArg Prod.fst (Option.some.inj hread)).symm

section

variable {P : α → Prop}

theorem splits_u32 (f : α → UInt32) : Splits P (fun a => leBytes32 (f a)) fun a b => f a = f b :=
  splits_of_length (fun a => length_leBytes32 (f a)) fun _ _ => leBytes32_inj

theorem splits_u64 (f : α → UInt64) : Splits P (fun a => leBytes64 (f a)) fun a b => f a = f b :=
  splits_of_length (fun a => length_leBytes64 (f a)) fun _ _ => leBytes64_inj

theorem splits_bool (f : α → Bool) :
    Splits P (fun a => [if f a then (1 : UInt8) else 0]) fun a b => f a = f b := by
  refine splits_of_length (fun _ => List.length_singleton) fun a b h => ?_
  have hbyte := List.singleton_inj.mp h
  cases ha : f a <;> cases hb : f b <;> simp_all

/-- A number, as far as 64 bits hold it. -/
theorem splits_nat {f : α → Nat} (hf : ∀ a, P a → f a < 2 ^ 64) :
    Splits P (fun a => leBytes64 (UInt64.ofNat (f a))) fun a b => f a = f b := by
  intro a b s t ha hb hst
  obtain ⟨hword, hrest⟩ := splits_u64 (fun a => UInt64.ofNat (f a)) a b s t ha hb hst
  have hnat := congrArg UInt64.toNat hword
  rw [UInt64.toNat_ofNat', UInt64.toNat_ofNat', Nat.mod_eq_of_lt (hf a ha), Nat.mod_eq_of_lt (hf b hb)] at hnat
  exact ⟨hnat, hrest⟩

/-- A number, as far as 32 bits hold it. -/
theorem splits_nat32 {f : α → Nat} (hf : ∀ a, P a → f a < 2 ^ 32) :
    Splits P (fun a => leBytes32 (UInt32.ofNat (f a))) fun a b => f a = f b := by
  intro a b s t ha hb hst
  obtain ⟨hword, hrest⟩ := splits_u32 (fun a => UInt32.ofNat (f a)) a b s t ha hb hst
  have hnat := congrArg UInt32.toNat hword
  rw [UInt32.toNat_ofNat', UInt32.toNat_ofNat', Nat.mod_eq_of_lt (hf a ha), Nat.mod_eq_of_lt (hf b hb)] at hnat
  exact ⟨hnat, hrest⟩

/-- A value by its number. -/
theorem splits_enum {ε : Type} {idx : ε → Nat} {of : Nat → ε} (hof : ∀ x, of (idx x) = x)
    (hidx : ∀ x, idx x < 2 ^ 32) (f : α → ε) :
    Splits P (fun a => leBytes32 (UInt32.ofNat (idx (f a)))) fun a b => f a = f b :=
  (splits_nat32 fun a _ => hidx (f a)).mono fun a b h => by
    have hvalue := congrArg of h
    rw [hof, hof] at hvalue
    exact hvalue

/-- Bytes of a fixed number. -/
theorem splits_raw {n : Nat} (f : α → List UInt8) (hf : ∀ a, (f a).length = n) :
    Splits P f fun a b => f a = f b := splits_of_length hf fun _ _ h => h

/-- Bytes behind their length. -/
theorem splits_string {f : α → List UInt8} (hf : ∀ a, P a → (f a).length < 2 ^ 64) :
    Splits P (fun a => leBytes64 (UInt64.ofNat (f a).length) ++ f a) fun a b => f a = f b := by
  intro a b s t ha hb hst
  rw [List.append_assoc, List.append_assoc] at hst
  obtain ⟨hlength, hrest⟩ := splits_nat hf a b _ _ ha hb hst
  exact List.append_inj hrest hlength

/-- Items in a row, as many as there are. -/
theorem Splits.flatMap {v : β → List UInt8} {Q : β → Prop} {S : β → β → Prop} (hv : Splits Q v S)
    {xs ys : List β} (hlength : xs.length = ys.length) (hxs : ∀ x ∈ xs, Q x) (hys : ∀ y ∈ ys, Q y)
    {s t : List UInt8} (hst : xs.flatMap v ++ s = ys.flatMap v ++ t) : List.Forall₂ S xs ys ∧ s = t := by
  induction xs generalizing ys with
  | nil =>
      obtain rfl := List.length_eq_zero_iff.mp hlength.symm
      exact ⟨.nil, hst⟩
  | cons x xs ih =>
      cases ys with
      | nil => cases hlength
      | cons y ys =>
          obtain ⟨hx, hxs⟩ := List.forall_mem_cons.mp hxs
          obtain ⟨hy, hys⟩ := List.forall_mem_cons.mp hys
          rw [List.flatMap_cons, List.flatMap_cons, List.append_assoc, List.append_assoc] at hst
          obtain ⟨hxy, hrest⟩ := hv x y _ _ hx hy hst
          obtain ⟨hitems, hend⟩ := ih (Nat.succ.inj hlength) hxs hys hrest
          exact ⟨.cons hxy hitems, hend⟩

/-- Items behind their number. -/
theorem splits_items {l : α → List β} {v : β → List UInt8} {Q : β → Prop} {S : β → β → Prop}
    (hl : ∀ a, P a → (l a).length < 2 ^ 64) (hQ : ∀ a, P a → ∀ x ∈ l a, Q x) (hv : Splits Q v S) :
    Splits P (fun a => leBytes64 (UInt64.ofNat (l a).length) ++ (l a).flatMap v)
      fun a b => List.Forall₂ S (l a) (l b) := by
  intro a b s t ha hb hst
  rw [List.append_assoc, List.append_assoc] at hst
  obtain ⟨hlength, hrest⟩ := splits_nat hl a b _ _ ha hb hst
  exact hv.flatMap hlength (hQ a ha) (hQ b hb) hrest

end

end Streams
