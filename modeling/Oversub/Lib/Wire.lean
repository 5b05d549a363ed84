import Mathlib.Data.BitVec

/-!
# Oversub.Lib.Wire

Little-endian readers over byte strings.  A reader takes what it needs from
the front and passes on the rest; every read is bounded by what is left.

`Reads r bytes a` says that `r` consumes exactly `bytes` and returns `a`,
whatever follows.  It composes along `>>=`, so the round trip of a record is
the round trips of its fields in order.
-/

namespace Wire

/-! ## Words as bytes -/

/-- The four bytes of a word, least significant first. -/
def leBytes32 (x : UInt32) : List UInt8 :=
  [x.toUInt8, (x >>> 8).toUInt8, (x >>> 16).toUInt8, (x >>> 24).toUInt8]

/-- The eight bytes of a word, least significant first. -/
def leBytes64 (x : UInt64) : List UInt8 :=
  [x.toUInt8, (x >>> 8).toUInt8, (x >>> 16).toUInt8, (x >>> 24).toUInt8,
   (x >>> 32).toUInt8, (x >>> 40).toUInt8, (x >>> 48).toUInt8, (x >>> 56).toUInt8]

def ofLeBytes32 (b₀ b₁ b₂ b₃ : UInt8) : UInt32 :=
  b₀.toUInt32 ||| (b₁.toUInt32 <<< 8) ||| (b₂.toUInt32 <<< 16) ||| (b₃.toUInt32 <<< 24)

def ofLeBytes64 (b₀ b₁ b₂ b₃ b₄ b₅ b₆ b₇ : UInt8) : UInt64 :=
  b₀.toUInt64 ||| (b₁.toUInt64 <<< 8) ||| (b₂.toUInt64 <<< 16) ||| (b₃.toUInt64 <<< 24) |||
    (b₄.toUInt64 <<< 32) ||| (b₅.toUInt64 <<< 40) ||| (b₆.toUInt64 <<< 48) ||| (b₇.toUInt64 <<< 56)

@[simp] theorem length_leBytes32 (x : UInt32) : (leBytes32 x).length = 4 := rfl
@[simp] theorem length_leBytes64 (x : UInt64) : (leBytes64 x).length = 8 := rfl

theorem ofLeBytes32_bytes (x : UInt32) :
    ofLeBytes32 x.toUInt8 (x >>> 8).toUInt8 (x >>> 16).toUInt8 (x >>> 24).toUInt8 = x := by
  refine UInt32.toBitVec_inj.mp (BitVec.eq_of_getLsbD_eq fun i hi => ?_)
  simp only [ofLeBytes32, UInt32.toBitVec_or, UInt32.toBitVec_shiftLeft, UInt8.toBitVec_toUInt32,
    UInt32.toBitVec_toUInt8, UInt32.toBitVec_shiftRight, BitVec.getLsbD_or, BitVec.getLsbD_setWidth,
    BitVec.shiftLeft_eq', BitVec.getLsbD_shiftLeft, BitVec.ushiftRight_eq',
    BitVec.getLsbD_ushiftRight, UInt32.toBitVec_ofNat]
  grind

theorem ofLeBytes64_bytes (x : UInt64) :
    ofLeBytes64 x.toUInt8 (x >>> 8).toUInt8 (x >>> 16).toUInt8 (x >>> 24).toUInt8
      (x >>> 32).toUInt8 (x >>> 40).toUInt8 (x >>> 48).toUInt8 (x >>> 56).toUInt8 = x := by
  refine UInt64.toBitVec_inj.mp (BitVec.eq_of_getLsbD_eq fun i hi => ?_)
  simp only [ofLeBytes64, UInt64.toBitVec_or, UInt64.toBitVec_shiftLeft, UInt8.toBitVec_toUInt64,
    UInt64.toBitVec_toUInt8, UInt64.toBitVec_shiftRight, BitVec.getLsbD_or, BitVec.getLsbD_setWidth,
    BitVec.shiftLeft_eq', BitVec.getLsbD_shiftLeft, BitVec.ushiftRight_eq',
    BitVec.getLsbD_ushiftRight, UInt64.toBitVec_ofNat]
  grind

/-! ## Readers -/

/-- Consumes the front of a byte string, or fails. -/
def Reader (α : Type) : Type := List UInt8 → Option (α × List UInt8)

namespace Reader

instance : Monad Reader where
  pure a := fun bytes => some (a, bytes)
  bind r f := fun bytes => (r bytes).bind fun p => f p.1 p.2

def u8 : Reader UInt8
  | b :: rest => some (b, rest)
  | _ => none

def u32 : Reader UInt32
  | b₀ :: b₁ :: b₂ :: b₃ :: rest => some (ofLeBytes32 b₀ b₁ b₂ b₃, rest)
  | _ => none

def u64 : Reader UInt64
  | b₀ :: b₁ :: b₂ :: b₃ :: b₄ :: b₅ :: b₆ :: b₇ :: rest =>
      some (ofLeBytes64 b₀ b₁ b₂ b₃ b₄ b₅ b₆ b₇, rest)
  | _ => none

/-- Any byte but zero reads as true. -/
def boolean : Reader Bool := do
  let b ← u8
  pure (b != 0)

/-- The next `n` bytes. -/
def raw (n : Nat) : Reader {bytes : List UInt8 // bytes.length = n} := fun bytes =>
  if h : n ≤ bytes.length then
    some (⟨bytes.take n, List.length_take_of_le h⟩, bytes.drop n)
  else none

/-- At most `bound` bytes, behind their length. -/
def string (bound : Nat) : Reader (List UInt8) := fun bytes =>
  match u32 bytes with
  | none => none
  | some (length, rest) =>
      if bound < length.toNat then none
      else if rest.length < length.toNat then none
      else some (rest.take length.toNat, rest.drop length.toNat)

/-- Fails unless `c` holds. -/
def require (c : Prop) [Decidable c] : Reader Unit := fun bytes =>
  if c then some ((), bytes) else none

/-- `n` readings in a row. -/
def times {α : Type} (r : Reader α) : Nat → Reader (List α)
  | 0 => pure []
  | n + 1 => do
      let a ← r
      let as ← times r n
      pure (a :: as)

/-- The reading of a whole byte string: nothing may be left. -/
def whole {α : Type} (r : Reader α) (bytes : List UInt8) : Option α :=
  match r bytes with
  | some (a, []) => some a
  | _ => none

/-! ## What a reader reads -/

/-- `r` consumes exactly `bytes` and returns `a`. -/
def Reads {α : Type} (r : Reader α) (bytes : List UInt8) (a : α) : Prop :=
  ∀ rest, r (bytes ++ rest) = some (a, rest)

section

variable {α β : Type} {r : Reader α} {f : α → Reader β} {a : α} {b : β} {bytes bytes' : List UInt8}

theorem reads_pure : Reads (pure a) [] a := fun _ => rfl

theorem Reads.bind (h : r.Reads bytes a) (hf : (f a).Reads bytes' b) :
    Reads (r >>= f) (bytes ++ bytes') b := by
  intro rest
  show (r (bytes ++ bytes' ++ rest)).bind (fun p => f p.1 p.2) = _
  rw [List.append_assoc, h, Option.bind_some, hf]

/-- The last step of a record. -/
theorem Reads.map {g : α → β} (h : r.Reads bytes a) :
    Reads (r >>= fun x => pure (g x)) bytes (g a) := by
  have hbind := h.bind (f := fun x => pure (g x)) reads_pure
  rwa [List.append_nil] at hbind

section

variable {bytes rest : List UInt8}

theorem length_u32 {x : UInt32} (h : u32 bytes = some (x, rest)) :
    bytes.length = rest.length + 4 := by
  unfold u32 at h
  split at h
  · cases h
    rfl
  · cases h

theorem length_u64 {x : UInt64} (h : u64 bytes = some (x, rest)) :
    bytes.length = rest.length + 8 := by
  unfold u64 at h
  split at h
  · cases h
    rfl
  · cases h

end

theorem reads_u8 (x : UInt8) : u8.Reads [x] x := fun _ => rfl

theorem reads_u32 (x : UInt32) : u32.Reads (leBytes32 x) x := by
  intro rest
  show some (ofLeBytes32 _ _ _ _, rest) = _
  rw [ofLeBytes32_bytes]

theorem reads_u64 (x : UInt64) : u64.Reads (leBytes64 x) x := by
  intro rest
  show some (ofLeBytes64 _ _ _ _ _ _ _ _, rest) = _
  rw [ofLeBytes64_bytes]

theorem reads_boolean (x : Bool) : boolean.Reads [if x then 1 else 0] x := by
  cases x <;> exact fun _ => rfl

theorem reads_raw {n : Nat} (x : {bytes : List UInt8 // bytes.length = n}) : (raw n).Reads x.1 x := by
  obtain ⟨x, rfl⟩ := x
  intro rest
  have hle : x.length ≤ (x ++ rest).length := by
    rw [List.length_append]
    exact Nat.le_add_right _ _
  simp only [raw, dif_pos hle, List.take_left, List.drop_left]

theorem reads_require {c : Prop} [Decidable c] (h : c) : (require c).Reads [] () := by
  intro rest
  rw [require, if_pos h]
  rfl

theorem reads_times {w : α → List UInt8} {l : List α} (h : ∀ a ∈ l, r.Reads (w a) a) :
    (times r l.length).Reads (l.flatMap w) l := by
  induction l with
  | nil => exact reads_pure
  | cons a l ih =>
      obtain ⟨ha, hl⟩ := List.forall_mem_cons.mp h
      rw [List.flatMap_cons]
      exact ha.bind (ih hl).map

theorem reads_string {bound : Nat} (hb : bound < 2 ^ 32) {x : List UInt8} (hx : x.length ≤ bound) :
    (string bound).Reads (leBytes32 (UInt32.ofNat x.length) ++ x) x := by
  intro rest
  have hlen : (UInt32.ofNat x.length).toNat = x.length :=
    Nat.mod_eq_of_lt (Nat.lt_of_le_of_lt hx hb)
  have hle : ¬ (x ++ rest).length < x.length := by
    rw [List.length_append]
    omega
  rw [string, List.append_assoc, reads_u32]
  simp only [hlen, if_neg (Nat.not_lt.mpr hx), if_neg hle, List.take_left, List.drop_left]

/-- Reading everything that was written. -/
theorem Reads.whole (h : r.Reads bytes a) : r.whole bytes = some a := by
  have hread := h []
  rw [List.append_nil] at hread
  rw [Reader.whole, hread]

end

end Reader

/-! ## Decoders -/

/-- A reader that says why it fails. -/
def Decoder (ε α : Type) : Type := List UInt8 → Except ε (α × List UInt8)

namespace Decoder

variable {ε α β : Type}

instance : Monad (Decoder ε) where
  pure a := fun bytes => .ok (a, bytes)
  bind d f := fun bytes =>
    match d bytes with
    | .ok (a, rest) => f a rest
    | .error e => .error e

def fail (e : ε) : Decoder ε α := fun _ => .error e

/-- Fails with `e` unless `c` holds. -/
def check (c : Prop) [Decidable c] (e : ε) : Decoder ε Unit := fun bytes =>
  if c then .ok ((), bytes) else .error e

/-- A reading whose failure is `e`. -/
def ofReader (r : Reader α) (e : ε) : Decoder ε α := fun bytes =>
  match r bytes with
  | some p => .ok p
  | none => .error e

/-- The result of a computation that reads nothing. -/
def ofExcept (x : Except ε α) : Decoder ε α := fun bytes =>
  match x with
  | .ok a => .ok (a, bytes)
  | .error e => .error e

/-- Fails with `e` unless `n` bytes are left. -/
def need (n : Nat) (e : ε) : Decoder ε Unit := fun bytes =>
  if n ≤ bytes.length then .ok ((), bytes) else .error e

/-- `n` decodings in a row. -/
def times (d : Decoder ε α) : Nat → Decoder ε (List α)
  | 0 => pure []
  | n + 1 => do
      let a ← d
      let as ← times d n
      pure (a :: as)

/-- The decoding of a whole byte string: `e` if anything is left. -/
def whole (d : Decoder ε α) (e : ε) (bytes : List UInt8) : Except ε α :=
  match d bytes with
  | .ok (a, []) => .ok a
  | .ok _ => .error e
  | .error e' => .error e'

/-! ## What a decoder decodes -/

/-- If `P`, then `d` consumes exactly `bytes` and returns `a`; otherwise it
fails. -/
def Decodes (d : Decoder ε α) (bytes : List UInt8) (a : α) (P : Prop) : Prop :=
  ∀ rest p, d (bytes ++ rest) = .ok p ↔ P ∧ p = (a, rest)

section

variable {d : Decoder ε α} {f : α → Decoder ε β} {a a' : α} {b : β} {e e' : ε} {P Q : Prop}
  {bytes bytes' : List UInt8}

theorem bind_eq_ok {input : List UInt8} {q : β × List UInt8} :
    (d >>= f) input = .ok q ↔ ∃ p, d input = .ok p ∧ f p.1 p.2 = .ok q := by
  have hbind : (d >>= f) input = match d input with
    | .ok (a, rest) => f a rest
    | .error e => .error e := rfl
  rw [hbind]
  cases d input with
  | error e => simp
  | ok p => simp

theorem decodes_pure : Decodes (pure a : Decoder ε α) [] a True := by
  intro rest p
  have hpure : (pure a : Decoder ε α) ([] ++ rest) = .ok (a, rest) := rfl
  rw [hpure]
  simp [eq_comm]

theorem Decodes.bind (h : d.Decodes bytes a P) (hf : (f a).Decodes bytes' b Q) :
    Decodes (d >>= f) (bytes ++ bytes') b (P ∧ Q) := by
  intro rest q
  rw [bind_eq_ok, List.append_assoc]
  constructor
  · rintro ⟨p, hp, hq⟩
    obtain ⟨hP, rfl⟩ := (h _ _).mp hp
    obtain ⟨hQ, rfl⟩ := (hf _ _).mp hq
    exact ⟨⟨hP, hQ⟩, rfl⟩
  · rintro ⟨⟨hP, hQ⟩, rfl⟩
    exact ⟨_, (h _ _).mpr ⟨hP, rfl⟩, (hf _ _).mpr ⟨hQ, rfl⟩⟩

theorem Decodes.congr (h : d.Decodes bytes a P) (hPQ : P ↔ Q) : d.Decodes bytes a Q := by
  intro rest p
  rw [h rest p, hPQ]

theorem decodes_check {c : Prop} [Decidable c] : Decodes (check c e) [] () c := by
  intro rest p
  unfold check
  split <;> simp_all [eq_comm]

/-- What follows a check may use it. -/
theorem Decodes.check_bind {c : Prop} [Decidable c] {g : Unit → Decoder ε β}
    (hg : c → (g ()).Decodes bytes b Q) : Decodes (check c e >>= g) bytes b (c ∧ Q) := by
  intro rest q
  by_cases hc : c
  · exact (decodes_check.bind (hg hc)) rest q
  · rw [bind_eq_ok, check, if_neg hc]
    simp [hc]

theorem decodes_ofReader {r : Reader α} (h : r.Reads bytes a) :
    Decodes (ofReader r e) bytes a True := by
  intro rest p
  rw [ofReader, h rest]
  simp [eq_comm]

theorem decodes_ofExcept {x : Except ε α} (h : x = .ok a) : Decodes (ofExcept x) [] a True := by
  intro rest p
  rw [h]
  simp [ofExcept, eq_comm]

/-- Taking what a check has found to be left. -/
theorem Decodes.block {x : List UInt8} {n : Nat} (hn : x.length = n)
    {g : {bytes : List UInt8 // bytes.length = n} → Decoder ε β}
    (hg : (g ⟨x, hn⟩).Decodes bytes b Q) :
    Decodes (need n e >>= fun _ => ofReader (Reader.raw n) e' >>= g) (x ++ bytes) b Q := by
  have hraw := (decodes_ofReader (e := e') (Reader.reads_raw ⟨x, hn⟩)).bind hg
  intro rest p
  have hneed : need n e (x ++ bytes ++ rest) = .ok ((), x ++ bytes ++ rest) := by
    rw [need, if_pos]
    simp only [List.length_append, hn]
    omega
  rw [bind_eq_ok]
  simp only [hneed, Except.ok.injEq, exists_eq_left']
  exact (hraw.congr (true_and _).to_iff) rest p

theorem decodes_times {w : α → List UInt8} {R : α → Prop} {l : List α}
    (h : ∀ a ∈ l, d.Decodes (w a) a (R a)) :
    (times d l.length).Decodes (l.flatMap w) l (∀ a ∈ l, R a) := by
  induction l with
  | nil => exact decodes_pure.congr (by simp)
  | cons a l ih =>
      obtain ⟨ha, hl⟩ := List.forall_mem_cons.mp h
      have hrest := (ih hl).bind (f := fun as => pure (a :: as)) decodes_pure
      rw [List.append_nil] at hrest
      rw [List.flatMap_cons]
      exact (ha.bind hrest).congr (by simp)

theorem Decodes.whole (h : d.Decodes bytes a P) :
    d.whole e bytes = .ok a' ↔ P ∧ a' = a := by
  have hd := h []
  rw [List.append_nil] at hd
  unfold Decoder.whole
  by_cases hP : P
  · rw [(hd (a, [])).mpr ⟨hP, rfl⟩]
    simp [hP, eq_comm]
  · split
    next hp => exact absurd ((hd _).mp hp).1 hP
    · simp [hP]
    · simp [hP]

end

end Decoder

end Wire
