import Mathlib.Algebra.GroupWithZero.Nat
import Mathlib.Data.List.Basic

/-!
# Oversub.Lib.Fips180

SHA-256 as the Secure Hash Standard (FIPS 180-4) states it, on whole messages
of bytes: padding, parsing into blocks, the message schedule `W_t`, sixty-four
rounds a block.  The constants are the first bits of the fractional parts of
square and cube roots of primes, computed here from that description.
-/

namespace Fips180

abbrev Word := BitVec 32

/-- The words `H_0` to `H_7` of a hash value, or the working variables. -/
@[ext] structure Words where
  a : Word
  b : Word
  c : Word
  d : Word
  e : Word
  f : Word
  g : Word
  h : Word

/-! ## Functions (section 4.1.2) -/

def ch (x y z : Word) : Word := (x &&& y) ^^^ (~~~x &&& z)
def maj (x y z : Word) : Word := (x &&& y) ^^^ (x &&& z) ^^^ (y &&& z)

def bigSigma0 (x : Word) : Word := x.rotateRight 2 ^^^ x.rotateRight 13 ^^^ x.rotateRight 22
def bigSigma1 (x : Word) : Word := x.rotateRight 6 ^^^ x.rotateRight 11 ^^^ x.rotateRight 25
def smallSigma0 (x : Word) : Word := x.rotateRight 7 ^^^ x.rotateRight 18 ^^^ x >>> 3
def smallSigma1 (x : Word) : Word := x.rotateRight 17 ^^^ x.rotateRight 19 ^^^ x >>> 10

/-! ## Constants (sections 4.2.2 and 5.3.3) -/

/-- The largest number of `bits` bits, above `r`, whose `k`-th power is at most `n`. -/
def root (k n : Nat) : Nat → Nat → Nat
  | 0, r => r
  | bits + 1, r => if (r + 2 ^ bits) ^ k ≤ n then root k n bits (r + 2 ^ bits) else root k n bits r

/-- The first thirty-two bits of the fractional part of the `k`-th root of `p`. -/
def fraction (k p : Nat) : Word := BitVec.ofNat 32 (root k (p * (2 ^ 32) ^ k) 36 0)

/-- The first sixty-four primes. -/
def primes : List Nat := [
  2, 3, 5, 7, 11, 13, 17, 19, 23, 29, 31, 37, 41, 43, 47, 53, 59, 61, 67, 71, 73, 79, 83, 89, 97, 101, 103,
  107, 109, 113, 127, 131, 137, 139, 149, 151, 157, 163, 167, 173, 179, 181, 191, 193, 197, 199, 211, 223,
  227, 229, 233, 239, 241, 251, 257, 263, 269, 271, 277, 281, 283, 293, 307, 311]

def constant (t : Nat) : Word := fraction 3 (primes.getD t 0)

def initial : Words :=
  ⟨fraction 2 2, fraction 2 3, fraction 2 5, fraction 2 7, fraction 2 11, fraction 2 13, fraction 2 17,
    fraction 2 19⟩

/-! ## Preprocessing (section 5) -/

/-- The number that some bytes are, the most significant first. -/
def ofBytes (bytes : List UInt8) : Nat := bytes.foldl (fun n b => 256 * n + b.toNat) 0

/-- The low `count` bytes of a number, the most significant first. -/
def toBytes (count n : Nat) : List UInt8 :=
  (List.range count).map fun i => UInt8.ofNat (n / 256 ^ (count - 1 - i))

/-- How many zero bytes stand between the one bit and the length. -/
def zeroBytes (length : Nat) : Nat := (119 - length % 64) % 64

def pad (message : List UInt8) : List UInt8 :=
  message ++ 0x80 :: (List.replicate (zeroBytes message.length) 0 ++ toBytes 8 (8 * message.length))

def blocks (bytes : List UInt8) : List (List UInt8) :=
  (List.range (bytes.length / 64)).map fun i => (bytes.drop (64 * i)).take 64

/-! ## Computation (section 6.2) -/

def messageWord (block : List UInt8) (t : Nat) : Word :=
  BitVec.ofNat 32 (ofBytes ((block.drop (4 * t)).take 4))

/-- The message schedule `W_t`. -/
def schedule (block : List UInt8) (t : Nat) : Word :=
  if t < 16 then messageWord block t
  else
    smallSigma1 (schedule block (t - 2)) + schedule block (t - 7) + smallSigma0 (schedule block (t - 15)) +
      schedule block (t - 16)
termination_by t
decreasing_by all_goals omega

def step (k w : Word) (v : Words) : Words :=
  let t1 := v.h + bigSigma1 v.e + ch v.e v.f v.g + k + w
  let t2 := bigSigma0 v.a + maj v.a v.b v.c
  ⟨t1 + t2, v.a, v.b, v.c, v.d + t1, v.e, v.f, v.g⟩

/-- The working variables after the first `t` rounds. -/
def rounds (block : List UInt8) (v : Words) : Nat → Words
  | 0 => v
  | t + 1 => step (constant t) (schedule block t) (rounds block v t)

def Words.add (v w : Words) : Words :=
  ⟨v.a + w.a, v.b + w.b, v.c + w.c, v.d + w.d, v.e + w.e, v.f + w.f, v.g + w.g, v.h + w.h⟩

def compress (v : Words) (block : List UInt8) : Words := v.add (rounds block v 64)

def Words.bytes (v : Words) : List UInt8 :=
  [v.a, v.b, v.c, v.d, v.e, v.f, v.g, v.h].flatMap fun x => toBytes 4 x.toNat

/-- The digest of a message. -/
def sha256 (message : List UInt8) : List UInt8 := ((blocks (pad message)).foldl compress initial).bytes

/-! ## Whole blocks -/

variable {message bytes front block : List UInt8} {t : Nat}

theorem length_toBytes {count n : Nat} : (toBytes count n).length = count := by simp [toBytes]

/-- The zero bytes complete a block, and there are as few of them as that takes. -/
theorem zeroBytes_spec (n : Nat) :
    (n + 1 + zeroBytes n + 8) % 64 = 0 ∧ ∀ z, (n + 1 + z + 8) % 64 = 0 → zeroBytes n ≤ z := by
  unfold zeroBytes
  constructor
  · omega
  · intro z hz
    omega

theorem length_pad : (pad message).length = message.length + 1 + zeroBytes message.length + 8 := by
  unfold pad
  simp only [List.length_append, List.length_cons, List.length_replicate, length_toBytes]
  omega

theorem blocks_nil : blocks [] = [] := rfl

theorem blocks_append (h : front.length = 64) : blocks (front ++ bytes) = front :: blocks bytes := by
  have hcount : (front ++ bytes).length / 64 = bytes.length / 64 + 1 := by
    rw [List.length_append, h]
    omega
  have hrest (i : Nat) : (front ++ bytes).drop (64 * (i + 1)) = bytes.drop (64 * i) := by
    have hi : 64 * (i + 1) = front.length + 64 * i := by omega
    rw [hi, List.drop_append, List.drop_eq_nil_of_le (Nat.le_add_right _ _), List.nil_append,
      Nat.add_sub_cancel_left]
  rw [blocks, hcount, List.range_succ_eq_map, List.map_cons, List.map_map]
  congr 1
  · rw [Nat.mul_zero, List.drop_zero, ← h, List.take_left]
  · exact List.map_congr_left fun i _ => congrArg (List.take 64) (hrest i)

theorem schedule_input (h : t < 16) : schedule block t = messageWord block t := by
  rw [schedule, if_pos h]

theorem schedule_recurrence (h : 16 ≤ t) : schedule block t =
    smallSigma1 (schedule block (t - 2)) + schedule block (t - 7) + smallSigma0 (schedule block (t - 15)) +
      schedule block (t - 16) := by
  rw [schedule, if_neg (by omega)]

end Fips180
