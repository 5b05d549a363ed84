import Oversub.Lib.Wire

/-!
# Oversub.Digest

SHA-256 digests and canonical hashing (`digest.hpp`, `digest.cpp`).

`Sha256` is the incremental hasher of the source: eight state words, the bit
count and the bytes of the current block.  `CanonicalHasher` feeds it
fixed-width little-endian fields, so a digest is a function of the byte
stream of those fields.
-/

namespace Oversub

open Wire

/-! ## Digests -/

structure Digest where
  bytes : List UInt8
  length_bytes : bytes.length = 32
  deriving DecidableEq

namespace Digest

def zero : Digest := ⟨List.replicate 32 0, List.length_replicate⟩

instance : Inhabited Digest := ⟨zero⟩

def isZero (d : Digest) : Bool := d.bytes.all (· == 0)

end Digest

def readDigest : Reader Digest := do
  let bytes ← Reader.raw 32
  pure ⟨bytes.1, bytes.2⟩

theorem reads_digest (d : Digest) : readDigest.Reads d.bytes d :=
  Reader.Reads.map (Reader.reads_raw (⟨d.bytes, d.length_bytes⟩ : {bytes : List UInt8 // bytes.length = 32}))

/-! ## Fixed-width bytes -/

/-- The four bytes of a word, most significant first. -/
def beBytes32 (x : UInt32) : List UInt8 :=
  [(x >>> 24).toUInt8, (x >>> 16).toUInt8, (x >>> 8).toUInt8, x.toUInt8]

/-- The eight bytes of a word, most significant first. -/
def beBytes64 (x : UInt64) : List UInt8 :=
  [(x >>> 56).toUInt8, (x >>> 48).toUInt8, (x >>> 40).toUInt8, (x >>> 32).toUInt8,
   (x >>> 24).toUInt8, (x >>> 16).toUInt8, (x >>> 8).toUInt8, x.toUInt8]

/-- The bytes of a text of the program. -/
def textBytes (s : String) : List UInt8 := s.toUTF8.data.toList

/-! ## SHA-256 -/

def kK : List UInt32 := [
  0x428a2f98, 0x71374491, 0xb5c0fbcf, 0xe9b5dba5, 0x3956c25b, 0x59f111f1, 0x923f82a4, 0xab1c5ed5,
  0xd807aa98, 0x12835b01, 0x243185be, 0x550c7dc3, 0x72be5d74, 0x80deb1fe, 0x9bdc06a7, 0xc19bf174,
  0xe49b69c1, 0xefbe4786, 0x0fc19dc6, 0x240ca1cc, 0x2de92c6f, 0x4a7484aa, 0x5cb0a9dc, 0x76f988da,
  0x983e5152, 0xa831c66d, 0xb00327c8, 0xbf597fc7, 0xc6e00bf3, 0xd5a79147, 0x06ca6351, 0x14292967,
  0x27b70a85, 0x2e1b2138, 0x4d2c6dfc, 0x53380d13, 0x650a7354, 0x766a0abb, 0x81c2c92e, 0x92722c85,
  0xa2bfe8a1, 0xa81a664b, 0xc24b8b70, 0xc76c51a3, 0xd192e819, 0xd6990624, 0xf40e3585, 0x106aa070,
  0x19a4c116, 0x1e376c08, 0x2748774c, 0x34b0bcb5, 0x391c0cb3, 0x4ed8aa4a, 0x5b9cca4f, 0x682e6ff3,
  0x748f82ee, 0x78a5636f, 0x84c87814, 0x8cc70208, 0x90befffa, 0xa4506ceb, 0xbef9a3f7, 0xc67178f2]

def rotr (x n : UInt32) : UInt32 := (x >>> n) ||| (x <<< (32 - n))

/-- The eight working words `a` to `h`. -/
structure ShaWords where
  a : UInt32
  b : UInt32
  c : UInt32
  d : UInt32
  e : UInt32
  f : UInt32
  g : UInt32
  h : UInt32
  deriving DecidableEq

structure Sha256 where
  state : ShaWords
  bitLength : UInt64
  buffer : List UInt8    -- the first `buffer_len_` bytes of `buffer_`
  finished : Bool
  deriving DecidableEq

namespace Sha256

def init : Sha256 where
  state := ⟨0x6a09e667, 0xbb67ae85, 0x3c6ef372, 0xa54ff53a,
            0x510e527f, 0x9b05688c, 0x1f83d9ab, 0x5be0cd19⟩
  bitLength := 0
  buffer := []
  finished := false

/-- The big-endian words of a block. -/
def blockWords : List UInt8 → List UInt32
  | x :: y :: z :: w :: rest =>
      ((x.toUInt32 <<< 24) ||| (y.toUInt32 <<< 16) ||| (z.toUInt32 <<< 8) ||| w.toUInt32) ::
        blockWords rest
  | _ => []

/-- The next `n` words of the message schedule. -/
def extendSchedule : Nat → List UInt32 → List UInt32
  | 0, w => w
  | n + 1, w =>
      let i := w.length
      let w15 := w.getD (i - 15) 0
      let w2 := w.getD (i - 2) 0
      let s0 := rotr w15 7 ^^^ rotr w15 18 ^^^ (w15 >>> 3)
      let s1 := rotr w2 17 ^^^ rotr w2 19 ^^^ (w2 >>> 10)
      extendSchedule n (w ++ [w.getD (i - 16) 0 + s0 + w.getD (i - 7) 0 + s1])

/-- One round, with its constant and its schedule word. -/
def round (v : ShaWords) (kw : UInt32 × UInt32) : ShaWords :=
  let s1 := rotr v.e 6 ^^^ rotr v.e 11 ^^^ rotr v.e 25
  let ch := (v.e &&& v.f) ^^^ (~~~v.e &&& v.g)
  let temp1 := v.h + s1 + ch + kw.1 + kw.2
  let s0 := rotr v.a 2 ^^^ rotr v.a 13 ^^^ rotr v.a 22
  let maj := (v.a &&& v.b) ^^^ (v.a &&& v.c) ^^^ (v.b &&& v.c)
  let temp2 := s0 + maj
  { a := temp1 + temp2, b := v.a, c := v.b, d := v.c,
    e := v.d + temp1, f := v.e, g := v.f, h := v.g }

def transform (s : ShaWords) (block : List UInt8) : ShaWords :=
  let w := extendSchedule 48 (blockWords block)
  let v := (kK.zip w).foldl round s
  { a := s.a + v.a, b := s.b + v.b, c := s.c + v.c, d := s.d + v.d,
    e := s.e + v.e, f := s.f + v.f, g := s.g + v.g, h := s.h + v.h }

/-- The copy loop of `update`: fill the block, transform it when it is full. -/
def updateLoop : Nat → Sha256 → List UInt8 → Sha256
  | 0, s, _ => s
  | fuel + 1, s, p =>
      if p = [] then s
      else
        let space := 64 - s.buffer.length
        let take := if p.length < space then p.length else space
        let buffer := s.buffer ++ p.take take
        let s := if buffer.length = 64 then
            { s with state := transform s.state buffer, buffer := [] }
          else { s with buffer }
        updateLoop fuel s (p.drop take)

def update (s : Sha256) (data : List UInt8) : Sha256 :=
  if s.finished || data.isEmpty then s
  else
    updateLoop data.length
      { s with bitLength := s.bitLength + UInt64.ofNat data.length * 8 } data

/-- Appends one byte of padding. -/
def padByte (s : Sha256) (x : UInt8) : Sha256 :=
  let buffer := s.buffer ++ [x]
  if buffer.length = 64 then { s with state := transform s.state buffer, buffer := [] }
  else { s with buffer }

/-- Zero bytes until 56 bytes of the block are used; 64 steps always suffice. -/
def padZeros : Nat → Sha256 → Sha256
  | 0, s => s
  | fuel + 1, s => if s.buffer.length = 56 then s else padZeros fuel (s.padByte 0)

def wordsDigest (v : ShaWords) : Digest where
  bytes := beBytes32 v.a ++ beBytes32 v.b ++ beBytes32 v.c ++ beBytes32 v.d ++
    beBytes32 v.e ++ beBytes32 v.f ++ beBytes32 v.g ++ beBytes32 v.h
  length_bytes := rfl

def finish (s : Sha256) : Digest :=
  if s.finished then Digest.zero
  else
    let padded := padZeros 64 (s.padByte 0x80)
    wordsDigest (transform padded.state (padded.buffer ++ beBytes64 s.bitLength))

end Sha256

def sha256 (data : List UInt8) : Digest := (Sha256.init.update data).finish

/-! ## Canonical hasher -/

structure CanonicalHasher where
  sha : Sha256 := Sha256.init
  deriving DecidableEq

namespace CanonicalHasher

def addRaw (h : CanonicalHasher) (bytes : List UInt8) : CanonicalHasher := ⟨h.sha.update bytes⟩

def addU8 (h : CanonicalHasher) (x : UInt8) : CanonicalHasher := h.addRaw [x]
def addU32 (h : CanonicalHasher) (x : UInt32) : CanonicalHasher := h.addRaw (leBytes32 x)
def addU64 (h : CanonicalHasher) (x : UInt64) : CanonicalHasher := h.addRaw (leBytes64 x)
def addBool (h : CanonicalHasher) (b : Bool) : CanonicalHasher := h.addU8 (if b then 1 else 0)
def addDigest (h : CanonicalHasher) (d : Digest) : CanonicalHasher := h.addRaw d.bytes

/-- Length-prefixed bytes. -/
def addString (h : CanonicalHasher) (bytes : List UInt8) : CanonicalHasher :=
  (h.addU64 (UInt64.ofNat bytes.length)).addRaw bytes

/-- A 64-bit count of the source, as the naturals of the engine hold it. -/
def addNat (h : CanonicalHasher) (n : Nat) : CanonicalHasher := h.addU64 (UInt64.ofNat n)

def addText (h : CanonicalHasher) (s : String) : CanonicalHasher := h.addString (textBytes s)

def digest (h : CanonicalHasher) : Digest := h.sha.finish

/-- The exclusive or of the digest's four big-endian words. -/
def fold64 (h : CanonicalHasher) : UInt64 :=
  let word (bytes : List UInt8) : UInt64 := bytes.foldl (fun w b => (w <<< 8) ||| b.toUInt64) 0
  let d := h.sha.finish.bytes
  word (d.take 8) ^^^ word ((d.drop 8).take 8) ^^^ word ((d.drop 16).take 8) ^^^
    word ((d.drop 24).take 8)

end CanonicalHasher

end Oversub
