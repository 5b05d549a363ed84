import Mathlib.Data.Nat.Bitwise
import Oversub.Canonical
import Oversub.Lib.Fips180

/-!
# Oversub.Hashing

The incremental hasher against SHA-256 of the whole message (`digest.cpp`).
The tables and the arithmetic of `transform` are those of the standard, so one
block is compressed as it prescribes; the padding loop of `finish` appends the
bytes that the standard appends; and what was added in pieces is taken byte by
byte (`Oversub.Canonical`), so the blocks are those of the padded message.
-/

namespace Oversub

open Fips180

/-- The words of the standard. -/
def ShaWords.words (v : ShaWords) : Fips180.Words :=
  ⟨v.a.toBitVec, v.b.toBitVec, v.c.toBitVec, v.d.toBitVec, v.e.toBitVec, v.f.toBitVec, v.g.toBitVec, v.h.toBitVec⟩

namespace Sha256

/-! ## One block -/

section

variable {block : List UInt8} {w : List UInt32} {v : ShaWords} {t n : Nat}

theorem kK_eq : kK.map UInt32.toBitVec = (List.range 64).map constant := by decide +kernel

theorem init_words : init.state.words = initial := by
  unfold initial
  congr 1

/-- A round is a step of the standard. -/
theorem round_words (v : ShaWords) (k x : UInt32) :
    (round v (k, x)).words = step k.toBitVec x.toBitVec v.words := rfl

/-- The bytes of a message word, put together as `transform` does. -/
theorem toNat_beWord (x y z u : UInt8) :
    ((x.toUInt32 <<< 24) ||| (y.toUInt32 <<< 16) ||| (z.toUInt32 <<< 8) ||| u.toUInt32).toNat =
      ofBytes [x, y, z, u] := by
  have hx := x.toNat_lt
  have hy := y.toNat_lt
  have hz := z.toNat_lt
  have hu := u.toNat_lt
  have hor (a b i : Nat) (h : b < 2 ^ i) : (a * 2 ^ i) ||| b = a * 2 ^ i + b := by
    rw [Nat.mul_comm, ← Nat.two_pow_add_eq_or_of_lt h]
  have h24 : (x.toUInt32 <<< 24).toNat = x.toNat * 2 ^ 24 := by
    have hval : (24 : UInt32).toNat % 32 = 24 := rfl
    rw [UInt32.toNat_shiftLeft, Nat.shiftLeft_eq, hval, UInt8.toNat_toUInt32]
    omega
  have h16 : (y.toUInt32 <<< 16).toNat = y.toNat * 2 ^ 16 := by
    have hval : (16 : UInt32).toNat % 32 = 16 := rfl
    rw [UInt32.toNat_shiftLeft, Nat.shiftLeft_eq, hval, UInt8.toNat_toUInt32]
    omega
  have h8 : (z.toUInt32 <<< 8).toNat = z.toNat * 2 ^ 8 := by
    have hval : (8 : UInt32).toNat % 32 = 8 := rfl
    rw [UInt32.toNat_shiftLeft, Nat.shiftLeft_eq, hval, UInt8.toNat_toUInt32]
    omega
  have hxy : x.toNat * 2 ^ 24 ||| y.toNat * 2 ^ 16 = (256 * x.toNat + y.toNat) * 2 ^ 16 := by
    rw [hor _ _ _ (by omega)]
    omega
  have hxyz : (256 * x.toNat + y.toNat) * 2 ^ 16 ||| z.toNat * 2 ^ 8 =
      (256 * (256 * x.toNat + y.toNat) + z.toNat) * 2 ^ 8 := by
    rw [hor _ _ _ (by omega)]
    omega
  rw [UInt32.toNat_or, UInt32.toNat_or, UInt32.toNat_or, h24, h16, h8, UInt8.toNat_toUInt32, hxy, hxyz,
    hor _ _ _ (by omega)]
  simp only [ofBytes, List.foldl_cons, List.foldl_nil]
  omega

theorem exists_word (h : 4 ≤ block.length) : ∃ x y z u rest, block = x :: y :: z :: u :: rest :=
  match block, h with
  | x :: y :: z :: u :: rest, _ => ⟨x, y, z, u, rest, rfl⟩

theorem length_blockWords (h : block.length = 4 * n) : (blockWords block).length = n := by
  induction n generalizing block with
  | zero =>
      obtain rfl := List.length_eq_zero_iff.mp h
      rfl
  | succ n ih =>
      obtain ⟨x, y, z, u, rest, rfl⟩ := @exists_word block (by omega)
      simp only [List.length_cons] at h
      rw [blockWords, List.length_cons, ih (by omega)]

theorem blockWords_word (h : 4 * t + 4 ≤ block.length) :
    ((blockWords block).getD t 0).toBitVec = messageWord block t := by
  induction t generalizing block with
  | zero =>
      obtain ⟨x, y, z, u, rest, rfl⟩ := @exists_word block (by omega)
      apply BitVec.eq_of_toNat_eq
      have hword := toNat_beWord x y z u
      have hlt := ((x.toUInt32 <<< 24) ||| (y.toUInt32 <<< 16) ||| (z.toUInt32 <<< 8) ||| u.toUInt32).toNat_lt
      rw [messageWord, BitVec.toNat_ofNat]
      rw [hword] at hlt
      exact hword.trans (Nat.mod_eq_of_lt hlt).symm
  | succ t ih =>
      obtain ⟨x, y, z, u, rest, rfl⟩ := @exists_word block (by omega)
      simp only [List.length_cons] at h
      have hrest : messageWord (x :: y :: z :: u :: rest) (t + 1) = messageWord rest t := by
        unfold messageWord
        have hmul : 4 * (t + 1) = 4 * t + 1 + 1 + 1 + 1 := by omega
        rw [hmul]
        rfl
      rw [blockWords, List.getD_cons_succ, ih (by omega), hrest]

/-! ### The message schedule -/

/-- The word that `extendSchedule` appends. -/
def nextWord (w : List UInt32) : UInt32 :=
  let w15 := w.getD (w.length - 15) 0
  let w2 := w.getD (w.length - 2) 0
  let s0 := rotr w15 7 ^^^ rotr w15 18 ^^^ (w15 >>> 3)
  let s1 := rotr w2 17 ^^^ rotr w2 19 ^^^ (w2 >>> 10)
  w.getD (w.length - 16) 0 + s0 + w.getD (w.length - 7) 0 + s1

theorem extendSchedule_succ : extendSchedule (n + 1) w = extendSchedule n (w ++ [nextWord w]) := rfl

/-- The words so far are those of the standard's schedule. -/
structure Scheduled (block : List UInt8) (w : List UInt32) : Prop where
  length : 16 ≤ w.length
  word : ∀ t < w.length, (w.getD t 0).toBitVec = schedule block t

theorem Scheduled.nextWord (h : Scheduled block w) : (nextWord w).toBitVec = schedule block w.length := by
  have hlength := h.length
  have hsum : (Sha256.nextWord w).toBitVec =
      (w.getD (w.length - 16) 0).toBitVec + smallSigma0 (w.getD (w.length - 15) 0).toBitVec +
        (w.getD (w.length - 7) 0).toBitVec + smallSigma1 (w.getD (w.length - 2) 0).toBitVec := rfl
  rw [hsum, h.word _ (by omega), h.word _ (by omega), h.word _ (by omega), h.word _ (by omega),
    schedule_recurrence hlength]
  ac_rfl

theorem Scheduled.concat (h : Scheduled block w) : Scheduled block (w ++ [Sha256.nextWord w]) := by
  have hlength := h.length
  constructor
  · rw [List.length_append]
    omega
  · intro t ht
    rw [List.length_append, List.length_singleton] at ht
    by_cases hlast : t = w.length
    · rw [hlast, List.getD_append_right _ _ _ _ (Nat.le_refl _), Nat.sub_self, ← h.nextWord]
      rfl
    · rw [List.getD_append _ _ _ _ (by omega)]
      exact h.word t (by omega)

theorem Scheduled.extend (h : Scheduled block w) :
    Scheduled block (extendSchedule n w) ∧ (extendSchedule n w).length = w.length + n := by
  induction n generalizing w with
  | zero => exact ⟨h, rfl⟩
  | succ n ih =>
      obtain ⟨hscheduled, hlength⟩ := ih h.concat
      rw [extendSchedule_succ]
      refine ⟨hscheduled, ?_⟩
      rw [hlength, List.length_append, List.length_singleton]
      omega

theorem scheduled_blockWords (h : block.length = 64) : Scheduled block (blockWords block) := by
  have hlength : (blockWords block).length = 16 := length_blockWords h
  constructor
  · omega
  · intro t ht
    rw [blockWords_word (by omega), schedule_input (by omega)]

/-! ### Compression -/

theorem foldl_round (hw : Scheduled block w) (hlength : w.length = 64) (hn : n ≤ 64) :
    (((kK.zip w).take n).foldl round v).words = rounds block v.words n := by
  induction n with
  | zero => rfl
  | succ n ih =>
      have hzip : (kK.zip w).length = 64 := by
        rw [List.length_zip, hlength]
        rfl
      have hlt : n < kK.length := hn
      have hlt' : n < w.length := by omega
      have hk : kK[n].toBitVec = constant n := by
        have hmap := congrArg (·[n]?) kK_eq
        simpa [List.getElem?_eq_getElem hlt, List.getElem?_range hn] using hmap
      have hword : w[n].toBitVec = schedule block n := by
        rw [← hw.word n hlt', List.getD_eq_getElem _ _ hlt']
      rw [List.take_succ_eq_append_getElem (by omega), List.foldl_append, List.foldl_cons, List.foldl_nil,
        List.getElem_zip, round_words, ih (by omega), hk, hword]
      rfl

/-- **One block** is compressed as the standard prescribes. -/
theorem transform_words (h : block.length = 64) : (transform v block).words = compress v.words block := by
  obtain ⟨hw, hlength⟩ := (scheduled_blockWords h).extend (n := 48)
  rw [@length_blockWords block 16 h] at hlength
  have hall : (kK.zip (extendSchedule 48 (blockWords block))).take 64 =
      kK.zip (extendSchedule 48 (blockWords block)) := by
    refine List.take_of_length_le ?_
    rw [List.length_zip, hlength]
    decide
  have hrounds := @foldl_round block _ v 64 hw hlength (Nat.le_refl _)
  rw [hall] at hrounds
  have hsum : (transform v block).words =
      v.words.add ((kK.zip (extendSchedule 48 (blockWords block))).foldl round v).words := by
    simp only [transform, ShaWords.words, Fips180.Words.add, UInt32.toBitVec_add]
  rw [hsum, hrounds]
  rfl

end

/-! ## Bytes -/

theorem beBytes32_eq (x : UInt32) : beBytes32 x = toBytes 4 x.toBitVec.toNat := by
  have hbyte (k : UInt32) (hk : k.toNat < 32) : (x >>> k).toUInt8 = UInt8.ofNat (x.toNat / 2 ^ k.toNat) := by
    rw [← UInt8.toNat_inj, UInt32.toNat_toUInt8, UInt32.toNat_shiftRight, UInt8.toNat_ofNat', Nat.mod_eq_of_lt hk,
      Nat.shiftRight_eq_div_pow]
  have hlast : x.toUInt8 = UInt8.ofNat (x.toNat / 1) := by
    rw [← UInt8.toNat_inj, UInt32.toNat_toUInt8, UInt8.toNat_ofNat', Nat.div_one]
  rw [beBytes32, hbyte 24 (by decide), hbyte 16 (by decide), hbyte 8 (by decide), hlast]
  rfl

theorem beBytes64_eq (x : UInt64) : beBytes64 x = toBytes 8 x.toNat := by
  have hbyte (k : UInt64) (hk : k.toNat < 64) : (x >>> k).toUInt8 = UInt8.ofNat (x.toNat / 2 ^ k.toNat) := by
    rw [← UInt8.toNat_inj, UInt64.toNat_toUInt8, UInt64.toNat_shiftRight, UInt8.toNat_ofNat', Nat.mod_eq_of_lt hk,
      Nat.shiftRight_eq_div_pow]
  have hlast : x.toUInt8 = UInt8.ofNat (x.toNat / 1) := by
    rw [← UInt8.toNat_inj, UInt64.toNat_toUInt8, UInt8.toNat_ofNat', Nat.div_one]
  rw [beBytes64, hbyte 56 (by decide), hbyte 48 (by decide), hbyte 40 (by decide), hbyte 32 (by decide),
    hbyte 24 (by decide), hbyte 16 (by decide), hbyte 8 (by decide), hlast]
  rfl

theorem wordsDigest_bytes (v : ShaWords) : (wordsDigest v).bytes = v.words.bytes := by
  simp only [wordsDigest, Fips180.Words.bytes, ShaWords.words, beBytes32_eq, List.flatMap_cons, List.flatMap_nil,
    List.append_nil, List.append_assoc]

/-! ## The whole message -/

section

variable {s : Sha256} {data : List UInt8} {n : Nat}

/-- Whole blocks, byte by byte. -/
theorem foldl_padByte_blocks (hbuffer : s.buffer = []) (hlength : data.length = 64 * n) :
    (data.foldl padByte s).buffer = [] ∧
      (data.foldl padByte s).state.words = (blocks data).foldl compress s.state.words := by
  induction n generalizing s data with
  | zero =>
      obtain rfl := List.length_eq_zero_iff.mp hlength
      exact ⟨hbuffer, rfl⟩
  | succ n ih =>
      have hfront : (data.take 64).length = 64 := by
        rw [List.length_take]
        omega
      have hfull : (data.take 64).foldl padByte s = { s with state := transform s.state (data.take 64), buffer := [] } := by
        rw [foldl_padByte_full (by rw [hbuffer, hfront]; rfl) (by rw [hbuffer]; decide), hbuffer, List.nil_append]
      have hrest := @ih { s with state := transform s.state (data.take 64), buffer := [] } (data.drop 64) rfl
        (by rw [List.length_drop]; omega)
      have hsplit := List.take_append_drop 64 data
      rw [← hsplit, List.foldl_append, hfull, blocks_append hfront, List.foldl_cons, ← transform_words hfront]
      exact hrest

theorem length_buffer_padByte (h : Running s) (x : UInt8) :
    (s.padByte x).buffer.length = (s.buffer.length + 1) % 64 := by
  have hspace := h.space
  unfold padByte
  dsimp only
  split
  next hfull =>
    rw [List.length_append, List.length_singleton] at hfull
    rw [hfull]
    rfl
  next hpart =>
    rw [List.length_append, List.length_singleton] at hpart ⊢
    omega

theorem length_buffer_foldl (h : Running s) :
    (data.foldl padByte s).buffer.length = (s.buffer.length + data.length) % 64 := by
  induction data generalizing s with
  | nil => exact (Nat.mod_eq_of_lt h.space).symm
  | cons x data ih =>
      rw [List.foldl_cons, ih h.padByte, length_buffer_padByte h, List.length_cons]
      omega

/-- The padding loop appends as many zero bytes as the block lacks. -/
theorem padZeros_eq (h : Running s) (hn : n < 64) (hplace : (s.buffer.length + n) % 64 = 56)
    (hleast : ∀ m < n, (s.buffer.length + m) % 64 ≠ 56) {fuel : Nat} (hfuel : n < fuel) :
    padZeros fuel s = (List.replicate n 0).foldl padByte s := by
  induction n generalizing s fuel with
  | zero =>
      obtain ⟨fuel, rfl⟩ := Nat.exists_eq_succ_of_ne_zero (Nat.ne_of_gt hfuel)
      have hspace := h.space
      rw [padZeros, if_pos (by omega)]
      rfl
  | succ n ih =>
      obtain ⟨fuel, rfl⟩ := Nat.exists_eq_succ_of_ne_zero (Nat.ne_of_gt (Nat.zero_lt_of_lt hfuel))
      have hspace := h.space
      have hfirst := hleast 0 (Nat.zero_lt_succ n)
      have hlength := length_buffer_padByte h 0
      rw [padZeros, if_neg (by omega), List.replicate_succ, List.foldl_cons]
      refine ih h.padByte (by omega) (by omega) (fun m hm => ?_) (by omega)
      have hnext := hleast (m + 1) (by omega)
      omega

/-- `finish` compresses the rest of the message with its padding. -/
theorem finish_eq (h : Running s) (hbits : s.bitLength.toNat = 8 * n) (hplace : s.buffer.length = n % 64) :
    s.finish = wordsDigest
      ((0x80 :: (List.replicate (zeroBytes n) 0 ++ toBytes 8 (8 * n))).foldl padByte s).state := by
  have hmark := h.padByte (x := 0x80)
  have hlength := length_buffer_padByte h 0x80
  have hzeros : padZeros 64 (s.padByte 0x80) = (List.replicate (zeroBytes n) 0).foldl padByte (s.padByte 0x80) := by
    have hcount : zeroBytes n < 64 := Nat.mod_lt _ (by decide)
    obtain ⟨hcompletes, hleast⟩ := zeroBytes_spec n
    refine padZeros_eq hmark hcount (by omega) (fun m hm => ?_) hcount
    have hmore := hleast m
    omega
  have hpadded : Running ((List.replicate (zeroBytes n) 0).foldl padByte (s.padByte 0x80)) := hmark.foldl
  have hroom : ((List.replicate (zeroBytes n) 0).foldl padByte (s.padByte 0x80)).buffer.length = 56 := by
    rw [length_buffer_foldl hmark, hlength, hplace, List.length_replicate]
    unfold zeroBytes
    omega
  have htag : beBytes64 s.bitLength = toBytes 8 (8 * n) := by rw [beBytes64_eq, hbits]
  have hfinish : s.finish = wordsDigest (transform (padZeros 64 (s.padByte 0x80)).state
      ((padZeros 64 (s.padByte 0x80)).buffer ++ beBytes64 s.bitLength)) := if_neg (by simp [h.unfinished])
  have hlast := @foldl_padByte_full _ (toBytes 8 (8 * n)) (by rw [hroom, length_toBytes]) hpadded.space
  rw [hfinish, hzeros, htag, List.foldl_cons, List.foldl_append, hlast]

theorem Running.update (h : Running s) : Running (s.update data) := by
  rw [update_eq h]
  exact h.counted.foldl

/-- Updates in a row are one with all the bytes. -/
theorem foldl_update (h : Running s) (chunks : List (List UInt8)) :
    chunks.foldl Sha256.update s = s.update chunks.flatten := by
  induction chunks generalizing s with
  | nil => simp [Sha256.update]
  | cons chunk chunks ih => rw [List.foldl_cons, ih h.update, update_update h, List.flatten_cons]

/-- A hasher that took a whole message digests it as the standard does. -/
theorem finish_update (hlength : data.length < 2 ^ 61) :
    (init.update data).finish.bytes = Fips180.sha256 data := by
  have hupdate : init.update data =
      { data.foldl padByte init with bitLength := 0 + UInt64.ofNat data.length * 8 } := by
    rw [update_eq running_init, foldl_padByte_counted]
    rfl
  have hrunning : Running (init.update data) := running_init.update
  have hbits : (init.update data).bitLength.toNat = 8 * data.length := by
    have h8 : (8 : UInt64).toNat = 8 := rfl
    rw [hupdate, UInt64.zero_add, UInt64.toNat_mul, UInt64.toNat_ofNat', h8]
    omega
  have hplace : (init.update data).buffer.length = data.length % 64 := by
    have hfold := @length_buffer_foldl init data running_init
    have hinit : init.buffer.length = 0 := rfl
    rw [hinit, Nat.zero_add] at hfold
    rw [hupdate]
    exact hfold
  have hwhole : (pad data).length = 64 * ((pad data).length / 64) := by
    have hpad := (zeroBytes_spec data.length).1
    rw [← length_pad] at hpad
    omega
  have hstate : ((0x80 :: (List.replicate (zeroBytes data.length) 0 ++ toBytes 8 (8 * data.length))).foldl padByte
      (init.update data)).state = ((pad data).foldl padByte init).state := by
    rw [hupdate, foldl_padByte_counted, pad, List.foldl_append]
  rw [finish_eq hrunning hbits hplace, wordsDigest_bytes, hstate, (foldl_padByte_blocks rfl hwhole).2, init_words,
    Fips180.sha256]

/-- `finish` with the hasher that it leaves behind. -/
def finishing (s : Sha256) : Digest × Sha256 :=
  if s.finished then (Digest.zero, s)
  else
    let padded := padZeros 64 (s.padByte 0x80)
    let state := transform padded.state (padded.buffer ++ beBytes64 s.bitLength)
    (wordsDigest state, { padded with state, buffer := [], finished := true })

theorem finishing_fst : s.finishing.1 = s.finish := by
  unfold finishing finish
  split <;> rfl

end

/-! ## Evaluation

The schedule with the last sixteen words at hand: a digest can be evaluated. -/

/-- The message schedule from the window that slides over it. -/
def slide : Nat → List UInt32 → List UInt32
  | n + 1, [w0, w1, w2, w3, w4, w5, w6, w7, w8, w9, w10, w11, w12, w13, w14, w15] =>
      let s0 := rotr w1 7 ^^^ rotr w1 18 ^^^ (w1 >>> 3)
      let s1 := rotr w14 17 ^^^ rotr w14 19 ^^^ (w14 >>> 10)
      w0 :: slide n [w1, w2, w3, w4, w5, w6, w7, w8, w9, w10, w11, w12, w13, w14, w15, w0 + s0 + w9 + s1]
  | _, w => w

/-- `transform` over that schedule. -/
def slidingTransform (s : ShaWords) (block : List UInt8) : ShaWords :=
  let v := (kK.zip (slide 48 (blockWords block))).foldl round s
  { a := s.a + v.a, b := s.b + v.b, c := s.c + v.c, d := s.d + v.d,
    e := s.e + v.e, f := s.f + v.f, g := s.g + v.g, h := s.h + v.h }

section

variable {front w : List UInt32} {v : ShaWords} {block data : List UInt8} {n : Nat}

theorem extendSchedule_slide (h : w.length = 16) : extendSchedule n (front ++ w) = front ++ slide n w := by
  induction n generalizing front w with
  | zero => rfl
  | succ n ih =>
      match w, h with
      | [w0, w1, w2, w3, w4, w5, w6, w7, w8, w9, w10, w11, w12, w13, w14, w15], _ =>
        have hnext : front ++ [w0, w1, w2, w3, w4, w5, w6, w7, w8, w9, w10, w11, w12, w13, w14, w15] ++
            [nextWord (front ++ [w0, w1, w2, w3, w4, w5, w6, w7, w8, w9, w10, w11, w12, w13, w14, w15])] =
            (front ++ [w0]) ++ [w1, w2, w3, w4, w5, w6, w7, w8, w9, w10, w11, w12, w13, w14, w15,
              nextWord (front ++ [w0, w1, w2, w3, w4, w5, w6, w7, w8, w9, w10, w11, w12, w13, w14, w15])] := by
          simp only [List.append_assoc, List.cons_append, List.nil_append]
        rw [extendSchedule_succ, hnext, ih rfl, List.append_assoc]
        simp [nextWord, slide]

theorem transform_sliding (h : block.length = 64) : transform v block = slidingTransform v block := by
  have hwords := @extendSchedule_slide [] _ 48 (@length_blockWords block 16 h)
  rw [List.nil_append, List.nil_append] at hwords
  unfold transform slidingTransform
  rw [hwords]

theorem length_of_mem_blocks (h : block ∈ blocks data) : block.length = 64 := by
  obtain ⟨i, hi, rfl⟩ := List.mem_map.mp h
  have hlt := List.mem_range.mp hi
  rw [List.length_take, List.length_drop]
  omega

theorem foldl_compress {bs : List (List UInt8)} (h : ∀ block ∈ bs, block.length = 64) :
    bs.foldl compress v.words = (bs.foldl slidingTransform v).words := by
  induction bs generalizing v with
  | nil => rfl
  | cons block bs ih =>
      obtain ⟨hblock, hrest⟩ := List.forall_mem_cons.mp h
      rw [List.foldl_cons, List.foldl_cons, ← transform_words hblock, ih hrest, transform_sliding hblock]

/-- The digest of a message, block by block. -/
theorem sha256_sliding (h : data.length < 2 ^ 61) :
    (sha256 data).bytes = (wordsDigest ((blocks (pad data)).foldl slidingTransform init.state)).bytes := by
  have hfinish : (sha256 data).bytes = Fips180.sha256 data := finish_update h
  rw [hfinish, Fips180.sha256, ← init_words, foldl_compress fun _ => length_of_mem_blocks, wordsDigest_bytes]

end

end Sha256

/-! ## The canonical hasher -/

/-- What a caller asks of a canonical hasher. -/
inductive HasherCall where
  | add (bytes : List UInt8)
  | digest
  | fold64
  deriving DecidableEq

/-- What it answers. -/
inductive HasherReply where
  | none
  | digest (d : Digest)
  | fold (value : UInt64)
  deriving DecidableEq

namespace HasherCall

def isAdd : HasherCall → Bool
  | .add _ => true
  | _ => false

def bytes : HasherCall → List UInt8
  | .add bytes => bytes
  | _ => []

end HasherCall

/-- The exclusive or of a digest's words, `fold64` past its call of `finish`. -/
def foldDigest (d : Digest) : UInt64 :=
  let word (i : Nat) : UInt64 :=
    ((d.bytes.drop (8 * i)).take 8).foldl (fun word b => (word <<< 8) ||| b.toUInt64) 0
  [0, 1, 2, 3].foldl (fun fold i => fold ^^^ word i) 0

namespace CanonicalHasher

/-- One call.  `digest` and `fold64` finish a copy of the hasher. -/
def call (h : CanonicalHasher) : HasherCall → HasherReply × CanonicalHasher
  | .add bytes => (.none, h.addRaw bytes)
  | .digest =>
      let copy := h.sha
      let (d, _) := copy.finishing
      (.digest d, h)
  | .fold64 =>
      let copy := h.sha
      let (d, _) := copy.finishing
      (.fold (foldDigest d), h)

/-- Calls one after the other: their replies, and the hasher after them. -/
def calls (h : CanonicalHasher) : List HasherCall → List HasherReply × CanonicalHasher
  | [] => ([], h)
  | c :: cs =>
      let (reply, h) := h.call c
      let (replies, h) := h.calls cs
      (reply :: replies, h)

section

variable {h : CanonicalHasher} {cs : List HasherCall} {bytes : List UInt8}

theorem call_digest : h.call .digest = (.digest h.digest, h) := by
  rw [digest, ← Sha256.finishing_fst]
  rfl

theorem call_fold64 : h.call .fold64 = (.fold h.fold64, h) := by
  have hfold : foldDigest h.sha.finish = h.fold64 := by simp [foldDigest, fold64]
  rw [← hfold, ← Sha256.finishing_fst]
  rfl

theorem call_of_not_add {c : HasherCall} (hc : c.isAdd = false) : (h.call c).2 = h := by
  cases c with
  | add bytes => cases hc
  | digest => rw [call_digest]
  | fold64 => rw [call_fold64]

/-- Only what is added moves the hasher. -/
theorem calls_filter_isAdd : (h.calls cs).2 = (h.calls (cs.filter HasherCall.isAdd)).2 := by
  induction cs generalizing h with
  | nil => rfl
  | cons c cs ih =>
      cases hc : c.isAdd with
      | true =>
          rw [List.filter_cons_of_pos hc]
          exact ih
      | false =>
          rw [List.filter_cons_of_neg (by simp [hc])]
          have hsame := call_of_not_add (h := h) hc
          have hrest : (h.calls (c :: cs)).2 = ((h.call c).2.calls cs).2 := rfl
          rw [hrest, hsame]
          exact ih

theorem took_call (ht : Took h bytes) (c : HasherCall) : Took (h.call c).2 (bytes ++ c.bytes) := by
  cases c with
  | add more => exact ht.addRaw more
  | digest =>
      rw [call_digest]
      simpa [HasherCall.bytes] using ht
  | fold64 =>
      rw [call_fold64]
      simpa [HasherCall.bytes] using ht

theorem took_calls (ht : Took h bytes) : Took (h.calls cs).2 (bytes ++ cs.flatMap HasherCall.bytes) := by
  induction cs generalizing h bytes with
  | nil =>
      rw [List.flatMap_nil, List.append_nil]
      exact ht
  | cons c cs ih =>
      rw [List.flatMap_cons, ← List.append_assoc]
      exact ih (took_call ht c)

end

end CanonicalHasher

/-- **Incremental hashing** is SHA-256: however a message is cut into updates,
`finish` returns its digest; and whatever calls of `digest` and `fold64` stand
between the additions, later calls are answered as without them, a digest of
what was added so far being that of the standard. -/
theorem incremental_sha256 (chunks : List (List UInt8)) (earlier later : List HasherCall)
    (hchunks : chunks.flatten.length < 2 ^ 61)
    (hadded : (earlier.flatMap HasherCall.bytes).length < 2 ^ 61) :
    (chunks.foldl Sha256.update Sha256.init).finishing.1.bytes = Fips180.sha256 chunks.flatten ∧
    ((({} : CanonicalHasher).calls earlier).2.calls later).1 =
      ((({} : CanonicalHasher).calls (earlier.filter HasherCall.isAdd)).2.calls later).1 ∧
    ∃ d, ((({} : CanonicalHasher).calls earlier).2.call .digest).1 = .digest d ∧
      d.bytes = Fips180.sha256 (earlier.flatMap HasherCall.bytes) := by
  refine ⟨?_, ?_, _, congrArg Prod.fst CanonicalHasher.call_digest, ?_⟩
  · rw [Sha256.finishing_fst, Sha256.foldl_update Sha256.running_init, Sha256.finish_update hchunks]
  · rw [CanonicalHasher.calls_filter_isAdd]
  · have htook := @CanonicalHasher.took_calls {} earlier [] CanonicalHasher.took_nil
    rw [List.nil_append] at htook
    rw [htook.digest, sha256, Sha256.finish_update hadded]

theorem incremental_sha256_sample :
    (([[0x61], [0x62, 0x63]] : List (List UInt8)).foldl Sha256.update Sha256.init).finishing.1.bytes =
        Fips180.sha256 [0x61, 0x62, 0x63] ∧
      ∃ d, ((({} : CanonicalHasher).calls [.add [0x61], .fold64, .add [0x62, 0x63]]).2.call .digest).1 =
          .digest d ∧ d.bytes = Fips180.sha256 [0x61, 0x62, 0x63] := by
  have hsample := incremental_sha256 [[0x61], [0x62, 0x63]] [.add [0x61], .fold64, .add [0x62, 0x63]] [.digest]
    (by decide) (by decide)
  exact ⟨hsample.1, hsample.2.2⟩

-- the digest of "abc" that the tests of the source expect
example : (sha256 [0x61, 0x62, 0x63]).bytes = toBytes 32
    0xba7816bf8f01cfea414140de5dae2223b00361a396177a9cb410ff61f20015ad := by decide +kernel

end Oversub
