import Oversub.Status
import Oversub.Lib.Wire
import Oversub.Lib.Arrivals

/-!
# Oversub.Net

The framed connection (`net.cpp`).  A frame is its type and its length, four
bytes each, and the payload; the bytes of a stream arrive in pieces of any
size.  `errno` is all the system says about a receive that failed.
-/

namespace Oversub

open Wire Arrivals

def kMaxFramePayloadBytes : Nat := 2 ^ 20

abbrev Frame := UInt32 × List UInt8

/-- A connection: whether it was closed, whether it has a socket, and what is
still to arrive on it. -/
structure FramedConnection where
  closed : Bool := false
  valid : Bool := true
  incoming : List (Arrival UInt8 Int) := []

def lastSocketError (reason : ReasonCode) (what : String) (errno : Int) : Status :=
  .failure .ioError reason (what ++ " failed with errno " ++ toString errno)

def connectionClosed : Status := .failure .ioError .transportClosed "connection is closed"

def socketClosed : Status := .failure .ioError .transportClosed "socket is closed"

def peerClosed : Status := .failure .ioError .transportClosed "peer closed the connection"

def peerClosedMidFrame : Status :=
  .failure .ioError .frameTruncated "peer closed the connection mid-frame"

def frameTooLarge : Status := .failure .outOfRange .frameTooLarge "declared frame payload exceeds the bound"

/-- `append_u32` of the type and of the length. -/
def frameHeader (type length : UInt32) : List UInt8 := leBytes32 type ++ leBytes32 length

/-- `take_u32`. -/
def takeU32 (data : List UInt8) : UInt32 :=
  ofLeBytes32 (data.getD 0 0) (data.getD 1 0) (data.getD 2 0) (data.getD 3 0)

namespace FramedConnection

/-- `send_frame`: what is sent, where no send fails. -/
def sendFrame (c : FramedConnection) (type : UInt32) (payload : List UInt8) : Except Status (List UInt8) :=
  if c.closed then .error connectionClosed
  else if kMaxFramePayloadBytes < payload.length then
    .error (.failure .outOfRange .frameTooLarge "frame payload exceeds the bound")
  else if !c.valid then .error socketClosed
  else .ok (frameHeader type (UInt32.ofNat payload.length) ++ payload)

/-- `read_exact`: an end of the stream is clean only before the first byte. -/
def readExact (c : FramedConnection) (length : Nat) : Except Status (List UInt8) × FramedConnection :=
  if length = 0 then (.ok [], c)
  else if !c.valid then (.error socketClosed, c)
  else
    match readAll length c.incoming with
    | (.all bytes, rest) => (.ok bytes, { c with incoming := rest })
    | (.short missing, rest) =>
        (.error (if missing = length then peerClosed else peerClosedMidFrame), { c with incoming := rest })
    | (.failed errno, rest) => (.error (lastSocketError .transportError "recv" errno), { c with incoming := rest })

def recvFrame (c : FramedConnection) : Except Status Frame × FramedConnection :=
  if c.closed then (.error connectionClosed, c)
  else
    match c.readExact 8 with
    | (.error status, c) =>
        (.error status, if status.reason = .transportClosed then { c with closed := true } else c)
    | (.ok header, c) =>
        let type := takeU32 header
        let length := takeU32 (header.drop 4)
        if kMaxFramePayloadBytes < length.toNat then (.error frameTooLarge, c)
        else if length = 0 then (.ok (type, []), c)
        else
          match c.readExact length.toNat with
          | (.error status, c) => (.error status, c)
          | (.ok payload, c) => (.ok (type, payload), c)

/-- So many receives in a row. -/
def recvFrames : Nat → FramedConnection → List (Except Status Frame) × FramedConnection
  | 0, c => ([], c)
  | n + 1, c =>
      let (received, c) := c.recvFrame
      let (frames, c) := recvFrames n c
      (received :: frames, c)

end FramedConnection

/-! ## The bytes of frames -/

def frameBytes (f : Frame) : List UInt8 := frameHeader f.1 (UInt32.ofNat f.2.length) ++ f.2

/-- A payload within the bound of the sender. -/
def Frame.Bounded (f : Frame) : Prop := f.2.length ≤ kMaxFramePayloadBytes

instance (f : Frame) : Decidable f.Bounded :=
  inferInstanceAs (Decidable (f.2.length ≤ kMaxFramePayloadBytes))

section

variable {c : FramedConnection} {type length : UInt32} {payload bytes rest : List UInt8} {f : Frame}
  {frames : List Frame} {n : Nat}

theorem sendFrame_eq_ok (hclosed : c.closed = false) (hvalid : c.valid = true) :
    c.sendFrame f.1 f.2 = .ok bytes ↔ f.Bounded ∧ bytes = frameBytes f := by
  rw [FramedConnection.sendFrame, hclosed, hvalid, Frame.Bounded]
  by_cases h : kMaxFramePayloadBytes < f.2.length
  · simp [h]
  · simp [h, Nat.not_lt.mp h, frameBytes, eq_comm]

theorem takeU32_append (x : UInt32) : takeU32 (leBytes32 x ++ rest) = x := by
  show ofLeBytes32 _ _ _ _ = x
  exact ofLeBytes32_bytes x

theorem length_frameHeader : (frameHeader type length).length = 8 := rfl

theorem takeU32_header : takeU32 (frameHeader type length) = type := takeU32_append type

theorem takeU32_drop_header : takeU32 ((frameHeader type length).drop 4) = length := by
  have hdrop : (frameHeader type length).drop 4 = leBytes32 length := rfl
  have htake : takeU32 (leBytes32 length ++ []) = length := takeU32_append length
  rwa [List.append_nil, ← hdrop] at htake

theorem toNat_length (h : f.Bounded) : (UInt32.ofNat f.2.length).toNat = f.2.length :=
  Nat.mod_eq_of_lt (Nat.lt_of_le_of_lt h (by decide))

theorem length_frameBytes : (frameBytes f).length = 8 + f.2.length := by
  rw [frameBytes, List.length_append, length_frameHeader]

/-! ## Receiving -/

/-- A connection that is open, and on which no receive fails. -/
structure FramedConnection.Live (c : FramedConnection) : Prop where
  closed : c.closed = false
  valid : c.valid = true
  quiet : Quiet c.incoming

namespace FramedConnection

theorem Live.not_invalid (h : c.Live) : ¬ (!c.valid) = true := by
  rw [h.valid]
  exact Bool.false_ne_true

theorem readExact_of_le (h : c.Live) (hle : n ≤ (stream c.incoming).length) :
    ∃ c', c.readExact n = (.ok ((stream c.incoming).take n), c') ∧ c'.Live ∧
      stream c'.incoming = (stream c.incoming).drop n := by
  rw [readExact]
  by_cases hn : n = 0
  · rw [if_pos hn, hn]
    exact ⟨c, rfl, h, rfl⟩
  · obtain ⟨rest, hread, hquiet, hleft⟩ := readAll_of_le h.quiet hle
    rw [if_neg hn, if_neg h.not_invalid, hread]
    exact ⟨_, rfl, ⟨h.closed, h.valid, hquiet⟩, hleft⟩

theorem readExact_of_lt (h : c.Live) (hlt : (stream c.incoming).length < n) :
    c.readExact n = (.error (if stream c.incoming = [] then peerClosed else peerClosedMidFrame),
      { c with incoming := [] }) := by
  have hn : n ≠ 0 := by omega
  have hmissing : n - (stream c.incoming).length = n ↔ stream c.incoming = [] := by
    rw [← List.length_eq_zero_iff]
    omega
  rw [readExact, if_neg hn, if_neg h.not_invalid, readAll_of_lt h.quiet hlt]
  simp only [hmissing]

/-- After the header of a frame there are only three ways to go on. -/
theorem recvFrame_header (h : c.Live) (hstream : stream c.incoming = frameHeader type length ++ bytes) :
    ∃ c', c'.Live ∧ stream c'.incoming = bytes ∧ c.recvFrame =
      if kMaxFramePayloadBytes < length.toNat then (.error frameTooLarge, c')
      else if length = 0 then (.ok (type, []), c')
      else match c'.readExact length.toNat with
        | (.error status, c) => (.error status, c)
        | (.ok payload, c) => (.ok (type, payload), c) := by
  have hle : 8 ≤ (stream c.incoming).length := by
    rw [hstream, List.length_append, length_frameHeader]
    omega
  obtain ⟨c', hread, hlive, hleft⟩ := readExact_of_le h hle
  have htake : (frameHeader type length ++ bytes).take 8 = frameHeader type length :=
    List.take_left' length_frameHeader
  have hdrop : (frameHeader type length ++ bytes).drop 8 = bytes := List.drop_left' length_frameHeader
  rw [hstream, htake] at hread
  rw [hstream, hdrop] at hleft
  refine ⟨c', hlive, hleft, ?_⟩
  rw [recvFrame, h.closed, hread]
  simp only [Bool.false_eq_true, if_false, takeU32_header, takeU32_drop_header]

/-- A frame that has arrived is received. -/
theorem recvFrame_frame (h : c.Live) (hf : f.Bounded) (hstream : stream c.incoming = frameBytes f ++ bytes) :
    ∃ c', c.recvFrame = (.ok f, c') ∧ c'.Live ∧ stream c'.incoming = bytes := by
  rw [frameBytes, List.append_assoc] at hstream
  obtain ⟨c₁, hlive, hleft, hrecv⟩ := recvFrame_header h hstream
  have hbound : ¬ kMaxFramePayloadBytes < (UInt32.ofNat f.2.length).toNat := by
    rw [toNat_length hf]
    exact Nat.not_lt.mpr hf
  rw [if_neg hbound] at hrecv
  by_cases hzero : UInt32.ofNat f.2.length = 0
  · have hnil : f.2 = [] := by
      rw [← List.length_eq_zero_iff, ← toNat_length hf, hzero]
      rfl
    rw [hnil, List.nil_append] at hleft
    rw [if_pos hzero, ← hnil] at hrecv
    exact ⟨c₁, hrecv, hlive, hleft⟩
  · have hle : (UInt32.ofNat f.2.length).toNat ≤ (stream c₁.incoming).length := by
      rw [toNat_length hf, hleft, List.length_append]
      omega
    obtain ⟨c₂, hread, hlive₂, hleft₂⟩ := readExact_of_le hlive hle
    rw [toNat_length hf, hleft, List.take_left' rfl] at hread
    rw [toNat_length hf, hleft, List.drop_left' rfl] at hleft₂
    rw [if_neg hzero, toNat_length hf, hread] at hrecv
    exact ⟨c₂, hrecv, hlive₂, hleft₂⟩

/-- Frames that have arrived are received in order. -/
theorem recvFrames_frames (h : c.Live) (hframes : ∀ f ∈ frames, Frame.Bounded f)
    (hstream : stream c.incoming = frames.flatMap frameBytes ++ bytes) :
    ∃ c', recvFrames frames.length c = (frames.map .ok, c') ∧ c'.Live ∧ stream c'.incoming = bytes := by
  induction frames generalizing c with
  | nil => exact ⟨c, rfl, h, hstream⟩
  | cons f frames ih =>
      obtain ⟨hf, hrest⟩ := List.forall_mem_cons.mp hframes
      rw [List.flatMap_cons, List.append_assoc] at hstream
      obtain ⟨c₁, hrecv, hlive, hleft⟩ := recvFrame_frame h hf hstream
      obtain ⟨c₂, hrecvs, hlive₂, hleft₂⟩ := ih hlive hrest hleft
      refine ⟨c₂, ?_, hlive₂, hleft₂⟩
      rw [List.length_cons, recvFrames, hrecv]
      simp only [hrecvs, List.map_cons]

/-- A stream that ends before the next frame is complete. -/
theorem recvFrame_cut (h : c.Live) (hf : f.Bounded) (hcut : n < (frameBytes f).length)
    (hstream : stream c.incoming = (frameBytes f).take n) : ∃ status c', c.recvFrame = (.error status, c') ∧
      status = if n = 0 ∨ n = 8 then peerClosed else peerClosedMidFrame := by
  rw [length_frameBytes] at hcut
  by_cases hheader : n < 8
  · have hlength : (stream c.incoming).length = n := by
      rw [hstream, List.length_take, length_frameBytes]
      omega
    have hread := readExact_of_lt h (n := 8) (by omega)
    have hempty : stream c.incoming = [] ↔ n = 0 ∨ n = 8 := by
      rw [← List.length_eq_zero_iff, hlength]
      omega
    rw [recvFrame, h.closed, hread]
    simp only [Bool.false_eq_true, if_false, hempty]
    exact ⟨_, _, rfl, rfl⟩
  · rw [frameBytes, List.take_append, length_frameHeader,
      List.take_of_length_le (by rw [length_frameHeader]; omega)] at hstream
    obtain ⟨c₁, hlive, hleft, hrecv⟩ := recvFrame_header h hstream
    have hbound : ¬ kMaxFramePayloadBytes < (UInt32.ofNat f.2.length).toNat := by
      rw [toNat_length hf]
      exact Nat.not_lt.mpr hf
    have hzero : UInt32.ofNat f.2.length ≠ 0 := by
      intro hzero
      have hlength := toNat_length hf
      rw [hzero] at hlength
      have hnone : (0 : UInt32).toNat = 0 := rfl
      omega
    have hlength : (stream c₁.incoming).length = n - 8 := by
      rw [hleft, List.length_take]
      omega
    have hread := readExact_of_lt hlive (n := f.2.length) (by omega)
    have hempty : stream c₁.incoming = [] ↔ n = 0 ∨ n = 8 := by
      rw [← List.length_eq_zero_iff, hlength]
      omega
    rw [if_neg hbound, if_neg hzero, toNat_length hf, hread] at hrecv
    simp only [hempty] at hrecv
    exact ⟨_, _, hrecv, rfl⟩

end FramedConnection

/-- A proper prefix of the bytes of frames ends inside one of them, or before
its first byte. -/
theorem exists_cut ( hprefix : bytes <+: frames.flatMap frameBytes) (hne : bytes ≠ frames.flatMap frameBytes) :
    ∃ before next after n, frames = before ++ next :: after ∧ n < (frameBytes next).length ∧
      bytes = before.flatMap frameBytes ++ (frameBytes next).take n := by
  induction frames generalizing bytes with
  | nil => exact absurd (List.prefix_nil.mp hprefix) hne
  | cons f frames ih =>
      rw [List.flatMap_cons] at hprefix hne
      by_cases hlt : bytes.length < (frameBytes f).length
      · have hf : bytes <+: frameBytes f :=
          List.prefix_of_prefix_length_le hprefix (List.prefix_append _ _) (Nat.le_of_lt hlt)
        exact ⟨[], f, frames, bytes.length, rfl, hlt, List.prefix_iff_eq_take.mp hf⟩
      · have hf : frameBytes f <+: bytes :=
          List.prefix_of_prefix_length_le (List.prefix_append _ _) hprefix (Nat.not_lt.mp hlt)
        obtain ⟨rest, rfl⟩ := hf
        rw [List.prefix_append_right_inj] at hprefix
        rw [Ne, List.append_right_inj] at hne
        obtain ⟨before, next, after, n, hframes, hn, hrest⟩ := ih hprefix hne
        refine ⟨f :: before, next, after, n, ?_, hn, ?_⟩
        · rw [hframes, List.cons_append]
        · rw [hrest, List.flatMap_cons, List.append_assoc]

end

/-! ## What a receiver sees -/

/-- **Framing**: whatever the pieces in which they arrive, the frames that were
sent are received in order; a frame that is declared too long is refused with
its payload unread. -/
theorem framing {sender c : FramedConnection} (hsender : sender.Live) (h : c.Live) :
    (∀ frames : List Frame, (∀ f ∈ frames, f.Bounded) →
      frames.map (fun f => sender.sendFrame f.1 f.2) = frames.map (fun f => .ok (frameBytes f)) ∧
        (stream c.incoming = frames.flatMap frameBytes → ∃ c',
          FramedConnection.recvFrames frames.length c = (frames.map .ok, c') ∧ stream c'.incoming = [])) ∧
    ∀ type length bytes, kMaxFramePayloadBytes < length.toNat →
      stream c.incoming = frameHeader type length ++ bytes → ∃ c',
        c.recvFrame = (.error frameTooLarge, c') ∧ stream c'.incoming = bytes := by
  constructor
  · intro frames hbounded
    constructor
    · refine List.map_congr_left fun f hf => ?_
      exact (sendFrame_eq_ok hsender.closed hsender.valid).mpr ⟨hbounded f hf, rfl⟩
    · intro hstream
      rw [← List.append_nil (frames.flatMap frameBytes)] at hstream
      obtain ⟨c', hrecv, _, hleft⟩ := FramedConnection.recvFrames_frames h hbounded hstream
      exact ⟨c', hrecv, hleft⟩
  · intro type length bytes hlarge hstream
    obtain ⟨c', _, hleft, hrecv⟩ := FramedConnection.recvFrame_header h hstream
    rw [if_pos hlarge] at hrecv
    exact ⟨c', hrecv, hleft⟩

/-- A connection on which two frames arrive in three pieces. -/
def sampleConnection : FramedConnection where
  incoming := [.data 7 [0], .data 0 [0, 2, 0, 0, 0, 5], .data 6 [8, 0, 0, 0, 0, 0, 0, 0]]

theorem live_sampleConnection : sampleConnection.Live := ⟨rfl, rfl, trivial⟩

theorem framing_sample : ∃ c', FramedConnection.recvFrames 2 sampleConnection =
    ([.ok (7, [5, 6]), .ok (8, [])], c') ∧ stream c'.incoming = [] :=
  ((framing live_sampleConnection live_sampleConnection).1 [(7, [5, 6]), (8, [])] (by decide)).2 rfl

/-- What the contract of `recv_frame` says about the end of the stream after so
many bytes of a frame. -/
def endReason (n : Nat) : ReasonCode := if n = 0 then .transportClosed else .frameTruncated

/-- **The end of the stream** is reported as the contract says exactly when the
frame was not cut between its header and its payload. -/
theorem truncation_classified {c : FramedConnection} {frames : List Frame} (h : c.Live)
    (hbounded : ∀ f ∈ frames, f.Bounded) ( hprefix : stream c.incoming <+: frames.flatMap frameBytes)
    (hne : stream c.incoming ≠ frames.flatMap frameBytes) :
    ∃ before next after n, frames = before ++ next :: after ∧ n < (frameBytes next).length ∧
      stream c.incoming = before.flatMap frameBytes ++ (frameBytes next).take n ∧
      ∃ c' status c'', FramedConnection.recvFrames before.length c = (before.map .ok, c') ∧
        c'.recvFrame = (.error status, c'') ∧ (status.reason = endReason n ↔ n ≠ 8) := by
  obtain ⟨before, next, after, n, rfl, hn, hstream⟩ := exists_cut hprefix hne
  rw [List.forall_mem_append, List.forall_mem_cons] at hbounded
  obtain ⟨c', hrecvs, hlive, hleft⟩ := FramedConnection.recvFrames_frames h hbounded.1 hstream
  obtain ⟨status, c'', hrecv, hstatus⟩ := FramedConnection.recvFrame_cut hlive hbounded.2.1 hn hleft
  refine ⟨before, next, after, n, rfl, hn, hstream, c', status, c'', hrecvs, hrecv, ?_⟩
  have hclosed : peerClosed.reason = .transportClosed := rfl
  have hmid : peerClosedMidFrame.reason = .frameTruncated := rfl
  rw [hstatus, endReason]
  by_cases hzero : n = 0
  · simp [hzero, hclosed]
  · by_cases height : n = 8
    · simp [height, hclosed]
    · simp [hzero, height, hmid]

/-- A connection whose peer has gone after the header of a frame. -/
def headless : FramedConnection where
  incoming := [.data 7 [0, 0, 0, 2, 0, 0, 0]]

/-- The end of the stream may come in the middle of a frame and be reported as
clean. -/
theorem truncation_missed : ¬ ∀ (c : FramedConnection) (before after : List Frame) (next : Frame) (n : Nat),
    c.Live → (∀ f ∈ before ++ next :: after, f.Bounded) → n < (frameBytes next).length →
    stream c.incoming = before.flatMap frameBytes ++ (frameBytes next).take n →
    ∃ c' status c'', FramedConnection.recvFrames before.length c = (before.map .ok, c') ∧
      c'.recvFrame = (.error status, c'') ∧ status.reason = endReason n := by
  intro h
  have hlive : headless.Live := ⟨rfl, rfl, trivial⟩
  obtain ⟨c', status, c'', hrecvs, hrecv, hreason⟩ := h headless [] [] (7, [5, 6]) 8 hlive (by decide)
    (by decide) rfl
  obtain ⟨status', c₁, hrecv', hstatus⟩ := FramedConnection.recvFrame_cut hlive
    (by decide : Frame.Bounded (7, [5, 6])) (by decide : 8 < (frameBytes (7, [5, 6])).length) rfl
  have hc : headless = c' := congrArg Prod.snd hrecvs
  rw [← hc, hrecv'] at hrecv
  have hsame : status' = status := Except.error.inj (congrArg Prod.fst hrecv)
  rw [← hsame, hstatus] at hreason
  exact absurd hreason (by decide)

/-- A stream that ends inside the payload. -/
theorem truncation_sample : ∃ before next after n, [(7, [5, 6])] = before ++ next :: after ∧
    n < (frameBytes next).length ∧
    stream (FramedConnection.incoming { incoming := [.data 7 [0, 0, 0, 2, 0, 0, 0, 5]] }) =
      before.flatMap frameBytes ++ (frameBytes next).take n :=
  match @truncation_classified { incoming := [.data 7 [0, 0, 0, 2, 0, 0, 0, 5]] } [(7, [5, 6])]
    ⟨rfl, rfl, trivial⟩ (by decide) ⟨[6], rfl⟩ (by decide) with
  | ⟨before, next, after, n, hframes, hn, hstream, _⟩ => ⟨before, next, after, n, hframes, hn, hstream⟩

end Oversub
