import Oversub.Codec
import Oversub.Protocol
import Oversub.Lib.Cut

/-!
# Oversub.Roundtrip

Round trips of the durable formats and of the evidence on the wire.  Every
reader is local, so that what was written is read from nothing that is cut
short and from nothing that goes on.
-/

namespace Oversub

open Wire Reader Decoder

/-! ## Readers of the durable formats -/

instance local_readDigest : Reader.Local readDigest := by
  unfold readDigest
  infer_instance

instance local_readTable {α : Type} {bound : Nat} {r : Reader α} [Reader.Local r] :
    Reader.Local (readTable bound r) := by
  unfold readTable
  infer_instance

instance local_readRatio : Reader.Local readRatio := by
  unfold readRatio
  infer_instance

instance local_readResourceId : Reader.Local readResourceId := by
  unfold readResourceId
  infer_instance

instance local_readDomain : Reader.Local readDomain := by
  unfold readDomain
  infer_instance

instance local_readServiceClass : Reader.Local readServiceClass := by
  unfold readServiceClass
  infer_instance

instance local_readRiskBudget : Reader.Local readRiskBudget := by
  unfold readRiskBudget
  infer_instance

instance local_readThresholds : Reader.Local readThresholds := by
  unfold readThresholds
  infer_instance

instance local_readHysteresis : Reader.Local readHysteresis := by
  unfold readHysteresis
  infer_instance

instance local_readLimits : Reader.Local readLimits := by
  unfold readLimits
  infer_instance

instance local_readPolicy : Reader.Local readPolicy := by
  unfold readPolicy
  infer_instance

instance local_readPublisher : Reader.Local readPublisher := by
  unfold readPublisher
  infer_instance

instance local_readDomainState : Reader.Local readDomainState := by
  unfold readDomainState
  infer_instance

instance local_readSlotState : Reader.Local readSlotState := by
  unfold readSlotState
  infer_instance

instance local_readAuditRecord : Reader.Local readAuditRecord := by
  unfold readAuditRecord
  infer_instance

instance local_decodeTable {α : Type} {bound : Nat} {row : Decoder Status α} {truncated tooLarge : String}
    [Decoder.Local row] : Decoder.Local (decodeTable bound row truncated tooLarge) := by
  unfold decodeTable
  infer_instance

instance local_decodeSizedRecord : Decoder.Local decodeSizedRecord := by
  unfold decodeSizedRecord
  infer_instance

instance local_decodeState : Decoder.Local decodeState := by
  unfold decodeState decodeSchema decodePublishers decodeDomainStates decodeSlotStates decodeAudit
    readStateHeader readStateTrailer
  infer_instance

/-! ## The durable formats -/

section

variable {s s' : DurableState} {a a' : AuditRecord} {bytes input : List UInt8}

theorem decodes_fitting (hp : s.policy.Storable) (ha : SummariesFit s.audit) (hs : s.Fits) :
    decodeState.Decodes (writeState s) s s.Fits := by
  have hpub : s.publishers.length < 2 ^ 64 := Nat.lt_of_le_of_lt hs.publishers (by decide)
  have hdom : s.domains.length < 2 ^ 64 := Nat.lt_of_le_of_lt hs.domains (by decide)
  have hev : s.evidence.length < 2 ^ 64 := Nat.lt_of_le_of_lt hs.evidence (by decide)
  have haud : s.audit.length < 2 ^ 64 := Nat.lt_of_le_of_lt hs.audit (by decide)
  exact decodes_state_of_lengths hp ha hpub hdom hev haud

theorem deserializeState_cut (hp : s.policy.Storable) (ha : SummariesFit s.audit) (hs : s.Fits)
    (hcut : Cuts (writeState s) input) : deserializeState input ≠ .ok s' :=
  (decodes_fitting hp ha hs).whole_cut hs hcut

theorem deserializeAuditRecord_cut (ha : a.summary.length ≤ kMaxAuditSummary)
    (hcut : Cuts (writeAuditRecord a) input) : deserializeAuditRecord input ≠ .ok a' :=
  (Decoder.decodes_ofReader (reads_auditRecord ha)).whole_cut trivial hcut

end

instance local_readProvenance : Reader.Local readProvenance := by
  unfold readProvenance
  infer_instance

instance local_readResource : Reader.Local readResource := by
  unfold readResource
  infer_instance

instance local_readGuarantee : Reader.Local readGuarantee := by
  unfold readGuarantee
  infer_instance

instance local_readRecord : Reader.Local readRecord := by
  unfold readRecord
  infer_instance

instance local_readCapacitySnapshot : Reader.Local readCapacitySnapshot := by
  unfold readCapacitySnapshot
  infer_instance

instance local_readReservationSnapshot : Reader.Local readReservationSnapshot := by
  unfold readReservationSnapshot
  infer_instance

instance local_readAdmissionSnapshot : Reader.Local readAdmissionSnapshot := by
  unfold readAdmissionSnapshot
  infer_instance

/-- What is decoded from an encoding is the sender's snapshot, with the
sender's digest, and nothing is decoded from less or more. -/
structure Carries {σ : Type} (decode : List UInt8 → Option σ) (digest : σ → Digest) (bytes : List UInt8)
    (s : σ) : Prop where
  decoded : decode bytes = some s
  cut : ∀ input, Cuts bytes input → decode input = none
  digest : ∀ received, decode bytes = some received → digest received = digest s

theorem carries_of_reads {σ : Type} {r : Reader σ} [Reader.Local r] {digest : σ → Digest}
    {bytes : List UInt8} {s : σ} (h : r.Reads bytes s) : Carries r.whole digest bytes s where
  decoded := h.whole
  cut _ hcut := h.whole_cut hcut
  digest received hreceived := by
    rw [h.whole] at hreceived
    rw [Option.some.inj hreceived]

end Oversub
