import Oversub.Lib.Crash
import Oversub.Lib.Refusals
import Oversub.Journal

/-!
# Oversub.Refusals

No failure of the store reports success (`persistence.cpp`, `state.cpp`):
whatever is wrong with the files of a directory, the status of a refused load
is one that its callers take for a refusal.
-/

namespace Oversub

open Wire Crash Files EarlyFold

/-- A status that reports a failure. -/
def Status.Refuses (s : Status) : Prop := s.isOk = false

theorem refuses_corrupt {reason : ReasonCode} {detail : String} : (corrupt reason detail).Refuses := rfl

/-- Where a result is an error, it is a refusal. -/
def Refused {α : Type} (result : Except Status α) : Prop := ∀ status, result = .error status → status.Refuses

section

variable {α β : Type} {x : Except Status α} {f : α → Except Status β} {status : Status}

theorem refused_error (h : status.Refuses) : Refused (.error status : Except Status α) :=
  fun _ he => Except.error.inj he ▸ h

theorem refused_ok {a : α} : Refused (.ok a) := by
  intro status h
  cases h

theorem Refused.bind (h : Refused x) (hf : ∀ a, Refused (f a)) : Refused (x >>= f) := by
  intro status he
  rcases bind_eq_error.mp he with he | ⟨a, _, he⟩
  · exact h status he
  · exact hf a status he

theorem refused_ensure {c : Prop} [Decidable c] (h : status.Refuses) : Refused (ensure c status) := by
  unfold ensure
  split
  · exact refused_ok
  · exact refused_error h

end

/-! ## Decoding -/

section

variable {α : Type} {bound : Nat} {row : Decoder Status α} {truncated tooLarge : String}

theorem fails_decodeTable (h : row.Fails Status.Refuses) :
    (decodeTable bound row truncated tooLarge).Fails Status.Refuses :=
  (Decoder.fails_ofReader refuses_corrupt).bind fun _ =>
    (Decoder.fails_check refuses_corrupt).bind fun _ => h.times _

theorem refuses_deserializeAuditRecord {bytes : List UInt8} {status : Status}
    (h : deserializeAuditRecord bytes = .error status) : status.Refuses :=
  (Decoder.fails_ofReader refuses_corrupt).whole refuses_corrupt h

theorem fails_decodeAudit : decodeAudit.Fails Status.Refuses := by
  refine fails_decodeTable ?_
  refine (Decoder.fails_ofReader refuses_corrupt).bind fun _ => ?_
  refine (Decoder.fails_need refuses_corrupt).bind fun _ => ?_
  refine (Decoder.fails_ofReader refuses_corrupt).bind fun _ => ?_
  exact Decoder.fails_ofExcept fun _ h => refuses_deserializeAuditRecord h

theorem fails_decodeSchema : decodeSchema.Fails Status.Refuses := by
  refine (Decoder.fails_ofReader refuses_corrupt).bind fun schema => ?_
  have hunsupported : (Status.failure .unsupported .persistenceVersionUnsupported
      ("unsupported state schema version " ++ toString schema.toNat)).Refuses := rfl
  exact (Decoder.fails_check hunsupported).bind fun _ => Decoder.fails_pure

theorem fails_decodeState : decodeState.Fails Status.Refuses := by
  have hread {β : Type} {r : Reader β} {detail : String} :
      (Decoder.ofReader r (corruptState detail)).Fails Status.Refuses := Decoder.fails_ofReader refuses_corrupt
  refine fails_decodeSchema.bind fun _ => hread.bind fun _ => hread.bind fun _ => hread.bind fun _ => ?_
  refine (fails_decodeTable hread).bind fun _ => (fails_decodeTable hread).bind fun _ => ?_
  refine (fails_decodeTable hread).bind fun _ => fails_decodeAudit.bind fun _ => ?_
  exact hread.bind fun _ => Decoder.fails_pure

theorem refused_checkState {decoded : DurableState} : Refused (checkState decoded) := by
  unfold checkState
  dsimp only
  refine (refused_ensure refuses_corrupt).bind fun _ => ?_
  have hmismatch : (Status.failure .integrityFailure .policyDigestMismatch
      "durable policy digest does not match the serialized policy").Refuses := rfl
  exact (refused_ensure hmismatch).bind fun _ => refused_ok

theorem refused_deserializeState {bytes : List UInt8} : Refused (deserializeState bytes) :=
  fun _ h => fails_decodeState.whole refuses_corrupt h

/-- A state file that is not accepted. -/
theorem refused_decodeStateFile {options : StoreOptions} {bytes : List UInt8} :
    Refused (decodeStateFile options bytes) := by
  have hfailure {c : Prop} [Decidable c] {code : StatusCode} {reason : ReasonCode} {detail : String}
      (hcode : (code == .ok) = false) : Refused (ensure c (.failure code reason detail)) := refused_ensure hcode
  unfold decodeStateFile
  refine (refused_ensure refuses_corrupt).bind fun _ => (refused_ensure refuses_corrupt).bind fun _ => ?_
  split
  · exact refused_error refuses_corrupt
  next format length rest _ =>
    refine (hfailure rfl).bind fun _ => (hfailure rfl).bind fun _ => ?_
    refine (refused_ensure refuses_corrupt).bind fun _ => (hfailure rfl).bind fun _ => ?_
    exact refused_deserializeState.bind fun _ => refused_checkState

end

/-! ## Loading -/

theorem refuses_journalFrames {records : List AuditRecord} {status : Status}
    (h : journalFrames records = .error status) : status.Refuses := by
  induction records with
  | nil => cases h
  | cons record records ih =>
      rw [journalFrames, bind_eq_error] at h
      rcases h with h | ⟨frame, _, h⟩
      · exact journalFrame_error h ▸ rfl
      · rw [bind_eq_error] at h
        rcases h with h | ⟨rest, _, h⟩
        · exact ih h
        · cases h

section

variable {s : Store} {path : String} {name : FileName} {bytes : List UInt8} {maxBytes : UInt64}

theorem yields_readFileBounded : Yields (readFileBounded path name maxBytes) Refused := by
  unfold readFileBounded
  refine yields_true.bind fun found _ => ?_
  split
  · exact yields_pure (refused_error rfl)
  · split
    · exact yields_pure (refused_error rfl)
    · refine yields_true.bind fun ok _ => ?_
      split
      · exact yields_pure refused_ok
      · exact yields_pure (refused_error rfl)

theorem yields_loadJournal : Yields s.loadJournal fun r => Refused r.1 := by
  unfold Store.loadJournal
  split
  · exact yields_pure (refused_error rfl)
  · refine yields_readFileBounded.bind fun found hfound => ?_
    split
    next status =>
      split
      · exact yields_pure refused_ok
      · exact yields_pure (refused_error (hfound _ rfl))
    next bytes =>
      dsimp only
      split
      · split
        next status hframes => exact yields_pure (refused_error (refuses_journalFrames hframes))
        · refine yields_true.bind fun status _ => ?_
          split
          · exact yields_pure refused_ok
          next hbad => exact yields_pure (refused_error (Bool.eq_false_iff.mpr hbad))
      · exact yields_pure refused_ok

/-- **A refused load** does not report success. -/
theorem yields_load : Yields s.load fun r => Refused r.1 := by
  unfold Store.load
  split
  · exact yields_pure (refused_error rfl)
  · refine yields_readFileBounded.bind fun found hfound => ?_
    split
    next status =>
      split
      · exact yields_pure refused_ok
      · exact yields_pure (refused_error (hfound _ rfl))
    next bytes =>
      split
      next status hdecoded => exact yields_pure (refused_error (refused_decodeStateFile _ hdecoded))
      next decoded _ =>
        refine yields_loadJournal.bind fun r hr => ?_
        split
        next status s => exact yields_pure (refused_error (hr _ rfl))
        · exact yields_pure refused_ok

end

end Oversub
