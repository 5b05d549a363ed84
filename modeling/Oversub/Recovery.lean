import Oversub.Persistence

/-!
# Oversub.Recovery

What comes back from a directory.  A state file that was written by a save is
read back exactly when its tables fit, and nothing but a save replaces one; a
load is the state of the state file with the records of the journal replayed
over it.
-/

namespace Oversub

open Wire Crash Files

/-! ## A state file -/

/-- Recovery keeps the policy and the incarnation of the state file. -/
theorem recoverState_frame (options : StoreOptions) (decoded : DurableState)
    (records : List AuditRecord) :
    (recoverState options decoded records).1.policy = decoded.policy ∧
      (recoverState options decoded records).1.incarnation = decoded.incarnation := by
  unfold recoverState
  dsimp only
  split
  · exact ⟨rfl, rfl⟩
  · unfold rebuildFromAudit
    dsimp only
    rw [foldl_replayRecord_frame]
    exact ⟨rfl, rfl⟩

/-- It keeps the publishers, flags the evidence and never takes an epoch
back. -/
theorem recoverState_books (options : StoreOptions) (decoded : DurableState)
    (records : List AuditRecord) :
    (recoverState options decoded records).1.publishers = decoded.publishers ∧
      (recoverState options decoded records).1.evidence =
        decoded.evidence.map (fun e => { e with revalidationRequired := true }) ∧
      decoded.epoch.value ≤ (recoverState options decoded records).1.epoch.value := by
  unfold recoverState
  dsimp only
  split
  · exact ⟨rfl, rfl, UInt64.le_refl _⟩
  · unfold rebuildFromAudit
    dsimp only
    refine ⟨?_, ?_, ?_⟩
    · rw [foldl_replayRecord_frame]
    · rw [foldl_replayRecord_frame]
    · exact le_epoch_foldl_replayRecord records
        { state := { decoded with audit := mergeAudit options decoded.audit records } }

theorem checkState_eq_ok {decoded state : DurableState} :
    checkState decoded = .ok state ↔ (validatePolicy decoded.policy).isOk = true ∧
      decoded.policyDigest = decoded.policy.digest ∧ state = decoded := by
  constructor
  · intro h
    obtain ⟨_, hpolicy, h⟩ := EarlyFold.bind_eq_ok.mp h
    obtain ⟨_, hdigest, h⟩ := EarlyFold.bind_eq_ok.mp h
    exact ⟨ensure_eq_ok.mp hpolicy, ensure_eq_ok.mp hdigest, (Except.ok.inj h).symm⟩
  · intro ⟨hpolicy, hdigest, h⟩
    have hend : pure decoded = Except.ok (ε := Status) state := congrArg Except.ok h.symm
    exact EarlyFold.bind_eq_ok.mpr ⟨(), ensure_eq_ok.mpr hpolicy,
      EarlyFold.bind_eq_ok.mpr ⟨(), ensure_eq_ok.mpr hdigest, hend⟩⟩

/-- Only a state with a valid policy comes out of a state file. -/
theorem decodeStateFile_policy {options : StoreOptions} {bytes : List UInt8} {state : DurableState}
    (h : decodeStateFile options bytes = .ok state) : (validatePolicy state.policy).isOk = true := by
  obtain ⟨_, _, h⟩ := EarlyFold.bind_eq_ok.mp h
  obtain ⟨_, _, h⟩ := EarlyFold.bind_eq_ok.mp h
  split at h
  · cases h
  · obtain ⟨_, _, h⟩ := EarlyFold.bind_eq_ok.mp h
    obtain ⟨_, _, h⟩ := EarlyFold.bind_eq_ok.mp h
    obtain ⟨_, _, h⟩ := EarlyFold.bind_eq_ok.mp h
    obtain ⟨_, _, h⟩ := EarlyFold.bind_eq_ok.mp h
    obtain ⟨decoded, _, h⟩ := EarlyFold.bind_eq_ok.mp h
    obtain ⟨hpolicy, _, rfl⟩ := checkState_eq_ok.mp h
    exact hpolicy

section

variable {options : StoreOptions} {payload : List UInt8} {state decoded : DurableState}

theorem reads_frameHeader (version : UInt32) (length : UInt64) :
    readFrameHeader.Reads (leBytes32 version ++ (leBytes32 0 ++ leBytes64 length))
      (version, length) :=
  (Reader.reads_u32 _).bind <| (Reader.reads_u32 _).bind (Reader.reads_u64 _).map

theorem length_makeFrame {magic : List UInt8} {version : UInt32} :
    (makeFrame magic version payload).length = magic.length + (16 + (payload.length + 32)) := by
  simp only [makeFrame, List.length_append, length_leBytes32, length_leBytes64,
    Digest.length_bytes]

/-- The payload of a state file that was written is read back. -/
theorem decodeStateFile_makeStateFile (hlen : payload.length < 2 ^ 64) :
    decodeStateFile options (makeStateFile payload) = .ok decoded ↔
      UInt64.ofNat payload.length ≤ options.maxStateBytes ∧
        ∃ state, deserializeState payload = .ok state ∧ checkState state = .ok decoded := by
  have hlength : (makeStateFile payload).length = 8 + (16 + (payload.length + 32)) := length_makeFrame
  have hmagic : (makeStateFile payload).take 8 = kStateMagic := rfl
  have hdrop : (makeStateFile payload).drop 8 =
      (leBytes32 kStateFormatVersion ++ (leBytes32 0 ++ leBytes64 (UInt64.ofNat payload.length))) ++
        (payload ++ (sha256 payload).bytes) := rfl
  have hcount : (UInt64.ofNat payload.length).toNat = payload.length := Nat.mod_eq_of_lt hlen
  have hsize : UInt64.ofNat (makeStateFile payload).length =
      UInt64.ofNat kStateHeaderBytes + UInt64.ofNat payload.length + 32 := by
    have hsum : 8 + (16 + (payload.length + 32)) = kStateHeaderBytes + payload.length + 32 := by
      rw [kStateHeaderBytes]
      omega
    rw [hlength, hsum, UInt64.ofNat_add, UInt64.ofNat_add]
    rfl
  have htail : (makeStateFile payload).drop ((makeStateFile payload).length - 32) =
      (sha256 payload).bytes := by
    have hsplit : makeStateFile payload = (kStateMagic ++ ((leBytes32 kStateFormatVersion ++
        (leBytes32 0 ++ leBytes64 (UInt64.ofNat payload.length))) ++ payload)) ++
          (sha256 payload).bytes := by
      simp only [makeStateFile, makeFrame, List.append_assoc]
    have hfront : (makeStateFile payload).length - 32 = (kStateMagic ++
        ((leBytes32 kStateFormatVersion ++ (leBytes32 0 ++
          leBytes64 (UInt64.ofNat payload.length))) ++ payload)).length := by
      rw [hlength]
      simp only [List.length_append, length_leBytes32, length_leBytes64, kStateMagic,
        List.length_cons, List.length_nil]
      omega
    rw [hfront, hsplit, List.drop_left]
  have htoo : kStateHeaderBytes + 32 ≤ (makeStateFile payload).length := by
    rw [hlength, kStateHeaderBytes]
    omega
  unfold decodeStateFile
  rw [hdrop, hmagic, reads_frameHeader kStateFormatVersion (UInt64.ofNat payload.length)]
  simp only [EarlyFold.bind_eq_ok, ensure_eq_ok, hcount, List.take_left, hsize, htail, htoo,
    true_and, exists_const]

/-- **A saved state is read back** exactly when its tables fit. -/
theorem decodeStateFile_saved (hs : serializeState state = .ok payload)
    (hlen : payload.length < 2 ^ 64) (hp : (validatePolicy state.policy).isOk = true) :
    decodeStateFile options (makeStateFile payload) = .ok decoded ↔
      UInt64.ofNat payload.length ≤ options.maxStateBytes ∧ state.Fits ∧
        state.policyDigest = state.policy.digest ∧ decoded = state := by
  have hread (s : DurableState) : deserializeState payload = .ok s ↔ state.Fits ∧ s = state :=
    deserializeState_eq_ok (validatePolicy_storable hp) hs hlen
  rw [decodeStateFile_makeStateFile hlen]
  simp only [hread, checkState_eq_ok]
  constructor
  · intro ⟨hmax, _, ⟨hfits, rfl⟩, _, hdigest, hdecoded⟩
    exact ⟨hmax, hfits, hdigest, hdecoded⟩
  · intro ⟨hmax, hfits, hdigest, hdecoded⟩
    exact ⟨hmax, state, ⟨hfits, rfl⟩, hp, hdigest, hdecoded⟩

end

/-! ## Operations that spare the state file -/

theorem spares_readFileBounded {path : String} {name other : FileName} {maxBytes : UInt64} :
    Spares name (readFileBounded path other maxBytes) := by
  refine spares_content.bind fun bytes => ?_
  cases bytes with
  | none => exact spares_pure
  | some bytes =>
      dsimp only
      split
      · exact spares_pure
      · refine spares_attempt.bind fun ok => ?_
        split <;> exact spares_pure

theorem spares_writeFileAtomic {path : String} {bytes : List UInt8} :
    Spares .state (writeFileAtomic path .journal bytes) := by
  refine (spares_replace (by decide)).bind fun ok => ?_
  split <;> exact spares_pure

theorem spares_appendFile {path : String} {bytes : List UInt8} :
    Spares .state (appendFile path .journal bytes) := by
  refine (spares_append (by decide)).bind fun ok => ?_
  split <;> exact spares_pure

namespace Store

variable {s : Store}

theorem spares_appendAudit {record : AuditRecord} : Spares .state (s.appendAudit record) := by
  unfold appendAudit
  split
  · exact spares_pure
  · split
    · exact spares_pure
    · split
      · exact spares_pure
      · refine spares_appendFile.bind fun status => ?_
        split <;> exact spares_pure

theorem spares_compactJournal {records : List AuditRecord} {keep : UInt64} :
    Spares .state (s.compactJournal records keep) := by
  unfold compactJournal
  dsimp only
  split
  · exact spares_pure
  · split
    · exact spares_pure
    · refine spares_writeFileAtomic.bind fun status => ?_
      split <;> exact spares_pure

end Store

/-! ## The end of an undamaged journal -/

section

variable {options : StoreOptions} {bytes rest : List UInt8} {record : AuditRecord}

theorem length_readFrameHeader {header : UInt32 × UInt64}
    (h : readFrameHeader bytes = some (header, rest)) : bytes.length = rest.length + 16 := by
  obtain ⟨⟨_, bytes₁⟩, h₁, h⟩ := Option.bind_eq_some_iff.mp h
  obtain ⟨⟨_, bytes₂⟩, h₂, h⟩ := Option.bind_eq_some_iff.mp h
  obtain ⟨⟨_, bytes₃⟩, h₃, h⟩ := Option.bind_eq_some_iff.mp h
  have hrest : bytes₃ = rest := congrArg Prod.snd (Option.some.inj h)
  have hlen₁ := Reader.length_u32 h₁
  have hlen₂ := Reader.length_u32 h₂
  have hlen₃ := Reader.length_u64 h₃
  dsimp only at hlen₂ hlen₃
  rw [← hrest]
  omega

/-- An intact frame is within the journal. -/
theorem scanFrame_size {maxStateBytes : UInt64} {size : Nat}
    (h : scanFrame maxStateBytes bytes = .intact record size) : 0 < size ∧ size ≤ bytes.length := by
  unfold scanFrame at h
  split at h
  · cases h
  next hlong =>
    split at h
    · cases h
    split at h
    · cases h
    next rest hheader =>
      split at h
      · cases h
      split at h
      · cases h
      dsimp only at h
      split at h
      · cases h
      next length _ _ hdigest =>
        split at h
        · cases h
        · obtain ⟨-, rfl⟩ := FrameScan.intact.inj h
          have hlen := length_readFrameHeader hheader
          have hdigest' := congrArg List.length (not_not.mp hdigest)
          rw [Digest.length_bytes, List.length_take, List.length_drop] at hdigest'
          rw [List.length_drop] at hlen
          rw [kJournalHeaderBytes] at hlong ⊢
          omega

theorem recovered_of_undamaged {fuel offset : Nat} {records : List AuditRecord}
    (hfuel : bytes.length < fuel)
    (h : (scanFrames options fuel bytes offset records).damaged = false) :
    (scanFrames options fuel bytes offset records).recovered = offset + bytes.length := by
  induction fuel generalizing bytes offset records with
  | zero => exact absurd hfuel (Nat.not_lt_zero _)
  | succ fuel ih =>
      unfold scanFrames at h ⊢
      by_cases hempty : bytes = []
      · rw [if_pos hempty, hempty]
        rfl
      · rw [if_neg hempty] at h ⊢
        cases hscan : scanFrame options.maxStateBytes bytes with
        | damaged consumed =>
            rw [hscan] at h
            cases h
        | intact record size =>
            rw [hscan] at h
            dsimp only at h ⊢
            obtain ⟨hpos, hle⟩ := scanFrame_size hscan
            split at h
            · cases h
            next hcount =>
              have hdrop : (bytes.drop size).length = bytes.length - size := List.length_drop
              rw [if_neg hcount, ih (by omega) h, hdrop]
              omega

end

/-! ## Loading -/

/-- The records a load takes from the journal, and the directory it leaves: a
damaged journal is rewritten. -/
inductive Recovers (options : StoreOptions) (disk : Disk) : List AuditRecord → Disk → Prop
  | absent (h : disk .journal = none) : Recovers options disk [] disk
  | intact {bytes : List UInt8} (h : disk .journal = some bytes) (hlen : bytes.length < 2 ^ 64)
      (hscan : (scanJournal options bytes).damaged = false) :
      Recovers options disk (scanJournal options bytes).records disk
  | rewritten {bytes rebuilt : List UInt8} (h : disk .journal = some bytes)
      (hlen : bytes.length < 2 ^ 64) (hscan : (scanJournal options bytes).damaged = true)
      (hrebuilt : journalFrames (scanJournal options bytes).records = .ok rebuilt) :
      Recovers options disk (scanJournal options bytes).records (replaced disk .journal rebuilt)

/-- The counters of a store whose journal has some records. -/
structure Counts (s : Store) (disk : Disk) (records : List AuditRecord) : Prop where
  isOpen : s.isOpen = true
  bytes : s.journalBytes = UInt64.ofNat ((disk .journal).getD []).length
  records : s.journalRecords = UInt64.ofNat records.length

/-- What a load returns, and the directory it leaves. -/
structure Loads (options : StoreOptions) (disk : Disk) (state : DurableState) (disk' : Disk) :
    Prop where
  found : ∃ bytes decoded records, disk .state = some bytes ∧
    decodeStateFile options bytes = .ok decoded ∧ Recovers options disk records disk' ∧
      state = (recoverState options decoded records).1

section

variable {w : World FileName} {path : String} {maxBytes : UInt64} {bytes : List UInt8}
  {disk disk' : Disk} {records : List AuditRecord} {options : StoreOptions}

theorem Recovers.state (h : Recovers options disk records disk') : disk' .state = disk .state := by
  cases h with
  | absent => rfl
  | intact => rfl
  | rewritten => exact replaced_ne (by decide)

/-- Reading a file changes none, and only a file that is not there is not
found; what is read is within the bound. -/
theorem meets_readFileBounded {name : FileName} :
    Meets (readFileBounded path name maxBytes)
      (fun r w' => w'.disk = w.disk ∧ match r with
        | .ok bytes => w.disk name = some bytes ∧ bytes.length ≤ maxBytes.toNat
        | .error status => status.code = .notFound ↔ w.disk name = none)
      (fun w' => w'.disk = w.disk) w := by
  unfold readFileBounded
  rw [meets_bind, meets_content]
  cases hcontent : w.disk name with
  | none => exact ⟨rfl, fun _ => rfl, fun _ => rfl⟩
  | some bytes =>
      dsimp only
      split
      · exact ⟨rfl, nofun, nofun⟩
      next hle =>
        rw [meets_bind]
        exact meets_attempt ⟨rfl, rfl, Nat.not_lt.mp hle⟩ (fun _ => ⟨rfl, nofun, nofun⟩) rfl

theorem meets_writeFileAtomic {name : FileName} :
    Meets (writeFileAtomic path name bytes)
      (fun status w' =>
        w'.disk = if status.isOk then replaced w.disk name bytes else w.disk)
      (fun w' => w'.disk = w.disk ∨ w'.disk = replaced w.disk name bytes) w := by
  unfold writeFileAtomic
  rw [meets_bind]
  exact meets_replace rfl (fun _ => rfl) (.inl rfl) (.inr rfl)

end

theorem completes_writeFileAtomic {path : String} {name : FileName} {bytes : List UInt8}
    {disk : Disk} : Completes (writeFileAtomic path name bytes) disk .success
      (replaced disk name bytes) :=
  completes_replace.bind completes_pure

theorem completes_appendFile {path : String} {name : FileName} {bytes : List UInt8} {disk : Disk} :
    Completes (appendFile path name bytes) disk .success (appended disk name bytes) :=
  completes_append.bind completes_pure

theorem completes_readFileBounded {path : String} {name : FileName} {maxBytes : UInt64}
    {bytes : List UInt8} {disk : Disk} (h : disk name = some bytes)
    (hle : bytes.length ≤ maxBytes.toNat) :
    Completes (readFileBounded path name maxBytes) disk (.ok bytes) disk := by
  unfold readFileBounded
  refine completes_content.bind ?_
  rw [h]
  dsimp only
  rw [if_neg (Nat.not_lt.mpr hle)]
  exact completes_attempt.bind completes_pure

theorem completes_readFileBounded_none {path : String} {name : FileName} {maxBytes : UInt64}
    {disk : Disk} (h : disk name = none) :
    Completes (readFileBounded path name maxBytes) disk
      (.error (.failure .notFound .none ("file not found: " ++ path))) disk := by
  unfold readFileBounded
  refine completes_content.bind ?_
  rw [h]
  exact completes_pure

namespace Store

variable {s : Store} {w : World FileName}

theorem meets_open {options : StoreOptions} :
    Meets (s.open options)
      (fun r w' => w'.disk = w.disk ∧
        (r.1.isOk = true → r.2.options = options ∧ Counts r.2 w.disk []))
      (fun w' => w'.disk = w.disk) w := by
  unfold Store.open
  split
  · exact ⟨rfl, nofun⟩
  split
  · exact ⟨rfl, nofun⟩
  split
  · exact ⟨rfl, nofun⟩
  · rw [meets_bind]
    exact meets_attempt ⟨rfl, fun _ => ⟨rfl, rfl, rfl, rfl⟩⟩ (fun _ => ⟨rfl, nofun⟩) rfl

/-- **The journal**: what loading it returns and leaves. -/
theorem meets_loadJournal :
    Meets s.loadJournal
      (fun r w' => r.2.options = s.options ∧ match r.1 with
        | .ok loaded => Recovers s.options w.disk loaded.1 w'.disk ∧ Counts r.2 w'.disk loaded.1
        | .error _ => w'.disk = w.disk)
      (fun w' => w'.disk = w.disk ∨ ∃ records, Recovers s.options w.disk records w'.disk) w := by
  unfold loadJournal
  split
  · exact ⟨rfl, rfl⟩
  next hopen =>
    replace hopen : s.isOpen = true := by simpa using hopen
    rw [meets_bind]
    refine meets_readFileBounded.mono (fun read w₁ ⟨hdisk, hread⟩ => ?_) fun w₁ h => .inl h
    cases read with
    | error status =>
        dsimp only at hread ⊢
        split
        next hcode =>
          have hrecovers : Recovers s.options w.disk [] w₁.disk := by
            rw [hdisk]
            exact .absent (hread.mp hcode)
          have hbytes : ((w₁.disk .journal).getD []).length = 0 := by
            rw [hdisk, hread.mp hcode]
            rfl
          exact ⟨rfl, hrecovers, hopen, congrArg UInt64.ofNat hbytes.symm, rfl⟩
        · exact ⟨rfl, hdisk⟩
    | ok bytes =>
        dsimp only at hread ⊢
        obtain ⟨hread, hle⟩ := hread
        have hlen : bytes.length < 2 ^ 64 := Nat.lt_of_le_of_lt hle (UInt64.toNat_lt _)
        split
        next hscan =>
          split
          · exact ⟨rfl, hdisk⟩
          next rebuilt hrebuilt =>
            rw [meets_bind]
            refine meets_writeFileAtomic.mono (fun status w₂ h => ?_) fun w₂ h => ?_
            · rw [hdisk] at h
              split
              next hok =>
                rw [if_pos hok] at h
                have hbytes : (w₂.disk .journal).getD [] = rebuilt := by
                  rw [h, replaced_self, Option.getD_some]
                have hrecovers : Recovers s.options w.disk (scanJournal s.options bytes).records
                    w₂.disk := by
                  rw [h]
                  exact .rewritten hread hlen hscan hrebuilt
                exact ⟨rfl, hrecovers, hopen,
                  congrArg (fun bytes => UInt64.ofNat bytes.length) hbytes.symm, rfl⟩
              next hok =>
                rw [if_neg hok] at h
                exact ⟨rfl, h⟩
            · rw [hdisk] at h
              rcases h with h | h
              · exact .inl h
              · rw [h]
                exact .inr ⟨_, .rewritten hread hlen hscan hrebuilt⟩
        next hscan =>
          replace hscan : (scanJournal s.options bytes).damaged = false := by simpa using hscan
          have hrecovers : Recovers s.options w.disk (scanJournal s.options bytes).records w₁.disk := by
            rw [hdisk]
            exact .intact hread hlen hscan
          have hbytes : (scanJournal s.options bytes).recovered =
              ((w₁.disk .journal).getD []).length := by
            rw [hdisk, hread, Option.getD_some]
            exact (recovered_of_undamaged (Nat.lt_succ_self _) hscan).trans (Nat.zero_add _)
          exact ⟨rfl, hrecovers, hopen, congrArg UInt64.ofNat hbytes, rfl⟩

/-- **Loading**: the state of the state file, with the journal replayed over
it, or none where there is no state file. -/
theorem meets_load :
    Meets s.load
      (fun r w' => r.2.options = s.options ∧ match r.1 with
        | .ok (some state, _) => Loads s.options w.disk state w'.disk ∧
            ∃ records, Recovers s.options w.disk records w'.disk ∧ Counts r.2 w'.disk records
        | .ok (none, _) => w.disk .state = none ∧ w'.disk = w.disk ∧ r.2 = s
        | .error _ => w'.disk = w.disk)
      (fun w' => w'.disk = w.disk ∨ ∃ records, Recovers s.options w.disk records w'.disk) w := by
  unfold load
  split
  · exact ⟨rfl, rfl⟩
  · rw [meets_bind]
    refine meets_readFileBounded.mono (fun read w₁ ⟨hdisk, hread⟩ => ?_) fun w₁ h => .inl h
    cases read with
    | error status =>
        dsimp only at hread ⊢
        split
        next hcode => exact ⟨rfl, hread.mp hcode, hdisk, rfl⟩
        · exact ⟨rfl, hdisk⟩
    | ok bytes =>
        dsimp only at hread ⊢
        cases hdecoded : decodeStateFile s.options bytes with
        | error status => exact ⟨rfl, hdisk⟩
        | ok decoded =>
            dsimp only
            replace hread := hread.1
            rw [meets_bind]
            refine meets_loadJournal.mono (fun ⟨journal, s'⟩ w₂ ⟨hoptions, h⟩ => ?_) fun w₂ h => ?_
            · rw [hdisk] at h
              cases journal with
              | error status => exact ⟨hoptions, h⟩
              | ok loaded =>
                  dsimp only at hoptions h ⊢
                  rw [hoptions]
                  obtain ⟨hrecovers, hcounts⟩ := h
                  exact ⟨hoptions, ⟨bytes, decoded, loaded.1, hread, hdecoded, hrecovers, rfl⟩,
                    loaded.1, hrecovers, hcounts⟩
            · rwa [hdisk] at h

end Store

/-- A state that is loaded has a valid policy. -/
theorem Loads.policy {options : StoreOptions} {disk disk' : Disk} {state : DurableState}
    (h : Loads options disk state disk') : (validatePolicy state.policy).isOk = true := by
  obtain ⟨bytes, decoded, records, _, hdecoded, _, rfl⟩ := h.found
  rw [(recoverState_frame _ _ _).1]
  exact decodeStateFile_policy hdecoded

theorem Loads.recovers {options : StoreOptions} {disk disk' : Disk} {state : DurableState}
    (h : Loads options disk state disk') : ∃ records, Recovers options disk records disk' := by
  obtain ⟨_, _, records, _, _, hrecovers, _⟩ := h.found
  exact ⟨records, hrecovers⟩

end Oversub
