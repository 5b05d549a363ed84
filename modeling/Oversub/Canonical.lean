import Oversub.Lib.Rearrange
import Oversub.Lib.Streams
import Oversub.Policy

/-!
# Oversub.Canonical

The byte streams behind the digests of policies and domains.  The hasher takes
its input in pieces, and the digest is that of all of them in a row; the stream
of a policy or a domain determines every field that it covers.
-/

namespace Oversub

open Wire Streams

/-! ## Hashing in pieces -/

namespace Sha256

/-- A hasher between two updates. -/
structure Running (s : Sha256) : Prop where
  unfinished : s.finished = false
  space : s.buffer.length < 64

section

variable {s : Sha256} {data data' : List UInt8}

theorem running_init : Running init := ⟨rfl, by decide⟩

theorem Running.padByte {x : UInt8} (h : Running s) : Running (s.padByte x) := by
  have hspace := h.space
  unfold Sha256.padByte
  dsimp only
  split
  · exact ⟨h.unfinished, Nat.zero_lt_succ _⟩
  next hlength =>
    refine ⟨h.unfinished, ?_⟩
    simp only [List.length_append, List.length_singleton] at hlength ⊢
    omega

theorem Running.foldl (h : Running s) : Running (data.foldl Sha256.padByte s) := by
  induction data generalizing s with
  | nil => exact h
  | cons x data ih => exact ih h.padByte

theorem Running.counted {n : UInt64} (h : Running s) : Running { s with bitLength := n } :=
  ⟨h.unfinished, h.space⟩

/-- Bytes that do not fill the block. -/
theorem foldl_padByte_short (h : s.buffer.length + data.length < 64) :
    data.foldl padByte s = { s with buffer := s.buffer ++ data } := by
  induction data generalizing s with
  | nil => simp
  | cons x data ih =>
      have hbyte : s.padByte x = { s with buffer := s.buffer ++ [x] } := by
        unfold padByte
        refine if_neg ?_
        simp only [List.length_append, List.length_cons, List.length_nil] at h ⊢
        omega
      rw [List.foldl_cons, hbyte, ih (by
        simp only [List.length_append, List.length_cons, List.length_nil] at h ⊢
        omega)]
      simp

/-- Bytes that fill it. -/
theorem foldl_padByte_full (h : s.buffer.length + data.length = 64) (hspace : s.buffer.length < 64) :
    data.foldl padByte s =
      { s with state := transform s.state (s.buffer ++ data), buffer := [] } := by
  rcases List.eq_nil_or_concat data with rfl | ⟨front, x, rfl⟩
  · simp only [List.length_nil] at h
    omega
  · rw [List.concat_eq_append] at h ⊢
    simp only [List.length_append, List.length_cons, List.length_nil] at h
    have hfront := @foldl_padByte_short s front (by omega)
    have hlast : (s.buffer ++ front ++ [x]).length = 64 := by
      simp only [List.length_append, List.length_cons, List.length_nil]
      omega
    rw [List.foldl_append, hfront, List.foldl_cons, List.foldl_nil, ← List.append_assoc]
    exact if_pos hlast

theorem updateLoop_nil {fuel : Nat} : updateLoop fuel s [] = s := by
  cases fuel <;> simp [updateLoop]

/-- The copy loop takes the bytes one after the other. -/
theorem updateLoop_eq {fuel : Nat} (hspace : s.buffer.length < 64) (hfuel : data.length ≤ fuel) :
    updateLoop fuel s data = data.foldl padByte s := by
  induction fuel generalizing s data with
  | zero =>
      obtain rfl := List.length_eq_zero_iff.mp (Nat.le_zero.mp hfuel)
      rfl
  | succ fuel ih =>
      by_cases hnil : data = []
      · rw [hnil, updateLoop_nil]
        rfl
      · rw [updateLoop, if_neg hnil]
        dsimp only
        by_cases hshort : data.length < 64 - s.buffer.length
        · rw [if_pos hshort, List.take_length, List.drop_length, updateLoop_nil,
            foldl_padByte_short (by omega), if_neg]
          rw [List.length_append]
          omega
        · have htake : (data.take (64 - s.buffer.length)).length = 64 - s.buffer.length := by
            rw [List.length_take]
            omega
          have hfull : (s.buffer ++ data.take (64 - s.buffer.length)).length = 64 := by
            rw [List.length_append, htake]
            omega
          rw [if_neg hshort, if_pos hfull]
          have hrest : data.foldl padByte s = (data.drop (64 - s.buffer.length)).foldl padByte
              ((data.take (64 - s.buffer.length)).foldl padByte s) := by
            rw [← List.foldl_append, List.take_append_drop]
          rw [hrest, foldl_padByte_full (by omega) hspace]
          refine ih (Nat.zero_lt_succ _) ?_
          rw [List.length_drop]
          omega

theorem update_eq (h : Running s) : s.update data =
    data.foldl padByte { s with bitLength := s.bitLength + UInt64.ofNat data.length * 8 } := by
  unfold update
  cases data with
  | nil => simp
  | cons x data =>
      rw [if_neg (by simp [h.unfinished])]
      exact updateLoop_eq h.space (Nat.le_refl _)

theorem foldl_padByte_counted {n : UInt64} : data.foldl padByte { s with bitLength := n } =
    { data.foldl padByte s with bitLength := n } := by
  induction data generalizing s with
  | nil => rfl
  | cons x data ih =>
      have hbyte : padByte { s with bitLength := n } x = { padByte s x with bitLength := n } := by
        unfold padByte
        dsimp only
        split <;> rfl
      rw [List.foldl_cons, List.foldl_cons, hbyte, ih]

theorem bitLength_foldl_padByte : (data.foldl padByte s).bitLength = s.bitLength := by
  have hsame := @foldl_padByte_counted s data s.bitLength
  exact congrArg (·.bitLength) hsame

/-- **Two updates** are one with all the bytes. -/
theorem update_update (h : Running s) : (s.update data).update data' = s.update (data ++ data') := by
  have hfirst : Running (s.update data) := by
    rw [update_eq h]
    exact h.counted.foldl
  have hcount : s.bitLength + UInt64.ofNat data.length * 8 + UInt64.ofNat data'.length * 8 =
      s.bitLength + UInt64.ofNat (data ++ data').length * 8 := by
    rw [List.length_append, UInt64.ofNat_add, UInt64.add_mul, UInt64.add_assoc]
  rw [update_eq hfirst, update_eq h, update_eq h, ← hcount, List.foldl_append, bitLength_foldl_padByte]
  simp only [foldl_padByte_counted]

end

end Sha256

/-- A hasher that has taken these bytes. -/
def CanonicalHasher.Took (h : CanonicalHasher) (bytes : List UInt8) : Prop :=
  h.sha = Sha256.init.update bytes

namespace CanonicalHasher

variable {h : CanonicalHasher} {bytes : List UInt8}

theorem took_nil : Took {} [] := rfl

theorem Took.addRaw (ht : Took h bytes) (more : List UInt8) : Took (h.addRaw more) (bytes ++ more) := by
  unfold Took CanonicalHasher.addRaw at *
  rw [ht, Sha256.update_update Sha256.running_init]

theorem Took.addU32 (ht : Took h bytes) (x : UInt32) : Took (h.addU32 x) (bytes ++ leBytes32 x) := ht.addRaw _

theorem Took.addU64 (ht : Took h bytes) (x : UInt64) : Took (h.addU64 x) (bytes ++ leBytes64 x) := ht.addRaw _

theorem Took.addNat (ht : Took h bytes) (n : Nat) :
    Took (h.addNat n) (bytes ++ leBytes64 (UInt64.ofNat n)) := ht.addRaw _

theorem Took.addBool (ht : Took h bytes) (x : Bool) :
    Took (h.addBool x) (bytes ++ [if x then (1 : UInt8) else 0]) := ht.addRaw _

theorem Took.addString (ht : Took h bytes) (x : List UInt8) :
    Took (h.addString x) (bytes ++ (leBytes64 (UInt64.ofNat x.length) ++ x)) := by
  rw [← List.append_assoc]
  exact (ht.addU64 _).addRaw _

theorem Took.foldl {α : Type} {f : CanonicalHasher → α → CanonicalHasher} {w : α → List UInt8}
    (hf : ∀ {h bytes} a, Took h bytes → Took (f h a) (bytes ++ w a)) (ht : Took h bytes) (l : List α) :
    Took (l.foldl f h) (bytes ++ l.flatMap w) := by
  induction l generalizing h bytes with
  | nil => simpa using ht
  | cons a l ih =>
      rw [List.flatMap_cons, ← List.append_assoc]
      exact ih (hf a ht)

/-- Items behind their number. -/
theorem Took.items {α : Type} {f : CanonicalHasher → α → CanonicalHasher} {w : α → List UInt8}
    (hf : ∀ {h bytes} a, Took h bytes → Took (f h a) (bytes ++ w a)) (ht : Took h bytes) (l : List α) :
    Took (l.foldl f (h.addNat l.length))
      (bytes ++ (leBytes64 (UInt64.ofNat l.length) ++ l.flatMap w)) := by
  rw [← List.append_assoc]
  exact Took.foldl hf (ht.addU64 _) l

theorem Took.digest (ht : Took h bytes) : h.digest = sha256 bytes := congrArg Sha256.finish ht

end CanonicalHasher

/-! ## The streams of policies -/

/-- Bytes behind their length. -/
def stringStream (x : List UInt8) : List UInt8 := leBytes64 (UInt64.ofNat x.length) ++ x

/-- Items behind their number. -/
def itemsStream {α : Type} (w : α → List UInt8) (l : List α) : List UInt8 :=
  leBytes64 (UInt64.ofNat l.length) ++ l.flatMap w

def boolStream (x : Bool) : List UInt8 := [if x then 1 else 0]

def ratioStream (r : Ratio) : List UInt8 := leBytes64 r.num ++ leBytes64 r.den

/-- What `addDomainBoundary` feeds. -/
def boundaryStream (d : DomainConfig) : List UInt8 :=
  stringStream d.name ++ leBytes64 d.pool.value ++ itemsStream leBytes64 (sortedMemberValues d.members) ++
    ratioStream d.configuredRatio ++ boolStream d.hasDegradedRatioCap ++ ratioStream d.degradedRatioCap ++
    leBytes64 d.emergencyReserveUnits ++ leBytes64 d.minProtectedHeadroomUnits ++
    boolStream d.burstPoolEnabled ++ leBytes64 d.burstPoolCapUnits

def domainStream (d : DomainConfig) : List UInt8 :=
  leBytes64 d.id.value ++ leBytes64 d.generation.value ++ boundaryStream d

/-- What `addServiceClass` feeds. -/
def serviceClassStream (c : ServiceClassRef) : List UInt8 :=
  leBytes64 c.id.value ++ stringStream c.name ++ leBytes32 c.priority.value ++
    boolStream c.oversubscriptionEligible ++ leBytes32 c.riskWeightPpm ++
    boolStream c.hasContingentShareCap ++ leBytes64 c.contingentShareCapPpm

def riskBudgetStream (r : RiskBudgetPolicy) : List UInt8 :=
  leBytes64 r.id.value ++ leBytes64 r.generation.value ++ boolStream r.hasAbsolute ++
    leBytes64 r.maxExposureUnits ++ boolStream r.hasPpm ++ leBytes64 r.maxExposurePpm

def thresholdsStream (th : OversubscriptionThresholds) : List UInt8 :=
  leBytes64 th.warnUsedPpm ++ leBytes64 th.reduceOveragePpm ++ leBytes64 th.emergencyOveragePpm

def hysteresisStream (hy : HysteresisPolicy) : List UInt8 :=
  leBytes64 hy.escalationConfirmations ++ leBytes64 hy.deescalationConfirmations ++
    leBytes64 hy.cooldownTicks ++ leBytes64 hy.deescalationMarginPpm

def limitsStream (lim : PolicyLimits) : List UInt8 :=
  leBytes32 lim.maxDomains ++ leBytes32 lim.maxResourcesPerDomain ++ leBytes32 lim.maxServiceClasses ++
    leBytes64 lim.maxGuaranteesPerSnapshot ++ leBytes64 lim.maxDemandRecordsPerSnapshot ++
    leBytes32 lim.maxCorrectiveIntents ++ leBytes32 lim.maxExplanationLines ++
    leBytes32 lim.maxExplanationBytes ++ leBytes32 lim.maxResourceBreakdown ++ leBytes64 lim.maxCapacityUnits

def policyTag : List UInt8 := stringStream (textBytes "oversub.policy.v1")

/-- What `policy_digest` hashes. -/
def policyStream (p : OversubscriptionPolicy) : List UInt8 :=
  policyTag ++ leBytes64 p.id.value ++ leBytes64 p.generation.value ++ stringStream p.name ++
    ratioStream p.policyRatioCap ++ itemsStream domainStream (sortDomains p.domains) ++
    itemsStream serviceClassStream (sortServiceClasses p.serviceClasses) ++ riskBudgetStream p.riskBudget ++
    thresholdsStream p.thresholds ++ hysteresisStream p.hysteresis ++ limitsStream p.limits ++
    leBytes64 p.maxCapacityAgeTicks ++ leBytes64 p.maxReservationAgeTicks ++ leBytes64 p.maxAdmissionAgeTicks

section

variable {h : CanonicalHasher} {bytes : List UInt8}

theorem took_addDomainBoundary (d : DomainConfig) (ht : h.Took bytes) :
    (addDomainBoundary h d).Took (bytes ++ boundaryStream d) := by
  have hmembers {h : CanonicalHasher} {bytes : List UInt8} (ht : h.Took bytes) :=
    CanonicalHasher.Took.items (fun m ht => ht.addU64 m) ht (sortedMemberValues d.members)
  have htook := (((((((((ht.addString d.name).addU64 d.pool.value |> hmembers).addU64
    d.configuredRatio.num).addU64 d.configuredRatio.den).addBool d.hasDegradedRatioCap).addU64
    d.degradedRatioCap.num).addU64 d.degradedRatioCap.den).addU64 d.emergencyReserveUnits).addU64
    d.minProtectedHeadroomUnits).addBool d.burstPoolEnabled |>.addU64 d.burstPoolCapUnits
  unfold addDomainBoundary boundaryStream
  simp only [stringStream, itemsStream, ratioStream, boolStream, ← List.append_assoc] at htook ⊢
  exact htook

theorem took_domain (d : DomainConfig) (ht : h.Took bytes) :
    (addDomainBoundary ((h.addU64 d.id.value).addU64 d.generation.value) d).Took
      (bytes ++ domainStream d) := by
  have htook := took_addDomainBoundary d ((ht.addU64 d.id.value).addU64 d.generation.value)
  simp only [domainStream, ← List.append_assoc] at htook ⊢
  exact htook

theorem took_addServiceClass (c : ServiceClassRef) (ht : h.Took bytes) :
    (addServiceClass h c).Took (bytes ++ serviceClassStream c) := by
  have htook := ((((((ht.addU64 c.id.value).addString c.name).addU32 c.priority.value).addBool
    c.oversubscriptionEligible).addU32 c.riskWeightPpm).addBool c.hasContingentShareCap).addU64
    c.contingentShareCapPpm
  simp only [serviceClassStream, stringStream, boolStream, ← List.append_assoc] at htook ⊢
  exact htook

end

/-- **The digest of a policy** is that of its stream. -/
theorem policyDigest_eq (p : OversubscriptionPolicy) : policyDigest p = sha256 (policyStream p) := by
  have hdomains : p.domains.length = (sortDomains p.domains).length := (List.length_insertionSort _ _).symm
  have hclasses : p.serviceClasses.length = (sortServiceClasses p.serviceClasses).length :=
    (List.length_insertionSort _ _).symm
  have hhead := ((((CanonicalHasher.took_nil.addString (textBytes "oversub.policy.v1")).addU64
    p.id.value).addU64 p.generation.value).addString p.name).addU64 p.policyRatioCap.num |>.addU64
    p.policyRatioCap.den
  have hlists := CanonicalHasher.Took.items took_addServiceClass
    (CanonicalHasher.Took.items took_domain hhead (sortDomains p.domains)) (sortServiceClasses p.serviceClasses)
  have hrisk := (((((hlists.addU64 p.riskBudget.id.value).addU64 p.riskBudget.generation.value).addBool
    p.riskBudget.hasAbsolute).addU64 p.riskBudget.maxExposureUnits).addBool p.riskBudget.hasPpm).addU64
    p.riskBudget.maxExposurePpm
  have hthresholds := ((hrisk.addU64 p.thresholds.warnUsedPpm).addU64 p.thresholds.reduceOveragePpm).addU64
    p.thresholds.emergencyOveragePpm
  have hhysteresis := (((hthresholds.addU64 p.hysteresis.escalationConfirmations).addU64
    p.hysteresis.deescalationConfirmations).addU64 p.hysteresis.cooldownTicks).addU64
    p.hysteresis.deescalationMarginPpm
  have hlimits := (((((((((hhysteresis.addU32 p.limits.maxDomains).addU32
    p.limits.maxResourcesPerDomain).addU32 p.limits.maxServiceClasses).addU64
    p.limits.maxGuaranteesPerSnapshot).addU64 p.limits.maxDemandRecordsPerSnapshot).addU32
    p.limits.maxCorrectiveIntents).addU32 p.limits.maxExplanationLines).addU32
    p.limits.maxExplanationBytes).addU32 p.limits.maxResourceBreakdown).addU64 p.limits.maxCapacityUnits
  have hall := ((hlimits.addU64 p.maxCapacityAgeTicks).addU64 p.maxReservationAgeTicks).addU64
    p.maxAdmissionAgeTicks
  have hdigest := hall.digest
  simp only [List.nil_append, ← List.append_assoc] at hdigest
  unfold policyStream policyDigest
  rw [hdomains, hclasses]
  simp only [policyTag, stringStream, itemsStream, ratioStream, boolStream, riskBudgetStream,
    thresholdsStream, hysteresisStream, limitsStream, ← List.append_assoc]
  exact hdigest

/-! ## What the streams determine -/

/-- Two configurations that differ in the order of the members and in the
generation at most. -/
structure DomainConfig.SameBoundary (a b : DomainConfig) : Prop where
  members : a.members.Perm b.members
  rest : { a with members := [], generation := {} } = { b with members := [], generation := {} }

section

variable {a b c : DomainConfig}

theorem DomainConfig.SameBoundary.refl (a : DomainConfig) : a.SameBoundary a := ⟨.refl _, rfl⟩

theorem DomainConfig.SameBoundary.symm (h : a.SameBoundary b) : b.SameBoundary a :=
  ⟨h.members.symm, h.rest.symm⟩

theorem DomainConfig.SameBoundary.trans (h : a.SameBoundary b) (h' : b.SameBoundary c) :
    a.SameBoundary c := ⟨h.members.trans h'.members, h.rest.trans h'.rest⟩

theorem sortedMemberValues_eq {l l' : List ResourceId} :
    sortedMemberValues l = sortedMemberValues l' ↔ l.Perm l' := by
  have hl := List.perm_insertionSort (fun x y : UInt64 => x ≤ y) (l.map (·.value))
  have hl' := List.perm_insertionSort (fun x y : UInt64 => x ≤ y) (l'.map (·.value))
  have hinjective : Function.Injective fun m : ResourceId => m.value := fun x y h => by
    cases x
    cases y
    exact congrArg _ h
  constructor
  · intro hsame
    have hvalues : (l.map (·.value)).Perm (l'.map (·.value)) := by
      have hsorted : (sortedMemberValues l).Perm (l'.map (·.value)) := by
        rw [hsame]
        exact hl'
      exact hl.symm.trans hsorted
    exact (List.map_perm_map_iff hinjective).mp hvalues
  · intro hperm
    exact Rearrange.insertionSort_perm (hperm.map _) fun _ _ _ _ => UInt64.le_antisymm

/-- The digest of a configuration sees neither. -/
theorem domainConfigDigest_congr (h : a.SameBoundary b) : domainConfigDigest a = domainConfigDigest b := by
  have hmembers := sortedMemberValues_eq.mpr h.members
  have hfields := h.rest
  simp only [DomainConfig.mk.injEq, true_and] at hfields
  obtain ⟨hid, hname, hpool, hratio, hcap, hdegraded, hreserve, hheadroom, hburst, hunits⟩ := hfields
  unfold domainConfigDigest addDomainBoundary
  rw [hmembers, hid, hname, hpool, hratio, hcap, hdegraded, hreserve, hheadroom, hburst, hunits]

/-- Lengths that 64 bits hold. -/
structure DomainConfig.Measured (d : DomainConfig) : Prop where
  name : d.name.length < 2 ^ 64
  members : d.members.length < 2 ^ 64

end

section

variable {α : Type} {P : α → Prop}

theorem splits_id {tag : IdTag} (f : α → StrongId tag) :
    Splits P (fun a => leBytes64 (f a).value) fun a b => f a = f b :=
  (splits_u64 fun a => (f a).value).mono fun a b h => by
    generalize f a = x at h ⊢
    generalize f b = y at h ⊢
    cases x
    cases y
    exact congrArg _ h

theorem splits_gen {tag : GenTag} (f : α → Gen tag) :
    Splits P (fun a => leBytes64 (f a).value) fun a b => f a = f b :=
  (splits_u64 fun a => (f a).value).mono fun a b h => by
    generalize f a = x at h ⊢
    generalize f b = y at h ⊢
    cases x
    cases y
    exact congrArg _ h

theorem splits_name {f : α → List UInt8} (hf : ∀ a, P a → (f a).length < 2 ^ 64) :
    Splits P (fun a => stringStream (f a)) fun a b => f a = f b := splits_string hf

theorem splits_boolStream (f : α → Bool) : Splits P (fun a => boolStream (f a)) fun a b => f a = f b :=
  splits_bool f

theorem splits_ratio (f : α → Ratio) : Splits P (fun a => ratioStream (f a)) fun a b => f a = f b := by
  have hfields : Splits P (fun a => leBytes64 (f a).num ++ leBytes64 (f a).den)
      fun a b => (f a).num = (f b).num ∧ (f a).den = (f b).den :=
    (splits_u64 fun a => (f a).num).append (splits_u64 fun a => (f a).den)
  refine hfields.mono fun a b h => ?_
  generalize f a = r at h ⊢
  generalize f b = r' at h ⊢
  cases r
  cases r'
  exact congrArg₂ _ h.1 h.2

end

theorem splits_boundary : Splits DomainConfig.Measured boundaryStream fun d e =>
    ((((((((d.name = e.name ∧ d.pool = e.pool) ∧
      List.Forall₂ (· = ·) (sortedMemberValues d.members) (sortedMemberValues e.members)) ∧
      d.configuredRatio = e.configuredRatio) ∧ d.hasDegradedRatioCap = e.hasDegradedRatioCap) ∧
      d.degradedRatioCap = e.degradedRatioCap) ∧ d.emergencyReserveUnits = e.emergencyReserveUnits) ∧
      d.minProtectedHeadroomUnits = e.minProtectedHeadroomUnits) ∧
      d.burstPoolEnabled = e.burstPoolEnabled) ∧ d.burstPoolCapUnits = e.burstPoolCapUnits := by
  have hlength (d : DomainConfig) (hd : d.Measured) : (sortedMemberValues d.members).length < 2 ^ 64 := by
    rw [sortedMemberValues, sortValues, List.length_insertionSort, List.length_map]
    exact hd.members
  have hmembers : Splits DomainConfig.Measured
      (fun d => itemsStream leBytes64 (sortedMemberValues d.members)) fun d e =>
        List.Forall₂ (· = ·) (sortedMemberValues d.members) (sortedMemberValues e.members) :=
    splits_items (Q := fun _ => True) hlength (fun _ _ _ _ => trivial) (splits_u64 id)
  have hname : Splits DomainConfig.Measured (fun d => stringStream d.name) fun d e => d.name = e.name :=
    splits_name fun d hd => hd.name
  have hfields := ((((((((hname.append (splits_id fun d => d.pool)).append hmembers).append
    (splits_ratio fun d => d.configuredRatio)).append
    (splits_boolStream fun d => d.hasDegradedRatioCap)).append
    (splits_ratio fun d => d.degradedRatioCap)).append (splits_u64 fun d => d.emergencyReserveUnits)).append
    (splits_u64 fun d => d.minProtectedHeadroomUnits)).append
    (splits_boolStream fun d => d.burstPoolEnabled)).append (splits_u64 fun d => d.burstPoolCapUnits)
  exact hfields

/-- **The stream of a domain** determines its configuration. -/
theorem splits_domain : Splits DomainConfig.Measured domainStream DomainConfig.SameBoundary := by
  have hid : Splits DomainConfig.Measured (fun d => leBytes64 d.id.value) fun d e => d.id = e.id :=
    splits_id fun d : DomainConfig => d.id
  have hdomain := (hid.append (splits_gen fun d => d.generation)).append splits_boundary
  refine hdomain.mono fun d e h => ?_
  obtain ⟨⟨hid, _⟩, ⟨⟨⟨⟨⟨⟨⟨⟨⟨hname, hpool⟩, hmem⟩, hratio⟩, hcap⟩, hdegraded⟩, hreserve⟩, hheadroom⟩,
    hburst⟩, hunits⟩⟩ := h
  rw [List.forall₂_eq_eq_eq] at hmem
  refine ⟨sortedMemberValues_eq.mp hmem, ?_⟩
  simp only [DomainConfig.mk.injEq, true_and]
  exact ⟨hid, hname, hpool, hratio, hcap, hdegraded, hreserve, hheadroom, hburst, hunits⟩

theorem splits_serviceClass :
    Splits (fun c : ServiceClassRef => c.name.length < 2 ^ 64) serviceClassStream fun c c' => c = c' := by
  have hid : Splits (fun c : ServiceClassRef => c.name.length < 2 ^ 64) (fun c => leBytes64 c.id.value)
      fun c c' => c.id = c'.id := splits_id fun c : ServiceClassRef => c.id
  have hname : Splits (fun c : ServiceClassRef => c.name.length < 2 ^ 64) (fun c => stringStream c.name)
      fun c c' => c.name = c'.name := splits_name fun _ hc => hc
  have hfields := (((((hid.append hname).append (splits_u32 fun c => c.priority.value)).append
    (splits_boolStream fun c => c.oversubscriptionEligible)).append (splits_u32 fun c => c.riskWeightPpm)).append
    (splits_boolStream fun c => c.hasContingentShareCap)).append (splits_u64 fun c => c.contingentShareCapPpm)
  refine hfields.mono fun c c' h => ?_
  obtain ⟨⟨⟨⟨⟨⟨hid, hname⟩, hpriority⟩, heligible⟩, hweight⟩, hhas⟩, hcap⟩ := h
  obtain ⟨id, name, ⟨priority⟩, eligible, weight, has, cap⟩ := c
  obtain ⟨id', name', ⟨priority'⟩, eligible', weight', has', cap'⟩ := c'
  simp_all

section

variable {α : Type} {P : α → Prop}

theorem splits_riskBudget (f : α → RiskBudgetPolicy) :
    Splits P (fun a => riskBudgetStream (f a)) fun a b => f a = f b := by
  have hid : Splits P (fun a => leBytes64 (f a).id.value) fun a b => (f a).id = (f b).id :=
    splits_id fun a => (f a).id
  have hfields := ((((hid.append (splits_gen fun a => (f a).generation)).append
    (splits_boolStream fun a => (f a).hasAbsolute)).append (splits_u64 fun a => (f a).maxExposureUnits)).append
    (splits_boolStream fun a => (f a).hasPpm)).append (splits_u64 fun a => (f a).maxExposurePpm)
  refine hfields.mono fun a b h => ?_
  generalize f a = r at h ⊢
  generalize f b = r' at h ⊢
  cases r
  cases r'
  simp_all

theorem splits_thresholds (f : α → OversubscriptionThresholds) :
    Splits P (fun a => thresholdsStream (f a)) fun a b => f a = f b := by
  have hwarn : Splits P (fun a => leBytes64 (f a).warnUsedPpm) fun a b =>
      (f a).warnUsedPpm = (f b).warnUsedPpm := splits_u64 fun a => (f a).warnUsedPpm
  have hfields := (hwarn.append (splits_u64 fun a => (f a).reduceOveragePpm)).append
    (splits_u64 fun a => (f a).emergencyOveragePpm)
  refine hfields.mono fun a b h => ?_
  generalize f a = th at h ⊢
  generalize f b = th' at h ⊢
  cases th
  cases th'
  simp_all

theorem splits_hysteresis (f : α → HysteresisPolicy) :
    Splits P (fun a => hysteresisStream (f a)) fun a b => f a = f b := by
  have hescalation : Splits P (fun a => leBytes64 (f a).escalationConfirmations) fun a b =>
      (f a).escalationConfirmations = (f b).escalationConfirmations :=
    splits_u64 fun a => (f a).escalationConfirmations
  have hfields := ((hescalation.append (splits_u64 fun a => (f a).deescalationConfirmations)).append
    (splits_u64 fun a => (f a).cooldownTicks)).append (splits_u64 fun a => (f a).deescalationMarginPpm)
  refine hfields.mono fun a b h => ?_
  generalize f a = hy at h ⊢
  generalize f b = hy' at h ⊢
  cases hy
  cases hy'
  simp_all

theorem splits_limits (f : α → PolicyLimits) :
    Splits P (fun a => limitsStream (f a)) fun a b => f a = f b := by
  have hdomains : Splits P (fun a => leBytes32 (f a).maxDomains) fun a b =>
      (f a).maxDomains = (f b).maxDomains := splits_u32 fun a => (f a).maxDomains
  have hfields := ((((((((hdomains.append (splits_u32 fun a => (f a).maxResourcesPerDomain)).append
    (splits_u32 fun a => (f a).maxServiceClasses)).append
    (splits_u64 fun a => (f a).maxGuaranteesPerSnapshot)).append
    (splits_u64 fun a => (f a).maxDemandRecordsPerSnapshot)).append
    (splits_u32 fun a => (f a).maxCorrectiveIntents)).append
    (splits_u32 fun a => (f a).maxExplanationLines)).append
    (splits_u32 fun a => (f a).maxExplanationBytes)).append
    (splits_u32 fun a => (f a).maxResourceBreakdown)).append (splits_u64 fun a => (f a).maxCapacityUnits)
  refine hfields.mono fun a b h => ?_
  generalize f a = lim at h ⊢
  generalize f b = lim' at h ⊢
  cases lim
  cases lim'
  simp_all

end

/-- Lengths that 64 bits hold. -/
structure OversubscriptionPolicy.Measured (p : OversubscriptionPolicy) : Prop where
  name : p.name.length < 2 ^ 64
  domains : p.domains.length < 2 ^ 64
  domain : ∀ d ∈ p.domains, d.Measured
  classes : p.serviceClasses.length < 2 ^ 64
  class_ : ∀ c ∈ p.serviceClasses, c.name.length < 2 ^ 64

/-- Two policies with the same fields, but for the lists and the digest. -/
def OversubscriptionPolicy.SameFields (p q : OversubscriptionPolicy) : Prop :=
  { p with domains := [], serviceClasses := [], digest := .zero } =
    { q with domains := [], serviceClasses := [], digest := .zero }

/-- **The stream of a policy** determines its fields, its domains but for their
members' order, and its service classes. -/
theorem splits_policy : Splits OversubscriptionPolicy.Measured policyStream fun p q =>
    p.SameFields q ∧
      List.Forall₂ DomainConfig.SameBoundary (sortDomains p.domains) (sortDomains q.domains) ∧
        sortServiceClasses p.serviceClasses = sortServiceClasses q.serviceClasses := by
  have hid : Splits OversubscriptionPolicy.Measured (fun p => policyTag ++ leBytes64 p.id.value)
      fun p q => p.id = q.id := (splits_id fun p : OversubscriptionPolicy => p.id).tagged policyTag
  have hname : Splits OversubscriptionPolicy.Measured (fun p => stringStream p.name)
      fun p q => p.name = q.name := splits_name fun _ hp => hp.name
  have hdomains : Splits OversubscriptionPolicy.Measured
      (fun p => itemsStream domainStream (sortDomains p.domains)) fun p q =>
        List.Forall₂ DomainConfig.SameBoundary (sortDomains p.domains) (sortDomains q.domains) := by
    refine splits_items (fun p hp => ?_) (fun p hp d hd => ?_) splits_domain
    · rw [sortDomains, List.length_insertionSort]
      exact hp.domains
    · exact hp.domain d ((List.perm_insertionSort _ _).mem_iff.mp hd)
  have hclasses : Splits OversubscriptionPolicy.Measured
      (fun p => itemsStream serviceClassStream (sortServiceClasses p.serviceClasses)) fun p q =>
        List.Forall₂ (· = ·) (sortServiceClasses p.serviceClasses) (sortServiceClasses q.serviceClasses) := by
    refine splits_items (fun p hp => ?_) (fun p hp c hc => ?_) splits_serviceClass
    · rw [sortServiceClasses, List.length_insertionSort]
      exact hp.classes
    · exact hp.class_ c ((List.perm_insertionSort _ _).mem_iff.mp hc)
  have hfields := (((((((((((hid.append (splits_gen fun p => p.generation)).append hname).append
    (splits_ratio fun p => p.policyRatioCap)).append hdomains).append hclasses).append
    (splits_riskBudget fun p => p.riskBudget)).append (splits_thresholds fun p => p.thresholds)).append
    (splits_hysteresis fun p => p.hysteresis)).append (splits_limits fun p => p.limits)).append
    (splits_u64 fun p => p.maxCapacityAgeTicks)).append (splits_u64 fun p => p.maxReservationAgeTicks)).append
    (splits_u64 fun p => p.maxAdmissionAgeTicks)
  refine hfields.mono fun p q h => ?_
  obtain ⟨⟨⟨⟨⟨⟨⟨⟨⟨⟨⟨⟨hid, hgeneration⟩, hname⟩, hcap⟩, hdomains⟩, hclasses⟩, hrisk⟩, hthresholds⟩, hhysteresis⟩,
    hlimits⟩, hcapacity⟩, hreservation⟩, hadmission⟩ := h
  rw [List.forall₂_eq_eq_eq] at hclasses
  refine ⟨?_, hdomains, hclasses⟩
  simp only [OversubscriptionPolicy.SameFields, OversubscriptionPolicy.mk.injEq, true_and, and_true]
  exact ⟨hid, hgeneration, hname, hcap, hrisk, hthresholds, hhysteresis, hlimits, hcapacity, hreservation,
    hadmission⟩

/-! ## The content of a policy -/

/-- A policy with the generations that `policy_content_digest` puts in. -/
def OversubscriptionPolicy.content (p : OversubscriptionPolicy) : OversubscriptionPolicy :=
  { p with
    generation := ⟨1⟩
    domains := p.domains.map fun d => { d with generation := ⟨1⟩ } }

/-- Two policies that differ in the order of the domains, of their members and
of the service classes, in the generations of the policy and of the domains, and
in the digest at most. -/
structure OversubscriptionPolicy.SameContent (p q : OversubscriptionPolicy) : Prop where
  fields : { p with generation := {}, domains := [], serviceClasses := [], digest := .zero } =
    { q with generation := {}, domains := [], serviceClasses := [], digest := .zero }
  domains : ∃ l, p.domains.Perm l ∧ List.Forall₂ DomainConfig.SameBoundary l q.domains
  classes : p.serviceClasses.Perm q.serviceClasses

/-- A configuration with its members in order and the generation of a content. -/
def DomainConfig.canonical (d : DomainConfig) : DomainConfig :=
  { d with
    generation := ⟨1⟩
    members := d.members.insertionSort fun x y => x.value ≤ y.value }

section

variable {a b : DomainConfig} {p q : OversubscriptionPolicy}

theorem sameBoundary_iff : a.SameBoundary b ↔ a.canonical = b.canonical := by
  have hanti (x y : ResourceId) (hxy : x.value ≤ y.value) (hyx : y.value ≤ x.value) : x = y := by
    have hvalue := UInt64.le_antisymm hxy hyx
    cases x
    cases y
    exact congrArg _ hvalue
  have ha := List.perm_insertionSort (fun x y : ResourceId => x.value ≤ y.value) a.members
  have hb := List.perm_insertionSort (fun x y : ResourceId => x.value ≤ y.value) b.members
  constructor
  · intro h
    have hmembers : a.members.insertionSort (fun x y => x.value ≤ y.value) =
        b.members.insertionSort fun x y => x.value ≤ y.value := by
      have hall : ∀ x ∈ a.members, ∀ y ∈ a.members, x.value ≤ y.value → y.value ≤ x.value → x = y :=
        fun x _ y _ => hanti x y
      exact @Rearrange.insertionSort_perm _ _ _ _ _ ⟨fun x y => UInt64.le_total x.value y.value⟩
        ⟨fun _ _ _ => UInt64.le_trans⟩ h.members hall
    have hrest := h.rest
    simp only [DomainConfig.mk.injEq, true_and] at hrest
    obtain ⟨hid, hname, hpool, hratio, hcap, hdegraded, hreserve, hheadroom, hburst, hunits⟩ := hrest
    unfold DomainConfig.canonical
    rw [hmembers, hid, hname, hpool, hratio, hcap, hdegraded, hreserve, hheadroom, hburst, hunits]
  · intro h
    simp only [DomainConfig.canonical, DomainConfig.mk.injEq, true_and] at h
    obtain ⟨hid, hname, hpool, hmembers, hratio, hcap, hdegraded, hreserve, hheadroom, hburst, hunits⟩ := h
    rw [hmembers] at ha
    refine ⟨ha.symm.trans hb, ?_⟩
    simp only [DomainConfig.mk.injEq, true_and]
    exact ⟨hid, hname, hpool, hratio, hcap, hdegraded, hreserve, hheadroom, hburst, hunits⟩

/-- The domains of two policies have the same configurations. -/
theorem sameDomains_iff {l l' : List DomainConfig} :
    (∃ m, l.Perm m ∧ List.Forall₂ DomainConfig.SameBoundary m l') ↔
      (l.map DomainConfig.canonical).Perm (l'.map DomainConfig.canonical) := by
  have hrelation : DomainConfig.SameBoundary = fun a b => a.canonical = b.canonical := by
    funext a b
    exact propext sameBoundary_iff
  rw [hrelation]
  exact Rearrange.exists_perm_forall₂

/-- Which is so when their canonical forms are the same in order. -/
theorem canonical_sortDomains_iff {l l' : List DomainConfig} (hnodup : (l.map (·.id.value)).Nodup) :
    (sortDomains l).map DomainConfig.canonical = (sortDomains l').map DomainConfig.canonical ↔
      (l.map DomainConfig.canonical).Perm (l'.map DomainConfig.canonical) := by
  have hdistinct (a b : DomainConfig) (ha : a ∈ l) (hb : b ∈ l) (hid : a.id.value = b.id.value) : a = b :=
    List.inj_on_of_nodup_map hnodup ha hb hid
  have hanti : ∀ x ∈ l.map DomainConfig.canonical, ∀ y ∈ l.map DomainConfig.canonical,
      x.id.value ≤ y.id.value → y.id.value ≤ x.id.value → x = y := by
    intro x hx y hy hxy hyx
    obtain ⟨a, ha, rfl⟩ := List.mem_map.mp hx
    obtain ⟨b, hb, rfl⟩ := List.mem_map.mp hy
    rw [hdistinct a b ha hb (UInt64.le_antisymm hxy hyx)]
  exact @Rearrange.map_insertionSort_eq_iff _ _ _ _ _ _ (fun a b : DomainConfig => a.id.value ≤ b.id.value)
    _ _ ⟨fun a b => UInt64.le_total a.id.value b.id.value⟩ ⟨fun _ _ _ => UInt64.le_trans⟩
    (fun _ _ => Iff.rfl) hanti

/-- The stream of a domain of a content sees its canonical form. -/
theorem domainStream_canonical {d : DomainConfig} (hd : d.generation = ⟨1⟩) :
    domainStream d.canonical = domainStream d := by
  have hmembers : sortedMemberValues d.canonical.members = sortedMemberValues d.members :=
    sortedMemberValues_eq.mpr (List.perm_insertionSort _ _)
  unfold domainStream boundaryStream
  rw [hmembers, hd]
  rfl

theorem itemsStream_canonical {l : List DomainConfig} (hl : ∀ d ∈ l, d.generation = ⟨1⟩) :
    itemsStream domainStream (l.map DomainConfig.canonical) = itemsStream domainStream l := by
  have hitems : (l.map DomainConfig.canonical).flatMap domainStream = l.flatMap domainStream := by
    rw [List.flatMap_map]
    exact List.flatMap_congr fun d hd => domainStream_canonical (hl d hd)
  rw [itemsStream, itemsStream, List.length_map, hitems]

/-- An accepted policy is short. -/
theorem validatePolicy_measured (h : (validatePolicy p).isOk = true) : p.Measured := by
  have hall : AllPass (policyChecks p) := firstFailure_isOk.mp h
  simp only [policyChecks, allPass_append, allPass_cons, allPass_nil, allPass_flatMap, and_true,
    and_assoc] at hall
  obtain ⟨_, _, hname, _, _, _, hdomains, hclasses, _, hdomain, _, hclass, _⟩ := hall
  simp only [Bool.or_eq_false_iff, decide_eq_false_iff_not, Nat.not_lt] at hname hdomains hclasses
  have hname_bound : kHardMaxNameLength < 2 ^ 64 := by decide
  refine ⟨hname.trans_lt hname_bound, hdomains.2.trans_lt (by decide), fun d hd => ?_,
    hclasses.2.trans_lt (by decide), fun c hc => ?_⟩
  · have hchecks := hdomain d hd
    simp only [domainChecks, allPass_append, allPass_cons, and_assoc] at hchecks
    obtain ⟨_, hlength, _, hmembers, _⟩ := hchecks
    simp only [Bool.or_eq_false_iff, decide_eq_false_iff_not, Nat.not_lt] at hlength hmembers
    exact ⟨hlength.trans_lt hname_bound, hmembers.2.trans_lt (by decide)⟩
  · have hchecks := hclass c hc
    simp only [serviceClassChecks, allPass_cons] at hchecks
    have hlength := hchecks.2.1
    simp only [decide_eq_false_iff_not, Nat.not_lt] at hlength
    exact hlength.trans_lt hname_bound

theorem OversubscriptionPolicy.Measured.content (h : p.Measured) : p.content.Measured where
  name := h.name
  domains := by
    rw [OversubscriptionPolicy.content, List.length_map]
    exact h.domains
  domain d hd := by
    obtain ⟨e, he, rfl⟩ := List.mem_map.mp hd
    exact ⟨(h.domain e he).name, (h.domain e he).members⟩
  classes := h.classes
  class_ := h.class_

/-- **The stream of a content** is the same for the same content only. -/
theorem policyStream_content_iff (hp : (validatePolicy p).isOk = true) (hq : (validatePolicy q).isOk = true) :
    policyStream p.content = policyStream q.content ↔ p.SameContent q := by
  have hids : (p.content.domains.map (·.id.value)).Nodup := by
    rw [OversubscriptionPolicy.content, List.map_map]
    exact (validatePolicy_installable hp).domains_nodup
  have hdomains := @canonical_sortDomains_iff p.content.domains q.content.domains hids
  have hcleared (r : OversubscriptionPolicy) :
      r.content.domains.map DomainConfig.canonical = r.domains.map DomainConfig.canonical := by
    rw [OversubscriptionPolicy.content, List.map_map]
    rfl
  rw [hcleared, hcleared, ← sameDomains_iff] at hdomains
  constructor
  · intro h
    obtain ⟨hfields, hboundaries, hclasses⟩ :=
      splits_policy.whole (validatePolicy_measured hp).content (validatePolicy_measured hq).content h
    have hforms : (sortDomains p.content.domains).map DomainConfig.canonical =
        (sortDomains q.content.domains).map DomainConfig.canonical := by
      rw [← List.forall₂_eq_eq_eq, List.forall₂_map_left_iff, List.forall₂_map_right_iff]
      exact hboundaries.imp fun _ _ h => sameBoundary_iff.mp h
    have hclass : (sortServiceClasses p.serviceClasses).Perm q.serviceClasses := by
      have hsorted : sortServiceClasses p.serviceClasses = sortServiceClasses q.serviceClasses := hclasses
      rw [hsorted]
      exact List.perm_insertionSort _ _
    refine ⟨?_, hdomains.mp hforms, (List.perm_insertionSort _ _).symm.trans hclass⟩
    simp only [OversubscriptionPolicy.SameFields, OversubscriptionPolicy.content,
      OversubscriptionPolicy.mk.injEq, true_and, and_true] at hfields ⊢
    exact hfields
  · intro h
    have hitems : itemsStream domainStream (sortDomains p.content.domains) =
        itemsStream domainStream (sortDomains q.content.domains) := by
      have hsorted (r : OversubscriptionPolicy) : ∀ d ∈ sortDomains r.content.domains, d.generation = ⟨1⟩ := by
        intro d hd
        have hmem := (List.perm_insertionSort _ _).mem_iff.mp hd
        obtain ⟨e, _, rfl⟩ := List.mem_map.mp hmem
        rfl
      rw [← itemsStream_canonical (hsorted p), ← itemsStream_canonical (hsorted q), hdomains.mpr h.domains]
    have hclasses : sortServiceClasses p.serviceClasses = sortServiceClasses q.serviceClasses := by
      have hdistinct (a b : ServiceClassRef) (ha : a ∈ p.serviceClasses) (hb : b ∈ p.serviceClasses)
          (hab : a.id.value ≤ b.id.value) (hba : b.id.value ≤ a.id.value) : a = b :=
        List.inj_on_of_nodup_map (validatePolicy_installable hp).classes_nodup ha hb (UInt64.le_antisymm hab hba)
      exact @Rearrange.insertionSort_perm _ _ _ (fun a b : ServiceClassRef => a.id.value ≤ b.id.value) _
        ⟨fun a b => UInt64.le_total a.id.value b.id.value⟩ ⟨fun _ _ _ => UInt64.le_trans⟩ h.classes
        fun a ha b hb => hdistinct a b ha hb
    have hfields := h.fields
    simp only [OversubscriptionPolicy.mk.injEq, true_and, and_true] at hfields
    obtain ⟨hid, hname, hcap, hrisk, hthresholds, hhysteresis, hlimits, hcapacity, hreservation,
      hadmission⟩ := hfields
    unfold policyStream
    rw [hitems]
    simp only [OversubscriptionPolicy.content]
    rw [hclasses, hid, hname, hcap, hrisk, hthresholds, hhysteresis, hlimits, hcapacity, hreservation,
      hadmission]

/-- **The digest of a content**, where the hash tells the streams apart. -/
theorem policyDigest_content_iff (hp : (validatePolicy p).isOk = true) (hq : (validatePolicy q).isOk = true)
    (hsha : sha256 (policyStream p.content) = sha256 (policyStream q.content) →
      policyStream p.content = policyStream q.content) :
    policyDigest p.content = policyDigest q.content ↔ p.SameContent q := by
  rw [← policyStream_content_iff hp hq, policyDigest_eq, policyDigest_eq]
  exact ⟨hsha, congrArg sha256⟩

end

end Oversub
