import Oversub.Lib.Pages
import Oversub.Engine.Result

/-!
# Oversub.Engine.Explain

The explanation of a result (`explain_evaluation`): its lines, written within
the budget of the caller.
-/

namespace Oversub

open Pages

/-! ## Names -/

def Constraint.toString : Constraint → String
  | .none => "NONE"
  | .configuredRatio => "CONFIGURED_RATIO"
  | .policyRatioCap => "POLICY_RATIO_CAP"
  | .degradedRatioCap => "DEGRADED_RATIO_CAP"
  | .riskBudgetExposureAbsolute => "RISK_BUDGET_EXPOSURE_ABSOLUTE"
  | .riskBudgetExposurePpm => "RISK_BUDGET_EXPOSURE_PPM"
  | .minimumProtectedHeadroom => "MINIMUM_PROTECTED_HEADROOM"
  | .emergencyReserve => "EMERGENCY_RESERVE"
  | .guaranteeProtectionFloor => "GUARANTEE_PROTECTION_FLOOR"
  | .usableCapacity => "USABLE_CAPACITY"
  | .noCapacity => "NO_CAPACITY"
  | .serviceClassExclusion => "SERVICE_CLASS_EXCLUSION"
  | .burstPoolCap => "BURST_POOL_CAP"
  | .domainNotCovered => "DOMAIN_NOT_COVERED"

def CorrectiveKind.toString : CorrectiveKind → String
  | .none => "NONE"
  | .reduceContingentAdmissionBudget => "REDUCE_CONTINGENT_ADMISSION_BUDGET"
  | .requestBorrowedCapacityRecall => "REQUEST_BORROWED_CAPACITY_RECALL"
  | .reduceBurstPool => "REDUCE_BURST_POOL"
  | .increaseProtectedHeadroom => "INCREASE_PROTECTED_HEADROOM"
  | .fenceOversubscribedAdmission => "FENCE_OVERSUBSCRIBED_ADMISSION"
  | .revalidateEvidence => "REVALIDATE_EVIDENCE"
  | .resolveConflictingEvidence => "RESOLVE_CONFLICTING_EVIDENCE"

def CorrectiveTarget.toString : CorrectiveTarget → String
  | .domain => "DOMAIN"
  | .resource => "RESOURCE"
  | .pool => "POOL"
  | .serviceClass => "SERVICE_CLASS"

/-- A value that names no enumerator reads as unknown. -/
def ResourceHealth.toString : ResourceHealth → String
  | .unknown | .unnamed _ _ => "UNKNOWN"
  | .healthy => "HEALTHY"
  | .degraded => "DEGRADED"
  | .failed => "FAILED"

def kHex : List Char := "0123456789abcdef".toList

/-- Two digits a byte. -/
def Digest.hexDigits (d : Digest) : List Char :=
  d.bytes.flatMap fun (b : UInt8) => [kHex.getD (b >>> 4).toNat '0', kHex.getD (b &&& 15).toNat '0']

def Digest.toHex (d : Digest) : String := String.ofList d.hexDigits

def Gen.toString {tag : GenTag} (g : Gen tag) : String := ToString.toString g.value.toNat

def boolText (b : Bool) : String := if b then "true" else "false"

def AuthorityVector.toString (a : AuthorityVector) : String :=
  "domain=" ++ a.domain.toString ++ "@" ++ a.domainGeneration.toString ++
    " policy=" ++ a.policy.toString ++ "@" ++ a.policyGeneration.toString ++
    " capacity=" ++ a.capacityGeneration.toString ++
    " reservations=" ++ a.reservationGeneration.toString ++
    " admissions=" ++ a.admissionGeneration.toString ++
    " risk_budget=" ++ a.riskBudget.toString ++ "@" ++ a.riskBudgetGeneration.toString ++
    " epoch=" ++ ToString.toString a.epoch.value.toNat ++
    " resource_fold=" ++ ToString.toString a.resourceSetFold.toNat ++
    " input=" ++ String.ofList (a.inputDigest.hexDigits.take 16)

/-! ## Lines -/

structure ExplainOptions where
  maxLines : UInt32 := 64
  maxBytes : UInt32 := 8192
  includeResources : Bool := true
  includeNotes : Bool := true
  includeIntents : Bool := true

/-- The budget of the options, at least one byte and one line. -/
def ExplainOptions.budget (o : ExplainOptions) : Budget where
  symbols := min (if o.maxBytes = 0 then 1 else o.maxBytes.toNat) kHardMaxExplanationBytes
  lines := min (if o.maxLines = 0 then 1 else o.maxLines.toNat) kHardMaxExplanationLines

def outcomeLines (r : EvaluationResult) : List String :=
  ("outcome: " ++ r.outcome.toString ++
      if r.reason = .none then "" else " (" ++ r.reason.toString ++ ")") ::
    if r.detail = "" then [] else ["detail: " ++ r.detail]

def accountingLines (a : DomainAccounting) : List String := [
  "domain: " ++ a.domain.toString ++ " pool: " ++ a.pool.toString,
  "capacity: physical=" ++ toString a.physicalCapacity ++ " usable=" ++ toString a.usableCapacity ++
    " effective_usable=" ++ toString a.effectiveUsableCapacity,
  "guarantees: total=" ++ toString a.guaranteesTotal ++ " emergency_reserve=" ++ toString a.emergencyReserve ++
    " min_headroom=" ++ toString a.minProtectedHeadroom ++
    " protected_required=" ++ toString a.protectedRequired,
  "contingent: committed=" ++ toString a.contingentCommitted ++ " pending=" ++ toString a.contingentPending ++
    " burst=" ++ toString a.burstCommitted ++ " ceiling=" ++ toString a.contingentCeiling ++
    " free=" ++ toString a.contingentFree,
  "ratio: configured=" ++ ratioToString a.configuredRatio ++ " effective=" ++ ratioToString a.effectiveRatio ++
    " (" ++ toString a.effectiveRatioPpm ++ " ppm)" ++
    (if a.ratioReducedByDegradation then " reduced_by_degradation=true" else ""),
  "commitment: ceiling_total=" ++ toString a.ceilingTotal ++ " committed_total=" ++ toString a.committedTotal ++
    " overage=" ++ toString a.overage ++ " headroom_protected=" ++ toString a.protectedHeadroom,
  "risk_budget: ceiling=" ++ toString a.riskBudgetCeiling ++
    " remaining=" ++ toString a.riskExposureRemaining ++ " exposure=" ++ toString a.exposure ++
    (if a.riskBudgetExceeded then " exceeded=true" else " exceeded=false"),
  "binding_constraint: " ++ a.bindingConstraint.toString,
  "health: degraded=" ++ toString a.degradedResources ++ " failed=" ++ toString a.failedResources]

def authorityLines (r : EvaluationResult) : List String := [
  "authority: valid=" ++ boolText r.authorityValid ++
    " new_oversubscription=" ++ boolText r.newOversubscriptionAuthorized ++
    " increment=" ++ toString r.authorizedIncrementUnits ++ " fence=" ++ boolText r.fenceRequired,
  "authority_vector: " ++ r.authority.toString]

def resourceLine (res : ResourceAccounting) : String :=
  "  resource=" ++ res.resource.toString ++ " health=" ++ res.health.toString ++
    " usable=" ++ toString res.effectiveUsableCapacity ++ " guarantees=" ++ toString res.guarantees ++
    " contingent=" ++ toString res.contingentCommitted ++ " ceiling=" ++ toString res.ceiling ++
    " free=" ++ toString res.contingentFree ++ " overage=" ++ toString res.overage

def intentLines (i : CorrectiveIntent) : List String :=
  ("  " ++ i.kind.toString ++ " target=" ++ i.target.toString ++ " amount=" ++ toString i.amountUnits ++
      (if i.serviceClass.valid then " service_class=" ++ i.serviceClass.toString else "") ++
      (if i.resource.valid then " resource=" ++ i.resource.toString else "") ++
      " reason=" ++ i.reason.toString) ::
    if i.rationale = "" then [] else ["    rationale: " ++ i.rationale]

/-- A heading with what stands under it, where there is something to list. -/
def listing {α : Type} (included : Bool) (heading : String) (items : List α) (lines : α → List String) :
    List String :=
  if included && !items.isEmpty then heading :: items.flatMap lines else []

/-- All lines of the explanation. -/
def explanationLines (policy : OversubscriptionPolicy) (r : EvaluationResult) (o : ExplainOptions) : List String :=
  outcomeLines r ++ accountingLines r.accounting ++ authorityLines r ++
    listing o.includeResources "resources:" r.resources (fun res => [resourceLine res]) ++
    listing o.includeIntents "corrective_intent:" r.intents intentLines ++
    listing o.includeNotes "notes:" r.notes (fun n => ["  " ++ n]) ++
    ["result_digest: " ++ r.resultDigest.toHex,
      "policy: id=" ++ policy.id.toString ++ " generation=" ++ policy.generation.toString]

def newline : UInt8 := 10

/-- `explain_evaluation`: the lines within the budget. -/
def explainEvaluation (policy : OversubscriptionPolicy) (r : EvaluationResult) (o : ExplainOptions) :
    List UInt8 :=
  (((explanationLines policy r o).map textBytes).foldl (push o.budget newline) {}).text

/-! ## One line each -/

/-- The text holds no line break. -/
def OneLine (s : String) : Prop := newline ∉ textBytes s

instance (s : String) : Decidable (OneLine s) := inferInstanceAs (Decidable (¬ _))

theorem textBytes_append {s t : String} : textBytes (s ++ t) = textBytes s ++ textBytes t := by
  unfold textBytes
  rw [String.toUTF8_eq_toByteArray, String.toByteArray_append, ByteArray.data_append, Array.toList_append]
  rfl

theorem textBytes_ofList {l : List Char} : textBytes (String.ofList l) = l.flatMap String.utf8EncodeChar := by
  unfold textBytes
  rw [String.toUTF8_eq_toByteArray, String.toByteArray_ofList, List.utf8Encode, List.data_toByteArray]

theorem oneLine_append {s t : String} : OneLine (s ++ t) ↔ OneLine s ∧ OneLine t := by
  unfold OneLine
  rw [textBytes_append, List.mem_append, not_or]

theorem oneLine_ite {p : Prop} [Decidable p] {s t : String} (hs : OneLine s) (ht : OneLine t) :
    OneLine (if p then s else t) := by
  split
  · exact hs
  · exact ht

/-- Only the line break is encoded by its byte. -/
theorem newline_notMem_utf8EncodeChar {c : Char} (h : c.toNat ≠ 10) : newline ∉ String.utf8EncodeChar c := by
  have hbyte {n : Nat} (hn : n < 256) (hne : n ≠ 10) : newline ≠ UInt8.ofNat n := by
    intro he
    have hnat := congrArg UInt8.toNat he
    rw [UInt8.toNat_ofNat', Nat.mod_eq_of_lt hn] at hnat
    exact hne hnat.symm
  have hval : c.val.toNat = c.toNat := rfl
  unfold String.utf8EncodeChar
  rw [hval]
  dsimp only
  split
  · rw [List.mem_singleton]
    exact hbyte (by omega) h
  split
  · simp only [List.mem_cons, List.not_mem_nil, or_false, not_or]
    exact ⟨hbyte (by omega) (by omega), hbyte (by omega) (by omega)⟩
  split
  · simp only [List.mem_cons, List.not_mem_nil, or_false, not_or]
    exact ⟨hbyte (by omega) (by omega), hbyte (by omega) (by omega), hbyte (by omega) (by omega)⟩
  · simp only [List.mem_cons, List.not_mem_nil, or_false, not_or]
    exact ⟨hbyte (by omega) (by omega), hbyte (by omega) (by omega), hbyte (by omega) (by omega),
      hbyte (by omega) (by omega)⟩

theorem oneLine_ofList {l : List Char} (h : ∀ c ∈ l, c.toNat ≠ 10) : OneLine (String.ofList l) := by
  unfold OneLine
  rw [textBytes_ofList, List.mem_flatMap]
  rintro ⟨c, hc, hmem⟩
  exact newline_notMem_utf8EncodeChar (h c hc) hmem

theorem oneLine_nat (n : Nat) : OneLine (toString n) := by
  have hrepr : toString n = n.repr := rfl
  rw [hrepr, Nat.repr_eq_ofList_toDigits]
  refine oneLine_ofList fun c hc heq => ?_
  have hdigit := Nat.isDigit_of_mem_toDigits (by decide) (by decide) hc
  simp only [Char.isDigit, Bool.and_eq_true, decide_eq_true_eq] at hdigit
  have hlow := UInt32.le_iff_toNat_le.mp hdigit.1
  have hval : c.val.toNat = c.toNat := rfl
  rw [hval, heq] at hlow
  exact absurd hlow (by decide)

theorem hexDigits_ne (d : Digest) : ∀ c ∈ d.hexDigits, c.toNat ≠ 10 := by
  have hdigit (n : Nat) : (kHex.getD n '0').toNat ≠ 10 := by
    have hall : kHex.all (fun c => c.toNat != 10) = true := by decide
    rw [List.getD_eq_getElem?_getD]
    cases h : kHex[n]? with
    | none => decide
    | some c => exact bne_iff_ne.mp (List.all_eq_true.mp hall c (List.mem_of_getElem? h))
  intro c hc
  rw [Digest.hexDigits, List.mem_flatMap] at hc
  obtain ⟨b, -, hc⟩ := hc
  simp only [List.mem_cons, List.not_mem_nil, or_false] at hc
  rcases hc with rfl | rfl
  · exact hdigit _
  · exact hdigit _

theorem oneLine_id {tag : IdTag} (id : StrongId tag) : OneLine id.toString := oneLine_nat _

theorem oneLine_gen {tag : GenTag} (g : Gen tag) : OneLine g.toString := oneLine_nat _

theorem oneLine_hex (d : Digest) : OneLine d.toHex := oneLine_ofList (hexDigits_ne d)

theorem oneLine_outcome (o : Outcome) : OneLine o.toString := by
  cases o <;> decide

theorem oneLine_reason (r : ReasonCode) : OneLine r.toString := by
  cases r <;> decide

theorem oneLine_constraint (c : Constraint) : OneLine c.toString := by
  cases c <;> decide

theorem oneLine_kind (k : CorrectiveKind) : OneLine k.toString := by
  cases k <;> decide

theorem oneLine_target (t : CorrectiveTarget) : OneLine t.toString := by
  cases t <;> decide

theorem oneLine_health (h : ResourceHealth) : OneLine h.toString := by
  have hunknown : OneLine "UNKNOWN" := by decide
  cases h with
  | unknown | unnamed _ _ => exact hunknown
  | healthy | degraded | failed => decide

theorem oneLine_bool (b : Bool) : OneLine (boolText b) := by
  cases b <;> decide

theorem oneLine_ratio (r : Ratio) : OneLine (ratioToString r) := by
  simp only [ratioToString, oneLine_append, oneLine_nat, and_true]
  decide +kernel

theorem oneLine_authority (a : AuthorityVector) : OneLine a.toString := by
  have hinput : OneLine (String.ofList (a.inputDigest.hexDigits.take 16)) :=
    oneLine_ofList fun c hc => hexDigits_ne _ c (List.mem_of_mem_take hc)
  unfold AuthorityVector.toString
  simp only [oneLine_append, oneLine_nat, oneLine_id, oneLine_gen, hinput,
    and_true]
  decide +kernel

/-- No text of the result holds a line break. -/
structure EvaluationResult.Flat (r : EvaluationResult) : Prop where
  detail : OneLine r.detail
  rationales : ∀ i ∈ r.intents, OneLine i.rationale
  notes : ∀ n ∈ r.notes, OneLine n

section

variable {policy : OversubscriptionPolicy} {r : EvaluationResult} {o : ExplainOptions}

theorem outcomeLines_oneLine (h : OneLine r.detail) : ∀ l ∈ outcomeLines r, OneLine l := by
  have hreason : OneLine (if r.reason = .none then "" else " (" ++ r.reason.toString ++ ")") :=
    oneLine_ite (by decide) (by simp only [oneLine_append, oneLine_reason, and_true]; decide +kernel)
  unfold outcomeLines
  rw [List.forall_mem_cons]
  constructor
  · simp only [oneLine_append, oneLine_outcome, hreason, and_true]
    decide +kernel
  · split
    · exact List.forall_mem_nil _
    · rw [List.forall_mem_singleton]
      simp only [oneLine_append, h, and_true]
      decide +kernel

theorem accountingLines_oneLine (a : DomainAccounting) : ∀ l ∈ accountingLines a, OneLine l := by
  have hreduced : OneLine (if a.ratioReducedByDegradation then " reduced_by_degradation=true" else "") :=
    oneLine_ite (by decide) (by decide)
  have hexceeded : OneLine (if a.riskBudgetExceeded then " exceeded=true" else " exceeded=false") :=
    oneLine_ite (by decide) (by decide)
  unfold accountingLines
  simp only [List.forall_mem_cons, oneLine_append, oneLine_nat, oneLine_id,
    oneLine_ratio, oneLine_constraint, hreduced, hexceeded, and_true]
  decide +kernel

theorem authorityLines_oneLine : ∀ l ∈ authorityLines r, OneLine l := by
  unfold authorityLines
  simp only [List.forall_mem_cons, oneLine_append, oneLine_nat, oneLine_bool,
    oneLine_authority, and_true]
  decide +kernel

theorem resourceLine_oneLine (res : ResourceAccounting) : OneLine (resourceLine res) := by
  unfold resourceLine
  simp only [oneLine_append, oneLine_nat, oneLine_id, oneLine_health, and_true]
  decide +kernel

theorem intentLines_oneLine {i : CorrectiveIntent} (h : OneLine i.rationale) : ∀ l ∈ intentLines i, OneLine l := by
  have hclass : OneLine (if i.serviceClass.valid then " service_class=" ++ i.serviceClass.toString else "") :=
    oneLine_ite (by simp only [oneLine_append, oneLine_id, and_true]; decide +kernel) (by decide)
  have hresource : OneLine (if i.resource.valid then " resource=" ++ i.resource.toString else "") :=
    oneLine_ite (by simp only [oneLine_append, oneLine_id, and_true]; decide +kernel) (by decide)
  unfold intentLines
  rw [List.forall_mem_cons]
  constructor
  · simp only [oneLine_append, oneLine_nat, oneLine_kind, oneLine_target, oneLine_reason, hclass,
      hresource, and_true]
    decide +kernel
  · split
    · exact List.forall_mem_nil _
    · rw [List.forall_mem_singleton]
      simp only [oneLine_append, h, and_true]
      decide +kernel

theorem listing_oneLine {α : Type} {included : Bool} {heading : String} {items : List α}
    {lines : α → List String} (hheading : OneLine heading) (h : ∀ a ∈ items, ∀ l ∈ lines a, OneLine l) :
    ∀ l ∈ listing included heading items lines, OneLine l := by
  unfold listing
  split
  · rw [List.forall_mem_cons, List.forall_mem_flatMap]
    exact ⟨hheading, h⟩
  · exact List.forall_mem_nil _

/-- **Every line** of an explanation is one. -/
theorem explanationLines_oneLine (h : r.Flat) : ∀ l ∈ explanationLines policy r o, OneLine l := by
  have hresources : ∀ l ∈ listing o.includeResources "resources:" r.resources (fun res => [resourceLine res]),
      OneLine l := listing_oneLine (by decide) fun res _ => by
    rw [List.forall_mem_singleton]
    exact resourceLine_oneLine res
  have hintents : ∀ l ∈ listing o.includeIntents "corrective_intent:" r.intents intentLines, OneLine l :=
    listing_oneLine (by decide) fun i hi => intentLines_oneLine (h.rationales i hi)
  have hnotes : ∀ l ∈ listing o.includeNotes "notes:" r.notes (fun n => ["  " ++ n]), OneLine l :=
    listing_oneLine (by decide) fun n hn => by
      rw [List.forall_mem_singleton]
      simp only [oneLine_append, h.notes n hn, and_true]
      decide +kernel
  unfold explanationLines
  simp only [List.forall_mem_append, List.forall_mem_cons]
  refine ⟨⟨⟨⟨⟨⟨outcomeLines_oneLine h.detail, accountingLines_oneLine _⟩, authorityLines_oneLine⟩, hresources⟩,
    hintents⟩, hnotes⟩, ?_⟩
  simp only [oneLine_append, oneLine_hex, oneLine_id, oneLine_gen, and_true]
  decide +kernel

/-! ## The budget -/

/-- The text within a budget of bytes and lines. -/
structure TextWithin (b : Budget) (text : List UInt8) : Prop where
  bytes : text.length ≤ b.symbols
  lines : text.count newline ≤ b.lines

theorem ExplainOptions.budget_eq (o : ExplainOptions) : o.budget =
    { symbols := max 1 (min o.maxBytes.toNat kHardMaxExplanationBytes)
      lines := max 1 (min o.maxLines.toNat kHardMaxExplanationLines) } := by
  have hzero (x : UInt32) : x = 0 ↔ x.toNat = 0 := by rw [← UInt32.toNat_inj]; rfl
  have hbytes : kHardMaxExplanationBytes = 262144 := rfl
  have hlines : kHardMaxExplanationLines = 4096 := rfl
  unfold budget
  simp only [hzero, Budget.mk.injEq]
  constructor
  · split <;> omega
  · split <;> omega

/-- The lines that are pushed hold no line break. -/
theorem pushed_oneLine {lines : List String} (h : ∀ l ∈ lines, OneLine l) :
    ∀ line ∈ lines.map textBytes, newline ∉ line := by
  rw [List.forall_mem_map]
  exact h

/-- **An explanation** of a result without line breaks is within its budget. -/
theorem explainEvaluation_within (h : r.Flat) : TextWithin o.budget (explainEvaluation policy r o) := by
  have hempty : ({} : Page UInt8).Within o.budget := ⟨Nat.zero_le _, Nat.zero_le _⟩
  have hwithin : (((explanationLines policy r o).map textBytes).foldl (push o.budget newline) {}).Within o.budget :=
    foldl_push_within hempty
  have hlines : ∀ line ∈ (explanationLines policy r o).map textBytes, newline ∉ line :=
    pushed_oneLine (explanationLines_oneLine h)
  have hcount := @count_foldl_push _ o.budget newline {} _ _ hlines rfl
  exact ⟨hwithin.symbols, hcount.trans_le hwithin.lines⟩

end

end Oversub
