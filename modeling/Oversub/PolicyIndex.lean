import Oversub.Engine.Grant
import Oversub.Lib.Halving

/-!
# Oversub.PolicyIndex

The sorted tables of a policy against the linear search over it (`policy.cpp`).
The table holds the entries of the policy in the order of their ids, whatever
order the sort leaves equal ids in; validation makes the ids distinct, so the
binary search and the scan can only find the same entry.
-/

namespace Oversub

def findServiceClass (policy : OversubscriptionPolicy) (id : ServiceClassId) :
    Option ServiceClassRef :=
  policy.serviceClasses.find? (·.id = id)

section

variable {α : Type} {key : α → UInt64} {l table : List α} {k : UInt64}

theorem StrongId.value_inj {tag : IdTag} {x y : StrongId tag} : x.value = y.value ↔ x = y := by
  cases x
  cases y
  simp

theorem parted_of_sorted (hs : table.Pairwise (key · ≤ key ·)) :
    Halving.Parted (fun a => decide (key a < k)) table :=
  hs.imp fun hab hb => by
    have hlt := of_decide_eq_true hb
    exact decide_eq_true (UInt64.lt_of_le_of_lt hab hlt)

/-- The halving loop of `std::lower_bound` ends at the lower bound. -/
theorem search_eq_lowerBound (hs : table.Pairwise (key · ≤ key ·)) :
    Halving.search (fun a => decide (key a < k)) table = lowerBound key table k :=
  Halving.search_eq (parted_of_sorted hs)

/-- In any sorted arrangement of entries with distinct keys, the lower bound of
a key is the entry with that key, if there is one. -/
theorem lowerBound_eq_find (hperm : table.Perm l) (hs : table.Pairwise (key · ≤ key ·))
    (hn : (l.map key).Nodup) :
    (lowerBound key table k).filter (fun a => decide (key a = k)) =
      l.find? fun a => decide (key a = k) := by
  cases hfind : l.find? fun a => decide (key a = k) with
  | some a =>
      have hkey : key a = k := by simpa using List.find?_some hfind
      have hmem : a ∈ table := hperm.mem_iff.mpr (List.mem_of_find?_eq_some hfind)
      have hfound := lowerBound_of_mem hs ((hperm.map key).nodup_iff.mpr hn) hmem
      rw [hkey] at hfound
      simp [hfound, hkey]
  | none =>
      have hnone := List.find?_eq_none.mp hfind
      cases hbound : lowerBound key table k with
      | none => rfl
      | some a =>
          have hmem : a ∈ l := hperm.mem_iff.mp (mem_of_lowerBound hbound)
          have hne : key a ≠ k := by simpa using hnone a hmem
          simp [hne]

end

namespace PolicyIndex

/-- `domain` with the search of `std::lower_bound` written out. -/
def searchDomain (index : PolicyIndex) (id : OversubscriptionDomainId) : Option DomainConfig :=
  match Halving.search (fun d => decide (d.id.value < id.value)) index.domains with
  | none => none
  | some d => if d.id = id then some d else none

/-- `service_class`, likewise. -/
def searchServiceClass (index : PolicyIndex) (id : ServiceClassId) : Option ServiceClassRef :=
  match Halving.search (fun c => decide (c.id.value < id.value)) index.classes with
  | none => none
  | some c => if c.id = id then some c else none

/-- The entries of a policy, in an order that a sort by id may leave them in. -/
structure Arranges (index : PolicyIndex) (policy : OversubscriptionPolicy) : Prop where
  domains : index.domains.Perm policy.domains
  domains_sorted : index.domains.Pairwise fun a b => a.id.value ≤ b.id.value
  classes : index.classes.Perm policy.serviceClasses
  classes_sorted : index.classes.Pairwise fun a b => a.id.value ≤ b.id.value

section

variable {policy : OversubscriptionPolicy} {index : PolicyIndex}

theorem rebuild_arranges : (rebuild policy).Arranges policy := by
  have hdomains : Std.Total fun a b : DomainConfig => a.id.value ≤ b.id.value :=
    ⟨fun _ _ => UInt64.le_total _ _⟩
  have hdomains' : IsTrans DomainConfig fun a b => a.id.value ≤ b.id.value :=
    ⟨fun _ _ _ => UInt64.le_trans⟩
  have hclasses : Std.Total fun a b : ServiceClassRef => a.id.value ≤ b.id.value :=
    ⟨fun _ _ => UInt64.le_total _ _⟩
  have hclasses' : IsTrans ServiceClassRef fun a b => a.id.value ≤ b.id.value :=
    ⟨fun _ _ _ => UInt64.le_trans⟩
  exact ⟨List.perm_insertionSort _ _, List.pairwise_insertionSort _ _,
    List.perm_insertionSort _ _, List.pairwise_insertionSort _ _⟩

theorem Arranges.domain_eq (h : index.Arranges policy) (hp : policy.Installable)
    (id : OversubscriptionDomainId) : index.domain id = findDomain policy id := by
  have hfind := lowerBound_eq_find (k := id.value) h.domains h.domains_sorted hp.domains_nodup
  have hsame : (fun d : DomainConfig => decide (d.id.value = id.value)) = fun d => decide (d.id = id) := by
    funext d
    simp [StrongId.value_inj]
  rw [hsame] at hfind
  rw [domain, findDomain, ← hfind]
  cases lowerBound (·.id.value) index.domains id.value <;> simp [Option.filter]

theorem Arranges.serviceClass_eq (h : index.Arranges policy) (hp : policy.Installable)
    (id : ServiceClassId) : index.serviceClass id = findServiceClass policy id := by
  have hfind := lowerBound_eq_find (k := id.value) h.classes h.classes_sorted hp.classes_nodup
  have hsame : (fun c : ServiceClassRef => decide (c.id.value = id.value)) = fun c => decide (c.id = id) := by
    funext c
    simp [StrongId.value_inj]
  rw [hsame] at hfind
  rw [serviceClass, findServiceClass, ← hfind]
  cases lowerBound (·.id.value) index.classes id.value <;> simp [Option.filter]

theorem Arranges.searchDomain_eq (h : index.Arranges policy) (id : OversubscriptionDomainId) :
    index.searchDomain id = index.domain id :=
  congrArg (fun found : Option DomainConfig => match found with
    | none => none
    | some d => if d.id = id then some d else none) (search_eq_lowerBound h.domains_sorted)

theorem Arranges.searchServiceClass_eq (h : index.Arranges policy) (id : ServiceClassId) :
    index.searchServiceClass id = index.serviceClass id :=
  congrArg (fun found : Option ServiceClassRef => match found with
    | none => none
    | some c => if c.id = id then some c else none) (search_eq_lowerBound h.classes_sorted)

/-- **The index agrees with the scan** on every accepted policy.  The source
returns pointers: no entry stands twice in the policy, so the entry tells
which. -/
theorem lookup_eq_find (h : (validatePolicy policy).isOk = true) :
    (∀ id, (rebuild policy).domain id = findDomain policy id ∧
      (rebuild policy).searchDomain id = findDomain policy id) ∧
    (∀ id, (rebuild policy).serviceClass id = findServiceClass policy id ∧
      (rebuild policy).searchServiceClass id = findServiceClass policy id) ∧
    policy.domains.Nodup ∧ policy.serviceClasses.Nodup := by
  have hp := validatePolicy_installable h
  have hindex : (rebuild policy).Arranges policy := rebuild_arranges
  have hdomain (id : OversubscriptionDomainId) := hindex.domain_eq hp id
  have hclass (id : ServiceClassId) := hindex.serviceClass_eq hp id
  exact ⟨fun id => ⟨hdomain id, (hindex.searchDomain_eq id).trans (hdomain id)⟩,
    fun id => ⟨hclass id, (hindex.searchServiceClass_eq id).trans (hclass id)⟩,
    hp.domains_nodup.of_map _, hp.classes_nodup.of_map _⟩

theorem lookup_sample :
    (rebuild samplePolicy).domain ⟨1⟩ = findDomain samplePolicy ⟨1⟩ ∧
      (findDomain samplePolicy ⟨1⟩).isSome = true ∧
      (rebuild samplePolicy).serviceClass ⟨2⟩ = findServiceClass samplePolicy ⟨2⟩ ∧
      (findServiceClass samplePolicy ⟨2⟩).isSome = false := by
  have hagree := lookup_eq_find samplePolicy_valid
  exact ⟨(hagree.1 ⟨1⟩).1, by decide, (hagree.2.1 ⟨2⟩).1, by decide⟩

end

end PolicyIndex

end Oversub
