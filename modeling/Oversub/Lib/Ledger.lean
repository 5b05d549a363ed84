import Mathlib.Data.List.Induction
import Oversub.Lib.Table

/-!
# Oversub.Lib.Ledger

Ledgers of keyed records, oldest first.  A ledger folded into a table, each
record put under its key, leaves the last record of each key; what a ledger
loses at its front it loses for the keys alone that no later record names.
-/

namespace Ledger

variable {ρ κ : Type} [DecidableEq κ]

/-- The last record of a key. -/
def last (key : ρ → κ) (k : κ) (rs : List ρ) : Option ρ := (rs.filter fun r => key r = k).getLast?

section

variable {key : ρ → κ} {k : κ} {r : ρ} {rs rs' : List ρ}

@[simp] theorem last_nil : last key k [] = none := rfl

theorem last_append : last key k (rs ++ rs') = (last key k rs').or (last key k rs) := by
  rw [last, List.filter_append, List.getLast?_append]
  rfl

theorem last_singleton : last key k [r] = if key r = k then some r else none := by
  by_cases h : key r = k
  · simp [last, h]
  · simp [last, h]

theorem last_snoc : last key k (rs ++ [r]) = if key r = k then some r else last key k rs := by
  rw [last_append, last_singleton]
  split
  · rw [Option.some_or]
  · rw [Option.none_or]

theorem last_cons : last key k (r :: rs) =
    (last key k rs).or (if key r = k then some r else none) := by
  rw [← List.singleton_append, last_append, last_singleton]

theorem mem_of_last (h : last key k rs = some r) : r ∈ rs ∧ key r = k := by
  have hmem := List.mem_of_getLast? h
  simpa using hmem

theorem last_eq_none : last key k rs = none ↔ ∀ r ∈ rs, key r ≠ k := by
  simp [last]

/-- The last record of a key in the newer part of a ledger is its last. -/
theorem last_of_suffix (hsuffix : rs' <:+ rs) (h : last key k rs' = some r) :
    last key k rs = some r := by
  obtain ⟨older, rfl⟩ := hsuffix
  rw [last_append, h, Option.some_or]

theorem last_map {σ : Type} {f : σ → ρ} {ss : List σ} :
    last key k (ss.map f) = (last (fun s => key (f s)) k ss).map f := by
  rw [last, last, List.filter_map, List.getLast?_map]
  rfl

theorem last_congr {key' : ρ → κ} (h : ∀ r ∈ rs, key' r = key r) : last key' k rs = last key k rs := by
  rw [last, last, List.filter_congr fun r hr => by rw [h r hr]]

/-- The last record of a key, among those that some events record. -/
theorem last_filterMap {ε : Type} {f : ε → Option ρ} {es : List ε} :
    last key k (es.filterMap f) = some r ↔ ∃ before e after, es = before ++ e :: after ∧
      f e = some r ∧ key r = k ∧ ∀ e' ∈ after, ∀ r', f e' = some r' → key r' ≠ k := by
  induction es using List.reverseRecOn with
  | nil => simp
  | append_singleton es e ih =>
      have hsnoc : (es ++ [e]).filterMap f = es.filterMap f ++ (f e).toList := by
        rw [List.filterMap_append, List.filterMap_cons, List.filterMap_nil]
        cases f e <;> rfl
      have hkept (hnone : ∀ r', f e = some r' → key r' ≠ k) :
          last key k ((es ++ [e]).filterMap f) = last key k (es.filterMap f) := by
        rw [hsnoc]
        cases he : f e with
        | none => rw [Option.toList_none, List.append_nil]
        | some r' => rw [Option.toList_some, last_snoc, if_neg (hnone r' he)]
      by_cases hnames : ∃ r', f e = some r' ∧ key r' = k
      · obtain ⟨r', he, hkey⟩ := hnames
        rw [hsnoc, he, Option.toList_some, last_snoc, if_pos hkey]
        constructor
        · intro hr
          obtain rfl := Option.some.inj hr
          exact ⟨es, e, [], rfl, he, hkey, fun _ h => absurd h List.not_mem_nil⟩
        · intro ⟨before, e', after, hes, he', _, hafter⟩
          rcases List.eq_nil_or_concat after with rfl | ⟨middle, e'', rfl⟩
          · obtain ⟨-, hlast⟩ := List.append_inj' hes rfl
            obtain rfl := List.singleton_inj.mp hlast
            exact he.symm.trans he'
          · rw [List.concat_eq_append, ← List.cons_append, ← List.append_assoc] at hes
            obtain ⟨-, hlast⟩ := List.append_inj' hes rfl
            obtain rfl := List.singleton_inj.mp hlast
            exact absurd hkey (hafter e (by simp) r' he)
      · have hnone : ∀ r', f e = some r' → key r' ≠ k := fun r' he hkey => hnames ⟨r', he, hkey⟩
        rw [hkept hnone, ih]
        constructor
        · intro ⟨before, e', after, hes, he', hkey, hafter⟩
          refine ⟨before, e', after ++ [e], by simp [hes], he', hkey, ?_⟩
          intro e'' he'' r' hr'
          rcases List.mem_append.mp he'' with he'' | he''
          · exact hafter e'' he'' r' hr'
          · rw [List.mem_singleton.mp he''] at hr'
            exact hnone r' hr'
        · intro ⟨before, e', after, hes, he', hkey, hafter⟩
          rcases List.eq_nil_or_concat after with rfl | ⟨middle, e'', rfl⟩
          · obtain ⟨-, hlast⟩ := List.append_inj' hes rfl
            obtain rfl := List.singleton_inj.mp hlast
            exact absurd hkey (hnone r he')
          · rw [List.concat_eq_append, ← List.cons_append, ← List.append_assoc] at hes
            obtain ⟨hes, -⟩ := List.append_inj' hes rfl
            refine ⟨before, e', middle, hes, he', hkey, fun e₁ h₁ => hafter e₁ ?_⟩
            simp [h₁]

/-- A ledger folded into a table. -/
theorem get_foldl_put {α : Type} {name : α → κ} {make : ρ → α} (hmake : ∀ r, name (make r) = key r)
    (t : List α) : Table.get name k (rs.foldl (fun t r => Table.put name (make r) t) t) =
      ((last key k rs).map make).or (Table.get name k t) := by
  induction rs generalizing t with
  | nil => rfl
  | cons r rs ih =>
      rw [List.foldl_cons, ih, last_cons]
      by_cases h : key r = k
      · have hkey : k = name (make r) := by rw [hmake, h]
        rw [if_pos h, hkey, Table.get_put]
        cases last key (name (make r)) rs <;> rfl
      · have hkey : k ≠ name (make r) := by
          rw [hmake]
          exact Ne.symm h
        rw [if_neg h, Table.get_put_ne hkey, Option.or_none]

/-- The keys of such a table stay different. -/
theorem nodup_foldl_put {α : Type} {name : α → κ} {make : ρ → α} {t : List α}
    (ht : (t.map name).Nodup) :
    ((rs.foldl (fun t r => Table.put name (make r) t) t).map name).Nodup := by
  induction rs generalizing t with
  | nil => exact ht
  | cons r rs ih => exact ih (Table.nodup_put ht)

end

/-! ## Rising numbers -/

/-- The numbers of a ledger rise from one record to the next, from above `n`. -/
structure Rising (number : ρ → Nat) (n : Nat) (rs : List ρ) : Prop where
  above : ∀ r ∈ rs, n < number r
  pairwise : rs.Pairwise fun r r' => number r < number r'

section

variable {number : ρ → Nat} {n : Nat} {r : ρ} {rs rs' : List ρ}

theorem rising_nil : Rising number n [] := ⟨nofun, .nil⟩

theorem rising_cons :
    Rising number n (r :: rs) ↔ n < number r ∧ Rising number (number r) rs := by
  constructor
  · intro ⟨habove, hpairwise⟩
    obtain ⟨hfirst, hrest⟩ := List.pairwise_cons.mp hpairwise
    exact ⟨habove r List.mem_cons_self, hfirst, hrest⟩
  · intro ⟨hfirst, habove, hpairwise⟩
    refine ⟨?_, List.pairwise_cons.mpr ⟨habove, hpairwise⟩⟩
    intro r' hr'
    rcases List.mem_cons.mp hr' with rfl | hr'
    · exact hfirst
    · exact Nat.lt_trans hfirst (habove r' hr')

/-- One more record, with a number above all. -/
theorem Rising.snoc (h : Rising number n rs) (hn : n < number r)
    (hr : ∀ r' ∈ rs, number r' < number r) : Rising number n (rs ++ [r]) := by
  constructor
  · intro r' hr'
    rcases List.mem_append.mp hr' with hr' | hr'
    · exact h.above r' hr'
    · rwa [List.mem_singleton.mp hr']
  · refine List.pairwise_append.mpr ⟨h.pairwise, List.pairwise_singleton _ _, ?_⟩
    intro r' hr' r'' hr''
    rw [List.mem_singleton.mp hr'']
    exact hr r' hr'

theorem Rising.sublist (h : Rising number n rs) (hsub : rs'.Sublist rs) : Rising number n rs' :=
  ⟨fun r hr => h.above r (hsub.subset hr), h.pairwise.sublist hsub⟩

/-- The last record has the greatest number. -/
theorem Rising.le_getLast (h : Rising number n rs) {newest : ρ} (hlast : rs.getLast? = some newest)
    (hr : r ∈ rs) : number r ≤ number newest := by
  obtain ⟨older, rfl⟩ := List.getLast?_eq_some_iff.mp hlast
  rcases List.mem_append.mp hr with hr | hr
  · exact Nat.le_of_lt ((List.pairwise_append.mp h.pairwise).2.2 r hr newest (List.mem_singleton_self _))
  · exact Nat.le_of_eq (by rw [List.mem_singleton.mp hr])

/-! ## The newest number -/

/-- What the last record says of some quantity, zero where there is none. -/
def newest (number : ρ → Nat) (rs : List ρ) : Nat := (rs.getLast?.map number).getD 0

@[simp] theorem newest_nil : newest number [] = 0 := rfl

@[simp] theorem newest_snoc : newest number (rs ++ [r]) = number r := by
  rw [newest, List.getLast?_concat]
  rfl

theorem newest_congr (h : rs'.getLast? = rs.getLast?) : newest number rs' = newest number rs := by
  rw [newest, newest, h]

theorem Rising.le_newest (h : Rising number n rs) (hr : r ∈ rs) : number r ≤ newest number rs := by
  cases hlast : rs.getLast? with
  | none =>
      rw [List.getLast?_eq_none_iff.mp hlast] at hr
      exact absurd hr List.not_mem_nil
  | some last =>
      rw [newest, hlast]
      exact h.le_getLast hlast hr

/-- A ledger has no more records than numbers. -/
theorem Rising.length_le (h : Rising number n rs) : n + rs.length ≤ max n (newest number rs) := by
  induction rs using List.reverseRecOn with
  | nil => simp
  | append_singleton rs r ih =>
      have hrs := ih (h.sublist (List.sublist_append_left rs [r]))
      have hr : n < number r := h.above r (by simp)
      have hbefore : newest number rs < number r ∨ rs = [] := by
        rcases List.eq_nil_or_concat rs with rfl | ⟨older, last, rfl⟩
        · exact .inr rfl
        · rw [List.concat_eq_append, newest_snoc]
          have hpairwise := List.pairwise_append.mp h.pairwise
          exact .inl (hpairwise.2.2 last (by simp) r (List.mem_singleton_self r))
      rw [newest_snoc, List.length_append, List.length_singleton]
      rcases hbefore with hbefore | rfl
      · omega
      · rw [List.length_nil]
        omega

/-- The newest records end where all do. -/
theorem getLast?_drop_sub {k : Nat} (hk : 0 < k) : (rs.drop (rs.length - k)).getLast? = rs.getLast? := by
  rw [List.getLast?_drop]
  split
  next hle =>
    have hnil : rs = [] := List.eq_nil_of_length_eq_zero (by omega)
    rw [hnil]
    rfl
  · rfl

end

end Ledger
