import ClassAudit.Text.Ordered
import Mathlib.Data.Finset.Card
import Mathlib.Data.List.Perm.Basic

/-!
# Ordered sets as lists

`distinct` keeps every value once and `ordered` sorts what it keeps, so both hold exactly the values
of the list they were made from, and the length of `distinct` counts them.

Values that their keys tell apart have one sorted list, in whatever order they come, and a value
with a new key goes to one place of it that the key decides.
-/

namespace ClassAudit.Text

variable {α β : Type}

/-- `distinctBy` preserves the set of keys. -/
theorem map_key_distinctBy [DecidableEq β] (key : α → β) (values : List α) (b : β) :
    b ∈ (distinctBy key values).map key ↔ b ∈ values.map key := by
  induction values with
  | nil => rfl
  | cons a rest ih =>
    simp only [distinctBy, List.map_cons, List.mem_cons]
    by_cases hb : b = key a
    · simp [hb]
    · simp only [hb, false_or]
      rw [← ih]
      simp only [List.mem_map, List.mem_filter, decide_eq_true_eq]
      constructor
      · rintro ⟨c, ⟨hc, -⟩, rfl⟩
        exact ⟨c, hc, rfl⟩
      · rintro ⟨c, hc, rfl⟩
        exact ⟨c, ⟨hc, hb⟩, rfl⟩

/-- The keys of `distinctBy` are distinct. -/
theorem nodup_map_distinctBy [DecidableEq β] (key : α → β) (values : List α) :
    ((distinctBy key values).map key).Nodup := by
  induction values with
  | nil => exact List.nodup_nil
  | cons a rest ih =>
    simp only [distinctBy, List.map_cons, List.nodup_cons]
    refine ⟨?_, ih.sublist (List.filter_sublist.map key)⟩
    intro ha
    obtain ⟨c, hc, hca⟩ := List.mem_map.mp ha
    have hne := (List.mem_filter.mp hc).2
    simp [hca] at hne

/-! ## Sorting by a key -/

section Sorting

variable (key : α → String) {values sorted others : List α}

/-- `mergeSort` by a key puts the keys in order. -/
theorem pairwise_mergeSort_key (values : List α) :
    (values.mergeSort fun a b => decide (key a ≤ key b)).Pairwise fun a b => key a ≤ key b := by
  have hsorted : (values.mergeSort fun a b => decide (key a ≤ key b)).Pairwise
      fun a b => decide (key a ≤ key b) = true := by
    apply List.pairwise_mergeSort
    · intro a b c hab hbc
      rw [decide_eq_true_eq] at hab hbc ⊢
      exact String.le_trans hab hbc
    · intro a b
      simpa using String.le_total (key a) (key b)
  exact hsorted.imp fun h => by simpa using h

/-- A sorted permutation of values with distinct keys is their `mergeSort`. -/
theorem mergeSort_key_eq (hperm : values.Perm sorted)
    (hkeys : ∀ a ∈ sorted, ∀ b ∈ sorted, key a = key b → a = b)
    (hsorted : sorted.Pairwise fun a b => key a ≤ key b) :
    values.mergeSort (fun a b => decide (key a ≤ key b)) = sorted := by
  have hsame := (List.mergeSort_perm values fun a b => decide (key a ≤ key b)).trans hperm
  refine hsame.eq_of_pairwise ?_ (pairwise_mergeSort_key key values) hsorted
  intro a b ha hb hab hba
  exact hkeys a (hsame.subset ha) b hb (String.le_antisymm hab hba)

/-- `mergeSort` by distinct keys is invariant under permutation. -/
theorem mergeSort_key_perm (hperm : values.Perm others)
    (hkeys : ∀ a ∈ values, ∀ b ∈ values, key a = key b → a = b) :
    values.mergeSort (fun a b => decide (key a ≤ key b))
      = others.mergeSort fun a b => decide (key a ≤ key b) := by
  have hsorted := hperm.trans (List.mergeSort_perm others fun a b => decide (key a ≤ key b)).symm
  refine mergeSort_key_eq key hsorted ?_ (pairwise_mergeSort_key key others)
  exact fun a ha b hb => hkeys a (hsorted.mem_iff.mpr ha) b (hsorted.mem_iff.mpr hb)

/-- The position of a value with a new key in `mergeSort`, which depends on the key only. -/
theorem exists_mergeSort_key_place {rest : List α} (hkeys : (rest.map key).Nodup) {k : String}
    (hk : k ∉ rest.map key) :
    ∃ before after, rest.mergeSort (fun a b => decide (key a ≤ key b)) = before ++ after
      ∧ ∀ (a : α) (values : List α), key a = k → values.Perm (a :: rest) →
        values.mergeSort (fun a b => decide (key a ≤ key b)) = before ++ a :: after := by
  -- The place is behind the values whose keys are not above `k`.
  let sorted := rest.mergeSort fun a b => decide (key a ≤ key b)
  let before := sorted.filter fun a => decide (key a ≤ k)
  let after := sorted.filter fun a => !decide (key a ≤ k)
  have hparts : (before ++ after).Perm rest :=
    (List.filter_append_perm _ sorted).trans (List.mergeSort_perm _ _)
  have hbefore : before.Pairwise fun a b => key a ≤ key b :=
    (pairwise_mergeSort_key key rest).filter _
  have hafter : after.Pairwise fun a b => key a ≤ key b :=
    (pairwise_mergeSort_key key rest).filter _
  have hbelow : ∀ a ∈ before, key a ≤ k := by
    intro a ha
    simpa using (List.mem_filter.mp ha).2
  have habove : ∀ a ∈ after, k ≤ key a := by
    intro a ha
    have hnot : ¬key a ≤ k := by simpa using (List.mem_filter.mp ha).2
    exact (String.le_total (key a) k).resolve_left hnot
  refine ⟨before, after, ?_, ?_⟩
  · refine mergeSort_key_eq key hparts.symm ?_ ?_
    · have hall := (hparts.map key).nodup_iff.mpr hkeys
      exact fun a ha b hb => List.inj_on_of_nodup_map hall ha hb
    refine List.pairwise_append.mpr ⟨hbefore, hafter, ?_⟩
    exact fun a ha b hb => String.le_trans (hbelow a ha) (habove b hb)
  · intro a values hka hperm
    have hwhole : values.Perm (before ++ a :: after) :=
      hperm.trans ((hparts.symm.cons a).trans List.perm_middle.symm)
    have hall : ((before ++ a :: after).map key).Nodup := by
      rw [← (hwhole.map key).nodup_iff, (hperm.map key).nodup_iff, List.map_cons, List.nodup_cons,
        hka]
      exact ⟨hk, hkeys⟩
    refine mergeSort_key_eq key hwhole (fun b hb c hc => List.inj_on_of_nodup_map hall hb hc) ?_
    refine List.pairwise_append.mpr ⟨hbefore, List.pairwise_cons.mpr ⟨?_, hafter⟩, ?_⟩
    · exact fun b hb => hka ▸ habove b hb
    · intro b hb c hc
      have hbk := hbelow b hb
      rcases List.mem_cons.mp hc with rfl | hc
      · exact hka ▸ hbk
      · exact String.le_trans hbk (habove c hc)

end Sorting

/-! ## Distinct values -/

variable [DecidableEq α]

@[simp]
theorem mem_distinct {values : List α} {a : α} : a ∈ distinct values ↔ a ∈ values := by
  simpa [distinct] using map_key_distinctBy (id : α → α) values a

theorem nodup_distinct (values : List α) : (distinct values).Nodup := by
  simpa [distinct] using nodup_map_distinctBy (id : α → α) values

/-- The length of `distinct` is the number of values that occur. -/
theorem length_distinct (values : List α) : (distinct values).length = values.toFinset.card := by
  rw [← List.toFinset_card_of_nodup (nodup_distinct values)]
  congr 1
  ext a
  simp

@[simp]
theorem mem_ordered {names : List String} {name : String} :
    name ∈ ordered names ↔ name ∈ names := by
  rw [ordered, List.mem_mergeSort, mem_distinct]

/-- `ordered` is strictly increasing. -/
theorem pairwise_ordered (names : List String) : (ordered names).Pairwise (· < ·) := by
  have hsorted := pairwise_mergeSort_key id (distinct names)
  have hnodup : (ordered names).Nodup :=
    (List.mergeSort_perm _ _).nodup_iff.mpr (nodup_distinct names)
  refine (hsorted.and hnodup).imp fun {a b} hab => String.not_le.mp fun hba => ?_
  exact hab.2 (String.le_antisymm hab.1 hba)

/-- `ordered` depends only on the set of names. -/
theorem ordered_congr {names others : List String} (h : ∀ name, name ∈ names ↔ name ∈ others) :
    ordered names = ordered others := by
  have hperm : (distinct names).Perm (distinct others) := by
    rw [List.perm_ext_iff_of_nodup (nodup_distinct names) (nodup_distinct others)]
    simpa using h
  exact mergeSort_key_perm id hperm fun a _ b _ hab => hab

end ClassAudit.Text
