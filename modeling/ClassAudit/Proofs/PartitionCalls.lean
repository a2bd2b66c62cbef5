import ClassAudit.Proofs.Partition
import Mathlib

/-!
# Partitions under calls

Lookups, unions and counts in any order, on a partition that starts with every number in a set of
its own.  At any time the sets are the classes of the equivalence that the unions so far generate,
and a lookup changes none of them: it only shortens the path it has followed.

## Shape of the proof

A lookup follows a path twice, once to find the root and once to shorten the path.  `LeadsTo` and
`Shortens` are these two loops without a bound on their steps, so that a lookup that satisfies both
ends by itself and not by its bound.  `Represents` is kept by every call (`Represents.perform`), and
so by every sequence of calls.
-/

namespace ClassAudit.Partition

/-! ## Shortening a path -/

/-- The second pass of a lookup: every node from the given one on is pointed to `root`, up to the
first that already points there. -/
inductive Shortens (root : Nat) : Array Nat → Nat → Array Nat → Prop
  | done {parent : Array Nat} {node : Nat} (direct : parentOf parent node = root) :
      Shortens root parent node parent
  | step {parent shortened : Array Nat} {node : Nat} (far : parentOf parent node ≠ root)
      (rest : Shortens root (parent.setIfInBounds node root) (parentOf parent node) shortened) :
      Shortens root parent node shortened

section Loops

variable {parent : Array Nat} {node other root : Nat}

theorem getElem?_eq_parentOf (hn : node < parent.size) :
    parent[node]? = some (parentOf parent node) := by
  simp [parentOf, Array.getD, hn]

/-- A shortcut to the root makes no path to the root longer. -/
theorem iterate_shortcut (isRoot : parentOf parent root = root) (hn : node < parent.size)
    (hne : node ≠ root) {k : Nat} (h : (parentOf parent)^[k] other = root) :
    (parentOf (parent.setIfInBounds node root))^[k] other = root := by
  have hroot : parentOf (parent.setIfInBounds node root) root = root := by
    rw [parentOf_set _ _ _ _ hn, if_neg hne.symm, isRoot]
  induction k generalizing other with
  | zero => exact h
  | succ k ih =>
    rw [Function.iterate_succ_apply] at h ⊢
    rw [parentOf_set _ _ _ _ hn]
    split
    · exact Function.iterate_fixed hroot k
    · exact ih h

/-- `shorten` completes the pass `Shortens` when the bound covers the path. -/
theorem shortens_shorten (inside : ∀ x < parent.size, parentOf parent x < parent.size)
    (isRoot : parentOf parent root = root) (hr : root < parent.size) (hn : node < parent.size)
    {bound k : Nat} (hk : k ≤ bound + 1) (h : (parentOf parent)^[k] node = root) :
    Shortens root parent node (shorten root bound parent node) := by
  induction bound generalizing parent node k with
  | zero =>
    -- a path of one step at most needs no shortening
    refine .done ?_
    rcases Nat.le_one_iff_eq_zero_or_eq_one.mp hk with rfl | rfl
    · rwa [show node = root from h]
    · exact h
  | succ bound ih =>
    rw [shorten]
    split
    case isTrue hdirect => exact .done hdirect
    case isFalse hfar =>
      have hne : node ≠ root := by
        rintro rfl
        exact hfar isRoot
      obtain ⟨k, rfl⟩ : ∃ j, k = j + 1 := by
        refine Nat.exists_eq_succ_of_ne_zero ?_
        rintro rfl
        exact hne h
      refine .step hfar (ih ?_ ?_ (by simpa using hr) (by simpa using inside node hn) (k := k)
        (by omega) (iterate_shortcut isRoot hn hne h))
      · intro x hx
        rw [Array.size_setIfInBounds] at hx ⊢
        rw [parentOf_set _ _ _ _ hn]
        split
        · exact hr
        · exact inside x hx
      · rw [parentOf_set _ _ _ _ hn, if_neg hne.symm, isRoot]

end Loops

variable {partition : Partition}

/-- `find` completes the pass `Shortens`. -/
theorem shortens_find (forest : Forest partition.parent) {node : Nat} (hn : node < partition.size) :
    Shortens (partition.root node) partition.parent node (partition.find node).2.parent := by
  have path := leadsTo_root forest hn
  obtain ⟨k, hk, hroot⟩ := exists_iterate_lt forest hn path
  exact shortens_shorten forest.inside path.isRoot (root_lt_size forest hn) hn
    (by rw [size]; omega) hroot

/-- `find` preserves `LeadsTo` in both directions. -/
theorem leadsTo_find_iff (forest : Forest partition.parent) {node other root : Nat}
    (hn : node < partition.size) (ho : other < partition.size) :
    LeadsTo (partition.find node).2.parent other root ↔ LeadsTo partition.parent other root := by
  have hafter := leadsTo_root (forest_find forest hn) (by simpa using ho)
  have hbefore := leadsTo_root forest ho
  rw [root_find forest hn ho] at hafter
  constructor
  · intro h
    rwa [h.unique hafter]
  · intro h
    rwa [h.unique hbefore]

/-! ## Calls -/

/-- A call on a partition of the numbers below `n`. -/
inductive Call (n : Nat) where
  | find (node : Fin n)
  | union (a b : Fin n)
  | count

variable {n : Nat} {related : Fin n → Fin n → Prop}

/-- The partition after the call. -/
def perform (partition : Partition) : Call n → Partition
  | .find node => (partition.find node).2
  | .union a b => partition.union a b
  | .count => partition.count.2

/-- The partition of the numbers below `n` after some calls. -/
def after (calls : List (Call n)) : Partition :=
  calls.foldl perform (singletons n)

/-- The pairs given to `Call.union` in `calls`. -/
def Joined (calls : List (Call n)) (a b : Fin n) : Prop :=
  Call.union a b ∈ calls

namespace Represents

/-- `count` preserves `Represents`. -/
theorem count (h : Represents partition related) : Represents partition.count.2 related := by
  obtain ⟨-, hsize, hforest, hkeep⟩ := findAll_spec (List.range partition.size) h.forest
    (fun node hn => List.mem_range.mp hn)
  have hlt : ∀ z : Fin n, (z : Nat) < partition.size := fun z => by
    rw [h.size_eq]
    exact z.isLt
  refine ⟨hsize.trans h.size_eq, hforest, fun x y => ?_⟩
  rw [← h.root_eq_iff x y, ← hkeep x (hlt x), ← hkeep y (hlt y)]
  rfl

/-- The step: `perform` adds the pair of a `union` to the relation. -/
theorem perform (h : Represents partition related) (call : Call n) :
    Represents (partition.perform call) fun x y => related x y ∨ call = .union x y := by
  cases call with
  | find node => simpa [Partition.perform] using h.find node
  | count => simpa [Partition.perform] using h.count
  | union a b => simpa [Partition.perform, eq_comm] using h.union a b

/-- The run: folding `perform` adds the pairs that are `Joined`. -/
theorem foldl_perform (h : Represents partition related) (calls : List (Call n)) :
    Represents (calls.foldl Partition.perform partition)
      fun x y => related x y ∨ Joined calls x y := by
  induction calls generalizing partition related with
  | nil => simpa [Joined] using h
  | cons call rest ih => simpa [Joined, or_assoc, eq_comm] using ih (h.perform call)

end Represents

/-- `after calls` `Represents` the pairs `Joined` by `calls`. -/
theorem represents_after (calls : List (Call n)) : Represents (after calls) (Joined calls) := by
  simpa [after] using (Represents.singletons n).foldl_perform calls

/-- The pointers form a forest, lookups return roots and shorten paths, and both lookups and `count`
agree with the equivalence generated by `joined`. -/
structure Generated (partition : Partition) (joined : Fin n → Fin n → Prop) : Prop where
  /-- Pointers stay below `n`. -/
  pointer_lt : ∀ node : Fin n, ∃ pointer < n, partition.parent[(node : Nat)]? = some pointer
  /-- Following pointers ends at a root, which `find` returns. -/
  leadsTo : ∀ node : Fin n, LeadsTo partition.parent node (partition.find node).1
  /-- The second pass of `find` ends. -/
  shortens : ∀ node : Fin n,
    Shortens (partition.find node).1 partition.parent node (partition.find node).2.parent
  /-- `find` preserves the roots. -/
  leadsTo_iff : ∀ (node other : Fin n) (root : Nat),
    LeadsTo (partition.find node).2.parent other root ↔ LeadsTo partition.parent other root
  /-- Successive `find`s return the same root iff the numbers are equivalent. -/
  find_eq_iff : ∀ x y : Fin n,
    (partition.find x).1 = ((partition.find x).2.find y).1 ↔ Relation.EqvGen joined x y
  count_eq : partition.count.1 = Nat.card (Quotient (Relation.EqvGen.setoid joined))

/-- **Any sequence of calls gives the generated partition.**  After any calls of `find`, `union` and
`count`, the partition is `Generated` by the pairs that were `Joined`. -/
theorem generated_after (calls : List (Call n)) : Generated (after calls) (Joined calls) := by
  have h := represents_after calls
  have hlt : ∀ node : Fin n, (node : Nat) < (after calls).size := fun node => by
    rw [h.size_eq]
    exact node.isLt
  refine ⟨fun node => ?_, fun node => leadsTo_root h.forest (hlt node),
    fun node => shortens_find h.forest (hlt node),
    fun node other root => leadsTo_find_iff h.forest (hlt node) (hlt other), fun x y => ?_, ?_⟩
  · have hinside := h.forest.inside node (hlt node)
    exact ⟨_, lt_of_lt_of_eq hinside h.size_eq, getElem?_eq_parentOf (hlt node)⟩
  · rw [find_fst, find_fst, root_find h.forest (hlt x) (hlt y)]
    exact h.root_eq_iff x y
  · -- the count is that of the classes of the generated equivalence, taken as a relation
    exact (h.congr (fun x y hxy => .rel x y (.rel x y hxy)) fun x y hxy => hxy).count_eq

example : (after [Call.union (0 : Fin 5) 1, .union 3 4, .union 1 4]).count.1 = 2 := by decide

end ClassAudit.Partition
