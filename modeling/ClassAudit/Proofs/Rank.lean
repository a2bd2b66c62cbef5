import ClassAudit.Proofs.PartitionCalls
import Mathlib

/-!
# Ranks

A rank grows only when two sets of the same rank are joined, so a set whose root has rank `r` has at
least `2 ^ r` members.  Ranks are bytes; a partition for which a byte is too small would need more
members than there can be.

## Shape of the proof

The bound is kept when a root is pointed to another one (`Ranked.attach`), provided that no rank
changes but that of the root that stays.  The three ways of joining two roots differ only in which
of them stays and in its new rank.  A byte that wraps round falls to zero, which the bound allows;
so the bound holds whatever the number of members is, and that no byte wraps round follows from it.
-/

namespace ClassAudit.Partition

/-- The rank of `node`. -/
def rankOf (partition : Partition) (node : Nat) : Nat :=
  (partition.rank.getD node 0).toNat

/-- The nodes whose `root` is `root`. -/
def members (partition : Partition) (root : Nat) : Finset Nat :=
  (Finset.range partition.size).filter fun node => partition.root node = root

/-- A set whose root has rank `r` has at least `2 ^ r` members, and the whole partition at least
`2 ^ r` nodes for every rank `r`. -/
structure Ranked (partition : Partition) : Prop where
  forest : Forest partition.parent
  size_rank : partition.rank.size = partition.size
  pow_le_card : ∀ root < partition.size, partition.root root = root →
    2 ^ partition.rankOf root ≤ (partition.members root).card
  /-- Holds of every node: one that is no longer a root keeps its rank. -/
  pow_le_size : ∀ node < partition.size, 2 ^ partition.rankOf node ≤ partition.size

variable {partition : Partition}

/-! ## Members -/

theorem mem_members {root node : Nat} :
    node ∈ partition.members root ↔ node < partition.size ∧ partition.root node = root := by
  simp [members]

theorem disjoint_members {a b : Nat} (hne : a ≠ b) :
    Disjoint (partition.members a) (partition.members b) := by
  rw [Finset.disjoint_left]
  intro node ha hb
  exact hne ((mem_members.mp ha).2.symm.trans (mem_members.mp hb).2)

/-- Two different sets of `members` have at most `size` members together. -/
theorem card_members_add_le {a b : Nat} (hne : a ≠ b) :
    (partition.members a).card + (partition.members b).card ≤ partition.size := by
  calc (partition.members a).card + (partition.members b).card
      = (partition.members a ∪ partition.members b).card :=
        (Finset.card_union_of_disjoint (disjoint_members hne)).symm
    _ ≤ (Finset.range partition.size).card :=
        Finset.card_le_card
          (Finset.union_subset (Finset.filter_subset _ _) (Finset.filter_subset _ _))
    _ = partition.size := Finset.card_range _

theorem members_congr {other : Partition} (hsize : other.size = partition.size)
    (hroot : ∀ node < partition.size, other.root node = partition.root node) (root : Nat) :
    other.members root = partition.members root := by
  ext node
  rw [mem_members, mem_members, hsize]
  exact and_congr_right fun hn => by rw [hroot node hn]

/-! ## Steps -/

theorem rankOf_singletons (n node : Nat) : (singletons n).rankOf node = 0 := by
  by_cases h : node < n <;> simp [rankOf, singletons, Array.getD, h]

theorem ranked_singletons (n : Nat) : Ranked (singletons n) where
  forest := forest_singletons n
  size_rank := by simp [singletons, size]
  pow_le_card root hroot hself := by
    rw [rankOf_singletons]
    exact Finset.card_pos.mpr ⟨root, mem_members.mpr ⟨hroot, hself⟩⟩
  pow_le_size node hn := by
    rw [rankOf_singletons]
    exact Nat.one_le_of_lt hn

/-- `Ranked` is preserved by a change that preserves ranks and roots. -/
theorem Ranked.congr {other : Partition} (h : Ranked partition) (hforest : Forest other.parent)
    (hrank : other.rank = partition.rank) (hsize : other.size = partition.size)
    (hroot : ∀ node < partition.size, other.root node = partition.root node) : Ranked other := by
  have hrankOf : ∀ node, other.rankOf node = partition.rankOf node := fun node => by
    rw [rankOf, rankOf, hrank]
  refine ⟨hforest, by rw [hrank, hsize, h.size_rank], fun root hlt hself => ?_, fun node hn => ?_⟩
  · rw [hsize] at hlt
    rw [hrankOf, members_congr hsize hroot]
    exact h.pow_le_card root hlt (by rw [← hroot root hlt, hself])
  · rw [hsize] at hn ⊢
    rw [hrankOf]
    exact h.pow_le_size node hn

theorem Ranked.find (h : Ranked partition) {node : Nat} (hn : node < partition.size) :
    Ranked (partition.find node).2 :=
  h.congr (forest_find h.forest hn) rfl (size_find node) fun _ ho => root_find h.forest hn ho

theorem Ranked.findAll (h : Ranked partition) {nodes : List Nat}
    (hnodes : ∀ node ∈ nodes, node < partition.size) : Ranked (partition.findAll nodes).2 := by
  induction nodes generalizing partition with
  | nil => exact h
  | cons node rest ih =>
    obtain ⟨hn, hrest⟩ := List.forall_mem_cons.mp hnodes
    have hleft : ∀ other ∈ rest, other < (partition.find node).2.size := fun other ho => by
      rw [size_find]
      exact hrest other ho
    exact ih (h.find hn) hleft

/-- `Ranked` is preserved by pointing the root `child` to the root `top`, if both sets together are
large enough for the new rank of `top`. -/
theorem Ranked.attach (h : Ranked partition) {child top : Nat} (hc : child < partition.size)
    (ht : top < partition.size) (hchild : partition.root child = child)
    (htop : partition.root top = top) (hne : child ≠ top) {rank : Array UInt8}
    (hsize : rank.size = partition.size)
    (hstay : ∀ node ≠ top, rank.getD node 0 = partition.rank.getD node 0)
    (hpow : 2 ^ (rank.getD top 0).toNat
      ≤ (partition.members child).card + (partition.members top).card) :
    Ranked { parent := partition.parent.setIfInBounds child top, rank } := by
  obtain ⟨hforest, hroot⟩ := attach_spec rank h.forest hc ht hchild htop hne
  set joined : Partition :=
    { parent := partition.parent.setIfInBounds child top, rank } with hjoined
  have hsizes : joined.size = partition.size := Array.size_setIfInBounds
  have hrank : ∀ node ≠ top, joined.rankOf node = partition.rankOf node := fun node hnode => by
    rw [rankOf, rankOf, hjoined, hstay node hnode]
  refine ⟨hforest, hsize.trans hsizes.symm, fun root hlt hself => ?_, fun node hn => ?_⟩
  · rw [hsizes] at hlt
    rw [hroot root hlt] at hself
    by_cases hroottop : root = top
    · have hmembers : joined.members top = partition.members child ∪ partition.members top := by
        ext node
        rw [Finset.mem_union, mem_members, mem_members, mem_members, hsizes, ← and_or_left]
        refine and_congr_right fun hn => ?_
        rw [hroot node hn]
        split_ifs <;> simp_all
      rw [hroottop, hmembers, Finset.card_union_of_disjoint (disjoint_members hne)]
      exact hpow
    · -- any other root has kept its set
      have hmembers : joined.members root = partition.members root := by
        ext node
        rw [mem_members, mem_members, hsizes]
        refine and_congr_right fun hn => ?_
        rw [hroot node hn]
        split_ifs <;> grind
      rw [hrank root hroottop, hmembers]
      exact h.pow_le_card root hlt (by grind)
  · rw [hsizes] at hn ⊢
    by_cases hnode : node = top
    · rw [hnode]
      exact hpow.trans (card_members_add_le hne)
    · rw [hrank node hnode]
      exact h.pow_le_size node hn

/-! ## Joining two roots -/

/-- The three cases of `link`, by the ranks of the two roots. -/
theorem link_cases (a b : Nat) :
    (partition.rankOf a < partition.rankOf b ∧
      partition.link a b = { partition with parent := partition.parent.setIfInBounds a b }) ∨
    (partition.rankOf b < partition.rankOf a ∧
      partition.link a b = { partition with parent := partition.parent.setIfInBounds b a }) ∨
    (partition.rankOf a = partition.rankOf b ∧
      partition.link a b =
        { parent := partition.parent.setIfInBounds b a
          rank := partition.rank.setIfInBounds a (partition.rank.getD a 0 + 1) }) := by
  unfold link rankOf
  by_cases hless : partition.rank.getD a 0 < partition.rank.getD b 0
  · exact Or.inl ⟨UInt8.lt_iff_toNat_lt.mp hless, if_pos hless⟩
  · by_cases hgreater : partition.rank.getD b 0 < partition.rank.getD a 0
    · exact Or.inr (Or.inl ⟨UInt8.lt_iff_toNat_lt.mp hgreater,
        (if_neg hless).trans (if_pos hgreater)⟩)
    · have hequal := UInt8.le_antisymm (UInt8.not_lt.mp hgreater) (UInt8.not_lt.mp hless)
      exact Or.inr (Or.inr ⟨by rw [hequal], (if_neg hless).trans (if_neg hgreater)⟩)

theorem getD_raised {rank : Array UInt8} {a : Nat} (ha : a < rank.size) (value : UInt8)
    (node : Nat) :
    (rank.setIfInBounds a value).getD node 0 = if node = a then value else rank.getD node 0 := by
  rw [Array.getD_eq_getD_getElem?, Array.getD_eq_getD_getElem?, Array.getElem?_setIfInBounds,
    if_pos ha]
  split_ifs <;> grind

theorem Ranked.link (h : Ranked partition) {a b : Nat} (ha : a < partition.size)
    (hb : b < partition.size) (isRootA : partition.root a = a) (isRootB : partition.root b = b)
    (hne : a ≠ b) : Ranked (partition.link a b) := by
  have hpowA := h.pow_le_card a ha isRootA
  have hpowB := h.pow_le_card b hb isRootB
  have ha' : a < partition.rank.size := by rwa [h.size_rank]
  rcases partition.link_cases a b with ⟨-, hlink⟩ | ⟨-, hlink⟩ | ⟨hequal, hlink⟩ <;> rw [hlink]
  · exact h.attach ha hb isRootA isRootB hne h.size_rank (fun _ _ => rfl)
      (hpowB.trans (Nat.le_add_left _ _))
  · exact h.attach hb ha isRootB isRootA hne.symm h.size_rank (fun _ _ => rfl)
      (hpowA.trans (Nat.le_add_left _ _))
  · refine h.attach hb ha isRootB isRootA hne.symm (by simpa using h.size_rank) ?_ ?_
    · intro node hnode
      rw [getD_raised ha', if_neg hnode]
    · rw [getD_raised ha', if_pos rfl]
      -- should the byte wrap round, its power is the smaller for it
      have hraised : (partition.rank.getD a 0 + 1).toNat ≤ partition.rankOf a + 1 := by
        rw [UInt8.toNat_add]
        exact Nat.mod_le _ _
      calc 2 ^ (partition.rank.getD a 0 + 1).toNat
          ≤ 2 ^ (partition.rankOf a + 1) := Nat.pow_le_pow_right Nat.two_pos hraised
        _ = 2 ^ partition.rankOf b + 2 ^ partition.rankOf a := by
            rw [Nat.pow_succ, Nat.mul_two, hequal]
        _ ≤ (partition.members b).card + (partition.members a).card :=
            Nat.add_le_add hpowB hpowA

/-- `link` raises the rank of its first root by one if both ranks are equal, and no other rank. -/
theorem rankOf_link {a b : Nat} (ha : a < partition.rank.size) (hsmall : partition.rankOf a < 255)
    (node : Nat) :
    (partition.link a b).rankOf node = partition.rankOf node +
      if node = a ∧ partition.rankOf a = partition.rankOf b then 1 else 0 := by
  rcases partition.link_cases a b with ⟨hless, hlink⟩ | ⟨hgreater, hlink⟩ | ⟨hequal, hlink⟩ <;>
    rw [hlink]
  · rw [if_neg (fun h => hless.ne h.2)]
    rfl
  · rw [if_neg (fun h => hgreater.ne' h.2)]
    rfl
  · rw [rankOf, getD_raised ha]
    by_cases hnode : node = a
    · rw [if_pos hnode, if_pos ⟨hnode, hequal⟩, UInt8.toNat_add, hnode]
      exact Nat.mod_eq_of_lt (by unfold rankOf at hsmall; simpa using Nat.succ_lt_succ hsmall)
    · rw [if_neg hnode, if_neg (fun h => hnode h.1)]
      rfl

/-! ## Calls -/

/-- Two `find`s preserve every `root`. -/
theorem root_find_find (forest : Forest partition.parent) {a b node : Nat}
    (ha : a < partition.size) (hb : b < partition.size) (hn : node < partition.size) :
    ((partition.find a).2.find b).2.root node = partition.root node := by
  rw [root_find (forest_find forest ha) (by simpa using hb) (by simpa using hn),
    root_find forest ha hn]

theorem Ranked.union (h : Ranked partition) {a b : Nat} (ha : a < partition.size)
    (hb : b < partition.size) : Ranked (partition.union a b) := by
  have hfound : Ranked ((partition.find a).2.find b).2 := (h.find ha).find (by simpa using hb)
  rw [union_eq, root_find h.forest ha hb]
  dsimp only
  split_ifs with hsame
  · exact hfound
  · have hla := root_lt_size h.forest ha
    have hlb := root_lt_size h.forest hb
    exact hfound.link (by simpa using hla) (by simpa using hlb)
      (by rw [root_find_find h.forest ha hb hla, root_root h.forest ha])
      (by rw [root_find_find h.forest ha hb hlb, root_root h.forest hb]) hsame

/-- `union` raises the rank of the first root by one if it joins two sets of equal rank, and no
other rank. -/
theorem rankOf_union (h : Ranked partition) {a b : Nat} (ha : a < partition.size)
    (hb : b < partition.size) (hsmall : partition.rankOf (partition.root a) < 255) (node : Nat) :
    (partition.union a b).rankOf node = partition.rankOf node +
      if node = partition.root a ∧ partition.root a ≠ partition.root b ∧
        partition.rankOf (partition.root a) = partition.rankOf (partition.root b)
      then 1 else 0 := by
  -- lookups touch no rank
  have hfound : ∀ node, ((partition.find a).2.find b).2.rankOf node = partition.rankOf node :=
    fun _ => rfl
  have hroot : partition.root a < ((partition.find a).2.find b).2.rank.size :=
    (root_lt_size h.forest ha).trans_eq h.size_rank.symm
  rw [union_eq, root_find h.forest ha hb]
  dsimp only
  by_cases hsame : partition.root a = partition.root b
  · rw [if_pos hsame, if_neg (fun hraised => hraised.2.1 hsame), hfound]
    rfl
  · rw [if_neg hsame, rankOf_link hroot (by rwa [hfound]), hfound, hfound, hfound]
    simp [hsame]

theorem Ranked.perform {n : Nat} (h : Ranked partition) (hsize : partition.size = n)
    (call : Call n) : Ranked (partition.perform call) := by
  subst hsize
  cases call with
  | find node => exact h.find node.isLt
  | union a b => exact h.union a.isLt b.isLt
  | count => exact h.findAll fun node hn => List.mem_range.mp hn

/-- `Ranked` holds after any calls. -/
theorem ranked_after {n : Nat} (calls : List (Call n)) : Ranked (after calls) := by
  induction calls using List.reverseRecOn with
  | nil => exact ranked_singletons n
  | append_singleton calls call ih =>
    rw [after, List.foldl_append]
    exact ih.perform (represents_after calls).size_eq call

/-- **Ranks stay small.**  After any lookups, unions and counts, a root of rank `r` has at least
`2 ^ r` numbers in its set, so no rank exceeds the binary logarithm of `n`.  With fewer than
`2 ^ 64` numbers every rank is below 64, and a union that raises a rank adds exactly one to it: the
byte does not wrap round. -/
theorem ranks_bounded {n : Nat} (calls : List (Call n)) :
    (after calls).rank.size = n ∧
    (∀ root : Fin n, parentOf (after calls).parent root = root →
      2 ^ (after calls).rankOf root
        ≤ ((Finset.range n).filter fun node => ((after calls).find node).1 = root).card) ∧
    (∀ node : Fin n, (after calls).rankOf node ≤ Nat.log 2 n) ∧
    (n < 2 ^ 64 →
      (∀ node : Fin n, (after calls).rankOf node < 64) ∧
      ∀ a b node : Fin n,
        ((after calls).union a b).rankOf node = (after calls).rankOf node +
          if node = (after calls).root a ∧ (after calls).root a ≠ (after calls).root b ∧
            (after calls).rankOf ((after calls).root a)
              = (after calls).rankOf ((after calls).root b)
          then 1 else 0) := by
  have hranked := ranked_after calls
  have hsize : (after calls).size = n := (represents_after calls).size_eq
  have hlt : ∀ node : Fin n, (node : Nat) < (after calls).size := fun node => by
    rw [hsize]
    exact node.isLt
  have hpow : ∀ node : Nat, node < (after calls).size → 2 ^ (after calls).rankOf node ≤ n :=
    fun node hn => (hranked.pow_le_size node hn).trans_eq hsize
  refine ⟨hranked.size_rank.trans hsize, fun root isRoot => ?_, fun node => ?_, fun hn => ?_⟩
  · have hself := LeadsTo.root_eq hranked.forest (hlt root) (.root isRoot)
    have hcard := hranked.pow_le_card root (hlt root) hself
    rwa [members, hsize] at hcard
  · exact Nat.le_log_of_pow_le Nat.one_lt_two (hpow node (hlt node))
  · have hsmall : ∀ node < (after calls).size, (after calls).rankOf node < 64 := fun node hnode =>
      (Nat.pow_lt_pow_iff_right Nat.one_lt_two).mp ((hpow node hnode).trans_lt hn)
    refine ⟨fun node => hsmall node (hlt node), fun a b node => ?_⟩
    have hroot := hsmall _ (root_lt_size hranked.forest (hlt a))
    exact rankOf_union hranked (hlt a) (hlt b) (by omega) node

/-- Four numbers joined pair by pair: the root has rank 2. -/
theorem ranks_bounded_four :
    (after [Call.union (0 : Fin 4) 1, .union 2 3, .union 0 2]).rankOf 0 = 2 ∧
      2 ^ 2 ≤ ((Finset.range 4).filter fun node =>
        ((after [Call.union (0 : Fin 4) 1, .union 2 3, .union 0 2]).find node).1 = 0).card := by
  have hrank : (after [Call.union (0 : Fin 4) 1, .union 2 3, .union 0 2]).rankOf 0 = 2 := by decide
  have hroot := (ranks_bounded [Call.union (0 : Fin 4) 1, .union 2 3, .union 0 2]).2.1 0 (by decide)
  refine ⟨hrank, ?_⟩
  rw [← hrank]
  exact hroot

end ClassAudit.Partition
