import ClassAudit.Partition
import ClassAudit.Proofs.Ordered
import Mathlib.Data.Fintype.EquivFin
import Mathlib.Logic.Function.Iterate
import Mathlib.Logic.Relation
import Mathlib.SetTheory.Cardinal.Finite

/-!
# What a partition stands for

The pointers of a partition form a forest: from every number they lead to exactly one root.  Looking
a root up moves pointers but no root, and joining two sets changes the roots of these two sets only.
So the numbers with one root are always the classes of the equivalence that the joined pairs
generate, whatever the ranks were.

## Shape of the proof

`LeadsTo` is the path from a number to its root.  The two ways in which an array of pointers is
changed are looked at once each: pointing a number on a path straight to the root (`shortcut`) and
pointing one root to another (`attach`).  Since a path never meets a number twice, the bound on the
number of steps in `root` is never what ends it (`exists_iterate_lt`), and from there on
only `root` is mentioned.  `Represents` says which relation a partition stands for.
-/

namespace ClassAudit.Partition

/-- Following `parentOf` from the first number ends at the second, which is a root. -/
inductive LeadsTo (parent : Array Nat) : Nat → Nat → Prop
  /-- A fixed point of `parentOf`. -/
  | root {node : Nat} (isRoot : parentOf parent node = node) : LeadsTo parent node node
  | step {node root : Nat} (moves : parentOf parent node ≠ node)
      (path : LeadsTo parent (parentOf parent node) root) : LeadsTo parent node root

/-- `parentOf` maps the numbers below the size to themselves, and every path ends. -/
structure Forest (parent : Array Nat) : Prop where
  inside : ∀ node < parent.size, parentOf parent node < parent.size
  grounded : ∀ node < parent.size, ∃ root, LeadsTo parent node root

/-! ## Paths -/

namespace LeadsTo

variable {parent : Array Nat} {node other root : Nat}

/-- The end of a `LeadsTo` path is a fixed point of `parentOf`. -/
theorem isRoot (h : LeadsTo parent node root) : parentOf parent root = root := by
  induction h with
  | root isRoot => exact isRoot
  | step _ _ ih => exact ih

/-- From a root, `LeadsTo` leads only to itself. -/
theorem eq_of_isRoot (h : LeadsTo parent node root) (isRoot : parentOf parent node = node) :
    root = node := by
  cases h with
  | root _ => rfl
  | step moves _ => exact absurd isRoot moves

/-- `LeadsTo` determines the root. -/
theorem unique (h : LeadsTo parent node root) (h' : LeadsTo parent node other) : root = other := by
  induction h with
  | root isRoot => exact (h'.eq_of_isRoot isRoot).symm
  | step moves _ ih =>
    cases h' with
    | root isRoot => exact absurd isRoot moves
    | step _ path => exact ih path

/-- In a `Forest`, `LeadsTo` stays below the size. -/
theorem lt_size (forest : Forest parent) (h : LeadsTo parent node root)
    (hn : node < parent.size) : root < parent.size := by
  induction h with
  | root _ => exact hn
  | step _ _ ih => exact ih (forest.inside _ hn)

/-- A `LeadsTo` path is an iterate of `parentOf`. -/
theorem exists_iterate (h : LeadsTo parent node root) : ∃ k, (parentOf parent)^[k] node = root := by
  induction h with
  | root _ => exact ⟨0, rfl⟩
  | step _ _ ih =>
    obtain ⟨k, hk⟩ := ih
    exact ⟨k + 1, by rw [Function.iterate_succ_apply, hk]⟩

end LeadsTo

/-- In a `Forest`, iterates of `parentOf` stay below the size. -/
theorem iterate_lt_size {parent : Array Nat} (forest : Forest parent) {node : Nat}
    (hn : node < parent.size) (k : Nat) : (parentOf parent)^[k] node < parent.size := by
  induction k with
  | zero => exact hn
  | succ k ih =>
    rw [Function.iterate_succ_apply']
    exact forest.inside _ ih

/-- In a `Forest`, the root is reached in fewer than `size` steps, since a path that repeats a
number would not end. -/
theorem exists_iterate_lt {parent : Array Nat} (forest : Forest parent) {node root : Nat}
    (hn : node < parent.size) (h : LeadsTo parent node root) :
    ∃ k < parent.size, (parentOf parent)^[k] node = root := by
  classical
  let k := Nat.find h.exists_iterate
  have hk : (parentOf parent)^[k] node = root := Nat.find_spec h.exists_iterate
  refine ⟨k, ?_, hk⟩
  have hinj : Set.InjOn (fun i => (parentOf parent)^[i] node) (Finset.range (k + 1)) := by
    -- two equal elements at `i < j` would bring the root forward by `j - i` steps
    have hlt : ∀ i j, i < j → j ≤ k →
        (parentOf parent)^[i] node ≠ (parentOf parent)^[j] node := by
      intro i j hij hjk heq
      have hearly : (parentOf parent)^[k - j + i] node = root := by
        rw [Function.iterate_add_apply, heq, ← Function.iterate_add_apply,
          Nat.sub_add_cancel hjk, hk]
      exact Nat.find_min h.exists_iterate (m := k - j + i) (by omega) hearly
    intro i hi j hj heq
    simp only [Finset.coe_range, Set.mem_Iio] at hi hj
    rcases Nat.lt_trichotomy i j with hij | hij | hij
    · exact absurd heq (hlt i j hij (by omega))
    · exact hij
    · exact absurd heq.symm (hlt j i hij (by omega))
  have hcard := Finset.card_le_card_of_injOn (t := Finset.range parent.size) _
    (fun i _ => Finset.mem_coe.mpr (Finset.mem_range.mpr (iterate_lt_size forest hn i))) hinj
  simp only [Finset.card_range] at hcard
  omega

/-- `rootWithin` finds the root when the bound covers the path. -/
theorem rootWithin_eq {parent : Array Nat} {root : Nat} (isRoot : parentOf parent root = root) :
    ∀ {bound k node : Nat}, k ≤ bound → (parentOf parent)^[k] node = root →
      rootWithin parent bound node = root
  | 0, k, node, hk, h => by
    obtain rfl : k = 0 := by omega
    exact h
  | bound + 1, k, node, hk, h => by
    rw [rootWithin]
    split
    · rename_i hself
      rw [Function.iterate_fixed hself] at h
      exact h
    · rename_i hmoves
      cases k with
      | zero =>
        obtain rfl : node = root := h
        exact absurd isRoot hmoves
      | succ k => exact rootWithin_eq isRoot (k := k) (by omega) h

/-! ## Changing one pointer -/

theorem parentOf_set (parent : Array Nat) (node value other : Nat) (hn : node < parent.size) :
    parentOf (parent.setIfInBounds node value) other
      = if other = node then value else parentOf parent other := by
  unfold parentOf
  by_cases h : other = node
  · subst h
    simp [hn]
  · rw [if_neg h]
    by_cases ho : other < parent.size
    · simp [Array.getElem?_setIfInBounds_ne (Ne.symm h)]
    · simp [Array.getD, ho]

/-- Pointing a node straight to its root preserves `LeadsTo`. -/
theorem LeadsTo.shortcut {parent : Array Nat} {node root : Nat} (hn : node < parent.size)
    (path : LeadsTo parent node root) (hne : node ≠ root) {other end_ : Nat}
    (h : LeadsTo parent other end_) :
    LeadsTo (parent.setIfInBounds node root) other end_ := by
  have hroot : ∀ {r}, parentOf parent r = r → parentOf (parent.setIfInBounds node root) r = r := by
    intro r hr
    have hrn : r ≠ node := by
      rintro rfl
      exact hne (path.eq_of_isRoot hr).symm
    rw [parentOf_set _ _ _ _ hn, if_neg hrn, hr]
  induction h with
  | root isRoot => exact .root (hroot isRoot)
  | @step other end_ moves rest ih =>
    by_cases ho : other = node
    · subst ho
      obtain rfl := path.unique (.step moves rest)
      have hto : parentOf (parent.setIfInBounds other root) other = root := by
        rw [parentOf_set _ _ _ _ hn, if_pos rfl]
      exact .step (by rw [hto]; exact hne.symm)
        (by rw [hto]; exact .root (hroot path.isRoot))
    · have hto : parentOf (parent.setIfInBounds node root) other = parentOf parent other := by
        rw [parentOf_set _ _ _ _ hn, if_neg ho]
      exact .step (by rw [hto]; exact moves) (by rw [hto]; exact ih)

/-- Pointing the root `a` to the root `b` redirects the paths that ended at `a` to `b`. -/
theorem LeadsTo.attach {parent : Array Nat} {a b : Nat} (ha : a < parent.size)
    (isRootA : parentOf parent a = a) (isRootB : parentOf parent b = b) (hne : a ≠ b)
    {other end_ : Nat}
    (h : LeadsTo parent other end_) :
    LeadsTo (parent.setIfInBounds a b) other (if end_ = a then b else end_) := by
  have hb : parentOf (parent.setIfInBounds a b) b = b := by
    rw [parentOf_set _ _ _ _ ha, if_neg hne.symm, isRootB]
  have htoa : parentOf (parent.setIfInBounds a b) a = b := by
    rw [parentOf_set _ _ _ _ ha, if_pos rfl]
  have hfroma : LeadsTo (parent.setIfInBounds a b) a b :=
    .step (by rw [htoa]; exact hne.symm) (by rw [htoa]; exact .root hb)
  induction h with
  | @root other hself =>
    by_cases ho : other = a
    · rw [if_pos ho, ho]
      exact hfroma
    · rw [if_neg ho]
      exact .root (by rw [parentOf_set _ _ _ _ ha, if_neg ho, hself])
  | @step other end_ moves rest ih =>
    have ho : other ≠ a := fun ho => moves (by rw [ho, isRootA])
    have hto : parentOf (parent.setIfInBounds a b) other = parentOf parent other := by
      rw [parentOf_set _ _ _ _ ha, if_neg ho]
    exact .step (by rw [hto]; exact moves) (by rw [hto]; exact ih)

/-! ## Roots -/

variable {partition : Partition}

/-- `root` is the root that the node `LeadsTo`. -/
theorem leadsTo_root (forest : Forest partition.parent) {node : Nat} (hn : node < partition.size) :
    LeadsTo partition.parent node (partition.root node) := by
  obtain ⟨root, path⟩ := forest.grounded node hn
  obtain ⟨k, hk, hroot⟩ := exists_iterate_lt forest hn path
  have : partition.root node = root := rootWithin_eq path.isRoot (Nat.le_of_lt hk) hroot
  rwa [this]

theorem LeadsTo.root_eq (forest : Forest partition.parent) {node root : Nat}
    (hn : node < partition.size) (path : LeadsTo partition.parent node root) :
    partition.root node = root :=
  (leadsTo_root forest hn).unique path

theorem root_lt_size (forest : Forest partition.parent) {node : Nat} (hn : node < partition.size) :
    partition.root node < partition.size :=
  (leadsTo_root forest hn).lt_size forest hn

/-- `root` is idempotent. -/
theorem root_root (forest : Forest partition.parent) {node : Nat} (hn : node < partition.size) :
    partition.root (partition.root node) = partition.root node :=
  LeadsTo.root_eq forest (root_lt_size forest hn) (.root (leadsTo_root forest hn).isRoot)

@[simp]
theorem size_singletons (n : Nat) : (singletons n).size = n := by
  simp [size, singletons]

theorem parentOf_singletons (n node : Nat) : parentOf (singletons n).parent node = node := by
  by_cases h : node < n <;> simp [parentOf, singletons, Array.getD, h]

theorem forest_singletons (n : Nat) : Forest (singletons n).parent where
  inside node hn := by rwa [parentOf_singletons]
  grounded node _ := ⟨node, .root (parentOf_singletons n node)⟩

theorem root_singletons {n node : Nat} (hn : node < n) : (singletons n).root node = node :=
  LeadsTo.root_eq (forest_singletons n) (by simpa using hn) (.root (parentOf_singletons n node))

/-! ## Looking a root up -/

theorem size_shorten (root : Nat) (bound : Nat) (parent : Array Nat) (node : Nat) :
    (shorten root bound parent node).size = parent.size := by
  induction bound generalizing parent node with
  | zero => rfl
  | succ bound ih =>
    rw [shorten]
    split
    · rfl
    · rw [ih, Array.size_setIfInBounds]

/-- `shorten` preserves `Forest` and `LeadsTo`, for any bound. -/
theorem shorten_spec {root : Nat} (bound : Nat) {parent : Array Nat} {node : Nat}
    (forest : Forest parent) (hn : node < parent.size) (path : LeadsTo parent node root) :
    Forest (shorten root bound parent node) ∧
      ∀ {other end_}, LeadsTo parent other end_ →
        LeadsTo (shorten root bound parent node) other end_ := by
  induction bound generalizing parent node with
  | zero => exact ⟨forest, id⟩
  | succ bound ih =>
    rw [shorten]
    split
    · exact ⟨forest, id⟩
    · rename_i hfar
      have hne : node ≠ root := by
        rintro rfl
        exact hfar path.isRoot
      have hnext : LeadsTo parent (parentOf parent node) root := by
        cases path with
        | root _ => exact absurd rfl hne
        | step _ rest => exact rest
      have hkeep : ∀ {other end_}, LeadsTo parent other end_ →
          LeadsTo (parent.setIfInBounds node root) other end_ := path.shortcut hn hne
      have hforest : Forest (parent.setIfInBounds node root) := by
        refine ⟨fun other ho => ?_, fun other ho => ?_⟩
        · rw [Array.size_setIfInBounds] at ho ⊢
          rw [parentOf_set _ _ _ _ hn]
          split
          · exact path.lt_size forest hn
          · exact forest.inside other ho
        · rw [Array.size_setIfInBounds] at ho
          obtain ⟨end_, h⟩ := forest.grounded other ho
          exact ⟨end_, hkeep h⟩
      have hstep := ih hforest (by rw [Array.size_setIfInBounds]; exact forest.inside node hn)
        (hkeep hnext)
      exact ⟨hstep.1, fun h => hstep.2 (hkeep h)⟩

@[simp]
theorem size_find (node : Nat) : (partition.find node).2.size = partition.size :=
  size_shorten _ _ _ _

@[simp]
theorem find_fst (node : Nat) : (partition.find node).1 = partition.root node := rfl

theorem forest_find (forest : Forest partition.parent) {node : Nat} (hn : node < partition.size) :
    Forest (partition.find node).2.parent :=
  (shorten_spec _ forest hn (leadsTo_root forest hn)).1

/-- `find` preserves every `root`. -/
theorem root_find (forest : Forest partition.parent) {node other : Nat}
    (hn : node < partition.size) (ho : other < partition.size) :
    (partition.find node).2.root other = partition.root other := by
  have hkeep := (shorten_spec partition.size forest hn (leadsTo_root forest hn)).2
    (leadsTo_root forest ho)
  exact LeadsTo.root_eq (forest_find forest hn) (by simpa using ho) hkeep

/-! ## Joining two sets -/

/-- Pointing the root `a` to the root `b` keeps the forest and makes `b` the root of both sets. -/
theorem attach_spec (rank : Array UInt8) {a b : Nat} (forest : Forest partition.parent)
    (ha : a < partition.size) (hb : b < partition.size) (isRootA : partition.root a = a)
    (isRootB : partition.root b = b) (hne : a ≠ b) :
    let joined : Partition := { parent := partition.parent.setIfInBounds a b, rank }
    Forest joined.parent ∧ ∀ node < partition.size,
      joined.root node = if partition.root node = a then b else partition.root node := by
  intro joined
  have hsize : joined.parent.size = partition.size := Array.size_setIfInBounds
  have hpa : parentOf partition.parent a = a := by
    have := (leadsTo_root forest ha).isRoot
    rwa [isRootA] at this
  have hpb : parentOf partition.parent b = b := by
    have := (leadsTo_root forest hb).isRoot
    rwa [isRootB] at this
  have hpath : ∀ node < partition.size, LeadsTo joined.parent node
      (if partition.root node = a then b else partition.root node) := fun node hn =>
    (leadsTo_root forest hn).attach ha hpa hpb hne
  have hforest : Forest joined.parent := by
    refine ⟨fun node hn => ?_, fun node hn => ⟨_, hpath node (hsize ▸ hn)⟩⟩
    rw [hsize] at hn ⊢
    rw [parentOf_set _ _ _ _ ha]
    split
    · exact hb
    · exact forest.inside node hn
  exact ⟨hforest, fun node hn => LeadsTo.root_eq hforest (by rw [size, hsize]; exact hn)
    (hpath node hn)⟩

@[simp]
theorem size_link (a b : Nat) : (partition.link a b).size = partition.size := by
  unfold link
  dsimp only
  split_ifs <;> simp [size]

/-- `link` of two roots preserves `Forest` and makes one of them the root of both sets. -/
theorem link_spec {a b : Nat} (forest : Forest partition.parent) (ha : a < partition.size)
    (hb : b < partition.size) (isRootA : partition.root a = a) (isRootB : partition.root b = b)
    (hne : a ≠ b) :
    Forest (partition.link a b).parent ∧ ∃ top, (top = a ∨ top = b) ∧ ∀ node < partition.size,
      (partition.link a b).root node =
        if partition.root node = a ∨ partition.root node = b then top
        else partition.root node := by
  unfold link
  dsimp only
  split_ifs
  · obtain ⟨hforest, hroot⟩ := attach_spec partition.rank forest ha hb isRootA isRootB hne
    refine ⟨hforest, b, Or.inr rfl, fun node hn => ?_⟩
    rw [hroot node hn]
    grind
  all_goals
    obtain ⟨hforest, hroot⟩ := attach_spec _ forest hb ha isRootB isRootA hne.symm
    refine ⟨hforest, a, Or.inl rfl, fun node hn => ?_⟩
    rw [hroot node hn]
    grind

theorem union_eq (a b : Nat) :
    partition.union a b =
      let found := ((partition.find a).2.find b).2
      let rootB := (partition.find a).2.root b
      if partition.root a = rootB then found else found.link (partition.root a) rootB := rfl

@[simp]
theorem size_union (a b : Nat) : (partition.union a b).size = partition.size := by
  rw [union_eq]
  dsimp only
  split_ifs <;> simp

/-- `union` preserves `Forest` and gives both sets one of their two roots. -/
theorem union_spec {a b : Nat} (forest : Forest partition.parent) (ha : a < partition.size)
    (hb : b < partition.size) :
    Forest (partition.union a b).parent ∧
      ∃ top, (top = partition.root a ∨ top = partition.root b) ∧ ∀ node < partition.size,
        (partition.union a b).root node =
          if partition.root node = partition.root a ∨ partition.root node = partition.root b
          then top else partition.root node := by
  have hb' : b < (partition.find a).2.size := by simpa using hb
  have hforest : Forest ((partition.find a).2.find b).2.parent :=
    forest_find (forest_find forest ha) hb'
  have hroot : ∀ node < partition.size,
      ((partition.find a).2.find b).2.root node = partition.root node := by
    intro node hn
    rw [root_find (forest_find forest ha) hb' (by simpa using hn), root_find forest ha hn]
  rw [union_eq, root_find forest ha hb]
  dsimp only
  split_ifs with hsame
  · refine ⟨hforest, partition.root a, Or.inl rfl, fun node hn => ?_⟩
    rw [hroot node hn]
    grind
  · have hla := root_lt_size forest ha
    have hlb := root_lt_size forest hb
    obtain ⟨hlinked, top, htop, hnodes⟩ := link_spec hforest (by simpa using hla)
      (by simpa using hlb) (by rw [hroot _ hla, root_root forest ha])
      (by rw [hroot _ hlb, root_root forest hb]) hsame
    refine ⟨hlinked, top, htop, fun node hn => ?_⟩
    rw [hnodes node (by simpa using hn), hroot node hn]

/-- The equality of roots after `union`, in terms of the roots before. -/
theorem root_union_eq_iff {a b x y : Nat} (forest : Forest partition.parent)
    (ha : a < partition.size) (hb : b < partition.size) (hx : x < partition.size)
    (hy : y < partition.size) :
    (partition.union a b).root x = (partition.union a b).root y ↔
      partition.root x = partition.root y ∨
      (partition.root x = partition.root a ∧ partition.root y = partition.root b) ∨
      (partition.root x = partition.root b ∧ partition.root y = partition.root a) := by
  obtain ⟨-, top, htop, hnodes⟩ := union_spec forest ha hb
  rw [hnodes x hx, hnodes y hy]
  grind

/-! ## Counting -/

/-- `findAll` returns the roots of `nodes` and preserves every `root`. -/
theorem findAll_spec (nodes : List Nat) (forest : Forest partition.parent)
    (hnodes : ∀ node ∈ nodes, node < partition.size) :
    (partition.findAll nodes).1 = nodes.map partition.root ∧
      (partition.findAll nodes).2.size = partition.size ∧
      Forest (partition.findAll nodes).2.parent ∧
      ∀ other < partition.size,
        (partition.findAll nodes).2.root other = partition.root other := by
  induction nodes generalizing partition with
  | nil => exact ⟨rfl, rfl, forest, fun _ _ => rfl⟩
  | cons node rest ih =>
    have hn : node < partition.size := hnodes node (List.mem_cons_self)
    have hrest : ∀ other ∈ rest, other < (partition.find node).2.size := by
      intro other ho
      rw [size_find]
      exact hnodes other (List.mem_cons_of_mem _ ho)
    obtain ⟨hroots, hsize, hforest, hkeep⟩ := ih (forest_find forest hn) hrest
    simp only [findAll]
    refine ⟨?_, by rw [hsize, size_find], hforest, fun other ho => ?_⟩
    · rw [List.map_cons, find_fst, hroots]
      congr 1
      apply List.map_congr_left
      intro other ho
      exact root_find forest hn (hnodes other (List.mem_cons_of_mem _ ho))
    · rw [hkeep other (by simpa using ho), root_find forest hn ho]

/-- `count` is the number of distinct roots. -/
theorem count_eq_card (forest : Forest partition.parent) :
    partition.count.1 = ((Finset.range partition.size).image partition.root).card := by
  obtain ⟨hroots, -⟩ := findAll_spec (List.range partition.size) forest
    (fun node hn => List.mem_range.mp hn)
  have hcount : partition.count.1
      = (Text.distinct (partition.findAll (List.range partition.size)).1).length := rfl
  have himage : ((List.range partition.size).map partition.root).toFinset
      = (Finset.range partition.size).image partition.root := by
    ext root
    simp
  rw [hcount, hroots, Text.length_distinct, himage]

/-- `union` of two different roots removes one of them. -/
theorem image_root_union {a b : Nat} (forest : Forest partition.parent) (ha : a < partition.size)
    (hb : b < partition.size) (hne : partition.root a ≠ partition.root b) :
    ∃ lost ∈ (Finset.range partition.size).image partition.root,
      (Finset.range (partition.union a b).size).image (partition.union a b).root
        = ((Finset.range partition.size).image partition.root).erase lost := by
  obtain ⟨-, top, htop, hnodes⟩ := union_spec forest ha hb
  have hroot : ∀ root, root ∈ (Finset.range partition.size).image partition.root ↔
      ∃ node < partition.size, partition.root node = root := by
    intro root
    simp
  -- the two roots are among their own sets, so the one that stays is still found from itself
  have hra := root_root forest ha
  have hrb := root_root forest hb
  have hla := root_lt_size forest ha
  have hlb := root_lt_size forest hb
  obtain ⟨lost, hlost, hother⟩ : ∃ lost, (lost = partition.root a ∨ lost = partition.root b) ∧
      lost ≠ top := by
    rcases htop with rfl | rfl
    · exact ⟨_, Or.inr rfl, hne.symm⟩
    · exact ⟨_, Or.inl rfl, hne⟩
  refine ⟨lost, ?_, ?_⟩
  · rw [hroot]
    grind
  · ext root
    rw [Finset.mem_erase, hroot, size_union]
    simp only [Finset.mem_image, Finset.mem_range]
    constructor
    · rintro ⟨node, hn, rfl⟩
      rw [hnodes node hn]
      grind
    · rintro ⟨hkept, node, hn, rfl⟩
      refine ⟨partition.root node, root_lt_size forest hn, ?_⟩
      rw [hnodes _ (root_lt_size forest hn), root_root forest hn]
      grind

/-- `union` lowers `count` by one if it joins two sets, and leaves it otherwise. -/
theorem count_union {a b : Nat} (forest : Forest partition.parent) (ha : a < partition.size)
    (hb : b < partition.size) :
    (partition.union a b).count.1 + (if partition.root a = partition.root b then 0 else 1)
      = partition.count.1 := by
  obtain ⟨hforest, top, htop, hnodes⟩ := union_spec forest ha hb
  rw [count_eq_card hforest, count_eq_card forest]
  split_ifs with hsame
  · rw [Nat.add_zero, size_union]
    congr 1
    apply Finset.image_congr
    intro node hn
    rw [hnodes node (by simpa using hn)]
    grind
  · obtain ⟨lost, hlost, herase⟩ := image_root_union forest ha hb hsame
    rw [herase, Finset.card_erase_add_one hlost]

/-! ## The relation that a partition stands for -/

/-- The partition of `n` numbers whose sets are the classes of the equivalence that a relation
generates. -/
structure Represents {n : Nat} (partition : Partition) (related : Fin n → Fin n → Prop) :
    Prop where
  size_eq : partition.size = n
  forest : Forest partition.parent
  root_eq_iff : ∀ x y : Fin n,
    partition.root x = partition.root y ↔ Relation.EqvGen related x y

namespace Represents

variable {n : Nat} {related : Fin n → Fin n → Prop}

/-- `Represents` for `Partition.singletons` and the empty relation. -/
theorem singletons (n : Nat) :
    Represents (Partition.singletons n) (fun _ _ : Fin n => False) where
  size_eq := size_singletons n
  forest := forest_singletons n
  root_eq_iff x y := by
    rw [root_singletons x.isLt, root_singletons y.isLt]
    constructor
    · intro h
      rw [Fin.ext h]
      exact .refl y
    · intro h
      induction h with
      | rel _ _ h => exact h.elim
      | refl _ => rfl
      | symm _ _ _ ih => exact ih.symm
      | trans _ _ _ _ _ ih ih' => exact ih.trans ih'

/-- `Represents` depends only on the equivalence that the relation generates. -/
theorem congr {related' : Fin n → Fin n → Prop} (h : Represents partition related)
    (hle : ∀ x y, related x y → Relation.EqvGen related' x y)
    (hge : ∀ x y, related' x y → Relation.EqvGen related x y) :
    Represents partition related' where
  size_eq := h.size_eq
  forest := h.forest
  root_eq_iff x y := by
    rw [h.root_eq_iff x y]
    constructor
    · intro hxy
      exact (Relation.EqvGen.is_equivalence related').eqvGen_iff.mp (hxy.mono hle)
    · intro hxy
      exact (Relation.EqvGen.is_equivalence related).eqvGen_iff.mp (hxy.mono hge)

/-- `find` preserves `Represents`. -/
theorem find (h : Represents partition related) (node : Fin n) :
    Represents (partition.find node).2 related where
  size_eq := (size_find _).trans h.size_eq
  forest := forest_find h.forest (by rw [h.size_eq]; exact node.isLt)
  root_eq_iff x y := by
    have hlt : ∀ z : Fin n, (z : Nat) < partition.size := fun z => by
      rw [h.size_eq]; exact z.isLt
    rw [root_find h.forest (hlt node) (hlt x), root_find h.forest (hlt node) (hlt y),
      h.root_eq_iff]

/-- `union` adds its pair to the relation. -/
theorem union (h : Represents partition related) (a b : Fin n) :
    Represents (partition.union a b) (fun x y => related x y ∨ (x = a ∧ y = b)) where
  size_eq := (size_union _ _).trans h.size_eq
  forest :=
    (union_spec h.forest (by rw [h.size_eq]; exact a.isLt) (by rw [h.size_eq]; exact b.isLt)).1
  root_eq_iff x y := by
    have hlt : ∀ z : Fin n, (z : Nat) < partition.size := fun z => by
      rw [h.size_eq]; exact z.isLt
    rw [root_union_eq_iff h.forest (hlt a) (hlt b) (hlt x) (hlt y)]
    simp only [h.root_eq_iff]
    have hab : Relation.EqvGen (fun x y => related x y ∨ (x = a ∧ y = b)) a b :=
      .rel a b (Or.inr ⟨rfl, rfl⟩)
    have hmono : ∀ {x y}, Relation.EqvGen related x y →
        Relation.EqvGen (fun x y => related x y ∨ (x = a ∧ y = b)) x y :=
      fun hxy => hxy.mono fun _ _ => Or.inl
    constructor
    · rintro (hxy | ⟨hxa, hyb⟩ | ⟨hxb, hya⟩)
      · exact hmono hxy
      · exact ((hmono hxa).trans _ _ _ hab).trans _ _ _ (hmono hyb).symm
      · exact ((hmono hxb).trans _ _ _ hab.symm).trans _ _ _ (hmono hya).symm
    · intro hxy
      -- the right-hand side is an equivalence that holds of both kinds of pairs
      simp only [← h.root_eq_iff]
      induction hxy with
      | rel x y hxy =>
        rcases hxy with hxy | ⟨rfl, rfl⟩
        · exact Or.inl ((h.root_eq_iff x y).mpr (.rel x y hxy))
        · exact Or.inr (Or.inl ⟨rfl, rfl⟩)
      | refl _ => exact Or.inl rfl
      | symm _ _ _ ih => grind
      | trans _ _ _ _ _ ih ih' => grind

/-- `count` is the number of classes of the relation. -/
theorem count_eq (h : Represents partition related) :
    partition.count.1 = Nat.card (Quot related) := by
  have hlift : ∀ x y, related x y → partition.root x = partition.root y := fun x y hxy =>
    (h.root_eq_iff x y).mpr (.rel x y hxy)
  let rootOf : Quot related → Nat := Quot.lift (fun x : Fin n => partition.root x) hlift
  have hinj : Function.Injective rootOf := by
    rintro ⟨x⟩ ⟨y⟩ hxy
    exact Quot.eqvGen_sound ((h.root_eq_iff x y).mp hxy)
  have hrange : Set.range rootOf = (Finset.range partition.size).image partition.root := by
    ext root
    simp only [Set.mem_range, Finset.coe_image, Finset.coe_range, Set.mem_image, Set.mem_Iio]
    constructor
    · rintro ⟨⟨x⟩, rfl⟩
      exact ⟨x, by rw [h.size_eq]; exact x.isLt, rfl⟩
    · rintro ⟨x, hx, rfl⟩
      exact ⟨Quot.mk _ ⟨x, h.size_eq ▸ hx⟩, rfl⟩
  rw [count_eq_card h.forest, ← Nat.card_range_of_injective hinj, hrange,
    Nat.card_eq_card_toFinset, Finset.toFinset_coe]

end Represents

end ClassAudit.Partition
