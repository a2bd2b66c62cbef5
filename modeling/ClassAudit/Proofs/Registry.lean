import ClassAudit.Class.Registry
import ClassAudit.Proofs.Ordered
import Mathlib

/-!
# What a registry knows

A registry is made from a list of classes, and all that it keeps of the list is which class comes
first under each name: `resolve?_ofClasses` reads that off the list, and two lists that agree on it
make one and the same registry (`ofClasses_congr`).  So neither the order of differently named
classes nor a class behind another of its name can be seen in a registry.

## Shape of the proof

The classes of a registry are in strictly rising order of their names (`rising_ofClasses`), and a
list in strictly rising order is determined by its members (`eq_of_rising`).  What is known of a
registry is therefore stated on membership, for all known classes and for the implementers among
them alike.
-/

namespace ClassAudit

/-! ## Values under keys -/

namespace Text

variable {α β : Type} [DecidableEq β] {key : α → β}

/-- With distinct keys, `find?` by a key finds exactly the value with that key. -/
theorem find?_key_eq_some_iff {values : List α} (hkeys : (values.map key).Nodup) {b : β} {a : α} :
    values.find? (key · = b) = some a ↔ a ∈ values ∧ key a = b := by
  constructor
  · intro h
    exact ⟨List.mem_of_find?_eq_some h, by simpa using List.find?_some h⟩
  · rintro ⟨ha, rfl⟩
    cases hfind : values.find? (key · = key a) with
    | none => simpa using List.find?_eq_none.mp hfind a ha
    | some first =>
      have hkey : key first = key a := by simpa using List.find?_some hfind
      -- what comes first with the key of `a` can only be `a`
      rw [List.inj_on_of_nodup_map hkeys (List.mem_of_find?_eq_some hfind) ha hkey]

/-- With distinct keys, `find?` by a key is invariant under permutation. -/
theorem find?_key_perm {values others : List α} (hperm : values.Perm others)
    (hkeys : (values.map key).Nodup) (b : β) :
    values.find? (key · = b) = others.find? (key · = b) := by
  apply Option.ext
  intro a
  rw [find?_key_eq_some_iff hkeys, find?_key_eq_some_iff ((hperm.map key).nodup hkeys),
    hperm.mem_iff]

/-- `distinctBy` preserves `find?` by the key. -/
theorem find?_distinctBy (key : α → β) (values : List α) (b : β) :
    (distinctBy key values).find? (key · = b) = values.find? (key · = b) := by
  induction values with
  | nil => rfl
  | cons a rest ih =>
    by_cases hb : key a = b
    · simp [distinctBy, hb]
    · simp only [distinctBy, List.find?_cons, hb, decide_false, List.find?_filter]
      rw [← ih]
      congr 1
      funext x
      -- a value with the key `b` has not the key of `a`
      by_cases hx : key x = b
      · simpa [hx] using Ne.symm hb
      · simp [hx]

theorem mem_distinctBy {values : List α} {a : α} :
    a ∈ distinctBy key values ↔ values.find? (key · = key a) = some a := by
  rw [← find?_distinctBy, find?_key_eq_some_iff (nodup_map_distinctBy key values)]
  simp

end Text

namespace Registry

variable {classes others : List Class} {c : Class}

/-! ## Lists of classes in the order of their names -/

/-- The names are strictly increasing. -/
def Rising (classes : List Class) : Prop :=
  classes.Pairwise fun a b => a.name ≤ b.name ∧ a.name ≠ b.name

theorem Rising.filter (h : Rising classes) (p : Class → Bool) : Rising (classes.filter p) :=
  List.Pairwise.filter p h

theorem Rising.nodup_names (h : Rising classes) : (classes.map Class.name).Nodup := by
  rw [List.Nodup, List.pairwise_map]
  exact h.imp And.right

/-- `Rising` lists with the same elements are equal. -/
theorem eq_of_rising (h : Rising classes) (h' : Rising others)
    (hmem : ∀ c, c ∈ classes ↔ c ∈ others) : classes = others := by
  have hperm : classes.Perm others :=
    (List.perm_ext_iff_of_nodup (.of_map _ h.nodup_names) (.of_map _ h'.nodup_names)).mpr hmem
  refine hperm.eq_of_pairwise ?_ h h'
  rintro a b - - ⟨hab, hne⟩ ⟨hba, -⟩
  exact absurd (String.le_antisymm hab hba) hne

/-! ## The known classes -/

theorem rising_ofClasses (classes : List Class) : Rising (ofClasses classes).classes := by
  have hsorted := Text.pairwise_mergeSort_key Class.name (Text.distinctBy Class.name classes)
  have hnames : ((ofClasses classes).classes.map Class.name).Nodup :=
    (((List.mergeSort_perm _ _).map Class.name).nodup_iff).mpr
      (Text.nodup_map_distinctBy Class.name classes)
  rw [List.Nodup, List.pairwise_map] at hnames
  exact hsorted.and hnames

/-- A class is in `ofClasses` iff it is the first of its name. -/
theorem mem_ofClasses :
    c ∈ (ofClasses classes).classes ↔ classes.find? (·.name = c.name) = some c := by
  rw [ofClasses, List.mem_mergeSort, Text.mem_distinctBy]

/-- `resolve?` returns the class in the registry whose name is the internal name. -/
theorem resolve?_eq_some_iff {name : String} :
    (ofClasses classes).resolve? name = some c ↔
      c ∈ (ofClasses classes).classes ∧ c.name = TypeName.internal name :=
  Text.find?_key_eq_some_iff (rising_ofClasses classes).nodup_names

/-- `resolve?` is `find?` by the internal name in the list of classes. -/
theorem resolve?_ofClasses (classes : List Class) (name : String) :
    (ofClasses classes).resolve? name
      = classes.find? (·.name = TypeName.internal name) := by
  apply Option.ext
  intro c
  rw [resolve?_eq_some_iff, mem_ofClasses]
  constructor
  · rintro ⟨hfind, hname⟩
    rwa [← hname]
  · intro hfind
    have hname : c.name = TypeName.internal name := by simpa using List.find?_some hfind
    exact ⟨by rwa [hname], hname⟩

/-- `ofClasses` depends only on the first class of each name. -/
theorem ofClasses_congr
    (hfirst : ∀ name, classes.find? (·.name = name) = others.find? (·.name = name)) :
    ofClasses classes = ofClasses others := by
  have hclasses : (ofClasses classes).classes = (ofClasses others).classes := by
    apply eq_of_rising (rising_ofClasses classes) (rising_ofClasses others)
    intro c
    rw [mem_ofClasses, mem_ofClasses, hfirst]
  exact congrArg Registry.mk hclasses

/-- `ofClasses` is invariant under permutation of classes with distinct names. -/
theorem ofClasses_perm (hperm : classes.Perm others) (hnames : (classes.map Class.name).Nodup) :
    ofClasses classes = ofClasses others :=
  ofClasses_congr (Text.find?_key_perm hperm hnames)

/-- `ofClasses` ignores a class behind another of its name. -/
theorem ofClasses_shadowed {before after : List Class} {shadowed : Class}
    (hname : shadowed.name ∈ before.map Class.name) :
    ofClasses (before ++ shadowed :: after) = ofClasses (before ++ after) := by
  apply ofClasses_congr
  intro name
  rw [List.find?_append, List.find?_append]
  by_cases hshadowed : shadowed.name = name
  · -- the search ends before it comes to the shadowed class
    obtain ⟨first, hfirst, hfirstName⟩ := List.mem_map.mp hname
    have hsome : (before.find? (·.name = name)).isSome := by
      rw [List.find?_isSome]
      exact ⟨first, hfirst, by simp [hfirstName, hshadowed]⟩
    rw [Option.or_of_isSome hsome, Option.or_of_isSome hsome]
  · rw [List.find?_cons_of_neg (by simpa using hshadowed)]

/-! ## One class more -/

/-- Appending a class changes `resolve?` for its own name only. -/
theorem resolve?_concat {added : Class} {name : String}
    (hname : added.name ≠ TypeName.internal name) :
    (ofClasses (classes ++ [added])).resolve? name = (ofClasses classes).resolve? name := by
  rw [resolve?_ofClasses, resolve?_ofClasses, List.find?_append,
    List.find?_cons_of_neg (by simpa using hname)]
  simp

/-- Appending a class changes the membership of no other class. -/
theorem mem_ofClasses_concat {added : Class} (hne : c ≠ added) :
    c ∈ (ofClasses (classes ++ [added])).classes ↔ c ∈ (ofClasses classes).classes := by
  rw [mem_ofClasses, mem_ofClasses, List.find?_append, Option.or_eq_some_iff]
  constructor
  · rintro (hfind | ⟨-, hfind⟩)
    · exact hfind
    · exact absurd (List.mem_singleton.mp (List.mem_of_find?_eq_some hfind)) hne
  · exact Or.inl

/-- Appending a class that does not implement the interface leaves `implementers` unchanged. -/
theorem implementers_concat {added : Class} {interfaceName : String}
    (hnot : added.isInterface = true ∨
      added.implements (TypeName.internal interfaceName) = false) :
    (ofClasses (classes ++ [added])).implementers interfaceName
      = (ofClasses classes).implementers interfaceName := by
  apply eq_of_rising ((rising_ofClasses _).filter _) ((rising_ofClasses _).filter _)
  intro c
  rw [List.mem_filter, List.mem_filter]
  by_cases hadded : c = added
  · subst hadded
    rcases hnot with hinterface | himplements
    · simp [hinterface]
    · simp [himplements]
  · rw [mem_ofClasses_concat hadded]

end Registry

end ClassAudit
