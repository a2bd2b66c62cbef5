import ClassAudit.Check.Responsibility
import ClassAudit.Code.Opcode
import ClassAudit.Proofs.Partition
import Mathlib

/-!
# Cohesion counts connected components

Two methods of a class are adjacent when they use a common instance field of it.  The number of
groups that `CohesionGraph.ofClass?` reports is the number of connected components of that graph,
although no edge of it is ever built: a method is only joined with the *first* user of each of its
fields.

## Shape of the proof

`Joined` is the invariant of the walk over the methods: which uses were seen so far, that the first
user of a field is one that was seen, and that the groups stand for sharing a field among the uses
seen.  A use of a field that has a first user brings edges to every earlier user of the field; the
edge to the first one generates them all.
-/

namespace ClassAudit.CohesionGraph

/-! ## The graph of shared fields -/

/-- The method is neither abstract nor synthetic, and no initializer. -/
def TakesPart (method : Method) : Prop :=
  method.access.isAbstract = false ∧ method.access.isSynthetic = false ∧
    method.name ≠ "<init>" ∧ method.name ≠ "<clinit>"

instance : DecidablePred TakesPart := fun _ => inferInstanceAs (Decidable (_ ∧ _ ∧ _ ∧ _))

/-- The methods of `c` that satisfy `TakesPart`, in order. -/
def nodes (c : Class) : List Method :=
  c.methods.filter (TakesPart ·)

/-- `c` has an instance field `name` that is not synthetic. -/
def Declares (c : Class) (name : String) : Prop :=
  ∃ field ∈ c.fields,
    field.access.isStatic = false ∧ field.access.isSynthetic = false ∧ field.name = name

/-- `c` `Declares` the field `name`, and an instruction of `method` reads or writes it. -/
def Uses (c : Class) (method : Method) (name : String) : Prop :=
  Declares c name ∧ ∃ instruction ∈ method.instructions, ∃ field : FieldRef,
    (instruction.operation = .readField field ∨ instruction.operation = .writeField field) ∧
      field.isStatic = false ∧ field.owner = c.name ∧ field.name = name

/-- The methods at `i` and `j` both `Uses` some field. -/
def Shares (c : Class) (i j : Fin (nodes c).length) : Prop :=
  ∃ name, Uses c (nodes c)[i] name ∧ Uses c (nodes c)[j] name

/-- The graph on `nodes c` with an edge between any two different methods that `Shares` relates. -/
def sharing (c : Class) : SimpleGraph (Fin (nodes c).length) where
  Adj i j := i ≠ j ∧ Shares c i j
  symm := ⟨fun _ _ ⟨hne, name, hi, hj⟩ => ⟨hne.symm, name, hj, hi⟩⟩
  loopless := ⟨fun _ h => h.1 rfl⟩

/-! ## The walk over the methods -/

namespace Joining

variable {n : Nat} {seen : Fin n → String → Prop} {state : Joining}

/-- `x` and `y` have a field in common in `seen`. -/
def SharedIn (seen : Fin n → String → Prop) (x y : Fin n) : Prop :=
  ∃ field, seen x field ∧ seen y field

/-- The invariant of `Joining`: `firstUser` maps exactly the fields in `seen`, each to one of its
users, and `groups` represents `SharedIn seen`. -/
structure Joined (seen : Fin n → String → Prop) (state : Joining) : Prop where
  first_seen : ∀ field user, state.firstUser.lookup field = some user →
    ∃ h : user < n, seen ⟨user, h⟩ field
  unseen : ∀ field, state.firstUser.lookup field = none → ∀ user, ¬ seen user field
  groups : state.groups.Represents (SharedIn seen)

theorem Joined.congr {seen' : Fin n → String → Prop} (h : Joined seen state)
    (hiff : ∀ user field, seen user field ↔ seen' user field) : Joined seen' state := by
  have heq : seen = seen' := by
    funext user field
    exact propext (hiff user field)
  rwa [← heq]

/-- The initial state is `Joined` with nothing seen. -/
theorem joined_start (n : Nat) :
    Joined (fun (_ : Fin n) _ => False)
      { firstUser := [], groups := Partition.singletons n } where
  first_seen _ _ h := by simp at h
  unseen _ _ _ := id
  groups := (Partition.Represents.singletons n).congr (fun _ _ h => h.elim)
    (fun _ _ ⟨_, h, _⟩ => h.elim)

/-- The step: `touch` adds one use to `seen`.  The new pairs of `SharedIn` are generated by the one
edge to the first user of the field. -/
theorem Joined.touch (h : Joined seen state) (method : Fin n) (field : String) :
    Joined (fun user name => seen user name ∨ (user = method ∧ name = field))
      (state.touch method field) := by
  unfold Joining.touch
  cases hfirst : state.firstUser.lookup field with
  | some other =>
    obtain ⟨hlt, hother⟩ := h.first_seen field other hfirst
    refine ⟨?_, ?_, ?_⟩
    · intro name user hname
      obtain ⟨hu, hseen⟩ := h.first_seen name user hname
      exact ⟨hu, Or.inl hseen⟩
    · rintro name hname user (hseen | ⟨-, rfl⟩)
      · exact h.unseen name hname user hseen
      · simp [hfirst] at hname
    · refine (h.groups.union method ⟨other, hlt⟩).congr ?_ ?_
      · rintro x y (⟨name, hx, hy⟩ | ⟨rfl, rfl⟩)
        · exact .rel x y ⟨name, Or.inl hx, Or.inl hy⟩
        · exact .rel _ _ ⟨field, Or.inr ⟨rfl, rfl⟩, Or.inl hother⟩
      · -- a user of `field` is related to `method` by way of its first user
        have hvia : ∀ z, seen z field → Relation.EqvGen
            (fun x y => SharedIn seen x y ∨ (x = method ∧ y = ⟨other, hlt⟩)) method z := by
          intro z hz
          refine .trans _ ⟨other, hlt⟩ _ (.rel _ _ (Or.inr ⟨rfl, rfl⟩)) ?_
          exact .rel _ _ (Or.inl ⟨field, hother, hz⟩)
        rintro x y ⟨name, hx | ⟨rfl, rfl⟩, hy | ⟨rfl, hname⟩⟩
        · exact .rel x y (Or.inl ⟨name, hx, hy⟩)
        · subst hname
          exact (hvia x hx).symm
        · exact hvia y hy
        · exact .refl _
  | none =>
    refine ⟨?_, ?_, ?_⟩
    · intro name user hname
      by_cases hnf : name = field
      · subst hnf
        obtain rfl : (method : Nat) = user := by simpa using hname
        exact ⟨method.isLt, Or.inr ⟨rfl, rfl⟩⟩
      · rw [List.lookup_cons, beq_eq_false_iff_ne.mpr hnf] at hname
        obtain ⟨hu, hseen⟩ := h.first_seen name user hname
        exact ⟨hu, Or.inl hseen⟩
    · intro name hname user
      have hnf : name ≠ field := by
        rintro rfl
        simp at hname
      rw [List.lookup_cons, beq_eq_false_iff_ne.mpr hnf] at hname
      rintro (hseen | ⟨-, rfl⟩)
      · exact h.unseen name hname user hseen
      · exact hnf rfl
    · refine h.groups.congr ?_ ?_
      · rintro x y ⟨name, hx, hy⟩
        exact .rel x y ⟨name, Or.inl hx, Or.inl hy⟩
      · -- nobody used `field` before, so the new use has no partner but itself
        rintro x y ⟨name, hx | ⟨rfl, rfl⟩, hy | ⟨rfl, hname⟩⟩
        · exact .rel x y ⟨name, hx, hy⟩
        · subst hname
          exact absurd hx (h.unseen name hfirst x)
        · exact absurd hy (h.unseen name hfirst y)
        · exact .refl _

/-- The run over the fields of one method. -/
theorem Joined.touchAll (h : Joined seen state) (method : Fin n) (fields : List String) :
    Joined (fun user name => seen user name ∨ (user = method ∧ name ∈ fields))
      (fields.foldl (Joining.touch · method) state) := by
  induction fields generalizing seen state with
  | nil => exact h.congr (by simp)
  | cons field rest ih =>
    refine (ih (h.touch method field)).congr fun user name => ?_
    simp only [List.mem_cons]
    tauto

/-- The run over the methods from `position` on. -/
theorem Joined.run (h : Joined seen state) {position : Nat} {rest : List (List String)}
    (hlen : position + rest.length = n) :
    Joined (fun user name => seen user name ∨
        ∃ k fields, (user : Nat) = position + k ∧ rest[k]? = some fields ∧ name ∈ fields)
      (state.run position rest) := by
  induction rest generalizing seen state position with
  | nil => exact h.congr (by simp)
  | cons fields rest ih =>
    simp only [List.length_cons] at hlen
    have hstep := ih (h.touchAll ⟨position, by omega⟩ fields)
      (by omega : position + 1 + rest.length = n)
    refine hstep.congr fun user name => ?_
    constructor
    · rintro ((hseen | ⟨rfl, hname⟩) | ⟨k, others, hk, hrest, hname⟩)
      · exact Or.inl hseen
      · exact Or.inr ⟨0, fields, rfl, rfl, hname⟩
      · exact Or.inr ⟨k + 1, others, by omega, hrest, hname⟩
    · rintro (hseen | ⟨_ | k, others, hk, hrest, hname⟩)
      · exact Or.inl (Or.inl hseen)
      · obtain rfl : fields = others := by simpa using hrest
        exact Or.inl (Or.inr ⟨Fin.ext hk, hname⟩)
      · exact Or.inr ⟨k, others, by omega, hrest, hname⟩

end Joining

/-- The final state of `Joining.run` is `Joined` with all uses seen. -/
theorem joined_run {n : Nat} (touched : List (List String)) (hn : touched.length = n) :
    Joining.Joined
      (fun (user : Fin n) name => ∃ fields, touched[user.val]? = some fields ∧ name ∈ fields)
      (Joining.run { firstUser := [], groups := Partition.singletons touched.length } 0
        touched) := by
  subst hn
  have hrun := (Joining.joined_start touched.length).run
    (Nat.zero_add _ : 0 + touched.length = touched.length)
  refine hrun.congr fun user name => ?_
  simp

/-- `groupCount` counts the classes of a partition that represents `SharedIn` of all uses. -/
theorem groupCount_represents {n : Nat} (touched : List (List String)) (hn : touched.length = n) :
    ∃ groups : Partition, groupCount touched = groups.count.1 ∧
      groups.Represents (Joining.SharedIn fun (user : Fin n) name =>
        ∃ fields, touched[user.val]? = some fields ∧ name ∈ fields) :=
  ⟨_, rfl, (joined_run touched hn).groups⟩

/-! ## Fields and methods -/

theorem qualifies_iff (method : Method) : qualifies method = true ↔ TakesPart method := by
  simp [qualifies, TakesPart, Method.isInitializer, Method.isConstructor,
    Method.isStaticInitializer, and_assoc]

theorem filter_qualifies (c : Class) : c.methods.filter qualifies = nodes c := by
  apply List.filter_congr
  intro method _
  rw [Bool.eq_iff_iff, qualifies_iff, decide_eq_true_iff]

theorem mem_instanceFields_map_name {c : Class} {name : String} :
    name ∈ c.instanceFields.map Field.name ↔ Declares c name := by
  simp [Class.instanceFields, Field.isInstance, Declares, and_assoc]

theorem mem_fieldUses {method : Method} {field : FieldRef} :
    field ∈ method.fieldUses ↔ ∃ instruction ∈ method.instructions,
      instruction.operation = .readField field ∨ instruction.operation = .writeField field := by
  have hfield : ∀ operation : Operation, operation.field? = some field ↔
      operation = .readField field ∨ operation = .writeField field := by
    intro operation
    cases operation <;> simp [Operation.field?]
  simp [Method.fieldUses, Method.operations, hfield]

/-- `touched` lists the fields that the method `Uses`. -/
theorem mem_touched {c : Class} {method : Method} {name : String} :
    name ∈ touched c method ↔ Uses c method name := by
  simp only [touched, Text.mem_ordered, List.mem_map, List.mem_filter, mem_fieldUses,
    List.contains_iff_mem, Bool.and_eq_true, Bool.not_eq_true', decide_eq_true_eq]
  constructor
  · rintro ⟨field, ⟨⟨instruction, hi, hop⟩, ⟨hstatic, howner⟩, hown⟩, rfl⟩
    refine ⟨mem_instanceFields_map_name.mp ?_, instruction, hi, field, hop, hstatic, howner, rfl⟩
    simpa using hown
  · rintro ⟨hdecl, instruction, hi, field, hop, hstatic, howner, rfl⟩
    refine ⟨field, ⟨⟨instruction, hi, hop⟩, ⟨hstatic, howner⟩, ?_⟩, rfl⟩
    simpa using mem_instanceFields_map_name.mpr hdecl

/-! ## Components -/

/-- Reachability in `sharing` is the reflexive transitive closure of `Shares`. -/
theorem reachable_iff_reflTransGen_shares (c : Class) (i j : Fin (nodes c).length) :
    (sharing c).Reachable i j ↔ Relation.ReflTransGen (Shares c) i j := by
  rw [SimpleGraph.reachable_iff_reflTransGen]
  constructor
  · intro h
    exact Relation.ReflTransGen.mono (fun _ _ hxy => hxy.2) _ _ h
  · intro h
    induction h with
    | refl => exact .refl
    | @tail x y _ hxy ih =>
      by_cases hne : x = y
      · rwa [← hne]
      · exact ih.tail ⟨hne, hxy⟩

/-- `SharedIn` over the `touched` fields of all nodes is `Shares`. -/
theorem sharedIn_touched (c : Class) :
    Joining.SharedIn (fun (user : Fin (nodes c).length) name =>
        ∃ fields, ((nodes c).map (touched c))[user.val]? = some fields ∧ name ∈ fields)
      = Shares c := by
  have huses : ∀ (user : Fin (nodes c).length) name,
      (∃ fields, ((nodes c).map (touched c))[user.val]? = some fields ∧ name ∈ fields)
        ↔ Uses c (nodes c)[user] name := by
    intro user name
    simp [mem_touched]
  funext i j
  simp only [Joining.SharedIn, Shares, huses]

/-- `groupCount` over the nodes is the number of closure classes of `Shares` and the number of
connected components of `sharing`. -/
theorem groupCount_touched (c : Class) :
    groupCount ((nodes c).map (touched c)) = Nat.card (Quot (Relation.ReflTransGen (Shares c))) ∧
      groupCount ((nodes c).map (touched c)) = Nat.card (sharing c).ConnectedComponent := by
  obtain ⟨groups, hcount, hgroups⟩ :=
    groupCount_represents ((nodes c).map (touched c)) (List.length_map _)
  rw [sharedIn_touched] at hgroups
  have hclosure : groups.Represents (Relation.ReflTransGen (Shares c)) :=
    hgroups.congr (fun i j h => .rel i j (.single h)) (Relation.EqvGen.reflTransGen_le_eqvGen _)
  have hreachable : groups.Represents (sharing c).Reachable :=
    hclosure.congr (fun i j h => .rel i j ((reachable_iff_reflTransGen_shares c i j).mpr h))
      (fun i j h => .rel i j ((reachable_iff_reflTransGen_shares c i j).mp h))
  rw [hcount]
  exact ⟨hclosure.count_eq, hreachable.count_eq⟩

/-- **`components` is the number of connected components.**  `ofClass?` is `none` iff there are
fewer than two `nodes` or no field is declared.  Otherwise its `components` is the number of
connected components of `sharing c`, which is the number of classes of the reflexive transitive
closure of `Shares c`. -/
theorem groups_eq_connectedComponents (c : Class) :
    (ofClass? c = none ↔ (nodes c).length < 2 ∨ ¬ ∃ name, Declares c name) ∧
      ∀ graph, ofClass? c = some graph →
        graph.components = Nat.card (sharing c).ConnectedComponent ∧
        graph.components = Nat.card (Quot (Relation.ReflTransGen (Shares c))) := by
  have hfields : c.instanceFields.isEmpty = true ↔ ¬ ∃ name, Declares c name := by
    simp only [← mem_instanceFields_map_name, List.isEmpty_iff]
    simp [List.eq_nil_iff_forall_not_mem]
  unfold ofClass?
  rw [filter_qualifies]
  dsimp only
  split
  · rename_i hsmall
    rw [Bool.or_eq_true, decide_eq_true_eq, hfields] at hsmall
    exact ⟨iff_of_true rfl hsmall, fun graph hgraph => by simp at hgraph⟩
  · rename_i hlarge
    rw [Bool.or_eq_true, decide_eq_true_eq, hfields] at hlarge
    refine ⟨iff_of_false (by simp) hlarge, fun graph hgraph => ?_⟩
    obtain rfl := Option.some.inj hgraph
    dsimp only
    rw [List.map_map]
    exact ⟨(groupCount_touched c).2, (groupCount_touched c).1⟩

/-- A method that reads the given fields of its class. -/
def ledgerReader (name : String) (fields : List String) : Method :=
  { name
    descriptor := "()V"
    access := {}
    instructions := fields.map fun field =>
      { offset := 0
        opcode := Opcode.getfield
        operation := .readField
          { owner := "Ledger", name := field, descriptor := "I", isStatic := false }
        line := none }
    locals := [] }

/-- A class with three methods, the first two of which read a common field. -/
def ledger : Class :=
  { name := "Ledger"
    superName := none
    interfaces := []
    access := {}
    sourceFile := none
    fields := ["a", "b", "c"].map fun name =>
      { name, descriptor := "I", access := {}, hasConstantValue := false }
    methods := [ledgerReader "m1" ["a"], ledgerReader "m2" ["a", "b"], ledgerReader "m3" ["c"]] }

/-- `ofClass?` reports two components for `ledger`, and `sharing ledger` has two. -/
theorem groups_eq_connectedComponents_ledger :
    ofClass? ledger
        = some { methods := [("m1", ["a"]), ("m2", ["a", "b"]), ("m3", ["c"])], components := 2 } ∧
      Nat.card (sharing ledger).ConnectedComponent = 2 := by
  have hgraph : ofClass? ledger
      = some { methods := [("m1", ["a"]), ("m2", ["a", "b"]), ("m3", ["c"])], components := 2 } := by
    cbv
  exact ⟨hgraph, ((groups_eq_connectedComponents ledger).2 _ hgraph).1.symm⟩

end ClassAudit.CohesionGraph
