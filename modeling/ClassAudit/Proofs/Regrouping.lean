import ClassAudit.Proofs.Cohesion
import Mathlib

/-!
# Edits of a class and its groups of methods

What happens to the number of groups when one instruction is added to a method, or when methods,
fields and instructions change places.  A new use of a field can bring two groups together and never
more than two, since the users of a field are in one group already.  Any other instruction leaves
the whole graph as it was.

## Shape of the proof

The groups are counted at the end of a walk over the methods, and a new use may make another method
the first user of its field, with other unions from there on.  The walk is therefore not compared
with another one.  The new use is put at its *end* instead: one more `Joining.touch` after the old
walk (`groupCount_use`) gives a state that stands for the same uses as the new walk, so both have
the same groups, and that touch is at most one union.
-/

namespace ClassAudit.CohesionGraph

/-! ## The number of groups -/

/-- `groupCount` from any state that is `Joined` with all uses. -/
theorem groupCount_of_joined {n : Nat} {seen : Fin n → String → Prop} {state : Joining}
    {touched : List (List String)} (hn : touched.length = n) (h : Joining.Joined seen state)
    (hseen : ∀ user name,
      seen user name ↔ ∃ fields, touched[user.val]? = some fields ∧ name ∈ fields) :
    groupCount touched = state.groups.count.1 := by
  obtain ⟨groups, hcount, hgroups⟩ := groupCount_represents touched hn
  rw [hcount, hgroups.count_eq, (h.congr hseen).groups.count_eq]

/-- `touch` lowers `count` by at most one. -/
theorem Joining.Joined.count_touch {n : Nat} {seen : Fin n → String → Prop} {state : Joining}
    (h : Joining.Joined seen state) (method : Fin n) (field : String) :
    (state.touch method field).groups.count.1 = state.groups.count.1 ∨
      (state.touch method field).groups.count.1 + 1 = state.groups.count.1 := by
  unfold Joining.touch
  rcases hfirst : state.firstUser.lookup field with _ | other
  · exact Or.inl rfl
  · obtain ⟨hother, -⟩ := h.first_seen field other hfirst
    have hmethod : method.val < state.groups.size := by rw [h.groups.size_eq]; exact method.isLt
    have hlt : other < state.groups.size := by rw [h.groups.size_eq]; exact hother
    have hcount := Partition.count_union h.groups.forest hmethod hlt
    dsimp only
    split_ifs at hcount
    · exact Or.inl hcount
    · exact Or.inr hcount

/-- `groupCount` when one method uses one more field: the same or one less. -/
theorem groupCount_use {before after : List (List String)} {fields wider : List String}
    {field : String} (hwider : ∀ name, name ∈ wider ↔ name ∈ fields ∨ name = field) :
    groupCount (before ++ wider :: after) = groupCount (before ++ fields :: after) ∨
      groupCount (before ++ wider :: after) + 1 = groupCount (before ++ fields :: after) := by
  have hlength : (before ++ wider :: after).length = (before ++ fields :: after).length := by simp
  have hjoined := joined_run (before ++ fields :: after) rfl
  let method : Fin (before ++ fields :: after).length := ⟨before.length, by simp⟩
  rw [groupCount_of_joined rfl hjoined fun _ _ => Iff.rfl,
    groupCount_of_joined hlength (hjoined.touch method field)]
  · exact hjoined.count_touch method field
  · -- what the longer list records is what the old walk and the touch have seen
    intro user name
    rcases lt_trichotomy user.val before.length with hlt | heq | hgt
    · have hne : user ≠ method := fun h => hlt.ne (congrArg Fin.val h)
      simp [List.getElem?_append_left hlt, hne]
    · obtain rfl : user = method := Fin.ext heq
      simp [method, hwider]
    · have hne : user ≠ method := fun h => hgt.ne (congrArg Fin.val h).symm
      obtain ⟨k, hk⟩ : ∃ k, user.val = before.length + (k + 1) :=
        ⟨user.val - before.length - 1, by omega⟩
      simp [hk, hne, List.getElem?_append_right]

/-- `groupCount` is invariant under permutation. -/
theorem groupCount_perm {touched others : List (List String)} (hperm : touched.Perm others) :
    groupCount touched = groupCount others := by
  obtain ⟨groups, hcount, hgroups⟩ := groupCount_represents touched rfl
  obtain ⟨groups', hcount', hgroups'⟩ := groupCount_represents others rfl
  rw [hcount, hcount', hgroups.count_eq, hgroups'.count_eq]
  let places : Fin touched.length ≃ Fin others.length :=
    { toFun := hperm.idxBij
      invFun := hperm.symm.idxBij
      left_inv := hperm.idxBij_rightInverse_idxBij_symm
      right_inv := hperm.idxBij_leftInverse_idxBij_symm }
  refine Nat.card_congr (Quot.congr places fun i j => ?_)
  have hplace : ∀ i : Fin touched.length, others[(places i).val]? = touched[i.val]? := by
    intro i
    rw [List.getElem?_eq_getElem i.isLt, List.getElem?_eq_getElem (places i).isLt]
    exact congrArg some (hperm.getElem_idxBij_eq_getElem i)
  simp only [Joining.SharedIn, hplace]

/-! ## The graph of a class -/

/-- The instruction reads or writes the field `name` that `c` `Declares`. -/
def Accesses (c : Class) (instruction : Instruction) (name : String) : Prop :=
  Declares c name ∧ ∃ field : FieldRef,
    (instruction.operation = .readField field ∨ instruction.operation = .writeField field) ∧
      field.isStatic = false ∧ field.owner = c.name ∧ field.name = name

theorem uses_iff {c : Class} {method : Method} {name : String} :
    Uses c method name ↔ ∃ instruction ∈ method.instructions, Accesses c instruction name := by
  constructor
  · rintro ⟨hdeclares, instruction, hmem, haccess⟩
    exact ⟨instruction, hmem, hdeclares, haccess⟩
  · rintro ⟨instruction, hmem, hdeclares, haccess⟩
    exact ⟨hdeclares, instruction, hmem, haccess⟩

/-- An instruction `Accesses` at most one field. -/
theorem Accesses.unique {c : Class} {instruction : Instruction} {name other : String}
    (h : Accesses c instruction name) (h' : Accesses c instruction other) : name = other := by
  obtain ⟨-, field, hop, -, -, rfl⟩ := h
  obtain ⟨-, field', hop', -, -, rfl⟩ := h'
  rcases hop with hop | hop <;> rcases hop' with hop' | hop' <;> rw [hop] at hop' <;> cases hop' <;>
    rfl

/-- `touched` depends on the method only through what it `Uses`. -/
theorem touched_congr {c c' : Class} {method method' : Method}
    (h : ∀ name, Uses c' method' name ↔ Uses c method name) :
    touched c' method' = touched c method := by
  apply Text.ordered_congr
  intro name
  have huses := h name
  rwa [← mem_touched, ← mem_touched, touched, touched, Text.mem_ordered, Text.mem_ordered] at huses

/-- `ofClass?` is defined iff there are at least two `nodes` and a declared field. -/
theorem ofClass?_eq_some_iff {c : Class} {graph : CohesionGraph} :
    ofClass? c = some graph ↔ 2 ≤ (nodes c).length ∧ (∃ name, Declares c name) ∧
      graph = { methods := (nodes c).map fun method => (method.name, touched c method)
                components := groupCount ((nodes c).map (touched c)) } := by
  have hfields : c.instanceFields.isEmpty = false ↔ ∃ name, Declares c name := by
    simp only [← mem_instanceFields_map_name, List.isEmpty_eq_false_iff_exists_mem]
    simp
  unfold ofClass?
  rw [filter_qualifies, ← hfields]
  dsimp only
  rw [List.map_map]
  split_ifs with hsmall
  · refine iff_of_false (by simp) ?_
    rintro ⟨hlength, hsome, -⟩
    rw [hsome, Bool.or_false, decide_eq_true_eq] at hsmall
    omega
  · simp only [Bool.or_eq_true, decide_eq_true_eq, not_or, not_lt, Bool.not_eq_true] at hsmall
    simp only [hsmall, true_and, Option.some.injEq]
    exact eq_comm

/-- `ofClass?` depends only on the declared fields and on the names and `touched` fields of the
nodes. -/
theorem ofClass?_congr {c c' : Class} (hfields : ∀ name, Declares c' name ↔ Declares c name)
    (hmethods : (nodes c').map (fun method => (method.name, touched c' method))
      = (nodes c).map fun method => (method.name, touched c method)) :
    ofClass? c' = ofClass? c := by
  have hlength : (nodes c').length = (nodes c).length := by
    simpa using congrArg List.length hmethods
  have htouched : (nodes c').map (touched c') = (nodes c).map (touched c) := by
    simpa [Function.comp_def] using congrArg (List.map Prod.snd) hmethods
  apply Option.ext
  intro graph
  rw [ofClass?_eq_some_iff, ofClass?_eq_some_iff, hlength, hmethods, htouched]
  simp only [hfields]

/-- `ofClass?` is defined for any class with as many `nodes` and the same declared fields. -/
theorem exists_graph {c c' : Class} {graph : CohesionGraph} (hgraph : ofClass? c = some graph)
    (hlength : (nodes c').length = (nodes c).length)
    (hfields : ∀ name, Declares c' name ↔ Declares c name) :
    graph.components = groupCount ((nodes c).map (touched c)) ∧
      ∃ graph', ofClass? c' = some graph' ∧
        graph'.components = groupCount ((nodes c').map (touched c')) := by
  obtain ⟨htwo, ⟨name, hname⟩, rfl⟩ := ofClass?_eq_some_iff.mp hgraph
  refine ⟨rfl, _, ofClass?_eq_some_iff.mpr ⟨?_, ⟨name, (hfields name).mpr hname⟩, rfl⟩, rfl⟩
  rwa [hlength]

/-! ## One instruction more -/

/-- `c'` is `c` with `instruction` inserted anywhere into `method`. -/
def Inserted (instruction : Instruction) (method : Method) (c c' : Class) : Prop :=
  ∃ before after front back, c.methods = before ++ method :: after ∧
    method.instructions = front ++ back ∧
    c' = { c with
      methods := before ++ { method with instructions := front ++ instruction :: back } :: after }

variable {c c' : Class} {method : Method} {instruction : Instruction}

theorem uses_inserted {front back : List Instruction} (hbody : method.instructions = front ++ back)
    (name : String) :
    Uses c { method with instructions := front ++ instruction :: back } name ↔
      Uses c method name ∨ Accesses c instruction name := by
  simp only [uses_iff, hbody, List.mem_append, List.mem_cons]
  constructor
  · rintro ⟨used, hfront | rfl | hback, haccess⟩
    · exact Or.inl ⟨used, Or.inl hfront, haccess⟩
    · exact Or.inr haccess
    · exact Or.inl ⟨used, Or.inr hback, haccess⟩
  · rintro (⟨used, hfront | hback, haccess⟩ | haccess)
    · exact ⟨used, Or.inl hfront, haccess⟩
    · exact ⟨used, Or.inr (Or.inr hback), haccess⟩
    · exact ⟨instruction, Or.inr (Or.inl rfl), haccess⟩

/-- `Inserted` preserves `touched`, which depends on the name and the fields of the class only. -/
theorem Inserted.touched_eq (h : Inserted instruction method c c') : touched c' = touched c := by
  obtain ⟨before, after, front, back, hmethods, hbody, rfl⟩ := h
  rfl

theorem Inserted.declares (h : Inserted instruction method c c') (name : String) :
    Declares c' name ↔ Declares c name := by
  obtain ⟨before, after, front, back, hmethods, hbody, rfl⟩ := h
  exact Iff.rfl

/-- `Inserted` into a method that `TakesPart` replaces its node by one that `Uses` what the
instruction `Accesses` too. -/
theorem Inserted.nodes_eq (h : Inserted instruction method c c') (hpart : TakesPart method) :
    ∃ before after longer, nodes c = before ++ method :: after ∧
      nodes c' = before ++ longer :: after ∧ longer.name = method.name ∧
      ∀ name, Uses c longer name ↔ Uses c method name ∨ Accesses c instruction name := by
  obtain ⟨before, after, front, back, hmethods, hbody, rfl⟩ := h
  let longer : Method := { method with instructions := front ++ instruction :: back }
  have hlonger : TakesPart longer := hpart
  refine ⟨before.filter (TakesPart ·), after.filter (TakesPart ·), longer, ?_, ?_, rfl,
    uses_inserted hbody⟩
  · rw [nodes, hmethods, List.filter_append, List.filter_cons_of_pos (by simpa using hpart)]
  · rw [nodes, List.filter_append, List.filter_cons_of_pos (by simpa using hlonger)]

theorem Inserted.nodes_eq_of_not (h : Inserted instruction method c c')
    (hpart : ¬ TakesPart method) : nodes c' = nodes c := by
  obtain ⟨before, after, front, back, hmethods, hbody, rfl⟩ := h
  let longer : Method := { method with instructions := front ++ instruction :: back }
  have hlonger : ¬ TakesPart longer := hpart
  rw [nodes, nodes, hmethods, List.filter_append, List.filter_append,
    List.filter_cons_of_neg (by simpa using hlonger),
    List.filter_cons_of_neg (by simpa using hpart)]

/-- `Inserted` preserves `ofClass?` if the method does not `TakesPart` or the instruction `Accesses`
no field. -/
theorem Inserted.ofClass?_eq (h : Inserted instruction method c c')
    (hidle : ¬ TakesPart method ∨ ∀ name, ¬ Accesses c instruction name) :
    ofClass? c' = ofClass? c := by
  apply ofClass?_congr h.declares
  rw [h.touched_eq]
  by_cases hpart : TakesPart method
  · obtain ⟨before, after, longer, hnodes, hnodes', hname, huses⟩ := h.nodes_eq hpart
    have htouched : touched c longer = touched c method := by
      apply touched_congr
      intro name
      rw [huses name]
      exact or_iff_left (hidle.resolve_left (not_not_intro hpart) name)
    rw [hnodes, hnodes', List.map_append, List.map_append, List.map_cons, List.map_cons, hname,
      htouched]
  · rw [h.nodes_eq_of_not hpart]

/-- `Inserted` of an instruction that `Accesses` a field keeps `components` or lowers it by one. -/
theorem Inserted.exists_ofClass? (h : Inserted instruction method c c') (hpart : TakesPart method)
    {field : String} (haccess : Accesses c instruction field) {graph : CohesionGraph}
    (hgraph : ofClass? c = some graph) :
    ∃ graph', ofClass? c' = some graph' ∧
      (graph'.components = graph.components ∨ graph'.components + 1 = graph.components) := by
  obtain ⟨before, after, longer, hnodes, hnodes', -, huses⟩ := h.nodes_eq hpart
  have hlength : (nodes c').length = (nodes c).length := by
    rw [hnodes, hnodes', List.length_append, List.length_append, List.length_cons, List.length_cons]
  obtain ⟨hbefore, graph', hgraph', hafter⟩ := exists_graph hgraph hlength h.declares
  refine ⟨graph', hgraph', ?_⟩
  rw [hbefore, hafter, h.touched_eq, hnodes, hnodes', List.map_append, List.map_append,
    List.map_cons, List.map_cons]
  apply groupCount_use
  intro name
  rw [mem_touched, mem_touched, huses name]
  refine or_congr_right ⟨fun hname => hname.unique haccess, ?_⟩
  rintro rfl
  exact haccess

/-! ## Other places -/

/-- `method'` is `method` with its instructions permuted. -/
def RearrangedMethod (method method' : Method) : Prop :=
  ∃ instructions, instructions.Perm method.instructions ∧ method' = { method with instructions }

/-- `c'` is `c` with its fields, its methods and the instructions of each method permuted. -/
def Rearranged (c c' : Class) : Prop :=
  ∃ fields methods rearranged, fields.Perm c.fields ∧
    List.Forall₂ RearrangedMethod c.methods rearranged ∧ methods.Perm rearranged ∧
    c' = { c with fields, methods }

theorem Rearranged.declares (h : Rearranged c c') (name : String) :
    Declares c' name ↔ Declares c name := by
  obtain ⟨fields, methods, rearranged, hfields, -, -, rfl⟩ := h
  simp only [Declares, hfields.mem_iff]

theorem Rearranged.touched_eq (h : Rearranged c c') {method method' : Method}
    (hmethod : RearrangedMethod method method') : touched c' method' = touched c method := by
  apply touched_congr
  intro name
  have hname : c'.name = c.name := by
    obtain ⟨fields, methods, rearranged, -, -, -, rfl⟩ := h
    rfl
  obtain ⟨instructions, hperm, rfl⟩ := hmethod
  simp only [Uses, h.declares name, hname, hperm.mem_iff]

/-- `Rearranged` permutes the `touched` fields of the nodes. -/
theorem Rearranged.map_touched_perm (h : Rearranged c c') :
    ((nodes c').map (touched c')).Perm ((nodes c).map (touched c)) := by
  -- first the instructions change places, method by method, and then the methods
  have htouched := @h.touched_eq
  obtain ⟨fields, methods, rearranged, -, hmethods, hperm, rfl⟩ := h
  have hnodes : List.Forall₂ RearrangedMethod (nodes c) (rearranged.filter (TakesPart ·)) := by
    refine List.rel_filter (fun method method' hmethod => ?_) hmethods
    obtain ⟨instructions, -, rfl⟩ := hmethod
    exact Iff.rfl
  have hsame : (nodes c).map (touched c) = (rearranged.filter (TakesPart ·)).map
      (touched { c with fields, methods }) := by
    rw [← List.forall₂_eq_eq_eq, List.forall₂_map_left_iff, List.forall₂_map_right_iff]
    exact hnodes.imp fun method method' hmethod => (htouched hmethod).symm
  rw [hsame]
  exact (hperm.filter _).map _

theorem Rearranged.exists_ofClass? (h : Rearranged c c') {graph : CohesionGraph}
    (hgraph : ofClass? c = some graph) :
    ∃ graph', ofClass? c' = some graph' ∧ graph'.components = graph.components := by
  have hlength : (nodes c').length = (nodes c).length := by
    simpa using h.map_touched_perm.length_eq
  obtain ⟨hbefore, graph', hgraph', hafter⟩ := exists_graph hgraph hlength h.declares
  refine ⟨graph', hgraph', ?_⟩
  rw [hbefore, hafter, groupCount_perm h.map_touched_perm]

/-- **One new use joins at most two groups.**  Let `ofClass? c` be defined, and let `c'` be `c` with
an instruction `Inserted`.  If the method `TakesPart` and the instruction `Accesses` a field,
`components` is unchanged or one less; otherwise the graph is unchanged.  `components` is invariant
under `Rearranged`. -/
theorem components_edited (c : Class) (graph : CohesionGraph) (hgraph : ofClass? c = some graph) :
    (∀ method instruction c', Inserted instruction method c c' →
      (TakesPart method → (∃ name, Accesses c instruction name) →
        ∃ graph', ofClass? c' = some graph' ∧
          (graph'.components = graph.components ∨ graph'.components + 1 = graph.components)) ∧
      ((¬ TakesPart method ∨ ¬ ∃ name, Accesses c instruction name) →
        ofClass? c' = some graph)) ∧
    ∀ c', Rearranged c c' →
      ∃ graph', ofClass? c' = some graph' ∧ graph'.components = graph.components := by
  refine ⟨fun method instruction c' h => ⟨?_, ?_⟩, fun c' h => h.exists_ofClass? hgraph⟩
  · rintro hpart ⟨name, haccess⟩
    exact h.exists_ofClass? hpart haccess hgraph
  · intro hidle
    rw [not_exists] at hidle
    rw [h.ofClass?_eq hidle, hgraph]

/-- A read of a field. -/
def readOf (owner field : String) : Instruction :=
  { offset := 0
    opcode := Opcode.getfield
    operation := .readField { owner, name := field, descriptor := "I", isStatic := false }
    line := none }

/-- `ledger` with other instructions in its first method. -/
def ledgerWith (instructions : List Instruction) : Class :=
  { ledger with
    methods := [{ ledgerReader "m1" [] with instructions }, ledgerReader "m2" ["a", "b"],
      ledgerReader "m3" ["c"]] }

/-- An additional read of `c` in the first method may join two groups; a read of a field of another
class, and a rearrangement, join none. -/
theorem components_edited_ledger :
    (∃ graph, ofClass? ledger = some graph ∧ graph.components = 2) ∧
      (∃ graph, ofClass? (ledgerWith [readOf "Ledger" "c", readOf "Ledger" "a"]) = some graph ∧
        (graph.components = 2 ∨ graph.components + 1 = 2)) ∧
      ofClass? (ledgerWith [readOf "Ledger" "a", readOf "Other" "c"]) = ofClass? ledger ∧
      ∃ graph, ofClass? { ledger with
          fields := ledger.fields.reverse
          methods := [ledgerReader "m3" ["c"], ledgerReader "m1" ["a"],
            ledgerReader "m2" ["b", "a"]] } = some graph ∧ graph.components = 2 := by
  have hgraph : ofClass? ledger = some
      { methods := [("m1", ["a"]), ("m2", ["a", "b"]), ("m3", ["c"])], components := 2 } := by
    cbv
  obtain ⟨hinserted, hrearranged⟩ := components_edited ledger _ hgraph
  refine ⟨⟨_, hgraph, rfl⟩, ?_, ?_, hrearranged _ ?_⟩
  · refine (hinserted (ledgerReader "m1" ["a"]) (readOf "Ledger" "c") _
      ⟨[], _, [], _, rfl, rfl, rfl⟩).1 (by decide) ⟨"c", ?_, _, Or.inl rfl, rfl, rfl, rfl⟩
    exact ⟨_, List.mem_of_getElem? (i := 2) rfl, rfl, rfl, rfl⟩
  · rw [hgraph]
    refine (hinserted (ledgerReader "m1" ["a"]) (readOf "Other" "c") _
      ⟨[], _, [readOf "Ledger" "a"], [], rfl, rfl, rfl⟩).2 (Or.inr ?_)
    rintro ⟨name, -, field, hop, -, howner, -⟩
    rcases hop with hop | hop
    · cases hop
      revert howner
      decide
    · cases hop
  · refine ⟨_, _, [ledgerReader "m1" ["a"], ledgerReader "m2" ["b", "a"], ledgerReader "m3" ["c"]],
      List.reverse_perm _, ?_, ?_, rfl⟩
    · refine .cons ⟨_, .refl _, rfl⟩ (.cons ⟨_, ?_, rfl⟩ (.cons ⟨_, .refl _, rfl⟩ .nil))
      exact List.Perm.swap _ _ _
    · exact (List.perm_append_singleton _ [_, _]).symm

end ClassAudit.CohesionGraph
