import ClassAudit.Analyzer
import ClassAudit.Proofs.Registry
import Mathlib

/-!
# What an analysis takes from the known classes

Four of the checks look at other classes, and all of them do so through a registry.  The two main
statements say how little of the known classes can show in the findings.  Neither the order in which
classes are given nor a class behind another of its name can be seen.  A further class can be seen
nowhere if the targets do not mention it and it implements none of the interfaces that matter to
them.

## Shape of the proof

For the order it is enough that the registries are equal.  A further class does change the registry;
there the checks are followed once each, to see which questions they put to it.  `SameAnswers` lists
the questions that the analysis of one class can put, and `Check.run_sameAnswers` says that there
are no others.
-/

namespace ClassAudit

/-! ## Questions to a registry -/

/-- `name` is the `objectType?` of an instance field of `c` that is not synthetic, or an interface
of `c`. -/
def Class.Mentions (c : Class) (name : String) : Prop :=
  (∃ field ∈ c.fields, field.access.isStatic = false ∧ field.access.isSynthetic = false ∧
    field.objectType? = some name) ∨ name ∈ c.interfaces

theorem Class.mentions_of_mem_instanceFields {c : Class} {field : Field}
    (hfield : field ∈ c.instanceFields) {name : String} (htype : field.objectType? = some name) :
    c.Mentions name := by
  rw [Class.instanceFields, List.mem_filter, Field.isInstance, Bool.and_eq_true, Bool.not_eq_true',
    Bool.not_eq_true'] at hfield
  exact Or.inl ⟨field, hfield.1, hfield.2.1, hfield.2.2, htype⟩

/-- The internal names of what the classes `Mentions`. -/
def mentionedNames (classes : List Class) : Set String :=
  {name | ∃ c ∈ classes, ∃ mentioned, c.Mentions mentioned ∧ TypeName.internal mentioned = name}

/-- `known` and `known'` agree on every query that an analysis of `c` makes. -/
structure SameAnswers (c : Class) (known known' : Registry) : Prop where
  /-- `resolve?` agrees on what `c` `Mentions`. -/
  resolve : ∀ name, c.Mentions name → known.resolve? name = known'.resolve? name
  /-- `implementers` agrees on `c` itself, if it is an interface. -/
  implementers : c.isInterface = true → known.implementers c.name = known'.implementers c.name
  /-- `implementers` agrees on the interfaces that `c` `Mentions`. -/
  mentioned : ∀ name, c.Mentions name → ∀ i, known.resolve? name = some i → i.isInterface = true →
    known.implementers i.name = known'.implementers i.name

/-- `added` neither bears a name that a target `Mentions` nor implements an interface that a target
asks about. -/
structure Unrelated (targets others : List Class) (added : Class) : Prop where
  /-- No target `Mentions` its name. -/
  unmentioned : added.name ∉ mentionedNames targets
  /-- It is an interface, or it implements neither a target nor a known interface that a target
  `Mentions`. -/
  implements_none : added.isInterface = true ∨
    (∀ i ∈ targets, i.isInterface = true → TypeName.internal i.name ∉ added.interfaces) ∧
    ∀ i ∈ (Registry.ofClasses (targets ++ others)).classes, i.isInterface = true →
      i.name ∈ mentionedNames targets → TypeName.internal i.name ∉ added.interfaces

namespace Check

variable {c : Class} {known known' : Registry}

theorem fieldClasses_sameAnswers (h : SameAnswers c known known') :
    fieldClasses known c = fieldClasses known' c := by
  apply List.filterMap_congr
  intro name hname
  obtain ⟨field, hfield, htype⟩ := List.mem_filterMap.mp hname
  exact h.resolve name (Class.mentions_of_mem_instanceFields hfield htype)

theorem extensibility_sameAnswers (h : SameAnswers c known known') (settings : Settings) :
    extensibility settings (some known) c = extensibility settings (some known') c := by
  unfold extensibility
  by_cases hinterface : c.isInterface = true
  · rw [if_pos hinterface, if_pos hinterface]
    dsimp only
    rw [extensionFindings, extensionFindings, h.implementers hinterface]
  · rw [if_neg hinterface, if_neg hinterface]
    dsimp only
    rw [couplingFindings, couplingFindings, concreteDependencies, concreteDependencies,
      fieldClasses_sameAnswers h]

theorem adapters_sameAnswers (h : SameAnswers c known known') :
    adapters (some known) c = adapters (some known') c := by
  have htargets : targetsVerified known c = targetsVerified known' c := by
    rw [targetsVerified, targetsVerified, Bool.eq_iff_iff, List.all_eq_true, List.all_eq_true]
    apply forall₂_congr
    intro target htarget
    rw [h.resolve target (Or.inr htarget)]
  unfold adapters
  congr 1
  apply List.filterMap_congr
  intro field hfield
  unfold adapterFinding?
  cases hadaptee : adaptee? c field with
  | none => rfl
  | some adaptee =>
    have hmentions :=
      Class.mentions_of_mem_instanceFields hfield (Option.filter_eq_some_iff.mp hadaptee).1
    rw [Option.bind_eq_bind, Option.bind_some, Option.bind_some, adapterConfidence?,
      adapterConfidence?, h.resolve adaptee hmentions, htargets]

theorem decorators_sameAnswers (h : SameAnswers c known known') :
    decorators (some known) c = decorators (some known') c := by
  unfold decorators
  congr 1
  apply List.filterMap_congr
  intro field hfield
  unfold decoratorFinding?
  cases htype : field.objectType? with
  | none => rfl
  | some wrapped =>
    rw [Option.bind_eq_bind, Option.bind_some, Option.bind_some, typeConfidence, typeConfidence,
      h.resolve wrapped (Class.mentions_of_mem_instanceFields hfield htype)]

theorem strategies_sameAnswers (h : SameAnswers c known known') :
    strategies (some known) c = strategies (some known') c := by
  unfold strategies
  dsimp only
  congr 1
  apply List.flatMap_congr
  intro field hfield
  unfold strategyFieldFindings
  cases htype : strategyType? c field with
  | none => rfl
  | some type =>
    have hmentions :=
      Class.mentions_of_mem_instanceFields hfield (Option.filter_eq_some_iff.mp htype).1
    have hresolve := h.resolve type hmentions
    dsimp only
    rw [← hresolve]
    cases hfound : known.resolve? type with
    | none => rfl
    | some strategy =>
      dsimp only
      by_cases hinterface : strategy.isInterface = true
      · rw [if_pos hinterface, if_pos hinterface, implementationFinding, implementationFinding,
          h.mentioned type hmentions strategy hfound hinterface]
      · rw [if_neg hinterface, if_neg hinterface]

/-- No check asks a registry for more than its answers to the questions of `SameAnswers`. -/
theorem run_sameAnswers (h : SameAnswers c known known') (check : Check) (criteria : Criteria) :
    check.run criteria (some known) c = check.run criteria (some known') c := by
  cases check with
  | openClosed => exact extensibility_sameAnswers h criteria.settings
  | adapterPattern => exact adapters_sameAnswers h
  | decoratorPattern => exact decorators_sameAnswers h
  | strategyPattern => exact strategies_sameAnswers h
  | _ => rfl

end Check

namespace Analyzer

variable (analyzer : Analyzer) (targets others : List Class)

/-- The findings on `c` in the analysis of `targets` among `others`. -/
def block (c : Class) : List Finding :=
  analyzer.findingsIn (some (Registry.ofClasses (targets ++ others))) c

/-! ## The order of the classes -/

/-- `analyzeAmong` is the concatenation of the `block`s of its targets, for any lists with the same
registry. -/
theorem analyzeAmong_eq_flatMap_block {targets' others' : List Class}
    (h : Registry.ofClasses (targets' ++ others') = Registry.ofClasses (targets ++ others)) :
    analyzer.analyzeAmong targets' others' = targets'.flatMap (analyzer.block targets others) := by
  rw [analyzeAmong, h]
  rfl

/-- **The order of the classes does not matter.**  `analyzeAmong` is the concatenation of one
`block` per target.  If all names are distinct, `others` may be permuted, and permuted targets keep
their blocks.  A class of `others` behind another of its name may be dropped.  `runAll` is
`analyzeAmong` with no other classes. -/
theorem analyzeAmong_order :
    (((targets ++ others).map Class.name).Nodup →
      (∀ others', others'.Perm others →
        analyzer.analyzeAmong targets others' = analyzer.analyzeAmong targets others) ∧
      analyzer.analyzeAmong targets others = targets.flatMap (analyzer.block targets others) ∧
      ∀ targets', targets'.Perm targets →
        analyzer.analyzeAmong targets' others = targets'.flatMap (analyzer.block targets others)) ∧
    (∀ before shadowed after, others = before ++ shadowed :: after →
      shadowed.name ∈ (targets ++ before).map Class.name →
      analyzer.analyzeAmong targets (before ++ after) = analyzer.analyzeAmong targets others) ∧
    Check.runAll analyzer.checks analyzer.criteria targets = analyzer.analyzeAmong targets [] := by
  refine ⟨fun hnames => ⟨?_, rfl, ?_⟩, ?_, ?_⟩
  · intro others' hperm
    apply analyzer.analyzeAmong_eq_flatMap_block
    exact (Registry.ofClasses_perm (hperm.symm.append_left targets) hnames).symm
  · intro targets' hperm
    apply analyzer.analyzeAmong_eq_flatMap_block
    exact (Registry.ofClasses_perm (hperm.symm.append_right others) hnames).symm
  · rintro before shadowed after rfl hname
    apply analyzer.analyzeAmong_eq_flatMap_block
    rw [← List.append_assoc, ← List.append_assoc, Registry.ofClasses_shadowed hname]
  · rw [Check.runAll, analyzeAmong, List.append_nil]
    rfl

/-- A class without members. -/
def figure (name : String) (interfaces : List String) : Class :=
  { name
    superName := none
    interfaces
    access := {}
    sourceFile := none
    fields := []
    methods := [] }

/-- An interface `Shape`. -/
def shape : Class :=
  { figure "Shape" [] with access := { isInterface := true } }

/-- A class with a field of type `Shape`. -/
def drawing : Class :=
  { figure "Drawing" [] with
    fields :=
      [{ name := "shape", descriptor := "LShape;", access := {}, hasConstantValue := false }] }

/-- The analyzer of the default settings, with `Check.all`. -/
def standard : Analyzer :=
  { criteria := { settings := {}, secretPatterns := [] }, checks := Check.all }

/-- Two implementers of `Shape` in either order, the targets in either order, and a second class of
one name. -/
theorem analyzeAmong_order_drawing :
    (([drawing, shape] ++ [figure "Square" ["Shape"], figure "Circle" ["Shape"]]).map
        Class.name).Nodup ∧
      standard.analyzeAmong [drawing, shape] [figure "Circle" ["Shape"], figure "Square" ["Shape"]]
        = standard.analyzeAmong [drawing, shape]
            [figure "Square" ["Shape"], figure "Circle" ["Shape"]] ∧
      standard.analyzeAmong [shape, drawing] [figure "Square" ["Shape"], figure "Circle" ["Shape"]]
        = [shape, drawing].flatMap (standard.block [drawing, shape]
            [figure "Square" ["Shape"], figure "Circle" ["Shape"]]) ∧
      standard.analyzeAmong [drawing, shape] [figure "Square" ["Shape"]]
        = standard.analyzeAmong [drawing, shape]
            [figure "Square" ["Shape"], figure "Square" []] := by
  have hnames : (([drawing, shape] ++ [figure "Square" ["Shape"], figure "Circle" ["Shape"]]).map
      Class.name).Nodup := by decide
  obtain ⟨hothers, -, htargets⟩ := (analyzeAmong_order standard _ _).1 hnames
  refine ⟨hnames, hothers _ (.swap _ _ _), htargets _ (.swap _ _ _), ?_⟩
  exact (analyzeAmong_order standard [drawing, shape] _).2.1 [figure "Square" ["Shape"]]
    (figure "Square" []) [] rfl (by decide)

/-! ## An unrelated class -/

/-- Appending an `Unrelated` class to `others` preserves `SameAnswers` for every target. -/
theorem sameAnswers_of_unrelated {added : Class} (h : Unrelated targets others added) {c : Class}
    (hc : c ∈ targets) :
    SameAnswers c (Registry.ofClasses (targets ++ others))
      (Registry.ofClasses (targets ++ (others ++ [added]))) := by
  rw [← List.append_assoc]
  refine ⟨?_, ?_, ?_⟩
  · intro name hmentions
    refine (Registry.resolve?_concat ?_).symm
    intro heq
    exact h.unmentioned ⟨c, hc, name, hmentions, heq.symm⟩
  · intro hinterface
    refine (Registry.implementers_concat ?_).symm
    refine h.implements_none.imp_right fun hnone => ?_
    simpa [Class.implements] using hnone.1 c hc hinterface
  · intro name hmentions i hresolve hinterface
    refine (Registry.implementers_concat ?_).symm
    refine h.implements_none.imp_right fun hnone => ?_
    obtain ⟨hknown, hiname⟩ := Registry.resolve?_eq_some_iff.mp hresolve
    simpa [Class.implements] using
      hnone.2 i hknown hinterface ⟨c, hc, name, hmentions, hiname.symm⟩

/-- **An unrelated class changes nothing.**  `analyzeAmong` is unchanged when a class that is
`Unrelated` to the targets is appended to `others`. -/
theorem analyzeAmong_unrelated (added : Class) (h : Unrelated targets others added) :
    analyzer.analyzeAmong targets (others ++ [added]) = analyzer.analyzeAmong targets others := by
  apply List.flatMap_congr
  intro c hc
  apply List.flatMap_congr
  intro check _
  have hsame := sameAnswers_of_unrelated targets others h hc
  exact (Check.run_sameAnswers hsame check analyzer.criteria).symm

theorem mentionedNames_drawing : mentionedNames [drawing, shape] = {"Shape"} := by
  have htype : TypeDescriptor.ofField? "LShape;" = some (.simple (.object "Shape")) := by cbv
  have hinternal : TypeName.internal "Shape" = "Shape" := by decide
  ext name
  simp [mentionedNames, Class.Mentions, drawing, shape, figure, Field.objectType?, Field.type?,
    htype, TypeDescriptor.internalName?, hinternal]

/-- `Button`, which implements only `Clickable`, is `Unrelated` to `drawing` and `shape`. -/
theorem analyzeAmong_unrelated_button :
    Unrelated [drawing, shape] [figure "Circle" ["Shape"]] (figure "Button" ["Clickable"]) ∧
      standard.analyzeAmong [drawing, shape]
          ([figure "Circle" ["Shape"]] ++ [figure "Button" ["Clickable"]])
        = standard.analyzeAmong [drawing, shape] [figure "Circle" ["Shape"]] := by
  have hinternal : TypeName.internal "Shape" ∉ ["Clickable"] := by decide
  have hunrelated :
      Unrelated [drawing, shape] [figure "Circle" ["Shape"]] (figure "Button" ["Clickable"]) := by
    refine ⟨?_, Or.inr ⟨?_, ?_⟩⟩
    · rw [mentionedNames_drawing]
      simp [figure]
    · simpa [drawing, shape, figure, Class.isInterface] using hinternal
    · intro i _ _ hmentioned
      rw [mentionedNames_drawing, Set.mem_singleton_iff] at hmentioned
      rwa [hmentioned]
  exact ⟨hunrelated, analyzeAmong_unrelated standard _ _ _ hunrelated⟩

end Analyzer

end ClassAudit
