import ClassAudit.Check.Delegation
import ClassAudit.Proofs.Resolution
import Mathlib

/-!
# Adapters and decorators

The two checks for classes that hand calls on to an object in one of their fields.  Knowing more
classes never adds to what they find: confidences rise, and an adapter may turn out to be none.  No
field is both adapted and decorated.  A field is reported only as long as its class calls methods of
its type; to take these calls out of the class does the same to the findings as to take out the
fields of that type.

## Shape of the proofs

Both checks look at one field after the other.  What is known comes in at one place each, where the
confidence of a finding is set.  `adapterFinding?_eq` and `decoratorFinding?_eq` say so: a finding
is the one on the class alone, with another confidence.  Two runs are then compared by their
confidences and nothing else.  In the same way `adapterFinding?_withoutCallsOn` says what is left on
a field when calls are taken out, and the checks follow field by field.
-/

namespace ClassAudit

/-! ## Findings and what is known -/

namespace Finding

/-- The finding with its confidence replaced. -/
def withConfidence (finding : Finding) (confidence : Confidence) : Finding :=
  { finding with confidence := some confidence }

/-- `finding` differs from `other` only in a confidence that is at least as high. -/
def Firmer (finding other : Finding) : Prop :=
  { finding with confidence := none } = { other with confidence := none } ∧
    ∃ after before : Confidence, finding.confidence = some after ∧ other.confidence = some before ∧
      before.rank ≤ after.rank

theorem firmer_withConfidence (finding : Finding) {before after : Confidence}
    (h : before.rank ≤ after.rank) :
    (finding.withConfidence after).Firmer (finding.withConfidence before) :=
  ⟨rfl, after, before, rfl, rfl, h⟩

end Finding

namespace Registry

/-- `wider` resolves every name that `known` resolves, to the same class. -/
def Extends (wider known : Registry) : Prop :=
  ∀ name resolved, known.resolve? name = some resolved → wider.resolve? name = some resolved

variable {known wider : Registry}

/-- Appending classes gives a registry that `Extends`. -/
theorem extends_append (classes more : List Class) :
    (ofClasses (classes ++ more)).Extends (ofClasses classes) := by
  intro name resolved h
  rw [resolve?_ofClasses] at h ⊢
  rw [List.find?_append, h, Option.some_or]

/-- A property of the resolved class is preserved by `Extends`. -/
theorem Extends.any_resolve? (h : wider.Extends known) {p : Class → Bool} {name : String}
    (hany : (known.resolve? name).any p = true) : (wider.resolve? name).any p = true := by
  rcases hresolved : known.resolve? name with _ | resolved
  · rw [hresolved] at hany
    cases hany
  · rwa [h name resolved hresolved, ← hresolved]

theorem medium_le_confidence (resolved : Option Class) :
    Confidence.medium.rank ≤ (confidence resolved).rank := by
  rcases resolved with _ | resolved
  · exact le_rfl
  · exact (by decide : Confidence.medium.rank ≤ Confidence.high.rank)

theorem Extends.confidence_le (h : wider.Extends known) (name : String) :
    (confidence (known.resolve? name)).rank ≤ (confidence (wider.resolve? name)).rank := by
  rcases hresolved : known.resolve? name with _ | resolved
  · exact medium_le_confidence _
  · rw [h name resolved hresolved]

/-- `resolve?` of the empty registry is `none`. -/
theorem resolve?_nil (name : String) : (ofClasses []).resolve? name = none := by
  rw [resolve?_ofClasses, List.find?_nil]

end Registry

namespace Check

variable {c : Class} {field : Field} {known wider : Registry}

/-! ## Adapters -/

/-- `adapterFinding?` depends on the registry only through `adapterConfidence?`. -/
theorem adapterFinding?_eq (known : Option Registry) (c : Class) (field : Field) :
    adapterFinding? known c field = (adapterFinding? none c field).bind fun finding =>
      ((adaptee? c field).bind (adapterConfidence? known c)).map finding.withConfidence := by
  unfold adapterFinding?
  rcases adaptee? c field with _ | adaptee
  · rfl
  · simp only [Option.bind_eq_bind, Option.bind_some]
    by_cases hcount : (c.delegations adaptee).length = 0
    · rw [if_pos hcount, if_pos hcount]
      rfl
    · rw [if_neg hcount, if_neg hcount]
      rcases adapterConfidence? known c adaptee with _ | confidence <;> rfl

theorem adapters_eq (known : Option Registry) (c : Class) :
    adapters known c = if c.isConcrete && !c.interfaces.isEmpty
      then c.instanceFields.filterMap (adapterFinding? known c) else [] := by
  unfold adapters
  rcases c.isConcrete with _ | _ <;> rcases c.interfaces.isEmpty with _ | _ <;> rfl

theorem targetsVerified_of_extends (h : wider.Extends known)
    (hverified : targetsVerified known c = true) : targetsVerified wider c = true := by
  rw [targetsVerified, List.all_eq_true] at hverified ⊢
  intro target htarget
  exact h.any_resolve? (hverified target htarget)

/-- `adapterConfidence?` for a wider registry implies one for a narrower registry, of at most the
same rank. -/
theorem adapterConfidence?_of_extends (h : wider.Extends known) {adaptee : String}
    {after : Confidence} (hafter : adapterConfidence? (some wider) c adaptee = some after) :
    ∃ before, adapterConfidence? (some known) c adaptee = some before ∧
      before.rank ≤ after.rank := by
  unfold adapterConfidence? at hafter ⊢
  dsimp only at hafter ⊢
  by_cases himplements : implementsTarget c (wider.resolve? adaptee) = true
  · rw [if_pos himplements] at hafter
    cases hafter
  · have hbefore : ¬ implementsTarget c (known.resolve? adaptee) = true :=
      mt h.any_resolve? himplements
    rw [if_neg himplements] at hafter
    rw [if_neg hbefore]
    -- the confidence is more than medium only if all targets are known, and those stay known
    by_cases hverified : targetsVerified known c = true
    · rw [if_pos (targetsVerified_of_extends h hverified)] at hafter
      obtain rfl := Option.some.inj hafter
      rw [if_pos hverified]
      exact ⟨_, rfl, h.confidence_le adaptee⟩
    · rw [if_neg hverified]
      refine ⟨_, rfl, ?_⟩
      split_ifs at hafter
      · obtain rfl := Option.some.inj hafter
        exact Registry.medium_le_confidence _
      · obtain rfl := Option.some.inj hafter
        exact le_rfl

/-- `adapterFinding?` for a wider registry implies one for a narrower registry, and is `Firmer`. -/
theorem adapterFinding?_of_extends (h : wider.Extends known) {finding : Finding}
    (hfinding : adapterFinding? (some wider) c field = some finding) :
    ∃ other, adapterFinding? (some known) c field = some other ∧ finding.Firmer other := by
  rw [adapterFinding?_eq] at hfinding ⊢
  obtain ⟨alone, halone, hafter⟩ := Option.bind_eq_some_iff.mp hfinding
  obtain ⟨after, hbind, rfl⟩ := Option.map_eq_some_iff.mp hafter
  obtain ⟨adaptee, hadaptee, hconfidence⟩ := Option.bind_eq_some_iff.mp hbind
  obtain ⟨before, hbefore, hle⟩ := adapterConfidence?_of_extends h hconfidence
  refine ⟨alone.withConfidence before, ?_, alone.firmer_withConfidence hle⟩
  rw [halone, hadaptee, Option.bind_some, Option.bind_some, hbefore, Option.map_some]

/-- `adapters` for no registry and for the empty one agree, since `resolve?` is `none` in either
case. -/
theorem adapters_nil (c : Class) : adapters (some (Registry.ofClasses [])) c = adapters none c := by
  rw [adapters_eq, adapters_eq]
  by_cases hguard : (c.isConcrete && !c.interfaces.isEmpty) = true
  · have htargets : targetsVerified (Registry.ofClasses []) c = false := by
      rcases hinterfaces : c.interfaces with _ | ⟨target, others⟩
      · simp [hinterfaces] at hguard
      · simp [targetsVerified, hinterfaces, Registry.resolve?_nil]
    have hconfidence : adapterConfidence? (some (Registry.ofClasses [])) c
        = adapterConfidence? none c := by
      funext adaptee
      simp [adapterConfidence?, Registry.resolve?_nil, implementsTarget, htargets]
    rw [if_pos hguard, if_pos hguard]
    congr 1
    funext field
    rw [adapterFinding?_eq, hconfidence, ← adapterFinding?_eq]
  · rw [if_neg hguard, if_neg hguard]

/-! ## Decorators -/

/-- `decoratorFinding?` depends on the registry only through `typeConfidence`. -/
theorem decoratorFinding?_eq (known : Option Registry) (c : Class) (field : Field) :
    decoratorFinding? known c field = (decoratorFinding? none c field).bind fun finding =>
      field.objectType?.map fun type => finding.withConfidence (typeConfidence known type) := by
  unfold decoratorFinding?
  rcases field.objectType? with _ | wrapped
  · rfl
  · simp only [Option.bind_eq_bind, Option.bind_some]
    split_ifs <;> rfl

theorem decoratorFinding?_of_extends (h : wider.Extends known) :
    Option.Rel Finding.Firmer (decoratorFinding? (some wider) c field)
      (decoratorFinding? (some known) c field) := by
  rw [decoratorFinding?_eq (some wider), decoratorFinding?_eq (some known)]
  rcases decoratorFinding? none c field with _ | alone
  · exact .none
  · rcases field.objectType? with _ | wrapped
    · exact .none
    · exact .some (alone.firmer_withConfidence (h.confidence_le wrapped))

theorem decorators_nil (c : Class) :
    decorators (some (Registry.ofClasses [])) c = decorators none c := by
  have hconfidence : typeConfidence (some (Registry.ofClasses [])) = typeConfidence none := by
    funext type
    simp [typeConfidence, Registry.resolve?_nil, Registry.confidence]
  unfold decorators
  congr 1
  congr 1
  funext field
  rw [decoratorFinding?_eq, hconfidence, ← decoratorFinding?_eq]

/-! ## More knowledge -/

theorem sublistForall₂_filterMap {α β : Type} {R : β → β → Prop} {f g : α → Option β}
    {values : List α} (h : ∀ a ∈ values, ∀ b, f a = some b → ∃ d, g a = some d ∧ R b d) :
    List.SublistForall₂ R (values.filterMap f) (values.filterMap g) := by
  induction values with
  | nil => exact .nil
  | cons a rest ih =>
    have hrest := ih fun b hb => h b (List.mem_cons_of_mem a hb)
    rw [List.filterMap_cons, List.filterMap_cons]
    rcases hf : f a with _ | b
    · rcases g a with _ | d
      · exact hrest
      · exact .cons_right hrest
    · obtain ⟨d, hg, hbd⟩ := h a List.mem_cons_self b hf
      rw [hg]
      exact .cons hbd hrest

/-- **A wider registry only refines the findings.**  `adapters` and `decorators` for no registry are
those for the empty one.  If `wider` `Extends` `known`, the decorators correspond one by one and are
`Firmer`, and the adapters are a sublist up to `Firmer`.  For every field, a finding with `wider` is
`Firmer` than one with `known`. -/
theorem delegation_refined (c : Class) :
    adapters none c = adapters (some (Registry.ofClasses [])) c ∧
    decorators none c = decorators (some (Registry.ofClasses [])) c ∧
    ∀ known wider : Registry, wider.Extends known →
      List.Forall₂ Finding.Firmer (decorators (some wider) c) (decorators (some known) c) ∧
      List.SublistForall₂ Finding.Firmer (adapters (some wider) c) (adapters (some known) c) ∧
      ∀ field finding, adapterFinding? (some wider) c field = some finding →
        ∃ other, adapterFinding? (some known) c field = some other ∧ finding.Firmer other := by
  refine ⟨(adapters_nil c).symm, (decorators_nil c).symm, fun known wider h => ⟨?_, ?_, ?_⟩⟩
  · unfold decorators
    by_cases hconcrete : c.isConcrete = true
    · rw [if_pos hconcrete, if_pos hconcrete]
      refine List.rel_filterMap (R := Eq) ?_ (List.forall₂_refl c.instanceFields)
      rintro field _ rfl
      exact decoratorFinding?_of_extends h
    · rw [if_neg hconcrete, if_neg hconcrete]
      exact .nil
  · rw [adapters_eq, adapters_eq]
    by_cases hguard : (c.isConcrete && !c.interfaces.isEmpty) = true
    · rw [if_pos hguard, if_pos hguard]
      exact sublistForall₂_filterMap fun field _ finding => adapterFinding?_of_extends h
    · rw [if_neg hguard, if_neg hguard]
      exact .nil
  · intro field finding
    exact adapterFinding?_of_extends h

/-- A call instruction without arguments. -/
def callOf (kind : CallKind) (owner name : String) : Instruction :=
  { offset := 0
    opcode := 0xb6
    operation := .call { owner, name, descriptor := "()V", kind, offset := 0 }
    line := none }

/-- An instance field with a descriptor. -/
def fieldOf (name descriptor : String) : Field :=
  { name, descriptor, access := {}, hasConstantValue := false }

/-- A class with an adapted field `player` and a decorated field `inner`. -/
def mediaAdapter : Class :=
  { Registry.outline "MediaAdapter" ["MediaPlayer"] with
    fields := [fieldOf "player" "LVlcPlayer;", fieldOf "inner" "LMediaPlayer;"]
    methods :=
      [{ name := "play"
         descriptor := "()V"
         access := {}
         instructions :=
           [callOf .virtual "VlcPlayer" "playVlc", callOf .interface "MediaPlayer" "play"]
         locals := [] }] }

/-- The interface of `mediaAdapter`. -/
def mediaPlayer : Class :=
  { Registry.outline "MediaPlayer" [] with access := { isInterface := true } }

/-- When `mediaPlayer` is known beside `VlcPlayer`, the confidence of the adapter rises to high. -/
theorem delegation_refined_mediaAdapter :
    let known := Registry.ofClasses [Registry.outline "VlcPlayer" []]
    let wider := Registry.ofClasses ([Registry.outline "VlcPlayer" []] ++ [mediaPlayer])
    wider.Extends known ∧
      List.SublistForall₂ Finding.Firmer (adapters (some wider) mediaAdapter)
        (adapters (some known) mediaAdapter) ∧
      adapterConfidence? (some known) mediaAdapter "VlcPlayer" = some .medium ∧
      adapterConfidence? (some wider) mediaAdapter "VlcPlayer" = some .high := by
  intro known wider
  have hextends : wider.Extends known := Registry.extends_append _ _
  refine ⟨hextends, ((delegation_refined mediaAdapter).2.2 known wider hextends).2.1, ?_, ?_⟩
  · simp only [adapterConfidence?, targetsVerified, known, Registry.resolve?_ofClasses]
    decide
  · simp only [adapterConfidence?, targetsVerified, wider, Registry.resolve?_ofClasses]
    decide

end Check

/-! ## Calls on a type -/

/-- The call is on `type` and no constructor call. -/
def CallSite.isOn (type : String) (site : CallSite) : Bool :=
  site.owner = type && site.name ≠ "<init>"

/-- The method without the calls that are `isOn` the type. -/
def Method.withoutCallsOn (method : Method) (type : String) : Method :=
  { method with
    instructions := method.instructions.filter fun instruction =>
      !instruction.operation.call?.any (CallSite.isOn type) }

theorem Method.calls_withoutCallsOn (method : Method) (type : String) :
    (method.withoutCallsOn type).calls = method.calls.filter (!·.isOn type) := by
  rw [calls, calls, operations, operations, withoutCallsOn, List.filterMap_map, List.filterMap_map,
    List.filterMap_filter, List.filter_filterMap]
  apply List.filterMap_congr
  intro instruction _
  simp only [Function.comp_apply]
  rcases instruction.operation.call? with _ | site
  · simp
  · by_cases hon : site.isOn type = true <;> simp [Option.filter_some, hon]

namespace Class

/-- A method of `c` other than a constructor has a call that is on `type` and builds no object. -/
def DelegatesTo (c : Class) (type : String) : Prop :=
  ∃ method ∈ c.methods, method.name ≠ "<init>" ∧ ∃ instruction ∈ method.instructions,
    ∃ site : CallSite, instruction.operation = .call site ∧ site.owner = type ∧
      site.name ≠ "<init>"

/-- `c` with `Method.withoutCallsOn` applied to every method that is no constructor. -/
def withoutCallsOn (c : Class) (type : String) : Class :=
  { c with
    methods := c.methods.map fun method =>
      if method.isConstructor then method else method.withoutCallsOn type }

variable {c : Class} {type : String}

theorem mem_delegations {site : CallSite} :
    site ∈ c.delegations type ↔ ∃ method ∈ c.methods, method.name ≠ "<init>" ∧
      (∃ instruction ∈ method.instructions, instruction.operation = .call site) ∧
      site.owner = type ∧ site.name ≠ "<init>" := by
  have hcall : ∀ operation : Operation, operation.call? = some site ↔ operation = .call site := by
    intro operation
    cases operation <;> simp [Operation.call?]
  simp only [delegations, Method.calls, Method.operations, Method.isConstructor, List.mem_filter,
    List.mem_flatMap, List.filterMap_map, List.mem_filterMap, Function.comp_apply, hcall,
    Bool.not_eq_true', decide_eq_false_iff_not, Bool.and_eq_true, decide_eq_true_eq]
  constructor
  · rintro ⟨⟨method, ⟨hmethod, hname⟩, hinstruction⟩, hsite⟩
    exact ⟨method, hmethod, hname, hinstruction, hsite⟩
  · rintro ⟨method, hmethod, hname, hinstruction, hsite⟩
    exact ⟨⟨method, ⟨hmethod, hname⟩, hinstruction⟩, hsite⟩

theorem delegations_ne_nil_iff : c.delegations type ≠ [] ↔ c.DelegatesTo type := by
  constructor
  · intro hne
    obtain ⟨site, hsite⟩ := List.exists_mem_of_ne_nil _ hne
    obtain ⟨method, hmethod, hname, ⟨instruction, hmem, hcall⟩, hsite⟩ := mem_delegations.mp hsite
    exact ⟨method, hmethod, hname, instruction, hmem, site, hcall, hsite⟩
  · rintro ⟨method, hmethod, hname, instruction, hmem, site, hcall, hsite⟩
    exact List.ne_nil_of_mem (mem_delegations.mpr
      ⟨method, hmethod, hname, ⟨instruction, hmem, hcall⟩, hsite⟩)

theorem filter_methods_withoutCallsOn (c : Class) (type : String) :
    (c.withoutCallsOn type).methods.filter (!·.isConstructor)
      = (c.methods.filter (!·.isConstructor)).map (·.withoutCallsOn type) := by
  rw [withoutCallsOn]
  induction c.methods with
  | nil => rfl
  | cons method rest ih =>
    rw [List.map_cons, List.filter_cons, List.filter_cons, ih]
    by_cases hconstructor : method.isConstructor = true
    · simp [hconstructor]
    · have hsame : (method.withoutCallsOn type).isConstructor = method.isConstructor := rfl
      simp [hconstructor, hsame]

/-- `delegations` after `withoutCallsOn`: none on `type`, and the same on any other type. -/
theorem delegations_withoutCallsOn (c : Class) (type other : String) :
    (c.withoutCallsOn type).delegations other
      = if other = type then [] else c.delegations other := by
  have hcalls : ((c.methods.filter (!·.isConstructor)).map
        (·.withoutCallsOn type)).flatMap Method.calls
      = ((c.methods.filter (!·.isConstructor)).flatMap Method.calls).filter (!·.isOn type) := by
    rw [List.flatMap_map, List.filter_flatMap]
    simp only [Method.calls_withoutCallsOn]
  rw [delegations, filter_methods_withoutCallsOn, hcalls, List.filter_filter]
  split_ifs with hother
  · subst hother
    rw [List.filter_eq_nil_iff]
    intro site _
    simp [CallSite.isOn]
  · apply List.filter_congr
    intro site _
    by_cases howner : site.owner = other
    · simp [CallSite.isOn, howner, hother]
    · simp [howner]

theorem not_delegatesTo_withoutCallsOn (c : Class) (type : String) :
    ¬ (c.withoutCallsOn type).DelegatesTo type := by
  rw [← delegations_ne_nil_iff, delegations_withoutCallsOn, if_pos rfl]
  exact not_not_intro rfl

end Class

namespace Check

variable {c : Class} {field : Field}

/-! ## Reported fields -/

/-- Erasing `field` lowers the number of findings of `detect`. -/
def Reports (detect : Class → List Finding) (c : Class) (field : Field) : Prop :=
  (detect { c with fields := c.fields.erase field }).length < (detect c).length

theorem length_filterMap_erase_lt {α β : Type} [DecidableEq α] (f : α → Option β) (values : List α)
    (a : α) :
    ((values.erase a).filterMap f).length < (values.filterMap f).length ↔
      a ∈ values ∧ (f a).isSome = true := by
  by_cases ha : a ∈ values
  · rw [((List.perm_cons_erase ha).filterMap f).length_eq, List.filterMap_cons]
    rcases f a with _ | b <;> simp [ha]
  · simp [List.erase_of_not_mem ha, ha]

theorem filterMap_instanceFields (c : Class) (f : Field → Option Finding) :
    c.instanceFields.filterMap f
      = c.fields.filterMap fun field => if field.isInstance then f field else none := by
  rw [Class.instanceFields, List.filterMap_filter]

/-- `Reports` for a check that filters `instanceFields` through `f`: the fields on which `f` has a
finding. -/
theorem reports_iff {detect : Class → List Finding} {guard : Bool} {f : Field → Option Finding}
    (hdetect : ∀ fields, detect { c with fields }
      = if guard then ({ c with fields } : Class).instanceFields.filterMap f else []) :
    Reports detect c field ↔
      guard = true ∧ field ∈ c.instanceFields ∧ (f field).isSome = true := by
  have hself := hdetect c.fields
  have hmem : field ∈ c.instanceFields ↔ field ∈ c.fields ∧ field.isInstance = true :=
    List.mem_filter
  rw [Reports, hdetect, show detect c = _ from hself]
  rcases guard with _ | _
  · simp
  · simp only [if_true, filterMap_instanceFields, length_filterMap_erase_lt, hmem]
    by_cases hinstance : field.isInstance = true <;> simp [hinstance]

/-- `adapterFinding?` exists iff the field has an `adaptee?` that the class `DelegatesTo` and
`adapterConfidence?` does not rule out. -/
theorem isSome_adapterFinding?_iff {known : Option Registry} :
    (adapterFinding? known c field).isSome = true ↔ ∃ type, adaptee? c field = some type ∧
      c.DelegatesTo type ∧ (adapterConfidence? known c type).isSome = true := by
  unfold adapterFinding?
  rcases adaptee? c field with _ | type
  · simp
  · simp only [Option.bind_eq_bind, Option.bind_some, Option.some.injEq, exists_eq_left',
      ← Class.delegations_ne_nil_iff, ← List.length_pos_iff]
    by_cases hcount : (c.delegations type).length = 0
    · simp [hcount]
    · rcases adapterConfidence? known c type with _ | confidence <;>
        simp [hcount, Nat.pos_of_ne_zero]

/-- `decoratorFinding?` exists iff the type of the field is a supertype of the class that it
`DelegatesTo`. -/
theorem isSome_decoratorFinding?_iff {known : Option Registry} :
    (decoratorFinding? known c field).isSome = true ↔ ∃ type, field.objectType? = some type ∧
      type ∈ c.supertypes ∧ c.DelegatesTo type := by
  unfold decoratorFinding?
  rcases field.objectType? with _ | type
  · simp
  · simp only [Option.bind_eq_bind, Option.bind_some, Option.some.injEq, exists_eq_left',
      ← Class.delegations_ne_nil_iff, ← List.length_pos_iff]
    by_cases hsuper : type ∈ c.supertypes <;> by_cases hcount : (c.delegations type).length = 0 <;>
      simp [hsuper, hcount, Nat.pos_of_ne_zero]

theorem reports_adapters_iff {known : Option Registry} :
    Reports (adapters known) c field ↔ (c.isConcrete && !c.interfaces.isEmpty) = true ∧
      field ∈ c.instanceFields ∧ ∃ type, adaptee? c field = some type ∧ c.DelegatesTo type ∧
        (adapterConfidence? known c type).isSome = true := by
  rw [← isSome_adapterFinding?_iff]
  exact reports_iff fun fields => adapters_eq known { c with fields }

theorem reports_decorators_iff {known : Option Registry} :
    Reports (decorators known) c field ↔ c.isConcrete = true ∧ field ∈ c.instanceFields ∧
      ∃ type, field.objectType? = some type ∧ type ∈ c.supertypes ∧ c.DelegatesTo type := by
  rw [← isSome_decoratorFinding?_iff]
  exact reports_iff fun _ => rfl

/-! ## What the two checks have in common -/

theorem objectType?_of_adaptee? {type : String} (h : adaptee? c field = some type) :
    field.objectType? = some type ∧ isRelated c type = false := by
  obtain ⟨htype, hother⟩ := Option.filter_eq_some_iff.mp h
  rw [Bool.and_eq_true, Bool.not_eq_true'] at hother
  exact ⟨htype, hother.1⟩

theorem isRelated_of_mem_supertypes {type : String} (h : type ∈ c.supertypes) :
    isRelated c type = true := by
  rw [Class.supertypes, List.mem_append, Option.mem_toList] at h
  rcases h with hsuper | hinterface
  · have hname := (Option.filter_eq_some_iff.mp hsuper).1
    simp [isRelated, hname]
  · simp [isRelated, Class.implements, hinterface]

theorem adapterFinding?_withoutCallsOn (known : Option Registry) (c : Class) (type : String)
    (field : Field) :
    adapterFinding? known (c.withoutCallsOn type) field
      = if field.objectType? = some type then none else adapterFinding? known c field := by
  have hsame : adaptee? (c.withoutCallsOn type) field = adaptee? c field := rfl
  unfold adapterFinding?
  rw [hsame]
  rcases hadaptee : adaptee? c field with _ | adaptee
  · simp
  · have htype := (Option.filter_eq_some_iff.mp hadaptee).1
    simp only [Option.bind_eq_bind, Option.bind_some, Class.delegations_withoutCallsOn, htype]
    by_cases hadapted : adaptee = type
    · simp [hadapted]
    · simp only [hadapted, Option.some.injEq, if_false]
      rfl

theorem decoratorFinding?_withoutCallsOn (known : Option Registry) (c : Class) (type : String)
    (field : Field) :
    decoratorFinding? known (c.withoutCallsOn type) field
      = if field.objectType? = some type then none else decoratorFinding? known c field := by
  unfold decoratorFinding?
  rcases field.objectType? with _ | wrapped
  · simp
  · simp only [Option.bind_eq_bind, Option.bind_some, Class.delegations_withoutCallsOn]
    by_cases hwrapped : wrapped = type
    · simp [hwrapped]
    · simp only [hwrapped, Option.some.injEq, if_false]
      rfl

/-- Suppressing the findings on the fields of `type` is dropping these fields. -/
theorem filterMap_instanceFields_filter (c : Class) (type : String) (f : Field → Option Finding) :
    c.instanceFields.filterMap
        (fun field => if field.objectType? = some type then none else f field)
      = ({ c with fields := c.fields.filter (·.objectType? ≠ some type) } :
          Class).instanceFields.filterMap f := by
  rw [filterMap_instanceFields, filterMap_instanceFields]
  dsimp only
  rw [List.filterMap_filter]
  apply List.filterMap_congr
  intro field _
  by_cases htype : field.objectType? = some type <;> simp [htype]

theorem adapters_withoutCallsOn (known : Option Registry) (c : Class) (type : String) :
    adapters known (c.withoutCallsOn type)
      = adapters known { c with fields := c.fields.filter (·.objectType? ≠ some type) } := by
  rw [adapters_eq, adapters_eq, funext (adapterFinding?_withoutCallsOn known c type)]
  exact if_congr Iff.rfl (filterMap_instanceFields_filter c type _) rfl

theorem decorators_withoutCallsOn (known : Option Registry) (c : Class) (type : String) :
    decorators known (c.withoutCallsOn type)
      = decorators known { c with fields := c.fields.filter (·.objectType? ≠ some type) } := by
  rw [decorators, decorators, funext (decoratorFinding?_withoutCallsOn known c type)]
  exact if_congr Iff.rfl (filterMap_instanceFields_filter c type _) rfl

theorem type?_of_objectType? {type : String} (h : field.objectType? = some type) :
    field.type? = some (.simple (.object type)) := by
  obtain ⟨descriptor, hdescriptor, hname⟩ := Option.bind_eq_some_iff.mp h
  rw [hdescriptor]
  unfold TypeDescriptor.internalName? at hname
  split at hname
  · rw [Option.some.inj hname]
  · cases hname

/-- **No field is both adapted and decorated.**  `adapters` and `decorators` never both `Reports` a
field, whatever registry either is given.  The type of a field that one of them reports is an object
type that the class `DelegatesTo`.  After `withoutCallsOn` this type the field is not reported, and
the findings are those of the class without the fields of that type. -/
theorem delegation_exclusive (c : Class) (field : Field) (known known' : Option Registry) :
    ¬ (Reports (adapters known) c field ∧ Reports (decorators known') c field) ∧
    ∀ detect ∈ [adapters known, decorators known'], Reports detect c field →
      ∃ type, field.type? = some (.simple (.object type)) ∧ c.DelegatesTo type ∧
        ¬ (c.withoutCallsOn type).DelegatesTo type ∧
        ¬ Reports detect (c.withoutCallsOn type) field ∧
        detect (c.withoutCallsOn type)
          = detect { c with fields := c.fields.filter (·.objectType? ≠ some type) } := by
  refine ⟨?_, ?_⟩
  · rintro ⟨hadapter, hdecorator⟩
    obtain ⟨-, -, type, hadaptee, -⟩ := reports_adapters_iff.mp hadapter
    obtain ⟨-, -, wrapped, hwrapped, hsuper, -⟩ := reports_decorators_iff.mp hdecorator
    obtain ⟨htype, hunrelated⟩ := objectType?_of_adaptee? hadaptee
    obtain rfl : type = wrapped := Option.some.inj (htype.symm.trans hwrapped)
    -- a decorator wraps one of its supertypes, and no type related to the class is adapted
    rw [isRelated_of_mem_supertypes hsuper] at hunrelated
    cases hunrelated
  · simp only [List.forall_mem_cons, List.not_mem_nil, false_imp_iff, implies_true, and_true]
    refine ⟨fun hreports => ?_, fun hreports => ?_⟩
    · obtain ⟨-, -, type, hadaptee, hdelegates, -⟩ := reports_adapters_iff.mp hreports
      have htype := (objectType?_of_adaptee? hadaptee).1
      refine ⟨type, type?_of_objectType? htype, hdelegates, c.not_delegatesTo_withoutCallsOn type,
        ?_, adapters_withoutCallsOn known c type⟩
      intro hstill
      obtain ⟨-, -, other, hother, hcalls, -⟩ := reports_adapters_iff.mp hstill
      obtain rfl : type = other :=
        Option.some.inj (htype.symm.trans (objectType?_of_adaptee? hother).1)
      exact c.not_delegatesTo_withoutCallsOn type hcalls
    · obtain ⟨-, -, type, htype, -, hdelegates⟩ := reports_decorators_iff.mp hreports
      refine ⟨type, type?_of_objectType? htype, hdelegates, c.not_delegatesTo_withoutCallsOn type,
        ?_, decorators_withoutCallsOn known' c type⟩
      intro hstill
      obtain ⟨-, -, other, hother, -, hcalls⟩ := reports_decorators_iff.mp hstill
      obtain rfl : type = other := Option.some.inj (htype.symm.trans hother)
      exact c.not_delegatesTo_withoutCallsOn type hcalls

/-- `mediaAdapter` has a field of either kind. -/
theorem delegation_exclusive_mediaAdapter :
    (Reports (adapters none) mediaAdapter (fieldOf "player" "LVlcPlayer;") ∧
      ¬ Reports (decorators none) mediaAdapter (fieldOf "player" "LVlcPlayer;")) ∧
    Reports (decorators none) mediaAdapter (fieldOf "inner" "LMediaPlayer;") ∧
      ¬ Reports (adapters none) mediaAdapter (fieldOf "inner" "LMediaPlayer;") := by
  have hadapter : Reports (adapters none) mediaAdapter (fieldOf "player" "LVlcPlayer;") := by
    refine reports_adapters_iff.mpr ⟨rfl, List.mem_cons_self, "VlcPlayer",
      Option.filter_eq_some_iff.mpr ⟨by cbv, by decide⟩, ?_, rfl⟩
    exact ⟨_, List.mem_cons_self, by decide, _, List.mem_cons_self, _, rfl, rfl, by decide⟩
  have hdecorator : Reports (decorators none) mediaAdapter (fieldOf "inner" "LMediaPlayer;") := by
    refine reports_decorators_iff.mpr ⟨rfl, List.mem_cons_of_mem _ List.mem_cons_self,
      "MediaPlayer", by cbv, by decide, ?_⟩
    exact ⟨_, List.mem_cons_self, by decide, _, List.mem_cons_of_mem _ List.mem_cons_self, _, rfl,
      rfl, by decide⟩
  have hplayer := (delegation_exclusive mediaAdapter (fieldOf "player" "LVlcPlayer;") none none).1
  have hinner := (delegation_exclusive mediaAdapter (fieldOf "inner" "LMediaPlayer;") none none).1
  exact ⟨⟨hadapter, fun h => hplayer ⟨hadapter, h⟩⟩, hdecorator, fun h => hinner ⟨h, hdecorator⟩⟩

end Check

end ClassAudit
