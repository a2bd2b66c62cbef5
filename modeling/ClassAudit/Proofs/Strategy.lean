import ClassAudit.Analyzer
import ClassAudit.Proofs.Delegation
import Mathlib

/-!
# Fields of interface types

What the check for strategies finds on a field is decided by three questions: which class the type
of the field means, how many classes implement it, and whether it is ever called.  Each field has
one verdict.  Further classes with names of their own answer the first question as before and leave
the third one alone, so all they can do to a field of a known interface is to make its main finding
milder.

## Shape of the proof

The number of implementations is the size of a set of names (`implementations`), which a registry
lists without repetition (`length_implementers`).  The set grows with the classes and the severity
falls with its size.
-/

namespace ClassAudit

/-! ## Plain names -/

/-- The name has no dots and is not of the form `L…;`. -/
structure TypeName.Plain (name : String) : Prop where
  undotted : '.' ∉ name.toList
  unwrapped : ∀ inner, inner ≠ "" → name ≠ "L" ++ inner ++ ";"

theorem TypeName.Plain.internal_eq {name : String} (h : Plain name) : internal name = name := by
  have hunwrapped : unwrapped? name.toList = none := by
    unfold unwrapped?
    split
    next rest hname =>
      rw [if_neg]
      rintro ⟨hlast, hinner⟩
      refine h.unwrapped (String.ofList rest.dropLast) (by simpa using hinner) ?_
      rw [← String.toList_inj, hname]
      simpa using (List.dropLast_append_getLast? ';' hlast).symm
    next => rfl
  rw [internal, hunwrapped, Option.getD_none, String.ofList_toList, substitute_dots h.undotted]

/-! ## More classes -/

/-- `wider` is `classes` with classes of other names inserted anywhere. -/
def Grown (classes wider : List Class) : Prop :=
  wider.filter (fun c => c.name ∈ classes.map Class.name) = classes

variable {classes wider : List Class}

theorem FirstOfName.mem {c : Class} (h : FirstOfName classes c) : c ∈ classes := by
  obtain ⟨before, after, rfl, -⟩ := h
  simp

/-- `FirstOfName` is preserved by `Grown`. -/
theorem FirstOfName.of_grown {c : Class} (hgrown : Grown classes wider)
    (h : FirstOfName classes c) : FirstOfName wider c := by
  have hname : c.name ∈ classes.map Class.name := List.mem_map_of_mem h.mem
  have hfind : classes.find? (·.name = c.name) = some c := find?_name_eq_some_iff.mpr ⟨rfl, h⟩
  have hsame : wider.find? (·.name = c.name) = classes.find? (·.name = c.name) := by
    conv_rhs => rw [← hgrown, List.find?_filter]
    congr 1
    funext d
    -- a class of this name is not one of those that were put in
    by_cases hd : d.name = c.name
    · rw [hd]
      simpa using hname
    · simp [hd]
  exact (find?_name_eq_some_iff.mp (hsame.trans hfind)).2

/-! ## Implementations -/

/-- The names whose first class is no interface and implements `interfaceName`. -/
def implementations (classes : List Class) (interfaceName : String) : Finset String :=
  (classes.map Class.name).toFinset.filter fun name =>
    (classes.find? (·.name = name)).any fun c => !c.isInterface && c.implements interfaceName

theorem mem_implementations {interfaceName name : String} :
    name ∈ implementations classes interfaceName ↔ ∃ c, FirstOfName classes c ∧ c.name = name ∧
      c.isInterface = false ∧ interfaceName ∈ c.interfaces := by
  rw [implementations, Finset.mem_filter, List.mem_toFinset, Option.any_eq_true]
  simp only [find?_name_eq_some_iff, Class.implements, Bool.and_eq_true, Bool.not_eq_true',
    List.contains_eq_mem, decide_eq_true_eq]
  constructor
  · rintro ⟨-, c, ⟨hname, hfirst⟩, hclass, himplements⟩
    exact ⟨c, hfirst, hname, hclass, himplements⟩
  · rintro ⟨c, hfirst, hname, hclass, himplements⟩
    exact ⟨hname ▸ List.mem_map_of_mem hfirst.mem, c, ⟨hname, hfirst⟩, hclass, himplements⟩

/-- `implementations` grows with `Grown`. -/
theorem implementations_subset (hgrown : Grown classes wider) (interfaceName : String) :
    implementations classes interfaceName ⊆ implementations wider interfaceName := by
  intro name hname
  obtain ⟨c, hfirst, hrest⟩ := mem_implementations.mp hname
  exact mem_implementations.mpr ⟨c, hfirst.of_grown hgrown, hrest⟩

/-- `implementers` lists one class per name in `implementations`, for a `Plain` interface name. -/
theorem length_implementers {interfaceName : String} (hplain : TypeName.Plain interfaceName) :
    ((Registry.ofClasses classes).implementers interfaceName).length
      = (implementations classes interfaceName).card := by
  have hnames := ((Registry.rising_ofClasses classes).filter fun c => !c.isInterface &&
    c.implements (TypeName.internal interfaceName)).nodup_names
  rw [← List.length_map Class.name, Registry.implementers, ← List.toFinset_card_of_nodup hnames]
  congr 1
  ext name
  rw [List.mem_toFinset, List.mem_map, mem_implementations]
  constructor
  · rintro ⟨c, hmem, hname⟩
    obtain ⟨hfirst, hclass, himplements⟩ := Registry.mem_implementers.mp hmem
    exact ⟨c, hfirst, hname, hclass, hplain.internal_eq ▸ himplements⟩
  · rintro ⟨c, hfirst, hname, hclass, himplements⟩
    refine ⟨c, Registry.mem_implementers.mpr ⟨hfirst, hclass, ?_⟩, hname⟩
    rwa [hplain.internal_eq]

namespace Check

variable {c strategy : Class} {field : Field} {type : String}

/-! ## Verdicts on a field -/

/-- `field` is an instance field that is not synthetic, of the object type `type`, which is neither
a platform type nor `c`. -/
structure StrategyField (c : Class) (field : Field) (type : String) : Prop where
  owned : field.access.isStatic = false
  written : field.access.isSynthetic = false
  typed : field.type? = some (.simple (.object type))
  foreign : ∀ lead ∈ ["java/", "javax/", "jdk/", "sun/", "kotlin/", "scala/"],
    ¬ lead.toList <+: type.toList
  other : type ≠ c.name

/-- `meant` is the first class of the internal name of `type`. -/
def Means (classes : List Class) (type : String) (meant : Class) : Prop :=
  meant.name = TypeName.internal type ∧ FirstOfName classes meant

/-- A method of `c` has a call on `type`. -/
def CallsOn (c : Class) (type : String) : Prop :=
  ∃ method ∈ c.methods, ∃ instruction ∈ method.instructions, ∃ site : CallSite,
    instruction.operation = .call site ∧ site.owner = type

/-- The severity of the main finding by the number of implementations. -/
def strategySeverity : Nat → Severity
  | 0 => .error
  | 1 => .warning
  | _ => .info

/-- `finding` is one of `STRATEGY_PATTERN` on `field`, of the given severity and confidence. -/
structure OnField (c : Class) (field : Field) (severity : Severity) (confidence : Confidence)
    (finding : Finding) : Prop where
  check : finding.check = "STRATEGY_PATTERN"
  location : finding.location = { className := c.dottedName, member := some field.name }
  severity : finding.severity = severity
  confidence : finding.confidence = some confidence

/-- The main finding on a field of type `strategy`. -/
abbrev MainFinding (classes : List Class) (c : Class) (field : Field) (strategy : Class)
    (finding : Finding) : Prop :=
  OnField c field (strategySeverity (implementations classes strategy.name).card) .high finding

/-- The findings on a field, by what its type means among `classes`. -/
inductive StrategyVerdict (classes : List Class) (c : Class) (field : Field) : List Finding → Prop
  /-- The field is no `StrategyField`. -/
  | passed (h : ∀ type, ¬ StrategyField c field type) : StrategyVerdict classes c field []
  | unknown {type : String} {finding : Finding} (h : StrategyField c field type)
      (hunknown : ∀ known ∈ classes, known.name ≠ TypeName.internal type)
      (hfinding : OnField c field .error .medium finding) :
      StrategyVerdict classes c field [finding]
  /-- The type means a class that is no interface. -/
  | fixed {type : String} {meant : Class} (h : StrategyField c field type)
      (hmeans : Means classes type meant) (hclass : meant.isInterface = false) :
      StrategyVerdict classes c field []
  | invoked {type : String} {strategy : Class} {main : Finding} (h : StrategyField c field type)
      (hmeans : Means classes type strategy) (hinterface : strategy.isInterface = true)
      (hmain : MainFinding classes c field strategy main) (hcalls : CallsOn c strategy.name) :
      StrategyVerdict classes c field [main]
  | idle {type : String} {strategy : Class} {main idle : Finding} (h : StrategyField c field type)
      (hmeans : Means classes type strategy) (hinterface : strategy.isInterface = true)
      (hmain : MainFinding classes c field strategy main) (hcalls : ¬ CallsOn c strategy.name)
      (hidle : OnField c field .warning .medium idle) :
      StrategyVerdict classes c field [main, idle]

/-! ## The parts of the check -/

theorem objectType?_eq_some_iff :
    field.objectType? = some type ↔ field.type? = some (.simple (.object type)) := by
  refine ⟨type?_of_objectType?, fun htype => ?_⟩
  rw [Field.objectType?, htype]
  rfl

theorem isPlatform_eq_false_iff :
    TypeName.isPlatform type = false ↔
      ∀ lead ∈ ["java/", "javax/", "jdk/", "sun/", "kotlin/", "scala/"],
        ¬ lead.toList <+: type.toList := by
  rw [TypeName.isPlatform, List.any_eq_false]
  simp only [Text.startsWith, List.isPrefixOf_iff_prefix]

theorem strategyField_iff :
    StrategyField c field type ↔ field.isInstance = true ∧ strategyType? c field = some type := by
  rw [strategyType?, Option.filter_eq_some_iff, objectType?_eq_some_iff, Field.isInstance]
  simp only [Bool.and_eq_true, Bool.not_eq_true', isPlatform_eq_false_iff, decide_eq_true_eq]
  constructor
  · rintro ⟨howned, hwritten, htyped, hforeign, hother⟩
    exact ⟨⟨howned, hwritten⟩, htyped, hforeign, hother⟩
  · rintro ⟨⟨howned, hwritten⟩, htyped, hforeign, hother⟩
    exact ⟨howned, hwritten, htyped, hforeign, hother⟩

theorem any_calls_owner_iff :
    c.calls.any (·.owner = type) = true ↔ CallsOn c type := by
  simp only [List.any_eq_true, Class.calls, List.mem_flatMap, Method.mem_calls, decide_eq_true_eq,
    CallsOn]
  constructor
  · rintro ⟨site, ⟨method, hmethod, instruction, hmem, hcall⟩, howner⟩
    exact ⟨method, hmethod, instruction, hmem, site, hcall, howner⟩
  · rintro ⟨method, hmethod, instruction, hmem, site, hcall, howner⟩
    exact ⟨site, ⟨method, hmethod, instruction, hmem, hcall⟩, howner⟩

theorem resolve?_eq_some_iff_means {meant : Class} :
    (Registry.ofClasses classes).resolve? type = some meant ↔ Means classes type meant := by
  rw [Registry.resolve?_ofClasses, find?_name_eq_some_iff, Means]

theorem mainFinding_implementationFinding (classes : List Class)
    (hplain : TypeName.Plain strategy.name) (c : Class) (field : Field) :
    MainFinding classes c field strategy
      (implementationFinding (Registry.ofClasses classes) c field strategy) := by
  rw [MainFinding, ← length_implementers hplain]
  unfold implementationFinding
  rcases (Registry.ofClasses classes).implementers strategy.name with _ | ⟨one, _ | ⟨two, more⟩⟩
  · exact ⟨rfl, rfl, rfl, rfl⟩
  · exact ⟨rfl, rfl, rfl, rfl⟩
  · exact ⟨rfl, rfl, rfl, rfl⟩

theorem strategySeverity_antitone {fewer more : Nat} (h : fewer ≤ more) :
    (strategySeverity more).rank ≤ (strategySeverity fewer).rank := by
  match fewer, more with
  | 0, 0 => exact le_rfl
  | 0, 1 => decide
  | 0, _ + 2 => exact Nat.zero_le _
  | 1, 1 => exact le_rfl
  | 1, _ + 2 => exact Nat.zero_le _
  | _ + 2, _ + 2 => exact le_rfl

theorem idleStrategyFinding?_eq_none_iff (field : Field) :
    idleStrategyFinding? c field strategy = none ↔ CallsOn c strategy.name := by
  rw [← any_calls_owner_iff, idleStrategyFinding?]
  by_cases hcalls : c.calls.any (·.owner = strategy.name) = true
  · simp [hcalls]
  · simp [hcalls]

theorem onField_of_idleStrategyFinding? {finding : Finding}
    (h : idleStrategyFinding? c field strategy = some finding) :
    OnField c field .warning .medium finding := by
  unfold idleStrategyFinding? at h
  dsimp only at h
  split_ifs at h
  obtain rfl := Option.some.inj h
  exact ⟨rfl, rfl, rfl, rfl⟩

/-! ## Field by field -/

/-- The findings of `strategies` on `c` with `field` as its only field. -/
def strategyFindingsOn (classes : List Class) (c : Class) (field : Field) : List Finding :=
  strategies (some (Registry.ofClasses classes)) { c with fields := [field] }

theorem strategyFindingsOn_eq (classes : List Class) (hclass : c.isInterface = false)
    (field : Field) :
    strategyFindingsOn classes c field
      = if field.isInstance then strategyFieldFindings (Registry.ofClasses classes) c field
        else [] := by
  have hsame : ({ c with fields := [field] } : Class).isInterface = false := hclass
  rw [strategyFindingsOn, strategies, hsame, Class.instanceFields]
  by_cases hinstance : field.isInstance = true
  · rw [if_pos hinstance, List.filter_cons_of_pos hinstance]
    simp only [List.filter_nil, List.flatMap_singleton]
    rfl
  · rw [if_neg hinstance, List.filter_cons_of_neg hinstance]
    rfl

theorem strategies_eq_flatMap (classes : List Class) (hclass : c.isInterface = false) :
    strategies (some (Registry.ofClasses classes)) c
      = c.fields.flatMap (strategyFindingsOn classes c) := by
  rw [strategies, hclass, Class.instanceFields]
  induction c.fields with
  | nil => rfl
  | cons field rest ih =>
    rw [List.flatMap_cons, ← ih, strategyFindingsOn_eq classes hclass, List.filter_cons]
    by_cases hinstance : field.isInstance = true
    · simp [hinstance]
    · simp [hinstance]

/-- The finding on a field whose type does not resolve. -/
def unknownTypeFinding (c : Class) (field : Field) (type : String) : Finding :=
  { check := "STRATEGY_PATTERN"
    severity := .error
    message := "Field '" ++ field.name ++ "' has type '" ++ TypeName.dotted type
      ++ "', which was not found in the analyzed set"
    location := c.memberLocation field.name
    confidence := some .medium }

/-- `strategyFindingsOn` for a `StrategyField`, by what `resolve?` gives. -/
theorem strategyFindingsOn_of_strategyField (hclass : c.isInterface = false)
    (hfield : StrategyField c field type) :
    strategyFindingsOn classes c field
      = ((Registry.ofClasses classes).resolve? type).elim [unknownTypeFinding c field type]
          fun meant => if meant.isInterface
            then implementationFinding (Registry.ofClasses classes) c field meant
              :: (idleStrategyFinding? c field meant).toList
            else [] := by
  obtain ⟨hinstance, htype⟩ := strategyField_iff.mp hfield
  rw [strategyFindingsOn_eq classes hclass, if_pos hinstance, strategyFieldFindings, htype]
  dsimp only
  rcases (Registry.ofClasses classes).resolve? type with _ | meant <;> rfl

theorem strategyFindingsOn_interface (hclass : c.isInterface = false)
    (hfield : StrategyField c field type) (hmeans : Means classes type strategy)
    (hinterface : strategy.isInterface = true) :
    strategyFindingsOn classes c field
      = implementationFinding (Registry.ofClasses classes) c field strategy
        :: (idleStrategyFinding? c field strategy).toList := by
  rw [strategyFindingsOn_of_strategyField hclass hfield, resolve?_eq_some_iff_means.mpr hmeans,
    Option.elim_some, if_pos hinterface]

theorem strategyFindingsOn_eq_nil (classes : List Class) (hclass : c.isInterface = false)
    (hpassed : ∀ type, ¬ StrategyField c field type) : strategyFindingsOn classes c field = [] := by
  rw [strategyFindingsOn_eq classes hclass]
  split_ifs with hinstance
  · rw [strategyFieldFindings]
    rcases htype : strategyType? c field with _ | type
    · rfl
    · exact absurd (strategyField_iff.mpr ⟨hinstance, htype⟩) (hpassed type)
  · rfl

theorem strategyVerdict_strategyFindingsOn (hplain : ∀ known ∈ classes, TypeName.Plain known.name)
    (hclass : c.isInterface = false) (field : Field) :
    StrategyVerdict classes c field (strategyFindingsOn classes c field) := by
  by_cases hlooked : ∃ type, StrategyField c field type
  · obtain ⟨type, hfield⟩ := hlooked
    rw [strategyFindingsOn_of_strategyField hclass hfield]
    rcases hresolved : (Registry.ofClasses classes).resolve? type with _ | meant
    · refine .unknown hfield ?_ ⟨rfl, rfl, rfl, rfl⟩
      rw [Registry.resolve?_ofClasses, List.find?_eq_none] at hresolved
      simpa using hresolved
    · have hmeans := resolve?_eq_some_iff_means.mp hresolved
      rw [Option.elim_some]
      split_ifs with hinterface
      · have hmain := mainFinding_implementationFinding classes (hplain meant hmeans.2.mem) c field
        rcases hidle : idleStrategyFinding? c field meant with _ | idle
        · have hcalls := (idleStrategyFinding?_eq_none_iff field).mp hidle
          exact .invoked hfield hmeans hinterface hmain hcalls
        · refine .idle hfield hmeans hinterface hmain ?_ (onField_of_idleStrategyFinding? hidle)
          rw [← idleStrategyFinding?_eq_none_iff field, hidle]
          exact Option.some_ne_none idle
      · exact .fixed hfield hmeans (Bool.eq_false_iff.mpr hinterface)
  · have hpassed := not_exists.mp hlooked
    rw [strategyFindingsOn_eq_nil classes hclass hpassed]
    exact .passed hpassed

/-- **Each field has one verdict, and more classes make it milder.**  Let all known names be
`Plain`.  The findings on a class that is no interface are `strategyFindingsOn` its fields, in
order, and each satisfies `StrategyVerdict`: for a `StrategyField` whose type means an interface one
`MainFinding`, followed by another iff the class does not `CallsOn` it; one error for an unknown
type; none for a class that is no interface.  For `Grown` classes, a field of a known interface
keeps its second finding or has none as before, and the severity of its main finding does not rise.
-/
theorem strategies_classified (criteria : Criteria) (classes : List Class)
    (hplain : ∀ known ∈ classes, TypeName.Plain known.name) (c : Class)
    (hclass : c.isInterface = false) :
    strategyPattern.run criteria (some (Registry.ofClasses classes)) c
      = c.fields.flatMap (strategyFindingsOn classes c) ∧
    (∀ field ∈ c.fields, StrategyVerdict classes c field (strategyFindingsOn classes c field)) ∧
    ∀ wider, Grown classes wider →
      strategyPattern.run criteria (some (Registry.ofClasses wider)) c
        = c.fields.flatMap (strategyFindingsOn wider c) ∧
      ∀ field ∈ c.fields, ∀ type strategy, StrategyField c field type →
        Means classes type strategy → strategy.isInterface = true →
          ∃ main main' idle,
            strategyFindingsOn classes c field = main :: idle ∧
            strategyFindingsOn wider c field = main' :: idle ∧
            MainFinding classes c field strategy main ∧
            MainFinding wider c field strategy main' ∧
            main'.severity.rank ≤ main.severity.rank := by
  refine ⟨strategies_eq_flatMap classes hclass,
    fun field _ => strategyVerdict_strategyFindingsOn hplain hclass field, fun wider hgrown =>
    ⟨strategies_eq_flatMap wider hclass, fun field _ type strategy hfield hmeans hinterface => ?_⟩⟩
  have hmeans' : Means wider type strategy := ⟨hmeans.1, hmeans.2.of_grown hgrown⟩
  have hname := hplain strategy hmeans.2.mem
  have hmain := mainFinding_implementationFinding classes hname c field
  have hmain' := mainFinding_implementationFinding wider hname c field
  refine ⟨_, _, _, strategyFindingsOn_interface hclass hfield hmeans hinterface,
    strategyFindingsOn_interface hclass hfield hmeans' hinterface, hmain, hmain', ?_⟩
  rw [hmain.severity, hmain'.severity]
  apply strategySeverity_antitone
  exact Finset.card_le_card (implementations_subset hgrown strategy.name)

/-- A class with a field of type `Order` on which it makes no call. -/
def sorter : Class :=
  { Registry.outline "Sorter" [] with
    fields := [fieldOf "items" "Ljava/util/List;", fieldOf "order" "LOrder;"] }

/-- The interface `Order`. -/
def sortOrder : Class :=
  { Registry.outline "Order" [] with access := { isInterface := true } }

/-- With one implementation of `Order` the main finding is a warning.  A second one, inserted in
front, makes it an info, and the second finding stays. -/
theorem strategies_classified_sorter :
    let classes := [sorter, sortOrder, Registry.outline "ByName" ["Order"]]
    let wider := Registry.outline "ByDate" ["Base", "Order"] :: classes
    (∀ known ∈ classes, TypeName.Plain known.name) ∧ sorter.isInterface = false ∧
    Grown classes wider ∧ StrategyField sorter (fieldOf "order" "LOrder;") "Order" ∧
    Means classes "Order" sortOrder ∧ sortOrder.isInterface = true ∧ ¬ CallsOn sorter "Order" ∧
    ∃ main main' idle,
      strategyFindingsOn classes sorter (fieldOf "order" "LOrder;") = main :: idle ∧
      strategyFindingsOn wider sorter (fieldOf "order" "LOrder;") = main' :: idle ∧
      main.severity = .warning ∧ main'.severity = .info := by
  intro classes wider
  have hplain : ∀ known ∈ classes, TypeName.Plain known.name := by
    intro known hmem
    have hletters : ∀ known ∈ classes, '.' ∉ known.name.toList ∧
      known.name.toList.head? ≠ some 'L' := by decide
    refine ⟨(hletters known hmem).1, fun inner _ hname => (hletters known hmem).2 ?_⟩
    rw [hname]
    simp
  have hgrown : Grown classes wider := by
    unfold Grown
    decide
  have hfield : StrategyField sorter (fieldOf "order" "LOrder;") "Order" :=
    ⟨rfl, rfl, by cbv, by decide, by decide⟩
  have hmeans : Means classes "Order" sortOrder :=
    ⟨by decide, [sorter], _, rfl, by decide⟩
  have hidle : ¬ CallsOn sorter "Order" := by
    rintro ⟨method, hmethod, -⟩
    exact List.not_mem_nil hmethod
  obtain ⟨-, -, hmilder⟩ :=
    strategies_classified { settings := {}, secretPatterns := [] } classes hplain sorter rfl
  obtain ⟨main, main', idle, hblock, hblock', hmain, hmain', -⟩ :=
    (hmilder wider hgrown).2 _ (by decide) "Order" sortOrder hfield hmeans rfl
  refine ⟨hplain, rfl, hgrown, hfield, hmeans, rfl, hidle, main, main', idle, hblock, hblock', ?_⟩
  rw [hmain.severity, hmain'.severity]
  decide

end Check

end ClassAudit
