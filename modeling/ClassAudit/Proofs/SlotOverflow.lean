import ClassAudit.CommandLine.Run
import Mathlib

/-!
# Where slot arithmetic aborts an analysis

`Check.run?` and the functions built on it add up slots in 16 bits and return `none` where a sum
does not fit.  `Check.run`, `Analyzer.findingsIn` and `Analyzer.analyzeAmong` count exactly.  The
two families agree wherever the exact count of every method is at most 65535, and elsewhere the
first aborts.  What is proved of the exact functions is therefore proved of every analysis that
returns.  `Options.run_eq_slotOverflow_iff` says when a run of the program ends so.

## Shape of the proof

`AbortsUnless fits outcome value` says all of it at once: `outcome` is `some value` if `fits` holds,
and `none` if not.  `MethodDescriptor.abortsUnless_foldlM` is the run over the parameters; a sum on
the way never exceeds the last one, so only the whole sum has to fit.  `AbortsUnless.collect?` then
lifts the statement from a method to a class, from a check to the checks, and from a class to the
targets.
-/

namespace ClassAudit

/-- `outcome` is `some value` if `fits` holds, and `none` if not. -/
structure AbortsUnless {α : Type} (fits : Prop) (outcome : Option α) (value : α) : Prop where
  returns : fits → outcome = some value
  aborts : ¬ fits → outcome = none

namespace AbortsUnless

variable {α β : Type} {fits fits' : Prop} {outcome : Option α} {value : α}

theorem congr (h : AbortsUnless fits outcome value) (hiff : fits ↔ fits') :
    AbortsUnless fits' outcome value :=
  ⟨fun hfits => h.returns (hiff.mpr hfits), fun hfits => h.aborts (mt hiff.mp hfits)⟩

theorem unique {outcome' : Option α} (h : AbortsUnless fits outcome value)
    (h' : AbortsUnless fits outcome' value) : outcome = outcome' := by
  by_cases hfits : fits
  · rw [h.returns hfits, h'.returns hfits]
  · rw [h.aborts hfits, h'.aborts hfits]

theorem map (h : AbortsUnless fits outcome value) (f : α → β) :
    AbortsUnless fits (outcome.map f) (f value) := by
  refine ⟨fun hfits => ?_, fun hfits => ?_⟩
  · rw [h.returns hfits, Option.map_some]
  · rw [h.aborts hfits, Option.map_none]

theorem eq_none_iff (h : AbortsUnless fits outcome value) : outcome = none ↔ ¬ fits := by
  refine ⟨fun hnone hfits => ?_, h.aborts⟩
  rw [h.returns hfits] at hnone
  cases hnone

/-- `collect?` aborts unless every item fits, and then has the findings on all items. -/
theorem collect? {items : List α} {fits : α → Prop} {find : α → Option (List Finding)}
    {findings : α → List Finding}
    (h : ∀ item ∈ items, AbortsUnless (fits item) (find item) (findings item)) :
    AbortsUnless (∀ item ∈ items, fits item) (Check.collect? find items)
      (items.flatMap findings) := by
  induction items with
  | nil => exact ⟨fun _ => rfl, fun hfits => absurd (by simp) hfits⟩
  | cons item rest ih =>
    have hitem := h item List.mem_cons_self
    have hrest := ih fun other hother => h other (List.mem_cons_of_mem item hother)
    rw [Check.collect?, List.flatMap_cons]
    refine ⟨fun hfits => ?_, fun hfits => ?_⟩
    · rw [List.forall_mem_cons] at hfits
      rw [hitem.returns hfits.1, hrest.returns hfits.2]
      rfl
    · rw [List.forall_mem_cons, not_and_or] at hfits
      rcases hfits with hfirst | hothers
      · rw [hitem.aborts hfirst]
        rfl
      · rw [hrest.aborts hothers]
        cases find item <;> rfl

end AbortsUnless

/-! ## Sums of slots -/

theorem abortsUnless_addSlots? (a b : UInt16) :
    AbortsUnless (a.toNat + b.toNat ≤ 65535) (addSlots? a b) (a + b) :=
  ⟨fun hfits => if_pos (Nat.lt_succ_of_le hfits), fun hfits => if_neg (mt Nat.le_of_lt_succ hfits)⟩

namespace MethodDescriptor

theorem le_foldl_slots (types : List TypeDescriptor) (start : Nat) :
    start ≤ types.foldl (fun sum type => sum + type.slots.toNat) start := by
  induction types generalizing start with
  | nil => exact le_rfl
  | cons type rest ih => exact (Nat.le_add_right start _).trans (ih _)

/-- The checked sum from `start` on has the exact sum, or aborts if that does not fit. -/
theorem abortsUnless_foldlM (types : List TypeDescriptor) (start : UInt16) :
    AbortsUnless (types.foldl (fun sum type => sum + type.slots.toNat) start.toNat ≤ 65535)
      (types.foldlM (fun sum type => addSlots? sum type.slots) start)
      (UInt16.ofNat (types.foldl (fun sum type => sum + type.slots.toNat) start.toNat)) := by
  induction types generalizing start with
  | nil => exact ⟨fun _ => by simp, fun hfits => absurd (Nat.le_of_lt_succ start.toNat_lt) hfits⟩
  | cons type rest ih =>
    have hadd := abortsUnless_addSlots? start type.slots
    rw [List.foldlM_cons, List.foldl_cons]
    by_cases hstep : start.toNat + type.slots.toNat ≤ 65535
    · have hsum : (start + type.slots).toNat = start.toNat + type.slots.toNat := by
        rw [UInt16.toNat_add]
        exact Nat.mod_eq_of_lt (Nat.lt_succ_of_le hstep)
      rw [hadd.returns hstep, ← hsum]
      exact ih (start + type.slots)
    · have hlarge : ¬ rest.foldl (fun sum type => sum + type.slots.toNat)
          (start.toNat + type.slots.toNat) ≤ 65535 := by
        have hle := le_foldl_slots rest (start.toNat + type.slots.toNat)
        omega
      rw [hadd.aborts hstep]
      exact ⟨fun hfits => absurd hfits hlarge, fun _ => rfl⟩

theorem abortsUnless_parameterSlots? (type : MethodDescriptor) :
    AbortsUnless (type.parameterSlots ≤ 65535) type.parameterSlots?
      (UInt16.ofNat type.parameterSlots) :=
  abortsUnless_foldlM type.parameters 0

end MethodDescriptor

namespace Method

theorem abortsUnless_firstLocalSlot? (method : Method) :
    AbortsUnless (method.firstLocalSlot ≤ 65535) method.firstLocalSlot?
      (UInt16.ofNat method.firstLocalSlot) := by
  have hparameters : AbortsUnless
      ((method.type?.map MethodDescriptor.parameterSlots).getD 0 ≤ 65535)
      ((method.type?.map MethodDescriptor.parameterSlots?).getD (some 0))
      (UInt16.ofNat ((method.type?.map MethodDescriptor.parameterSlots).getD 0)) := by
    rcases method.type? with _ | type
    · exact ⟨fun _ => rfl, fun hfits => absurd (Nat.zero_le _) hfits⟩
    · exact type.abortsUnless_parameterSlots?
  have hreceiver : (if method.access.isStatic then 0 else 1)
      = (if method.access.isStatic then (0 : UInt16) else 1).toNat := by
    split <;> rfl
  unfold firstLocalSlot? firstLocalSlot
  rw [hreceiver]
  generalize (if method.access.isStatic then (0 : UInt16) else 1) = receiver
  generalize (method.type?.map MethodDescriptor.parameterSlots).getD 0 = slots at hparameters ⊢
  by_cases hslots : slots ≤ 65535
  · have hsum := abortsUnless_addSlots? receiver (UInt16.ofNat slots)
    rw [UInt16.toNat_ofNat_of_lt' (Nat.lt_succ_of_le hslots)] at hsum
    rw [hparameters.returns hslots, UInt16.ofNat_add, UInt16.ofNat_toNat]
    exact hsum
  · rw [hparameters.aborts hslots]
    exact ⟨fun hfits => absurd ((Nat.le_add_left slots _).trans hfits) hslots, fun _ => rfl⟩

theorem abortsUnless_unreadLocals? (method : Method) :
    AbortsUnless (method.firstLocalSlot ≤ 65535) method.unreadLocals? method.unreadLocals := by
  have hfirst := method.abortsUnless_firstLocalSlot?
  refine ⟨fun hfits => ?_, fun hfits => ?_⟩
  · rw [unreadLocals?, hfirst.returns hfits, Option.map_some,
      UInt16.toNat_ofNat_of_lt' (Nat.lt_succ_of_le hfits), unreadLocals]
  · rw [unreadLocals?, hfirst.aborts hfits, Option.map_none]

end Method

/-! ## Checks -/

/-- Every sum of slots that the check of variables makes for `c` fits 16 bits.  For an interface it
makes none. -/
def Class.SlotsFit (c : Class) : Prop :=
  c.isInterface = false → ∀ method ∈ c.methods, method.firstLocalSlot ≤ 65535

namespace Check

theorem abortsUnless_unreadVariables? (c : Class) :
    AbortsUnless c.SlotsFit (unreadVariables? c) (unreadVariables c) := by
  unfold unreadVariables? unreadVariables Class.SlotsFit
  cases c.isInterface with
  | true => exact ⟨fun _ => rfl, fun hfits => absurd nofun hfits⟩
  | false =>
    have hlocals := AbortsUnless.collect? fun method (_ : method ∈ c.methods) =>
      method.abortsUnless_unreadLocals?.map (List.map (unreadLocal c method))
    have hall := hlocals.map (· ++ c.unreadFields.map (unreadField c))
    exact hall.congr ⟨fun hfits _ => hfits, fun hfits => hfits rfl⟩

theorem abortsUnless_run? (check : Check) (criteria : Criteria) (known : Option Registry)
    (c : Class) :
    AbortsUnless (check = .unusedVariable → c.SlotsFit) (check.run? criteria known c)
      (check.run criteria known c) := by
  by_cases hcheck : check = .unusedVariable
  · subst hcheck
    exact (abortsUnless_unreadVariables? c).congr (by simp)
  · have hrun : check.run? criteria known c = some (check.run criteria known c) := by
      cases check <;> first | rfl | exact absurd rfl hcheck
    exact ⟨fun _ => hrun, fun hfits => absurd (fun h => absurd h hcheck) hfits⟩

end Check

/-! ## Analyses -/

namespace Analyzer

variable (analyzer : Analyzer)

theorem abortsUnless_findingsIn? (known : Option Registry) (c : Class) :
    AbortsUnless (.unusedVariable ∈ analyzer.checks → c.SlotsFit) (analyzer.findingsIn? known c)
      (analyzer.findingsIn known c) := by
  refine (AbortsUnless.collect? fun check _ =>
    check.abortsUnless_run? analyzer.criteria known c).congr ?_
  constructor
  · exact fun hfits hmem => hfits _ hmem rfl
  · rintro hfits check hmem rfl
    exact hfits hmem

/-- An analysis aborts iff it checks variables and the slots of a target do not fit.  Otherwise it
returns the findings of `analyzeAmong`. -/
theorem abortsUnless_analyzeAmong? (targets others : List Class) :
    AbortsUnless (.unusedVariable ∈ analyzer.checks → ∀ c ∈ targets, c.SlotsFit)
      (analyzer.analyzeAmong? targets others) (analyzer.analyzeAmong targets others) := by
  refine (AbortsUnless.collect? fun c _ => analyzer.abortsUnless_findingsIn? _ c).congr ?_
  exact ⟨fun hfits hmem c hc => hfits c hc hmem, fun hfits c hc hmem => hfits hmem c hc⟩

end Analyzer

/-- `runAll?` is the analysis by `checks` without classes beside the targets. -/
theorem Check.abortsUnless_runAll? (checks : List Check) (criteria : Criteria)
    (classes : List Class) :
    AbortsUnless (.unusedVariable ∈ checks → ∀ c ∈ classes, c.SlotsFit)
      (runAll? checks criteria classes) (runAll checks criteria classes) := by
  have hall := Analyzer.abortsUnless_analyzeAmong? { criteria, checks } classes []
  rw [Analyzer.analyzeAmong?, Analyzer.analyzeAmong, List.append_nil] at hall
  exact hall

/-! ## Runs -/

theorem bind_eq_error_iff {ε α β : Type} {x : Except ε α} {f : α → Except ε β} {error : ε}
    (hx : x ≠ .error error) :
    x >>= f = .error error ↔ ∃ a, x = .ok a ∧ f a = .error error := by
  rcases x with other | a
  · have hother : other ≠ error := fun h => hx (congrArg Except.error h)
    constructor
    · exact fun h => absurd (Except.error.inj h) hother
    · rintro ⟨a, ha, -⟩
      cases ha
  · constructor
    · exact fun h => ⟨a, rfl, h⟩
    · rintro ⟨_, ⟨⟩, h⟩
      exact h

namespace Options

variable {find : String → Option FileTree}

theorem requireFound_eq_ok_iff {error : String → RunError} {paths : List String} :
    requireFound find error paths = .ok () ↔ ∀ path ∈ paths, (find path).isSome := by
  induction paths with
  | nil => simp [requireFound]
  | cons path rest ih =>
    rw [requireFound, List.forall_mem_cons]
    split_ifs with hfound
    · rw [ih, and_iff_right hfound]
    · simp [hfound]

theorem requireFound_ne_slotOverflow {error : String → RunError} {paths : List String}
    (herror : ∀ path, error path ≠ .slotOverflow) :
    requireFound find error paths ≠ .error .slotOverflow := by
  induction paths with
  | nil => nofun
  | cons path rest ih =>
    rw [requireFound]
    split_ifs
    · exact ih
    · exact fun h => herror path (Except.error.inj h)

theorem disable_ne_slotOverflow (analyzer : Analyzer) (ids : List String) :
    disable analyzer ids ≠ .error .slotOverflow := by
  induction ids generalizing analyzer with
  | nil => nofun
  | cons id rest ih =>
    rw [disable]
    split
    · exact ih _
    · nofun

theorem analyzer_ne_slotOverflow (options : Options) :
    options.analyzer find ≠ .error .slotOverflow := by
  rw [Options.analyzer]
  rcases options.loadSettings find with error | settings
  · nofun
  · change (Except.mapError RunError.settings (Analyzer.ofSettings settings) >>=
      (disable · options.disabled)) ≠ _
    rcases Analyzer.ofSettings settings with error | analyzer
    · nofun
    · exact disable_ne_slotOverflow analyzer options.disabled

theorem findings_eq_slotOverflow_iff {analyzer : Analyzer} {scan : Scan} :
    findings analyzer scan = .error .slotOverflow ↔
      .unusedVariable ∈ analyzer.checks ∧ ∃ c ∈ scan.classes, ¬ c.SlotsFit := by
  have hiff := (analyzer.abortsUnless_analyzeAmong? scan.classes scan.classpathClasses).eq_none_iff
  push Not at hiff
  rw [← hiff, findings]
  rcases analyzer.analyzeAmong? scan.classes scan.classpathClasses with _ | _ <;> simp

theorem scan_ne_slotOverflow {scan : Except ScanError Scan} :
    scan.mapError RunError.scan ≠ .error .slotOverflow := by
  rcases scan with _ | _
  · exact fun h => nomatch Except.error.inj h
  · nofun

theorem mapError_eq_ok_iff {scan : Except ScanError Scan} {scanned : Scan} :
    scan.mapError RunError.scan = .ok scanned ↔ scan = .ok scanned := by
  rcases scan with _ | _ <;> simp [Except.mapError]

/-- **When the program aborts.**  A run aborts iff it gets as far as the analysis, checks variables,
and the slots of a scanned class do not fit. -/
theorem run_eq_slotOverflow_iff (options : Options) (arguments : List String)
    (find : String → Option FileTree) (input : String) :
    options.run arguments find input = .error .slotOverflow ↔
      (∀ path ∈ input :: options.classpath, (find path).isSome) ∧
      ∃ analyzer scan, options.analyzer find = .ok analyzer ∧
        Scan.run find input options.classpath = .ok scan ∧
        .unusedVariable ∈ analyzer.checks ∧ ∃ c ∈ scan.classes, ¬ c.SlotsFit := by
  have hfound : (∀ path ∈ input :: options.classpath, (find path).isSome) ↔
      requireFound find .inputNotFound [input] = .ok () ∧
        requireFound find .classpathNotFound options.classpath = .ok () := by
    rw [requireFound_eq_ok_iff, requireFound_eq_ok_iff, List.forall_mem_cons,
      List.forall_mem_singleton]
  have hlast (analyzer : Analyzer) (scan : Scan) (deliver : List Finding → Delivery) :
      (findings analyzer scan >>= fun findings => pure (deliver findings)) = .error .slotOverflow ↔
        findings analyzer scan = .error .slotOverflow := by
    rcases findings analyzer scan with _ | _
    · simp
    · simp
  have hinput : requireFound find .inputNotFound [input] ≠ .error .slotOverflow :=
    requireFound_ne_slotOverflow fun _ h => nomatch h
  have hclasspath : requireFound find .classpathNotFound options.classpath ≠ .error .slotOverflow :=
    requireFound_ne_slotOverflow fun _ h => nomatch h
  unfold run
  simp only [bind_eq_error_iff hinput, bind_eq_error_iff hclasspath,
    bind_eq_error_iff options.analyzer_ne_slotOverflow, bind_eq_error_iff scan_ne_slotOverflow,
    mapError_eq_ok_iff, hlast, findings_eq_slotOverflow_iff]
  rw [hfound]
  constructor
  · rintro ⟨_, hinput, _, hclasspath, analyzer, hanalyzer, scan, hscan, habort⟩
    exact ⟨⟨hinput, hclasspath⟩, analyzer, scan, hanalyzer, hscan, habort⟩
  · rintro ⟨⟨hinput, hclasspath⟩, analyzer, scan, hanalyzer, hscan, habort⟩
    exact ⟨(), hinput, (), hclasspath, analyzer, hanalyzer, scan, hscan, habort⟩

end Options

end ClassAudit
