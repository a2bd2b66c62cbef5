import ClassAudit.Proofs.Attribution
import ClassAudit.Proofs.Context
import Mathlib

/-!
# Higher limits are milder

Raising limits never adds to the findings: from any severity on, there are at most as many of them
as before.  A finding may turn into another one of lower severity on the way, as when a class is no
longer above both limits of its size but still above one.

## Shape of the proof

`Milder` compares two lists of findings by their numbers from each severity on.  It is kept by the
ways in which findings are put together, so that two runs of a check are compared branch by branch:
where the milder run reports something, the stricter one reports something at least as grave.  That
a limit is positive matters in one place, the note that praises a class with a single group of
methods: no threshold lies below one group, so the note does not depend on it.
-/

namespace ClassAudit

/-! ## Comparing findings -/

/-- The number of findings of at least the given severity. -/
def countAtLeast (severity : Severity) (findings : List Finding) : Nat :=
  findings.countP fun finding => severity.rank ≤ finding.severity.rank

/-- For every severity, `findings` has at most as many of at least that severity as `others`. -/
def Milder (findings others : List Finding) : Prop :=
  ∀ severity, countAtLeast severity findings ≤ countAtLeast severity others

namespace Milder

variable {findings others more moreOthers : List Finding}

theorem refl (findings : List Finding) : Milder findings findings := by
  intro severity
  exact le_rfl

theorem nil : Milder [] others := by
  intro severity
  exact Nat.zero_le _

theorem single {finding other : Finding} (h : finding.severity.rank ≤ other.severity.rank) :
    Milder [finding] [other] := by
  intro severity
  rw [countAtLeast, countAtLeast, List.countP_singleton, List.countP_singleton]
  by_cases hgrave : severity.rank ≤ finding.severity.rank
  · simp [hgrave, hgrave.trans h]
  · simp [hgrave]

theorem report {check : Check} {severity severity' : Severity} {location location' : Location}
    {message message' : String} {confidence confidence' : Option Confidence}
    (h : severity.rank ≤ severity'.rank) :
    Milder [check.report severity location message confidence]
      [check.report severity' location' message' confidence'] :=
  single h

theorem append (h : Milder findings others) (h' : Milder more moreOthers) :
    Milder (findings ++ more) (others ++ moreOthers) := by
  intro severity
  rw [countAtLeast, countAtLeast, List.countP_append, List.countP_append]
  exact Nat.add_le_add (h severity) (h' severity)

theorem flatMap {α : Type} {values : List α} {f g : α → List Finding}
    (h : ∀ a ∈ values, Milder (f a) (g a)) : Milder (values.flatMap f) (values.flatMap g) := by
  induction values with
  | nil => exact nil
  | cons a rest ih =>
    rw [List.flatMap_cons, List.flatMap_cons]
    apply (h a List.mem_cons_self).append
    exact ih fun b hb => h b (List.mem_cons_of_mem a hb)

theorem filterMap {α : Type} {values : List α} {f g : α → Option Finding}
    (h : ∀ a ∈ values, Milder (f a).toList (g a).toList) :
    Milder (values.filterMap f) (values.filterMap g) := by
  rw [List.filterMap_eq_flatMap_toList, List.filterMap_eq_flatMap_toList]
  exact flatMap h

/-- `Milder` for findings under a stronger condition. -/
theorem ite {p q : Prop} [Decidable p] [Decidable q] (himp : p → q) (h : Milder findings others) :
    Milder (if p then findings else []) (if q then others else []) := by
  by_cases hp : p
  · rw [if_pos hp, if_pos (himp hp)]
    exact h
  · rw [if_neg hp]
    exact nil

end Milder

/-! ## The checks under two criteria -/

/-- The limits of `lenient` are at least those of `strict`, which are positive; all else agrees. -/
structure Criteria.Eases (strict lenient : Criteria) : Prop where
  limit_le : ∀ limit, strict.settings.limit limit ≤ lenient.settings.limit limit
  positive : ∀ limit, 0 < strict.settings.limit limit
  lcom4Enabled : strict.settings.lcom4Enabled = lenient.settings.lcom4Enabled
  secretPatterns : strict.secretPatterns = lenient.secretPatterns

namespace Check

variable {strict lenient : Criteria}

theorem hasTooManyFields_of_eases (h : strict.Eases lenient) {c : Class}
    (hmany : hasTooManyFields lenient.settings c = true) :
    hasTooManyFields strict.settings c = true := by
  rw [hasTooManyFields, decide_eq_true_eq] at hmany ⊢
  exact (h.limit_le .maxFields).trans_lt hmany

theorem hasTooManyMethods_of_eases (h : strict.Eases lenient) {c : Class}
    (hmany : hasTooManyMethods lenient.settings c = true) :
    hasTooManyMethods strict.settings c = true := by
  rw [hasTooManyMethods, decide_eq_true_eq] at hmany ⊢
  exact (h.limit_le .maxMethods).trans_lt hmany

theorem isGodClass_of_eases (h : strict.Eases lenient) {c : Class}
    (hgod : isGodClass lenient.settings c = true) : isGodClass strict.settings c = true := by
  rw [isGodClass, Bool.and_eq_true] at hgod ⊢
  exact ⟨hasTooManyFields_of_eases h hgod.1, hasTooManyMethods_of_eases h hgod.2⟩

/-- `sizeFindings` is empty below both limits, and otherwise one finding, an error iff both are
exceeded. -/
theorem sizeFindings_cases (settings : Settings) (c : Class) :
    (sizeFindings settings c = [] ∧ hasTooManyFields settings c = false ∧
        hasTooManyMethods settings c = false) ∨
      ∃ finding, sizeFindings settings c = [finding] ∧
        (hasTooManyFields settings c = true ∨ hasTooManyMethods settings c = true) ∧
        finding.severity = if isGodClass settings c then .error else .warning := by
  unfold sizeFindings isGodClass
  cases hfields : hasTooManyFields settings c <;> cases hmethods : hasTooManyMethods settings c
  · exact Or.inl ⟨rfl, rfl, rfl⟩
  · exact Or.inr ⟨_, rfl, Or.inr rfl, rfl⟩
  · exact Or.inr ⟨_, rfl, Or.inl rfl, rfl⟩
  · exact Or.inr ⟨_, rfl, Or.inl rfl, rfl⟩

/-- The severity for a god class does not rise under the lenient criteria. -/
theorem rank_godClass_le (h : strict.Eases lenient) (c : Class) :
    (if isGodClass lenient.settings c then Severity.error else .warning).rank
      ≤ (if isGodClass strict.settings c then Severity.error else .warning).rank := by
  by_cases hgod : isGodClass lenient.settings c = true
  · rw [if_pos hgod, if_pos (isGodClass_of_eases h hgod)]
  · rw [if_neg hgod]
    split
    · decide
    · decide

theorem milder_sizeFindings (h : strict.Eases lenient) (c : Class) :
    Milder (sizeFindings lenient.settings c) (sizeFindings strict.settings c) := by
  rcases sizeFindings_cases lenient.settings c with ⟨hnone, -⟩ | ⟨finding, hfinding, hlarge, hgrave⟩
  · rw [hnone]
    exact Milder.nil
  · rcases sizeFindings_cases strict.settings c with
      ⟨-, hfields, hmethods⟩ | ⟨other, hother, -, hgraver⟩
    · -- above a limit of the lenient criteria is above that of the strict ones
      rcases hlarge with hmany | hmany
      · simp [hasTooManyFields_of_eases h hmany] at hfields
      · simp [hasTooManyMethods_of_eases h hmany] at hmethods
    · rw [hfinding, hother]
      apply Milder.single
      rw [hgrave, hgraver]
      exact rank_godClass_le h c

theorem milder_cohesionFindings (h : strict.Eases lenient) (c : Class) :
    Milder (cohesionFindings lenient.settings c) (cohesionFindings strict.settings c) := by
  have hle : strict.settings.cohesionThreshold ≤ lenient.settings.cohesionThreshold :=
    h.limit_le .cohesionThreshold
  have hpositive : 0 < strict.settings.cohesionThreshold := h.positive .cohesionThreshold
  unfold cohesionFindings
  cases CohesionGraph.ofClass? c with
  | none => exact Milder.nil
  | some graph =>
    dsimp only
    by_cases hmany : lenient.settings.cohesionThreshold < graph.components
    · rw [if_pos hmany, if_pos (hle.trans_lt hmany)]
      exact Milder.report (rank_godClass_le h c)
    · rw [if_neg hmany]
      by_cases hone : graph.components = 1 ∧ 3 ≤ graph.methods.length
      · -- one group is above no threshold, so the note is the same
        have hfew : ¬ strict.settings.cohesionThreshold < graph.components := by omega
        rw [if_pos hone, if_neg hfew]
        exact Milder.refl _
      · rw [if_neg hone]
        exact Milder.nil

theorem milder_responsibilities (h : strict.Eases lenient) (c : Class) :
    Milder (responsibilities lenient.settings c) (responsibilities strict.settings c) := by
  apply (milder_sizeFindings h c).append
  rw [h.lcom4Enabled]
  exact Milder.ite (fun hanalysed => hanalysed) (milder_cohesionFindings h c)

theorem milder_branchFindings (h : strict.Eases lenient) (c : Class) :
    Milder (branchFindings lenient.settings c) (branchFindings strict.settings c) := by
  apply Milder.append
  · apply Milder.flatMap
    intro method _
    exact Milder.ite (h.limit_le .maxMethodBranches).trans_lt (Milder.report le_rfl)
  · exact Milder.ite (h.limit_le .maxClassBranches).trans_lt (Milder.report le_rfl)

theorem milder_extensibility (h : strict.Eases lenient) (known : Option Registry) (c : Class) :
    Milder (extensibility lenient.settings known c) (extensibility strict.settings known c) := by
  unfold extensibility
  split
  · exact Milder.refl _
  · split
    · exact Milder.refl _
    · cases known with
      | none => exact milder_branchFindings h c
      | some registry => exact (milder_branchFindings h c).append (Milder.refl _)

/-- `classify?` finds under the strict criteria whatever it finds under the lenient ones. -/
theorem isSome_classify?_of_eases (h : strict.Eases lenient) {text : String}
    (hsecret : (Secret.classify? lenient text).isSome = true) :
    (Secret.classify? strict text).isSome = true := by
  have hle : strict.settings.secretMinLength ≤ lenient.settings.secretMinLength :=
    h.limit_le .secretMinLength
  unfold Secret.classify? at hsecret ⊢
  rw [h.secretPatterns]
  -- the two runs part at the least length only, and there the strict one goes on at least as often
  grind

theorem milder_securityFindings (h : strict.Eases lenient) (c : Class) :
    Milder (securityFindings lenient c) (securityFindings strict c) := by
  rw [securityFindings_eq, securityFindings_eq]
  apply Milder.flatMap
  intro method _
  refine Milder.append (Milder.filterMap ?_) (Milder.refl _)
  intro instruction _
  unfold secretFinding?
  split
  · next value _ =>
    cases hlenient : Secret.classify? lenient (Text.trimmed value) with
    | none => exact Milder.nil
    | some confidence =>
      have hsecret := isSome_classify?_of_eases h (by rw [hlenient]; rfl)
      obtain ⟨other, hstrict⟩ := Option.isSome_iff_exists.mp hsecret
      rw [hstrict]
      exact Milder.report le_rfl
  · exact Milder.nil

theorem milder_methodLengths (h : strict.Eases lenient) (c : Class) :
    Milder (methodLengths lenient.settings c) (methodLengths strict.settings c) := by
  have hwarning : strict.settings.methodLengthWarning ≤ lenient.settings.methodLengthWarning :=
    h.limit_le .methodLengthWarning
  have herror : strict.settings.methodLengthError ≤ lenient.settings.methodLengthError :=
    h.limit_le .methodLengthError
  apply Milder.filterMap
  intro method _
  unfold lengthFinding?
  dsimp only
  by_cases hlong : lenient.settings.methodLengthError < method.instructions.length
  · rw [if_pos hlong, if_pos (herror.trans_lt hlong)]
    exact Milder.report le_rfl
  · rw [if_neg hlong]
    by_cases hlonger : lenient.settings.methodLengthWarning < method.instructions.length
    · rw [if_pos hlonger, if_pos (hwarning.trans_lt hlonger)]
      split
      · exact Milder.report (by decide)
      · exact Milder.report le_rfl
    · rw [if_neg hlonger]
      exact Milder.nil

/-- `run` is `Milder` under the lenient criteria, for every check. -/
theorem milder_run (h : strict.Eases lenient) (check : Check) (known : Option Registry)
    (c : Class) : Milder (check.run lenient known c) (check.run strict known c) := by
  cases check with
  | singleResponsibility => exact milder_responsibilities h c
  | openClosed => exact milder_extensibility h known c
  | security => exact milder_securityFindings h c
  | methodLength => exact milder_methodLengths h c
  | _ => exact Milder.refl _

end Check

/-! ## The analysis under two settings -/

namespace Analyzer

variable {strict lenient : Criteria}

theorem milder_findingsIn (h : strict.Eases lenient) (checks : List Check)
    (known : Option Registry) (c : Class) :
    Milder (findingsIn ⟨lenient, checks⟩ known c) (findingsIn ⟨strict, checks⟩ known c) := by
  apply Milder.flatMap
  intro check _
  exact Check.milder_run h check known c

theorem milder_analyzeAmong (h : strict.Eases lenient) (checks : List Check)
    (targets others : List Class) :
    Milder (analyzeAmong ⟨lenient, checks⟩ targets others)
      (analyzeAmong ⟨strict, checks⟩ targets others) := by
  apply Milder.flatMap
  intro c _
  exact milder_findingsIn h checks _ c

/-- **Raising limits never makes the analysis stricter.**  Let two valid settings differ only in
their limits, with none lower in `lenient`.  Then `ofSettings` succeeds on both, and the findings
with `lenient` are `Milder`: in total, per target, per check, and per check and target. -/
theorem raised_limits_milder (strict lenient : Settings) (hstrict : strict.validate = .ok ())
    (hlenient : lenient.validate = .ok ()) (hlcom4 : strict.lcom4Enabled = lenient.lcom4Enabled)
    (hpatterns : strict.extraSecretPatterns = lenient.extraSecretPatterns)
    (hlimits : ∀ limit, strict.limit limit ≤ lenient.limit limit) :
    ∃ before after, ofSettings strict = .ok before ∧ ofSettings lenient = .ok after ∧
      ∀ targets others severity,
        countAtLeast severity (after.analyzeAmong targets others)
          ≤ countAtLeast severity (before.analyzeAmong targets others) ∧
        (∀ c ∈ targets, countAtLeast severity (after.block targets others c)
          ≤ countAtLeast severity (before.block targets others c)) ∧
        (∀ check : Check,
          countAtLeast severity
              ((after.analyzeAmong targets others).filter fun finding => finding.check = check.id)
            ≤ countAtLeast severity
              ((before.analyzeAmong targets others).filter fun finding =>
                finding.check = check.id)) ∧
        ∀ c ∈ targets, ∀ check : Check,
          countAtLeast severity
              ((after.block targets others c).filter fun finding => finding.check = check.id)
            ≤ countAtLeast severity
              ((before.block targets others c).filter fun finding =>
                finding.check = check.id) := by
  have hvalid := Settings.validate_eq_ok_iff.mp hstrict
  obtain ⟨regexes, hregexes⟩ := hvalid.readable
  -- the patterns are the same, so they are read to the same expressions
  have hregexes' : lenient.secretRegexes = .ok regexes := by
    rwa [Settings.secretRegexes, ← hpatterns]
  have heases : Criteria.Eases { settings := strict, secretPatterns := regexes }
      { settings := lenient, secretPatterns := regexes } :=
    ⟨hlimits, hvalid.positive, hlcom4, rfl⟩
  refine ⟨_, _, ofSettings_of_valid hvalid hregexes,
    ofSettings_of_valid (Settings.validate_eq_ok_iff.mp hlenient) hregexes', ?_⟩
  intro targets others severity
  refine ⟨milder_analyzeAmong heases _ targets others severity, ?_, ?_, ?_⟩
  · intro c _
    exact milder_findingsIn heases _ _ c severity
  · -- the findings of one check are those of the analyzer with this check alone
    intro check
    rw [← analyzeAmong_keep _ fun id => id = check.id,
      ← analyzeAmong_keep _ fun id => id = check.id]
    exact milder_analyzeAmong heases _ targets others severity
  · intro c _ check
    rw [block, block, ← findingsIn_keep _ fun id => id = check.id,
      ← findingsIn_keep _ fun id => id = check.id]
    exact milder_findingsIn heases _ _ c severity

/-- The default settings against `maxFields := 12` and `cohesionThreshold := 2`. -/
theorem raised_limits_milder_default :
    Settings.validate {} = .ok () ∧
      Settings.validate { maxFields := 12, cohesionThreshold := 2 } = .ok () ∧
      ∃ before after, ofSettings {} = .ok before ∧
        ofSettings { maxFields := 12, cohesionThreshold := 2 } = .ok after ∧
        ∀ targets others severity,
          countAtLeast severity (after.analyzeAmong targets others)
            ≤ countAtLeast severity (before.analyzeAmong targets others) := by
  have hstrict : Settings.validate {} = .ok () := rfl
  have hlenient : Settings.validate { maxFields := 12, cohesionThreshold := 2 } = .ok () := rfl
  obtain ⟨before, after, hbefore, hafter, hmilder⟩ :=
    raised_limits_milder {} { maxFields := 12, cohesionThreshold := 2 } hstrict hlenient rfl rfl
      (fun limit => by cases limit <;> decide)
  refine ⟨hstrict, hlenient, before, after, hbefore, hafter, ?_⟩
  intro targets others severity
  exact (hmilder targets others severity).1

end Analyzer

end ClassAudit
