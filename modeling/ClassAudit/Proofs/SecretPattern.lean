import ClassAudit.Proofs.Attribution
import ClassAudit.Proofs.Change
import ClassAudit.Proofs.QuerySignal
import Mathlib

/-!
# One more pattern of secrets

Patterns are asked before anything else about a text, so one more of them takes nothing away.  What
was a secret stays one, and no less surely so; what becomes one matches the new pattern.  Everything
else that the analysis finds stays as it was.

## Shape of the proof

`Secret.classify?_extended` puts the whole effect of a pattern into one equation: where it matches,
the answer is sure, and elsewhere it is the old one.  Two runs are then compared instruction by
instruction, and `Strengthened` carries the comparison through the lists in which findings are put
together.
-/

namespace ClassAudit

/-! ## Comparing findings -/

/-- `after` is `before` with findings that satisfy `new` inserted, where an `OnSecret` finding may
be replaced by one with a higher confidence. -/
inductive Strengthened (new : Finding → Prop) : List Finding → List Finding → Prop
  | nil : Strengthened new [] []
  | same {finding : Finding} {before after : List Finding} (h : Strengthened new before after) :
      Strengthened new (finding :: before) (finding :: after)
  | firmer {finding other : Finding} {before after : List Finding} (hsecret : other.OnSecret)
      (hfirmer : finding.Firmer other) (h : Strengthened new before after) :
      Strengthened new (other :: before) (finding :: after)
  | added {finding : Finding} {before after : List Finding} (hnew : new finding)
      (h : Strengthened new before after) : Strengthened new before (finding :: after)

namespace Strengthened

variable {new : Finding → Prop} {before after moreBefore moreAfter : List Finding}

theorem refl (new : Finding → Prop) (findings : List Finding) :
    Strengthened new findings findings := by
  induction findings with
  | nil => exact .nil
  | cons finding rest ih => exact .same ih

theorem append (h : Strengthened new before after) (h' : Strengthened new moreBefore moreAfter) :
    Strengthened new (before ++ moreBefore) (after ++ moreAfter) := by
  induction h with
  | nil => exact h'
  | same _ ih => exact .same ih
  | firmer hsecret hfirmer _ ih => exact .firmer hsecret hfirmer ih
  | added hnew _ ih => exact .added hnew ih

theorem flatMap {α : Type} {values : List α} {f g : α → List Finding}
    (h : ∀ a ∈ values, Strengthened new (f a) (g a)) :
    Strengthened new (values.flatMap f) (values.flatMap g) := by
  induction values with
  | nil => exact .nil
  | cons a rest ih =>
    rw [List.flatMap_cons, List.flatMap_cons]
    apply (h a List.mem_cons_self).append
    exact ih fun b hb => h b (List.mem_cons_of_mem a hb)

theorem filterMap {α : Type} {values : List α} {f g : α → Option Finding}
    (h : ∀ a ∈ values, Strengthened new (f a).toList (g a).toList) :
    Strengthened new (values.filterMap f) (values.filterMap g) := by
  rw [List.filterMap_eq_flatMap_toList, List.filterMap_eq_flatMap_toList]
  exact flatMap h

end Strengthened

/-! ## Texts under one more pattern -/

namespace Criteria

/-- `extended` is `criteria` with `regex` appended to its patterns. -/
structure Extends (criteria extended : Criteria) (regex : Regex) : Prop where
  patterns : extended.secretPatterns = criteria.secretPatterns ++ [regex]
  settings : ∃ patterns, extended.settings
    = { criteria.settings with extraSecretPatterns := patterns }

end Criteria

/-- `classify?` under the extended criteria: high where the new pattern matches, unchanged
otherwise. -/
theorem Secret.classify?_extended {criteria extended : Criteria} {regex : Regex}
    (h : criteria.Extends extended regex) (text : String) :
    classify? extended text
      = if regex.isMatch text then some .high else classify? criteria text := by
  obtain ⟨patterns, hsettings⟩ := h.settings
  have hlength : extended.settings.secretMinLength = criteria.settings.secretMinLength := by
    rw [hsettings]
  rw [classify?, h.patterns, List.any_append, hlength]
  by_cases hold : criteria.secretPatterns.any (·.isMatch text) = true
  · simp [classify?, hold]
  · by_cases hnew : regex.isMatch text = true
    · simp [hnew]
    · simp [classify?, hold, hnew]

namespace Check

variable {criteria extended : Criteria} {regex : Regex} {c : Class} {method : Method}

/-- A secret finding of high confidence on a string constant of `c` that `regex` matches. -/
def NewSecret (regex : Regex) (c : Class) (finding : Finding) : Prop :=
  ∃ method ∈ c.methods, ∃ instruction ∈ method.instructions, ∃ text,
    instruction.operation = .text text ∧ regex.isMatch (Text.trimmed text) = true ∧
      finding.check = "SECURITY" ∧ finding.OnSecret ∧ finding.confidence = some .high ∧
      finding.location = { c.memberLocation method.name with line := instruction.line }

/-! ## The checks under one more pattern -/

/-- The `secretFinding?` of one instruction under both criteria is `Strengthened`. -/
theorem strengthened_secretFinding? (h : criteria.Extends extended regex)
    (hmethod : method ∈ c.methods) {instruction : Instruction}
    (hinstruction : instruction ∈ method.instructions) :
    Strengthened (NewSecret regex c) (secretFinding? criteria c method instruction).toList
      (secretFinding? extended c method instruction).toList := by
  have hbefore := @onSecret_of_secretFinding? criteria c method instruction
  have hafter := @onSecret_of_secretFinding? extended c method instruction
  unfold secretFinding? at hbefore hafter ⊢
  rcases hop : instruction.operation with _ | _ | _ | _ | _ | _ | _ | _ | _ | text | _
  case text =>
    simp only [hop, Secret.classify?_extended h] at hbefore hafter ⊢
    by_cases hmatch : regex.isMatch (Text.trimmed text) = true
    · rw [if_pos hmatch] at hafter ⊢
      rcases hold : Secret.classify? criteria (Text.trimmed text) with _ | confidence
      · exact .added ⟨method, hmethod, instruction, hinstruction, text, hop, hmatch, rfl,
          hafter rfl, rfl, rfl⟩ .nil
      · rw [hold] at hbefore
        refine .firmer (hbefore rfl) ⟨rfl, .high, confidence, rfl, rfl, ?_⟩ .nil
        cases confidence <;> decide
    · rw [if_neg hmatch]
      exact .refl _ _
  all_goals exact .nil

theorem strengthened_securityFindings (h : criteria.Extends extended regex) (c : Class) :
    Strengthened (NewSecret regex c) (securityFindings criteria c)
      (securityFindings extended c) := by
  rw [securityFindings_eq, securityFindings_eq]
  apply Strengthened.flatMap
  intro method hmethod
  refine .append (.filterMap ?_) (.refl _ _)
  intro instruction hinstruction
  exact strengthened_secretFinding? h hmethod hinstruction

/-- `run` of any check other than `security` is the same under both criteria. -/
theorem run_extended (h : criteria.Extends extended regex) {check : Check}
    (hcheck : check ≠ .security) (known : Option Registry) (c : Class) :
    check.run extended known c = check.run criteria known c := by
  obtain ⟨patterns, hsettings⟩ := h.settings
  cases check with
  | security => exact absurd rfl hcheck
  | singleResponsibility | openClosed | methodLength =>
    rw [run, run, hsettings]
    rfl
  | _ => rfl

end Check

/-! ## The analysis under one more pattern -/

namespace Analyzer

/-- The findings of `check` among those of `findingsIn`. -/
def findingsOf (analyzer : Analyzer) (check : Check) (known : Option Registry) (c : Class) :
    List Finding :=
  (analyzer.findingsIn known c).filter fun finding => finding.check = check.id

theorem findingsOf_eq_run {criteria : Criteria} (check : Check) (known : Option Registry)
    (c : Class) :
    findingsOf ⟨criteria, Check.all⟩ check known c = check.run criteria known c := by
  have hkept : keep ⟨criteria, Check.all⟩ (fun id => id = check.id) = ⟨criteria, [check]⟩ := by
    cases check <;> rfl
  rw [findingsOf, ← findingsIn_keep _ fun id => id = check.id, hkept, findingsIn,
    List.flatMap_singleton]

/-- A pattern that `addSecretPattern` accepts gives criteria that `Extends` the old ones by its
expression. -/
theorem exists_extends {settings extended : Settings} {pattern : String}
    (hvalid : settings.validate = .ok ())
    (hadded : settings.addSecretPattern pattern = .ok extended) :
    ∃ (criteria criteria' : Criteria) (regex : Regex), criteria.Extends criteria' regex ∧
      ofSettings settings = .ok ⟨criteria, Check.all⟩ ∧
      ofSettings extended = .ok ⟨criteria', Check.all⟩ ∧ Pattern.parse? pattern = some regex := by
  have hsettings := Settings.validate_eq_ok_iff.mp hvalid
  obtain ⟨regexes, hregexes⟩ := hsettings.readable
  obtain ⟨⟨regex, hregex⟩, rfl⟩ :=
    (@Settings.Change.apply_eq_ok_iff (.secretPattern pattern) settings extended).mp hadded
  have hparsed : Pattern.parse? pattern = some regex := by
    unfold Settings.readPattern at hregex
    split at hregex
    · next hparse => rw [hparse, Except.ok.inj hregex]
    · cases hregex
  refine ⟨⟨settings, regexes⟩,
    ⟨(Settings.Change.secretPattern pattern).assigned settings, regexes ++ [regex]⟩, regex,
    ⟨rfl, settings.extraSecretPatterns ++ [pattern], rfl⟩,
    ofSettings_of_valid hsettings hregexes, ?_, hparsed⟩
  exact ofSettings_of_valid (Settings.Change.valid_assigned hsettings ⟨regex, hregex⟩)
    (Settings.Change.readable_append hregexes hregex)

/-- **One more pattern only strengthens the search for secrets.**  Let `addSecretPattern` accept
`pattern` on valid settings.  Then `ofSettings` succeeds on both settings.  The security findings on
a class, alone or among others, are `Strengthened` by findings that are a `NewSecret`.  `injections`
is unchanged, and so are the findings of every other check. -/
theorem pattern_strengthens (settings extended : Settings) (pattern : String)
    (hvalid : settings.validate = .ok ())
    (hadded : settings.addSecretPattern pattern = .ok extended) :
    ∃ before after regex, ofSettings settings = .ok before ∧ ofSettings extended = .ok after ∧
      Pattern.parse? pattern = some regex ∧
      ∀ known c,
        Strengthened (Check.NewSecret regex c) (before.findingsOf .security known c)
          (after.findingsOf .security known c) ∧
        (after.findingsOf .security known c).filter (fun finding => ¬ finding.OnSecret)
          = (before.findingsOf .security known c).filter (fun finding => ¬ finding.OnSecret) ∧
        ∀ check, check ≠ .security →
          after.findingsOf check known c = before.findingsOf check known c := by
  obtain ⟨criteria, criteria', regex, hextends, hbefore, hafter, hparsed⟩ :=
    exists_extends hvalid hadded
  refine ⟨_, _, regex, hbefore, hafter, hparsed, fun known c => ?_⟩
  simp only [findingsOf_eq_run]
  refine ⟨Check.strengthened_securityFindings hextends c, ?_, ?_⟩
  · -- the verdicts on injection do not depend on the criteria
    have hinjections : Check.injections criteria' known c = Check.injections criteria known c := by
      rw [Check.injections_eq, Check.injections_eq]
    exact hinjections
  · intro check hcheck
    exact Check.run_extended hextends hcheck known c

/-- A class with two string constants, of which one looks like a key. -/
def vault : Class :=
  { Registry.outline "Vault" [] with
    methods :=
      [{ name := "open"
         descriptor := "()V"
         access := {}
         instructions := ["corp-0123456789abcdefgh", " corp "].map fun text =>
           { offset := 0, opcode := 0x12, operation := .text text, line := none }
         locals := [] }] }

/-- With the pattern `^corp` both constants of `vault` are secrets of high confidence. -/
theorem pattern_strengthens_vault :
    Settings.validate {} = .ok () ∧
    Settings.addSecretPattern {} "^corp" = .ok { extraSecretPatterns := ["^corp"] } ∧
    ∃ before after regex, ofSettings {} = .ok before ∧
      ofSettings { extraSecretPatterns := ["^corp"] } = .ok after ∧
      (before.findingsOf .security none vault).map Finding.confidence = [some .medium] ∧
      (after.findingsOf .security none vault).map Finding.confidence = [some .high, some .high] ∧
      Strengthened (Check.NewSecret regex vault) (before.findingsOf .security none vault)
        (after.findingsOf .security none vault) := by
  have hvalid : Settings.validate {} = .ok () := rfl
  have hadded : Settings.addSecretPattern {} "^corp"
      = .ok { extraSecretPatterns := ["^corp"] } := by
    rw [Settings.addSecretPattern]
    rfl
  obtain ⟨before, after, regex, hbefore, hafter, hparsed, hcompared⟩ :=
    pattern_strengthens {} { extraSecretPatterns := ["^corp"] } "^corp" hvalid hadded
  refine ⟨hvalid, hadded, before, after, regex, hbefore, hafter, ?_, ?_, (hcompared none vault).1⟩
  · have hfound : (ofSettings {}).map (fun analyzer =>
        (analyzer.findingsOf .security none vault).map Finding.confidence)
          = .ok [some .medium] := by
      decide +kernel
    rw [hbefore] at hfound
    exact Except.ok.inj hfound
  · have hfound : (ofSettings { extraSecretPatterns := ["^corp"] }).map (fun analyzer =>
        (analyzer.findingsOf .security none vault).map Finding.confidence)
          = .ok [some .high, some .high] := by
      decide +kernel
    rw [hafter] at hfound
    exact Except.ok.inj hfound

end Analyzer

end ClassAudit
