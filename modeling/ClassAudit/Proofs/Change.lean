import ClassAudit.Proofs.Validity
import ClassAudit.Settings.Document
import Mathlib

/-!
# Changing settings

Settings are changed by a few calls, each of which may be refused.  Whatever the calls and whatever
comes of them, settings that started as the defaults or as those of a file stay valid.

## Shape of the changes

Settings can be kept in one place and changed there, one assignment after the other.  Then a refusal
that comes too late leaves a change half made.  `Change.program` says in which order each call looks
at its arguments and makes its assignments; `Change.atomic_program` says that no such thing happens,
and that the calls come to the same as the functions from settings to settings.
-/

namespace ClassAudit.Settings

/-! ## Keys -/

/-- The keys of `Settings`. -/
inductive Key where
  | limit (limit : Limit)
  | lcom4Enabled
  | extraSecretPatterns
  deriving DecidableEq, Repr

/-- The value of `settings` under the key. -/
def value (settings : Settings) : Key → Document.Value
  | .limit limit => .integer (settings.limit limit)
  | .lcom4Enabled => .truth settings.lcom4Enabled
  | .extraSecretPatterns => .texts settings.extraSecretPatterns

/-! ## Calls -/

/-- A call of one of the setters of `Settings`, with its arguments, or of `validate`. -/
inductive Change where
  | methodLengths (warning error : Nat)
  | godClassLimits (fields methods : Nat)
  | cohesionThreshold (threshold : Nat)
  | lcom4Enabled (enabled : Bool)
  | branchLimits (perMethod perClass : Nat)
  | secretPattern (pattern : String)
  /-- Checks the settings and assigns nothing. -/
  | validate
  deriving DecidableEq, Repr

namespace Change

/-- The setter that the call names, as a function on `Settings`. -/
def apply (change : Change) (settings : Settings) : Except SettingsError Settings :=
  match change with
  | .methodLengths warning error => settings.setMethodLengths warning error
  | .godClassLimits fields methods => settings.setGodClassLimits fields methods
  | .cohesionThreshold threshold => settings.setCohesionThreshold threshold
  | .lcom4Enabled enabled => .ok (settings.setLcom4Enabled enabled)
  | .branchLimits perMethod perClass => settings.setBranchLimits perMethod perClass
  | .secretPattern pattern => settings.addSecretPattern pattern
  | .validate => do
    settings.validate
    return settings

/-- The setter as a program on settings in a mutable variable.  A failure does not undo the
assignments before it. -/
def program : Change → ExceptT SettingsError (StateM Settings) Unit
  | .methodLengths warning error => do
    requirePositive .methodLengthWarning warning
    requirePositive .methodLengthError error
    requireBelow warning error
    modify ({ · with methodLengthWarning := warning })
    modify ({ · with methodLengthError := error })
  | .godClassLimits fields methods => do
    requirePositive .maxFields fields
    requirePositive .maxMethods methods
    modify ({ · with maxFields := fields })
    modify ({ · with maxMethods := methods })
  | .cohesionThreshold threshold => do
    requirePositive .cohesionThreshold threshold
    modify ({ · with cohesionThreshold := threshold })
  | .lcom4Enabled enabled => modify ({ · with lcom4Enabled := enabled })
  | .branchLimits perMethod perClass => do
    requirePositive .maxMethodBranches perMethod
    requirePositive .maxClassBranches perClass
    modify ({ · with maxMethodBranches := perMethod })
    modify ({ · with maxClassBranches := perClass })
  | .secretPattern pattern => do
    let _ ← readPattern pattern
    modify fun settings =>
      { settings with extraSecretPatterns := settings.extraSecretPatterns ++ [pattern] }
  | .validate => do
    (← get).validate

/-- Runs `program`: the answer, and the settings afterwards. -/
def perform (change : Change) (settings : Settings) : Except SettingsError Unit × Settings :=
  change.program.run.run settings

/-- `program` assigns what `f` returns, and where `f` fails it fails alike and leaves the settings
unchanged. -/
def Atomic (program : ExceptT SettingsError (StateM Settings) Unit)
    (f : Settings → Except SettingsError Settings) : Prop :=
  ∀ settings, program.run.run settings = match f settings with
    | .ok after => (.ok (), after)
    | .error error => (.error error, settings)

/-- `Atomic` is preserved by a condition in front of the program. -/
theorem Atomic.require {α : Type} {program : α → ExceptT SettingsError (StateM Settings) Unit}
    {f : Settings → α → Except SettingsError Settings} (condition : Except SettingsError α)
    (h : ∀ a, Atomic (program a) (f · a)) :
    Atomic (liftM condition >>= program) (fun settings => condition >>= f settings) := by
  intro settings
  cases condition with
  | error error => rfl
  | ok a => exact h a settings

/-- Every `program` is `Atomic` with respect to `apply`. -/
theorem atomic_program (change : Change) : Atomic change.program change.apply := by
  have hassigned {program : ExceptT SettingsError (StateM Settings) Unit} {f : Settings → Settings}
      (h : ∀ settings, program.run.run settings = (.ok (), f settings)) :
      Atomic program (fun settings => .ok (f settings)) := h
  cases change with
  | methodLengths warning error =>
    exact .require _ fun _ => .require _ fun _ => .require _ fun _ => hassigned fun _ => rfl
  | godClassLimits fields methods =>
    exact .require _ fun _ => .require _ fun _ => hassigned fun _ => rfl
  | cohesionThreshold threshold => exact .require _ fun _ => hassigned fun _ => rfl
  | lcom4Enabled enabled => exact hassigned fun _ => rfl
  | branchLimits perMethod perClass =>
    exact .require _ fun _ => .require _ fun _ => hassigned fun _ => rfl
  | secretPattern pattern => exact .require _ fun _ => hassigned fun _ => rfl
  | validate =>
    intro settings
    have hrun : (program .validate).run.run settings = (settings.validate, settings) := rfl
    rw [hrun, apply]
    cases settings.validate with
    | error error => rfl
    | ok => rfl

variable {change : Change} {settings after : Settings}

theorem perform_of_apply_eq_ok (h : change.apply settings = .ok after) :
    change.perform settings = (.ok (), after) := by
  rw [perform, change.atomic_program settings, h]

theorem perform_of_apply_eq_error {error : SettingsError}
    (h : change.apply settings = .error error) :
    change.perform settings = (.error error, settings) := by
  rw [perform, change.atomic_program settings, h]

/-- The keys that the call assigns, with their new values. -/
def assignments (change : Change) (settings : Settings) : List (Key × Document.Value) :=
  match change with
  | .methodLengths warning error =>
    [(.limit .methodLengthWarning, .integer warning), (.limit .methodLengthError, .integer error)]
  | .godClassLimits fields methods =>
    [(.limit .maxFields, .integer fields), (.limit .maxMethods, .integer methods)]
  | .cohesionThreshold threshold => [(.limit .cohesionThreshold, .integer threshold)]
  | .lcom4Enabled enabled => [(.lcom4Enabled, .truth enabled)]
  | .branchLimits perMethod perClass =>
    [(.limit .maxMethodBranches, .integer perMethod), (.limit .maxClassBranches, .integer perClass)]
  | .secretPattern pattern =>
    [(.extraSecretPatterns, .texts (settings.extraSecretPatterns ++ [pattern]))]
  | .validate => []

/-- The condition under which the call succeeds. -/
def Allowed (change : Change) (settings : Settings) : Prop :=
  match change with
  | .methodLengths warning error => 0 < warning ∧ 0 < error ∧ warning < error
  | .godClassLimits fields methods => 0 < fields ∧ 0 < methods
  | .cohesionThreshold threshold => 0 < threshold
  | .lcom4Enabled _ => True
  | .branchLimits perMethod perClass => 0 < perMethod ∧ 0 < perClass
  | .secretPattern pattern => ∃ regex, readPattern pattern = .ok regex
  | .validate => settings.Valid

/-- `settings` with the assignments of the call made. -/
def assigned (change : Change) (settings : Settings) : Settings :=
  match change with
  | .methodLengths warning error =>
    { settings with methodLengthWarning := warning, methodLengthError := error }
  | .godClassLimits fields methods => { settings with maxFields := fields, maxMethods := methods }
  | .cohesionThreshold threshold => { settings with cohesionThreshold := threshold }
  | .lcom4Enabled enabled => { settings with lcom4Enabled := enabled }
  | .branchLimits perMethod perClass =>
    { settings with maxMethodBranches := perMethod, maxClassBranches := perClass }
  | .secretPattern pattern =>
    { settings with extraSecretPatterns := settings.extraSecretPatterns ++ [pattern] }
  | .validate => settings

/-- Inversion of a check followed by a computation. -/
theorem require_eq_ok {condition : Except SettingsError Unit}
    {next : Unit → Except SettingsError Settings} :
    (condition >>= next) = .ok after ↔ condition = .ok () ∧ next () = .ok after := by
  rw [bind_eq_ok]
  exact ⟨fun ⟨(), h⟩ => h, fun h => ⟨(), h⟩⟩

theorem pure_eq_ok {made : Settings} :
    (pure made : Except SettingsError Settings) = .ok after ↔ after = made :=
  ⟨fun h => (Except.ok.inj h).symm, fun h => congrArg Except.ok h.symm⟩

/-- `apply` succeeds exactly when the call is `Allowed`, with result `assigned`. -/
theorem apply_eq_ok_iff :
    change.apply settings = .ok after
      ↔ change.Allowed settings ∧ after = change.assigned settings := by
  cases change with
  | methodLengths warning error =>
    simp only [apply, setMethodLengths, require_eq_ok, requirePositive_eq_ok, requireBelow_eq_ok,
      pure_eq_ok, Allowed, assigned, and_assoc]
  | godClassLimits fields methods =>
    simp only [apply, setGodClassLimits, require_eq_ok, requirePositive_eq_ok, pure_eq_ok, Allowed,
      assigned, and_assoc]
  | cohesionThreshold threshold =>
    simp only [apply, setCohesionThreshold, require_eq_ok, requirePositive_eq_ok, pure_eq_ok,
      Allowed, assigned]
  | lcom4Enabled enabled =>
    simp only [apply, setLcom4Enabled, Allowed, assigned, true_and]
    exact pure_eq_ok
  | branchLimits perMethod perClass =>
    simp only [apply, setBranchLimits, require_eq_ok, requirePositive_eq_ok, pure_eq_ok, Allowed,
      assigned, and_assoc]
  | secretPattern pattern =>
    simp only [apply, addSecretPattern, bind_eq_ok, pure_eq_ok, Allowed, assigned, exists_and_right]
  | validate =>
    simp only [apply, require_eq_ok, validate_eq_ok_iff, pure_eq_ok, Allowed, assigned]

theorem value_assigned (key : Key) :
    (change.assigned settings).value key
      = ((change.assignments settings).lookup key).getD (settings.value key) := by
  cases key with
  | limit limit => cases change <;> cases limit <;> rfl
  | _ => cases change <;> rfl

/-- `secretRegexes` after a readable pattern is added. -/
theorem readable_append {regexes : List Regex} {pattern : String} {regex : Regex}
    (hregexes : settings.secretRegexes = .ok regexes) (hregex : readPattern pattern = .ok regex) :
    ((secretPattern pattern).assigned settings).secretRegexes = .ok (regexes ++ [regex]) := by
  unfold secretRegexes at hregexes ⊢
  rw [assigned, List.mapM_append, hregexes]
  simp [hregex]
  rfl

theorem valid_assigned (hvalid : settings.Valid) (hallowed : change.Allowed settings) :
    (change.assigned settings).Valid := by
  cases change with
  | methodLengths warning error =>
    obtain ⟨hwarning, herror, hbelow⟩ := hallowed
    refine ⟨?_, hbelow, hvalid.readable⟩
    intro limit
    have hold := hvalid.positive limit
    cases limit with
    | methodLengthWarning => exact hwarning
    | methodLengthError => exact herror
    | _ => exact hold
  | godClassLimits fields methods =>
    obtain ⟨hfields, hmethods⟩ := hallowed
    refine ⟨?_, hvalid.below, hvalid.readable⟩
    intro limit
    have hold := hvalid.positive limit
    cases limit with
    | maxFields => exact hfields
    | maxMethods => exact hmethods
    | _ => exact hold
  | cohesionThreshold threshold =>
    refine ⟨?_, hvalid.below, hvalid.readable⟩
    intro limit
    have hold := hvalid.positive limit
    cases limit with
    | cohesionThreshold => exact hallowed
    | _ => exact hold
  | lcom4Enabled enabled => exact ⟨hvalid.positive, hvalid.below, hvalid.readable⟩
  | branchLimits perMethod perClass =>
    obtain ⟨hmethod, hclass⟩ := hallowed
    refine ⟨?_, hvalid.below, hvalid.readable⟩
    intro limit
    have hold := hvalid.positive limit
    cases limit with
    | maxMethodBranches => exact hmethod
    | maxClassBranches => exact hclass
    | _ => exact hold
  | secretPattern pattern =>
    obtain ⟨regexes, hregexes⟩ := hvalid.readable
    obtain ⟨regex, hregex⟩ := hallowed
    exact ⟨hvalid.positive, hvalid.below, _, readable_append hregexes hregex⟩
  | validate => exact hvalid

/-- `perform` preserves `Valid`, whether the call succeeds or fails. -/
theorem valid_perform (hvalid : settings.Valid) : (change.perform settings).2.Valid := by
  cases happly : change.apply settings with
  | error error =>
    rw [perform_of_apply_eq_error happly]
    exact hvalid
  | ok after =>
    obtain ⟨hallowed, rfl⟩ := apply_eq_ok_iff.mp happly
    rw [perform_of_apply_eq_ok happly]
    exact valid_assigned hvalid hallowed

end Change

/-! ## Settings that can come about -/

/-- Settings read by `ofText` are `Valid`. -/
theorem valid_of_ofText {path text : String} {settings : Settings}
    (h : ofText path text = .ok settings) : settings.Valid := by
  unfold ofText at h
  split at h
  · cases h
  · obtain ⟨hvalid, hsame⟩ := Change.require_eq_ok.mp h
    rw [Change.pure_eq_ok.mp hsame]
    exact validate_eq_ok_iff.mp hvalid

/-- The settings reached from the defaults or from `ofText` by any calls, failed ones included. -/
inductive Reachable : Settings → Prop where
  | default : Reachable {}
  | file {path text : String} {settings : Settings} (h : ofText path text = .ok settings) :
    Reachable settings
  | call {settings : Settings} (h : Reachable settings) (change : Change) :
    Reachable (change.perform settings).2

theorem Reachable.valid {settings : Settings} (h : settings.Reachable) : settings.Valid := by
  induction h with
  | default => exact validate_eq_ok_iff.mp rfl
  | file h => exact valid_of_ofText h
  | call _ change ih => exact Change.valid_perform ih

/-- **Reachable settings are consistent, and every call is atomic.**  `Reachable` settings pass
`validate`, and `Analyzer.ofSettings` makes an analyzer with every check of them.  `perform` answers
as `apply` does.  A failed call leaves the settings unchanged; a successful one assigns its
`assignments` and leaves the values under all other keys. -/
theorem reachable_consistent {settings : Settings} (h : settings.Reachable) :
    settings.validate = .ok () ∧
    (∃ analyzer, Analyzer.ofSettings settings = .ok analyzer ∧
      analyzer.criteria.settings = settings ∧ analyzer.checks = Check.all) ∧
    ∀ change : Change,
      change.apply settings
        = (change.perform settings).1.map (fun _ => (change.perform settings).2) ∧
      (∀ error, (change.perform settings).1 = .error error →
        (change.perform settings).2 = settings) ∧
      ((change.perform settings).1 = .ok () → ∀ key,
        (change.perform settings).2.value key
          = ((change.assignments settings).lookup key).getD (settings.value key)) := by
  have hvalid := h.valid
  obtain ⟨regexes, hregexes⟩ := hvalid.readable
  refine ⟨validate_eq_ok_iff.mpr hvalid,
    ⟨_, Analyzer.ofSettings_of_valid hvalid hregexes, rfl, rfl⟩, ?_⟩
  intro change
  cases happly : change.apply settings with
  | error error =>
    rw [Change.perform_of_apply_eq_error happly]
    refine ⟨rfl, fun _ _ => rfl, ?_⟩
    intro hok
    cases hok
  | ok after =>
    obtain ⟨-, rfl⟩ := Change.apply_eq_ok_iff.mp happly
    rw [Change.perform_of_apply_eq_ok happly]
    refine ⟨rfl, ?_, ?_⟩
    · intro error herror
      cases herror
    · intro _ key
      exact Change.value_assigned key

/-- Settings reached by a failed and a successful call, and two further calls on them. -/
theorem reachable_consistent_limits :
    Reachable { maxFields := 4, maxMethods := 6 } ∧
      validate { maxFields := 4, maxMethods := 6 } = .ok () ∧
      ((Change.methodLengths 80 0).perform { maxFields := 4, maxMethods := 6 }).2
        = { maxFields := 4, maxMethods := 6 } ∧
      ∀ key, ((Change.branchLimits 3 9).perform { maxFields := 4, maxMethods := 6 }).2.value key
        = ([(Key.limit .maxMethodBranches, Document.Value.integer 3),
            (Key.limit .maxClassBranches, Document.Value.integer 9)].lookup key).getD
              (value { maxFields := 4, maxMethods := 6 } key) := by
  have hreachable : Reachable { maxFields := 4, maxMethods := 6 } :=
    (Reachable.default.call (.methodLengths 80 80)).call (.godClassLimits 4 6)
  obtain ⟨hvalid, -, hcalls⟩ := reachable_consistent hreachable
  exact ⟨hreachable, hvalid, (hcalls (.methodLengths 80 0)).2.1 _ rfl,
    (hcalls (.branchLimits 3 9)).2.2 rfl⟩

end ClassAudit.Settings
