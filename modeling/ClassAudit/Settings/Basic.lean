import ClassAudit.Pattern.Parser
import ClassAudit.Text.Quoted

/-!
# Settings

The limits and switches of the checks.  Settings are *valid* when every limit is positive, the
length at which a method is warned about lies below the length that is an error, and every pattern
can be read. The changes offered here keep valid settings valid, and a change that fails leaves
them as they were.
-/

namespace ClassAudit

structure Settings where
  methodLengthWarning : Nat := 50
  methodLengthError : Nat := 100
  maxFields : Nat := 10
  maxMethods : Nat := 20
  cohesionThreshold : Nat := 1
  lcom4Enabled : Bool := true
  maxMethodBranches : Nat := 10
  maxClassBranches : Nat := 30
  secretMinLength : Nat := 20
  extraSecretPatterns : List String := []
  deriving DecidableEq, Repr

/-- The settings that are numbers. -/
inductive Limit where
  | methodLengthWarning
  | methodLengthError
  | maxFields
  | maxMethods
  | cohesionThreshold
  | maxMethodBranches
  | maxClassBranches
  | secretMinLength
  deriving DecidableEq, Repr

/-- The reasons for which settings are refused. -/
inductive SettingsError where
  | notPositive (limit : Limit)
  | warningNotBelowError (warning error : Nat)
  | invalidPattern (pattern : String)
  | unreadable (path : String)
  | unparsable (path : String)
  deriving DecidableEq, Repr

namespace Limit

/-- All limits, in the order in which `validate` checks them. -/
def all : List Limit :=
  [.methodLengthWarning, .methodLengthError, .maxFields, .maxMethods, .cohesionThreshold,
   .maxMethodBranches, .maxClassBranches, .secretMinLength]

/-- The key of a limit in a settings file. -/
def key : Limit → String
  | .methodLengthWarning => "method_length_warning"
  | .methodLengthError => "method_length_error"
  | .maxFields => "max_fields"
  | .maxMethods => "max_methods"
  | .cohesionThreshold => "cohesion_threshold"
  | .maxMethodBranches => "max_method_branches"
  | .maxClassBranches => "max_class_branches"
  | .secretMinLength => "secret_min_length"

/-- The limit with the given key. -/
def ofKey? (key : String) : Option Limit :=
  all.find? (·.key = key)

end Limit

namespace SettingsError

def message : SettingsError → String
  | .notPositive limit => limit.key ++ " must be positive, got 0"
  | .warningNotBelowError warning error =>
    "warning threshold (" ++ toString warning ++ ") must be less than error threshold ("
      ++ toString error ++ ")"
  | .invalidPattern pattern => "invalid secret pattern " ++ Text.quoted pattern
  | .unreadable path => "failed to read config " ++ path
  | .unparsable path => "failed to parse config " ++ path

end SettingsError

namespace Settings

/-- The value of a limit. -/
def limit (settings : Settings) : Limit → Nat
  | .methodLengthWarning => settings.methodLengthWarning
  | .methodLengthError => settings.methodLengthError
  | .maxFields => settings.maxFields
  | .maxMethods => settings.maxMethods
  | .cohesionThreshold => settings.cohesionThreshold
  | .maxMethodBranches => settings.maxMethodBranches
  | .maxClassBranches => settings.maxClassBranches
  | .secretMinLength => settings.secretMinLength

/-- `settings` with `limit` set to `value`. -/
def withLimit (settings : Settings) (limit : Limit) (value : Nat) : Settings :=
  match limit with
  | .methodLengthWarning => { settings with methodLengthWarning := value }
  | .methodLengthError => { settings with methodLengthError := value }
  | .maxFields => { settings with maxFields := value }
  | .maxMethods => { settings with maxMethods := value }
  | .cohesionThreshold => { settings with cohesionThreshold := value }
  | .maxMethodBranches => { settings with maxMethodBranches := value }
  | .maxClassBranches => { settings with maxClassBranches := value }
  | .secretMinLength => { settings with secretMinLength := value }

/-- Refuses a limit of zero. -/
def requirePositive (limit : Limit) (value : Nat) : Except SettingsError Unit :=
  if value = 0 then .error (.notPositive limit) else .ok ()

/-- Refuses a `warning` length that is not below the `error` length. -/
def requireBelow (warning error : Nat) : Except SettingsError Unit :=
  if error ≤ warning then .error (.warningNotBelowError warning error) else .ok ()

/-- `parse?`, with `invalidPattern` in place of `none`. -/
def readPattern (pattern : String) : Except SettingsError Regex :=
  match Pattern.parse? pattern with
  | some regex => .ok regex
  | none => .error (.invalidPattern pattern)

/-- The expressions of `extraSecretPatterns`. -/
def secretRegexes (settings : Settings) : Except SettingsError (List Regex) :=
  settings.extraSecretPatterns.mapM readPattern

/-- Checks the limits, then `requireBelow`, then the secret patterns, and fails with the first
error. -/
def validate (settings : Settings) : Except SettingsError Unit := do
  Limit.all.forM fun limit => requirePositive limit (settings.limit limit)
  requireBelow settings.methodLengthWarning settings.methodLengthError
  let _ ← settings.secretRegexes
  return ()

/-! ## Changes -/

/-- Sets both method lengths, if `validate` would accept them. -/
def setMethodLengths (settings : Settings) (warning error : Nat) :
    Except SettingsError Settings := do
  requirePositive .methodLengthWarning warning
  requirePositive .methodLengthError error
  requireBelow warning error
  return { settings with methodLengthWarning := warning, methodLengthError := error }

/-- Sets the limits of `isGodClass`, if `validate` would accept them. -/
def setGodClassLimits (settings : Settings) (fields methods : Nat) :
    Except SettingsError Settings := do
  requirePositive .maxFields fields
  requirePositive .maxMethods methods
  return { settings with maxFields := fields, maxMethods := methods }

/-- Sets the greatest LCOM4 that is not reported, if `validate` would accept it. -/
def setCohesionThreshold (settings : Settings) (threshold : Nat) :
    Except SettingsError Settings := do
  requirePositive .cohesionThreshold threshold
  return { settings with cohesionThreshold := threshold }

def setLcom4Enabled (settings : Settings) (enabled : Bool) : Settings :=
  { settings with lcom4Enabled := enabled }

/-- Sets the branch limits, if `validate` would accept them. -/
def setBranchLimits (settings : Settings) (perMethod perClass : Nat) :
    Except SettingsError Settings := do
  requirePositive .maxMethodBranches perMethod
  requirePositive .maxClassBranches perClass
  return { settings with maxMethodBranches := perMethod, maxClassBranches := perClass }

/-- Appends a secret pattern, if it parses. -/
def addSecretPattern (settings : Settings) (pattern : String) : Except SettingsError Settings := do
  let _ ← readPattern pattern
  return { settings with extraSecretPatterns := settings.extraSecretPatterns ++ [pattern] }

end Settings

end ClassAudit
