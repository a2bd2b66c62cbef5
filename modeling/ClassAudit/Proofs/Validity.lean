import ClassAudit.Analyzer
import ClassAudit.Proofs.ConstantPool
import Mathlib

/-!
# Valid settings

`Settings.Valid` says what settings have to be like; `validate` accepts exactly such settings, and
exactly they make an analyzer.
-/

namespace ClassAudit

namespace Settings

variable {settings : Settings}

/-- Every limit is positive, `methodLengthWarning` is below `methodLengthError`, and every secret
pattern parses. -/
structure Valid (settings : Settings) : Prop where
  positive : ∀ limit, 0 < settings.limit limit
  below : settings.methodLengthWarning < settings.methodLengthError
  readable : ∃ regexes, settings.secretRegexes = .ok regexes

theorem requirePositive_eq_ok {limit : Limit} {value : Nat} :
    requirePositive limit value = .ok () ↔ 0 < value := by
  unfold requirePositive
  split
  · simp_all
  · simp_all [Nat.pos_iff_ne_zero]

theorem requireBelow_eq_ok {warning error : Nat} :
    requireBelow warning error = .ok () ↔ warning < error := by
  unfold requireBelow
  split
  · simp_all
  · simp_all

/-- `forM` succeeds iff the condition holds of every value. -/
theorem forM_eq_ok {ε α : Type} {condition : α → Except ε Unit} {values : List α} :
    values.forM condition = .ok () ↔ ∀ a ∈ values, condition a = .ok () := by
  induction values with
  | nil => simp [pure, Except.pure]
  | cons a rest ih =>
    rw [List.forM, bind_eq_ok, List.forall_mem_cons]
    constructor
    · rintro ⟨⟨⟩, hfirst, hrest⟩
      exact ⟨hfirst, ih.mp hrest⟩
    · rintro ⟨hfirst, hrest⟩
      exact ⟨(), hfirst, ih.mpr hrest⟩

theorem validate_eq_ok_iff : settings.validate = .ok () ↔ settings.Valid := by
  have hall : ∀ limit, limit ∈ Limit.all := by
    intro limit
    cases limit <;> decide
  simp only [validate, bind_eq_ok]
  constructor
  · rintro ⟨⟨⟩, hpositive, ⟨⟩, hbelow, regexes, hregexes, -⟩
    refine ⟨?_, requireBelow_eq_ok.mp hbelow, regexes, hregexes⟩
    intro limit
    exact requirePositive_eq_ok.mp (forM_eq_ok.mp hpositive limit (hall limit))
  · rintro ⟨hpositive, hbelow, regexes, hregexes⟩
    refine ⟨(), forM_eq_ok.mpr ?_, (), requireBelow_eq_ok.mpr hbelow, regexes, hregexes, rfl⟩
    intro limit _
    exact requirePositive_eq_ok.mpr (hpositive limit)

end Settings

/-- `ofSettings` succeeds on `Valid` settings, with all checks. -/
theorem Analyzer.ofSettings_of_valid {settings : Settings} {regexes : List Regex}
    (hvalid : settings.Valid) (hregexes : settings.secretRegexes = .ok regexes) :
    Analyzer.ofSettings settings
      = .ok { criteria := { settings, secretPatterns := regexes }, checks := Check.all } := by
  have hcriteria : Criteria.ofSettings settings = .ok { settings, secretPatterns := regexes } := by
    rw [Criteria.ofSettings, Settings.validate_eq_ok_iff.mpr hvalid, hregexes]
    rfl
  rw [Analyzer.ofSettings, hcriteria]
  rfl

end ClassAudit
