import ClassAudit.CommandLine.Run
import ClassAudit.Proofs.Change
import Mathlib

/-!
# Options over settings

A run has the settings of a file, or the defaults, with what the options give in their place.  The
options are taken over in steps, each of which looks only at what it changes.  Together they come to
this: `Options.merged` is accepted if it is valid, and nothing else comes about.

The file is looked at before the options are.  So the values of a file have to be valid among
themselves; an option does not mend a file that is not.
-/

namespace ClassAudit

namespace Settings

variable {settings after : Settings}

/-- `mapM readPattern` succeeds iff every pattern is readable. -/
theorem mapM_readPattern_iff (patterns : List String) :
    (∃ regexes, patterns.mapM readPattern = .ok regexes)
      ↔ ∀ pattern ∈ patterns, ∃ regex, readPattern pattern = .ok regex := by
  induction patterns with
  | nil => simp [pure, Except.pure]
  | cons pattern rest ih =>
    rw [List.forall_mem_cons, ← ih]
    simp only [List.mapM_cons, bind_eq_ok]
    constructor
    · rintro ⟨regexes, regex, hregex, more, hmore, -⟩
      exact ⟨⟨regex, hregex⟩, more, hmore⟩
    · rintro ⟨⟨regex, hregex⟩, more, hmore⟩
      exact ⟨regex :: more, regex, hregex, more, hmore, rfl⟩

/-- Folding `addSecretPattern` appends the patterns, if all are readable. -/
theorem foldlM_addSecretPattern_eq_ok_iff {patterns : List String} :
    patterns.foldlM addSecretPattern settings = .ok after
      ↔ (∀ pattern ∈ patterns, ∃ regex, readPattern pattern = .ok regex) ∧
        after = { settings with
          extraSecretPatterns := settings.extraSecretPatterns ++ patterns } := by
  induction patterns generalizing settings with
  | nil =>
    rw [List.foldlM_nil, Change.pure_eq_ok, List.append_nil]
    simp
  | cons pattern rest ih =>
    have hadd (between : Settings) : settings.addSecretPattern pattern = .ok between
        ↔ (Change.secretPattern pattern).Allowed settings ∧
          between = (Change.secretPattern pattern).assigned settings :=
      @Change.apply_eq_ok_iff (.secretPattern pattern) settings between
    rw [List.foldlM_cons, bind_eq_ok, List.forall_mem_cons]
    constructor
    · rintro ⟨between, hfirst, hrest⟩
      obtain ⟨hread, rfl⟩ := (hadd between).mp hfirst
      obtain ⟨hreads, rfl⟩ := ih.mp hrest
      exact ⟨⟨hread, hreads⟩, by simp [Change.assigned]⟩
    · rintro ⟨⟨hread, hreads⟩, rfl⟩
      refine ⟨_, (hadd _).mpr ⟨hread, rfl⟩, ih.mpr ⟨hreads, ?_⟩⟩
      simp [Change.assigned]

end Settings

namespace Options

variable {options : Options} {find : String → Option FileTree} {settings file after : Settings}

/-- `file` with the values given in `options` in place of its own, and the patterns of `options`
appended. -/
def merged (options : Options) (file : Settings) : Settings :=
  { file with
    methodLengthWarning := options.methodLengthWarning.getD file.methodLengthWarning
    methodLengthError := options.methodLengthError.getD file.methodLengthError
    maxFields := options.maxFields.getD file.maxFields
    maxMethods := options.maxMethods.getD file.maxMethods
    lcom4Enabled := file.lcom4Enabled && !options.withoutLcom4
    extraSecretPatterns := file.extraSecretPatterns ++ options.secretPatterns }

/-- The settings before validation: the defaults, or what the file named by `options.config` parses
to. -/
inductive Starts (options : Options) (find : String → Option FileTree) : Settings → Prop
  | defaults (hconfig : options.config = none) : Starts options find {}
  | file {path text : String} {settings : Settings} (hconfig : options.config = some path)
      (htext : configText find path = .ok text) (hparse : Settings.parse? text = some settings) :
      Starts options find settings

/-- `baseSettings` returns what `Starts` gives iff it is `Valid`. -/
theorem Starts.baseSettings_eq_ok_iff (h : options.Starts find file) :
    options.baseSettings find = .ok settings ↔ file.Valid ∧ settings = file := by
  cases h with
  | defaults hconfig =>
    have hvalid : Settings.Valid {} := Settings.validate_eq_ok_iff.mp rfl
    rw [baseSettings, hconfig, and_iff_right hvalid]
    exact Settings.Change.pure_eq_ok
  | @file path text _ hconfig htext hparse =>
    have hbase : options.baseSettings find = Settings.ofText path text := by
      rw [baseSettings, hconfig]
      dsimp only
      rw [htext]
      rfl
    rw [hbase, Settings.ofText, hparse]
    dsimp only
    rw [Settings.Change.require_eq_ok, Settings.validate_eq_ok_iff, Settings.Change.pure_eq_ok]

/-! ## The steps -/

/-- `applyLengths` on `Valid` settings succeeds iff the merged lengths are positive and in order. -/
theorem applyLengths_eq_ok_iff (hvalid : settings.Valid) :
    options.applyLengths settings = .ok after
      ↔ (0 < (options.merged settings).methodLengthWarning ∧
          0 < (options.merged settings).methodLengthError ∧
          (options.merged settings).methodLengthWarning
            < (options.merged settings).methodLengthError) ∧
        after = { settings with
          methodLengthWarning := (options.merged settings).methodLengthWarning
          methodLengthError := (options.merged settings).methodLengthError } := by
  rw [applyLengths]
  by_cases hgiven : options.methodLengthWarning.isSome || options.methodLengthError.isSome
  · rw [if_pos hgiven]
    exact @Settings.Change.apply_eq_ok_iff (.methodLengths _ _) settings after
  · -- Where no length is given nothing is looked at; the lengths are those of valid settings.
    rw [Bool.or_eq_true, not_or, Option.not_isSome_iff_eq_none, Option.not_isSome_iff_eq_none]
      at hgiven
    have hwarning := hvalid.positive .methodLengthWarning
    have herror := hvalid.positive .methodLengthError
    have hbelow := hvalid.below
    simp only [hgiven, merged, Option.isSome_none, Bool.or_self, Bool.false_eq_true, if_false,
      Option.getD_none]
    rw [and_iff_right ⟨hwarning, herror, hbelow⟩]
    exact Settings.Change.pure_eq_ok

/-- `applySizes` on positive sizes succeeds iff the merged sizes are positive. -/
theorem applySizes_eq_ok_iff (hfields : 0 < settings.maxFields)
    (hmethods : 0 < settings.maxMethods) :
    options.applySizes settings = .ok after
      ↔ (0 < (options.merged settings).maxFields ∧ 0 < (options.merged settings).maxMethods) ∧
        after = { settings with
          maxFields := (options.merged settings).maxFields
          maxMethods := (options.merged settings).maxMethods } := by
  rw [applySizes]
  by_cases hgiven : options.maxFields.isSome || options.maxMethods.isSome
  · rw [if_pos hgiven]
    exact @Settings.Change.apply_eq_ok_iff (.godClassLimits _ _) settings after
  · rw [Bool.or_eq_true, not_or, Option.not_isSome_iff_eq_none, Option.not_isSome_iff_eq_none]
      at hgiven
    simp only [hgiven, merged, Option.isSome_none, Bool.or_self, Bool.false_eq_true, if_false,
      Option.getD_none]
    rw [and_iff_right ⟨hfields, hmethods⟩]
    exact Settings.Change.pure_eq_ok

/-- `merged` preserves `Valid` iff the merged lengths, sizes and patterns are valid. -/
theorem valid_merged_iff (hvalid : file.Valid) :
    (options.merged file).Valid
      ↔ (0 < (options.merged file).methodLengthWarning ∧
          0 < (options.merged file).methodLengthError ∧
          (options.merged file).methodLengthWarning < (options.merged file).methodLengthError) ∧
        (0 < (options.merged file).maxFields ∧ 0 < (options.merged file).maxMethods) ∧
        ∀ pattern ∈ options.secretPatterns, ∃ regex, Settings.readPattern pattern = .ok regex := by
  have hpatterns := (Settings.mapM_readPattern_iff file.extraSecretPatterns).mp hvalid.readable
  have hreadable : (∃ regexes, (options.merged file).secretRegexes = .ok regexes)
      ↔ ∀ pattern ∈ options.secretPatterns, ∃ regex, Settings.readPattern pattern = .ok regex := by
    rw [Settings.secretRegexes, Settings.mapM_readPattern_iff, merged]
    dsimp only
    rw [List.forall_mem_append, and_iff_right hpatterns]
  constructor
  · rintro ⟨hpositive, hbelow, hread⟩
    exact ⟨⟨hpositive .methodLengthWarning, hpositive .methodLengthError, hbelow⟩,
      ⟨hpositive .maxFields, hpositive .maxMethods⟩, hreadable.mp hread⟩
  · rintro ⟨⟨hwarning, herror, hbelow⟩, ⟨hfields, hmethods⟩, hread⟩
    refine ⟨?_, hbelow, hreadable.mpr hread⟩
    intro limit
    have hold := hvalid.positive limit
    cases limit with
    | methodLengthWarning => exact hwarning
    | methodLengthError => exact herror
    | maxFields => exact hfields
    | maxMethods => exact hmethods
    | _ => exact hold

/-- `override` on `Valid` settings succeeds iff `merged` is `Valid`, with that result. -/
theorem override_eq_ok_iff (hvalid : file.Valid) :
    options.override file = .ok settings
      ↔ (options.merged file).Valid ∧ settings = options.merged file := by
  have hfields := hvalid.positive .maxFields
  have hmethods := hvalid.positive .maxMethods
  -- The settings after each step; the last step adds the patterns.
  let lengthened : Settings := { file with
    methodLengthWarning := (options.merged file).methodLengthWarning
    methodLengthError := (options.merged file).methodLengthError }
  let sized : Settings := { lengthened with
    maxFields := (options.merged file).maxFields
    maxMethods := (options.merged file).maxMethods }
  let switched := if options.withoutLcom4 then sized.setLcom4Enabled false else sized
  have hmerged : options.merged file = { switched with
      extraSecretPatterns := switched.extraSecretPatterns ++ options.secretPatterns } := by
    cases hswitch : options.withoutLcom4 <;>
      simp [switched, sized, lengthened, merged, Settings.setLcom4Enabled, hswitch]
  have hsized (after : Settings) := @applySizes_eq_ok_iff options lengthened after hfields hmethods
  rw [valid_merged_iff hvalid, override, bind_eq_ok]
  constructor
  · rintro ⟨first, hfirst, hrest⟩
    obtain ⟨hlengths, rfl⟩ := (applyLengths_eq_ok_iff hvalid).mp hfirst
    obtain ⟨second, hsecond, hpatterns⟩ := bind_eq_ok.mp hrest
    obtain ⟨hsizes, rfl⟩ := (hsized second).mp hsecond
    obtain ⟨hread, rfl⟩ := Settings.foldlM_addSecretPattern_eq_ok_iff.mp hpatterns
    exact ⟨⟨hlengths, hsizes, hread⟩, hmerged.symm⟩
  · rintro ⟨⟨hlengths, hsizes, hread⟩, rfl⟩
    refine ⟨_, (applyLengths_eq_ok_iff hvalid).mpr ⟨hlengths, rfl⟩, bind_eq_ok.mpr ⟨sized, ?_, ?_⟩⟩
    · exact (hsized sized).mpr ⟨hsizes, rfl⟩
    · exact Settings.foldlM_addSecretPattern_eq_ok_iff.mpr ⟨hread, hmerged⟩

/-- `loadSettings` succeeds iff both the settings of the file and the `merged` ones validate, with
`merged` as the result. -/
theorem loadSettings_eq_ok_iff (h : options.Starts find file) (settings : Settings) :
    options.loadSettings find = .ok settings
      ↔ file.validate = .ok () ∧ (options.merged file).validate = .ok () ∧
        settings = options.merged file := by
  rw [Settings.validate_eq_ok_iff, Settings.validate_eq_ok_iff, loadSettings, bind_eq_ok]
  constructor
  · rintro ⟨base, hbase, hoverride⟩
    obtain ⟨hvalid, rfl⟩ := h.baseSettings_eq_ok_iff.mp hbase
    exact ⟨hvalid, (override_eq_ok_iff hvalid).mp hoverride⟩
  · rintro ⟨hvalid, hmerged⟩
    have hbase := h.baseSettings_eq_ok_iff.mpr ⟨hvalid, rfl⟩
    exact ⟨file, hbase, (override_eq_ok_iff hvalid).mpr hmerged⟩

/-! ## A file and options that need each other -/

/-- A directory with the file `audit.toml`. -/
def configured (text : String) : FileTree :=
  .directory [("audit.toml", .file text.toUTF8.toList)]

/-- Options that name `audit.toml` and give an error length, a pattern and a switch. -/
def withErrorLength (error : Nat) : Options :=
  { config := some "audit.toml"
    methodLengthError := some error
    secretPatterns := ["^sk_live_"]
    withoutLcom4 := true }

theorem starts_configured {text : String} {file : Settings} (error : Nat)
    (htext : configText (configured text).find? "audit.toml" = .ok text)
    (hparse : Settings.parse? text = some file) :
    (withErrorLength error).Starts (configured text).find? file :=
  .file rfl htext hparse

/-- A warning length of 30 in the file and an error length of 60 in the options. -/
theorem loadSettings_eq_ok_iff_configured :
    (withErrorLength 60).Starts (configured "method_length_warning = 30\nmax_fields = 5\n").find?
        { methodLengthWarning := 30, maxFields := 5 } ∧
      (withErrorLength 60).loadSettings
          (configured "method_length_warning = 30\nmax_fields = 5\n").find?
        = .ok { methodLengthWarning := 30, methodLengthError := 60, maxFields := 5,
                lcom4Enabled := false, extraSecretPatterns := ["^sk_live_"] } := by
  have hstarts : (withErrorLength 60).Starts
      (configured "method_length_warning = 30\nmax_fields = 5\n").find?
      { methodLengthWarning := 30, maxFields := 5 } :=
    starts_configured 60 (by decide +kernel) (by decide +kernel)
  exact ⟨hstarts, (loadSettings_eq_ok_iff hstarts _).mpr ⟨by decide, by decide +kernel, by decide⟩⟩

/-- A warning length of 120 in the file is refused, although the options raise the error length to
200. -/
theorem loadSettings_unmended :
    (withErrorLength 200).Starts (configured "method_length_warning = 120\n").find?
        { methodLengthWarning := 120 } ∧
      ((withErrorLength 200).merged { methodLengthWarning := 120 }).validate = .ok () ∧
      (withErrorLength 200).loadSettings (configured "method_length_warning = 120\n").find?
        = .error (.warningNotBelowError 120 100) :=
  ⟨starts_configured 200 (by decide +kernel) (by decide +kernel), by decide +kernel,
    by decide +kernel⟩

end Options

end ClassAudit
