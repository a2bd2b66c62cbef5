import ClassAudit.Text.Search

/-!
# Options

The arguments of the command line.  An option with a value is written `--name value` or
`--name=value`, and a value that stands alone may not look like an option.  Switches take no value
and may be written by a letter; several letters may share a dash.  Only lists may be given more
than once.

## Shape of the reading

Arguments are read from left to right.  The first one that is wrong ends the reading, and so does a
question about the program itself, which is answered whatever comes after it.
-/

namespace ClassAudit

/-- The format of a report. -/
inductive Format where
  | sarif
  | plain
  deriving DecidableEq, Repr

/-- The options given on the command line. -/
structure Options where
  input : Option String := none
  classpath : List String := []
  config : Option String := none
  format : Option Format := none
  output : Option String := none
  disabled : List String := []
  methodLengthWarning : Option Nat := none
  methodLengthError : Option Nat := none
  maxFields : Option Nat := none
  maxMethods : Option Nat := none
  secretPatterns : List String := []
  withoutLcom4 : Bool := false
  verbose : Bool := false
  quiet : Bool := false
  timing : Bool := false
  deriving DecidableEq, Repr

/-- The options without a value. -/
inductive Switch where
  | noLcom4
  | verbose
  | quiet
  | timing
  deriving DecidableEq, Repr

/-- The options with a value. -/
inductive Valued where
  | input
  | classpath
  | config
  | format
  | output
  | disable
  | methodLengthWarning
  | methodLengthError
  | maxFields
  | maxMethods
  | secretPattern
  deriving DecidableEq, Repr

/-- What the command line asks for. -/
inductive Request where
  | analysis (input : String) (options : Options)
  | version
  | help
  deriving DecidableEq, Repr

/-- An option by what it expects. -/
inductive Flag where
  | switch (switch : Switch)
  | valued (option : Valued)
  | version
  | help
  deriving DecidableEq, Repr

namespace Flag

/-- The option with the long name `--name`. -/
def ofName? : String → Option Flag
  | "input" => some (.valued .input)
  | "classpath" => some (.valued .classpath)
  | "config" => some (.valued .config)
  | "format" => some (.valued .format)
  | "output" => some (.valued .output)
  | "disable" => some (.valued .disable)
  | "method-length-warning" => some (.valued .methodLengthWarning)
  | "method-length-error" => some (.valued .methodLengthError)
  | "max-fields" => some (.valued .maxFields)
  | "max-methods" => some (.valued .maxMethods)
  | "secret-pattern" => some (.valued .secretPattern)
  | "no-lcom4" => some (.switch .noLcom4)
  | "verbose" => some (.switch .verbose)
  | "quiet" => some (.switch .quiet)
  | "timing" => some (.switch .timing)
  | "version" => some .version
  | "help" => some .help
  | _ => none

/-- The option with the short name `-c`. -/
def ofLetter? : Char → Option Flag
  | 'v' => some (.switch .verbose)
  | 'q' => some (.switch .quiet)
  | 'V' => some .version
  | 'h' => some .help
  | _ => none

end Flag

namespace Options

/-! ## Values -/

/-- The greatest value of a numeric option, 2^32 - 1. -/
def maxNumber : Nat := 4294967295

/-- The value of a non-empty list of decimal digits. -/
def digits? (digits : List Char) : Option Nat :=
  if digits.isEmpty || !digits.all Text.isDigit then none
  else some (digits.foldl (fun n c => 10 * n + (c.toNat - 48)) 0)

/-- The value of a numeric option.  A `+` is accepted, and a `-` only in front of zero. -/
def number? (text : String) : Option Nat :=
  match text.toList with
  | '+' :: digits => (digits? digits).filter (· ≤ maxNumber)
  | '-' :: digits => (digits? digits).filter (· = 0)
  | digits => (digits? digits).filter (· ≤ maxNumber)

/-- The value of a path option, which is not empty. -/
def path? (text : String) : Option String :=
  if text = "" then none else some text

/-- The value of `--format`. -/
def format? : String → Option Format
  | "sarif" => some .sarif
  | "text" => some .plain
  | _ => none

/-- `new` as the value of an option that may be given only once. -/
def once {α : Type} (old new : Option α) : Option (Option α) :=
  if old.isSome then none else new.map some

/-- Sets `option` to `value`; `none` if the value is invalid or the option already has one. -/
def give (options : Options) (option : Valued) (value : String) : Option Options :=
  match option with
  | .input => (once options.input (path? value)).map fun v => { options with input := v }
  | .classpath =>
    (path? value).map fun v => { options with classpath := options.classpath ++ [v] }
  | .config => (once options.config (path? value)).map fun v => { options with config := v }
  | .format => (once options.format (format? value)).map fun v => { options with format := v }
  | .output => (once options.output (path? value)).map fun v => { options with output := v }
  | .disable => some { options with disabled := options.disabled ++ [value] }
  | .methodLengthWarning =>
    (once options.methodLengthWarning (number? value)).map fun v =>
      { options with methodLengthWarning := v }
  | .methodLengthError =>
    (once options.methodLengthError (number? value)).map fun v =>
      { options with methodLengthError := v }
  | .maxFields =>
    (once options.maxFields (number? value)).map fun v => { options with maxFields := v }
  | .maxMethods =>
    (once options.maxMethods (number? value)).map fun v => { options with maxMethods := v }
  | .secretPattern => some { options with secretPatterns := options.secretPatterns ++ [value] }

/-- Sets `switch`; `none` if it is set already. -/
def turnOn (options : Options) (switch : Switch) : Option Options :=
  match switch with
  | .noLcom4 =>
    if options.withoutLcom4 then none else some { options with withoutLcom4 := true }
  | .verbose => if options.verbose then none else some { options with verbose := true }
  | .quiet => if options.quiet then none else some { options with quiet := true }
  | .timing => if options.timing then none else some { options with timing := true }

/-! ## Arguments -/

/-- The text starts with a dash and is not `-`. -/
def looksLikeOption (text : String) : Bool :=
  Text.startsWith text "-" && text ≠ "-"

/-- Splits a long option into its name and the value behind `=`. -/
def splitLong (letters : List Char) : String × Option String :=
  match letters.span (· ≠ '=') with
  | (name, []) => (String.ofList name, none)
  | (name, _ :: value) => (String.ofList name, some (String.ofList value))

/-- Applies the short options that share a dash. -/
def letters (options : Options) : List Char → Option (Options ⊕ Request)
  | [] => some (.inl options)
  | c :: rest =>
    match Flag.ofLetter? c with
    | some (.switch switch) => (options.turnOn switch).bind fun options => options.letters rest
    | some .version => some (.inr .version)
    | some .help => some (.inr .help)
    | _ => none

/-- The request at the end of the arguments: it needs an input, and not both `quiet` and `verbose`.
-/
def finish? (options : Options) : Option Request :=
  match options.input with
  | none => none
  | some input =>
    if options.quiet && options.verbose then none else some (.analysis input options)

/-- Reads the arguments into `options`. -/
def read? (options : Options) : List String → Option Request
  | [] => options.finish?
  | argument :: rest =>
    match argument.toList with
    | ['-', '-'] => if rest.isEmpty then options.finish? else none
    | '-' :: '-' :: long =>
      let (name, attached) := splitLong long
      match Flag.ofName? name, attached with
      | some .version, none => some .version
      | some .help, none => some .help
      | some (.switch switch), none =>
        match options.turnOn switch with
        | some options => options.read? rest
        | none => none
      | some (.valued option), some value =>
        match options.give option value with
        | some options => options.read? rest
        | none => none
      | some (.valued option), none =>
        match rest with
        | [] => none
        | value :: rest =>
          if looksLikeOption value then none
          else
            match options.give option value with
            | some options => options.read? rest
            | none => none
      | _, _ => none
    | '-' :: c :: short =>
      match options.letters (c :: short) with
      | some (.inl options) => options.read? rest
      | some (.inr request) => some request
      | none => none
    | _ => none

end Options

/-- The request of a command line; `none` if it is invalid. -/
def Request.ofArguments? (arguments : List String) : Option Request :=
  Options.read? {} arguments

end ClassAudit
