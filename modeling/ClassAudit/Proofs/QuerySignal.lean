import ClassAudit.Analyzer
import ClassAudit.Proofs.Delegation
import Mathlib

/-!
# What decides about injection

`Check.securityFindings` is one pass over the instructions of each method.  `SecurityPass.step`
appends the secret of an instruction to the findings and lets `QuerySignals.observe` record the
signals of its operation, and `QuerySignals.verdict?` follows at the end of the method.

The verdict depends on four signals, and of each only on whether some instruction shows it.  So the
order of the instructions and their repetitions have no part in it, and one call with parameters
removes it.  The message of a finding tells secrets from verdicts (`Finding.OnSecret`).

## Shape of the proof

`QuerySignal.ShownBy` says of one operation which signals it shows, and `Method.Shows` of a whole
method.  `QuerySignals.has_observe_iff` is the step: an operation adds the signals that it shows.
`QuerySignals.has_foldl_observe_iff` is the run, by induction on the operations for any signals
before them.  `injectionFinding?_cases` reads the verdict off the signals.  The secrets are split
off the pass by `securityFindings_eq`.
-/

namespace ClassAudit

/-! ## Signals -/

/-- The signals that `QuerySignals` records. -/
inductive QuerySignal where
  /-- A text that looks like a query, or any concatenation. -/
  | building
  /-- A call on `java/sql/Statement` that executes. -/
  | execution
  /-- A call that prepares or executes a query with parameters. -/
  | parameters
  /-- A call that reads input. -/
  | input
  deriving DecidableEq, Repr

namespace QuerySignal

/-- The text contains a keyword of SQL, up to ASCII case. -/
def QueryLike (text : String) : Prop :=
  ∃ word ∈ ["SELECT ", "INSERT ", "UPDATE ", "DELETE ", " FROM ", " WHERE "],
    word.toList <:+: text.toList.map Text.asciiUpper

/-- `append` on a builder, or `String.concat`. -/
def Concatenates (site : CallSite) : Prop :=
  site.owner ∈ ["java/lang/StringBuilder", "java/lang/StringBuffer"] ∧ site.name = "append" ∨
    site.owner = "java/lang/String" ∧ site.name = "concat"

/-- A method of `java/sql/Statement` whose name starts with `execute`, or `addBatch`. -/
def ExecutesRaw (site : CallSite) : Prop :=
  site.owner = "java/sql/Statement" ∧
    ("execute".toList <+: site.name.toList ∨ site.name = "addBatch")

/-- `execute` on a `PreparedStatement`, or a preparing method of `Connection`. -/
def UsesParameters (site : CallSite) : Prop :=
  site.owner = "java/sql/PreparedStatement" ∧ "execute".toList <+: site.name.toList ∨
    site.owner = "java/sql/Connection" ∧ site.name ∈ ["prepareStatement", "prepareCall"]

/-- A getter of a servlet request for data that the client chooses, or a read of a `Scanner` or
`BufferedReader`. -/
def ReadsInput (site : CallSite) : Prop :=
  site.owner ∈
        ["javax/servlet/http/HttpServletRequest", "jakarta/servlet/http/HttpServletRequest"] ∧
      site.name ∈ ["getParameter", "getParameterValues", "getHeader", "getHeaders",
        "getQueryString", "getRequestURI", "getRequestURL"] ∨
    site.owner = "java/util/Scanner" ∧ "next".toList <+: site.name.toList ∨
    site.owner = "java/io/BufferedReader" ∧ site.name = "readLine"

/-- The bootstrap method of the call is one of `StringConcatFactory`. -/
def LinksConcatenation (site : DynamicCall) : Prop :=
  site.bootstrapOwner = some "java/lang/invoke/StringConcatFactory" ∧
    (site.bootstrapName = some "makeConcatWithConstants" ∨ site.bootstrapName = some "makeConcat")

/-- The condition on an operation under which `observe` sets the signal. -/
def ShownBy : QuerySignal → Operation → Prop
  | .building, operation =>
    (∃ text, operation = .text text ∧ QueryLike text) ∨
      (∃ site, operation = .dynamicCall site ∧ LinksConcatenation site) ∨
      ∃ site, operation = .call site ∧ Concatenates site
  | .execution, operation => ∃ site, operation = .call site ∧ ExecutesRaw site
  | .parameters, operation => ∃ site, operation = .call site ∧ UsesParameters site
  | .input, operation => ∃ site, operation = .call site ∧ ReadsInput site

end QuerySignal

/-- Some instruction of the method satisfies `ShownBy`. -/
def Method.Shows (method : Method) (signal : QuerySignal) : Prop :=
  ∃ instruction ∈ method.instructions, signal.ShownBy instruction.operation

namespace QuerySignals

theorem looksLikeQuery_iff {text : String} :
    looksLikeQuery text = true ↔ QuerySignal.QueryLike text := by
  simp only [looksLikeQuery, queryWords, List.any_eq_true, Text.occursIn_iff,
    QuerySignal.QueryLike]

theorem isStringConcat_iff {site : DynamicCall} :
    site.isStringConcat = true ↔ QuerySignal.LinksConcatenation site := by
  simp [DynamicCall.isStringConcat, QuerySignal.LinksConcatenation]

theorem isConcatenation_iff {site : CallSite} :
    isConcatenation site = true ↔ QuerySignal.Concatenates site := by
  simp [isConcatenation, QuerySignal.Concatenates]

theorem isRawExecution_iff {site : CallSite} :
    isRawExecution site = true ↔ QuerySignal.ExecutesRaw site := by
  simp [isRawExecution, QuerySignal.ExecutesRaw, Text.startsWith]

theorem isParameterized_iff {site : CallSite} :
    isParameterized site = true ↔ QuerySignal.UsesParameters site := by
  simp [isParameterized, QuerySignal.UsesParameters, Text.startsWith]

theorem isInput_iff {site : CallSite} : isInput site = true ↔ QuerySignal.ReadsInput site := by
  simp [isInput, requestReaders, QuerySignal.ReadsInput, Text.startsWith, or_assoc]

/-- The flag of `signals` for the signal. -/
def has (signals : QuerySignals) : QuerySignal → Bool
  | .building => signals.buildsText
  | .execution => signals.executesRaw
  | .parameters => signals.usesParameters
  | .input => signals.readsInput

/-- `observe` adds the signals that the operation shows, and keeps those of `signals`. -/
theorem has_observe_iff {signals : QuerySignals} {operation : Operation} {signal : QuerySignal} :
    (signals.observe operation).has signal = true ↔
      signals.has signal = true ∨ signal.ShownBy operation := by
  cases operation with
  | text value =>
    cases signal <;> simp [observe, has, QuerySignal.ShownBy, ← looksLikeQuery_iff] <;>
      split_ifs <;> simp_all
  | dynamicCall site =>
    cases signal <;> simp [observe, has, QuerySignal.ShownBy, ← isStringConcat_iff] <;>
      split_ifs <;> simp_all
  | call site =>
    cases signal <;>
      simp [observe, has, QuerySignal.ShownBy, isConcatenation_iff, isRawExecution_iff,
        isParameterized_iff, isInput_iff]
  | _ => cases signal <;> simp [observe, has, QuerySignal.ShownBy]

/-- After the pass over `operations` a signal is there iff it was before or some operation shows it,
in whatever order they come. -/
theorem has_foldl_observe_iff {signals : QuerySignals} {operations : List Operation}
    {signal : QuerySignal} :
    (operations.foldl observe signals).has signal = true ↔
      signals.has signal = true ∨ ∃ operation ∈ operations, signal.ShownBy operation := by
  induction operations generalizing signals with
  | nil => simp
  | cons operation rest ih =>
    rw [List.foldl_cons, ih, has_observe_iff, List.exists_mem_cons_iff, or_assoc]

theorem has_ofOperations_iff {method : Method} {signal : QuerySignal} :
    (ofOperations method.operations).has signal = true ↔ method.Shows signal := by
  have hinitial : initial.has signal = false := by cases signal <;> rfl
  rw [ofOperations, has_foldl_observe_iff, hinitial, Method.operations, Method.Shows]
  simp

theorem eq_of_has {signals others : QuerySignals}
    (h : ∀ signal, signals.has signal = others.has signal) : signals = others := by
  obtain ⟨building, execution, parameters, input⟩ := signals
  obtain rfl : building = others.buildsText := h .building
  obtain rfl : execution = others.executesRaw := h .execution
  obtain rfl : parameters = others.usesParameters := h .parameters
  obtain rfl : input = others.readsInput := h .input
  rfl

end QuerySignals

/-! ## Verdicts -/

/-- The message starts with the text that only secret findings have. -/
def Finding.OnSecret (finding : Finding) : Prop :=
  "Possible hardcoded secret".toList <+: finding.message.toList

instance : DecidablePred Finding.OnSecret := fun finding =>
  inferInstanceAs (Decidable ("Possible hardcoded secret".toList <+: finding.message.toList))

/-- `OnSecret` is decided by the fixed beginning of the message, whatever name follows it. -/
theorem Finding.onSecret_iff {finding : Finding} {lead name middle rest : String}
    (hmessage : finding.message = lead ++ name ++ middle ++ rest)
    (hlead : "Possible hardcoded secret".toList.length ≤ lead.toList.length) :
    finding.OnSecret ↔ "Possible hardcoded secret".toList <+: lead.toList := by
  rw [OnSecret, hmessage, String.toList_append, String.toList_append, String.toList_append,
    List.append_assoc, List.append_assoc, List.isPrefix_append_of_length hlead]

namespace Check

variable {criteria : Criteria} {c : Class} {method : Method}

/-- `verdict` is the finding that the signals of `method` call for. -/
structure Judges (c : Class) (method : Method) (verdict : Option Finding) : Prop where
  error_iff : (∃ finding ∈ verdict, finding.severity = .error ∧ finding.confidence = some .high) ↔
    method.Shows .building ∧ method.Shows .execution ∧ ¬ method.Shows .parameters
  warning_iff :
    (∃ finding ∈ verdict, finding.severity = .warning ∧ finding.confidence = some .low) ↔
      method.Shows .building ∧ method.Shows .input ∧ ¬ method.Shows .execution ∧
        ¬ method.Shows .parameters
  absent_iff : verdict = none ↔
    ¬ (method.Shows .building ∧ method.Shows .execution ∧ ¬ method.Shows .parameters) ∧
      ¬ (method.Shows .building ∧ method.Shows .input ∧ ¬ method.Shows .execution ∧
        ¬ method.Shows .parameters)
  place : ∀ finding ∈ verdict, finding.check = "SECURITY" ∧
    finding.location = c.memberLocation method.name ∧ ¬ finding.OnSecret

theorem onSecret_of_secretFinding? {instruction : Instruction} {finding : Finding}
    (h : secretFinding? criteria c method instruction = some finding) : finding.OnSecret := by
  unfold secretFinding? at h
  split at h
  · obtain ⟨confidence, -, rfl⟩ := Option.map_eq_some_iff.mp h
    exact (Finding.onSecret_iff rfl (by decide)).mpr (by decide)
  · cases h

theorem onSecret_of_mem_secretFindings {finding : Finding}
    (h : finding ∈ secretFindings criteria c method) : finding.OnSecret := by
  obtain ⟨instruction, -, hfinding⟩ := List.mem_filterMap.mp h
  exact onSecret_of_secretFinding? hfinding

/-- `injectionFinding?` is an error, a warning or `none`, each with the signals that call for it. -/
theorem injectionFinding?_cases (c : Class) (method : Method) :
    (∃ finding, injectionFinding? c method = some finding ∧ finding.severity = .error ∧
        finding.confidence = some .high ∧ method.Shows .building ∧ method.Shows .execution ∧
        ¬ method.Shows .parameters) ∨
      (∃ finding, injectionFinding? c method = some finding ∧ finding.severity = .warning ∧
        finding.confidence = some .low ∧ method.Shows .building ∧ method.Shows .input ∧
        ¬ method.Shows .execution ∧ ¬ method.Shows .parameters) ∨
      injectionFinding? c method = none ∧ (method.Shows .building → ¬ method.Shows .parameters →
        ¬ method.Shows .execution ∧ ¬ method.Shows .input) := by
  simp only [← QuerySignals.has_ofOperations_iff, QuerySignals.has]
  unfold injectionFinding?
  generalize QuerySignals.ofOperations method.operations = signals
  unfold QuerySignals.verdict?
  dsimp only
  by_cases hsafe : (!signals.buildsText || signals.usesParameters) = true
  · refine .inr (.inr ⟨if_pos hsafe, fun hbuilding hparameters => ?_⟩)
    simp [hbuilding, hparameters] at hsafe
  · have hunsafe : signals.buildsText = true ∧ ¬ signals.usesParameters = true := by
      simpa using hsafe
    rw [if_neg hsafe]
    by_cases hraw : signals.executesRaw = true
    · rw [if_pos hraw]
      exact .inl ⟨_, rfl, rfl, rfl, hunsafe.1, hraw, hunsafe.2⟩
    · rw [if_neg hraw]
      by_cases hinput : signals.readsInput = true
      · rw [if_pos hinput]
        exact .inr (.inl ⟨_, rfl, rfl, rfl, hunsafe.1, hinput, hraw, hunsafe.2⟩)
      · rw [if_neg hinput]
        exact .inr (.inr ⟨rfl, fun _ _ => ⟨hraw, hinput⟩⟩)

theorem place_of_injectionFinding? {finding : Finding}
    (h : injectionFinding? c method = some finding) : finding.check = "SECURITY" ∧
      finding.location = c.memberLocation method.name ∧ ¬ finding.OnSecret := by
  unfold injectionFinding? QuerySignals.verdict? at h
  dsimp only at h
  split_ifs at h
  · obtain rfl := Option.some.inj h
    exact ⟨rfl, rfl, mt (Finding.onSecret_iff rfl (by decide)).mp (by decide)⟩
  · obtain rfl := Option.some.inj h
    exact ⟨rfl, rfl, mt (Finding.onSecret_iff rfl (by decide)).mp (by decide)⟩

theorem judges_injectionFinding? (c : Class) (method : Method) :
    Judges c method (injectionFinding? c method) := by
  have hplace : ∀ finding ∈ injectionFinding? c method, finding.check = "SECURITY" ∧
      finding.location = c.memberLocation method.name ∧ ¬ finding.OnSecret :=
    fun finding => place_of_injectionFinding?
  rcases injectionFinding?_cases c method with
    ⟨finding, hfinding, hseverity, hconfidence, hshown⟩ |
    ⟨finding, hfinding, hseverity, hconfidence, hshown⟩ | ⟨hnone, hshown⟩
  · refine ⟨?_, ?_, ?_, hplace⟩ <;> simp [hfinding, hseverity, hconfidence] <;> tauto
  · refine ⟨?_, ?_, ?_, hplace⟩ <;> simp [hfinding, hseverity, hconfidence] <;> tauto
  · refine ⟨?_, ?_, ?_, hplace⟩ <;> simp [hnone] <;> tauto

/-- `injectionFinding?` depends on the method only through its name and the signals it `Shows`. -/
theorem injectionFinding?_congr (c : Class) (method other : Method)
    (hname : other.name = method.name)
    (hshows : ∀ signal, other.Shows signal ↔ method.Shows signal) :
    injectionFinding? c other = injectionFinding? c method := by
  have hsignals : QuerySignals.ofOperations other.operations
      = QuerySignals.ofOperations method.operations := by
    apply QuerySignals.eq_of_has
    intro signal
    rw [Bool.eq_iff_iff, QuerySignals.has_ofOperations_iff, QuerySignals.has_ofOperations_iff]
    exact hshows signal
  rw [injectionFinding?, injectionFinding?, hsignals, QuerySignals.verdict?,
    QuerySignals.verdict?, hname]

/-- `injectionFinding?` is `none` for a method that `Shows` `.parameters`. -/
theorem injectionFinding?_eq_none (h : method.Shows .parameters) :
    injectionFinding? c method = none := by
  rw [(judges_injectionFinding? c method).absent_iff]
  exact ⟨fun hshown => hshown.2.2 h, fun hshown => hshown.2.2.2 h⟩

/-- The findings of `security` that are not `OnSecret`. -/
def injections (criteria : Criteria) (known : Option Registry) (c : Class) : List Finding :=
  (security.run criteria known c).filter fun finding => ¬ finding.OnSecret

/-- `injections` are the `injectionFinding?`s of the methods, in order. -/
theorem injections_eq (criteria : Criteria) (known : Option Registry) (c : Class) :
    injections criteria known c = c.methods.filterMap (injectionFinding? c) := by
  rw [injections, run, securityFindings_eq, List.filter_flatMap, List.filterMap_eq_flatMap_toList]
  congr 1
  funext method
  have hsecrets : (secretFindings criteria c method).filter
      (fun finding => ¬ finding.OnSecret) = [] := by
    rw [List.filter_eq_nil_iff]
    intro finding hfinding
    simpa using onSecret_of_mem_secretFindings hfinding
  have hverdict : (injectionFinding? c method).toList.filter (fun finding => ¬ finding.OnSecret)
      = (injectionFinding? c method).toList := by
    rw [List.filter_eq_self]
    intro finding hfinding
    simpa using (place_of_injectionFinding? (Option.mem_toList.mp hfinding)).2.2
  rw [List.filter_append, hsecrets, hverdict, List.nil_append]

/-- `injections` of a class with one method singled out. -/
theorem injections_middle (criteria : Criteria) (known : Option Registry) (c : Class)
    (front back : List Method) (method : Method) :
    injections criteria known { c with methods := front ++ method :: back }
      = front.filterMap (injectionFinding? c)
        ++ ((injectionFinding? c method).toList ++ back.filterMap (injectionFinding? c)) := by
  have hsame : injectionFinding? { c with methods := front ++ method :: back }
      = injectionFinding? c := rfl
  rw [injections_eq, hsame, List.filterMap_append]
  congr 1
  rcases hverdict : injectionFinding? c method with _ | finding
  · rw [List.filterMap_cons_none hverdict]
    rfl
  · rw [List.filterMap_cons_some hverdict]
    rfl

/-- **The signals decide about injection.**  The findings of `security` are, method by method,
`secretFindings` followed by `injectionFinding?`.  The verdict is an error of high confidence for
`.building` and `.execution`, a warning of low confidence for `.building` and `.input` without
`.execution`, in either case only without `.parameters`, and otherwise `none`.  It depends on the
name of the method and the signals it `Shows` only.  So `injections` is unchanged when the
instructions of a method are permuted or repeated, and one instruction that shows `.parameters`
removes the verdict of its method. -/
theorem injection_by_signals (criteria : Criteria) (known : Option Registry) (c : Class) :
    security.run criteria known c = c.methods.flatMap (fun method =>
      secretFindings criteria c method ++ (injectionFinding? c method).toList) ∧
    (∀ method, ∀ finding ∈ secretFindings criteria c method, finding.OnSecret) ∧
    injections criteria known c = c.methods.filterMap (injectionFinding? c) ∧
    (∀ method, Judges c method (injectionFinding? c method)) ∧
    (∀ method other : Method, other.name = method.name →
      (∀ signal, other.Shows signal ↔ method.Shows signal) →
        injectionFinding? c other = injectionFinding? c method) ∧
    (∀ (front back : List Method) (method : Method) (instructions : List Instruction),
      instructions ⊆ method.instructions → method.instructions ⊆ instructions →
        injections criteria known
            { c with methods := front ++ { method with instructions } :: back }
          = injections criteria known { c with methods := front ++ method :: back }) ∧
    ∀ (front back : List Method) (method : Method) (before after : List Instruction)
      (call : Instruction), QuerySignal.parameters.ShownBy call.operation →
        injections criteria known
            { c with
              methods :=
                front ++ { method with instructions := before ++ call :: after } :: back }
          = injections criteria known { c with methods := front ++ back } := by
  refine ⟨securityFindings_eq criteria c, fun method finding => onSecret_of_mem_secretFindings,
    injections_eq criteria known c, judges_injectionFinding? c, injectionFinding?_congr c, ?_, ?_⟩
  · intro front back method instructions hsubset hsuperset
    have hsame : injectionFinding? c { method with instructions } = injectionFinding? c method := by
      refine injectionFinding?_congr c method { method with instructions } rfl fun signal => ?_
      constructor
      · rintro ⟨instruction, hmem, hshown⟩
        exact ⟨instruction, hsubset hmem, hshown⟩
      · rintro ⟨instruction, hmem, hshown⟩
        exact ⟨instruction, hsuperset hmem, hshown⟩
    rw [injections_middle, injections_middle, hsame]
  · intro front back method before after call hcall
    have hnone : injectionFinding? c { method with instructions := before ++ call :: after }
        = none :=
      injectionFinding?_eq_none ⟨call, by simp, hcall⟩
    have hwithout : injections criteria known { c with methods := front ++ back }
        = (front ++ back).filterMap (injectionFinding? c) := injections_eq ..
    rw [injections_middle, hnone, hwithout, List.filterMap_append]
    rfl

/-- A method that concatenates a query and executes it. -/
def userSearch : Method :=
  { name := "find"
    descriptor := "(Ljava/lang/String;)V"
    access := {}
    instructions :=
      [{ offset := 0, opcode := 0x12, operation := .text "select id from user where name = "
         line := none },
       callOf .virtual "java/lang/StringBuilder" "append",
       callOf .interface "java/sql/Statement" "executeQuery"]
    locals := [] }

/-- A class whose one method is `userSearch`. -/
def userDirectory : Class :=
  { Registry.outline "Directory" [] with methods := [userSearch] }

/-- The verdict on `userSearch` is the same for the reversed and doubled code, and is gone with a
call of `prepareStatement`. -/
theorem injection_by_signals_userDirectory :
    let criteria : Criteria := { settings := {}, secretPatterns := [] }
    let code := userSearch.instructions
    let prepare := callOf .interface "java/sql/Connection" "prepareStatement"
    (userSearch.Shows .building ∧ userSearch.Shows .execution ∧
      ¬ userSearch.Shows .parameters) ∧
    (∃ finding ∈ injectionFinding? userDirectory userSearch,
      finding.severity = .error ∧ finding.confidence = some .high) ∧
    injections criteria none
        { userDirectory with methods := [{ userSearch with instructions := code.reverse ++ code }] }
      = injections criteria none userDirectory ∧
    QuerySignal.parameters.ShownBy prepare.operation ∧
    injections criteria none
        { userDirectory with methods := [{ userSearch with instructions := prepare :: code }] }
      = injections criteria none { userDirectory with methods := [] } := by
  intro criteria code prepare
  have hshown : userSearch.Shows .building ∧ userSearch.Shows .execution ∧
      ¬ userSearch.Shows .parameters := by
    simp only [← QuerySignals.has_ofOperations_iff]
    decide +kernel
  have hprepare : QuerySignal.parameters.ShownBy prepare.operation :=
    ⟨_, rfl, .inr ⟨rfl, List.mem_cons_self⟩⟩
  obtain ⟨-, -, -, hjudges, -, hsame, hgone⟩ := injection_by_signals criteria none userDirectory
  refine ⟨hshown, (hjudges userSearch).error_iff.mpr hshown, ?_, hprepare, ?_⟩
  · refine hsame [] [] userSearch (code.reverse ++ code) ?_ (List.subset_append_right _ _)
    intro instruction hmem
    simpa using hmem
  · exact hgone [] [] userSearch [] code prepare hprepare

end Check

end ClassAudit
