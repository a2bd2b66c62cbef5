import ClassAudit.Check.Console
import Mathlib

/-!
# The first print after a stream was taken

The scan for prints to the console goes through a code once and remembers one stream.  Its result
can be told without the scan: a print counts if a stream was taken somewhere before it and nothing
was printed since the last time that one was.

## Shape of the proof

`Pending` says of a position which stream waits for a print there, by the whole code in front of it.
It is what the scan remembers: `remember_eq_some_iff` is the step over one instruction, and
`scan_drop` the run over the rest of the code, position by position.
-/

namespace ClassAudit.ConsolePrint

/-! ## Takings and prints -/

/-- The instruction is a read of `System.out` or `System.err`, named `stream`. -/
def Takes (instruction : Instruction) (stream : String) : Prop :=
  ∃ field : FieldRef, instruction.operation = .readField field ∧ field.isStatic = true ∧
    field.owner = "java/lang/System" ∧ (field.name = "out" ∨ field.name = "err") ∧
    field.name = stream

/-- The instruction is a virtual call of a print method of `PrintStream`, named `method`. -/
def Prints (instruction : Instruction) (method : String) : Prop :=
  ∃ site : CallSite, instruction.operation = .call site ∧ site.kind = .virtual ∧
    site.owner = "java/io/PrintStream" ∧ "print".toList <+: site.name.toList ∧ site.name = method

theorem stream?_eq_some_iff {instruction : Instruction} {stream : String} :
    stream? instruction.operation = some stream ↔ Takes instruction stream := by
  rcases hop : instruction.operation with _ | _ | _ | field | _ | _ | _ | _ | _ | _ | _ <;>
    simp [stream?, Takes, hop, and_assoc]

theorem print?_eq_some_iff {instruction : Instruction} {method : String} :
    print? instruction.operation = some method ↔ Prints instruction method := by
  rcases hop : instruction.operation with _ | _ | _ | _ | _ | site | _ | _ | _ | _ | _ <;>
    simp [print?, Prints, hop, Text.startsWith, and_assoc]

/-- `Takes` and `Prints` exclude each other. -/
theorem Takes.not_prints {instruction : Instruction} {stream method : String}
    (h : Takes instruction stream) : ¬ Prints instruction method := by
  obtain ⟨field, hread, -⟩ := h
  rintro ⟨site, hcall, -⟩
  rw [hread] at hcall
  cases hcall

instance : DecidablePred fun instruction => ∃ stream, Takes instruction stream := fun instruction =>
  decidable_of_iff ((stream? instruction.operation).isSome = true) (by
    simp only [Option.isSome_iff_exists, stream?_eq_some_iff])

variable {code : List Instruction}

/-- The instruction at `position` `Takes` `stream`. -/
def TakenAt (code : List Instruction) (position : Nat) (stream : String) : Prop :=
  ∃ instruction, code[position]? = some instruction ∧ Takes instruction stream

/-- The instruction at `position` `Prints`. -/
def PrintAt (code : List Instruction) (position : Nat) : Prop :=
  ∃ instruction method, code[position]? = some instruction ∧ Prints instruction method

/-- `stream` was taken before `position`, and neither a taking nor a print lies between. -/
def Pending (code : List Instruction) (position : Nat) (stream : String) : Prop :=
  ∃ last < position, TakenAt code last stream ∧
    (∀ between, last < between → between < position → ∀ other, ¬ TakenAt code between other) ∧
    ∀ between, last < between → between < position → ¬ PrintAt code between

/-- A print at `position` with `Pending` stream, as recorded in `print`. -/
def FirstPrint (code : List Instruction) (position : Nat) (print : ConsolePrint) : Prop :=
  Pending code position print.stream ∧ ∃ instruction, code[position]? = some instruction ∧
    Prints instruction print.method ∧ instruction.line = print.line

theorem FirstPrint.printAt {position : Nat} {print : ConsolePrint}
    (h : FirstPrint code position print) : PrintAt code position := by
  obtain ⟨-, instruction, hat, hprints, -⟩ := h
  exact ⟨instruction, print.method, hat, hprints⟩

/-! ## One instruction -/

/-- The step of `scan` on the pending stream. -/
def remember (taken : Option String) (instruction : Instruction) : Option String :=
  match stream? instruction.operation, print? instruction.operation with
  | some stream, _ => some stream
  | none, some _ => none
  | none, none => taken

/-- The step of `scan` on the output. -/
def emit (taken : Option String) (instruction : Instruction) : Option ConsolePrint :=
  (print? instruction.operation).bind fun method =>
    taken.map fun stream => { stream, method, line := instruction.line }

theorem print?_eq_none_of_stream? {instruction : Instruction} {stream : String}
    (h : stream? instruction.operation = some stream) : print? instruction.operation = none := by
  rw [Option.eq_none_iff_forall_not_mem]
  intro method hmethod
  exact (stream?_eq_some_iff.mp h).not_prints (print?_eq_some_iff.mp hmethod)

theorem scan_cons (taken : Option String) (instruction : Instruction) (rest : List Instruction) :
    scan taken (instruction :: rest)
      = (emit taken instruction).toList ++ scan (remember taken instruction) rest := by
  conv_lhs => unfold scan
  rw [emit, remember]
  rcases hstream : stream? instruction.operation with _ | stream
  · rcases print? instruction.operation with _ | method
    · rfl
    · rcases taken with _ | stream <;> rfl
  · rw [print?_eq_none_of_stream? hstream]
    rfl

/-- `Pending` one position further, in terms of the instruction between. -/
theorem pending_succ {position : Nat} {instruction : Instruction} {stream : String}
    (hat : code[position]? = some instruction) :
    Pending code (position + 1) stream ↔ Takes instruction stream ∨
      Pending code position stream ∧ (∀ other, ¬ Takes instruction other) ∧
        ∀ method, ¬ Prints instruction method := by
  have htaken : ∀ other, TakenAt code position other ↔ Takes instruction other := by
    intro other
    simp [TakenAt, hat]
  have hprint : PrintAt code position ↔ ∃ method, Prints instruction method := by
    simp [PrintAt, hat]
  constructor
  · rintro ⟨last, hlast, htakes, hothers, hprints⟩
    -- an earlier taking is still the last one, so nothing is taken or printed at `position`
    by_cases hhere : last = position
    · subst hhere
      exact Or.inl ((htaken stream).mp htakes)
    · have hbefore : last < position := by omega
      refine Or.inr ⟨⟨last, hbefore, htakes, ?_, ?_⟩, ?_, ?_⟩
      · intro between hgt hlt
        exact hothers between hgt (by omega)
      · intro between hgt hlt
        exact hprints between hgt (by omega)
      · intro other
        rw [← htaken other]
        exact hothers position hbefore (by omega) other
      · intro method hmethod
        exact hprints position hbefore (by omega) (hprint.mpr ⟨method, hmethod⟩)
  · rintro (htakes | ⟨⟨last, hlast, htakes, hothers, hprints⟩, hnone, hsilent⟩)
    · refine ⟨position, by omega, (htaken stream).mpr htakes, ?_, ?_⟩
      · intro between hgt hlt
        omega
      · intro between hgt hlt
        omega
    · refine ⟨last, by omega, htakes, ?_, ?_⟩
      · intro between hgt hlt other
        by_cases hhere : between = position
        · rw [hhere, htaken other]
          exact hnone other
        · exact hothers between hgt (by omega) other
      · intro between hgt hlt
        by_cases hhere : between = position
        · rw [hhere, hprint]
          rintro ⟨method, hmethod⟩
          exact hsilent method hmethod
        · exact hprints between hgt (by omega)

/-- `remember` preserves the invariant that `taken` is the `Pending` stream. -/
theorem remember_eq_some_iff {position : Nat} {instruction : Instruction} {taken : Option String}
    (hat : code[position]? = some instruction)
    (htaken : ∀ stream, taken = some stream ↔ Pending code position stream) (stream : String) :
    remember taken instruction = some stream ↔ Pending code (position + 1) stream := by
  rw [pending_succ hat, ← htaken stream, remember]
  simp only [← stream?_eq_some_iff, ← print?_eq_some_iff]
  rcases stream? instruction.operation with _ | here
  · rcases print? instruction.operation with _ | method <;> simp
  · simp

/-- Under the invariant, `emit` yields exactly the `FirstPrint` at the position. -/
theorem emit_eq_some_iff {position : Nat} {instruction : Instruction} {taken : Option String}
    (hat : code[position]? = some instruction)
    (htaken : ∀ stream, taken = some stream ↔ Pending code position stream)
    (print : ConsolePrint) :
    emit taken instruction = some print ↔ FirstPrint code position print := by
  rw [FirstPrint, ← htaken print.stream, emit]
  simp only [hat, Option.some.injEq, exists_eq_left', ← print?_eq_some_iff]
  simp only [Option.bind_eq_some_iff, Option.map_eq_some_iff]
  constructor
  · rintro ⟨method, hmethod, stream, hstream, rfl⟩
    exact ⟨hstream, hmethod, rfl⟩
  · rintro ⟨hstream, hmethod, hline⟩
    exact ⟨print.method, hmethod, print.stream, hstream, by rw [hline]⟩

/-! ## The whole code -/

/-- Nothing is `Pending` at position 0. -/
theorem not_pending_zero (stream : String) : ¬ Pending code 0 stream := by
  rintro ⟨last, hlast, -⟩
  omega

/-- The run of `scan` from `position` on: one entry per `FirstPrint`, in order of position. -/
theorem scan_drop {rest : List Instruction} {position : Nat} {taken : Option String}
    (hrest : code.drop position = rest)
    (htaken : ∀ stream, taken = some stream ↔ Pending code position stream) :
    ∃ positions : List Nat, positions.Pairwise (· < ·) ∧
      (∀ j, j ∈ positions ↔ position ≤ j ∧ ∃ print, FirstPrint code j print) ∧
      List.Forall₂ (FirstPrint code) positions (scan taken rest) := by
  -- on what is left of the code; `htaken` ties the memory to the part that is already read
  induction rest generalizing position taken with
  | nil =>
    refine ⟨[], List.Pairwise.nil, ?_, List.Forall₂.nil⟩
    intro j
    have hlength : code.length ≤ position := List.drop_eq_nil_iff.mp hrest
    simp only [List.not_mem_nil, false_iff, not_and, not_exists]
    rintro hj print ⟨-, instruction, hat, -⟩
    have hlt := (List.getElem?_eq_some_iff.mp hat).1
    omega
  | cons instruction rest ih =>
    have hat : code[position]? = some instruction := by
      rw [← List.head?_drop, hrest, List.head?_cons]
    have hnext : code.drop (position + 1) = rest := by
      rw [← List.tail_drop, hrest, List.tail_cons]
    obtain ⟨positions, hrising, hmem, hprints⟩ := ih hnext (remember_eq_some_iff hat htaken)
    have hfrom : ∀ j, position ≤ j ↔ j = position ∨ position + 1 ≤ j := by
      intro j
      omega
    rw [scan_cons]
    rcases hemit : emit taken instruction with _ | print
    · refine ⟨positions, hrising, ?_, hprints⟩
      intro j
      rw [hmem, hfrom]
      refine and_congr_left fun hfirst => ⟨Or.inr, ?_⟩
      rintro (rfl | hj)
      · obtain ⟨print, hprint⟩ := hfirst
        rw [(emit_eq_some_iff hat htaken print).mpr hprint] at hemit
        cases hemit
      · exact hj
    · have hprint := (emit_eq_some_iff hat htaken print).mp hemit
      refine ⟨position :: positions, List.pairwise_cons.mpr ⟨?_, hrising⟩, ?_,
        List.Forall₂.cons hprint hprints⟩
      · intro j hj
        have hbehind := ((hmem j).mp hj).1
        omega
      · intro j
        rw [List.mem_cons, hmem, hfrom]
        constructor
        · rintro (rfl | ⟨hj, hfirst⟩)
          · exact ⟨Or.inl rfl, print, hprint⟩
          · exact ⟨Or.inr hj, hfirst⟩
        · rintro ⟨rfl | hj, hfirst⟩
          · exact Or.inl rfl
          · exact Or.inr ⟨hj, hfirst⟩

/-- `scan` yields at most one entry per taking. -/
theorem length_scan_le (taken : Option String) (rest : List Instruction) :
    (scan taken rest).length ≤ taken.toList.length +
      rest.countP fun instruction => ∃ stream, Takes instruction stream := by
  induction rest generalizing taken with
  | nil => exact Nat.zero_le _
  | cons instruction rest ih =>
    -- a print that is added empties the memory, and only a taking fills it
    have hstep :
        (emit taken instruction).toList.length + (remember taken instruction).toList.length
          ≤ taken.toList.length + if ∃ stream, Takes instruction stream then 1 else 0 := by
      rw [emit, remember]
      rcases hstream : stream? instruction.operation with _ | stream
      · rcases print? instruction.operation with _ | method <;>
          rcases taken with _ | stream <;> simp
      · rw [if_pos ⟨stream, stream?_eq_some_iff.mp hstream⟩, print?_eq_none_of_stream? hstream]
        simp
    have hrest := ih (remember taken instruction)
    rw [scan_cons, List.length_append, List.countP_cons]
    simp only [decide_eq_true_eq]
    omega

theorem Pending.unique {position : Nat} {stream other : String} (h : Pending code position stream)
    (h' : Pending code position other) : stream = other := by
  obtain ⟨last, hlast, htaken, hothers, -⟩ := h
  obtain ⟨last', hlast', htaken', hothers', -⟩ := h'
  rcases lt_trichotomy last last' with hlt | heq | hgt
  · exact absurd htaken' (hothers last' hlt hlast' other)
  · subst heq
    obtain ⟨instruction, hat, htakes⟩ := htaken
    obtain ⟨instruction', hat', htakes'⟩ := htaken'
    obtain rfl : instruction = instruction' := by simpa [hat] using hat'
    rw [← stream?_eq_some_iff] at htakes htakes'
    simpa [htakes] using htakes'
  · exact absurd htaken (hothers' last hgt hlast stream)

/-- `FirstPrint` determines the entry. -/
theorem FirstPrint.unique {position : Nat} {print other : ConsolePrint}
    (h : FirstPrint code position print) (h' : FirstPrint code position other) : print = other := by
  obtain ⟨hpending, instruction, hat, hprints, hline⟩ := h
  obtain ⟨hpending', instruction', hat', hprints', hline'⟩ := h'
  obtain rfl : instruction = instruction' := by simpa [hat] using hat'
  have hmethod : print.method = other.method := by
    rw [← print?_eq_some_iff] at hprints hprints'
    simpa [hprints] using hprints'
  obtain ⟨stream, method, line⟩ := print
  obtain ⟨stream', method', line'⟩ := other
  obtain rfl : stream = stream' := hpending.unique hpending'
  obtain rfl : method = method' := hmethod
  obtain rfl : line = line' := hline.symm.trans hline'
  rfl

theorem exists_firstPrint_iff {position : Nat} :
    (∃ print, FirstPrint code position print) ↔
      PrintAt code position ∧ ∃ stream, Pending code position stream := by
  constructor
  · rintro ⟨print, hprint⟩
    exact ⟨hprint.printAt, print.stream, hprint.1⟩
  · rintro ⟨⟨instruction, method, hat, hprints⟩, stream, hpending⟩
    exact ⟨{ stream, method, line := instruction.line }, hpending, instruction, hat, hprints, rfl⟩

/-- **`scan` finds the first print after each taking.**  Its entries correspond one by one, in
order, to the positions with a `PrintAt` and a `Pending` stream, and each satisfies `FirstPrint`,
which determines it.  There are at most as many entries as takings. -/
theorem scan_firstPrints (code : List Instruction) :
    (∃ positions : List Nat, positions.Pairwise (· < ·) ∧
      (∀ j, j ∈ positions ↔ PrintAt code j ∧ ∃ stream, Pending code j stream) ∧
      List.Forall₂ (FirstPrint code) positions (scan none code)) ∧
    (∀ j print other, FirstPrint code j print → FirstPrint code j other → print = other) ∧
    (scan none code).length
      ≤ code.countP fun instruction => ∃ stream, Takes instruction stream := by
  have hstart : ∀ stream, none = some stream ↔ Pending code 0 stream := by
    intro stream
    exact iff_of_false (by simp) (not_pending_zero stream)
  obtain ⟨positions, hrising, hmem, hprints⟩ := scan_drop List.drop_zero hstart
  refine ⟨⟨positions, hrising, ?_, hprints⟩, fun j print other h h' => h.unique h', ?_⟩
  · intro j
    rw [hmem, ← exists_firstPrint_iff]
    exact and_iff_right (Nat.zero_le j)
  · simpa using length_scan_le none code

/-- The second taking replaces the first, and the second print has no pending stream. -/
example :
    let take (name : String) : Instruction :=
      { offset := 0
        opcode := 0xb2
        operation := .readField
          { owner := "java/lang/System", name, descriptor := "Ljava/io/PrintStream;"
            isStatic := true }
        line := none }
    let print (line : Nat) : Instruction :=
      { offset := 0
        opcode := 0xb6
        operation := .call
          { owner := "java/io/PrintStream", name := "println", descriptor := "()V"
            kind := .virtual, offset := 0 }
        line := some line }
    scan none [take "out", take "err", print 7, print 8]
      = [{ stream := "err", method := "println", line := some 7 }] := rfl

end ClassAudit.ConsolePrint
