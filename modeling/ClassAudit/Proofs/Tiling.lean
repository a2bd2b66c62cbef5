import ClassAudit.Proofs.Decode

/-!
# A decoded body is tiled by its instructions

The instructions of a body that decodes lie one behind the other, from the first byte to the last:
none is skipped and none is read twice.  This holds of every list of bytes, so also of one whose
switches carry bounds that no compiler writes.

## Shape of the proof

`TilesFrom` says of the instructions from an offset on what the walk over the body establishes step
by step; it is proved by following the walk.  The statements about the whole list are read off it
by induction on the list.
-/

namespace ClassAudit.Code

/-- The instructions lie one behind the other, from the offset to the end of `code`. -/
inductive TilesFrom (lines : LineTable) (code : Bytes) : Nat → List Instruction → Prop
  | nil : TilesFrom lines code code.length []
  | cons {width : Nat} {instruction : Instruction} {rest : List Instruction}
      (opcode : code[instruction.offset]? = some instruction.opcode)
      (spans : Spans code instruction.offset width)
      (inside : instruction.offset + width ≤ code.length)
      (line : instruction.line = lines.lineAt instruction.offset)
      (call : ∀ site, instruction.operation = .call site → site.offset = instruction.offset)
      (others : TilesFrom lines code (instruction.offset + width) rest) :
      TilesFrom lines code instruction.offset (instruction :: rest)

/-- The instructions cover `code` without gaps or overlaps, each with its opcode, its line and, for
a call, the offset of its `CallSite`. -/
structure Tiling (lines : LineTable) (code : Bytes) (instructions : List Instruction) : Prop where
  empty_iff : instructions = [] ↔ code = []
  first : ∀ instruction ∈ instructions.head?, instruction.offset = 0
  opcode : ∀ instruction ∈ instructions, code[instruction.offset]? = some instruction.opcode
  /-- Each instruction starts where the one before it ends. -/
  next : ∀ (k : Nat) (h : k + 1 < instructions.length),
    ∃ width, Spans code instructions[k].offset width ∧
      instructions[k + 1].offset = instructions[k].offset + width
  /-- The last instruction ends with `code`. -/
  last : ∀ instruction ∈ instructions.getLast?,
    ∃ width, Spans code instruction.offset width ∧ instruction.offset + width = code.length
  /-- Every instruction lies inside `code`, the table of a switch included. -/
  inside : ∀ instruction ∈ instructions,
    ∃ width, Spans code instruction.offset width ∧ instruction.offset + width ≤ code.length
  /-- Every byte belongs to exactly one instruction. -/
  covers : ∀ position < code.length, ∃! k : Fin instructions.length,
    ∃ width, Spans code instructions[k].offset width ∧ instructions[k].offset ≤ position ∧
      position < instructions[k].offset + width
  call : ∀ instruction ∈ instructions, ∀ site,
    instruction.operation = .call site → site.offset = instruction.offset
  line : ∀ instruction ∈ instructions, instruction.line = lines.lineAt instruction.offset
  /-- Every step of `decodeFrom` advances by at least one byte. -/
  length_le : instructions.length ≤ code.length

variable {context : Context} {lines : LineTable} {code : Bytes} {offset : Nat}
  {instructions : List Instruction}

/-- The first instruction of `decodeFrom` is the result of `decodeOne` at `offset`, and the others
are those of `decodeFrom` behind it. -/
theorem exists_of_decodeFrom_drop {instruction : Instruction} {others : List Instruction}
    (h : decodeFrom context lines offset 0 (code.drop offset) = .ok (instruction :: others)) :
    ∃ op operation width, code[offset]? = some op ∧
      decodeOne context offset op (code.drop offset) = .ok (operation, width) ∧
      offset + width ≤ code.length ∧
      decodeFrom context lines (offset + width) 0 (code.drop (offset + width)) = .ok others ∧
      instruction = { offset, opcode := op, operation, line := lines.lineAt offset } := by
  cases hbytes : code.drop offset with
  | nil =>
    rw [hbytes, decodeFrom_nil] at h
    cases h
  | cons op rest =>
    rw [hbytes, decodeFrom_cons_eq_ok] at h
    obtain ⟨operation, width, _, hone, hwidth, hothers, hlist⟩ := h
    obtain ⟨rfl, rfl⟩ := List.cons.inj hlist
    rw [← hbytes] at hwidth hothers
    rw [List.length_drop] at hwidth
    rw [List.drop_drop] at hothers
    have hop : code[offset]? = some op := by
      rw [← List.head?_drop, hbytes]
      rfl
    have hoffset := (List.getElem?_eq_some_iff.mp hop).1
    exact ⟨op, operation, width, hop, hone, by omega, hothers, rfl⟩

/-- The instructions of `decodeFrom` satisfy `TilesFrom`. -/
theorem tilesFrom_of_decodeFrom (hle : offset ≤ code.length)
    (h : decodeFrom context lines offset 0 (code.drop offset) = .ok instructions) :
    TilesFrom lines code offset instructions := by
  induction instructions generalizing offset with
  | nil =>
    cases hbytes : code.drop offset with
    | nil =>
      obtain rfl : offset = code.length :=
        Nat.le_antisymm hle (List.drop_eq_nil_iff.mp hbytes)
      exact .nil
    | cons op rest =>
      rw [hbytes, decodeFrom_cons_eq_ok] at h
      obtain ⟨_, _, _, -, -, -, h⟩ := h
      cases h
  | cons instruction others ih =>
    obtain ⟨op, operation, width, hop, hone, hinside, hothers, rfl⟩ := exists_of_decodeFrom_drop h
    have hcall : ∀ site, operation = .call site → site.offset = offset := by
      rw [decodeOne_eq] at hone
      exact (Shape.decode_call hone).1
    exact @TilesFrom.cons lines code width
      { offset, opcode := op, operation, line := lines.lineAt offset } others hop
      (decodeOne_spans hop hone) hinside rfl hcall (ih hinside hothers)

/-- Every instruction of `decodeFrom` is the result of `decodeOne` at its offset. -/
theorem decodeOne_of_mem (hle : offset ≤ code.length)
    (h : decodeFrom context lines offset 0 (code.drop offset) = .ok instructions) :
    ∀ instruction ∈ instructions, code[instruction.offset]? = some instruction.opcode ∧
      ∃ width, decodeOne context instruction.offset instruction.opcode
        (code.drop instruction.offset) = .ok (instruction.operation, width) := by
  induction instructions generalizing offset with
  | nil => simp
  | cons first others ih =>
    obtain ⟨op, operation, width, hop, hone, hinside, hothers, rfl⟩ := exists_of_decodeFrom_drop h
    intro instruction hmem
    rcases List.mem_cons.mp hmem with rfl | hmem
    · exact ⟨hop, width, hone⟩
    · exact ih hinside hothers instruction hmem

/-! ## Reading a tiling off -/

namespace TilesFrom

/-- The properties that `TilesFrom` gives for each instruction. -/
theorem forall_mem (h : TilesFrom lines code offset instructions) :
    ∀ instruction ∈ instructions,
      offset ≤ instruction.offset ∧ code[instruction.offset]? = some instruction.opcode ∧
      (∃ width, Spans code instruction.offset width ∧ instruction.offset + width ≤ code.length) ∧
      (∀ site, instruction.operation = .call site → site.offset = instruction.offset) ∧
      instruction.line = lines.lineAt instruction.offset := by
  induction h with
  | nil => simp
  | cons opcode spans inside line call others ih =>
    intro instruction hmem
    rcases List.mem_cons.mp hmem with rfl | hmem
    · exact ⟨le_rfl, opcode, ⟨_, spans, inside⟩, call, line⟩
    · obtain ⟨hle, hrest⟩ := ih instruction hmem
      exact ⟨by omega, hrest⟩

theorem le_length (h : TilesFrom lines code offset instructions) :
    offset + instructions.length ≤ code.length := by
  induction h with
  | nil => simp
  | cons opcode spans inside line call others ih =>
    have hpos := spans.pos
    rw [List.length_cons]
    omega

theorem eq_nil_iff (h : TilesFrom lines code offset instructions) :
    instructions = [] ↔ offset = code.length := by
  cases h with
  | nil => simp
  | cons opcode spans inside line call others =>
    have hpos := spans.pos
    simp
    omega

/-- The first instruction of `TilesFrom` stands at `offset`. -/
theorem head (h : TilesFrom lines code offset instructions) :
    ∀ instruction ∈ instructions.head?, instruction.offset = offset := by
  cases h with
  | nil => simp
  | cons => simp

/-- Consecutive instructions of `TilesFrom` are adjacent. -/
theorem next (h : TilesFrom lines code offset instructions) :
    ∀ (k : Nat) (hk : k + 1 < instructions.length),
      ∃ width, Spans code instructions[k].offset width ∧
        instructions[k + 1].offset = instructions[k].offset + width := by
  induction h with
  | nil => simp
  | @cons width instruction rest opcode spans inside line call others ih =>
    intro k hk
    cases k with
    | zero =>
      refine ⟨width, spans, ?_⟩
      cases rest with
      | nil => simp at hk
      | cons other rest => exact others.head other rfl
    | succ k => exact ih k (by simpa using hk)

/-- The last instruction of `TilesFrom` ends with `code`. -/
theorem last (h : TilesFrom lines code offset instructions) :
    ∀ instruction ∈ instructions.getLast?,
      ∃ width, Spans code instruction.offset width ∧
        instruction.offset + width = code.length := by
  induction h with
  | nil => simp
  | @cons width instruction rest opcode spans inside line call others ih =>
    cases rest with
    | nil =>
      have hend := others.eq_nil_iff.mp rfl
      simp only [List.getLast?_singleton, Option.mem_def, Option.some.injEq]
      rintro _ rfl
      exact ⟨width, spans, hend⟩
    | cons other rest => simpa using ih

/-- Every byte from `offset` on belongs to exactly one instruction of `TilesFrom`. -/
theorem covers (h : TilesFrom lines code offset instructions) {position : Nat}
    (hfrom : offset ≤ position) (hto : position < code.length) :
    ∃! k : Fin instructions.length,
      ∃ width, Spans code instructions[k].offset width ∧ instructions[k].offset ≤ position ∧
        position < instructions[k].offset + width := by
  induction h with
  | nil => omega
  | @cons width instruction rest opcode spans inside line call others ih =>
    by_cases hhere : position < instruction.offset + width
    · refine ⟨⟨0, by simp⟩, ⟨width, spans, hfrom, hhere⟩, ?_⟩
      rintro ⟨k, hk⟩ ⟨width', hspans, hle, -⟩
      cases k with
      | zero => rfl
      | succ k =>
        have hlater := (others.forall_mem _ (List.getElem_mem (Nat.lt_of_succ_lt_succ hk))).1
        simp only [Fin.getElem_fin, List.getElem_cons_succ] at hle
        omega
    · obtain ⟨k, ⟨width', hspans, hle, hlt⟩, huniq⟩ := ih (by omega)
      refine ⟨k.succ, ⟨width', hspans, hle, hlt⟩, ?_⟩
      rintro ⟨j, hj⟩ ⟨width'', hspans', hle', hlt'⟩
      cases j with
      | zero =>
        obtain rfl := spans.unique hspans'
        exact absurd hlt' hhere
      | succ j =>
        have heq := huniq ⟨j, by simpa using hj⟩ ⟨width'', hspans', hle', hlt'⟩
        rw [← heq]
        rfl

/-- `TilesFrom` offset 0 is a `Tiling`. -/
theorem tiling (h : TilesFrom lines code 0 instructions) : Tiling lines code instructions where
  empty_iff := by rw [h.eq_nil_iff, eq_comm, List.length_eq_zero_iff]
  first := h.head
  opcode i hi := (h.forall_mem i hi).2.1
  next := h.next
  last := h.last
  inside i hi := (h.forall_mem i hi).2.2.1
  covers _ hto := h.covers (Nat.zero_le _) hto
  call i hi := (h.forall_mem i hi).2.2.2.1
  line i hi := (h.forall_mem i hi).2.2.2.2
  length_le := by simpa using h.le_length

end TilesFrom

/-- **A decoded body is tiled.**  If `decode` succeeds, the instructions are a `Tiling` of `code`:
they start at 0, each starts where the one before it ends by its exact width, and the last ends with
`code`. -/
theorem decode_tiling (context : Context) (lines : LineTable) (code : Bytes)
    (instructions : List Instruction) (h : decode context lines code = .ok instructions) :
    Tiling lines code instructions :=
  (tilesFrom_of_decodeFrom (Nat.zero_le _) h).tiling

/-- `iload_0`, a `tableswitch` with two bytes of padding, and `return`. -/
def switchBody : Bytes :=
  [0x1a, 0xaa, 0, 0, 0, 0, 0, 0x1c, 0, 0, 0, 0, 0, 0, 0, 1, 0, 0, 0, 0x1c, 0, 0, 0, 0x1c, 0xb1]

theorem decode_tiling_switchBody :
    decode ⟨⟨#[]⟩, []⟩ ⟨[(1, 7)]⟩ switchBody
        = .ok [⟨0, 0x1a, .load 0, none⟩, ⟨1, 0xaa, .switch, some 7⟩, ⟨24, 0xb1, .other, some 7⟩] ∧
      Tiling ⟨[(1, 7)]⟩ switchBody
        [⟨0, 0x1a, .load 0, none⟩, ⟨1, 0xaa, .switch, some 7⟩, ⟨24, 0xb1, .other, some 7⟩] := by
  have hdecode : decode ⟨⟨#[]⟩, []⟩ ⟨[(1, 7)]⟩ switchBody
      = .ok [⟨0, 0x1a, .load 0, none⟩, ⟨1, 0xaa, .switch, some 7⟩,
        ⟨24, 0xb1, .other, some 7⟩] := by
    rfl
  exact ⟨hdecode, decode_tiling _ _ _ _ hdecode⟩

end ClassAudit.Code
