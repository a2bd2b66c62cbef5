import ClassAudit.Proofs.Tiling

/-!
# Cutting a body short

What is left of a body that decodes when it is cut behind some byte.  A cut between two instructions
leaves the instructions in front of it.  A cut inside an instruction is a truncation, the fault
names a byte of that instruction, and no cut shows as a fault of any other kind.

## Shape of the proof

Forms of instructions notice a cut at different places: at an operand that is not there any more, or
only where the end of the instruction is compared with the end of the code, since operands that
nothing looks at are not read.  `Cut` is what they have in common.  It holds of the three readers of
operands and is kept by everything that is made of them, so it holds of every shape with the number
of bytes up to its last operand, which is never more than the width.

The walk over the body is followed to the instruction that the cut lies behind or inside of.
-/

namespace ClassAudit.Code

/-! ## Operands of a cut instruction -/

section Cut

variable {α β : Type}

/-- `short` is the result on `available` bytes and `full` the one on all bytes.  They agree, or
fewer than `reach` bytes are available and `short` is a truncation at one of these bytes. -/
def Cut (offset reach available : Nat) (short full : Except Fault α) : Prop :=
  short = full ∨
    available < reach ∧ ∃ distance < reach, short = .error (.truncated (offset + distance))

namespace Cut

variable {offset reach available : Nat}

/-- `Cut` is reflexive. -/
theorem refl (result : Except Fault α) : Cut offset reach available result result :=
  Or.inl rfl

theorem mono {reach' : Nat} {short full : Except Fault α}
    (h : Cut offset reach available short full) (hle : reach ≤ reach') :
    Cut offset reach' available short full := by
  rcases h with h | ⟨havailable, distance, hdistance, h⟩
  · exact Or.inl h
  · exact Or.inr ⟨by omega, distance, by omega, h⟩

theorem bind {short full : Except Fault α} {f g : α → Except Fault β}
    (h : Cut offset reach available short full)
    (hnext : ∀ a, Cut offset reach available (f a) (g a)) :
    Cut offset reach available (short >>= f) (full >>= g) := by
  rcases h with rfl | ⟨havailable, distance, hdistance, rfl⟩
  · cases short with
    | error fault => exact refl _
    | ok a => exact hnext a
  · exact Or.inr ⟨havailable, distance, hdistance, rfl⟩

/-- `short` and `full` agree if `short` succeeds. -/
theorem full_eq_ok {short full : Except Fault α} {a : α}
    (h : Cut offset reach available short full) (ha : short = .ok a) : full = .ok a := by
  rcases h with rfl | ⟨-, distance, -, rfl⟩
  · exact ha
  · cases ha

end Cut

variable {short code : Bytes} (hfront : short <+: code) (offset distance : Nat)
include hfront

theorem cut_operand1 :
    Cut offset (distance + 1) short.length (operand1 short offset distance)
      (operand1 code offset distance) := by
  obtain ⟨rest, rfl⟩ := hfront
  rw [operand1, operand1, List.drop_append]
  cases h : short.drop distance with
  | nil =>
    have hlength := List.drop_eq_nil_iff.mp h
    exact Or.inr ⟨by omega, distance, by omega, rfl⟩
  | cons a tail => exact Or.inl rfl

theorem cut_operand2 :
    Cut offset (distance + 2) short.length (operand2 short offset distance)
      (operand2 code offset distance) := by
  obtain ⟨rest, rfl⟩ := hfront
  have hlength := List.length_drop (l := short) (i := distance)
  rw [operand2, operand2, List.drop_append]
  rcases h : short.drop distance with _ | ⟨a, _ | ⟨b, tail⟩⟩
  case cons.cons => exact Or.inl rfl
  all_goals
    rw [h] at hlength
    simp only [List.length_nil, List.length_cons] at hlength
    exact Or.inr ⟨by omega, distance, by omega, rfl⟩

theorem cut_operand4 :
    Cut offset (distance + 4) short.length (operand4 short offset distance)
      (operand4 code offset distance) := by
  obtain ⟨rest, rfl⟩ := hfront
  have hlength := List.length_drop (l := short) (i := distance)
  rw [operand4, operand4, List.drop_append]
  rcases h : short.drop distance with _ | ⟨a, _ | ⟨b, _ | ⟨c, _ | ⟨d, tail⟩⟩⟩⟩
  case cons.cons.cons.cons => exact Or.inl rfl
  all_goals
    rw [h] at hlength
    simp only [List.length_nil, List.length_cons] at hlength
    exact Or.inr ⟨by omega, distance, by omega, rfl⟩

end Cut

/-! ## Cut instructions -/

namespace Shape

/-- The number of bytes up to the end of the last operand that `Shape.decode` reads. -/
def reach (offset : Nat) : Shape → Nat
  | load | store | increment | constant => 2
  | field | interfaceCall | call | dynamicCall | wideConstant => 3
  | wide => 4
  | tableSwitch => 1 + padding offset + 12
  | lookupSwitch => 1 + padding offset + 8
  | shortLoad | shortStore | branch | plain _ | unknown => 0

variable {context : Context} {offset : Nat} {op : UInt8} {short code : Bytes}

theorem cut_decode (hfront : short <+: code) (s : Shape) :
    Cut offset (s.reach offset) short.length (s.decode context offset op short)
      (s.decode context offset op code) := by
  cases s with
  | shortLoad | shortStore | branch | plain | unknown => exact .refl _
  | load | store | increment => exact (cut_operand1 hfront offset 1).bind fun _ => .refl _
  | constant => exact (cut_operand1 hfront offset 1).bind fun _ => .refl _
  | field | interfaceCall | call | dynamicCall | wideConstant =>
    exact (cut_operand2 hfront offset 1).bind fun _ => .refl _
  | wide =>
    refine ((cut_operand1 hfront offset 1).mono (by simp [reach])).bind fun inner => ?_
    exact (cut_operand2 hfront offset 2).bind fun slot => .refl _
  | tableSwitch =>
    have hlow := cut_operand4 hfront offset (1 + padding offset + 4)
    have hhigh := cut_operand4 hfront offset (1 + padding offset + 8)
    refine Cut.bind ?_ fun width => .refl _
    refine (hlow.mono (by simp only [reach]; omega)).bind fun low => ?_
    exact hhigh.bind fun high => .refl _
  | lookupSwitch =>
    have hpairs := cut_operand4 hfront offset (1 + padding offset + 4)
    exact (hpairs.bind fun pairs => .refl _).bind fun width => .refl _

/-- `reach` is at most the width. -/
theorem reach_le_width {s : Shape} {operation : Operation} {width : Nat}
    (h : s.decode context offset op code = .ok (operation, width)) : s.reach offset ≤ width := by
  cases hwidth : s.width? with
  | some n =>
    obtain rfl := decode_width hwidth h
    cases s <;> simp only [Shape.width?, reduceCtorEq, Option.some.injEq] at hwidth <;>
      simp only [reach] <;> omega
  | none =>
    cases s with
    | wide =>
      obtain ⟨_, _, -, -, ⟨-, -, rfl⟩ | ⟨-, rfl, -⟩⟩ := decodeWide_eq_ok.mp h <;>
        simp [reach]
    | tableSwitch =>
      obtain ⟨n, hn, h⟩ := bind_eq_ok.mp h
      obtain ⟨-, rfl⟩ := Prod.mk.inj (Except.ok.inj h)
      obtain ⟨_, _, count, -, -, -, rfl⟩ := tableSwitchWidth_eq_ok.mp hn
      simp only [reach]
      omega
    | lookupSwitch =>
      obtain ⟨n, hn, h⟩ := bind_eq_ok.mp h
      obtain ⟨-, rfl⟩ := Prod.mk.inj (Except.ok.inj h)
      obtain ⟨count, -, rfl⟩ := lookupSwitchWidth_eq_ok.mp hn
      simp only [reach]
      omega
    | unknown => cases h
    | _ => simp [Shape.width?] at hwidth

end Shape

section Walk

variable {context : Context} {lines : LineTable} {offset width : Nat} {op : UInt8}
  {operation : Operation}

/-- `decodeOne` on a prefix of the bytes is a `Cut` of the result on all of them. -/
theorem cut_decodeOne {short code : Bytes} (hfront : short <+: code)
    (h : decodeOne context offset op code = .ok (operation, width)) :
    Cut offset width short.length (decodeOne context offset op short) (.ok (operation, width)) := by
  rw [decodeOne_eq] at h ⊢
  rw [← h]
  exact ((shape op).cut_decode hfront).mono (Shape.reach_le_width h)

/-- `decodeOne` is monotone in the bytes behind the instruction. -/
theorem decodeOne_of_front {short code : Bytes} {result : Operation × Nat}
    (hfront : short <+: code) (h : decodeOne context offset op short = .ok result) :
    decodeOne context offset op code = .ok result := by
  rw [decodeOne_eq] at h ⊢
  exact ((shape op).cut_decode hfront).full_eq_ok h

/-- The step of `decodeFrom` over an instruction that lies inside the bytes. -/
theorem decodeFrom_cons_of_ok {rest : Bytes}
    (h : decodeOne context offset op (op :: rest) = .ok (operation, width))
    (hwidth : width ≤ (op :: rest).length) :
    decodeFrom context lines offset 0 (op :: rest) =
      ({ offset, opcode := op, operation, line := lines.lineAt offset } :: ·) <$>
        decodeFrom context lines (offset + width) 0 ((op :: rest).drop width) := by
  rw [decodeFrom_cons, h]
  exact if_neg (Nat.not_lt.mpr hwidth)

variable {bytes : Bytes} {k : Nat} (lines)

/-- `decodeFrom` on bytes cut inside the first instruction is a truncation inside it. -/
theorem decodeFrom_take_inside (hop : bytes.head? = some op)
    (h : decodeOne context offset op bytes = .ok (operation, width)) (hpos : 0 < k)
    (hlt : k < width) :
    ∃ position, offset ≤ position ∧ position < offset + width ∧
      decodeFrom context lines offset 0 (bytes.take k) = .error (.truncated position) := by
  obtain ⟨rest, rfl⟩ := List.head?_eq_some_iff.mp hop
  obtain ⟨n, rfl⟩ : ∃ n, k = n + 1 := ⟨k - 1, by omega⟩
  have hshort := cut_decodeOne ⟨_, List.take_append_drop (n + 1) (op :: rest)⟩ h
  rw [List.take_succ_cons] at hshort ⊢
  rw [decodeFrom_cons]
  rcases hshort with hshort | ⟨-, distance, hdistance, hshort⟩
  · -- The operands are there, and bytes are missing that nothing looks at.
    refine ⟨offset, le_rfl, by omega, ?_⟩
    rw [hshort]
    exact if_pos (by simp only [List.length_cons, List.length_take]; omega)
  · exact ⟨offset + distance, by omega, by omega, by rw [hshort]⟩

/-- `decodeFrom` on bytes cut behind the first instruction steps over it. -/
theorem decodeFrom_take_behind (hop : bytes.head? = some op)
    (h : decodeOne context offset op bytes = .ok (operation, width)) (hwidth : width ≤ k)
    (hk : k ≤ bytes.length) :
    decodeFrom context lines offset 0 (bytes.take k) =
      ({ offset, opcode := op, operation, line := lines.lineAt offset } :: ·) <$>
        decodeFrom context lines (offset + width) 0 ((bytes.take k).drop width) := by
  obtain ⟨rest, rfl⟩ := List.head?_eq_some_iff.mp hop
  have hpos := pos_of_decodeOne h
  obtain ⟨n, rfl⟩ : ∃ n, k = n + 1 := ⟨k - 1, by omega⟩
  have hlength : ((op :: rest).take (n + 1)).length = n + 1 := by
    rw [List.length_take]
    omega
  have hshort := cut_decodeOne ⟨_, List.take_append_drop (n + 1) (op :: rest)⟩ h
  rw [hlength] at hshort
  have hone := hshort.resolve_right fun hmissing => by omega
  rw [List.take_succ_cons] at hone hlength ⊢
  exact decodeFrom_cons_of_ok hone (by omega)

end Walk

/-! ## Cut bodies -/

/-- Two instructions of `TilesFrom` do not overlap. -/
theorem TilesFrom.apart {lines : LineTable} {code : Bytes} {offset width : Nat}
    {instructions : List Instruction} (h : TilesFrom lines code offset instructions)
    {instruction other : Instruction} (hmem : instruction ∈ instructions)
    (hother : other ∈ instructions) (hspans : Spans code instruction.offset width) :
    other.offset ≤ instruction.offset ∨ instruction.offset + width ≤ other.offset := by
  induction h with
  | nil => simp at hmem
  | cons opcode spans inside line call others ih =>
    rcases List.mem_cons.mp hmem with rfl | hlater <;>
      rcases List.mem_cons.mp hother with rfl | hotherLater
    · exact Or.inl le_rfl
    · obtain rfl := spans.unique hspans
      exact Or.inr (others.forall_mem other hotherLater).1
    · have hbehind := (others.forall_mem instruction hlater).1
      exact Or.inl (by omega)
    · exact ih hlater hotherLater

/-- `position` is the start of an instruction, or an end of `code`. -/
def IsBoundary (code : Bytes) (instructions : List Instruction) (position : Nat) : Prop :=
  position = 0 ∨ position = code.length ∨
    ∃ instruction ∈ instructions, instruction.offset = position

/-- `position` is strictly inside the instruction at `offset`. -/
structure Splits (code : Bytes) (position offset width : Nat) : Prop where
  spans : Spans code offset width
  behind : offset < position
  before : position < offset + width

/-- `front` consists of the instructions before `position`, in order. -/
def FrontOf (position : Nat) (instructions front : List Instruction) : Prop :=
  ∃ rest, instructions = front ++ rest ∧ (∀ instruction ∈ front, instruction.offset < position) ∧
    ∀ instruction ∈ rest, position ≤ instruction.offset

section Bodies

variable {context : Context} {lines : LineTable} {code : Bytes} {offset k : Nat}
  {instructions : List Instruction}

/-- `decodeFrom` on the code cut at `k`: the instructions before `k` if it is a boundary, and
otherwise a truncation inside the instruction that `k` splits. -/
theorem decodeFrom_take (hfrom : offset ≤ k) (hto : k ≤ code.length)
    (h : decodeFrom context lines offset 0 (code.drop offset) = .ok instructions) :
    (k = code.length ∨ ∃ instruction ∈ instructions, instruction.offset = k) ∧
        (∃ front, FrontOf k instructions front ∧
          decodeFrom context lines offset 0 ((code.take k).drop offset) = .ok front) ∨
      ∃ instruction ∈ instructions, ∃ width position, Splits code k instruction.offset width ∧
        instruction.offset ≤ position ∧ position < instruction.offset + width ∧
        decodeFrom context lines offset 0 ((code.take k).drop offset)
          = .error (.truncated position) := by
  have hle : offset ≤ code.length := hfrom.trans hto
  have htiles := tilesFrom_of_decodeFrom hle h
  -- The induction is on the instructions from the offset on; the cut stays where it is.
  induction instructions generalizing offset with
  | nil =>
    have hend := htiles.eq_nil_iff.mp rfl
    refine Or.inl ⟨Or.inl (by omega), [], ⟨[], rfl, by simp, by simp⟩, ?_⟩
    rw [List.drop_eq_nil_of_le (by rw [List.length_take]; omega), decodeFrom_nil]
  | cons instruction others ih =>
    obtain ⟨op, operation, width, hop, hone, hinside, hothers, rfl⟩ := exists_of_decodeFrom_drop h
    have hspans := decodeOne_spans hop hone
    have hhead : (code.drop offset).head? = some op := by rw [List.head?_drop, hop]
    have hlength : (code.drop offset).length = code.length - offset := List.length_drop
    rcases Nat.lt_trichotomy k offset with hlt | rfl | hbehind
    · omega
    · -- The cut is in front of everything that is left.
      refine Or.inl ⟨Or.inr ⟨_, List.mem_cons_self, rfl⟩, [], ⟨_, rfl, by simp, ?_⟩, ?_⟩
      · exact fun other hother => (htiles.forall_mem other hother).1
      · rw [List.drop_eq_nil_of_le (by rw [List.length_take]; omega), decodeFrom_nil]
    rcases Nat.lt_or_ge k (offset + width) with hsplit | hpast
    · obtain ⟨position, hlow, hhigh, herror⟩ := decodeFrom_take_inside lines hhead hone
        (by omega : 0 < k - offset) (by omega)
      rw [← List.drop_take] at herror
      exact Or.inr ⟨_, List.mem_cons_self, width, position, ⟨hspans, hbehind, hsplit⟩, hlow, hhigh,
        herror⟩
    · have hstep := decodeFrom_take_behind lines hhead hone (by omega : width ≤ k - offset)
        (by omega)
      rw [← List.drop_take, List.drop_drop] at hstep
      rw [hstep]
      rcases ih hpast hothers hinside (tilesFrom_of_decodeFrom hinside hothers) with
        ⟨hboundary, front, ⟨rest, rfl, hfront, hrest⟩, hok⟩ |
        ⟨later, hlater, width', position, hsplits, hlow, hhigh, herror⟩
      · refine Or.inl ⟨hboundary.imp_right ?_, _ :: front, ⟨rest, rfl, ?_, hrest⟩, ?_⟩
        · exact fun ⟨later, hlater, heq⟩ => ⟨later, List.mem_cons_of_mem _ hlater, heq⟩
        · simpa using ⟨hbehind, hfront⟩
        · rw [hok]
          rfl
      · refine Or.inr ⟨later, List.mem_cons_of_mem _ hlater, width', position, hsplits, hlow, hhigh,
          ?_⟩
        rw [herror]
        rfl

end Bodies

/-- **A cut is noticed where it is made.**  Let `code` decode and be cut behind `k` bytes.  If `k`
is a boundary, the rest decodes to the instructions before `k`.  Otherwise `k` `Splits` an
instruction, the last one that starts before it, and `decode` is `truncated` at a byte of this
instruction. -/
theorem decode_take (context : Context) (lines : LineTable) (code : Bytes)
    (instructions : List Instruction) (h : decode context lines code = .ok instructions) (k : Nat)
    (hk : k ≤ code.length) :
    (IsBoundary code instructions k →
      ∃ front, FrontOf k instructions front ∧ decode context lines (code.take k) = .ok front) ∧
    (¬ IsBoundary code instructions k →
      ∃ instruction ∈ instructions, ∃ width position, Splits code k instruction.offset width ∧
        (∀ other ∈ instructions, other.offset < k → other.offset ≤ instruction.offset) ∧
        instruction.offset ≤ position ∧ position < instruction.offset + width ∧
        decode context lines (code.take k) = .error (.truncated position)) := by
  have htiles : TilesFrom lines code 0 instructions := tilesFrom_of_decodeFrom (Nat.zero_le _) h
  rcases decodeFrom_take (Nat.zero_le k) hk h with
    ⟨hboundary, front, hfront, hok⟩ |
    ⟨instruction, hmem, width, position, hsplits, hlow, hhigh, herror⟩
  · exact ⟨fun _ => ⟨front, hfront, hok⟩, fun hnot => absurd (Or.inr hboundary) hnot⟩
  · have hapart : ∀ other ∈ instructions, other.offset ≤ instruction.offset ∨
        instruction.offset + width ≤ other.offset :=
      fun other hother => htiles.apart hmem hother hsplits.spans
    obtain ⟨hspans, hbehind, hbefore⟩ := hsplits
    refine ⟨?_, fun _ => ⟨instruction, hmem, width, position, ⟨hspans, hbehind, hbefore⟩, ?_, hlow,
      hhigh, herror⟩⟩
    · -- A boundary lies inside no instruction.
      obtain ⟨width', hspans', hinside⟩ := (htiles.forall_mem instruction hmem).2.2.1
      obtain rfl := hspans.unique hspans'
      rintro (rfl | rfl | ⟨other, hother, rfl⟩)
      · omega
      · omega
      · have := hapart other hother
        omega
    · intro other hother hlt
      have := hapart other hother
      omega

/-- `switchBody` cut inside the upper bound of the switch. -/
theorem decode_take_switchBody :
    decode ⟨⟨#[]⟩, []⟩ ⟨[]⟩ switchBody
        = .ok [⟨0, 0x1a, .load 0, none⟩, ⟨1, 0xaa, .switch, none⟩, ⟨24, 0xb1, .other, none⟩] ∧
      14 ≤ switchBody.length ∧
      ∃ position, 1 ≤ position ∧ position < 24 ∧
        decode ⟨⟨#[]⟩, []⟩ ⟨[]⟩ (switchBody.take 14) = .error (.truncated position) := by
  have hdecode : decode ⟨⟨#[]⟩, []⟩ ⟨[]⟩ switchBody
      = .ok [⟨0, 0x1a, .load 0, none⟩, ⟨1, 0xaa, .switch, none⟩, ⟨24, 0xb1, .other, none⟩] := rfl
  have hk : 14 ≤ switchBody.length := by decide
  have hswitch : Spans switchBody 1 23 :=
    @Spans.tableSwitch switchBody 1 2 2 0 1 rfl (by decide) (by decide) rfl rfl (by decide)
  obtain ⟨-, hinside⟩ := decode_take _ _ _ _ hdecode 14 hk
  obtain ⟨instruction, hmem, width, position, hsplits, hlast, hlow, hhigh, herror⟩ :=
    hinside (by simp [IsBoundary, switchBody])
  obtain rfl : instruction = ⟨1, 0xaa, .switch, none⟩ := by
    have hfirst := hlast ⟨1, 0xaa, .switch, none⟩ (by simp) (by decide)
    have hbehind := hsplits.behind
    simp only [List.mem_cons, List.not_mem_nil, or_false] at hmem
    rcases hmem with rfl | rfl | rfl
    · simp at hfirst
    · rfl
    · simp at hbehind
  obtain rfl := hsplits.spans.unique hswitch
  exact ⟨hdecode, hk, position, hlow, hhigh, herror⟩

end ClassAudit.Code
