import ClassAudit.ClassFile.Load
import ClassAudit.Proofs.WrittenPool
import Mathlib

/-!
# Class files delimit themselves

No class file is the front of another one.  A file that is cut anywhere is refused, and so is a file
with bytes behind its end, although nothing in a class file says how long it is.

## Shape of the proof

Readers go forward only.  `Reader.Persists` says of two readers that whatever the first one takes
off some bytes, the second one takes off as well, and leaves more if there are more bytes behind.
A reader made of parts that persist persists, and the parts are those of the format.  The two
readers differ in one thing, the depth up to which they follow nested values: a longer file is read
to a greater depth.

So if one class file is the front of another, reading the longer one ends where the shorter one
ends, and nothing is left over for the longer one to have in addition.
-/

namespace ClassAudit

/-! ## Readers that go forward -/

/-- What `narrow` reads off the front of some bytes, `wide` reads off them with any `more` appended,
and leaves `more` behind. -/
def Reader.Persists {α : Type} (narrow wide : Reader α) : Prop :=
  ∀ ⦃bytes : Bytes⦄ ⦃a : α⦄ ⦃rest : Bytes⦄, narrow bytes = some (a, rest) →
    ∀ more, wide (bytes ++ more) = some (a, rest ++ more)

namespace Reader.Persists

variable {α β : Type}

theorem pure (a : α) : Persists (Pure.pure a) (Pure.pure a) := by
  intro bytes b rest h more
  obtain ⟨rfl, rfl⟩ := Prod.mk.inj (Option.some.inj h)
  rfl

theorem refuse (wide : Reader α) : Persists Reader.refuse wide := by
  intro bytes a rest h
  cases h

theorem bind {narrow wide : Reader α} {next next' : α → Reader β} (h : Persists narrow wide)
    (hnext : ∀ a, Persists (next a) (next' a)) : Persists (narrow >>= next) (wide >>= next') := by
  intro bytes b rest hread more
  obtain ⟨a, middle, hfirst, hsecond⟩ := Reader.bind_eq_some.mp hread
  exact Reader.bind_eq_some.mpr ⟨a, middle ++ more, h hfirst more, hnext a hsecond more⟩

theorem ite {c : Prop} [Decidable c] {narrow wide narrow' wide' : Reader α}
    (h : Persists narrow wide) (h' : Persists narrow' wide') :
    Persists (if c then narrow else narrow') (if c then wide else wide') := by
  split_ifs
  · exact h
  · exact h'

theorem byte : Persists Reader.byte Reader.byte := by
  intro bytes b rest h more
  cases bytes with
  | nil => cases h
  | cons first others =>
    obtain ⟨rfl, rfl⟩ := Prod.mk.inj (Option.some.inj h)
    rfl

theorem u1 : Persists Reader.u1 Reader.u1 :=
  byte.bind fun _ => .pure _

theorem u2 : Persists Reader.u2 Reader.u2 :=
  u1.bind fun _ => u1.bind fun _ => .pure _

theorem u4 : Persists Reader.u4 Reader.u4 :=
  u2.bind fun _ => u2.bind fun _ => .pure _

theorem take (n : Nat) : Persists (Reader.take n) (Reader.take n) := by
  induction n with
  | zero => exact .pure _
  | succ n ih => exact byte.bind fun _ => ih.bind fun _ => .pure _

theorem skip (n : Nat) : Persists (Reader.skip n) (Reader.skip n) :=
  (take n).bind fun _ => .pure _

theorem times {narrow wide : Reader α} (n : Nat) (h : Persists narrow wide) :
    Persists (Reader.times n narrow) (Reader.times n wide) := by
  induction n with
  | zero => exact .pure _
  | succ n ih => exact h.bind fun _ => ih.bind fun _ => .pure _

theorem table {narrow wide : Reader α} (h : Persists narrow wide) :
    Persists (Reader.table narrow) (Reader.table wide) :=
  u2.bind fun count => times count h

theorem numbers : Persists Reader.numbers Reader.numbers :=
  table u2

/-- `Persists` for `Reader.available`, which only looks ahead. -/
theorem available (n : Nat) : Persists (Reader.available n) (Reader.available n) := by
  intro bytes _ rest h more
  unfold Reader.available at h ⊢
  split_ifs at h with hn
  obtain ⟨-, rfl⟩ := Prod.mk.inj (Option.some.inj h)
  rw [if_pos (by rw [List.length_append]; omega)]

end Reader.Persists

open Reader (Persists)

/-! ## Constants -/

theorem Constant.persists_read : Persists Constant.read Constant.read := by
  refine Persists.u1.bind fun tag => ?_
  split
  case h_1 =>
    -- The text of the bytes does not depend on what comes behind them.
    refine Persists.u2.bind fun length => (Persists.take length).bind fun bytes => ?_
    split
    · exact .pure _
    · exact .refuse _
  case h_2 | h_3 => exact Persists.u4.bind fun _ => .pure _
  case h_4 | h_5 => exact Persists.u4.bind fun _ => Persists.u4.bind fun _ => .pure _
  case h_6 | h_7 | h_13 | h_16 | h_17 => exact Persists.u2.bind fun _ => .pure _
  case h_8 | h_9 | h_10 | h_11 | h_14 | h_15 =>
    exact Persists.u2.bind fun _ => Persists.u2.bind fun _ => .pure _
  case h_12 => exact Persists.u1.bind fun _ => Persists.u2.bind fun _ => .pure _
  case h_18 => exact .refuse _

namespace ConstantPool

theorem persists_readSlots (slots : Nat) : Persists (readSlots slots) (readSlots slots) := by
  induction slots using readSlots.induct with
  | case1 => exact .pure _
  | case2 => exact Constant.persists_read.bind fun _ => .pure _
  | case3 slots ihWide ih =>
    refine Constant.persists_read.bind fun constant => .ite ?_ ?_
    · exact ihWide.bind fun _ => .pure _
    · exact ih.bind fun _ => .pure _

theorem persists_read : Persists read read := by
  refine Persists.u2.bind fun count => ?_
  split
  · exact .pure _
  · exact (persists_readSlots _).bind fun _ => .pure _

end ConstantPool

/-! ## Annotations and stack maps -/

namespace Metadata

theorem persists_entryOf {value value' : Reader Unit} (h : Persists value value') :
    Persists (entryOf value) (entryOf value') := by
  have hnamed : Persists (do Reader.skip 2; value) (do Reader.skip 2; value') :=
    (Persists.skip 2).bind fun _ => h
  exact (Persists.skip 2).bind fun _ => hnamed.table.bind fun _ => .pure _

/-- `elementValue` to a greater depth `Persists` what it reads to a smaller one. -/
theorem persists_elementValue {depth greater : Nat} (hle : depth ≤ greater) :
    Persists (elementValue depth) (elementValue greater) := by
  induction depth generalizing greater with
  | zero => exact .refuse _
  | succ depth ih =>
    obtain ⟨greater, rfl⟩ : ∃ n, greater = n + 1 := ⟨greater - 1, by omega⟩
    have hnested := ih (Nat.le_of_succ_le_succ hle)
    refine Persists.u1.bind fun tag => ?_
    refine .ite (.skip 2) <| .ite (.skip 4) <| .ite (.skip 2) <|
      .ite (persists_entryOf hnested) <| .ite ?_ (.refuse _)
    exact hnested.table.bind fun _ => .pure _

section Depth

variable {depth greater : Nat} (hle : depth ≤ greater)

include hle

theorem persists_entry : Persists (entry depth) (entry greater) :=
  persists_entryOf (persists_elementValue hle)

theorem persists_entries : Persists (entries depth) (entries greater) :=
  (persists_entry hle).table.bind fun _ => .pure _

theorem persists_parameterEntries :
    Persists (parameterEntries depth) (parameterEntries greater) :=
  Persists.u1.bind fun parameters =>
    (Persists.times parameters (persists_entries hle)).bind fun _ => .pure _

theorem persists_typeEntry : Persists (typeEntry depth) (typeEntry greater) := by
  have htarget : Persists target target := by
    refine Persists.u1.bind fun kind => ?_
    refine .ite (.skip 1) <| .ite (.skip 2) <| .ite (.skip 2) <| .ite (.pure _) <|
      .ite (.skip 1) <| .ite (.skip 2) <| .ite ?_ <| .ite (.skip 2) <| .ite (.skip 3) (.refuse _)
    exact (Persists.skip 6).table.bind fun _ => .pure _
  exact htarget.bind fun _ => Persists.u1.bind fun steps =>
    (Persists.times steps (.skip 2)).bind fun _ => persists_entry hle

theorem persists_typeEntries : Persists (typeEntries depth) (typeEntries greater) :=
  (persists_typeEntry hle).table.bind fun _ => .pure _

end Depth

end Metadata

theorem StackMap.persists_frame : Persists StackMap.frame StackMap.frame := by
  have htype : Persists StackMap.verificationType StackMap.verificationType :=
    Persists.u1.bind fun tag => .ite (.pure _) <| .ite (.skip 2) (.refuse _)
  refine Persists.u1.bind fun type => ?_
  refine .ite (.pure _) <| .ite htype <| .ite (.refuse _) <|
    .ite ((Persists.skip 2).bind fun _ => htype) <| .ite (.skip 2) <| .ite ?_ ?_
  · exact (Persists.skip 2).bind fun _ => (Persists.times _ htype).bind fun _ => .pure _
  · exact (Persists.skip 2).bind fun _ => htype.table.bind fun _ => htype.table.bind fun _ =>
      .pure _

/-! ## Attributes -/

namespace Attribute

theorem persists_ignoring {α : Type} {narrow wide : Reader α} (h : Persists narrow wide) :
    Persists (ignoring narrow) (ignoring wide) :=
  h.bind fun _ => .pure _

theorem persists_readCode {nested nested' : Reader Attribute} (h : Persists nested nested') :
    Persists (readCode nested) (readCode nested') :=
  (Persists.skip 4).bind fun _ => Persists.u4.bind fun length =>
    (Persists.take length).bind fun _ => (Persists.skip 8).table.bind fun _ =>
      h.table.bind fun _ => .pure _

theorem persists_readComponent {nested nested' : Reader Attribute} (h : Persists nested nested') :
    Persists (readComponent nested) (readComponent nested') :=
  (Persists.skip 4).bind fun _ => h.table.bind fun _ => .pure _

theorem persists_readBody {depth greater : Nat} {nested nested' : Reader Attribute}
    (hle : depth ≤ greater) (h : Persists nested nested') (name : String) (length : Nat) :
    Persists (readBody depth nested name length) (readBody greater nested' name length) := by
  have hline : Persists readLine readLine :=
    Persists.u2.bind fun _ => Persists.u2.bind fun _ => .pure _
  have hlocal : Persists readLocal readLocal :=
    Persists.u2.bind fun _ => Persists.u2.bind fun _ => Persists.u2.bind fun _ =>
      Persists.u2.bind fun _ => Persists.u2.bind fun _ => .pure _
  have hbootstrap : Persists readBootstrap readBootstrap :=
    Persists.u2.bind fun _ => Persists.numbers.bind fun _ => .pure _
  unfold readBody
  -- The cases are the names in the order in which the reader knows them.
  split
  case h_1 | h_6 => exact Persists.u2.bind fun _ => .pure _
  case h_2 => exact persists_readCode h
  case h_3 | h_22 | h_24 => exact persists_ignoring .numbers
  case h_4 | h_5 => exact .pure _
  case h_7 => exact hline.table.bind fun _ => .pure _
  case h_8 => exact hlocal.table.bind fun _ => .pure _
  case h_9 | h_12 => exact persists_ignoring (Persists.skip _).table
  case h_10 | h_11 | h_21 => exact persists_ignoring (.skip _)
  case h_13 =>
    exact persists_ignoring <|
      (Persists.available length).bind fun _ => Metadata.persists_entries hle
  case h_14 => exact persists_ignoring (Metadata.persists_entries hle)
  case h_15 => exact persists_ignoring (Metadata.persists_parameterEntries hle)
  case h_16 => exact persists_ignoring (Metadata.persists_typeEntries hle)
  case h_17 =>
    exact persists_ignoring <|
      (Persists.available length).bind fun _ => Metadata.persists_elementValue hle
  case h_18 => exact persists_ignoring StackMap.persists_frame.table
  case h_19 => exact hbootstrap.table.bind fun _ => .pure _
  case h_20 => exact persists_ignoring <| Persists.u1.bind fun n => .times n (.skip 4)
  case h_23 => exact persists_ignoring (persists_readComponent h).table
  case h_25 => exact .refuse _

/-- `read` to a greater depth `Persists` what it reads to a smaller one. -/
theorem persists_read (pool : ConstantPool) {depth greater : Nat} (hle : depth ≤ greater) :
    Persists (read pool depth) (read pool greater) := by
  induction depth generalizing greater with
  | zero => exact .refuse _
  | succ depth ih =>
    obtain ⟨greater, rfl⟩ : ∃ n, greater = n + 1 := ⟨greater - 1, by omega⟩
    have hdepth : depth ≤ greater := Nat.le_of_succ_le_succ hle
    refine Persists.u2.bind fun nameIndex => Persists.u4.bind fun length => ?_
    cases pool.text? nameIndex with
    | none => exact .refuse _
    | some name => exact persists_readBody hdepth (ih hdepth) name length

end Attribute

/-! ## Class files -/

namespace RawClass

theorem persists_readMember (pool : ConstantPool) {depth greater : Nat} (hle : depth ≤ greater) :
    Persists (readMember pool depth) (readMember pool greater) :=
  Persists.u2.bind fun _ => Persists.u2.bind fun _ => Persists.u2.bind fun _ =>
    (Attribute.persists_read pool hle).table.bind fun _ => .pure _

theorem persists_read {depth greater : Nat} (hle : depth ≤ greater) :
    Persists (read depth) (read greater) := by
  refine Persists.u4.bind fun number => .ite (.refuse _) ?_
  refine (Persists.skip 4).bind fun _ => ConstantPool.persists_read.bind fun pool => ?_
  refine Persists.u2.bind fun _ => Persists.u2.bind fun _ => Persists.u2.bind fun _ => ?_
  have hmembers := (persists_readMember pool hle).table
  refine Persists.numbers.bind fun _ => hmembers.bind fun _ => hmembers.bind fun _ => ?_
  exact (Attribute.persists_read pool hle).table.bind fun _ => .pure _

/-- The byte strings that `ofBytes?` accepts are prefix-free. -/
theorem eq_of_ofBytes?_of_prefix {front file : Bytes} {raw raw' : RawClass}
    (hfront : ofBytes? front = some raw) (hfile : ofBytes? file = some raw')
    (h : front <+: file) : front = file := by
  obtain ⟨more, rfl⟩ := h
  have hle : front.length ≤ (front ++ more).length := by
    rw [List.length_append]
    omega
  -- The longer file is read like the shorter one, which leaves what it has in addition.
  have hlonger := persists_read hle (Reader.whole_eq_some_iff.mp hfront) more
  have hwhole := Reader.whole_eq_some_iff.mp hfile
  obtain ⟨-, hmore⟩ := Prod.mk.inj (Option.some.inj (hlonger.symm.trans hwhole))
  rw [List.nil_append] at hmore
  rw [hmore, List.append_nil]

end RawClass

namespace Class

/-- `load` rejects exactly the bytes that `RawClass.ofBytes?` refuses. -/
theorem load_eq_rejected_iff {unit : String} {file : Bytes} :
    load unit file = .error (.rejected unit) ↔ RawClass.ofBytes? file = none := by
  rw [load]
  cases RawClass.ofBytes? file with
  | none => simp
  | some raw => cases hbuild : raw.build <;> simp [hbuild]

/-- **Class files are self-delimiting.**  Bytes that `load` does not reject load or are malformed.
It rejects every proper prefix of them, and every proper extension. -/
theorem load_delimited (unit : String) (file : Bytes)
    (h : load unit file ≠ .error (.rejected unit)) :
    ((∃ c, load unit file = .ok c) ∨ ∃ fault, load unit file = .error (.malformed unit fault)) ∧
    (∀ (other : String) (front : Bytes), front <+: file → front ≠ file →
      load other front = .error (.rejected other)) ∧
    ∀ (other : String) (more : Bytes), more ≠ [] →
      load other (file ++ more) = .error (.rejected other) := by
  obtain ⟨raw, hraw⟩ := Option.ne_none_iff_exists'.mp (mt load_eq_rejected_iff.mpr h)
  refine ⟨?_, fun other front hprefix hne => ?_, fun other more hne => ?_⟩
  · rw [load, hraw]
    cases hbuild : raw.build <;> simp [hbuild]
  · rw [load_eq_rejected_iff]
    by_contra hfront
    obtain ⟨_, hfront⟩ := Option.ne_none_iff_exists'.mp hfront
    exact hne (RawClass.eq_of_ofBytes?_of_prefix hfront hraw hprefix)
  · rw [load_eq_rejected_iff]
    by_contra hlonger
    obtain ⟨_, hlonger⟩ := Option.ne_none_iff_exists'.mp hlonger
    have hsame := RawClass.eq_of_ofBytes?_of_prefix hraw hlonger (List.prefix_append file more)
    exact hne (List.self_eq_append_right.mp hsame)

/-- A class with an annotation that holds an array of a string and another annotation.  The
attribute extends to the end of the file. -/
def markedFile : Bytes :=
  bytes4 RawClass.magic ++ [0, 0, 0, 61]
    ++ ConstantPool.bytes [.utf8 "com/example/Marked", .classInfo 1,
      .utf8 "RuntimeVisibleAnnotations", .utf8 "Lcom/example/Mark;", .utf8 "value"]
    ++ [0x00, 0x21, 0, 2, 0, 0, 0, 0, 0, 0, 0, 0]
    ++ [0, 1, 0, 3, 0, 0, 0, 19]
    ++ [0, 1, 0, 4, 0, 1, 0, 5, 0x5b, 0, 2, 0x73, 0, 1, 0x40, 0, 4, 0, 0]

/-- `markedFile` loads.  A prefix that ends before the inner element count and an extension by one
byte are rejected. -/
theorem load_delimited_marked :
    load "Marked.class" markedFile = .ok
        { name := "com/example/Marked"
          superName := none
          interfaces := []
          access := { isPublic := true }
          sourceFile := none
          fields := []
          methods := [] } ∧
      load "Marked.class" (markedFile.take 128) = .error (.rejected "Marked.class") ∧
      load "Marked.class" (markedFile ++ [0]) = .error (.rejected "Marked.class") := by
  have hload : load "Marked.class" markedFile = .ok
      ⟨"com/example/Marked", none, [], { isPublic := true }, none, [], []⟩ := by
    decide +kernel
  have hnot : load "Marked.class" markedFile ≠ .error (.rejected "Marked.class") := by
    rw [hload]
    simp
  obtain ⟨-, hcut, hlonger⟩ := load_delimited "Marked.class" markedFile hnot
  exact ⟨hload, hcut _ _ (List.take_prefix 128 _) (by decide +kernel),
    hlonger _ [0] (List.cons_ne_nil _ _)⟩

end Class

end ClassAudit
