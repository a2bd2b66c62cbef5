import ClassAudit.ClassFile.ConstantPool
import Mathlib.Logic.Basic

/-!
# What an index of the constant pool stands for

Relations between an index and what it refers to, such as `HasMember`, stated by the constants of
the pool alone.  Each lookup of `ConstantPool`, such as `ConstantPool.member`, succeeds exactly
where its relation holds, with the value of the relation.
-/

namespace ClassAudit

/-- Inversion of `>>=` in `Except`. -/
theorem bind_eq_ok {ε α β : Type} {x : Except ε α} {f : α → Except ε β} {b : β} :
    (x >>= f) = .ok b ↔ ∃ a, x = .ok a ∧ f a = .ok b := by
  cases x with
  | error e => simp [bind, Except.bind]
  | ok a => simp [bind, Except.bind]

theorem map_eq_ok {ε α β : Type} {x : Except ε α} {f : α → β} {b : β} :
    (f <$> x) = .ok b ↔ ∃ a, x = .ok a ∧ f a = b := by
  cases x with
  | error e => simp [Functor.map, Except.map]
  | ok a => simp [Functor.map, Except.map]

namespace ConstantPool

variable {pool : ConstantPool} {index : Nat}

/-! ## Relations -/

/-- The entry at `index` is the text `text`. -/
def HasText (pool : ConstantPool) (index : Nat) (text : String) : Prop :=
  pool.get? index = some (.utf8 text)

/-- The entry at `index` is a class named `name`. -/
def HasClass (pool : ConstantPool) (index : Nat) (name : String) : Prop :=
  ∃ i, pool.get? index = some (.classInfo i) ∧ pool.HasText i name

/-- The entry at `index` is a name with a descriptor. -/
def HasSignature (pool : ConstantPool) (index : Nat) (name descriptor : String) : Prop :=
  ∃ i j, pool.get? index = some (.nameAndType i j) ∧ pool.HasText i name ∧
    pool.HasText j descriptor

/-- The entries at `owner` and `signature` make up `member`. -/
def HasMember (pool : ConstantPool) (owner signature : Nat) (member : MemberRef) : Prop :=
  pool.HasClass owner member.owner ∧ pool.HasSignature signature member.name member.descriptor

/-- The entry at `index` is a field reference to `member`. -/
def HasField (pool : ConstantPool) (index : Nat) (member : MemberRef) : Prop :=
  ∃ i j, pool.get? index = some (.fieldRef i j) ∧ pool.HasMember i j member

/-- The entry at `index` is a method reference to `member`, of a class or of an interface. -/
def HasMethod (pool : ConstantPool) (index : Nat) (member : MemberRef) : Prop :=
  ∃ i j, (pool.get? index = some (.methodRef i j) ∨
    pool.get? index = some (.interfaceMethodRef i j)) ∧ pool.HasMember i j member

/-- The entry at `index` is a method handle for `member`. -/
def HasHandle (pool : ConstantPool) (index : Nat) (member : MemberRef) : Prop :=
  ∃ kind i, pool.get? index = some (.methodHandle kind i) ∧ pool.HasMethod i member

/-- The entry at `index` is a call site: an index into the bootstrap table, with `name` and
`descriptor`. -/
def HasDynamicCall (pool : ConstantPool) (index bootstrap : Nat) (name descriptor : String) :
    Prop :=
  ∃ i, pool.get? index = some (.invokeDynamic bootstrap i) ∧ pool.HasSignature i name descriptor

/-- The entry at `index` is loadable: `some text` for a string constant, `none` for any other
constant. -/
def HasLiteral (pool : ConstantPool) (index : Nat) : Option String → Prop
  | some text => ∃ i, pool.get? index = some (.string i) ∧ pool.HasText i text
  | none => ∃ constant, pool.get? index = some constant ∧ constant ≠ .empty ∧
      ∀ i, constant ≠ .string i

/-! ## Look-ups -/

theorem text_eq_ok {value : String} : pool.text index = .ok value ↔ pool.HasText index value := by
  unfold text text? HasText
  rcases pool.get? index with _ | constant
  · simp
  · cases constant <;> simp

theorem className_eq_ok {name : String} :
    pool.className index = .ok name ↔ pool.HasClass index name := by
  unfold className HasClass
  rcases pool.get? index with _ | constant
  · simp
  · cases constant <;> simp [text_eq_ok]

theorem nameAndType_eq_ok {name descriptor : String} :
    pool.nameAndType index = .ok (name, descriptor) ↔ pool.HasSignature index name descriptor := by
  unfold nameAndType HasSignature
  rcases pool.get? index with _ | constant
  · simp
  · cases constant <;> simp [bind_eq_ok, text_eq_ok, pure, Except.pure, and_assoc]

theorem member_eq_ok {owner signature : Nat} {value : MemberRef} :
    pool.member owner signature = .ok value ↔ pool.HasMember owner signature value := by
  unfold member HasMember
  simp only [bind_eq_ok, className_eq_ok]
  constructor
  · rintro ⟨name, howner, ⟨_, _⟩, hsignature, h⟩
    obtain rfl := Except.ok.inj h
    exact ⟨howner, nameAndType_eq_ok.mp hsignature⟩
  · rintro ⟨howner, hsignature⟩
    exact ⟨_, howner, _, nameAndType_eq_ok.mpr hsignature, rfl⟩

theorem fieldRef_eq_ok {value : MemberRef} :
    pool.fieldRef index = .ok value ↔ pool.HasField index value := by
  unfold fieldRef HasField
  rcases pool.get? index with _ | constant
  · simp
  · cases constant <;> simp [member_eq_ok, and_assoc]

theorem methodRef_eq_ok {value : MemberRef} :
    pool.methodRef index = .ok value ↔ pool.HasMethod index value := by
  unfold methodRef HasMethod
  rcases pool.get? index with _ | constant
  · simp
  · cases constant <;> simp [member_eq_ok, and_assoc]

theorem methodHandle_eq_ok {value : MemberRef} :
    pool.methodHandle index = .ok value ↔ pool.HasHandle index value := by
  unfold methodHandle HasHandle
  rcases pool.get? index with _ | constant
  · simp
  · cases constant <;> simp [methodRef_eq_ok, and_assoc]

theorem invokeDynamic_eq_ok {bootstrap : Nat} {name descriptor : String} :
    pool.invokeDynamic index = .ok (bootstrap, name, descriptor) ↔
      pool.HasDynamicCall index bootstrap name descriptor := by
  unfold invokeDynamic HasDynamicCall
  rcases pool.get? index with _ | constant
  · simp
  · cases constant <;>
      simp [bind_eq_ok, nameAndType_eq_ok, pure, Except.pure, and_left_comm, and_assoc]

theorem stringLiteral_eq_ok {value : Option String} :
    pool.stringLiteral index = .ok value ↔ pool.HasLiteral index value := by
  unfold stringLiteral
  cases value <;> unfold HasLiteral <;> rcases pool.get? index with _ | constant
  case none.none | some.none => simp
  all_goals cases constant <;> simp [map_eq_ok, text_eq_ok]

end ConstantPool

end ClassAudit
