import ClassAudit.Proofs.BigEndian

/-!
# What a reader takes

`Reads reader bytes a` says that the reader takes exactly these bytes off the front, whatever comes
behind them, and returns `a`.  A reader made of parts takes the bytes of its parts in their order,
so that a whole file is followed part by part, and no proof has to say where in the file it stands.
-/

namespace ClassAudit

namespace Reader

variable {α β : Type}

/-- Inversion of `>>=` for readers. -/
theorem bind_eq_some {reader : Reader α} {next : α → Reader β} {bytes : Bytes}
    {result : β × Bytes} :
    (reader >>= next) bytes = some result ↔
      ∃ a rest, reader bytes = some (a, rest) ∧ next a rest = some result := by
  show (reader bytes).bind (fun p => next p.1 p.2) = some result ↔ _
  rw [Option.bind_eq_some_iff]
  exact Prod.exists

/-- `whole` succeeds iff the reader leaves no bytes. -/
theorem whole_eq_some_iff {reader : Reader α} {bytes : Bytes} {a : α} :
    whole reader bytes = some a ↔ reader bytes = some (a, []) := by
  rw [whole]
  split
  next b hread => simp [hread]
  next hnot =>
    simp only [reduceCtorEq, false_iff]
    exact hnot a

end Reader

/-- `reader` takes exactly `bytes` off the front, whatever follows, and returns `a`. -/
def Reads {α : Type} (reader : Reader α) (bytes : Bytes) (a : α) : Prop :=
  ∀ rest, reader (bytes ++ rest) = some (a, rest)

/-- A table: the number of entries in two bytes, then the entries. -/
def tableBytes {α : Type} (write : α → Bytes) (entries : List α) : Bytes :=
  bytes2 entries.length ++ entries.flatMap write

namespace Reads

variable {α β : Type}

theorem pure (a : α) : Reads (Pure.pure a) [] a :=
  fun _ => rfl

/-- `Reads` composes along `>>=`. -/
theorem bind {reader : Reader α} {next : α → Reader β} {first second : Bytes} {a : α} {b : β}
    (ha : Reads reader first a) (hb : Reads (next a) second b) :
    Reads (reader >>= next) (first ++ second) b := by
  intro rest
  show (reader (first ++ second ++ rest)).bind (fun p => next p.1 p.2) = _
  rw [List.append_assoc, ha]
  exact hb rest

/-- `Reads` for a reader followed by a pure function. -/
theorem map {reader : Reader α} {bytes : Bytes} {a : α} (f : α → β) (h : Reads reader bytes a) :
    Reads (reader >>= fun a => Pure.pure (f a)) bytes (f a) := by
  have hbind : Reads (reader >>= fun a => Pure.pure (f a)) (bytes ++ []) (f a) :=
    h.bind (pure (f a))
  rwa [List.append_nil] at hbind

theorem byte (b : UInt8) : Reads Reader.byte [b] b :=
  fun _ => rfl

/-- `Reads` for a tag byte that selects the next reader. -/
theorem tag {next : Nat → Reader β} {bytes : Bytes} {b : β} (tag : UInt8)
    (h : Reads (next tag.toNat) bytes b) : Reads (Reader.u1 >>= next) (tag :: bytes) b :=
  h

theorem u2 {n : Nat} (hn : n < 65536) : Reads Reader.u2 (bytes2 n) n := by
  intro rest
  show some ((n / 256).toUInt8.toNat * 256 + n.toUInt8.toNat, rest) = some (n, rest)
  rw [bytes2_value hn]

/-- `u4` reads `bytes4` modulo `2 ^ 32`. -/
theorem u4_mod (n : Nat) : Reads Reader.u4 (bytes4 n) (n % 4294967296) := by
  intro rest
  show some (((n / 65536 / 256).toUInt8.toNat * 256 + (n / 65536).toUInt8.toNat) * 65536
    + ((n / 256).toUInt8.toNat * 256 + n.toUInt8.toNat), rest) = some (n % 4294967296, rest)
  have hvalue : (n / 65536 / 256 % 256 * 256 + n / 65536 % 256) * 65536
      + (n / 256 % 256 * 256 + n % 256) = n % 4294967296 := by omega
  rw [toNat_toUInt8, toNat_toUInt8, toNat_toUInt8, toNat_toUInt8, hvalue]

theorem u4 {n : Nat} (hn : n < 4294967296) : Reads Reader.u4 (bytes4 n) n := by
  have h := u4_mod n
  rwa [Nat.mod_eq_of_lt hn] at h

theorem take (bytes : Bytes) : Reads (Reader.take bytes.length) bytes bytes := by
  induction bytes with
  | nil => exact pure []
  | cons b rest ih => exact (byte b).bind (ih.map (b :: ·))

theorem skip (bytes : Bytes) : Reads (Reader.skip bytes.length) bytes () :=
  (take bytes).map fun _ => ()

theorem times {reader : Reader β} {write : α → Bytes} {value : α → β} (entries : List α)
    (h : ∀ entry ∈ entries, Reads reader (write entry) (value entry)) :
    Reads (Reader.times entries.length reader) (entries.flatMap write) (entries.map value) := by
  induction entries with
  | nil => exact pure []
  | cons entry rest ih =>
    have hrest := ih fun other hother => h other (List.mem_cons_of_mem _ hother)
    exact (h entry List.mem_cons_self).bind (hrest.map (value entry :: ·))

/-- `Reads` for `Reader.table`, entry by entry. -/
theorem table {reader : Reader β} {write : α → Bytes} {value : α → β} {entries : List α}
    (hlength : entries.length < 65536)
    (h : ∀ entry ∈ entries, Reads reader (write entry) (value entry)) :
    Reads (Reader.table reader) (tableBytes write entries) (entries.map value) :=
  (u2 hlength).bind (times entries h)

theorem numbers {number : α → Nat} {entries : List α} (hlength : entries.length < 65536)
    (h : ∀ entry ∈ entries, number entry < 65536) :
    Reads Reader.numbers (tableBytes (fun entry => bytes2 (number entry)) entries)
      (entries.map number) :=
  table hlength fun entry hentry => u2 (h entry hentry)

/-- `Reads` gives `Reader.whole` on exactly its bytes. -/
theorem whole {reader : Reader α} {bytes : Bytes} {a : α} (h : Reads reader bytes a) :
    Reader.whole reader bytes = some a := by
  have hall := h []
  rw [List.append_nil] at hall
  exact Reader.whole_eq_some_iff.mpr hall

end Reads

end ClassAudit
