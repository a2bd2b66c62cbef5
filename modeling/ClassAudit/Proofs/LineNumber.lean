import ClassAudit.ClassFile.Load
import ClassAudit.Proofs.Tiling
import Mathlib

/-!
# The line at an offset

The line at an offset is decided by one entry of the table: of the entries that start at or before
the offset, one with the greatest start, and the last of these in the order in which they were
given.  The table may be given in any order and may hold several entries for one start.

## Shape of the proof

`Decides` says which entry that is, by the place of the entry in the list.  What it says depends on
nothing but which entries there are and in which order those with one start come, and sorting the
entries changes neither, since it is stable.  In a sorted table the entry that decides is the last
one before the first that starts behind the offset.
-/

namespace ClassAudit

namespace LineTable

/-- `entry` starts at or before `offset`, no other such entry starts later, and those with the same
start come before it. -/
def Decides (entries : List (Nat × Nat)) (offset : Nat) (entry : Nat × Nat) : Prop :=
  ∃ before after, entries = before ++ entry :: after ∧ entry.1 ≤ offset ∧
    (∀ other ∈ before, other.1 ≤ offset → other.1 ≤ entry.1) ∧
    ∀ other ∈ after, other.1 ≤ offset → other.1 < entry.1

section Lookup

variable {entries others : List (Nat × Nat)} {offset : Nat} {entry : Nat × Nat}

/-- `Decides` holds of the last entry with the greatest start that is at most `offset`. -/
theorem decides_iff :
    Decides entries offset entry ↔ entry.1 ≤ offset ∧
      (∀ other ∈ entries, other.1 ≤ offset → other.1 ≤ entry.1) ∧
      (entries.filter fun other => decide (other.1 = entry.1)).getLast? = some entry := by
  constructor
  · rintro ⟨before, after, rfl, hstart, hbefore, hafter⟩
    refine ⟨hstart, ?_, ?_⟩
    · intro other hother hle
      rcases List.mem_append.mp hother with hother | hother
      · exact hbefore other hother hle
      rcases List.mem_cons.mp hother with rfl | hother
      · exact le_rfl
      · exact (hafter other hother hle).le
    · have hnone : after.filter (fun other => decide (other.1 = entry.1)) = [] := by
        refine List.filter_eq_nil_iff.mpr fun other hother heq => ?_
        have heq : other.1 = entry.1 := by simpa using heq
        have hlt := hafter other hother (by omega)
        omega
      rw [List.filter_append, List.filter_cons_of_pos (by simp), hnone, List.getLast?_append]
      rfl
  · rintro ⟨hstart, hgreatest, hlast⟩
    obtain ⟨front, hfront⟩ := List.getLast?_eq_some_iff.mp hlast
    obtain ⟨before, rest, rfl, -, hrest⟩ := List.filter_eq_append_iff.mp hfront
    obtain ⟨between, after, rfl, hbetween, -, hafter⟩ := List.filter_eq_cons_iff.mp hrest
    refine ⟨before ++ between, after, by simp, hstart, ?_, ?_⟩
    · intro other hother hle
      exact hgreatest other (by simp at hother ⊢; tauto) hle
    · intro other hother hle
      have hle' := hgreatest other (by simp; tauto) hle
      have hne := List.filter_eq_nil_iff.mp hafter other hother
      have hne : other.1 ≠ entry.1 := by simpa using hne
      omega

theorem Decides.mem (h : Decides entries offset entry) : entry ∈ entries := by
  obtain ⟨before, after, rfl, -⟩ := h
  simp

/-! ## Sorted tables -/

/-- Transitivity of the comparison by start. -/
theorem start_trans (a b c : Nat × Nat) (hab : decide (a.1 ≤ b.1) = true)
    (hbc : decide (b.1 ≤ c.1) = true) : decide (a.1 ≤ c.1) = true := by
  rw [decide_eq_true_eq] at hab hbc ⊢
  exact hab.trans hbc

theorem start_total (a b : Nat × Nat) : (decide (a.1 ≤ b.1) || decide (b.1 ≤ a.1)) = true := by
  simpa using Nat.le_total a.1 b.1

theorem pairwise_ofEntries (entries : List (Nat × Nat)) :
    (ofEntries entries).entries.Pairwise fun a b => a.1 ≤ b.1 := by
  have hsorted := List.pairwise_mergeSort start_trans start_total entries
  exact hsorted.imp fun h => by simpa using h

theorem mem_ofEntries : entry ∈ (ofEntries entries).entries ↔ entry ∈ entries :=
  List.mem_mergeSort

/-- `ofEntries` preserves the order of the entries with one start. -/
theorem filter_ofEntries (entries : List (Nat × Nat)) (start : Nat) :
    (ofEntries entries).entries.filter (fun entry => decide (entry.1 = start))
      = entries.filter fun entry => decide (entry.1 = start) := by
  set same := entries.filter fun entry => decide (entry.1 = start) with hsame
  have hstart : ∀ entry ∈ same, entry.1 = start := by
    intro entry hentry
    simpa using (List.mem_filter.mp hentry).2
  have hpairwise : same.Pairwise fun a b => decide (a.1 ≤ b.1) = true := by
    refine List.pairwise_of_forall_mem_list fun a ha b hb => ?_
    rw [hstart a ha, hstart b hb]
    simp
  -- As a sorted part of the entries they are a part of the sorted table, which has no more of them.
  have hsub : same.Sublist (ofEntries entries).entries :=
    List.sublist_mergeSort start_trans start_total hpairwise List.filter_sublist
  have hpart := hsub.filter fun entry => decide (entry.1 = start)
  rw [hsame, List.filter_filter] at hpart
  simp only [Bool.and_self] at hpart
  refine (hpart.eq_of_length ?_).symm
  exact ((List.mergeSort_perm entries _).filter _).length_eq.symm

/-- `ofEntries` preserves `Decides`. -/
theorem decides_ofEntries :
    Decides (ofEntries entries).entries offset entry ↔ Decides entries offset entry := by
  rw [decides_iff, decides_iff, filter_ofEntries]
  simp only [mem_ofEntries]

/-- In a sorted table, `dropWhile` leaves only entries that start behind `offset`. -/
theorem lt_of_mem_dropWhile (hsorted : entries.Pairwise fun a b => a.1 ≤ b.1)
    (h : entry ∈ entries.dropWhile fun other => decide (other.1 ≤ offset)) : offset < entry.1 := by
  induction entries with
  | nil => simp at h
  | cons first rest ih =>
    obtain ⟨hfirst, hrest⟩ := List.pairwise_cons.mp hsorted
    by_cases hstart : first.1 ≤ offset
    · rw [List.dropWhile_cons_of_pos (by simpa using hstart)] at h
      exact ih hrest h
    · rw [List.dropWhile_cons_of_neg (by simpa using hstart)] at h
      rcases List.mem_cons.mp h with rfl | hlater
      · omega
      · have hle := hfirst entry hlater
        omega

/-- In a sorted table, the last entry of `takeWhile` is the one that `Decides`. -/
theorem getLast?_takeWhile_eq_some_iff (hsorted : entries.Pairwise fun a b => a.1 ≤ b.1) :
    (entries.takeWhile fun other => decide (other.1 ≤ offset)).getLast? = some entry ↔
      Decides entries offset entry := by
  constructor
  · intro h
    obtain ⟨before, hbefore⟩ := List.getLast?_eq_some_iff.mp h
    have hentries := List.takeWhile_append_dropWhile (p := fun other => decide (other.1 ≤ offset))
      (l := entries)
    rw [hbefore, List.append_assoc] at hentries
    have hmem : entry ∈ entries.takeWhile fun other => decide (other.1 ≤ offset) := by
      rw [hbefore]
      simp
    refine ⟨before, _, hentries.symm, by simpa using List.mem_takeWhile_imp hmem, ?_, ?_⟩
    · intro other hother _
      rw [← hentries] at hsorted
      exact (List.pairwise_append.mp hsorted).2.2 other hother entry (by simp)
    · intro other hother hle
      have hlt := lt_of_mem_dropWhile hsorted hother
      omega
  · rintro ⟨before, after, rfl, hstart, -, hafter⟩
    obtain ⟨-, hbehind, hfront⟩ := List.pairwise_append.mp hsorted
    have hnone : after.takeWhile (fun other => decide (other.1 ≤ offset)) = [] := by
      cases after with
      | nil => rfl
      | cons next rest =>
        have hle := (List.pairwise_cons.mp hbehind).1 next List.mem_cons_self
        have hlt := hafter next List.mem_cons_self
        exact List.takeWhile_cons_of_neg (by simp; omega)
    have hall : ∀ other ∈ before, decide (other.1 ≤ offset) = true := by
      intro other hother
      simpa using (hfront other hother entry List.mem_cons_self).trans hstart
    rw [List.takeWhile_append_of_pos hall, List.takeWhile_cons_of_pos (by simpa using hstart),
      hnone, List.getLast?_append]
    rfl

/-- `lineAt` returns the line of the entry that `Decides`. -/
theorem lineAt_eq_some_iff {line : Nat} :
    (ofEntries entries).lineAt offset = some line ↔
      ∃ entry, Decides entries offset entry ∧ entry.2 = line := by
  rw [lineAt, Option.map_eq_some_iff]
  simp only [getLast?_takeWhile_eq_some_iff (pairwise_ofEntries entries), decides_ofEntries]

/-- `lineAt` is `none` iff every entry starts behind `offset`. -/
theorem lineAt_eq_none_iff :
    (ofEntries entries).lineAt offset = none ↔ ∀ entry ∈ entries, offset < entry.1 := by
  rw [lineAt, Option.map_eq_none_iff, List.getLast?_eq_none_iff]
  constructor
  · intro hnone entry hentry
    have hall := List.takeWhile_append_dropWhile (p := fun other => decide (other.1 ≤ offset))
      (l := (ofEntries entries).entries)
    rw [hnone, List.nil_append] at hall
    refine lt_of_mem_dropWhile (pairwise_ofEntries entries) ?_
    rw [hall]
    exact mem_ofEntries.mpr hentry
  · intro hall
    refine List.eq_nil_iff_forall_not_mem.mpr fun entry hentry => ?_
    have hle : entry.1 ≤ offset := by simpa using List.mem_takeWhile_imp hentry
    have hlt := hall entry (mem_ofEntries.mp ((List.takeWhile_sublist _).subset hentry))
    omega

/-! ## Distinct starts -/

/-- With distinct starts, `Decides` does not depend on the order of the entries. -/
theorem decides_iff_of_nodup (hstarts : (entries.map Prod.fst).Nodup) :
    Decides entries offset entry ↔ entry ∈ entries ∧ entry.1 ≤ offset ∧
      ∀ other ∈ entries, other.1 ≤ offset → other.1 ≤ entry.1 := by
  constructor
  · intro h
    obtain ⟨hstart, hgreatest, -⟩ := decides_iff.mp h
    exact ⟨h.mem, hstart, hgreatest⟩
  · rintro ⟨hmem, hstart, hgreatest⟩
    obtain ⟨before, after, rfl⟩ := List.append_of_mem hmem
    refine ⟨before, after, rfl, hstart, ?_, ?_⟩
    · exact fun other hother hle => hgreatest other (List.mem_append_left _ hother) hle
    · intro other hother hle
      have hle' := hgreatest other (by simp [hother]) hle
      rw [List.map_append, List.map_cons] at hstarts
      have hbehind := (List.nodup_cons.mp (List.nodup_append.mp hstarts).2.1).1
      have hne : other.1 ≠ entry.1 := fun heq => hbehind (heq ▸ List.mem_map_of_mem hother)
      omega

theorem lineAt_perm (hperm : entries.Perm others) (hstarts : (entries.map Prod.fst).Nodup)
    (offset : Nat) : (ofEntries others).lineAt offset = (ofEntries entries).lineAt offset := by
  have hstarts' : (others.map Prod.fst).Nodup := (hperm.map Prod.fst).nodup_iff.mp hstarts
  ext line
  simp only [lineAt_eq_some_iff, decides_iff_of_nodup hstarts, decides_iff_of_nodup hstarts',
    hperm.mem_iff]

end Lookup

end LineTable

/-! ## Several tables -/

namespace Attribute

/-- The entries of a `lineNumbers` attribute. -/
def lineEntries? : Attribute → Option (List (Nat × Nat))
  | lineNumbers entries => some entries
  | _ => none

/-- The entries of all line number tables, concatenated. -/
def allLineEntries (attributes : List Attribute) : List (Nat × Nat) :=
  (attributes.filterMap lineEntries?).flatten

/-- The attributes with all line number tables merged into one. -/
def withOneLineTable (attributes : List Attribute) : List Attribute :=
  .lineNumbers (allLineEntries attributes) ::
    attributes.filter fun attr => (lineEntries? attr).isNone

theorem lines_eq_allLineEntries (attributes : List Attribute) :
    lines attributes = allLineEntries attributes := by
  induction attributes with
  | nil => rfl
  | cons attr rest ih =>
    rw [lines, List.flatMap_cons, ← lines, ih, allLineEntries, allLineEntries]
    cases attr <;> rfl

theorem lines_withOneLineTable (attributes : List Attribute) :
    lines (withOneLineTable attributes) = lines attributes := by
  have hnone : (attributes.filter fun attr => (lineEntries? attr).isNone).filterMap lineEntries?
      = [] := by
    refine List.filterMap_eq_nil_iff.mpr fun attr hattr => ?_
    simpa using (List.mem_filter.mp hattr).2
  have hfirst : lineEntries? (.lineNumbers (allLineEntries attributes))
      = some (allLineEntries attributes) := rfl
  rw [lines_eq_allLineEntries, lines_eq_allLineEntries, allLineEntries, withOneLineTable,
    List.filterMap_cons_some hfirst, hnone, List.flatten_cons, List.flatten_nil, List.append_nil]

theorem localEntries_withOneLineTable (attributes : List Attribute) :
    localEntries (withOneLineTable attributes) = localEntries attributes := by
  unfold localEntries withOneLineTable
  rw [List.flatMap_cons, List.nil_append]
  induction attributes with
  | nil => rfl
  | cons attr rest ih =>
    rw [List.flatMap_cons, ← ih]
    cases attr <;> rfl

end Attribute

namespace RawClass

/-- `buildBody` is unchanged when the line number tables are merged. -/
theorem buildBody_withOneLineTable (context : Code.Context) (code : Bytes)
    (attributes : List Attribute) :
    buildBody context (code, Attribute.withOneLineTable attributes)
      = buildBody context (code, attributes) := by
  unfold buildBody
  simp only [Attribute.lines_withOneLineTable, Attribute.localEntries_withOneLineTable]

/-- The instructions that `buildBody` returns have the lines of the merged table. -/
theorem line_of_mem_buildBody {context : Code.Context} {code : Bytes} {attributes : List Attribute}
    {instructions : List Instruction} {locals : List LocalVariable}
    (h : buildBody context (code, attributes) = .ok (instructions, locals)) :
    ∀ instruction ∈ instructions, instruction.line
      = (LineTable.ofEntries (Attribute.allLineEntries attributes)).lineAt instruction.offset := by
  obtain ⟨_, -, h⟩ := bind_eq_ok.mp h
  obtain ⟨_, hdecode, h⟩ := bind_eq_ok.mp h
  obtain ⟨rfl, rfl⟩ := Prod.mk.inj (Except.ok.inj h)
  have htiles := Code.tilesFrom_of_decodeFrom (Nat.zero_le _) hdecode
  intro instruction hmem
  rw [← Attribute.lines_eq_allLineEntries]
  exact (htiles.forall_mem instruction hmem).2.2.2.2

end RawClass

namespace LineTable

/-- **`lineAt` is exact.**  It is `none` iff no entry starts at or before `offset`, and otherwise
the line of the entry that `Decides`.  It is invariant under permutation of entries with distinct
starts.  A body with several line number tables is built as one with the concatenated table. -/
theorem lineAt_exact (entries : List (Nat × Nat)) (offset : Nat) :
    ((ofEntries entries).lineAt offset = none ↔ ¬ ∃ entry ∈ entries, entry.1 ≤ offset) ∧
    (∀ line, (ofEntries entries).lineAt offset = some line ↔
      ∃ entry, Decides entries offset entry ∧ entry.2 = line) ∧
    (∀ others, entries.Perm others → (entries.map Prod.fst).Nodup →
      (ofEntries others).lineAt offset = (ofEntries entries).lineAt offset) ∧
    ∀ (context : Code.Context) (code : Bytes) (attributes : List Attribute),
      RawClass.buildBody context (code, Attribute.withOneLineTable attributes)
          = RawClass.buildBody context (code, attributes) ∧
        ∀ instructions locals,
          RawClass.buildBody context (code, attributes) = .ok (instructions, locals) →
          ∀ instruction ∈ instructions, instruction.line
            = (ofEntries (Attribute.allLineEntries attributes)).lineAt instruction.offset := by
  refine ⟨?_, fun line => lineAt_eq_some_iff, fun others hperm hstarts => ?_, ?_⟩
  · rw [lineAt_eq_none_iff]
    simp
  · exact lineAt_perm hperm hstarts offset
  · intro context code attributes
    exact ⟨RawClass.buildBody_withOneLineTable context code attributes,
      fun instructions locals h => RawClass.line_of_mem_buildBody h⟩

/-- An unsorted table with a repeated start, and a table of two starts reversed. -/
theorem lineAt_exact_repeated :
    (ofEntries [(4, 3), (0, 1), (4, 5), (9, 2)]).lineAt 6 = some 5 ∧
      ([(2, 11), (0, 10)] : List (Nat × Nat)).Perm [(0, 10), (2, 11)] ∧
      (([(2, 11), (0, 10)] : List (Nat × Nat)).map Prod.fst).Nodup ∧
      (ofEntries [(0, 10), (2, 11)]).lineAt 3 = (ofEntries [(2, 11), (0, 10)]).lineAt 3 := by
  have hdecides : Decides [(4, 3), (0, 1), (4, 5), (9, 2)] 6 (4, 5) :=
    ⟨[(4, 3), (0, 1)], [(9, 2)], rfl, by decide, by decide, by decide⟩
  have hperm : ([(2, 11), (0, 10)] : List (Nat × Nat)).Perm [(0, 10), (2, 11)] :=
    List.Perm.swap _ _ _
  have hstarts : (([(2, 11), (0, 10)] : List (Nat × Nat)).map Prod.fst).Nodup := by decide
  refine ⟨((lineAt_exact _ 6).2.1 5).mpr ⟨_, hdecides, rfl⟩, hperm, hstarts, ?_⟩
  exact (lineAt_exact _ 3).2.2.1 _ hperm hstarts

end LineTable

end ClassAudit
