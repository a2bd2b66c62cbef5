import ClassAudit.Proofs.ByteOrder
import ClassAudit.Report.Plain
import Mathlib

/-!
# Counting findings

`Summary.ofFindings` counts the same findings twice, by severity and by check.  Both ways every
finding counts once, so the sums agree.  The summary of an append is the `plus` of the summaries,
and the order of findings has no part in it.  `Report.plain` prints the findings and then these
numbers.

## Shape of the proof

`Summary.Counts summary seen` says that `summary` counts the findings seen so far.
`Counts.add` is the step: `Summary.add` keeps it for one finding more, where `Text.increment` keeps
the keys rising and changes the count of one of them.  `counts_ofFindings` is the run over the whole
list.  The laws follow from it, since `Counts` determines every field of the summary.
-/

namespace ClassAudit

/-! ## One entry more -/

namespace Text

variable {name key : String} {counts : List (String × Nat)}

theorem mem_keys_increment :
    key ∈ (increment name counts).map Prod.fst ↔ key = name ∨ key ∈ counts.map Prod.fst := by
  induction counts with
  | nil => simp [increment]
  | cons entry rest ih =>
    rw [increment]
    split_ifs with heq hlt
    · simp [heq]
    · simp
    · rw [List.map_cons, List.mem_cons, ih, List.map_cons, List.mem_cons, or_left_comm]

/-- `increment` keeps the keys in order. -/
theorem pairwise_increment (h : (counts.map Prod.fst).Pairwise (· < ·)) :
    ((increment name counts).map Prod.fst).Pairwise (· < ·) := by
  induction counts with
  | nil => simp [increment]
  | cons entry rest ih =>
    obtain ⟨hbelow, hrest⟩ := List.pairwise_cons.mp h
    rw [increment]
    split_ifs with heq hlt
    · exact h
    · refine List.pairwise_cons.mpr ⟨?_, h⟩
      intro key hkey
      rcases List.mem_cons.mp hkey with rfl | hkey
      · exact hlt
      · exact hlt.trans (hbelow key hkey)
    · refine List.pairwise_cons.mpr ⟨?_, ih hrest⟩
      intro key hkey
      rcases mem_keys_increment.mp hkey with rfl | hkey
      · exact lt_of_le_of_ne (not_lt.mp hlt) (Ne.symm heq)
      · exact hbelow key hkey

theorem lookup_cons_of_ne {first : String} {count : Nat} (h : key ≠ first) :
    ((first, count) :: counts).lookup key = counts.lookup key := by
  rw [List.lookup_cons, beq_eq_false_iff_ne.mpr h]

theorem lookup_eq_none_of_lt (h : ∀ key ∈ counts.map Prod.fst, name < key) :
    counts.lookup name = none := by
  rw [List.lookup_eq_none_iff]
  intro entry hentry
  exact bne_iff_ne.mpr (h entry.1 (List.mem_map_of_mem hentry)).ne

theorem lookup_increment_of_ne (hkey : key ≠ name) :
    (increment name counts).lookup key = counts.lookup key := by
  induction counts with
  | nil => rw [increment, lookup_cons_of_ne hkey]
  | cons entry rest ih =>
    obtain ⟨first, count⟩ := entry
    rw [increment]
    split_ifs with heq hlt
    · have hother : key ≠ first := heq ▸ hkey
      rw [lookup_cons_of_ne hother, lookup_cons_of_ne hother]
    · rw [lookup_cons_of_ne hkey]
    · by_cases hfirst : key = first
      · rw [hfirst, List.lookup_cons_self, List.lookup_cons_self]
      · rw [lookup_cons_of_ne hfirst, lookup_cons_of_ne hfirst, ih]

/-- The keys must be in order, since the search for `name` ends at the first greater key. -/
theorem getD_lookup_increment_self (h : (counts.map Prod.fst).Pairwise (· < ·)) :
    ((increment name counts).lookup name).getD 0 = (counts.lookup name).getD 0 + 1 := by
  induction counts with
  | nil => simp [increment]
  | cons entry rest ih =>
    obtain ⟨first, count⟩ := entry
    obtain ⟨hbelow, hrest⟩ := List.pairwise_cons.mp h
    rw [increment]
    split_ifs with heq hlt
    · rw [heq, List.lookup_cons_self, List.lookup_cons_self]
      rfl
    · have hnone : ((first, count) :: rest).lookup name = none := by
        refine lookup_eq_none_of_lt fun other hother => ?_
        rcases List.mem_cons.mp hother with rfl | hother
        · exact hlt
        · exact hlt.trans (hbelow other hother)
      simp [hnone]
    · rw [lookup_cons_of_ne heq, lookup_cons_of_ne heq, ih hrest]

/-- `increment` adds one to the count of `name` and leaves all others. -/
theorem getD_lookup_increment (h : (counts.map Prod.fst).Pairwise (· < ·)) (key : String) :
    ((increment name counts).lookup key).getD 0
      = (counts.lookup key).getD 0 + if key = name then 1 else 0 := by
  split_ifs with hkey
  · rw [hkey, getD_lookup_increment_self h]
  · rw [lookup_increment_of_ne hkey, Nat.add_zero]

/-- A map with distinct keys is what `lookup` says of each of them. -/
theorem eq_map_lookup (h : (counts.map Prod.fst).Nodup) :
    counts = (counts.map Prod.fst).map fun key => (key, (counts.lookup key).getD 0) := by
  induction counts with
  | nil => rfl
  | cons entry rest ih =>
    obtain ⟨hnew, hrest⟩ := List.nodup_cons.mp h
    rw [List.map_cons, List.map_cons, List.lookup_cons_self]
    refine congrArg (entry :: ·) ((ih hrest).trans (List.map_congr_left fun key hkey => ?_))
    have hne : key ≠ entry.1 := fun heq => hnew (heq ▸ hkey)
    rw [lookup_cons_of_ne hne]

theorem lookup_map_pair (names : List String) (f : String → Nat) (name : String) :
    (names.map fun n => (n, f n)).lookup name = if name ∈ names then some (f name) else none := by
  induction names with
  | nil => rfl
  | cons n rest ih =>
    rw [List.map_cons, List.lookup_cons, ih]
    by_cases hname : name = n
    · simp [hname]
    · simp [hname, beq_eq_false_iff_ne.mpr hname]

end Text

namespace Summary

variable {findings others seen : List Finding} {check : String} {summary : Summary}

/-! ## One finding more -/

/-- The identifiers in `byCheck`. -/
def checks (summary : Summary) : List String :=
  summary.byCheck.map Prod.fst

/-- The count of `check` in `byCheck`, 0 if it is not there. -/
def countOf (summary : Summary) (check : String) : Nat :=
  (summary.byCheck.lookup check).getD 0

/-- The sum of two summaries, count by count. -/
def plus (a b : Summary) : Summary :=
  { errors := a.errors + b.errors
    warnings := a.warnings + b.warnings
    infos := a.infos + b.infos
    byCheck := (Text.ordered (a.checks ++ b.checks)).map fun check =>
      (check, a.countOf check + b.countOf check) }

/-- `summary` counts the findings `seen`, and its `checks` are in byte order. -/
structure Counts (summary : Summary) (seen : List Finding) : Prop where
  errors : summary.errors = seen.countP (·.severity = .error)
  warnings : summary.warnings = seen.countP (·.severity = .warning)
  infos : summary.infos = seen.countP (·.severity = .info)
  rising : summary.checks.Pairwise (· < ·)
  mem_checks : ∀ check, check ∈ summary.checks ↔ check ∈ seen.map Finding.check
  countOf : ∀ check, summary.countOf check = (seen.map Finding.check).count check

theorem counts_empty : Counts empty [] where
  errors := rfl
  warnings := rfl
  infos := rfl
  rising := List.Pairwise.nil
  mem_checks _ := Iff.rfl
  countOf _ := rfl

theorem byCheck_add (summary : Summary) (finding : Finding) :
    (summary.add finding).byCheck = Text.increment finding.check summary.byCheck := by
  unfold add
  cases finding.severity <;> rfl

/-- The step: `add` preserves `Counts`, with one finding more. -/
theorem Counts.add (h : Counts summary seen) (finding : Finding) :
    Counts (summary.add finding) (seen ++ [finding]) where
  errors := by
    rw [List.countP_append, ← h.errors, Summary.add]
    cases hseverity : finding.severity <;> simp [hseverity]
  warnings := by
    rw [List.countP_append, ← h.warnings, Summary.add]
    cases hseverity : finding.severity <;> simp [hseverity]
  infos := by
    rw [List.countP_append, ← h.infos, Summary.add]
    cases hseverity : finding.severity <;> simp [hseverity]
  rising := by
    rw [checks, byCheck_add]
    exact Text.pairwise_increment h.rising
  mem_checks check := by
    rw [checks, byCheck_add, Text.mem_keys_increment, ← checks, h.mem_checks check, List.map_append,
      List.mem_append, or_comm, List.map_singleton, List.mem_singleton]
  countOf check := by
    rw [Summary.countOf, byCheck_add, Text.getD_lookup_increment h.rising, ← Summary.countOf,
      h.countOf check, List.map_append, List.count_append, List.map_singleton, List.count_singleton]
    simp only [beq_iff_eq, @eq_comm _ check]

/-- The run: folding `add` over `findings` preserves `Counts`. -/
theorem Counts.foldl_add (h : Counts summary seen) (findings : List Finding) :
    Counts (findings.foldl Summary.add summary) (seen ++ findings) := by
  induction findings generalizing summary seen with
  | nil => rwa [List.append_nil]
  | cons finding rest ih =>
    have hrest := ih (h.add finding)
    rwa [List.append_assoc] at hrest

theorem counts_ofFindings (findings : List Finding) : Counts (ofFindings findings) findings :=
  counts_empty.foldl_add findings

/-! ## What the counts determine -/

namespace Counts

theorem enumerates (h : Counts summary seen) :
    Text.Enumerates summary.checks (seen.map Finding.check).toFinset where
  rising := h.rising.imp Text.utf8Bytes_lt
  mem_iff check := (h.mem_checks check).trans List.mem_toFinset.symm

/-- The entries of `byCheck`: the identifiers in order, each with how often it occurs. -/
theorem byCheck_eq (h : Counts summary seen) :
    summary.byCheck = (Text.ordered (seen.map Finding.check)).map fun check =>
      (check, (seen.map Finding.check).count check) := by
  have hchecks : summary.checks = Text.ordered (seen.map Finding.check) :=
    h.enumerates.unique (Text.enumerates_ordered fun _ => List.mem_toFinset.symm)
  rw [Text.eq_map_lookup h.enumerates.nodup, ← hchecks]
  exact List.map_congr_left fun check _ => congrArg (Prod.mk check) (h.countOf check)

/-- `Counts` determines the summary. -/
theorem unique {summary' : Summary} (h : Counts summary seen) (h' : Counts summary' seen) :
    summary = summary' := by
  have herrors := h.errors.trans h'.errors.symm
  have hwarnings := h.warnings.trans h'.warnings.symm
  have hinfos := h.infos.trans h'.infos.symm
  have hbyCheck := h.byCheck_eq.trans h'.byCheck_eq.symm
  cases summary
  cases summary'
  simp_all

theorem perm (h : Counts summary seen) (hperm : seen.Perm others) : Counts summary others where
  errors := h.errors.trans (hperm.countP_eq _)
  warnings := h.warnings.trans (hperm.countP_eq _)
  infos := h.infos.trans (hperm.countP_eq _)
  rising := h.rising
  mem_checks check := (h.mem_checks check).trans (hperm.map Finding.check).mem_iff
  countOf check := (h.countOf check).trans ((hperm.map Finding.check).count_eq check)

theorem plus {summary' : Summary} (h : Counts summary seen) (h' : Counts summary' others) :
    Counts (summary.plus summary') (seen ++ others) := by
  have hchecks : (summary.plus summary').checks
      = Text.ordered (summary.checks ++ summary'.checks) := by
    simp [checks, Summary.plus, Function.comp_def]
  have hmem : ∀ check, check ∈ Text.ordered (summary.checks ++ summary'.checks)
      ↔ check ∈ (seen ++ others).map Finding.check := by
    intro check
    rw [Text.mem_ordered, List.mem_append, h.mem_checks, h'.mem_checks, List.map_append,
      List.mem_append]
  exact
    { errors := by rw [List.countP_append, ← h.errors, ← h'.errors, Summary.plus]
      warnings := by rw [List.countP_append, ← h.warnings, ← h'.warnings, Summary.plus]
      infos := by rw [List.countP_append, ← h.infos, ← h'.infos, Summary.plus]
      rising := hchecks ▸ Text.pairwise_ordered _
      mem_checks := fun check => by rw [hchecks, hmem]
      countOf := fun check => by
        rw [Summary.countOf, Summary.plus, Text.lookup_map_pair, h.countOf, h'.countOf,
          ← List.count_append, ← List.map_append]
        split_ifs with hoccurs
        · rfl
        · rw [List.count_eq_zero_of_not_mem (mt (hmem check).mpr hoccurs), Option.getD_none] }

/-- `total` is the number of findings, since each has one severity. -/
theorem total_eq (h : Counts summary seen) : summary.total = seen.length := by
  rw [total, h.errors, h.warnings, h.infos]
  clear h
  induction seen with
  | nil => rfl
  | cons finding rest ih =>
    simp only [List.countP_cons, List.length_cons]
    rcases finding.severity with _ | _ | _
    · simp
      omega
    · simp
      omega
    · simp
      omega

theorem mem_byCheck (h : Counts summary seen) {count : Nat} :
    (check, count) ∈ summary.byCheck ↔
      check ∈ seen.map Finding.check ∧ count = (seen.map Finding.check).count check := by
  rw [h.byCheck_eq, List.mem_map]
  constructor
  · rintro ⟨name, hmem, heq⟩
    obtain ⟨rfl, rfl⟩ := Prod.mk.inj heq
    exact ⟨Text.mem_ordered.mp hmem, rfl⟩
  · rintro ⟨hmem, rfl⟩
    exact ⟨check, Text.mem_ordered.mpr hmem, rfl⟩

/-- The counts in `byCheck` add up to the number of findings, since each has one check. -/
theorem sum_byCheck (h : Counts summary seen) :
    (summary.byCheck.map Prod.snd).sum = seen.length := by
  have hperm : (Text.ordered (seen.map Finding.check)).Perm (seen.map Finding.check).dedup := by
    rw [List.perm_ext_iff_of_nodup ((Text.pairwise_ordered _).imp ne_of_lt) (List.nodup_dedup _)]
    intro check
    rw [Text.mem_ordered, List.mem_dedup]
  have hcounts : summary.byCheck.map Prod.snd
      = (Text.ordered (seen.map Finding.check)).map fun check =>
        (seen.map Finding.check).count check := by
    rw [h.byCheck_eq, List.map_map]
    rfl
  rw [hcounts, (hperm.map _).sum_eq, List.sum_map_count_dedup_eq_length, List.length_map]

end Counts

theorem total_ofFindings (findings : List Finding) :
    (ofFindings findings).total = findings.length :=
  (counts_ofFindings findings).total_eq

theorem ofFindings_append (findings others : List Finding) :
    ofFindings (findings ++ others) = (ofFindings findings).plus (ofFindings others) :=
  (counts_ofFindings _).unique ((counts_ofFindings findings).plus (counts_ofFindings others))

theorem ofFindings_perm (h : findings.Perm others) : ofFindings findings = ofFindings others :=
  ((counts_ofFindings findings).perm h).unique (counts_ofFindings others)

/-! ## Reports -/

/-- The line of the plain report with the totals. -/
def totalLine (summary : Summary) : String :=
  toString summary.total ++ " finding(s): " ++ toString summary.errors ++ " error(s), "
    ++ toString summary.warnings ++ " warning(s), " ++ toString summary.infos ++ " info"

/-- The line of the plain report with the count of one check. -/
def checkLine (entry : String × Nat) : String :=
  "  " ++ entry.1 ++ ": " ++ toString entry.2

theorem lines_ofFindings (findings : List Finding) :
    (ofFindings findings).lines
      = if findings = [] then ["No findings."]
        else "" :: (ofFindings findings).totalLine
          :: (ofFindings findings).byCheck.map checkLine := by
  unfold lines
  refine if_congr ?_ rfl rfl
  rw [total_ofFindings, List.length_eq_zero_iff]

/-- `render` of a finding starts with a bracket. -/
theorem head?_render (finding : Finding) : finding.render.toList.head? = some '[' := by
  simp [Finding.render]

/-- `plainLines` contains "No findings." iff there are none. -/
theorem noFindings_mem_plainLines :
    "No findings." ∈ Report.plainLines findings ↔ findings = [] := by
  rw [Report.plainLines, lines_ofFindings, List.mem_append]
  constructor
  · intro hline
    by_contra hne
    rw [if_neg hne, List.mem_cons, List.mem_cons, List.mem_map, List.mem_map] at hline
    rcases hline with ⟨finding, -, hfinding⟩ | hempty | htotal | ⟨entry, -, hentry⟩
    · have hhead := head?_render finding
      rw [hfinding] at hhead
      exact absurd hhead (by decide)
    · exact absurd hempty (by decide)
    · -- the line with the numbers ends with a letter
      have hlast := congrArg (fun line => line.toList.getLast?) htotal
      have hletter : " info".toList.getLast? = some 'o' := by decide
      simp only [totalLine, String.toList_append, List.getLast?_append, hletter,
        Option.some_or] at hlast
      exact absurd hlast (by decide)
    · have hhead := congrArg (fun line => line.toList.head?) hentry
      simp [checkLine] at hhead
  · rintro rfl
    simp

theorem plain_eq (findings : List Finding) :
    Report.plain findings = String.join (findings.map fun finding => finding.render ++ "\n")
      ++ if findings = [] then "No findings.\n"
        else "\n" ++ (ofFindings findings).totalLine ++ "\n"
          ++ String.join
            ((ofFindings findings).byCheck.map fun entry => checkLine entry ++ "\n") := by
  rw [Report.plain, Report.plainLines, lines_ofFindings, List.map_append, String.join_append,
    List.map_map]
  congr 1
  split_ifs with hnone
  · rfl
  · simp [String.append_assoc, Function.comp_def]

/-- **Every finding counts once.**  The counts by severity add up to the number of findings, and
each is the number of findings of its severity.  `byCheck` lists the identifiers that occur, in byte
order, each with its number of occurrences, and these add up to the total.  `ofFindings` of a
concatenation is the sum `plus`, and is invariant under permutation.  `plainLines` renders the
findings in order and then these counts, and says "No findings." iff there are none. -/
theorem findings_accounted (findings : List Finding) :
    let summary := ofFindings findings
    (summary.errors + summary.warnings + summary.infos = findings.length ∧
      summary.errors = (findings.filter (·.severity = .error)).length ∧
      summary.warnings = (findings.filter (·.severity = .warning)).length ∧
      summary.infos = (findings.filter (·.severity = .info)).length) ∧
    (∀ check count, (check, count) ∈ summary.byCheck ↔
      check ∈ findings.map Finding.check ∧ count = (findings.map Finding.check).count check) ∧
    (summary.byCheck.map Prod.snd).sum = summary.total ∧
    (summary.byCheck.map Prod.fst).Pairwise
      (fun a b => Text.utf8Bytes a < Text.utf8Bytes b) ∧
    (∀ others, ofFindings (findings ++ others) = summary.plus (ofFindings others)) ∧
    (∀ others, others.Perm findings → ofFindings others = summary) ∧
    Report.plain findings = String.join (findings.map fun finding => finding.render ++ "\n")
      ++ (if findings = [] then "No findings.\n"
        else "\n" ++ summary.totalLine ++ "\n"
          ++ String.join (summary.byCheck.map fun entry => checkLine entry ++ "\n")) ∧
    ("No findings." ∈ Report.plainLines findings ↔ findings = []) := by
  intro summary
  have hcounts : Counts summary findings := counts_ofFindings findings
  exact ⟨⟨hcounts.total_eq, hcounts.errors.trans List.countP_eq_length_filter,
    hcounts.warnings.trans List.countP_eq_length_filter,
    hcounts.infos.trans List.countP_eq_length_filter⟩, fun check count => hcounts.mem_byCheck,
    hcounts.sum_byCheck.trans hcounts.total_eq.symm, hcounts.enumerates.rising,
    fun others => ofFindings_append findings others, fun others h => ofFindings_perm h,
    plain_eq findings, noFindings_mem_plainLines⟩

/-- A finding of which only severity and check matter. -/
def findingOf (severity : Severity) (check : String) : Finding :=
  { check, severity, message := "", location := { className := "A" } }

/-- Three findings of two checks, in two orders. -/
theorem findings_accounted_three :
    let findings := [findingOf .error "X", findingOf .warning "Y", findingOf .warning "X"]
    let others := [findingOf .warning "X", findingOf .error "X", findingOf .warning "Y"]
    others.Perm findings ∧ ofFindings others = ofFindings findings ∧
    (ofFindings findings).errors = 1 ∧ (ofFindings findings).warnings = 2 ∧
    ("X", 2) ∈ (ofFindings findings).byCheck ∧ (ofFindings findings).total = 3 := by
  intro findings others
  have hperm : others.Perm findings := by decide
  obtain ⟨⟨hsum, -⟩, hmem, -, -, -, hsame, -, -⟩ := findings_accounted findings
  exact ⟨hperm, hsame others hperm, by decide, by decide, (hmem "X" 2).mpr ⟨by decide, by decide⟩,
    hsum⟩

end Summary

end ClassAudit
