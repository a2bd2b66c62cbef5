import ClassAudit.Proofs.Consistency

/-!
# Disabling checks

The checks that a request names are taken out of the analyzer one after the other, and each of them
must still be there when its turn comes.  So the order of the names does not matter, but a name that
comes twice does: the second time its check is gone, and it is called unknown like the name of no
check at all.

## Shape of the proof

`disable_cons` is one step.  What a whole list of names gives follows by induction on the list, with
the analyzer generalized, since every step leaves a smaller one.
-/

namespace ClassAudit

namespace Analyzer

variable {analyzer : Analyzer} {id other : String}

theorem remove?_eq_ite : analyzer.remove? id =
    if id ∈ analyzer.checks.map Check.id then some (analyzer.remove id) else none := by
  rw [remove?]
  exact if_congr (by simp) rfl rfl

/-- The identifiers of the checks after `keep`. -/
theorem mem_map_id_keep {kept : String → Bool} :
    other ∈ (analyzer.keep kept).checks.map Check.id ↔
      kept other ∧ other ∈ analyzer.checks.map Check.id := by
  simp only [keep, List.mem_map, List.mem_filter]
  constructor
  · rintro ⟨check, ⟨hcheck, hkept⟩, rfl⟩
    exact ⟨hkept, check, hcheck, rfl⟩
  · rintro ⟨hkept, check, hcheck, rfl⟩
    exact ⟨check, ⟨hcheck, hkept⟩, rfl⟩

/-- `remove` is `keep` of the other identifiers. -/
theorem remove_eq_keep : analyzer.remove id = analyzer.keep fun other => other ≠ id := rfl

/-- `remove id` followed by `keep` of what is not in `ids` is `keep` of what is not in `id :: ids`.
-/
theorem keep_remove (ids : List String) :
    (analyzer.remove id).keep (fun other => other ∉ ids)
      = analyzer.keep fun other => other ∉ id :: ids := by
  rw [keep, keep, remove, List.filter_filter]
  simp [Bool.and_comm]

theorem checks_of_ofSettings {settings : Settings} (h : ofSettings settings = .ok analyzer) :
    analyzer.checks = Check.all := by
  obtain ⟨criteria, -, h⟩ := bind_eq_ok.mp h
  cases h
  rfl

end Analyzer

namespace Options

variable {analyzer remaining : Analyzer} {id : String} {ids rest : List String}

/-- The step of `disable`. -/
theorem disable_cons : disable analyzer (id :: rest) =
    if id ∈ analyzer.checks.map Check.id then disable (analyzer.remove id) rest
    else .error (.unknownCheck id) := by
  rw [disable, Analyzer.remove?_eq_ite]
  split_ifs <;> rfl

theorem disable_append (ids rest : List String) :
    disable analyzer (ids ++ rest) = disable analyzer ids >>= fun left => disable left rest := by
  induction ids generalizing analyzer with
  | nil => rfl
  | cons id ids ih =>
    rw [List.cons_append, disable_cons, disable_cons]
    split_ifs
    · exact ih
    · rfl

/-- `disable` succeeds iff the identifiers are distinct and all present, and then gives `keep` of
the others. -/
theorem disable_eq_ok_iff_nodup : disable analyzer ids = .ok remaining ↔
    ids.Nodup ∧ (∀ id ∈ ids, id ∈ analyzer.checks.map Check.id) ∧
      remaining = analyzer.keep fun id => id ∉ ids := by
  induction ids generalizing analyzer with
  | nil => simp [disable, Analyzer.keep, eq_comm]
  | cons id rest ih =>
    rw [disable_cons, List.nodup_cons, List.forall_mem_cons]
    split_ifs with hid
    · rw [ih, Analyzer.keep_remove]
      simp only [Analyzer.remove_eq_keep, Analyzer.mem_map_id_keep, decide_eq_true_eq]
      constructor
      · rintro ⟨hnodup, hthere, hremaining⟩
        exact ⟨⟨fun hmem => (hthere id hmem).1 rfl, hnodup⟩,
          ⟨hid, fun other hother => (hthere other hother).2⟩, hremaining⟩
      · rintro ⟨⟨hfirst, hnodup⟩, ⟨-, hthere⟩, hremaining⟩
        exact ⟨hnodup, fun other hother => ⟨ne_of_mem_of_not_mem hother hfirst,
          hthere other hother⟩, hremaining⟩
    · simp [hid]

/-- `disable` fails iff some identifier is absent or occurred before, and reports the first such
one. -/
theorem disable_eq_error_iff {error : RunError} : disable analyzer ids = .error error ↔
    ∃ before id after, ids = before ++ id :: after ∧ before.Nodup ∧
      (∀ other ∈ before, other ∈ analyzer.checks.map Check.id) ∧
      (id ∈ before ∨ id ∉ analyzer.checks.map Check.id) ∧ error = .unknownCheck id := by
  constructor
  · intro h
    -- the names before the one that fails are those that can be disabled
    obtain ⟨before, id, after, left, rfl, hbefore, hgone, rfl⟩ : ∃ before id after left,
        ids = before ++ id :: after ∧ disable analyzer before = .ok left ∧
          id ∉ left.checks.map Check.id ∧ error = .unknownCheck id := by
      induction ids generalizing analyzer with
      | nil => cases h
      | cons id rest ih =>
        rw [disable_cons] at h
        split_ifs at h with hid
        · obtain ⟨before, other, after, left, rfl, hbefore, hgone, herror⟩ := ih h
          refine ⟨id :: before, other, after, left, rfl, ?_, hgone, herror⟩
          rw [disable_cons, if_pos hid, hbefore]
        · exact ⟨[], id, rest, analyzer, rfl, rfl, hid, (Except.error.inj h).symm⟩
    obtain ⟨hnodup, hthere, rfl⟩ := disable_eq_ok_iff_nodup.mp hbefore
    refine ⟨before, id, after, rfl, hnodup, hthere, ?_, rfl⟩
    by_contra hneither
    obtain ⟨hnew, hbuiltIn⟩ := not_or.mp hneither
    exact hgone (Analyzer.mem_map_id_keep.mpr ⟨by simpa using hnew, not_not.mp hbuiltIn⟩)
  · rintro ⟨before, id, after, rfl, hnodup, hthere, hgone, rfl⟩
    have hbefore := disable_eq_ok_iff_nodup.mpr ⟨hnodup, hthere, rfl⟩
    have hid : id ∉ (analyzer.keep fun id => id ∉ before).checks.map Check.id := by
      rw [Analyzer.mem_map_id_keep]
      rintro ⟨hnew, hbuiltIn⟩
      exact hgone.elim (by simpa using hnew) (absurd hbuiltIn)
    rw [disable_append, hbefore]
    exact disable_cons.trans (if_neg hid)

/-- `disable` succeeds iff every identifier is built in, however often it occurs, and leaves the
other checks in their order. -/
structure RepetitionHarmless (analyzer : Analyzer) (ids : List String) : Prop where
  succeeds_iff : (∃ remaining, disable analyzer ids = .ok remaining) ↔
    ∀ id ∈ ids, id ∈ Check.all.map Check.id
  checks_eq : ∀ remaining, disable analyzer ids = .ok remaining →
    remaining.checks = Check.all.filter fun check => check.id ∉ ids

/-- **`disable` fails on a repeated identifier.**  On an analyzer with every check, `disable`
succeeds iff the identifiers are built in and distinct, and keeps the other checks in their order.
Otherwise it fails with `unknownCheck` of the first identifier that is not built in or occurred
before.  So `RepetitionHarmless` holds of exactly the lists that are distinct or name a check that
is not built in. -/
theorem disable_builtIn {settings : Settings} {analyzer : Analyzer}
    (h : Analyzer.ofSettings settings = .ok analyzer) (ids : List String) :
    (∀ remaining, disable analyzer ids = .ok remaining ↔
      ids.Nodup ∧ (∀ id ∈ ids, id ∈ Check.all.map Check.id) ∧
        remaining = { analyzer with checks := Check.all.filter fun check => check.id ∉ ids }) ∧
    (∀ error, disable analyzer ids = .error error ↔
      ∃ before id after, ids = before ++ id :: after ∧ before.Nodup ∧
        (∀ other ∈ before, other ∈ Check.all.map Check.id) ∧
        (id ∈ before ∨ id ∉ Check.all.map Check.id) ∧ error = .unknownCheck id) ∧
    (RepetitionHarmless analyzer ids ↔
      ids.Nodup ∨ ∃ id ∈ ids, id ∉ Check.all.map Check.id) := by
  have hall := Analyzer.checks_of_ofSettings h
  have hok : ∀ remaining, disable analyzer ids = .ok remaining ↔
      ids.Nodup ∧ (∀ id ∈ ids, id ∈ Check.all.map Check.id) ∧
        remaining = { analyzer with checks := Check.all.filter fun check => check.id ∉ ids } := by
    intro remaining
    rw [disable_eq_ok_iff_nodup, Analyzer.keep, hall]
  refine ⟨hok, fun error => by rw [disable_eq_error_iff, hall], ?_, ?_⟩
  · intro hharmless
    by_cases hbuiltIn : ∀ id ∈ ids, id ∈ Check.all.map Check.id
    · obtain ⟨remaining, hremaining⟩ := hharmless.succeeds_iff.mpr hbuiltIn
      exact Or.inl ((hok remaining).mp hremaining).1
    · exact Or.inr (by simpa only [not_forall, exists_prop] using hbuiltIn)
  · intro hlist
    refine ⟨⟨?_, fun hbuiltIn => ?_⟩, ?_⟩
    · rintro ⟨remaining, hremaining⟩
      exact ((hok remaining).mp hremaining).2.1
    · rcases hlist with hnodup | ⟨id, hid, hunknown⟩
      · exact ⟨_, (hok _).mpr ⟨hnodup, hbuiltIn, rfl⟩⟩
      · exact absurd (hbuiltIn id hid) hunknown
    · intro remaining hremaining
      rw [((hok remaining).mp hremaining).2.2]

/-- `METHOD_NAMING` and `SECURITY` disabled, in another order than that of `Check.all`. -/
theorem disable_builtIn_naming :
    ∃ analyzer, Analyzer.ofSettings {} = .ok analyzer ∧
      disable analyzer ["METHOD_NAMING", "SECURITY"] = .ok { analyzer with
        checks := Check.all.filter fun check => check.id ∉ ["METHOD_NAMING", "SECURITY"] } := by
  have hsettings : Analyzer.ofSettings {} = .ok { criteria := ⟨{}, []⟩, checks := Check.all } := rfl
  exact ⟨_, hsettings, ((disable_builtIn hsettings _).1 _).mpr ⟨by decide, by decide, rfl⟩⟩

/-- `--disable SECURITY` given twice fails with `unknownCheck`. -/
theorem disable_repeated :
    (∀ id ∈ ["SECURITY", "SECURITY"], id ∈ Check.all.map Check.id) ∧
      Options.analyzer { disabled := ["SECURITY", "SECURITY"] } (fun _ => none)
        = .error (.unknownCheck "SECURITY") ∧
      ∃ analyzer, Analyzer.ofSettings {} = .ok analyzer ∧
        disable analyzer ["SECURITY", "SECURITY"] = .error (.unknownCheck "SECURITY") ∧
        ¬ RepetitionHarmless analyzer ["SECURITY", "SECURITY"] := by
  have hbuiltIn : ∀ id ∈ ["SECURITY", "SECURITY"], id ∈ Check.all.map Check.id := by decide
  have hsettings : Analyzer.ofSettings {} = .ok { criteria := ⟨{}, []⟩, checks := Check.all } := rfl
  have hdisable : disable { criteria := ⟨{}, []⟩, checks := Check.all } ["SECURITY", "SECURITY"]
      = .error (.unknownCheck "SECURITY") :=
    disable_eq_error_iff.mpr
      ⟨["SECURITY"], "SECURITY", [], rfl, by decide, by decide, Or.inl (by decide), rfl⟩
  refine ⟨hbuiltIn, hdisable, _, hsettings, hdisable, fun hharmless => ?_⟩
  obtain ⟨remaining, hremaining⟩ := hharmless.succeeds_iff.mpr hbuiltIn
  rw [hdisable] at hremaining
  cases hremaining

end Options

end ClassAudit
