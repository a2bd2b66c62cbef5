import ClassAudit.Pattern.Regex
import Mathlib

/-!
# What regular expressions match

`Matches` says of an expression which stretches of a text it matches, in the place where they stand.
The search for a match walks over sets of positions instead.  The two agree: a search succeeds just
when the text has a stretch that the expression matches.

## Shape of the proof

A kind of stretches leads from the positions where they begin to those where they end.  `Carries`
says of a walk that it takes every set of positions to those that one can be led to from it.  Walks
of parts make walks of wholes, since stretches one behind the other lead on from where the first one
led.  An unbounded repetition is walked as many rounds as there are positions.  Each round adds a
position or is the last to matter (`iterate_settled`), so further rounds would lead nowhere new.

Expressions without conditions match the texts of a language, wherever they stand (`Spells`).
-/

namespace ClassAudit

namespace Regex

/-! ## Stretches of texts -/

/-- A relation between a stretch of a text and what stands before and behind it. -/
abbrev Stretches := List Char → List Char → List Char → Prop

namespace Stretches

/-- The empty stretch. -/
def nothing : Stretches := fun _ stretch _ => stretch = []

/-- A stretch of `first` followed by a stretch of `second`. -/
def andThen (first second : Stretches) : Stretches := fun before stretch after =>
  ∃ front back, stretch = front ++ back ∧ first before front (back ++ after) ∧
    second (before ++ front) back after

/-- `n` stretches of `kind` one behind the other. -/
def times (kind : Stretches) : Nat → Stretches
  | 0 => nothing
  | n + 1 => kind.andThen (kind.times n)

/-- A stretch of `kind` reaches from position `i` of `text` to position `j`. -/
def Leads (kind : Stretches) (text : List Char) (i j : Nat) : Prop :=
  ∃ before stretch after, text = before ++ stretch ++ after ∧ before.length = i ∧
    (before ++ stretch).length = j ∧ kind before stretch after

end Stretches

/-- The stretches that an expression matches, by recursion on the expression. -/
def Matches : Regex → Stretches
  | .empty => .nothing
  | .literal text => fun _ stretch _ => stretch = text
  | .oneOf set => fun _ stretch _ => ∃ c, stretch = [c] ∧ set.contains c.toNat = true
  | .assert condition => fun before stretch after =>
    stretch = [] ∧ condition.holds before.getLast? after.head? = true
  | .seq first second => first.Matches.andThen second.Matches
  | .alt first second => fun before stretch after =>
    first.Matches before stretch after ∨ second.Matches before stretch after
  | .rep body low high _ => fun before stretch after =>
    ∃ n, low ≤ n ∧ (∀ most ∈ high, n ≤ max low most) ∧ body.Matches.times n before stretch after
  | .group _ body => body.Matches

namespace Stretches

variable {kind first second : Stretches} {text : List Char} {i j : Nat}

theorem leads_nothing : nothing.Leads text i j ↔ i = j ∧ j ≤ text.length := by
  constructor
  · rintro ⟨before, stretch, after, rfl, rfl, rfl, rfl⟩
    simp
  · rintro ⟨rfl, hle⟩
    refine ⟨text.take i, [], text.drop i, ?_, ?_, ?_, rfl⟩
    · simp
    · simpa using hle
    · simpa using hle

/-- `Leads` of `andThen` is the composition of both `Leads`. -/
theorem leads_andThen :
    (first.andThen second).Leads text i j ↔ ∃ k, first.Leads text i k ∧ second.Leads text k j := by
  constructor
  · rintro ⟨before, stretch, after, rfl, rfl, rfl, front, back, rfl, hfirst, hsecond⟩
    refine ⟨(before ++ front).length, ⟨before, front, back ++ after, ?_, rfl, rfl, hfirst⟩,
      before ++ front, back, after, ?_, rfl, ?_, hsecond⟩
    · simp
    · simp
    · simp
  · rintro ⟨k, ⟨before, front, rest, htext, rfl, hmiddle, hfirst⟩,
      start, back, after, htext', rfl, rfl, hsecond⟩
    -- the second stretch begins where the first one ends
    obtain ⟨rfl, rfl⟩ : before ++ front = start ∧ rest = back ++ after := by
      apply List.append_inj _ hmiddle
      rw [← htext, htext', List.append_assoc]
    exact ⟨before, front ++ back, after, by simpa using htext, rfl, by simp,
      front, back, rfl, hfirst, hsecond⟩

theorem leads_one {test : Char → Bool} :
    Leads (fun _ stretch _ => ∃ c, stretch = [c] ∧ test c = true) text i j ↔
      j = i + 1 ∧ ∃ c, text[i]? = some c ∧ test c = true := by
  constructor
  · rintro ⟨before, _, after, rfl, rfl, rfl, c, rfl, hc⟩
    exact ⟨by simp, c, by simp, hc⟩
  · rintro ⟨rfl, c, hi, hc⟩
    obtain ⟨hlt, rfl⟩ := List.getElem?_eq_some_iff.mp hi
    refine ⟨text.take i, [text[i]], text.drop (i + 1), ?_, ?_, ?_, text[i], rfl, hc⟩
    · simp
    · simpa using hlt.le
    · simpa using hlt

theorem leads_times_add {m n : Nat} :
    (kind.times (m + n)).Leads text i j ↔
      ∃ k, (kind.times m).Leads text i k ∧ (kind.times n).Leads text k j := by
  induction m generalizing i with
  | zero =>
    rw [Nat.zero_add]
    constructor
    · intro h
      have hle : i ≤ text.length := by
        obtain ⟨before, stretch, after, rfl, rfl, -⟩ := h
        simp
      exact ⟨i, leads_nothing.mpr ⟨rfl, hle⟩, h⟩
    · rintro ⟨k, hnothing, h⟩
      obtain ⟨rfl, -⟩ := leads_nothing.mp hnothing
      exact h
  | succ m ih =>
    rw [Nat.add_right_comm]
    simp only [times, leads_andThen, ih]
    constructor
    · rintro ⟨a, hfirst, k, hm, hn⟩
      exact ⟨k, ⟨a, hfirst, hm⟩, hn⟩
    · rintro ⟨k, ⟨a, hfirst, hm⟩, hn⟩
      exact ⟨a, hfirst, k, hm, hn⟩

end Stretches

/-! ## Walks over sets of positions -/

theorem union_holds {a b : Positions} (h : a.length = b.length) {j : Nat} :
    (union a b)[j]? = some true ↔ a[j]? = some true ∨ b[j]? = some true := by
  simp only [union, List.getElem?_zipWith_eq_some, Bool.or_eq_true]
  constructor
  · rintro ⟨x, y, hx, hy, rfl | rfl⟩
    · exact .inl hx
    · exact .inr hy
  · rintro (ha | hb)
    · have hlt : j < b.length := h ▸ (List.getElem?_eq_some_iff.mp ha).1
      exact ⟨true, b[j], ha, List.getElem?_eq_getElem hlt, .inl rfl⟩
    · have hlt : j < a.length := h ▸ (List.getElem?_eq_some_iff.mp hb).1
      exact ⟨a[j], true, List.getElem?_eq_getElem hlt, hb, .inr rfl⟩

/-- `surroundings` at `i` are the last character before and the first behind the position. -/
theorem surroundings_getElem? {text : List Char} {i : Nat} (h : i ≤ text.length) :
    (surroundings text)[i]? = some ((text.take i).getLast?, (text.drop i).head?) := by
  rw [surroundings, List.getElem?_zip_eq_some]
  constructor
  · cases i with
    | zero => simp
    | succ i => simp [List.getLast?_take, List.getElem?_eq_getElem (show i < text.length by omega)]
  · rw [List.head?_drop]
    rcases Nat.lt_or_eq_of_le h with hlt | rfl
    · simp [List.getElem?_append, hlt]
    · simp

/-- `walk` takes a set of positions to its image under `leads`. -/
structure Carries (text : List Char) (walk : Positions → Positions) (leads : Nat → Nat → Prop) :
    Prop where
  length_eq : ∀ {starts : Positions}, starts.length = text.length + 1 →
    (walk starts).length = text.length + 1
  holds_iff : ∀ {starts : Positions}, starts.length = text.length + 1 → ∀ j,
    (walk starts)[j]? = some true ↔ ∃ i, starts[i]? = some true ∧ leads i j

namespace Carries

variable {text : List Char} {walk other : Positions → Positions}
  {leads leads' : Nat → Nat → Prop}

theorem congr (h : Carries text walk leads)
    (hwalk : ∀ starts : Positions, starts.length = text.length + 1 → other starts = walk starts)
    (hleads : ∀ i j, leads' i j ↔ leads i j) : Carries text other leads' := by
  refine ⟨fun hlength => ?_, fun hlength j => ?_⟩
  · rw [hwalk _ hlength]
    exact h.length_eq hlength
  · rw [hwalk _ hlength, h.holds_iff hlength]
    simp only [hleads]

theorem nothing (text : List Char) : Carries text id (Stretches.nothing.Leads text) := by
  refine ⟨fun hlength => hlength, fun {starts} hlength j => ?_⟩
  simp only [Stretches.leads_nothing, id_eq]
  constructor
  · intro hj
    have hlt := (List.getElem?_eq_some_iff.mp hj).1
    exact ⟨j, hj, rfl, by omega⟩
  · rintro ⟨i, hi, rfl, -⟩
    exact hi

theorem comp (h : Carries text walk leads) (h' : Carries text other leads') :
    Carries text (other ∘ walk) fun i j => ∃ k, leads i k ∧ leads' k j := by
  refine ⟨fun hlength => h'.length_eq (h.length_eq hlength), fun hlength j => ?_⟩
  rw [Function.comp_apply, h'.holds_iff (h.length_eq hlength)]
  simp only [h.holds_iff hlength]
  constructor
  · rintro ⟨k, ⟨i, hi, hik⟩, hkj⟩
    exact ⟨i, hi, k, hik, hkj⟩
  · rintro ⟨i, hi, k, hik, hkj⟩
    exact ⟨k, ⟨i, hi, hik⟩, hkj⟩

theorem union (h : Carries text walk leads) (h' : Carries text other leads') :
    Carries text (fun starts => union (walk starts) (other starts))
      fun i j => leads i j ∨ leads' i j := by
  refine ⟨fun hlength => ?_, fun hlength j => ?_⟩
  · rw [Regex.union, List.length_zipWith, h.length_eq hlength, h'.length_eq hlength, Nat.min_self]
  · rw [union_holds ((h.length_eq hlength).trans (h'.length_eq hlength).symm),
      h.holds_iff hlength, h'.holds_iff hlength]
    simp only [and_or_left, exists_or]

/-- `advance` carries the stretches of one character that passes `test`. -/
theorem advance (text : List Char) (test : Char → Bool) :
    Carries text (advance text test)
      (Stretches.Leads (fun _ stretch _ => ∃ c, stretch = [c] ∧ test c = true) text) := by
  refine ⟨fun hlength => ?_, fun {starts} hlength j => ?_⟩
  · rw [Regex.advance, List.length_cons, List.length_zipWith, hlength]
    omega
  · simp only [Stretches.leads_one]
    cases j with
    | zero => simp [Regex.advance]
    | succ j =>
      simp only [Regex.advance, List.getElem?_cons_succ, List.getElem?_zipWith_eq_some,
        Bool.and_eq_true]
      constructor
      · rintro ⟨_, c, hstart, hc, rfl, htest⟩
        exact ⟨j, hstart, rfl, c, hc, htest⟩
      · rintro ⟨i, hstart, hij, c, hc, htest⟩
        obtain rfl : j = i := by omega
        exact ⟨true, c, hstart, hc, rfl, htest⟩

/-- The fold of `advance` carries the stretch `chars`. -/
theorem literal (text chars : List Char) :
    Carries text (fun starts => chars.foldl (fun at_ c => Regex.advance text (· = c) at_) starts)
      (Stretches.Leads (fun _ stretch _ => stretch = chars) text) := by
  induction chars with
  | nil => exact Carries.nothing text
  | cons c chars ih =>
    refine ((Carries.advance text (· = c)).comp ih).congr (fun _ _ => rfl) fun i j => ?_
    rw [← Stretches.leads_andThen]
    have hkind : (fun _ stretch _ => stretch = c :: chars : Stretches)
        = Stretches.andThen (fun _ stretch _ => ∃ d, stretch = [d] ∧ decide (d = c) = true)
            (fun _ stretch _ => stretch = chars) := by
      funext before stretch after
      simp [Stretches.andThen]
    rw [hkind]

/-- `ends` of an assertion carries the empty stretches at the positions where it holds. -/
theorem assert (text : List Char) (condition : Assertion) :
    Carries text (ends text (.assert condition)) ((Matches (.assert condition)).Leads text) := by
  refine ⟨fun hlength => ?_, fun {starts} hlength j => ?_⟩
  · simp [ends, surroundings, hlength]
  · have hleads : ∀ i, (Matches (.assert condition)).Leads text i j ↔ i = j ∧ j ≤ text.length ∧
        condition.holds (text.take j).getLast? (text.drop j).head? = true := by
      intro i
      constructor
      · rintro ⟨before, _, after, rfl, rfl, rfl, rfl, hholds⟩
        simpa using hholds
      · rintro ⟨rfl, hle, hholds⟩
        exact ⟨text.take i, [], text.drop i, by simp, by simpa using hle, by simpa using hle, rfl,
          hholds⟩
    simp only [hleads, ends, List.getElem?_zipWith_eq_some, Bool.and_eq_true]
    constructor
    · rintro ⟨_, around, hstart, haround, rfl, hholds⟩
      have hle : j ≤ text.length := by
        have := (List.getElem?_eq_some_iff.mp hstart).1
        omega
      rw [surroundings_getElem? hle, Option.some.injEq] at haround
      subst haround
      exact ⟨j, hstart, rfl, hle, hholds⟩
    · rintro ⟨i, hstart, rfl, hle, hholds⟩
      exact ⟨true, _, hstart, surroundings_getElem? hle, rfl, hholds⟩

end Carries

/-! ## Rounds -/

/-- `settle` is the plain iteration of `step`; stopping at a fixed point changes nothing. -/
theorem settle_eq_iterate (step : Positions → Positions) (n : Nat) (at_ : Positions) :
    settle step n at_ = step^[n] at_ := by
  induction n generalizing at_ with
  | zero => rfl
  | succ n ih =>
    simp only [settle, Function.iterate_succ_apply]
    split_ifs with hstill
    · rw [hstill, Function.iterate_fixed hstill]
    · exact ih (step at_)

/-- The positions of `at_` together with those one `walk` further. -/
def widen (walk : Positions → Positions) (at_ : Positions) : Positions :=
  union at_ (walk at_)

theorem union_eq_or_count_lt {a b : Positions} (h : a.length = b.length) :
    union a b = a ∨ a.count true < (union a b).count true := by
  induction a generalizing b with
  | nil => exact .inl rfl
  | cons x a ih =>
    obtain ⟨y, b, rfl⟩ := List.exists_cons_of_length_eq_add_one h.symm
    have hcons : union (x :: a) (y :: b) = (x || y) :: union a b := rfl
    rw [hcons]
    rcases ih (Nat.succ.inj h) with hsame | hmore
    · rw [hsame]
      cases x <;> cases y <;> simp
    · right
      cases x <;> cases y <;> simp <;> omega

/-- A `step` that changes nothing or adds a position has reached a fixed point after `size`
iterations. -/
theorem iterate_settled {step : Positions → Positions} {size : Nat}
    (hlength : ∀ at_ : Positions, at_.length = size → (step at_).length = size)
    (hgrows : ∀ at_ : Positions, at_.length = size →
      step at_ = at_ ∨ at_.count true < (step at_).count true)
    {starts : Positions} (hstarts : starts.length = size) :
    step (step^[size] starts) = step^[size] starts := by
  have hlengths : ∀ n, (step^[n] starts).length = size := by
    intro n
    induction n with
    | zero => exact hstarts
    | succ n ih => rw [Function.iterate_succ_apply']; exact hlength _ ih
  -- as long as there are changes, every step has added a position
  have hcount : ∀ n, step (step^[n] starts) = step^[n] starts ∨
      n < (step (step^[n] starts)).count true := by
    intro n
    induction n with
    | zero => exact (hgrows starts hstarts).imp_right fun h => by simpa using Nat.zero_lt_of_lt h
    | succ n ih =>
      rw [Function.iterate_succ_apply']
      rcases ih with hstill | hmore
      · exact .inl (by rw [hstill, hstill])
      · have hnext := hgrows _ (hlength _ (hlengths n))
        exact hnext.imp_right fun h => by omega
  refine (hcount size).resolve_right fun hmore => ?_
  have hle := List.count_le_length (a := true) (l := step (step^[size] starts))
  rw [hlength _ (hlengths size)] at hle
  omega

namespace Carries

variable {text : List Char} {walk : Positions → Positions} {kind : Stretches}

theorem iterate (h : Carries text walk (kind.Leads text)) (n : Nat) :
    Carries text walk^[n] ((kind.times n).Leads text) := by
  induction n with
  | zero => exact Carries.nothing text
  | succ n ih => exact (h.comp ih).congr (fun _ _ => rfl) fun i j => Stretches.leads_andThen

theorem iterate_widen (h : Carries text walk (kind.Leads text)) (n : Nat) :
    Carries text (widen walk)^[n] fun i j => ∃ k ≤ n, (kind.times k).Leads text i j := by
  induction n with
  | zero =>
    refine (Carries.nothing text).congr (fun _ _ => rfl) fun i j => ?_
    simp [Stretches.times]
  | succ n ih =>
    refine (((Carries.nothing text).union h).comp ih).congr (fun _ _ => rfl) fun i j => ?_
    constructor
    · rintro ⟨k, hk, hleads⟩
      cases k with
      | zero =>
        obtain ⟨rfl, hle⟩ := Stretches.leads_nothing.mp hleads
        exact ⟨i, .inl hleads, 0, Nat.zero_le n, hleads⟩
      | succ k =>
        obtain ⟨m, honce, hmore⟩ := Stretches.leads_andThen.mp hleads
        exact ⟨m, .inr honce, k, Nat.le_of_succ_le_succ hk, hmore⟩
    · rintro ⟨m, hnothing | honce, k, hk, hmore⟩
      · obtain ⟨rfl, -⟩ := Stretches.leads_nothing.mp hnothing
        exact ⟨k, Nat.le_succ_of_le hk, hmore⟩
      · exact ⟨k + 1, Nat.succ_le_succ hk, Stretches.leads_andThen.mpr ⟨m, honce, hmore⟩⟩

/-- `text.length + 1` rounds of `widen` carry any number of repetitions. -/
theorem iterate_widen_length (h : Carries text walk (kind.Leads text)) :
    Carries text (widen walk)^[text.length + 1]
      fun i j => ∃ k, (kind.times k).Leads text i j := by
  have hlength : ∀ at_ : Positions, at_.length = text.length + 1 →
      (widen walk at_).length = text.length + 1 :=
    fun at_ hat => ((Carries.nothing text).union h).length_eq hat
  refine ⟨(h.iterate_widen _).length_eq, fun {starts} hstarts j => ?_⟩
  have hsettled := iterate_settled hlength
    (fun at_ hat => union_eq_or_count_lt (hat.trans (h.length_eq hat).symm)) hstarts
  rw [(h.iterate_widen _).holds_iff hstarts]
  constructor
  · rintro ⟨i, hi, k, -, hleads⟩
    exact ⟨i, hi, k, hleads⟩
  · rintro ⟨i, hi, k, hleads⟩
    -- more rounds than needed are taken first, and the last of them change nothing
    have hlong := ((h.iterate_widen (k + (text.length + 1))).holds_iff hstarts j).mpr
      ⟨i, hi, k, Nat.le_add_right _ _, hleads⟩
    rw [Function.iterate_add_apply, Function.iterate_fixed hsettled] at hlong
    exact ((h.iterate_widen _).holds_iff hstarts j).mp hlong

end Carries

/-! ## Expressions -/

variable {text : List Char}

/-- `ends` of a repetition carries its stretches: `low` rounds, and then optional ones. -/
theorem carries_rep {body : Regex} (h : Carries text (ends text body) (body.Matches.Leads text))
    (low : Nat) (high : Option Nat) (greedy : Bool) :
    Carries text (ends text (.rep body low high greedy))
      ((Matches (.rep body low high greedy)).Leads text) := by
  have hrounds : ∀ i j, (Matches (.rep body low high greedy)).Leads text i j ↔
      ∃ n, low ≤ n ∧ (∀ most ∈ high, n ≤ max low most) ∧ (body.Matches.times n).Leads text i j := by
    intro i j
    constructor
    · rintro ⟨before, stretch, after, htext, hi, hj, n, hlow, hhigh, hn⟩
      exact ⟨n, hlow, hhigh, before, stretch, after, htext, hi, hj, hn⟩
    · rintro ⟨n, hlow, hhigh, before, stretch, after, htext, hi, hj, hn⟩
      exact ⟨before, stretch, after, htext, hi, hj, n, hlow, hhigh, hn⟩
  have hsplit : ∀ (Enough : Nat → Prop) i j,
      (∃ n, low ≤ n ∧ Enough (n - low) ∧ (body.Matches.times n).Leads text i j) ↔
        ∃ m, (body.Matches.times low).Leads text i m ∧
          ∃ k, Enough k ∧ (body.Matches.times k).Leads text m j := by
    intro Enough i j
    constructor
    · rintro ⟨n, hlow, henough, hleads⟩
      rw [← Nat.add_sub_cancel' hlow, Stretches.leads_times_add] at hleads
      obtain ⟨m, hfirst, hmore⟩ := hleads
      exact ⟨m, hfirst, n - low, henough, hmore⟩
    · rintro ⟨m, hfirst, k, henough, hmore⟩
      refine ⟨low + k, Nat.le_add_right _ _, ?_, Stretches.leads_times_add.mpr ⟨m, hfirst, hmore⟩⟩
      rwa [Nat.add_sub_cancel_left]
  cases high with
  | some most =>
    refine ((h.iterate low).comp (h.iterate_widen (most - low))).congr (fun starts _ => ?_) ?_
    · simp only [ends, settle_eq_iterate]
      rfl
    · intro i j
      rw [hrounds, ← hsplit (· ≤ most - low)]
      refine exists_congr fun n => and_congr_right fun hlow => and_congr_left fun _ => ?_
      simp only [Option.mem_def, Option.some.injEq, forall_eq']
      omega
  | none =>
    refine ((h.iterate low).comp h.iterate_widen_length).congr (fun starts hstarts => ?_) ?_
    · simp only [ends, settle_eq_iterate, hstarts]
      rfl
    · intro i j
      rw [hrounds]
      simpa using hsplit (fun _ => True) i j

/-- `ends` carries the stretches that the expression `Matches`. -/
theorem carries_ends (text : List Char) (regex : Regex) :
    Carries text (ends text regex) (regex.Matches.Leads text) := by
  induction regex with
  | empty => exact Carries.nothing text
  | literal chars => exact Carries.literal text chars
  | oneOf set => exact Carries.advance text _
  | assert condition => exact Carries.assert text condition
  | seq first second ihFirst ihSecond =>
    exact (ihFirst.comp ihSecond).congr (fun _ _ => rfl) fun i j => Stretches.leads_andThen
  | alt first second ihFirst ihSecond =>
    refine (ihFirst.union ihSecond).congr (fun _ _ => rfl) fun i j => ?_
    simp only [Stretches.Leads, Matches, and_or_left, exists_or]
  | rep body low high greedy ih => exact carries_rep ih low high greedy
  | group _ body ih => exact ih

/-- `isMatch` holds iff some stretch of the text `Matches`. -/
theorem isMatch_iff {regex : Regex} {text : String} :
    regex.isMatch text = true ↔ ∃ before stretch after,
      text.toList = before ++ stretch ++ after ∧ regex.Matches before stretch after := by
  have hcarries := carries_ends text.toList regex
  have hlength : (List.replicate (text.toList.length + 1) true).length = text.toList.length + 1 :=
    List.length_replicate
  have hany : regex.isMatch text = true ↔
      ∃ j : Nat, (ends text.toList regex (List.replicate (text.toList.length + 1) true))[j]?
        = some true := by
    simp only [isMatch, List.any_eq_true, id_eq, exists_eq_right, List.mem_iff_getElem?]
  rw [hany]
  simp only [hcarries.holds_iff hlength]
  constructor
  · rintro ⟨j, i, -, before, stretch, after, htext, -, -, hmatches⟩
    exact ⟨before, stretch, after, htext, hmatches⟩
  · rintro ⟨before, stretch, after, htext, hmatches⟩
    refine ⟨_, before.length, ?_, before, stretch, after, htext, rfl, rfl, hmatches⟩
    rw [List.getElem?_replicate, if_pos]
    rw [htext]
    simp only [List.length_append]
    omega

end Regex

/-! ## Sets of characters -/

namespace Unicode.CodeSet

/-- The ranges are non-empty, disjoint and in increasing order. -/
structure Rising (ranges : Array (Nat × Nat)) : Prop where
  ordered : ∀ range ∈ ranges.toList, range.1 ≤ range.2
  apart : ranges.toList.Pairwise fun range later => range.2 < later.1

/-- In `Rising` ranges an earlier range ends before a later one starts. -/
theorem Rising.lt {ranges : Array (Nat × Nat)} (h : Rising ranges) {i j : Nat}
    {range later : Nat × Nat} (hij : i < j) (hi : ranges[i]? = some range)
    (hj : ranges[j]? = some later) : range.2 < later.1 := by
  rw [← Array.getElem?_toList] at hi hj
  obtain ⟨hilt, rfl⟩ := List.getElem?_eq_some_iff.mp hi
  obtain ⟨hjlt, rfl⟩ := List.getElem?_eq_some_iff.mp hj
  exact List.pairwise_iff_getElem.mp h.apart i j hilt hjlt hij

theorem search_iff {ranges : Array (Nat × Nat)} (h : Rising ranges) {code steps low high : Nat}
    (hhigh : high ≤ ranges.size) (hsteps : high - low < steps) :
    search ranges code steps low high = true ↔
      ∃ i range, low ≤ i ∧ i < high ∧ ranges[i]? = some range ∧
        range.1 ≤ code ∧ code ≤ range.2 := by
  induction steps generalizing low high with
  | zero => omega
  | succ steps ih =>
    rw [search]
    split_ifs with hlt
    · dsimp only
      obtain ⟨middle, hmiddle⟩ : ∃ middle, (low + high) / 2 = middle := ⟨_, rfl⟩
      obtain ⟨⟨first, last⟩, hrange⟩ : ∃ range, ranges[middle]? = some range :=
        ⟨_, Array.getElem?_eq_getElem (by omega)⟩
      have hordered : first ≤ last :=
        h.ordered (first, last) (Array.mem_toList_iff.mpr (Array.mem_of_getElem? hrange))
      rw [hmiddle, hrange]
      dsimp only
      split_ifs with hbelow habove
      · rw [ih (by omega) (by omega)]
        constructor
        · rintro ⟨i, range, hlow, hi, hfound⟩
          exact ⟨i, range, hlow, by omega, hfound⟩
        · rintro ⟨i, range, hlow, hi, hat, hfirst, hlast⟩
          refine ⟨i, range, hlow, ?_, hat, hfirst, hlast⟩
          rcases Nat.lt_trichotomy i middle with hless | rfl | hmore
          · exact hless
          · obtain rfl : (first, last) = range := Option.some.inj (hrange.symm.trans hat)
            omega
          · have hapart := h.lt hmore hrange hat
            omega
      · rw [ih (by omega) (by omega)]
        constructor
        · rintro ⟨i, range, hlow, hi, hfound⟩
          exact ⟨i, range, by omega, hi, hfound⟩
        · rintro ⟨i, range, hlow, hi, hat, hfirst, hlast⟩
          refine ⟨i, range, ?_, hi, hat, hfirst, hlast⟩
          rcases Nat.lt_trichotomy i middle with hless | rfl | hmore
          · have hapart := h.lt hless hat hrange
            omega
          · obtain rfl : (first, last) = range := Option.some.inj (hrange.symm.trans hat)
            omega
          · exact hmore
      · refine iff_of_true rfl ⟨middle, (first, last), ?_, ?_, hrange, ?_, ?_⟩ <;> omega
    · refine iff_of_false (by simp) ?_
      rintro ⟨i, range, hlow, hi, -⟩
      omega

/-- `contains` decides membership in `Rising` ranges. -/
theorem contains_iff {set : CodeSet} (h : Rising set.ranges) {code : Nat} :
    set.contains code = true ↔ ∃ range ∈ set.ranges.toList, range.1 ≤ code ∧ code ≤ range.2 := by
  rw [contains, search_iff h le_rfl (by omega)]
  constructor
  · rintro ⟨i, range, -, -, hat, hfound⟩
    exact ⟨range, Array.mem_toList_iff.mpr (Array.mem_of_getElem? hat), hfound⟩
  · rintro ⟨range, hmem, hfound⟩
    obtain ⟨i, hi⟩ := List.mem_iff_getElem?.mp hmem
    rw [Array.getElem?_toList] at hi
    exact ⟨i, range, Nat.zero_le i, (Array.getElem?_eq_some_iff.mp hi).1, hi, hfound⟩

end Unicode.CodeSet

/-! ## Languages -/

namespace Regex

namespace Stretches

open scoped Computability

variable {kind first second : Stretches} {language others : Language Char}

/-- The stretches of `kind` are those in `language`, wherever they stand. -/
def Spells (kind : Stretches) (language : Language Char) : Prop :=
  ∀ before stretch after, kind before stretch after ↔ stretch ∈ language

/-- The stretches of `kind` are those in `language` that end the text. -/
def SpellsRest (kind : Stretches) (language : Language Char) : Prop :=
  ∀ before stretch after, kind before stretch after ↔ stretch ∈ language ∧ after = []

theorem Spells.andThen (h : Spells first language) (h' : Spells second others) :
    Spells (first.andThen second) (language * others) := by
  intro before stretch after
  simp only [Stretches.andThen, h _ _ _, h' _ _ _, Language.mem_mul]
  constructor
  · rintro ⟨front, back, rfl, hfront, hback⟩
    exact ⟨front, hfront, back, hback, rfl⟩
  · rintro ⟨front, hfront, back, hback, rfl⟩
    exact ⟨front, back, rfl, hfront, hback⟩

theorem Spells.times (h : Spells kind language) (n : Nat) :
    Spells (kind.times n) (language ^ n) := by
  induction n with
  | zero => exact fun _ _ _ => Iff.rfl
  | succ n ih =>
    rw [pow_succ']
    exact h.andThen ih

end Stretches

open Stretches
open scoped Computability

/-- The one-character texts that pass `test`. -/
def single (test : Char → Bool) : Language Char :=
  {text | ∃ c, text = [c] ∧ test c = true}

theorem mem_kstar_single {test : Char → Bool} {text : List Char} :
    text ∈ (single test)∗ ↔ ∀ c ∈ text, test c = true := by
  rw [Language.mem_kstar]
  constructor
  · rintro ⟨parts, rfl, hparts⟩ c hc
    obtain ⟨part, hpart, hc⟩ := List.mem_flatten.mp hc
    obtain ⟨d, rfl, hd⟩ := hparts part hpart
    rw [List.mem_singleton.mp hc]
    exact hd
  · intro hall
    refine ⟨text.map ([·]), ?_, fun part hpart => ?_⟩
    · rw [← List.flatMap_def, List.flatMap_singleton']
    · obtain ⟨c, hc, rfl⟩ := List.mem_map.mp hpart
      exact ⟨c, rfl, hall c hc⟩

theorem mem_single_pow {test : Char → Bool} {n : Nat} {text : List Char} :
    text ∈ single test ^ n ↔ text.length = n ∧ ∀ c ∈ text, test c = true := by
  induction n generalizing text with
  | zero => simp +contextual [Language.mem_one]
  | succ n ih =>
    rw [pow_succ', Language.mem_mul]
    constructor
    · rintro ⟨_, ⟨c, rfl, hc⟩, rest, hrest, rfl⟩
      obtain ⟨rfl, hall⟩ := ih.mp hrest
      exact ⟨rfl, List.forall_mem_cons.mpr ⟨hc, hall⟩⟩
    · rintro ⟨hlength, hall⟩
      obtain ⟨c, rest, rfl⟩ := List.exists_cons_of_length_eq_add_one hlength
      rw [List.forall_mem_cons] at hall
      exact ⟨[c], ⟨c, rfl, hall.1⟩, rest, ih.mpr ⟨Nat.succ.inj hlength, hall.2⟩, rfl⟩

/-- The non-empty texts whose characters all pass `test`. -/
def words (test : Char → Bool) : Language Char :=
  {word | word ≠ [] ∧ ∀ c ∈ word, test c = true}

theorem single_pow_one_mul_kstar (test : Char → Bool) :
    single test ^ 1 * (single test)∗ = words test := by
  ext word
  rw [pow_one, Language.mem_mul]
  constructor
  · rintro ⟨_, ⟨c, rfl, hc⟩, rest, hrest, rfl⟩
    exact ⟨by simp, List.forall_mem_cons.mpr ⟨hc, mem_kstar_single.mp hrest⟩⟩
  · rintro ⟨hne, hall⟩
    obtain ⟨c, rest, rfl⟩ := List.exists_cons_of_ne_nil hne
    rw [List.forall_mem_cons] at hall
    exact ⟨[c], ⟨c, rfl, hall.1⟩, rest, mem_kstar_single.mpr hall.2, rfl⟩

/-- The concatenations of `low` to `high` texts of `language`, of `low` texts if `high` is less. -/
def rounds (language : Language Char) (low high : Nat) : Language Char :=
  {text | ∃ n, low ≤ n ∧ n ≤ max low high ∧ text ∈ language ^ n}

theorem spells_oneOf {set : Unicode.CodeSet} {test : Char → Bool}
    (h : ∀ c, set.contains c.toNat = test c) : Spells (Matches (.oneOf set)) (single test) := by
  intro before stretch after
  show (∃ c, stretch = [c] ∧ set.contains c.toNat = true) ↔ ∃ c, stretch = [c] ∧ test c = true
  simp only [h]

theorem spells_literal (chars : List Char) : Spells (Matches (.literal chars)) {chars} :=
  fun _ _ _ => Iff.rfl

section Parts

variable {first second body : Regex} {language others : Language Char}

theorem spells_seq (h : Spells first.Matches language) (h' : Spells second.Matches others) :
    Spells (Matches (.seq first second)) (language * others) :=
  h.andThen h'

theorem spells_group (index : Nat) (h : Spells body.Matches language) :
    Spells (Matches (.group index body)) language :=
  h

/-- A repetition without an upper bound `Spells` at least `low` texts of `language`. -/
theorem spells_rep (h : Spells body.Matches language) (low : Nat) (greedy : Bool) :
    Spells (Matches (.rep body low none greedy)) (language ^ low * language∗) := by
  intro before stretch after
  rw [Language.kstar_eq_iSup_pow, Language.mul_iSup]
  simp only [Language.mem_iSup, ← pow_add]
  constructor
  · rintro ⟨n, hlow, -, hn⟩
    refine ⟨n - low, ?_⟩
    rw [Nat.add_sub_cancel' hlow]
    exact (h.times n _ _ _).mp hn
  · rintro ⟨k, hk⟩
    exact ⟨low + k, Nat.le_add_right _ _, by simp, (h.times _ _ _ _).mpr hk⟩

theorem spells_rep_some (h : Spells body.Matches language) (low high : Nat) (greedy : Bool) :
    Spells (Matches (.rep body low (some high) greedy)) (rounds language low high) := by
  intro before stretch after
  refine exists_congr fun n => and_congr_right fun _ => ?_
  rw [h.times n before stretch after]
  simp

theorem spells_ofParts {α : Type} {regex : α → Regex} {language : α → Language Char}
    (parts : List α) (h : ∀ part ∈ parts, Spells (regex part).Matches (language part)) :
    Spells (Matches (.ofParts (parts.map regex))) (parts.map language).prod := by
  induction parts with
  | nil => exact fun _ _ _ => Iff.rfl
  | cons part parts ih =>
    rw [List.forall_mem_cons] at h
    rw [List.map_cons, List.map_cons, List.prod_cons]
    cases parts with
    | nil => simpa [ofParts] using h.1
    | cons next parts => exact spells_seq h.1 (ih h.2)

theorem spells_ofBranches {α : Type} {regex : α → Regex} {language : α → Language Char}
    (branches : List α)
    (h : ∀ branch ∈ branches, Spells (regex branch).Matches (language branch)) :
    Spells (Matches (.ofBranches (branches.map regex)))
      {text | ∃ branch ∈ branches, text ∈ language branch} := by
  induction branches with
  | nil =>
    intro before stretch after
    refine iff_of_false ?_ (by rintro ⟨_, hmem, -⟩; exact absurd hmem List.not_mem_nil)
    rintro ⟨c, -, hc⟩
    exact absurd hc (Bool.false_ne_true)
  | cons branch branches ih =>
    rw [List.forall_mem_cons] at h
    intro before stretch after
    show _ ↔ ∃ branch' ∈ branch :: branches, stretch ∈ language branch'
    rw [List.exists_mem_cons_iff, ← h.1 before stretch after]
    cases branches with
    | nil => simp [ofBranches]
    | cons next branches => exact or_congr_right (ih h.2 before stretch after)

theorem spellsRest_seq (h : Spells first.Matches language)
    (h' : SpellsRest second.Matches others) :
    SpellsRest (Matches (.seq first second)) (language * others) := by
  intro before stretch after
  simp only [Matches, Stretches.andThen, h _ _ _, h' _ _ _, Language.mem_mul]
  constructor
  · rintro ⟨front, back, rfl, hfront, hback, rfl⟩
    exact ⟨⟨front, hfront, back, hback, rfl⟩, rfl⟩
  · rintro ⟨⟨front, hfront, back, hback, rfl⟩, rfl⟩
    exact ⟨front, back, rfl, hfront, hback, rfl⟩

theorem spellsRest_textEnd : SpellsRest (Matches (.assert .textEnd)) 1 := by
  intro before stretch after
  simp [Matches, Assertion.holds, Language.mem_one]

/-- An expression that `Spells` a language matches the texts with an infix in it. -/
theorem isMatch_spells (h : Spells body.Matches language) (text : String) :
    body.isMatch text = true ↔ ∃ stretch ∈ language, stretch <:+: text.toList := by
  rw [isMatch_iff]
  constructor
  · rintro ⟨before, stretch, after, htext, hmatches⟩
    exact ⟨stretch, (h _ _ _).mp hmatches, before, after, htext.symm⟩
  · rintro ⟨stretch, hmem, before, after, htext⟩
    exact ⟨before, stretch, after, htext.symm, (h _ _ _).mpr hmem⟩

/-- An expression tied to both ends matches the texts of its language. -/
theorem isMatch_tied (h : SpellsRest body.Matches language) (text : String) :
    (Regex.seq (.assert .textStart) body).isMatch text = true ↔ text.toList ∈ language := by
  rw [isMatch_iff]
  constructor
  · rintro ⟨before, _, after, htext, _, back, rfl, ⟨rfl, hstart⟩, hrest⟩
    obtain ⟨hback, rfl⟩ := (h _ _ _).mp hrest
    have hbefore : before = [] := by
      simpa [Assertion.holds] using hstart
    simpa [htext, hbefore] using hback
  · intro hmem
    exact ⟨[], text.toList, [], by simp, [], text.toList, rfl, ⟨rfl, rfl⟩,
      (h _ _ _).mpr ⟨hmem, rfl⟩⟩

end Parts

end Regex

end ClassAudit
