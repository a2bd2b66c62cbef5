import ClassAudit.Check.Secret
import ClassAudit.Pattern.Parser
import ClassAudit.Proofs.Matching
import Mathlib

/-!
# The pattern of the keywords

`Secret.hasKeyword` looks for the words of `Secret.keywords` in a folded text.  The words are known
by `Secret.keywordPattern`, a pattern that ignores case and in which some words have a separator
that may be left out.  The pattern is read as `keywordRegex` (`parse?_keywordPattern`), and this
expression accepts a text just when `hasKeyword` does (`isMatch_keywordRegex`).

## Shape of the proof

The pattern is too long to be read by evaluation alone.  Its branches are given as data instead: a
`Phrase` is a list of `Part`s, each with its text in the pattern, its expression, and the words it
stands for.  `group_part` is the step of the parser over one part, and `group_phrase` and
`group_phrases` are the runs over the parts of a branch and over all branches.

The expression of a part matches the texts that fold to one of its words (`spells_part`).  By
`prod_foldedTo` the same holds for a phrase.  What is left is that each word of a phrase holds a
keyword and each keyword is a word of a phrase, which is decided (`exists_spelling_iff`).
-/

namespace ClassAudit

open Unicode (CodeSet)

/-! ## Case forms -/

namespace Unicode

theorem foldRuns_nonneg : ∀ run ∈ foldRuns, 0 ≤ (run.1 : Int) + run.2.2.2 := by
  decide +kernel

/-- The codes that fold to a code that folds to itself are its `caseForms`. -/
theorem foldCode_eq_iff {code image : Nat} (h : foldCode image = image) :
    foldCode code = image ↔ code ∈ caseForms image := by
  rw [caseForms, h, List.mem_cons]
  constructor
  · intro hcode
    have hfold := hcode
    unfold foldCode at hcode
    split at hcode
    · next run hrun =>
      right
      have hmem := List.mem_of_find?_eq_some hrun
      have hin : inRun run code = true := by simpa using List.find?_some hrun
      have hnonneg := foldRuns_nonneg run hmem
      have hfirst : run.1 ≤ code := by
        simp only [inRun, Bool.and_eq_true, decide_eq_true_eq] at hin
        exact hin.1.1
      have hsource : ((image : Int) - run.2.2.2).toNat = code := by omega
      refine List.mem_filterMap.mpr ⟨run, hmem, ?_⟩
      simp only [hsource]
      rw [if_pos]
      simp [hin, hfold]
    · exact .inl hcode
  · rintro (rfl | hmem)
    · exact h
    · obtain ⟨run, -, hrun⟩ := List.mem_filterMap.mp hmem
      simp only at hrun
      split_ifs at hrun with hcond
      rw [Option.some.injEq] at hrun
      rw [← hrun]
      simpa using (Bool.and_eq_true_iff.mp hcond).2

/-- A set without a member that folds to another code, or that another code folds to. -/
theorem foldSet_eq_self {set : CodeSet} (hempty : set.union (CodeSet.ofRanges []) = set)
    (h : ∀ pair ∈ foldPairs, set.contains pair.1 = false ∧ set.contains pair.2 = false) :
    foldSet set = set := by
  unfold foldSet
  extract_lets single folded
  have hfolded : folded = set := by
    simp only [folded]
    rw [List.filterMap_eq_nil_iff.mpr, hempty]
    intro pair hpair
    simp [(h pair hpair).1]
  rw [hfolded, List.filterMap_eq_nil_iff.mpr, hempty]
  intro pair hpair
  simp [(h pair hpair).2]

end Unicode

namespace Pattern

/-- The small letters of the alphabet. -/
def letters : List Char :=
  "abcdefghijklmnopqrstuvwxyz".toList

/-- The case forms of a letter of `letters` that are no letters of the alphabet: the long s and the
sign for kelvin. -/
def signs : Char → List Nat
  | 's' => [383]
  | 'k' => [8490]
  | _ => []

/-- The set of the given codes, which are in rising order. -/
def points (codes : List Nat) : CodeSet :=
  ⟨(codes.map fun code => (code, code)).toArray⟩

/-- The characters that fold to a letter of `letters`. -/
def caseless (c : Char) : CodeSet :=
  points ((c.toNat - 32) :: c.toNat :: signs c)

/-- The characters that may separate two words. -/
def separators : CodeSet :=
  points ['-'.toNat, '_'.toNat]

theorem contains_points {codes : List Nat} (h : codes.Pairwise (· < ·)) {code : Nat} :
    (points codes).contains code = true ↔ code ∈ codes := by
  have hrising : CodeSet.Rising (points codes).ranges := by
    refine ⟨fun range hrange => ?_, ?_⟩
    · obtain ⟨_, -, rfl⟩ := List.mem_map.mp hrange
      exact le_rfl
    · exact List.pairwise_map.mpr h
  rw [CodeSet.contains_iff hrising]
  constructor
  · rintro ⟨_, hrange, hfirst, hlast⟩
    obtain ⟨_, hmem, rfl⟩ := List.mem_map.mp hrange
    rwa [Nat.le_antisymm hlast hfirst]
  · exact fun hmem => ⟨_, List.mem_map_of_mem hmem, le_rfl, le_rfl⟩

theorem map_caseForms : letters.map (fun c => Unicode.caseForms c.toNat)
    = letters.map fun c => c.toNat :: (c.toNat - 32) :: signs c := by
  decide +kernel

set_option maxRecDepth 10000 in
theorem map_ofSet_caseForms :
    letters.map (fun c => Regex.ofSet (CodeSet.ofRanges
        ((c.toNat :: (c.toNat - 32) :: signs c).map fun code => (code, code))))
      = letters.map fun c => .oneOf (caseless c) := by
  cbv

theorem ofSet_caseForms {c : Char} (hc : c ∈ letters) :
    Regex.ofSet (CodeSet.ofRanges ((Unicode.caseForms c.toNat).map fun code => (code, code)))
      = .oneOf (caseless c) := by
  rw [List.map_inj_left.mp map_caseForms c hc]
  exact List.map_inj_left.mp map_ofSet_caseForms c hc

theorem contains_caseless {c d : Char} (hc : c ∈ letters) :
    (caseless c).contains d.toNat = true ↔ Unicode.foldCode d.toNat = c.toNat := by
  have hforms := List.map_inj_left.mp map_caseForms c hc
  have hfold : Unicode.foldCode c.toNat = c.toNat :=
    (List.cons.inj hforms).1
  have hall : letters.all (fun c =>
      decide (((c.toNat - 32) :: c.toNat :: signs c).Pairwise (· < ·))) = true := by
    decide +kernel
  have hrising := of_decide_eq_true (List.all_eq_true.mp hall c hc)
  rw [caseless, contains_points hrising, Unicode.foldCode_eq_iff hfold, hforms]
  simp only [List.mem_cons, or_left_comm]

theorem contains_separators {d : Char} :
    separators.contains d.toNat = true ↔
      Unicode.foldCode d.toNat = '_'.toNat ∨ Unicode.foldCode d.toNat = '-'.toNat := by
  have hforms : ['_', '-'].map (fun c => Unicode.caseForms c.toNat)
      = ['_', '-'].map fun c => [c.toNat] := by
    decide +kernel
  simp only [List.map_cons, List.map_nil, List.cons.injEq, and_true] at hforms
  rw [separators, contains_points (by decide), Unicode.foldCode_eq_iff (List.cons.inj hforms.1).1,
    Unicode.foldCode_eq_iff (List.cons.inj hforms.2).1, hforms.1, hforms.2]
  simp only [List.mem_cons, List.not_mem_nil, or_false]
  exact or_comm

theorem foldSet_separators : Unicode.foldSet separators = separators := by
  have hall : Unicode.foldPairs.all (fun pair =>
      !separators.contains pair.1 && !separators.contains pair.2) = true := by
    decide +kernel
  refine Unicode.foldSet_eq_self (by cbv) fun pair hpair => ?_
  simpa using List.all_eq_true.mp hall pair hpair

/-! ## Steps of the parser -/

/-- A scanner inside a pattern that ignores case, in front of `rest` and behind `groups` groups. -/
def caselessAt (groups : Nat) (rest : List Char) : Scanner :=
  { rest, flags := { ignoreCase := true }, groups, names := [] }

theorem bind_of_eq_some {α β : Type} {x : Parse α} {f : α → Parse β} {s t : Scanner} {a : α}
    (h : x s = some (a, t)) : (x >>= f) s = f a t := by
  show (x s).bind (fun (a, t) => f a t) = f a t
  rw [h]
  rfl

section Steps

variable (bound groups : Nat) (branches items : List Node) (rest : List Char)

theorem charRegex_letter {c : Char} (hc : c ∈ letters) :
    charRegex c false (caselessAt groups rest)
      = some (.oneOf (caseless c), caselessAt groups rest) := by
  show some (Regex.ofSet (CodeSet.ofRanges
    ((Unicode.caseForms c.toNat).map fun code => (code, code))), _) = _
  rw [ofSet_caseForms hc]

/-- The characters that do not stand for themselves in a pattern. -/
def special : List Char :=
  [')', '|', '(', '[', '?', '*', '+', '\x7b', '\\', '.', '^', '$']

theorem not_mem_special {c : Char} (hc : c ∈ letters) : c ∉ special := by
  have hall : letters.all (fun c => !special.contains c) = true := by decide +kernel
  simpa using List.all_eq_true.mp hall c hc

theorem group_letter {c : Char} (hc : c ∈ letters) :
    group (bound + 1) branches items (caselessAt groups (c :: rest))
      = group bound branches (⟨.oneOf (caseless c), 0, true⟩ :: items)
        (caselessAt groups rest) := by
  have hspecial := not_mem_special hc
  simp only [special, List.mem_cons, List.not_mem_nil, or_false, not_or] at hspecial
  have hprimitive : primitive c (caselessAt groups (c :: rest))
      = some (.oneOf (caseless c), caselessAt groups rest) := by
    rw [primitive]
    simp only [hspecial, if_false]
    exact charRegex_letter groups rest hc
  have hspace : space (caselessAt groups (c :: rest))
      = some ((), caselessAt groups (c :: rest)) := rfl
  have hpeek : peek (caselessAt groups (c :: rest))
      = some (some c, caselessAt groups (c :: rest)) := rfl
  rw [group, bind_of_eq_some hspace, bind_of_eq_some hpeek]
  generalize hnext : some c = next
  split <;> simp_all only [Option.some.injEq, reduceCtorEq]
  exact bind_of_eq_some hprimitive

theorem bracketed_separators :
    bracketed (caselessAt groups ("[_-]".toList ++ rest))
      = some (⟨separators, 2⟩, caselessAt groups rest) := by
  have hunion : CodeSet.unionAll [CodeSet.single 45, CodeSet.single 95] = separators := by cbv
  show some (SetNode.mk (Unicode.foldSet (CodeSet.unionAll [CodeSet.single 45, CodeSet.single 95]))
    2, caselessAt groups rest) = _
  rw [hunion, foldSet_separators]

theorem preference_of_unmarked (hrest : rest.head? ≠ some '?') :
    preference (caselessAt groups rest) = some (true, caselessAt groups rest) := by
  have hunmarked : "?".toList.isPrefixOf rest = false := by
    cases rest with
    | nil => rfl
    | cons c rest =>
      simp only [List.head?_cons, ne_eq, Option.some.injEq] at hrest
      simp [List.isPrefixOf, Ne.symm hrest]
  have haccept : accept "?" (caselessAt groups rest) = some (false, caselessAt groups rest) := by
    show (if "?".toList.isPrefixOf rest then _ else pure false : Parse Bool) _ = _
    rw [hunmarked]
    rfl
  rw [preference, bind_of_eq_some haccept]
  rfl

theorem group_separators (hrest : rest.head? ≠ some '?') :
    group (bound + 2) branches items (caselessAt groups ("[_-]?".toList ++ rest))
      = group bound branches (⟨.rep (.oneOf separators) 0 (some 1) true, 3, true⟩ :: items)
        (caselessAt groups rest) := by
  have hclass : group (bound + 2) branches items (caselessAt groups ("[_-]?".toList ++ rest))
      = group (bound + 1) branches (⟨.oneOf separators, 2, true⟩ :: items)
        (caselessAt groups ('?' :: rest)) := by
    show (bracketed (caselessAt groups ("[_-]".toList ++ '?' :: rest))).bind
      (fun (c, s) => group (bound + 1) branches (⟨Regex.ofSet c.chars, c.depth, true⟩ :: items) s)
      = _
    rw [bracketed_separators]
    rfl
  rw [hclass]
  show (preference (caselessAt groups rest)).bind (fun (greedy, s) => group bound branches
    (⟨Regex.repeated (.oneOf separators) 0 (some 1) greedy, 3, true⟩ :: items) s) = _
  rw [preference_of_unmarked groups rest hrest]
  rfl

theorem group_bar :
    group (bound + 1) branches items (caselessAt groups ('|' :: rest))
      = group bound (joinItems items :: branches) [] (caselessAt groups rest) := rfl

theorem group_close :
    group (bound + 1) branches items (caselessAt groups (')' :: rest))
      = some (joinBranches (joinItems items :: branches), caselessAt groups (')' :: rest)) := rfl

end Steps

theorem group_open {bound : Nat} {items : List Node} {body : Node} {rest after : List Char}
    (h : group bound [] [] (caselessAt 1 ('p' :: rest))
      = some (body, caselessAt 1 (')' :: after))) :
    group (bound + 1) [] items (caselessAt 0 ('(' :: 'p' :: rest))
      = group bound [] (⟨.group 1 body.regex, body.depth + 1, true⟩ :: items)
        (caselessAt 1 after) := by
  show (group bound [] [] (caselessAt 1 ('p' :: rest))).bind _ = _
  rw [h]
  rfl

theorem group_flags (bound : Nat) (rest : List Char) :
    group (bound + 1) [] [] ⟨"(?i)".toList ++ rest, {}, 0, []⟩
      = group bound [] [⟨.empty, 0, false⟩] (caselessAt 0 rest) :=
  rfl

theorem parse?_eq_some {pattern : String} {node : Node} {s : Scanner}
    (h : group (pattern.toList.length + 1) [] [] ⟨pattern.toList, {}, 0, []⟩ = some (node, s))
    (hrest : s.rest = []) (hdepth : node.depth ≤ maxDepth)
    (hfits : Automaton.fits node.regex = true) : parse? pattern = some node.regex := by
  obtain ⟨rest, flags, groups, names⟩ := s
  obtain rfl : rest = [] := hrest
  rw [parse?, h]
  simp [hdepth, hfits]

/-! ## Phrases -/

/-- A part of a branch: a letter in either case, or a separator that may be left out. -/
inductive Part where
  | letter (c : Char)
  | separator

namespace Part

/-- The part as it stands in the pattern. -/
def text : Part → List Char
  | letter c => [c]
  | separator => "[_-]?".toList

/-- What `group` reads the part as. -/
def node : Part → Node
  | letter c => ⟨.oneOf (caseless c), 0, true⟩
  | separator => ⟨.rep (.oneOf separators) 0 (some 1) true, 3, true⟩

/-- The number of steps in which `group` reads the part. -/
def steps : Part → Nat
  | letter _ => 1
  | separator => 2

/-- The words that the part stands for. -/
def spellings : Part → List (List Char)
  | letter c => [[c]]
  | separator => [[], ['_'], ['-']]

/-- A letter of the part is one of `letters`. -/
def IsPlain (part : Part) : Prop :=
  ∀ c, part = letter c → c ∈ letters

end Part

/-- A branch of the pattern. -/
abbrev Phrase := List Part

namespace Phrase

/-- The branch as it stands in the pattern. -/
def text (phrase : Phrase) : List Char :=
  phrase.flatMap Part.text

/-- The number of steps in which `group` reads the branch. -/
def steps (phrase : Phrase) : Nat :=
  (phrase.map Part.steps).sum

/-- What `group` reads the branch as. -/
def node (phrase : Phrase) : Node :=
  joinItems (phrase.map Part.node).reverse

/-- The expressions of the parts one after the other. -/
def regex (phrase : Phrase) : Regex :=
  .ofParts (phrase.map fun part => part.node.regex)

/-- The words that the branch stands for: one word of each part. -/
def spellings : Phrase → List (List Char)
  | [] => [[]]
  | part :: phrase => part.spellings.flatMap fun front => (spellings phrase).map (front ++ ·)

end Phrase

section Runs

variable (bound groups : Nat) (branches items : List Node) (rest : List Char)

/-- The step over one part.  A `?` behind a separator would belong to it. -/
theorem group_part (part : Part) (hpart : part.IsPlain) (hrest : rest.head? ≠ some '?') :
    group (bound + part.steps) branches items (caselessAt groups (part.text ++ rest))
      = group bound branches (part.node :: items) (caselessAt groups rest) := by
  cases part with
  | letter c => exact group_letter bound groups branches items rest (hpart c rfl)
  | separator => exact group_separators bound groups branches items rest hrest

theorem head?_text_ne (phrase : Phrase) (hphrase : ∀ part ∈ phrase, part.IsPlain)
    (hrest : rest.head? ≠ some '?') : (phrase.text ++ rest).head? ≠ some '?' := by
  match phrase with
  | [] => exact hrest
  | .letter c :: _ =>
    intro h
    obtain rfl : c = '?' := Option.some.inj h
    exact not_mem_special (hphrase _ List.mem_cons_self _ rfl) (by decide)
  | .separator :: _ => exact fun h => absurd (Option.some.inj h) (by decide)

/-- The run over one branch: its parts are put in front of `items`, last first. -/
theorem group_phrase (phrase : Phrase) (hphrase : ∀ part ∈ phrase, part.IsPlain)
    (hrest : rest.head? ≠ some '?') :
    group (bound + phrase.steps) branches items (caselessAt groups (phrase.text ++ rest))
      = group bound branches ((phrase.map Part.node).reverse ++ items)
        (caselessAt groups rest) := by
  induction phrase generalizing items with
  | nil => rfl
  | cons part phrase ih =>
    rw [List.forall_mem_cons] at hphrase
    have hsteps : bound + Phrase.steps (part :: phrase)
        = bound + Phrase.steps phrase + part.steps := by
      simp only [Phrase.steps, List.map_cons, List.sum_cons]
      omega
    have htext : Phrase.text (part :: phrase) ++ rest
        = part.text ++ (Phrase.text phrase ++ rest) := by
      simp only [Phrase.text, List.flatMap_cons, List.append_assoc]
    have hnext := head?_text_ne rest phrase hphrase.2 hrest
    rw [hsteps, htext, group_part _ _ _ _ _ part hphrase.1 hnext,
      ih (part.node :: items) hphrase.2]
    simp

/-- The run over all further branches, up to the parenthesis that closes the group. -/
theorem group_phrases (more : List Phrase)
    (hmore : ∀ phrase ∈ more, ∀ part ∈ phrase, part.IsPlain) :
    group (bound + 1 + (more.map fun phrase => phrase.steps + 1).sum) branches items
        (caselessAt groups ((more.flatMap fun phrase => '|' :: phrase.text) ++ ')' :: rest))
      = some (joinBranches ((more.map Phrase.node).reverse ++ joinItems items :: branches),
        caselessAt groups (')' :: rest)) := by
  induction more generalizing branches items with
  | nil => exact group_close bound groups branches items rest
  | cons phrase more ih =>
    rw [List.forall_mem_cons] at hmore
    have hsteps : bound + 1 + ((phrase :: more).map fun phrase => phrase.steps + 1).sum
        = bound + 1 + (more.map fun phrase => phrase.steps + 1).sum + phrase.steps + 1 := by
      simp only [List.map_cons, List.sum_cons]
      omega
    have htext : ((phrase :: more).flatMap fun phrase => '|' :: phrase.text) ++ ')' :: rest
        = '|' :: (phrase.text
          ++ ((more.flatMap fun phrase => '|' :: phrase.text) ++ ')' :: rest)) := by
      simp
    have hend :
        ((more.flatMap fun phrase => '|' :: phrase.text) ++ ')' :: rest).head? ≠ some '?' := by
      cases more <;> simp
    rw [hsteps, htext, group_bar, group_phrase _ _ _ _ _ phrase hmore.1 hend, List.append_nil,
      ih _ _ hmore.2]
    simp [Phrase.node]

end Runs

end Pattern

/-! ## The pattern -/

namespace Secret

open Pattern

/-- The pattern by which the keywords are known. -/
def keywordPattern : String :=
  "(?i)(password|passwd|pwd|secret|api[_-]?key|apikey|token|access[_-]?token|auth|bearer|"
    ++ "private[_-]?key)"

/-- A branch that is one word. -/
def plain (word : String) : Phrase :=
  word.toList.map .letter

/-- The branches of `keywordPattern`. -/
def phrases : List Phrase :=
  [plain "password", plain "passwd", plain "pwd", plain "secret",
    plain "api" ++ .separator :: plain "key", plain "apikey", plain "token",
    plain "access" ++ .separator :: plain "token", plain "auth", plain "bearer",
    plain "private" ++ .separator :: plain "key"]

/-- The expression of `keywordPattern`. -/
def keywordRegex : Regex :=
  .group 1 (.ofBranches (phrases.map Phrase.regex))

theorem isPlain_phrases : ∀ phrase ∈ phrases, ∀ part ∈ phrase, part.IsPlain := by
  have hall : phrases.all (fun phrase => phrase.all fun
      | .letter c => letters.contains c
      | .separator => true) = true := by
    decide +kernel
  rintro phrase hphrase _ hpart c rfl
  simpa using List.all_eq_true.mp (List.all_eq_true.mp hall phrase hphrase) _ hpart

set_option maxRecDepth 10000 in
theorem fits_keywordRegex : Automaton.fits keywordRegex = true := by
  cbv

set_option maxRecDepth 10000 in
theorem joinBranches_phrases : joinBranches (phrases.map Phrase.node).reverse
    = ⟨.ofBranches (phrases.map Phrase.regex), 5, true⟩ := by
  cbv

/-- What follows the opening parenthesis of the group in `keywordPattern`. -/
def keywordBody : List Char :=
  keywordPattern.toList.drop 5

theorem group_keywordBody :
    group 101 [] [] (caselessAt 1 keywordBody)
      = some (⟨.ofBranches (phrases.map Phrase.regex), 5, true⟩, caselessAt 1 [')']) := by
  have hplain := isPlain_phrases
  rw [phrases, List.forall_mem_cons] at hplain
  rw [← joinBranches_phrases]
  refine (group_phrase 93 1 [] [] _ (plain "password") hplain.1 ?_).trans
    (group_phrases 13 1 [] _ [] phrases.tail hplain.2)
  decide

theorem parse?_keywordPattern : parse? keywordPattern = some keywordRegex := by
  have htext : keywordPattern.toList = "(?i)".toList ++ '(' :: keywordBody := by decide
  have hlength : keywordPattern.toList.length = 102 := by decide
  have hrun : group (keywordPattern.toList.length + 1) [] [] ⟨keywordPattern.toList, {}, 0, []⟩
      = some (⟨keywordRegex, 7, true⟩, caselessAt 1 []) := by
    rw [hlength, htext]
    exact (group_flags 102 _).trans (group_open group_keywordBody)
  exact parse?_eq_some hrun rfl (by decide) fits_keywordRegex

/-! ## Texts up to case -/

open Regex Regex.Stretches

/-- The character that stands for all case forms of a character. -/
def foldChar (c : Char) : Char :=
  Char.ofNat (Unicode.foldCode c.toNat)

theorem foldChar_eq_iff {c d : Char} (hd : d ≠ '\x00') :
    foldChar c = d ↔ Unicode.foldCode c.toNat = d.toNat := by
  rw [foldChar]
  constructor
  · rintro rfl
    rw [Char.ofNat] at hd ⊢
    split_ifs at hd ⊢ with hvalid
    · rfl
    · exact absurd rfl hd
  · intro h
    rw [h, Char.ofNat_toNat]

/-- The texts that fold to one of `words`. -/
def foldedTo (words : List (List Char)) : Language Char :=
  {text | text.map foldChar ∈ words}

theorem foldedTo_mul (fronts backs : List (List Char)) :
    foldedTo fronts * foldedTo backs
      = foldedTo (fronts.flatMap fun front => backs.map (front ++ ·)) := by
  ext text
  rw [Language.mem_mul]
  constructor
  · rintro ⟨front, hfront, back, hback, rfl⟩
    refine List.mem_flatMap.mpr ⟨_, hfront, List.mem_map.mpr ⟨_, hback, ?_⟩⟩
    rw [List.map_append]
  · intro hmem
    obtain ⟨front, hfront, hmem⟩ := List.mem_flatMap.mp hmem
    obtain ⟨back, hback, htext⟩ := List.mem_map.mp hmem
    obtain ⟨left, right, rfl, rfl, rfl⟩ := List.map_eq_append_iff.mp htext.symm
    exact ⟨left, hfront, right, hback, rfl⟩

theorem prod_foldedTo (phrase : Phrase) :
    (phrase.map fun part => foldedTo part.spellings).prod = foldedTo phrase.spellings := by
  induction phrase with
  | nil =>
    ext text
    show text = [] ↔ text.map foldChar ∈ [[]]
    rw [List.mem_singleton, List.map_eq_nil_iff]
  | cons part phrase ih =>
    rw [List.map_cons, List.prod_cons, ih, foldedTo_mul]
    rfl

/-- The expression of a part matches the texts that fold to one of its words. -/
theorem spells_part {part : Part} (h : part.IsPlain) :
    Spells (Matches part.node.regex) (foldedTo part.spellings) := by
  cases part with
  | letter c =>
    have hne : c ≠ '\x00' := by
      rintro rfl
      exact absurd (h _ rfl) (by decide)
    have hset : ∀ d : Char, (caseless c).contains d.toNat = decide (foldChar d = c) := by
      intro d
      rw [Bool.eq_iff_iff, decide_eq_true_iff, contains_caseless (h c rfl),
        foldChar_eq_iff hne]
    intro before stretch after
    rw [show (Part.letter c).node.regex = .oneOf (caseless c) from rfl,
      spells_oneOf hset before stretch after]
    show (∃ d, stretch = [d] ∧ decide (foldChar d = c) = true) ↔ stretch.map foldChar ∈ [[c]]
    simp [List.map_eq_singleton_iff]
  | separator =>
    have hset : ∀ d : Char, separators.contains d.toNat
        = decide (foldChar d = '_' ∨ foldChar d = '-') := by
      intro d
      rw [Bool.eq_iff_iff, decide_eq_true_iff, contains_separators,
        foldChar_eq_iff (by decide), foldChar_eq_iff (by decide)]
    intro before stretch after
    rw [show Part.separator.node.regex = .rep (.oneOf separators) 0 (some 1) true from rfl,
      spells_rep_some (spells_oneOf hset) 0 1 true before stretch after]
    show (∃ n, 0 ≤ n ∧ n ≤ max 0 1 ∧ stretch ∈ _ ^ n) ↔ stretch.map foldChar ∈ [[], ['_'], ['-']]
    simp only [mem_single_pow]
    match stretch with
    | [] => simp
    | [d] => simp
    | _ :: _ :: _ => simp

theorem spells_keywordRegex : Spells (Matches keywordRegex)
    {text | ∃ phrase ∈ phrases, text ∈ foldedTo phrase.spellings} := by
  refine spells_group 1 (spells_ofBranches _ fun phrase hphrase => ?_)
  rw [← prod_foldedTo]
  exact spells_ofParts phrase fun part hpart =>
    spells_part (isPlain_phrases phrase hphrase part hpart)

theorem exists_spelling_iff {letters : List Char} :
    (∃ phrase ∈ phrases, ∃ word ∈ phrase.spellings, word <:+: letters) ↔
      ∃ word ∈ keywords, word.toList <:+: letters := by
  constructor
  · have hall : phrases.all (fun phrase => phrase.spellings.all fun word =>
        keywords.any fun keyword => Text.occursIn keyword.toList word) = true := by
      decide +kernel
    rintro ⟨phrase, hphrase, word, hword, hoccurs⟩
    obtain ⟨keyword, hkeyword, hin⟩ := List.any_eq_true.mp
      (List.all_eq_true.mp (List.all_eq_true.mp hall phrase hphrase) word hword)
    exact ⟨keyword, hkeyword, (Text.occursIn_iff.mp hin).trans hoccurs⟩
  · have hall : keywords.all (fun keyword => phrases.any fun phrase =>
        phrase.spellings.contains keyword.toList) = true := by
      decide +kernel
    rintro ⟨keyword, hkeyword, hoccurs⟩
    obtain ⟨phrase, hphrase, hin⟩ := List.any_eq_true.mp (List.all_eq_true.mp hall keyword hkeyword)
    exact ⟨phrase, hphrase, keyword.toList, List.contains_iff_mem.mp hin, hoccurs⟩

theorem exists_foldedTo_infix_iff {words : List (List Char)} {text : String} :
    (∃ stretch ∈ foldedTo words, stretch <:+: text.toList) ↔
      ∃ word ∈ words, word <:+: folded text := by
  rw [show folded text = text.toList.map foldChar from rfl]
  simp only [List.infix_map_iff]
  constructor
  · rintro ⟨stretch, hmem, hoccurs⟩
    exact ⟨_, hmem, stretch, hoccurs, rfl⟩
  · rintro ⟨_, hmem, stretch, hoccurs, rfl⟩
    exact ⟨stretch, hmem, hoccurs⟩

theorem isMatch_keywordRegex (text : String) :
    keywordRegex.isMatch text = hasKeyword text := by
  have hkeyword : hasKeyword text = true ↔ ∃ word ∈ keywords, word.toList <:+: folded text := by
    simp only [hasKeyword, List.any_eq_true, Text.occursIn_iff]
  rw [Bool.eq_iff_iff, isMatch_spells spells_keywordRegex, hkeyword, ← exists_spelling_iff]
  simp only [← exists_foldedTo_infix_iff]
  constructor
  · rintro ⟨stretch, ⟨phrase, hphrase, hmem⟩, hoccurs⟩
    exact ⟨phrase, hphrase, stretch, hmem, hoccurs⟩
  · rintro ⟨phrase, hphrase, stretch, hmem, hoccurs⟩
    exact ⟨stretch, ⟨phrase, hphrase, hmem⟩, hoccurs⟩

end Secret

end ClassAudit
