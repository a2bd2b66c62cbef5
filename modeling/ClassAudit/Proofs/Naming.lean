import ClassAudit.Analyzer
import ClassAudit.Pattern.Parser
import ClassAudit.Proofs.Delegation
import ClassAudit.Proofs.FileTree
import ClassAudit.Proofs.Matching
import Mathlib

/-!
# Conventions for names

Constants are written in capitals with underscores and other fields in camel case.  `CamelCase` and
`UpperSnakeCase` say character by character what that means.  The two tests for names and the two
patterns by which the conventions are known accept just these names.

## Shape of the proof

A name in capitals is told by its words, the pieces between underscores.  No word is empty just when
no two underscores meet and none stands at an end (`nil_mem_tail_pieces`).  The pattern spells the
same words one after the other, so its texts are those that the pieces can be put together to.

A name cannot begin with a capital and with a lower-case letter.  So no name follows both
conventions, and a well-named field that becomes a constant or ceases to be one is well named no
longer.
-/

namespace ClassAudit

/-! ## Pieces of a text -/

namespace Text

variable {separator : Char} {text : List Char}

/-- `pieces` joined with the separator give the text. -/
theorem join_pieces {first : List Char} {more : List (List Char)}
    (h : pieces separator text = first :: more) :
    text = first ++ (more.map (separator :: ·)).flatten := by
  induction text generalizing first more with
  | nil =>
    obtain ⟨rfl, rfl⟩ := List.cons.inj h
    rfl
  | cons c rest ih =>
    obtain ⟨piece, others, hrest⟩ := List.exists_cons_of_ne_nil (pieces_ne_nil separator rest)
    rw [pieces, hrest] at h
    split_ifs at h with hc
    · obtain ⟨rfl, rfl⟩ := List.cons.inj h
      simp [hc, ← ih hrest]
    · obtain ⟨rfl, rfl⟩ := List.cons.inj h
      simp [← ih hrest]

/-- `pieces` inverts joining, for pieces without the separator. -/
theorem pieces_join {first : List Char} {more : List (List Char)} (hfirst : separator ∉ first)
    (hmore : ∀ piece ∈ more, separator ∉ piece) :
    pieces separator (first ++ (more.map (separator :: ·)).flatten) = first :: more := by
  induction more generalizing first with
  | nil => simpa using pieces_of_not_mem hfirst
  | cons piece more ih =>
    rw [List.forall_mem_cons] at hmore
    rw [List.map_cons, List.flatten_cons, List.cons_append, pieces_append,
      pieces_of_not_mem hfirst, ih hmore.1 hmore.2]
    rfl

/-- The characters of the `pieces` are those of the text other than the separator. -/
theorem exists_mem_pieces {c : Char} :
    (∃ piece ∈ pieces separator text, c ∈ piece) ↔ c ∈ text ∧ c ≠ separator := by
  obtain ⟨first, more, hpieces⟩ := List.exists_cons_of_ne_nil (pieces_ne_nil separator text)
  constructor
  · rintro ⟨piece, hpiece, hc⟩
    refine ⟨?_, fun h => not_mem_of_mem_pieces hpiece (h ▸ hc)⟩
    rw [hpieces] at hpiece
    rw [join_pieces hpieces]
    rcases List.mem_cons.mp hpiece with rfl | hpiece
    · exact List.mem_append_left _ hc
    · refine List.mem_append_right _ (List.mem_flatten.mpr ?_)
      exact ⟨_, List.mem_map_of_mem hpiece, List.mem_cons_of_mem _ hc⟩
  · rintro ⟨hc, hne⟩
    rw [join_pieces hpieces] at hc
    rw [hpieces]
    simp only [List.mem_append, List.mem_flatten, List.mem_map] at hc
    rcases hc with hc | ⟨_, ⟨piece, hpiece, rfl⟩, hc⟩
    · exact ⟨first, List.mem_cons_self, hc⟩
    · exact ⟨piece, List.mem_cons_of_mem _ hpiece, (List.mem_cons.mp hc).resolve_left hne⟩

/-- The first of the `pieces` is empty iff the text is empty or starts with the separator. -/
theorem first_piece_eq_nil_iff {first : List Char} {more : List (List Char)}
    (h : pieces separator text = first :: more) :
    first = [] ↔ text.head? = some separator ∨ text = [] := by
  have hjoin := join_pieces h
  cases first with
  | nil => cases more <;> simp [hjoin]
  | cons c first =>
    have hc : separator ∉ c :: first := not_mem_of_mem_pieces (h ▸ List.mem_cons_self)
    have hne : c ≠ separator := fun heq => hc (heq ▸ List.mem_cons_self)
    simp [hjoin, hne]

/-- A later empty piece stands for two adjacent separators or for one at the end. -/
theorem nil_mem_tail_pieces (separator : Char) (text : List Char) :
    [] ∈ (pieces separator text).tail ↔
      [separator, separator] <:+: text ∨ text.getLast? = some separator := by
  induction text with
  | nil => simp [pieces]
  | cons c rest ih =>
    obtain ⟨piece, others, hrest⟩ := List.exists_cons_of_ne_nil (pieces_ne_nil separator rest)
    have hpiece := first_piece_eq_nil_iff hrest
    have hmeet : [separator, separator] <+: c :: rest ↔
        c = separator ∧ rest.head? = some separator := by
      cases rest <;> simp [eq_comm]
    have hlast : (c :: rest).getLast? = some separator ↔
        (c = separator ∧ rest = []) ∨ rest.getLast? = some separator := by
      cases rest <;> simp
    rw [hrest, List.tail_cons] at ih
    rw [pieces, hrest, List.infix_cons_iff, hmeet, hlast]
    by_cases hc : c = separator
    · rw [if_pos hc, List.tail_cons, List.mem_cons, ih, eq_comm, hpiece]
      simp only [hc, true_and]
      exact or_or_or_comm
    · rw [if_neg hc, List.tail_cons, ih]
      simp only [hc, false_and, false_or]

end Text

/-! ## The conventions -/

namespace Naming

/-- `c` lies between `first` and `last`. -/
def InRange (first last c : Char) : Prop :=
  first ≤ c ∧ c ≤ last

instance (first last c : Char) : Decidable (InRange first last c) :=
  inferInstanceAs (Decidable (first ≤ c ∧ c ≤ last))

theorem inRange_iff {first last c : Char} :
    InRange first last c ↔ first.toNat ≤ c.toNat ∧ c.toNat ≤ last.toNat :=
  Iff.rfl

/-- ASCII letters and digits, with a lower-case letter first. -/
@[mk_iff]
structure CamelCase (name : String) : Prop where
  start : ∃ c ∈ name.toList.head?, InRange 'a' 'z' c
  chars : ∀ c ∈ name.toList, InRange 'a' 'z' c ∨ InRange 'A' 'Z' c ∨ InRange '0' '9' c

/-- ASCII capitals, digits and underscores, with a capital first, no two adjacent underscores and
none at the end. -/
structure UpperSnakeCase (name : String) : Prop where
  start : ∃ c ∈ name.toList.head?, InRange 'A' 'Z' c
  chars : ∀ c ∈ name.toList, InRange 'A' 'Z' c ∨ InRange '0' '9' c ∨ c = '_'
  apart : ¬ ['_', '_'] <:+: name.toList
  closed : name.toList.getLast? ≠ some '_'

/-- An ASCII capital or digit. -/
def isCapital (c : Char) : Bool :=
  Text.isUpper c || Text.isDigit c

/-- The non-empty texts of `isCapital` characters. -/
def capitalWords : Language Char :=
  Regex.words isCapital

theorem isLower_iff {c : Char} : Text.isLower c = true ↔ InRange 'a' 'z' c := by
  simp [Text.isLower, InRange]

theorem isUpper_iff {c : Char} : Text.isUpper c = true ↔ InRange 'A' 'Z' c := by
  simp [Text.isUpper, InRange]

theorem isCapital_iff {c : Char} :
    isCapital c = true ↔ InRange 'A' 'Z' c ∨ InRange '0' '9' c := by
  simp [isCapital, Text.isUpper, Text.isDigit, InRange]

theorem isLetterOrDigit_iff {c : Char} :
    Text.isLetterOrDigit c = true ↔
      InRange 'a' 'z' c ∨ InRange 'A' 'Z' c ∨ InRange '0' '9' c := by
  simp [Text.isLetterOrDigit, Text.isLetter, Text.isLower, Text.isUpper, Text.isDigit, InRange,
    or_assoc]

theorem isCamelCase_iff {name : String} : isCamelCase name = true ↔ CamelCase name := by
  rw [camelCase_iff, isCamelCase]
  cases name.toList with
  | nil => simp
  | cons c rest =>
    simp only [Bool.and_eq_true, List.all_eq_true, isLower_iff, isLetterOrDigit_iff,
      List.head?_cons, Option.mem_def, Option.some.injEq, exists_eq_left', List.forall_mem_cons]
    tauto

theorem isUpperSnakeCase_iff_words {name : String} :
    isUpperSnakeCase name = true ↔ (∃ c ∈ name.toList.head?, Text.isUpper c = true) ∧
      ∀ word ∈ Text.pieces '_' name.toList, word ∈ capitalWords := by
  show _ ↔ _ ∧ ∀ word ∈ Text.pieces '_' name.toList, word ≠ [] ∧ ∀ c ∈ word, isCapital c = true
  simp [isUpperSnakeCase, isCapital, Option.any_eq_true]

theorem isUpperSnakeCase_iff {name : String} :
    isUpperSnakeCase name = true ↔ UpperSnakeCase name := by
  obtain ⟨first, more, hpieces⟩ := List.exists_cons_of_ne_nil (Text.pieces_ne_nil '_' name.toList)
  have hempty : [] ∈ more ↔ ['_', '_'] <:+: name.toList ∨ name.toList.getLast? = some '_' := by
    simpa [hpieces] using Text.nil_mem_tail_pieces '_' name.toList
  rw [isUpperSnakeCase_iff_words]
  constructor
  · rintro ⟨⟨c, hc, hupper⟩, hwords⟩
    have hnone : [] ∉ more := fun hmem =>
      (hwords [] (hpieces ▸ List.mem_cons_of_mem first hmem)).1 rfl
    rw [hempty, not_or] at hnone
    refine ⟨⟨c, hc, isUpper_iff.mp hupper⟩, fun d hd => ?_, hnone.1, hnone.2⟩
    by_cases hunderscore : d = '_'
    · exact .inr (.inr hunderscore)
    · obtain ⟨word, hword, hmem⟩ := Text.exists_mem_pieces.mpr ⟨hd, hunderscore⟩
      exact (isCapital_iff.mp ((hwords word hword).2 d hmem)).imp_right .inl
  · intro h
    obtain ⟨c, hc, hupper⟩ := h.start
    refine ⟨⟨c, hc, isUpper_iff.mpr hupper⟩, fun word hword => ⟨?_, fun d hd => ?_⟩⟩
    · rintro rfl
      rw [hpieces] at hword
      rcases List.mem_cons.mp hword with hfirst | hmore
      · -- the first word begins with the capital that comes first
        rcases (Text.first_piece_eq_nil_iff hpieces).mp hfirst.symm with hhead | hnil
        · obtain rfl : '_' = c := by simpa [hhead] using hc
          exact absurd hupper (by decide)
        · simp [hnil] at hc
      · exact (hempty.mp hmore).elim h.apart h.closed
    · obtain ⟨hmem, hne⟩ := Text.exists_mem_pieces.mp ⟨word, hword, hd⟩
      have hchar := h.chars d hmem
      rw [isCapital_iff]
      tauto

/-- `CamelCase` and `UpperSnakeCase` exclude each other. -/
theorem CamelCase.not_upperSnakeCase {name : String} (h : CamelCase name) :
    ¬ UpperSnakeCase name := by
  intro hupper
  obtain ⟨c, hc, hlow, -⟩ := h.start
  obtain ⟨d, hd, -, hhigh⟩ := hupper.start
  obtain rfl : c = d := Option.mem_unique hc hd
  exact absurd (Char.le_trans hlow hhigh) (by decide)

/-! ## The patterns -/

open Regex
open scoped Computability

/-- The expression of the pattern for `isCamelCase`. -/
def camelCase : Regex :=
  .seq (.assert .textStart) (.seq (.oneOf ⟨#[(97, 122)]⟩)
    (.seq (.rep (.oneOf ⟨#[(48, 57), (65, 90), (97, 122)]⟩) 0 none true) (.assert .textEnd)))

/-- The expression of the pattern for `isUpperSnakeCase`. -/
def upperSnakeCase : Regex :=
  .seq (.assert .textStart) (.seq (.oneOf ⟨#[(65, 90)]⟩)
    (.seq (.rep (.oneOf ⟨#[(48, 57), (65, 90)]⟩) 0 none true)
      (.seq (.rep (.group 1 (.seq (.literal ['_'])
        (.rep (.oneOf ⟨#[(48, 57), (65, 90)]⟩) 1 none true))) 0 none true) (.assert .textEnd))))

set_option maxRecDepth 10000 in
theorem parse_camelCase : Pattern.parse? "^[a-z][a-zA-Z0-9]*$" = some camelCase := by
  cbv

set_option maxRecDepth 10000 in
theorem parse_upperSnakeCase :
    Pattern.parse? "^[A-Z][A-Z0-9]*(_[A-Z0-9]+)*$" = some upperSnakeCase := by
  cbv

section Sets

open Unicode.CodeSet (contains_iff)

theorem contains_lower (c : Char) :
    (⟨#[(97, 122)]⟩ : Unicode.CodeSet).contains c.toNat = Text.isLower c := by
  rw [Bool.eq_iff_iff, contains_iff ⟨by decide, by decide⟩, isLower_iff]
  simp [inRange_iff]

theorem contains_upper (c : Char) :
    (⟨#[(65, 90)]⟩ : Unicode.CodeSet).contains c.toNat = Text.isUpper c := by
  rw [Bool.eq_iff_iff, contains_iff ⟨by decide, by decide⟩, isUpper_iff]
  simp [inRange_iff]

theorem contains_capital (c : Char) :
    (⟨#[(48, 57), (65, 90)]⟩ : Unicode.CodeSet).contains c.toNat = isCapital c := by
  rw [Bool.eq_iff_iff, contains_iff ⟨by decide, by decide⟩, isCapital_iff]
  simp [inRange_iff, or_comm]

theorem contains_letterOrDigit (c : Char) :
    (⟨#[(48, 57), (65, 90), (97, 122)]⟩ : Unicode.CodeSet).contains c.toNat
      = Text.isLetterOrDigit c := by
  rw [Bool.eq_iff_iff, contains_iff ⟨by decide, by decide⟩, isLetterOrDigit_iff]
  simp [inRange_iff]
  tauto

end Sets

theorem isMatch_camelCase (name : String) : camelCase.isMatch name = isCamelCase name := by
  have hspells := spellsRest_seq (spells_oneOf contains_lower)
    (spellsRest_seq (spells_rep (spells_oneOf contains_letterOrDigit) 0 true) spellsRest_textEnd)
  rw [Bool.eq_iff_iff, camelCase, isMatch_tied hspells, pow_zero, one_mul, mul_one,
    Language.mem_mul, isCamelCase]
  constructor
  · rintro ⟨_, ⟨c, rfl, hc⟩, rest, hrest, hname⟩
    rw [← hname]
    simpa [hc] using mem_kstar_single.mp hrest
  · cases name.toList with
    | nil => simp
    | cons c rest =>
      simp only [Bool.and_eq_true, List.all_eq_true]
      rintro ⟨hc, hrest⟩
      exact ⟨[c], ⟨c, rfl, hc⟩, rest, mem_kstar_single.mpr hrest, rfl⟩

/-- The star of `_` followed by a word of `capitalWords`. -/
theorem mem_kstar_words {text : List Char} :
    text ∈ ({['_']} * capitalWords : Language Char)∗ ↔
      ∃ words : List (List Char), text = (words.map ('_' :: ·)).flatten ∧
        ∀ word ∈ words, word ∈ capitalWords := by
  have hpart : ∀ part, part ∈ ({['_']} * capitalWords : Language Char) ↔
      ∃ word, part = '_' :: word ∧ word ∈ capitalWords := by
    intro part
    rw [Language.mem_mul]
    constructor
    · rintro ⟨_, rfl, word, hword, rfl⟩
      exact ⟨word, rfl, hword⟩
    · rintro ⟨word, rfl, hword⟩
      exact ⟨['_'], rfl, word, hword, rfl⟩
  rw [Language.mem_kstar]
  constructor
  · rintro ⟨parts, rfl, hparts⟩
    refine ⟨parts.map List.tail, ?_, fun word hword => ?_⟩
    · have hsame : parts.map (fun part => '_' :: part.tail) = parts.map id := by
        refine List.map_congr_left fun part hmem => ?_
        obtain ⟨word, rfl, -⟩ := (hpart part).mp (hparts part hmem)
        rfl
      rw [List.map_map]
      exact congrArg List.flatten (hsame.trans (List.map_id parts)).symm
    · obtain ⟨part, hmem, rfl⟩ := List.mem_map.mp hword
      obtain ⟨word, rfl, htail⟩ := (hpart part).mp (hparts part hmem)
      exact htail
  · rintro ⟨words, rfl, hwords⟩
    refine ⟨words.map ('_' :: ·), rfl, fun part hmem => ?_⟩
    obtain ⟨word, hword, rfl⟩ := List.mem_map.mp hmem
    exact (hpart _).mpr ⟨word, rfl, hwords word hword⟩

theorem not_mem_of_mem_capitalWords {word : List Char} (h : word ∈ capitalWords) :
    '_' ∉ word :=
  fun hmem => absurd (h.2 '_' hmem) (by decide)

theorem isMatch_upperSnakeCase (name : String) :
    upperSnakeCase.isMatch name = isUpperSnakeCase name := by
  have hword := spells_rep (spells_oneOf contains_capital) 1 true
  have hwords := spells_rep (spells_group 1 (spells_seq (spells_literal ['_']) hword)) 0 true
  have hspells := spellsRest_seq (spells_oneOf contains_upper)
    (spellsRest_seq (spells_rep (spells_oneOf contains_capital) 0 true)
      (spellsRest_seq hwords spellsRest_textEnd))
  rw [Bool.eq_iff_iff, upperSnakeCase, isMatch_tied hspells, isUpperSnakeCase_iff_words]
  simp only [pow_zero, one_mul, mul_one, single_pow_one_mul_kstar, ← capitalWords.eq_1,
    Language.mem_mul, mem_kstar_words, mem_kstar_single]
  constructor
  · rintro ⟨_, ⟨c, rfl, hc⟩, _, ⟨rest, hrest, _, ⟨words, rfl, hwords⟩, rfl⟩, hname⟩
    have hfirst : c :: rest ∈ capitalWords :=
      ⟨by simp, List.forall_mem_cons.mpr ⟨by simp [isCapital, hc], hrest⟩⟩
    have hpieces := Text.pieces_join (not_mem_of_mem_capitalWords hfirst)
      fun word hword => not_mem_of_mem_capitalWords (hwords word hword)
    rw [← hname]
    refine ⟨⟨c, rfl, hc⟩, ?_⟩
    rw [List.singleton_append, ← List.cons_append, hpieces]
    exact List.forall_mem_cons.mpr ⟨hfirst, hwords⟩
  · rintro ⟨⟨c, hc, hupper⟩, hall⟩
    obtain ⟨first, words, hpieces⟩ :=
      List.exists_cons_of_ne_nil (Text.pieces_ne_nil '_' name.toList)
    rw [hpieces, List.forall_mem_cons] at hall
    obtain ⟨d, rest, rfl⟩ := List.exists_cons_of_ne_nil hall.1.1
    have hname := Text.join_pieces hpieces
    obtain rfl : d = c := by
      simpa [hname] using hc
    exact ⟨[d], ⟨d, rfl, hupper⟩, _, ⟨rest, (List.forall_mem_cons.mp hall.1.2).2, _,
      ⟨words, rfl, hall.2⟩, rfl⟩, hname.symm⟩

end Naming

/-! ## Names of fields -/

namespace Check

open Naming (CamelCase UpperSnakeCase)

variable {field : Field}

/-- Neither the field nor its name is made by a compiler, and it is not `serialVersionUID`. -/
@[mk_iff]
structure Chosen (field : Field) : Prop where
  written : field.access.isSynthetic = false
  plain : '$' ∉ field.name.toList
  free : field.name ≠ "serialVersionUID"

/-- The field is static and final. -/
def Constant (field : Field) : Prop :=
  field.access.isStatic = true ∧ field.access.isFinal = true

instance (field : Field) : Decidable (Constant field) :=
  inferInstanceAs (Decidable (_ ∧ _))

/-- A `Constant` is named in `UpperSnakeCase`, any other field in `CamelCase`. -/
structure Conforms (field : Field) : Prop where
  upper : Constant field → UpperSnakeCase field.name
  camel : ¬ Constant field → CamelCase field.name

/-- The name is `Chosen` but does not `Conforms`. -/
structure Misnamed (field : Field) : Prop where
  chosen : Chosen field
  unlike : ¬ Conforms field

/-- The warning on the name of `field`. -/
def nameWarning (c : Class) (field : Field) : Finding :=
  { check := "FIELD_NAMING"
    severity := .warning
    message :=
      if Constant field then
        "Constant '" ++ field.name ++ "' does not follow UPPER_SNAKE_CASE convention"
      else "Field '" ++ field.name ++ "' does not follow camelCase convention"
    location := { className := c.dottedName, member := some field.name } }

theorem isConstant_iff : isConstant field = true ↔ Constant field := by
  simp [isConstant, Constant]

theorem hasChosenName_iff : hasChosenName field = true ↔ Chosen field := by
  simp [chosen_iff, hasChosenName, Text.hasChar, and_assoc]

theorem isWellNamed_iff : isWellNamed field = true ↔ Conforms field := by
  rw [isWellNamed]
  split_ifs with hconstant
  · rw [isConstant_iff] at hconstant
    rw [Naming.isUpperSnakeCase_iff]
    exact ⟨fun h => ⟨fun _ => h, fun hnot => absurd hconstant hnot⟩, fun h => h.upper hconstant⟩
  · rw [isConstant_iff] at hconstant
    rw [Naming.isCamelCase_iff]
    exact ⟨fun h => ⟨fun hyes => absurd hyes hconstant, fun _ => h⟩, fun h => h.camel hconstant⟩

theorem misnamed_iff : (hasChosenName field && !isWellNamed field) = true ↔ Misnamed field := by
  rw [Bool.and_eq_true, Bool.not_eq_true', ← Bool.not_eq_true, hasChosenName_iff, isWellNamed_iff]
  exact ⟨fun ⟨hchosen, hunlike⟩ => ⟨hchosen, hunlike⟩, fun h => ⟨h.chosen, h.unlike⟩⟩

instance (field : Field) : Decidable (Misnamed field) :=
  decidable_of_iff _ misnamed_iff

theorem fieldNames_eq (c : Class) :
    fieldNames c = (c.fields.filter (Misnamed ·)).map (nameWarning c) := by
  have hfilter : ∀ field, (hasChosenName field && !isWellNamed field) = decide (Misnamed field) :=
    fun field => by rw [Bool.eq_iff_iff, misnamed_iff, decide_eq_true_eq]
  have hconstant : ∀ field, isConstant field = decide (Constant field) :=
    fun field => by rw [Bool.eq_iff_iff, isConstant_iff, decide_eq_true_eq]
  simp only [fieldNames, hfilter]
  refine List.map_congr_left fun field _ => ?_
  by_cases hfield : Constant field
  · simp [nameWarning, report, Check.id, Class.memberLocation, hconstant, hfield, toString,
      String.append_assoc]
  · simp [nameWarning, report, Check.id, Class.memberLocation, hconstant, hfield, toString,
      String.append_assoc]

/-- A field that `Conforms` is `Misnamed` once it switches between `Constant` and not. -/
theorem Conforms.misnamed_switched {access : FieldAccess} (h : Conforms field)
    (hchosen : Chosen field) (hwritten : access.isSynthetic = false)
    (hswitched : Constant { field with access } ↔ ¬ Constant field) :
    Misnamed { field with access } := by
  refine ⟨⟨hwritten, hchosen.plain, hchosen.free⟩, fun hafter => ?_⟩
  by_cases hconstant : Constant field
  · have hcamel := hafter.camel fun hnow => hswitched.mp hnow hconstant
    exact hcamel.not_upperSnakeCase (h.upper hconstant)
  · have hupper := hafter.upper (hswitched.mpr hconstant)
    exact (h.camel hconstant).not_upperSnakeCase hupper

theorem fieldNames_append (c : Class) (front back : List Field) (field : Field) :
    fieldNames { c with fields := front ++ field :: back }
      = fieldNames { c with fields := front }
        ++ (if Misnamed field then [nameWarning c field] else [])
        ++ fieldNames { c with fields := back } := by
  have hwarning : ∀ fields, nameWarning { c with fields } = nameWarning c := fun _ => rfl
  simp only [fieldNames_eq, hwarning, List.filter_append, List.map_append, List.append_assoc]
  by_cases hfield : Misnamed field
  · simp [hfield]
  · simp [hfield]

/-- **Field names are checked exactly.**  `isCamelCase` and `isUpperSnakeCase` decide `CamelCase`
and `UpperSnakeCase`, which exclude each other, and equal the matches of the two patterns.  There is
one `nameWarning` per `Misnamed` field, in order.  A field that `Conforms` has none, and gets one
when it switches between `Constant` and not. -/
theorem fieldNames_exact :
    (∀ name : String, (Naming.isCamelCase name = true ↔ CamelCase name) ∧
      (Naming.isUpperSnakeCase name = true ↔ UpperSnakeCase name) ∧
      ¬ (Naming.isCamelCase name = true ∧ Naming.isUpperSnakeCase name = true)) ∧
    (∃ camelCase upperSnakeCase : Regex,
      Pattern.parse? "^[a-z][a-zA-Z0-9]*$" = some camelCase ∧
      Pattern.parse? "^[A-Z][A-Z0-9]*(_[A-Z0-9]+)*$" = some upperSnakeCase ∧
      ∀ name : String, camelCase.isMatch name = Naming.isCamelCase name ∧
        upperSnakeCase.isMatch name = Naming.isUpperSnakeCase name) ∧
    ∀ (criteria : Criteria) (known : Option Registry) (c : Class),
      fieldNaming.run criteria known c = (c.fields.filter (Misnamed ·)).map (nameWarning c) ∧
      ∀ (front back : List Field) (field : Field) (access : FieldAccess),
        Chosen field → Conforms field → access.isSynthetic = false →
        (Constant { field with access } ↔ ¬ Constant field) →
        fieldNaming.run criteria known { c with fields := front ++ field :: back }
          = fieldNaming.run criteria known { c with fields := front }
            ++ fieldNaming.run criteria known { c with fields := back } ∧
        fieldNaming.run criteria known { c with fields := front ++ { field with access } :: back }
          = fieldNaming.run criteria known { c with fields := front }
            ++ [nameWarning c { field with access }]
            ++ fieldNaming.run criteria known { c with fields := back } := by
  refine ⟨fun name => ⟨Naming.isCamelCase_iff, Naming.isUpperSnakeCase_iff, ?_⟩,
    ⟨Naming.camelCase, Naming.upperSnakeCase, Naming.parse_camelCase, Naming.parse_upperSnakeCase,
      fun name => ⟨Naming.isMatch_camelCase name, Naming.isMatch_upperSnakeCase name⟩⟩,
    fun criteria known c => ⟨fieldNames_eq c, ?_⟩⟩
  · rintro ⟨hcamel, hupper⟩
    rw [Naming.isCamelCase_iff] at hcamel
    exact hcamel.not_upperSnakeCase (Naming.isUpperSnakeCase_iff.mp hupper)
  · intro front back field access hchosen hconforms hwritten hswitched
    have hbefore : ¬ Misnamed field := fun h => h.unlike hconforms
    have hafter := hconforms.misnamed_switched hchosen hwritten hswitched
    simp only [run]
    rw [fieldNames_append, fieldNames_append, if_neg hbefore, if_pos hafter, List.append_nil]
    exact ⟨rfl, rfl⟩

/-- A constant named in `UpperSnakeCase`. -/
def maxRetries : Field :=
  { fieldOf "MAX_RETRIES" "I" with access := { isStatic := true, isFinal := true } }

/-- A class with `maxRetries`, a misnamed field and `serialVersionUID`. -/
def client : Class :=
  { Registry.outline "Client" [] with
    fields := [fieldOf "Retry_Count" "I", maxRetries,
      { fieldOf "serialVersionUID" "J" with access := { isStatic := true, isFinal := true } }] }

/-- `maxRetries` is reported when it is no longer final. -/
theorem fieldNames_exact_client :
    let criteria : Criteria := { settings := {}, secretPatterns := [] }
    let access : FieldAccess := { isStatic := true }
    Chosen maxRetries ∧ Conforms maxRetries ∧ access.isSynthetic = false ∧
    (Constant { maxRetries with access } ↔ ¬ Constant maxRetries) ∧
    fieldNaming.run criteria none client = [nameWarning client (fieldOf "Retry_Count" "I")] ∧
    fieldNaming.run criteria none
        { client with
          fields := [fieldOf "Retry_Count" "I"] ++ { maxRetries with access } ::
            [{ fieldOf "serialVersionUID" "J" with
                access := { isStatic := true, isFinal := true } }] }
      = [nameWarning client (fieldOf "Retry_Count" "I"),
          nameWarning client { maxRetries with access }] := by
  intro criteria access
  have hchosen : Chosen maxRetries := hasChosenName_iff.mp (by decide)
  have hconforms : Conforms maxRetries := isWellNamed_iff.mp (by decide)
  have hswitched : Constant { maxRetries with access } ↔ ¬ Constant maxRetries := by decide
  obtain ⟨hrun, hswitch⟩ := fieldNames_exact.2.2 criteria none client
  obtain ⟨-, hafter⟩ := hswitch [fieldOf "Retry_Count" "I"]
    [{ fieldOf "serialVersionUID" "J" with access := { isStatic := true, isFinal := true } }]
    maxRetries access hchosen hconforms rfl hswitched
  refine ⟨hchosen, hconforms, rfl, hswitched, ?_, ?_⟩
  · rw [hrun]
    have hfilter : client.fields.filter (Misnamed ·) = [fieldOf "Retry_Count" "I"] := by decide
    rw [hfilter]
    rfl
  · rw [hafter]
    rfl

end Check

end ClassAudit
