import ClassAudit.Class.Descriptor
import Mathlib

/-!
# How types are spelled

The grammar of descriptors, said without the parsers: `Spelled` gives the letters of every type and
of every method.  A parser of the front of a text finds nothing but a spelling that the text begins
with (`exists_of_parse`), and it finds every such spelling (`Spelled.parse_append`), so there is at
most one.  All else follows from this: descriptors are read as the grammar says, none of them is the
beginning of another, and what was read is written as it was.

A reader could also take what stands at the front, whatever follows, and look whether it is written
as the whole text is.  This comes to the same.
-/

namespace ClassAudit

/-! ## Readers of whole texts -/

section Readers

variable {α : Type} {read : String → Option α} {front : List Char → Option (α × List Char)}
  {Spelled : α → List Char → Prop} {render : α → List Char}

/-- A reader of whole texts goes by a grammar.  `front` reads what stands at the front of a text and
does not care what follows. -/
structure Canonical (read : String → Option α) (front : List Char → Option (α × List Char))
    (Spelled : α → List Char → Prop) (render : α → List Char) : Prop where
  /-- `read` accepts exactly the texts that are `Spelled`. -/
  eq_some_iff (text : String) (a : α) : read text = some a ↔ Spelled a text.toList
  /-- A text spells at most one value. -/
  unambiguous {a b : α} {spelling : List Char} (ha : Spelled a spelling) (hb : Spelled b spelling) :
    a = b
  /-- A text that `read` accepts is refused with anything appended. -/
  refused {text more : String} {a : α} (h : read text = some a) (hmore : more ≠ "") :
    read (text ++ more) = none
  /-- `render` gives back the text that was read. -/
  render_eq {text : String} {a : α} (h : read text = some a) : String.ofList (render a) = text
  /-- Reading by `front` and comparing `render` with the whole text gives the same as `read`. -/
  compared (text : String) :
    read text = ((front text.toList).map Prod.fst).filter fun a => render a = text.toList

/-- `Canonical` from a `front` that is sound and complete for `Spelled`, with `read` accepting when
nothing is left. -/
theorem Canonical.of_front
    (hread : ∀ text a, read text = some a ↔ front text.toList = some (a, []))
    (hsound : ∀ {text a rest}, front text = some (a, rest) →
      ∃ spelling, Spelled a spelling ∧ text = spelling ++ rest)
    (hcomplete : ∀ {a spelling}, Spelled a spelling →
      ∀ rest, front (spelling ++ rest) = some (a, rest))
    (hrender : ∀ {a spelling}, Spelled a spelling → spelling = render a) :
    Canonical read front Spelled render := by
  have hwhole (a : α) (spelling : List Char) (h : Spelled a spelling) :
      front spelling = some (a, []) := by
    simpa using hcomplete h []
  have hspelled (text : String) (a : α) : read text = some a ↔ Spelled a text.toList := by
    rw [hread]
    constructor
    · intro h
      obtain ⟨spelling, hspelling, htext⟩ := hsound h
      rw [htext, List.append_nil]
      exact hspelling
    · exact hwhole a text.toList
  refine ⟨hspelled, ?_, ?_, ?_, ?_⟩
  · intro a b spelling ha hb
    have hsame := (hwhole a spelling ha).symm.trans (hwhole b spelling hb)
    exact (Prod.mk.inj (Option.some.inj hsame)).1
  · intro text more a h hmore
    -- Off the front of the longer text, the same is read, and the rest is left.
    have hleft := hcomplete ((hspelled text a).mp h) more.toList
    rw [← String.toList_append] at hleft
    rw [Option.eq_none_iff_forall_ne_some]
    intro b hb
    rw [hread, hleft] at hb
    have hnil := (Prod.mk.inj (Option.some.inj hb)).2
    exact hmore (String.toList_eq_nil_iff.mp hnil)
  · intro text a h
    rw [← hrender ((hspelled text a).mp h), String.ofList_toList]
  · intro text
    cases hfront : front text.toList with
    | none =>
      rw [Option.map_none, Option.filter_none, Option.eq_none_iff_forall_ne_some]
      intro a ha
      rw [hread, hfront] at ha
      cases ha
    | some found =>
      obtain ⟨a, rest⟩ := found
      obtain ⟨spelling, hspelling, htext⟩ := hsound hfront
      rw [Option.map_some, Option.filter_some, ← hrender hspelling, htext]
      by_cases hrest : rest = []
      · rw [if_pos (by simp [hrest]), hread, hfront, hrest]
      · rw [if_neg (by simp [hrest]), Option.eq_none_iff_forall_ne_some]
        intro b hb
        rw [hread, hfront] at hb
        exact hrest (Prod.mk.inj (Option.some.inj hb)).2

end Readers

/-! ## Simple types -/

namespace SimpleType

/-- The grammar of non-array types.  A class name is any text without a semicolon. -/
inductive Spelled : SimpleType → List Char → Prop
  | byte : Spelled .byte ['B']
  | char : Spelled .char ['C']
  | double : Spelled .double ['D']
  | float : Spelled .float ['F']
  | int : Spelled .int ['I']
  | long : Spelled .long ['J']
  | short : Spelled .short ['S']
  | boolean : Spelled .boolean ['Z']
  | void : Spelled .void ['V']
  | object {name : String} (hname : ';' ∉ name.toList) :
      Spelled (.object name) ('L' :: name.toList ++ [';'])

variable {type : SimpleType} {spelling text rest : List Char}

theorem Spelled.eq_render (h : type.Spelled spelling) : spelling = type.render := by
  cases h <;> rfl

/-- A `Spelled` text starts with neither a bracket nor a parenthesis. -/
theorem Spelled.exists_head (h : type.Spelled spelling) :
    ∃ letter more, spelling = letter :: more ∧ letter ≠ '[' ∧ letter ≠ ')' := by
  cases h with
  | object hname => exact ⟨'L', _, rfl, by decide, by decide⟩
  | _ => exact ⟨_, [], rfl, by decide, by decide⟩

/-- `parse` reads a class name up to the first semicolon. -/
theorem parse_object (name : List Char) (hname : ';' ∉ name) (rest : List Char) :
    parse ('L' :: name ++ ';' :: rest) = some (.object (String.ofList name), rest) := by
  have hletters : ∀ letter ∈ name, decide (letter ≠ ';') = true := by
    intro letter hletter
    rw [decide_eq_true_eq]
    rintro rfl
    exact hname hletter
  have htake : (name ++ ';' :: rest).takeWhile (· ≠ ';') = name := by
    rw [List.takeWhile_append_of_pos hletters]
    simp
  have hdrop : (name ++ ';' :: rest).dropWhile (· ≠ ';') = ';' :: rest := by
    rw [List.dropWhile_append_of_pos hletters]
    simp
  rw [List.cons_append, parse, hdrop, htake]

/-- `parse` is sound for `Spelled`. -/
theorem exists_of_parse (h : parse text = some (type, rest)) :
    ∃ spelling, type.Spelled spelling ∧ text = spelling ++ rest := by
  unfold parse at h
  split at h
  case h_10 tail =>
    split at h
    · cases h
    next letter after hdrop =>
      cases h
      -- The letter at which the name stops is the semicolon.
      have hletter : letter = ';' := by
        have hhead := List.head?_dropWhile_not (· ≠ ';') tail
        rw [hdrop] at hhead
        simpa using hhead
      have hname : ';' ∉ tail.takeWhile (· ≠ ';') := by
        intro hmem
        simpa using List.mem_takeWhile_imp hmem
      have htail := List.takeWhile_append_dropWhile (p := (· ≠ ';')) (l := tail)
      rw [hdrop, hletter] at htail
      refine ⟨_, .object (by simpa using hname), ?_⟩
      rw [String.toList_ofList, List.append_assoc, List.cons_append, List.singleton_append, htail]
  case h_11 => cases h
  all_goals
    cases h
    exact ⟨_, by constructor, rfl⟩

theorem Spelled.parse_append (h : type.Spelled spelling) (rest : List Char) :
    parse (spelling ++ rest) = some (type, rest) := by
  cases h with
  | @object name hname => simpa using parse_object name.toList hname rest
  | _ => rfl

end SimpleType

/-! ## Types -/

namespace TypeDescriptor

/-- The grammar of types; an array has one bracket per dimension, at most 255. -/
inductive Spelled : TypeDescriptor → List Char → Prop
  | simple {type : SimpleType} {spelling : List Char} (h : type.Spelled spelling) :
      Spelled (.simple type) spelling
  | array {component : SimpleType} {spelling : List Char} {dimensions : Nat}
      (h : component.Spelled spelling) (hleast : 1 ≤ dimensions) (hmost : dimensions ≤ 255) :
      Spelled (.array component dimensions) (List.replicate dimensions '[' ++ spelling)

variable {type : TypeDescriptor} {spelling text rest : List Char}

theorem Spelled.eq_render (h : type.Spelled spelling) : spelling = type.render := by
  cases h with
  | simple h => exact h.eq_render
  | array h _ _ => rw [render, h.eq_render]

/-- A `Spelled` text does not start with a parenthesis. -/
theorem Spelled.exists_head (h : type.Spelled spelling) :
    ∃ letter more, spelling = letter :: more ∧ letter ≠ ')' := by
  cases h with
  | simple h =>
    obtain ⟨letter, more, heq, -, hclose⟩ := h.exists_head
    exact ⟨letter, more, heq, hclose⟩
  | @array _ spelling dimensions _ hleast _ =>
    obtain ⟨k, rfl⟩ : ∃ k, dimensions = k + 1 := ⟨dimensions - 1, by omega⟩
    exact ⟨'[', List.replicate k '[' ++ spelling, by simp [List.replicate_succ], by decide⟩

/-- The brackets in front of a `Spelled` non-array type are exactly the dimensions. -/
theorem brackets_spelled {component : SimpleType} (h : component.Spelled spelling)
    (dimensions : Nat) (rest : List Char) :
    (List.replicate dimensions '[' ++ (spelling ++ rest)).takeWhile (· = '[')
        = List.replicate dimensions '[' ∧
      (List.replicate dimensions '[' ++ (spelling ++ rest)).dropWhile (· = '[')
        = spelling ++ rest := by
  obtain ⟨letter, more, rfl, hletter, -⟩ := h.exists_head
  have hbrackets : ∀ c ∈ List.replicate dimensions '[', decide (c = '[') = true := by
    intro c hc
    simpa using List.eq_of_mem_replicate hc
  constructor
  · rw [List.takeWhile_append_of_pos hbrackets]
    simp [hletter]
  · rw [List.dropWhile_append_of_pos hbrackets]
    simp [hletter]

/-- `parse` is sound for `Spelled`. -/
theorem exists_of_parse (h : parse text = some (type, rest)) :
    ∃ spelling, type.Spelled spelling ∧ text = spelling ++ rest := by
  -- The text is its brackets and what is behind them.
  have hbrackets : text.takeWhile (· = '[')
      = List.replicate (text.takeWhile (· = '[')).length '[' := by
    rw [List.eq_replicate_iff]
    exact ⟨rfl, fun c hc => by simpa using List.mem_takeWhile_imp hc⟩
  have htext := List.takeWhile_append_dropWhile (p := (· = '[')) (l := text)
  rw [parse] at h
  dsimp only at h
  split_ifs at h with hnone hmost
  · obtain ⟨⟨simple, after⟩, hparse, heq⟩ := Option.map_eq_some_iff.mp h
    cases heq
    obtain ⟨spelling, hspelled, rfl⟩ := SimpleType.exists_of_parse hparse
    exact ⟨spelling, .simple hspelled, rfl⟩
  · obtain ⟨⟨component, after⟩, hparse, heq⟩ := Option.map_eq_some_iff.mp h
    cases heq
    obtain ⟨spelling, hspelled, hdrop⟩ := SimpleType.exists_of_parse hparse
    refine ⟨_, .array hspelled (by omega) hmost, ?_⟩
    rw [List.append_assoc, ← hdrop, ← hbrackets, htext]

theorem Spelled.parse_append (h : type.Spelled spelling) (rest : List Char) :
    parse (spelling ++ rest) = some (type, rest) := by
  cases h with
  | simple h =>
    obtain ⟨htake, -⟩ := brackets_spelled h 0 rest
    rw [List.replicate_zero, List.nil_append] at htake
    rw [parse, htake]
    dsimp only
    rw [if_pos List.length_nil, h.parse_append, Option.map_some]
  | @array _ _ dimensions h hleast hmost =>
    obtain ⟨htake, hdrop⟩ := brackets_spelled h dimensions rest
    rw [List.append_assoc, parse, htake, hdrop, List.length_replicate]
    dsimp only
    rw [if_neg (by omega), maxDimensions, if_pos hmost, h.parse_append, Option.map_some]

/-- The letters of the type of a field, which is not `void`. -/
def SpelledField (type : TypeDescriptor) (spelling : List Char) : Prop :=
  type ≠ .simple .void ∧ type.Spelled spelling

/-- The field type at the front of `text`, and the rest. -/
def parseField (text : List Char) : Option (TypeDescriptor × List Char) :=
  (parse text).filter (·.1 ≠ .simple .void)

theorem parseField_eq_some_iff :
    parseField text = some (type, rest) ↔
      type ≠ .simple .void ∧ parse text = some (type, rest) := by
  rw [parseField, Option.filter_eq_some_iff, decide_eq_true_eq, and_comm]

/-- `ofField?` accepts iff `parseField` leaves nothing. -/
theorem ofField?_eq_some_iff {text : String} :
    ofField? text = some type ↔ parseField text.toList = some (type, []) := by
  rw [parseField_eq_some_iff, ofField?]
  split
  next found hparse =>
    rw [hparse]
    by_cases hvoid : found = .simple .void
    · simp [hvoid, eq_comm]
    · simp only [if_neg hvoid, Option.some.injEq, Prod.mk.injEq, and_true]
      constructor
      · rintro rfl
        exact ⟨hvoid, rfl⟩
      · exact And.right
  next hnone =>
    simp only [reduceCtorEq, false_iff, not_and]
    exact fun _ hparse => hnone type hparse

/-- `ofField?` is `Canonical`. -/
theorem canonical_ofField? : Canonical ofField? parseField SpelledField render := by
  apply Canonical.of_front
  · intro text type
    exact ofField?_eq_some_iff
  · intro text type rest h
    obtain ⟨hvoid, hparse⟩ := parseField_eq_some_iff.mp h
    obtain ⟨spelling, hspelled, htext⟩ := exists_of_parse hparse
    exact ⟨spelling, ⟨hvoid, hspelled⟩, htext⟩
  · rintro type spelling ⟨hvoid, hspelled⟩ rest
    exact parseField_eq_some_iff.mpr ⟨hvoid, hspelled.parse_append rest⟩
  · rintro type spelling ⟨-, hspelled⟩
    exact hspelled.eq_render

end TypeDescriptor

/-! ## Methods -/

namespace MethodDescriptor

/-- The grammar of method descriptors: parameters in parentheses, then the result. -/
inductive Spelled : MethodDescriptor → List Char → Prop
  | intro {parameters : List TypeDescriptor} {spellings : List (List Char)}
      {result : TypeDescriptor} {last : List Char}
      (hparameters : List.Forall₂ TypeDescriptor.Spelled parameters spellings)
      (hresult : result.Spelled last) :
      Spelled { parameters, result } ('(' :: spellings.flatten ++ ')' :: last)

variable {method : MethodDescriptor} {spelling text rest : List Char}

theorem Spelled.eq_render (h : method.Spelled spelling) : spelling = method.render := by
  obtain ⟨hparameters, hresult⟩ := h
  rw [render, hresult.eq_render]
  congr 2
  induction hparameters with
  | nil => rfl
  | cons h _ ih => rw [List.flatten_cons, List.flatMap_cons, h.eq_render, ih]

/-- The step of `parseParameters`. -/
theorem parseParameters_succ (bound : Nat) {letter : Char} (hletter : letter ≠ ')')
    (text : List Char) :
    parseParameters (bound + 1) (letter :: text)
      = (TypeDescriptor.parse (letter :: text)).bind fun (type, rest) =>
          (parseParameters bound rest).map fun (types, rest) => (type :: types, rest) := by
  rw [parseParameters]
  · cases TypeDescriptor.parse (letter :: text) <;> rfl
  · rintro rest heq
    exact hletter (List.cons.inj heq).1

/-- `parseParameters` is sound for a list of `Spelled` types and a closing parenthesis. -/
theorem exists_of_parseParameters {bound : Nat} {types : List TypeDescriptor}
    (h : parseParameters bound text = some (types, rest)) :
    ∃ spellings, List.Forall₂ TypeDescriptor.Spelled types spellings ∧
      text = spellings.flatten ++ ')' :: rest := by
  fun_induction parseParameters bound text generalizing types with
  | case1 bound after =>
    cases h
    exact ⟨[], .nil, rfl⟩
  | case2 => cases h
  | case3 => cases h
  | case4 bound text hopen type after hparse ih =>
    obtain ⟨⟨others, last⟩, hothers, heq⟩ := Option.map_eq_some_iff.mp h
    cases heq
    obtain ⟨spelling, hspelled, rfl⟩ := TypeDescriptor.exists_of_parse hparse
    obtain ⟨spellings, hspellings, rfl⟩ := ih hothers
    exact ⟨spelling :: spellings, .cons hspelled hspellings, by simp⟩

/-- `parseParameters` is complete when the bound covers the text. -/
theorem parseParameters_append {types : List TypeDescriptor} {spellings : List (List Char)}
    (h : List.Forall₂ TypeDescriptor.Spelled types spellings) (rest : List Char) {bound : Nat}
    (hbound : (spellings.flatten ++ ')' :: rest).length ≤ bound) :
    parseParameters bound (spellings.flatten ++ ')' :: rest) = some (types, rest) := by
  induction h generalizing bound with
  | nil => rw [List.flatten_nil, List.nil_append, parseParameters]
  | @cons type spelling types spellings hspelled _ ih =>
    -- A spelling takes a letter, so the bound is still large enough behind it.
    obtain ⟨letter, more, hletters, hclose⟩ := hspelled.exists_head
    have hparse := hspelled.parse_append (spellings.flatten ++ ')' :: rest)
    rw [List.flatten_cons, List.append_assoc] at hbound ⊢
    rw [List.length_append, hletters, List.length_cons] at hbound
    obtain ⟨bound, rfl⟩ : ∃ k, bound = k + 1 := ⟨bound - 1, by omega⟩
    rw [hletters, List.cons_append] at hparse ⊢
    have hrest := @ih bound (by omega)
    rw [parseParameters_succ bound hclose, hparse, Option.bind_some]
    dsimp only
    rw [hrest, Option.map_some]

/-- The method descriptor at the front of `text`, and the rest. -/
def parse (text : List Char) : Option (MethodDescriptor × List Char) :=
  match text with
  | '(' :: text =>
    (parseParameters text.length text).bind fun (parameters, rest) =>
      (TypeDescriptor.parse rest).map fun (result, rest) => ({ parameters, result }, rest)
  | _ => none

/-- `parse` is sound for `Spelled`. -/
theorem exists_of_parse (h : parse text = some (method, rest)) :
    ∃ spelling, method.Spelled spelling ∧ text = spelling ++ rest := by
  unfold parse at h
  split at h
  · obtain ⟨⟨parameters, after⟩, hparameters, hrest⟩ := Option.bind_eq_some_iff.mp h
    obtain ⟨⟨result, last⟩, hresult, heq⟩ := Option.map_eq_some_iff.mp hrest
    cases heq
    obtain ⟨spellings, hspellings, rfl⟩ := exists_of_parseParameters hparameters
    obtain ⟨spelling, hspelled, rfl⟩ := TypeDescriptor.exists_of_parse hresult
    exact ⟨_, .intro hspellings hspelled, by simp⟩
  · cases h

theorem Spelled.parse_append (h : method.Spelled spelling) (rest : List Char) :
    parse (spelling ++ rest) = some (method, rest) := by
  obtain @⟨parameters, spellings, result, last, hparameters, hresult⟩ := h
  have hread := parseParameters_append hparameters (last ++ rest) le_rfl
  rw [List.cons_append, List.cons_append, List.append_assoc, List.cons_append, parse, hread,
    Option.bind_some]
  dsimp only
  rw [hresult.parse_append, Option.map_some]

/-- `ofText?` accepts iff `parse` leaves nothing. -/
theorem ofText?_eq_some_iff {text : String} :
    ofText? text = some method ↔ parse text.toList = some (method, []) := by
  by_cases hopen : ∃ letters, text.toList = '(' :: letters
  · obtain ⟨letters, hletters⟩ := hopen
    rw [ofText?, hletters, parse]
    cases hparameters : parseParameters letters.length letters with
    | none => simp [hparameters]
    | some read =>
      obtain ⟨parameters, rest⟩ := read
      cases hresult : TypeDescriptor.parse rest with
      | none => simp [hparameters, hresult]
      | some last =>
        obtain ⟨result, rest⟩ := last
        cases rest <;> simp [hparameters, hresult]
  · have hread : ofText? text = none := by
      rw [ofText?]
      split
      next letters hletters => exact absurd ⟨letters, hletters⟩ hopen
      · rfl
    have hparse : parse text.toList = none := by
      rw [parse.eq_def]
      split
      next letters hletters => exact absurd ⟨letters, hletters⟩ hopen
      · rfl
    rw [hread, hparse]
    simp

/-- `ofText?` is `Canonical`. -/
theorem canonical_ofText? : Canonical ofText? parse Spelled render :=
  .of_front (fun _ _ => ofText?_eq_some_iff) exists_of_parse Spelled.parse_append Spelled.eq_render

end MethodDescriptor

/-- **Descriptors follow the grammar.**  `TypeDescriptor.ofField?` and `MethodDescriptor.ofText?`
are `Canonical` for their grammars, where a field type is not `void`: they accept exactly the
`Spelled` texts, unambiguously, refuse any appended text, and `render` inverts them. -/
theorem descriptors_canonical :
    Canonical TypeDescriptor.ofField? TypeDescriptor.parseField TypeDescriptor.SpelledField
        TypeDescriptor.render ∧
      Canonical MethodDescriptor.ofText? MethodDescriptor.parse MethodDescriptor.Spelled
        MethodDescriptor.render :=
  ⟨TypeDescriptor.canonical_ofField?, MethodDescriptor.canonical_ofText?⟩

end ClassAudit
