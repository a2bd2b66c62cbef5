import ClassAudit.Proofs.ByteOrder
import ClassAudit.Proofs.Registry

/-!
# Look-ups in a registry

What a registry answers, said by the list of classes it was made from.  A name may be given in its
internal spelling, with dots, or wrapped as a descriptor, and all three mean the class that comes
first under the name.  The implementers of an interface are those among the first classes that name
it, in the order of their names, byte by byte.

Both rest on one notion, that a class comes first under its name (`FirstOfName`).  The classes
behind it have no part in any answer, and neither has the order of differently named classes.
-/

namespace ClassAudit

/-! ## Spellings of a name -/

namespace TypeName

/-- A name is wrapped only if it starts with `L` and ends with `;`. -/
theorem unwrapped?_eq_none {name : List Char}
    (h : ¬(name.head? = some 'L' ∧ name.getLast? = some ';')) : unwrapped? name = none := by
  unfold unwrapped?
  split
  next rest =>
    rw [if_neg]
    rintro ⟨hlast, -⟩
    refine h ⟨rfl, ?_⟩
    cases rest with
    | nil => cases hlast
    | cons c others => exact hlast
  next => rfl

theorem unwrapped?_wrapped {name : List Char} (h : name ≠ []) :
    unwrapped? ('L' :: (name ++ [';'])) = some name := by
  rw [unwrapped?, List.getLast?_concat, List.dropLast_concat, if_pos ⟨rfl, h⟩]

variable {name : String}

theorem substitute_dots (hdots : '.' ∉ name.toList) : Text.substitute '.' '/' name = name := by
  have hsame : name.toList.map (fun c => if c = '.' then '/' else c) = name.toList.map id := by
    refine List.map_congr_left fun c hc => if_neg ?_
    rintro rfl
    exact hdots hc
  rw [Text.substitute, hsame, List.map_id, String.ofList_toList]

/-- `substitute` undoes `dotted` on a name without dots. -/
theorem substitute_dotted (hdots : '.' ∉ name.toList) :
    Text.substitute '.' '/' (dotted name) = name := by
  rw [dotted, Text.substitute, Text.substitute, String.toList_ofList, List.map_map]
  have hsame : name.toList.map ((fun c => if c = '.' then '/' else c) ∘
      fun c => if c = '/' then '.' else c) = name.toList.map id := by
    refine List.map_congr_left fun c hc => ?_
    by_cases hslash : c = '/'
    · simp [hslash]
    · have hdot : c ≠ '.' := by
        rintro rfl
        exact hdots hc
      simp [hslash, hdot]
  rw [hsame, List.map_id, String.ofList_toList]

/-- A name that is wrapped with dots for its slashes was wrapped before: neither `L` nor `;` comes
from a slash. -/
theorem wrapped_of_dotted
    (h : (dotted name).toList.head? = some 'L' ∧ (dotted name).toList.getLast? = some ';') :
    name.toList.head? = some 'L' ∧ name.toList.getLast? = some ';' := by
  have hkept : ∀ {c d : Char}, d ≠ '.' → (if c = '/' then '.' else c) = d → c = d := by
    intro c d hd hc
    split_ifs at hc
    · exact absurd hc.symm hd
    · exact hc
  rw [dotted, Text.substitute, String.toList_ofList, List.head?_map, List.getLast?_map,
    Option.map_eq_some_iff, Option.map_eq_some_iff] at h
  obtain ⟨⟨c, hhead, hc⟩, d, hlast, hd⟩ := h
  rw [hhead, hlast, hkept (by decide) hc, hkept (by decide) hd]
  exact ⟨rfl, rfl⟩

/-- `internal` maps all three spellings of a name to the name. -/
theorem internal_spelling (hne : name ≠ "") (hdots : '.' ∉ name.toList)
    (hplain : ¬(name.toList.head? = some 'L' ∧ name.toList.getLast? = some ';')) :
    ∀ spelling ∈ [name, dotted name, "L" ++ name ++ ";"], internal spelling = name := by
  have hinternal : internal name = name := by
    rw [internal, unwrapped?_eq_none hplain, Option.getD_none, String.ofList_toList,
      substitute_dots hdots]
  have hdotted : internal (dotted name) = name := by
    rw [internal, unwrapped?_eq_none (mt wrapped_of_dotted hplain), Option.getD_none,
      String.ofList_toList, substitute_dotted hdots]
  have hwrapped : internal ("L" ++ name ++ ";") = name := by
    have hchars : ("L" ++ name ++ ";").toList = 'L' :: (name.toList ++ [';']) := by
      simp
    rw [internal, hchars, unwrapped?_wrapped (mt String.toList_eq_nil_iff.mp hne),
      Option.getD_some, String.ofList_toList, substitute_dots hdots]
  simpa using ⟨hinternal, hdotted, hwrapped⟩

end TypeName

/-! ## The first class under a name -/

/-- `classes` contains `c` with no class of its name before it. -/
def FirstOfName (classes : List Class) (c : Class) : Prop :=
  ∃ before after, classes = before ++ c :: after ∧ c.name ∉ before.map Class.name

theorem find?_name_eq_some_iff {classes : List Class} {name : String} {c : Class} :
    classes.find? (·.name = name) = some c ↔ c.name = name ∧ FirstOfName classes c := by
  rw [List.find?_eq_some_iff_append, decide_eq_true_eq, FirstOfName]
  refine and_congr_right fun hname => exists_congr fun before => exists_congr fun after => ?_
  refine and_congr_right fun _ => ?_
  simp [hname]

namespace Registry

variable {classes others : List Class}

/-- The size of `ofClasses` is the number of distinct names. -/
theorem size_ofClasses (classes : List Class) :
    (ofClasses classes).size = (classes.map Class.name).toFinset.card := by
  have hnames := Text.nodup_map_distinctBy Class.name classes
  rw [size, ofClasses, List.length_mergeSort, ← List.length_map Class.name,
    ← List.toFinset_card_of_nodup hnames]
  congr 1
  ext name
  rw [List.mem_toFinset, List.mem_toFinset, Text.map_key_distinctBy]

/-- **All spellings resolve to the first class of the name.**  Let `name` be non-empty, without dots
and not wrapped as `L…;`.  Then `resolve?` gives one result for `name`, its `dotted` form and its
descriptor form: the class that is `FirstOfName`, and `none` iff no class has the name.  The size of
the registry is the number of distinct names. -/
theorem resolve?_spellings (classes : List Class) (name : String) (hne : name ≠ "")
    (hdots : '.' ∉ name.toList)
    (hplain : ¬(name.toList.head? = some 'L' ∧ name.toList.getLast? = some ';')) :
    (∃ result, (ofClasses classes).resolve? name = result ∧
      (ofClasses classes).resolve? (TypeName.dotted name) = result ∧
      (ofClasses classes).resolve? ("L" ++ name ++ ";") = result ∧
      (∀ c, result = some c ↔ c.name = name ∧ FirstOfName classes c) ∧
      (result = none ↔ ∀ c ∈ classes, c.name ≠ name)) ∧
    (ofClasses classes).size = (classes.map Class.name).toFinset.card := by
  have hspelling : ∀ spelling ∈ [name, TypeName.dotted name, "L" ++ name ++ ";"],
      (ofClasses classes).resolve? spelling = classes.find? (·.name = name) := by
    intro spelling hmem
    rw [resolve?_ofClasses, TypeName.internal_spelling hne hdots hplain spelling hmem]
  refine ⟨⟨classes.find? (·.name = name), hspelling _ (by simp), hspelling _ (by simp),
    hspelling _ (by simp), fun c => find?_name_eq_some_iff, ?_⟩, size_ofClasses classes⟩
  simp

/-- A class with only a name and interfaces. -/
def outline (name : String) (interfaces : List String) : Class :=
  { name
    superName := none
    interfaces
    access := {}
    sourceFile := none
    fields := []
    methods := [] }

/-- A name that starts with `L`, with two classes under it. -/
theorem resolve?_spellings_lens :
    let registry := ofClasses
      [outline "Lens/Cart$1" ["Shape"], outline "Lens/Base" [], outline "Lens/Cart$1" []]
    registry.resolve? "Lens.Cart$1" = some (outline "Lens/Cart$1" ["Shape"]) ∧
      registry.resolve? "LLens/Cart$1;" = some (outline "Lens/Cart$1" ["Shape"]) ∧
      registry.size = 2 := by
  intro registry
  obtain ⟨⟨result, -, hdotted, hwrapped, hsome, -⟩, hsize⟩ := resolve?_spellings
    [outline "Lens/Cart$1" ["Shape"], outline "Lens/Base" [], outline "Lens/Cart$1" []]
    "Lens/Cart$1" (by decide) (by decide) (by decide)
  have hfirst : result = some (outline "Lens/Cart$1" ["Shape"]) :=
    (hsome _).mpr ⟨rfl, [], _, rfl, List.not_mem_nil⟩
  have hspelled : TypeName.dotted "Lens/Cart$1" = "Lens.Cart$1" := by decide
  rw [hspelled] at hdotted
  exact ⟨hdotted.trans hfirst, hwrapped.trans hfirst, hsize.trans (by decide)⟩

/-! ## Implementers -/

/-- A `Rising` list is increasing in the byte order of its names. -/
theorem Rising.pairwise_utf8Bytes (h : Rising classes) :
    classes.Pairwise fun a b => Text.utf8Bytes a.name < Text.utf8Bytes b.name := by
  refine h.imp fun {a b} hab => Text.utf8Bytes_lt (String.not_le.mp fun hba => ?_)
  exact hab.2 (String.le_antisymm hab.1 hba)

theorem mem_implementers {c : Class} {interfaceName : String} :
    c ∈ (ofClasses classes).implementers interfaceName ↔
      FirstOfName classes c ∧ c.isInterface = false ∧
        TypeName.internal interfaceName ∈ c.interfaces := by
  rw [implementers, List.mem_filter, mem_ofClasses, find?_name_eq_some_iff]
  simp [Class.implements]

/-- `ofClasses` is invariant under permutations that keep the order of classes with one name. -/
theorem ofClasses_reordered
    (h : ∀ name, others.filter (·.name = name) = classes.filter (·.name = name)) :
    ofClasses others = ofClasses classes := by
  apply ofClasses_congr
  intro name
  rw [← List.head?_filter, ← List.head?_filter, h]

/-- **`implementers` is exact.**  It is strictly increasing in the byte order of names, and holds
exactly the classes that are `FirstOfName`, no interfaces, and list the interface.  It ignores a
class behind another of its name, and is invariant under permutations that keep the order of classes
with one name. -/
theorem implementers_exact (classes : List Class) (interfaceName : String) :
    ((ofClasses classes).implementers interfaceName).Pairwise
      (fun a b => Text.utf8Bytes a.name < Text.utf8Bytes b.name) ∧
    (∀ c, c ∈ (ofClasses classes).implementers interfaceName ↔
      FirstOfName classes c ∧ c.isInterface = false ∧
        TypeName.internal interfaceName ∈ c.interfaces) ∧
    (∀ before shadowed after, classes = before ++ shadowed :: after →
      shadowed.name ∈ before.map Class.name →
        (ofClasses (before ++ after)).implementers interfaceName
          = (ofClasses classes).implementers interfaceName) ∧
    ∀ others : List Class,
      (∀ name, others.filter (·.name = name) = classes.filter (·.name = name)) →
        (ofClasses others).implementers interfaceName
          = (ofClasses classes).implementers interfaceName := by
  refine ⟨((rising_ofClasses classes).filter _).pairwise_utf8Bytes, fun c => mem_implementers,
    ?_, fun others hothers => by rw [ofClasses_reordered hothers]⟩
  rintro before shadowed after rfl hshadowed
  rw [ofClasses_shadowed hshadowed]

/-- A second class named `Square`, which implements nothing, and another order of the names. -/
theorem implementers_exact_square :
    let classes := [outline "Square" ["Shape"], outline "Circle" ["Shape"], outline "Square" []]
    outline "Square" ["Shape"] ∈ (ofClasses classes).implementers "LShape;" ∧
      (ofClasses [outline "Square" ["Shape"], outline "Circle" ["Shape"]]).implementers "LShape;"
        = (ofClasses classes).implementers "LShape;" ∧
      (ofClasses [outline "Circle" ["Shape"], outline "Square" ["Shape"],
          outline "Square" []]).implementers "LShape;"
        = (ofClasses classes).implementers "LShape;" := by
  intro classes
  obtain ⟨-, hmem, hshadowed, hreordered⟩ := implementers_exact classes "LShape;"
  refine ⟨?_, ?_, hreordered _ fun name => ?_⟩
  · exact (hmem _).mpr ⟨⟨[], _, rfl, List.not_mem_nil⟩, rfl, by decide⟩
  · exact hshadowed [outline "Square" ["Shape"], outline "Circle" ["Shape"]] _ [] rfl (by decide)
  · by_cases hsquare : "Square" = name
    · subst hsquare
      rfl
    · simp [classes, outline, List.filter_cons, hsquare]

end Registry

end ClassAudit
