import ClassAudit.Unicode.Age
import ClassAudit.Unicode.Break
import ClassAudit.Unicode.Script

/-!
# Classes of characters by name

A class of characters may be asked for by the name of a property, a general category or a script,
and by a pair of a property and one of its values.  Case, blanks, hyphens, underscores and a leading
"is" do not count in a name.
-/

namespace ClassAudit.Unicode

/-- The form of a name for loose matching, without a leading "is" except in "isc". -/
def foldedName (name : String) : String :=
  let letters := name.toList.map Char.toLower
  let marked := ['i', 's'].isPrefixOf letters
  let stem := (if marked then letters.drop 2 else letters).filter fun c =>
    c ≠ ' ' && c ≠ '_' && c ≠ '-' && c.toNat < 128
  String.ofList (if marked && stem = ['c'] then ['i', 's', 'c'] else stem)

/-- The general category, or group of them, with the given folded name. -/
def categoryCodes? (name : String) : Option CodeSet :=
  if name = "any" then some CodeSet.full
  else if name = "assigned" then some unassigned.complement
  else if name = "ascii" then some (CodeSet.ofRanges [(0, 127)])
  else if name = "cn" ∨ name = "unassigned" then some unassigned
  else if name = "c" ∨ name = "other" then
    some (CodeSet.unionAll [categoryUnion ["cc", "cf", "co"], unassigned, surrogates])
  else
    match categoryGroups.find? (·.1.contains name) with
    | some group => some (categoryUnion group.2)
    | none => (categories.find? (·.names.contains name)).map NamedSet.codes

/-- The script with the given folded name. -/
def scriptCodes? (name : String) : Option CodeSet :=
  (scripts.find? (·.names.contains name)).map NamedSet.codes

/-- The script is `Common` or `Inherited`. -/
def isShared (script : NamedSet) : Bool :=
  script.names.contains "common" || script.names.contains "inherited"

/-- The `Script_Extensions` of the script with the given folded name. -/
def scriptUseCodes? (name : String) : Option CodeSet :=
  (scripts.find? (·.names.contains name)).map fun script =>
    if isShared script then
      script.codes.difference (CodeSet.unionAll (scriptUses.map NamedSet.codes))
    else
      let borrowed := (scriptUses.filter (·.names.contains name)).map NamedSet.codes
      CodeSet.unionAll (script.codes :: borrowed)

/-- The value with the given folded name, as a set. -/
def valueCodes? (values : List Property) (name : String) : Option CodeSet :=
  (values.find? (·.names.contains name)).map Property.codes

/-- The class `\p{name}`.  Properties take precedence over categories and these over scripts, except
that `cf`, `sc` and `lc` are categories. -/
def classNamed? (name : String) : Option CodeSet :=
  let name := foldedName name
  let property := if name = "cf" ∨ name = "sc" ∨ name = "lc" then none else property? name
  (property.or (categoryCodes? name)).or (scriptCodes? name)

/-- The class `\p{property=value}`. -/
def classValued? (property value : String) : Option CodeSet :=
  let value := foldedName value
  match foldedName property with
  | "gc" | "generalcategory" => categoryCodes? value
  | "sc" | "script" => scriptCodes? value
  | "scx" | "scriptextensions" => scriptUseCodes? value
  | "age" => assignedBy? value
  | "gcb" | "graphemeclusterbreak" => valueCodes? graphemeBreaks value
  | "wb" | "wordbreak" => valueCodes? wordBreaks value
  | "sb" | "sentencebreak" => valueCodes? sentenceBreaks value
  | _ => none

end ClassAudit.Unicode
