import ClassAudit.Check.Basic

/-!
# Collection types

A declaration that names a collection class where the interface of the collection would do.
-/

namespace ClassAudit.Check

/-- The interfaces to prefer, each with the collection classes that implement it. -/
def collectionGroups : List (String × List String) :=
  [("java.util.List", ["java.util.ArrayList", "java.util.LinkedList", "java.util.Vector"]),
   ("java.util.Set", ["java.util.HashSet", "java.util.LinkedHashSet", "java.util.TreeSet"]),
   ("java.util.Map",
     ["java.util.HashMap", "java.util.LinkedHashMap", "java.util.TreeMap", "java.util.Hashtable"])]

/-- The interface that `collectionGroups` gives for `type`. -/
def preferredInterface? (type : String) : Option String :=
  (collectionGroups.find? (·.2.contains type)).map (·.1)

/-- The finding on a declaration of type `type`, if it has a `preferredInterface?`.  `place` names
the kind of declaration in the message. -/
def collectionFinding? (place : String) (location : Location) (type : String) : Option Finding :=
  (preferredInterface? type).map fun better =>
    programToInterface.report .warning location
      s!"{place} type '{type}' should use interface '{better}' instead"

/-- The findings on fields that are not synthetic.  Of several with one name the first is kept. -/
def fieldCollections (c : Class) : List Finding :=
  let declared := (c.fields.filter (!·.access.isSynthetic)).filterMap fun field =>
    collectionFinding? "Field" (c.memberLocation field.name) field.typeName
  Text.distinctBy Finding.location declared

/-- The findings on the result and the parameters of `method`. -/
def methodCollections (c : Class) (method : Method) : List Finding :=
  (collectionFinding? "Return" (c.callLocation method) method.resultTypeName).toList
    ++ method.parameterTypeNames.filterMap (collectionFinding? "Parameter" (c.callLocation method))

/-- The findings of `programToInterface`: those on fields, then those on methods other than
synthetic and bridge ones. -/
def collectionTypes (c : Class) : List Finding :=
  fieldCollections c
    ++ (c.methods.filter fun method =>
          !method.access.isSynthetic && !method.access.isBridge).flatMap (methodCollections c)

end ClassAudit.Check
