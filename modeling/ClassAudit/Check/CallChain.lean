import ClassAudit.Check.Basic
import ClassAudit.Text.Search

/-!
# Call chains

A call directly on the result of another call reaches through an object to a stranger.  Types made
for chaining are exempt: texts and their builders, optional values, streams, and a type whose
methods return the type itself.
-/

namespace ClassAudit

namespace CallChain

/-- Types whose methods are meant to be chained; a call on a result of one is not counted. -/
def isFluentType (name : String) : Bool :=
  ["java/lang/String", "java/lang/StringBuilder", "java/lang/StringBuffer",
   "java/util/Optional"].contains name
    || Text.startsWith name "java/util/stream/"

/-- `second` may be made on the result of `first`: the result is a reference, `second` is not
static, and the type of the result is neither the owner of `first` nor an `isFluentType`. -/
def reachesThrough (first second : CallSite) : Bool :=
  match first.resultType? with
  | none => false
  | some result =>
    result.isReference && second.kind ≠ .static &&
      match result.internalName? with
      | some name => name ≠ first.owner && !isFluentType name
      | none => true

/-- The number of calls that `reachesThrough` the call directly before them, where `previous` is the
call in front of the list. -/
def countFrom : Option CallSite → List Operation → Nat
  | _, [] => 0
  | previous, .call site :: rest =>
    (if previous.any (reachesThrough · site) then 1 else 0) + countFrom (some site) rest
  | _, _ :: rest => countFrom none rest

/-- `countFrom` over the code of `method`. -/
def count (method : Method) : Nat :=
  countFrom none method.operations

end CallChain

namespace Check

/-- The number of chained calls from which the severity is `warning`. -/
def manyChains : Nat := 3

/-- The finding on `method` if it has chained calls. -/
def methodChainFindings (c : Class) (method : Method) : List Finding :=
  let chains := CallChain.count method
  if chains = 0 then []
  else
    [leastKnowledge.report (if manyChains ≤ chains then .warning else .info) (c.callLocation method)
      (s!"Method contains {chains} method chain(s) that may violate the Law of Demeter; "
        ++ "introduce local variables or move behavior closer to the data")]

/-- The findings of `leastKnowledge`, one per method with chained calls, initializers excepted. -/
def callChains (c : Class) : List Finding :=
  if c.isInterface then []
  else (c.methods.filter (!·.isInitializer)).flatMap (methodChainFindings c)

end Check

end ClassAudit
