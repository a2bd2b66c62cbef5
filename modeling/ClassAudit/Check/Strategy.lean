import ClassAudit.Check.Basic
import ClassAudit.Text.Search

/-!
# Strategies

A field of an interface type holds one of several interchangeable implementations.  The check
looks for the implementations among the known classes, and for a call on the interface.
-/

namespace ClassAudit.Check

/-- The type of `field` if it is neither a platform type nor `c` itself. -/
def strategyType? (c : Class) (field : Field) : Option String :=
  field.objectType?.filter fun type => !TypeName.isPlatform type && type ≠ c.name

/-- The main finding on a field of the interface `strategy`: an error without implementers, a
warning with one, an info with more. -/
def implementationFinding (registry : Registry) (c : Class) (field : Field) (strategy : Class) :
    Finding :=
  let implementers := (registry.implementers strategy.name).map Class.dottedName
  let type := strategy.dottedName
  let name := field.name
  let location := c.memberLocation name
  match implementers with
  | [] =>
    strategyPattern.report .error location
      (s!"Field '{name}' has strategy interface '{type}', "
        ++ "but no implementation was found in the analyzed set")
      (some .high)
  | [only] =>
    strategyPattern.report .warning location
      (s!"Incomplete Strategy: field '{name}' of interface '{type}' "
        ++ s!"has a single implementation ({only})")
      (some .high)
  | _ =>
    let count := implementers.length
    let names := Text.commaList implementers
    strategyPattern.report .info location
      (s!"Strategy pattern: field '{name}' of interface '{type}' "
        ++ s!"has {count} implementations ({names})")
      (some .high)

/-- The finding on a field of the interface `strategy` if no method of `c` makes a call on it. -/
def idleStrategyFinding? (c : Class) (field : Field) (strategy : Class) : Option Finding :=
  let type := strategy.dottedName
  let name := field.name
  if c.calls.any (·.owner = strategy.name) then none
  else
    some (strategyPattern.report .warning (c.memberLocation name)
      (s!"Field '{name}' of interface '{type}' is never invoked; "
        ++ "no delegation to the strategy was found")
      (some .medium))

/-- The findings on `field`, by what `registry` resolves its `strategyType?` to. -/
def strategyFieldFindings (registry : Registry) (c : Class) (field : Field) : List Finding :=
  match strategyType? c field with
  | none => []
  | some type =>
    match registry.resolve? type with
    | none =>
      let name := field.name
      let typeName := TypeName.dotted type
      [strategyPattern.report .error (c.memberLocation name)
        s!"Field '{name}' has type '{typeName}', which was not found in the analyzed set"
        (some (Registry.confidence none))]
    | some strategy =>
      if strategy.isInterface then
        implementationFinding registry c field strategy
          :: (idleStrategyFinding? c field strategy).toList
      else []

/-- The findings of `strategyPattern`, which are empty without a registry. -/
def strategies (known : Option Registry) (c : Class) : List Finding :=
  match known with
  | none => []
  | some registry =>
    if c.isInterface then [] else c.instanceFields.flatMap (strategyFieldFindings registry c)

end ClassAudit.Check
