import ClassAudit.Check.Basic
import ClassAudit.Text.Search

/-!
# Printing to the console

The first print call after a stream of the console was taken prints to that stream.
-/

namespace ClassAudit

/-- A call of a `print` method on `System.out` or `System.err`. -/
structure ConsolePrint where
  stream : String
  method : String
  line : Option Nat
  deriving DecidableEq, Repr

namespace ConsolePrint

/-- The field of `java/lang/System` that the operation reads, if it is `out` or `err`. -/
def stream? : Operation → Option String
  | .readField field =>
    if field.isStatic && field.owner = "java/lang/System"
        && (field.name = "out" || field.name = "err") then some field.name
    else none
  | _ => none

/-- The method of `java/io/PrintStream` that the operation calls, if its name starts with `print`.
-/
def print? : Operation → Option String
  | .call site =>
    if site.kind = .virtual && site.owner = "java/io/PrintStream"
        && Text.startsWith site.name "print" then some site.name
    else none
  | _ => none

/-- The prints of a code.  `taken` is the stream that was read last and not yet printed to. -/
def scan (taken : Option String) : List Instruction → List ConsolePrint
  | [] => []
  | instruction :: rest =>
    match stream? instruction.operation, print? instruction.operation, taken with
    | some stream, _, _ => scan (some stream) rest
    | none, some method, some stream =>
      { stream, method, line := instruction.line } :: scan none rest
    | none, _, _ => scan taken rest

end ConsolePrint

namespace Check

/-- The findings of `consolePrint`, one per `ConsolePrint`, method by method. -/
def consolePrints (c : Class) : List Finding :=
  c.methods.flatMap fun method =>
    (ConsolePrint.scan none method.instructions).map fun print =>
      let name := method.name
      let stream := print.stream
      let call := print.method
      consolePrint.report .warning { c.memberLocation name with line := print.line }
        (s!"Direct console printing (System.{stream}.{call}) in method '{name}'; "
          ++ "use a logger unless this is intended program output")

end Check

end ClassAudit
