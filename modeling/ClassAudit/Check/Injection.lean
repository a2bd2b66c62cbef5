import ClassAudit.Check.Basic
import ClassAudit.Text.Search

/-!
# Injection

A method that puts a query together from parts and has it executed as it is can be made to execute
something else.  Four signals decide, and only whether each of them occurs in the method.
-/

namespace ClassAudit

/-- The signals of an injection that occur in a method. -/
structure QuerySignals where
  /-- A text that `looksLikeQuery` occurs, or texts are concatenated. -/
  buildsText : Bool
  /-- A call satisfies `isRawExecution`. -/
  executesRaw : Bool
  /-- A call satisfies `isParameterized`. -/
  usesParameters : Bool
  /-- A call satisfies `isInput`. -/
  readsInput : Bool
  deriving DecidableEq, Repr

namespace QuerySignals

/-- The words of a query in capitals, with the blanks around them. -/
def queryWords : List String :=
  ["SELECT ", "INSERT ", "UPDATE ", "DELETE ", " FROM ", " WHERE "]

/-- `text` contains one of `queryWords`, up to the case of ASCII letters. -/
def looksLikeQuery (text : String) : Bool :=
  let upper := text.toList.map Text.asciiUpper
  queryWords.any fun word => Text.occursIn word.toList upper

/-- A call of `append` on a builder or of `String.concat`. -/
def isConcatenation (site : CallSite) : Bool :=
  (["java/lang/StringBuilder", "java/lang/StringBuffer"].contains site.owner
      && site.name = "append")
    || (site.owner = "java/lang/String" && site.name = "concat")

/-- A call of an `execute` method or of `addBatch` on a `Statement`. -/
def isRawExecution (site : CallSite) : Bool :=
  site.owner = "java/sql/Statement"
    && (Text.startsWith site.name "execute" || site.name = "addBatch")

/-- A call of an `execute` method on a `PreparedStatement`, or one that prepares it. -/
def isParameterized (site : CallSite) : Bool :=
  (site.owner = "java/sql/PreparedStatement" && Text.startsWith site.name "execute")
    || (site.owner = "java/sql/Connection"
        && ["prepareStatement", "prepareCall"].contains site.name)

/-- The methods of a servlet request whose results its sender controls. -/
def requestReaders : List String :=
  ["getParameter", "getParameterValues", "getHeader", "getHeaders", "getQueryString",
   "getRequestURI", "getRequestURL"]

/-- A call that reads a request, a `Scanner` or a `BufferedReader`. -/
def isInput (site : CallSite) : Bool :=
  (["javax/servlet/http/HttpServletRequest", "jakarta/servlet/http/HttpServletRequest"].contains
      site.owner && requestReaders.contains site.name)
    || (site.owner = "java/util/Scanner" && Text.startsWith site.name "next")
    || (site.owner = "java/io/BufferedReader" && site.name = "readLine")

/-- No signal. -/
def initial : QuerySignals :=
  { buildsText := false, executesRaw := false, usesParameters := false, readsInput := false }

/-- The transition of the signals on one operation.  It never resets a signal. -/
def observe (signals : QuerySignals) : Operation → QuerySignals
  | .text value =>
    if looksLikeQuery value then { signals with buildsText := true } else signals
  | .dynamicCall site =>
    if site.isStringConcat then { signals with buildsText := true } else signals
  | .call site =>
    { buildsText := signals.buildsText || isConcatenation site
      executesRaw := signals.executesRaw || isRawExecution site
      usesParameters := signals.usesParameters || isParameterized site
      readsInput := signals.readsInput || isInput site }
  | _ => signals

/-- `observe` folded over the operations, from `initial`. -/
def ofOperations (operations : List Operation) : QuerySignals :=
  operations.foldl observe initial

/-- The finding on `method` for the given signals: none if it does not `buildsText` or if it
`usesParameters`, an error if it `executesRaw`. -/
def verdict? (signals : QuerySignals) (c : Class) (method : Method) : Option Finding :=
  let name := method.name
  if !signals.buildsText || signals.usesParameters then none
  else if signals.executesRaw then
    some (Check.security.report .error (c.memberLocation name)
      (s!"Potential SQL injection in method '{name}': "
        ++ "dynamically built query executed through Statement; use PreparedStatement parameters")
      (some .high))
  else if signals.readsInput then
    some (Check.security.report .warning (c.memberLocation name)
      (s!"Untrusted input flows into dynamic string building in method '{name}'; "
        ++ "validate it and prefer parameterized APIs")
      (some .low))
  else none

end QuerySignals

/-- The `verdict?` on the signals of all operations of `method`. -/
def Check.injectionFinding? (c : Class) (method : Method) : Option Finding :=
  (QuerySignals.ofOperations method.operations).verdict? c method

end ClassAudit
