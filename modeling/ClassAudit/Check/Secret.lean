import ClassAudit.Check.Basic
import ClassAudit.Text.Blank
import ClassAudit.Text.Search
import ClassAudit.Unicode.Folding

/-!
# Secrets in the code

A string constant may be a password, a key or a token.  A constant is judged without the blanks
around it, first by the patterns of the settings, then by the words it holds and by its form.
Lengths are those of the encoded text.
-/

namespace ClassAudit

/-- The settings with their secret patterns parsed. -/
structure Criteria where
  settings : Settings
  secretPatterns : List Regex

namespace Criteria

/-- The criteria of `settings`, if they pass `validate` and all patterns parse. -/
def ofSettings (settings : Settings) : Except SettingsError Criteria := do
  settings.validate
  return { settings, secretPatterns := ← settings.secretRegexes }

end Criteria

namespace Secret

/-- The number of bytes below which only `secretPatterns` apply. -/
def minCandidateLength : Nat := 8

/-- The spellings of the keywords in lower case, without those that contain another one. -/
def keywords : List String :=
  ["password", "passwd", "pwd", "secret", "api_key", "api-key", "apikey", "token", "auth", "bearer",
   "private_key", "private-key", "privatekey"]

/-- The case folding of `text`, character by character. -/
def folded (text : String) : List Char :=
  text.toList.map fun c => Char.ofNat (Unicode.foldCode c.toNat)

/-- `text` contains one of `keywords` up to case folding, as in `(?i)(password|passwd|…)`. -/
def hasKeyword (text : String) : Bool :=
  let letters := folded text
  keywords.any fun word => Text.occursIn word.toList letters

/-- `text` contains `=` or `:`. -/
def isAssignment (text : String) : Bool :=
  Text.hasChar text '=' || Text.hasChar text ':'

/-- The pattern `^AKIA[0-9A-Z]{16}$`. -/
def isAccessKey (text : String) : Bool :=
  let rest := text.toList.drop 4
  Text.startsWith text "AKIA" && rest.length = 16
    && rest.all fun c => Text.isDigit c || Text.isUpper c

/-- The class `[A-Za-z0-9_-]`. -/
def isTokenChar (c : Char) : Bool :=
  Text.isLetterOrDigit c || c = '_' || c = '-'

/-- Three non-empty parts of `isTokenChar` separated by points. -/
def isSignedToken (text : String) : Bool :=
  let parts := Text.pieces '.' text.toList
  parts.length = 3 && parts.all fun part => !part.isEmpty && part.all isTokenChar

/-- The class `[A-Za-z0-9+/=_-]`. -/
def isKeyChar (c : Char) : Bool :=
  Text.isLetterOrDigit c || ['+', '/', '=', '_', '-'].contains c

/-- All characters satisfy `isKeyChar`, and there are an ASCII digit and an ASCII letter among them.
-/
def looksRandom (text : String) : Bool :=
  text.toList.all isKeyChar && text.toList.any Text.isDigit && text.toList.any Text.isLetter

/-- The confidence that `text`, which is trimmed, is a secret; `none` if it is not classified as
one. -/
def classify? (criteria : Criteria) (text : String) : Option Confidence :=
  if criteria.secretPatterns.any (·.isMatch text) then some .high
  else if text.utf8ByteSize < minCandidateLength then none
  else if hasKeyword text && isAssignment text then some .high
  else if isAccessKey text then some .high
  else if text.utf8ByteSize < criteria.settings.secretMinLength then none
  else if isSignedToken text || looksRandom text then some .medium
  else none

end Secret

namespace Check

/-- The finding on `instruction` if it loads a string constant that `classify?` accepts. -/
def secretFinding? (criteria : Criteria) (c : Class) (method : Method) (instruction : Instruction) :
    Option Finding :=
  match instruction.operation with
  | .text value =>
    (Secret.classify? criteria (Text.trimmed value)).map fun confidence =>
      let name := method.name
      security.report .error { c.memberLocation name with line := instruction.line }
        (s!"Possible hardcoded secret in method '{name}'; "
          ++ "load secrets from the environment or a secret manager")
        (some confidence)
  | _ => none

/-- `secretFinding?` over the instructions of `method`. -/
def secretFindings (criteria : Criteria) (c : Class) (method : Method) : List Finding :=
  method.instructions.filterMap (secretFinding? criteria c method)

end Check

end ClassAudit
