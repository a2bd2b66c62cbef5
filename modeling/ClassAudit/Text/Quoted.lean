import ClassAudit.Unicode.Latest

/-!
# Quoted text

A text between double quotes in which everything can be told apart on paper: what cannot be
printed, or would melt into the character before it, is written as its code.
-/

namespace ClassAudit.Text

/-- The escape `\u{…}` of a character. -/
def codeEscape (c : Char) : List Char :=
  "\\u\x7b".toList ++ Nat.toDigits 16 c.toNat ++ ['\x7d']

/-- The escaped form of a character between quotes. -/
def quotedChar (c : Char) : List Char :=
  match c with
  | '\x00' => ['\\', '0']
  | '\t' => ['\\', 't']
  | '\n' => ['\\', 'n']
  | '\r' => ['\\', 'r']
  | '\\' => ['\\', '\\']
  | '"' => ['\\', '"']
  | _ => if c = ' ' || Unicode.isPrinted c then [c] else codeEscape c

/-- The text between double quotes, escaped for debugging output. -/
def quoted (text : String) : String :=
  String.ofList ('"' :: text.toList.flatMap quotedChar ++ ['"'])

end ClassAudit.Text
