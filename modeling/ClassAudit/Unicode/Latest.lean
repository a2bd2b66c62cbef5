import ClassAudit.Unicode.Property

/-!
# The newest edition

Patterns know the characters of edition 16.  What is said about single characters elsewhere, in the
names of groups and of methods and in quoted text, follows edition 17, which added the characters
listed here.
-/

namespace ClassAudit.Unicode

/-- The upper-case letters that Unicode 17 added. -/
def newCapitals : CodeSet :=
  CodeSet.ofRows ["a7ce a7d2 a7d4 16ea0-16eb8"]

/-- The other letters that Unicode 17 added. -/
def newLetters : CodeSet :=
  CodeSet.ofRows
    ["88f c5c cdc a7cf a7f1 10940-10959 10ec5-10ec7 11db0-11ddb 16ebb-16ed3 16ff2-16ff3",
     "187f8-187ff 18d09-18d1e 18d80-18df2 1e6c0-1e6de 1e6e0-1e6e2 1e6e4-1e6e5 1e6e7-1e6ed",
     "1e6f0-1e6f4 1e6fe-1e6ff 2b73a-2b73f 2cea2-2cead 323b0-33479"]

/-- The nonspacing vowel signs that Unicode 17 added. -/
def newVowels : CodeSet :=
  CodeSet.ofRows ["10efa-10efb 11b60 11b62-11b64 11b66 1e6e3 1e6e6 1e6ee-1e6ef 1e6f5"]

/-- The spacing vowel signs that Unicode 17 added. -/
def newWideVowels : CodeSet :=
  CodeSet.ofRows ["11b61 11b65 11b67"]

/-- The decimal digits that Unicode 17 added. -/
def newDigits : CodeSet :=
  CodeSet.ofRows ["11de0-11de9"]

/-- The letter numbers that Unicode 17 added. -/
def newLetterNumbers : CodeSet :=
  CodeSet.ofRows ["16ff4-16ff6"]

/-- The punctuation and symbols that Unicode 17 added. -/
def newSymbols : CodeSet :=
  CodeSet.ofRows
    ["20c1 2b96 fbc3-fbd2 fd90-fd91 fdc8-fdce 10ed0-10ed8 1ccfa-1ccfc 1ceba-1ced0 1cee0-1cef0",
     "1f6d8 1f777-1f77a 1f8d0-1f8d8 1fa54-1fa57 1fa8a 1fa8e 1fac8 1facd 1faea 1faef 1fbfa"]

/-- The property `Uppercase` in Unicode 17. -/
def capitals : CodeSet :=
  (property "uppercase").union newCapitals

/-- The property `Alphabetic` in Unicode 17. -/
def alphabetics : CodeSet :=
  CodeSet.unionAll
    [property "alphabetic", newCapitals, newLetters, newVowels, newWideVowels, newLetterNumbers]

/-- `alphabetics` and the numbers of all categories. -/
def alphanumerics : CodeSet :=
  CodeSet.unionAll
    [alphabetics, categoryUnion ["nd", "nl", "no"], newDigits, newLetterNumbers]

/-- The halfwidth voiced marks, which are printed although they are `Grapheme_Extend`. -/
def halfwidthMarks : CodeSet :=
  CodeSet.ofRows ["ff9e-ff9f"]

/-- The characters that `Text.quoted` does not escape by code.  Controls, separators, private
characters, extending marks and characters that are ignored by default are excluded. -/
def printed : CodeSet :=
  let known := CodeSet.unionAll
    [assigned, newCapitals, newLetters, newWideVowels, newDigits, newLetterNumbers, newSymbols]
  let unprinted := CodeSet.unionAll
    [categoryUnion ["cc", "cf", "co", "zl", "zp", "zs"], property "defaultignorablecodepoint",
      (property "graphemeextend").difference halfwidthMarks]
  known.difference unprinted

def isUppercase (c : Char) : Bool :=
  capitals.contains c.toNat

def isAlphabetic (c : Char) : Bool :=
  alphabetics.contains c.toNat

def isAlphanumeric (c : Char) : Bool :=
  alphanumerics.contains c.toNat

def isPrinted (c : Char) : Bool :=
  printed.contains c.toNat

end ClassAudit.Unicode
