/-!
# UTF-8

The two encodings of text that class files and archives carry: UTF-8 itself, and the modified form
in which NUL takes two bytes and a supplementary character is written as two surrogates of three
bytes each.  `decodeModified` undoes `encodeModified`.

## Shape of the decoders

Both decoders take the bytes from the front and fail on the first byte that cannot continue a
character.  `decode` accepts no overlong form, no surrogate and nothing above U+10FFFF.
-/

namespace ClassAudit

abbrev Bytes := List UInt8

namespace Text

/-- A byte of the form `10xxxxxx`. -/
def isContinuation (b : UInt8) : Bool :=
  0x80 ≤ b && b < 0xC0

/-- The low six bits of a continuation byte. -/
def payload (b : UInt8) : Nat :=
  b.toNat % 64

/-- The character of a two-byte sequence. -/
def ofTwo (a b : UInt8) : Char :=
  Char.ofNat (a.toNat % 32 * 64 + payload b)

/-- The code of a three-byte sequence, which may be a surrogate. -/
def threeValue (a b c : UInt8) : Nat :=
  a.toNat % 16 * 4096 + payload b * 64 + payload c

/-- The character of a four-byte sequence. -/
def ofFour (a b c d : UInt8) : Char :=
  Char.ofNat (a.toNat % 8 * 262144 + payload b * 4096 + payload c * 64 + payload d)

/-- `b` may follow `a` in a three-byte character: no overlong form and no surrogate. -/
def threeLead (a b : UInt8) : Bool :=
  isContinuation b && 0xE0 ≤ a && a ≤ 0xEF && (a != 0xE0 || 0xA0 ≤ b) && (a != 0xED || b ≤ 0x9F)

/-- `b` may follow `a` in a four-byte character: no overlong form and nothing above U+10FFFF. -/
def fourLead (a b : UInt8) : Bool :=
  isContinuation b && 0xF0 ≤ a && a ≤ 0xF4 && (a != 0xF0 || 0x90 ≤ b) && (a != 0xF4 || b ≤ 0x8F)

/-- The characters of a text in UTF-8; `none` if the bytes are invalid. -/
def decode : Bytes → Option (List Char)
  | [] => some []
  | a :: rest =>
    if a < 0x80 then (decode rest).map (Char.ofNat a.toNat :: ·)
    else match rest with
      | [] => none
      | b :: rest =>
        if 0xC2 ≤ a && a ≤ 0xDF && isContinuation b then (decode rest).map (ofTwo a b :: ·)
        else match rest with
          | [] => none
          | c :: rest =>
            if threeLead a b && isContinuation c then
              (decode rest).map (Char.ofNat (threeValue a b c) :: ·)
            else match rest with
              | [] => none
              | d :: rest =>
                if fourLead a b && isContinuation c && isContinuation d then
                  (decode rest).map (ofFour a b c d :: ·)
                else none

/-- The bytes are a proper prefix of some character. -/
def beginsCharacter : Bytes → Bool
  | [a] => 0xC2 ≤ a && a ≤ 0xF4
  | [a, b] => threeLead a b || fourLead a b
  | [a, b, c] => fourLead a b && isContinuation c
  | _ => false

def replacement : Char := Char.ofNat 0xFFFD

/-- Decodes UTF-8 with one `replacement` for each maximal prefix of a character that is not
completed.  `held` are the bytes of the current character. -/
def decodeDamaged (held : Bytes) : Bytes → List Char
  | [] => if held.isEmpty then [] else [replacement]
  | b :: rest =>
    match decode (held ++ [b]) with
    | some cs => cs ++ decodeDamaged [] rest
    | none =>
      if beginsCharacter (held ++ [b]) then decodeDamaged (held ++ [b]) rest
      else if held.isEmpty then replacement :: decodeDamaged [] rest
      else match decode [b] with
        | some cs => replacement :: cs ++ decodeDamaged [] rest
        | none =>
          if beginsCharacter [b] then replacement :: decodeDamaged [b] rest
          else replacement :: replacement :: decodeDamaged [] rest

/-- The character of a surrogate pair. -/
def ofSurrogates (high low : Nat) : Char :=
  Char.ofNat (0x10000 + (high - 0xD800) * 1024 + (low - 0xDC00))

/-- The characters of a text in modified UTF-8.  NUL is `C0 80`, and a high surrogate needs a low
one behind it. -/
def decodeModified : Bytes → Option (List Char)
  | [] => some []
  | a :: rest =>
    if a = 0 then none
    else if a < 0x80 then (decodeModified rest).map (Char.ofNat a.toNat :: ·)
    else match rest with
      | [] => none
      | b :: rest =>
        if a = 0xC0 then
          if b = 0x80 then (decodeModified rest).map (Char.ofNat 0 :: ·) else none
        else if !isContinuation b then none
        else if 0xC2 ≤ a && a ≤ 0xDF then (decodeModified rest).map (ofTwo a b :: ·)
        else match rest with
          | [] => none
          | c :: rest =>
            if !isContinuation c then none
            else if threeLead a b then
              (decodeModified rest).map (Char.ofNat (threeValue a b c) :: ·)
            else if a = 0xED && 0xA0 ≤ b && b ≤ 0xAF then
              match rest with
              | d :: e :: f :: rest =>
                if d = 0xED && 0xB0 ≤ e && e ≤ 0xBF && isContinuation f then
                  (decodeModified rest).map
                    (ofSurrogates (threeValue a b c) (threeValue d e f) :: ·)
                else none
              | _ => none
            else none

/-- The three-byte sequence of a number below 2^16. -/
def encodeThree (n : Nat) : Bytes :=
  [(0xE0 + n / 4096).toUInt8, (0x80 + n / 64 % 64).toUInt8, (0x80 + n % 64).toUInt8]

/-- A character in modified UTF-8. -/
def encodeModifiedChar (c : Char) : Bytes :=
  let n := c.toNat
  if n = 0 then [0xC0, 0x80]
  else if n < 0x80 then [n.toUInt8]
  else if n < 0x800 then [(0xC0 + n / 64).toUInt8, (0x80 + n % 64).toUInt8]
  else if n < 0x10000 then encodeThree n
  else encodeThree (0xD800 + (n - 0x10000) / 1024) ++ encodeThree (0xDC00 + (n - 0x10000) % 1024)

def encodeModified (text : List Char) : Bytes :=
  text.flatMap encodeModifiedChar

/-- The text of a `utf8` constant: in UTF-8 if the bytes are valid, and otherwise in modified UTF-8.
-/
def ofClassFileBytes (bytes : Bytes) : Option String :=
  (decode bytes <|> decodeModified bytes).map String.ofList

end Text

end ClassAudit
