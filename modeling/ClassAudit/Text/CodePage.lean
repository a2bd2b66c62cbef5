import ClassAudit.Text.Utf8

/-!
# The old code page of archives

Names in archives that do not say otherwise are in code page 437: the lower half is ASCII, and
each byte of the upper half stands for one further character.
-/

namespace ClassAudit.Text

/-- The characters of the bytes from 128 on, in code page 437. -/
def upperHalf : List Char :=
  ("ÇüéâäàåçêëèïîìÄÅÉæÆôöòûùÿÖÜ¢£¥₧ƒáíóúñÑªº¿⌐¬½¼¡«»░▒▓│┤╡╢╖╕╣║╗╝╜╛┐"
    ++ "└┴┬├─┼╞╟╚╔╩╦╠═╬╧╨╤╥╙╘╒╓╫╪┘┌█▄▌▐▀αßΓπΣσµτΦΘΩδ∞φε∩≡±≥≤⌠⌡÷≈°∙·√ⁿ²■\u00a0").toList

/-- The character of a byte in code page 437. -/
def ofCodePage (b : UInt8) : Char :=
  if b < 128 then Char.ofNat b.toNat else (upperHalf[b.toNat - 128]?).getD replacement

end ClassAudit.Text
