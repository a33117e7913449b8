import Vitae.Text.Hex

/-! Percent encoding of text: the unreserved characters stand for themselves, and every
other octet of the UTF-8 form is written as a percent sign and two upper-case hexadecimal
digits. Since `&`, `=`, `?`, `#` and line breaks are not unreserved, an encoded value can
never end the place it stands in.

The reader beside it takes any character but the percent sign for itself, so it reads more
than the writer produces, and whatever the writer produces it reads back. -/

namespace Vitae.Text.Percent

/-- Letters, digits and `-`, `_`, `.`, `~`. -/
def isUnreserved (c : Char) : Bool :=
  c.isAlphanum || c == '-' || c == '_' || c == '.' || c == '~'

/-- The written form of one octet. -/
def escape (octet : UInt8) : List Char :=
  if isUnreserved (Char.ofNat octet.toNat) then
    [Char.ofNat octet.toNat]
  else
    ['%', hexDigit (octet.toNat / 16), hexDigit (octet.toNat % 16)]

def encode (text : String) : String :=
  String.ofList (text.toUTF8.data.toList.flatMap escape)

/-- Reads the octets behind a written form. A percent sign without two hexadecimal digits
after it makes the whole text unreadable. -/
def octets? : List Char → Option (List UInt8)
  | [] => some []
  | '%' :: high :: low :: rest =>
    match hexValue? high, hexValue? low, octets? rest with
    | some h, some l, some octets => some (UInt8.ofNat (16 * h + l) :: octets)
    | _, _, _ => none
  | c :: rest =>
    if c = '%' then none else (octets? rest).map (String.utf8EncodeChar c ++ ·)

/-- Reads a written form back, unless its octets are no UTF-8. -/
def decode? (text : String) : Option String :=
  (octets? text.toList).bind fun octets => String.fromUTF8? ⟨octets.toArray⟩

end Vitae.Text.Percent
