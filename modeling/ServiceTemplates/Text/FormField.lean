/-!
# Fields of a form in a query

A value in the query of a request is written byte by byte: letters, digits and four
marks as they are, a space as a plus sign, every other byte as its two hexadecimal
digits in upper case behind a percent sign.
-/

namespace ServiceTemplates.Text.FormField

/-- A hexadecimal digit in upper case. -/
def digit (n : Nat) : Char :=
  if n < 10 then Char.ofNat ('0'.toNat + n) else Char.ofNat ('A'.toNat + (n - 10))

def encodeByte (b : UInt8) : List Char :=
  let c := Char.ofNat b.toNat
  if c.isAlphanum || c = '*' || c = '-' || c = '.' || c = '_' then [c]
  else if c = ' ' then ['+']
  else ['%', digit (b.toNat / 16), digit (b.toNat % 16)]

def encode (s : String) : String :=
  String.ofList (s.toUTF8.toList.flatMap encodeByte)

end ServiceTemplates.Text.FormField
