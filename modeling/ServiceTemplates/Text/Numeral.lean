/-!
# Numerals

Numbers as people write them into settings and versions: decimal digits, at least
one, with a plus sign in front if one likes, and within the range that is asked for.
-/

namespace ServiceTemplates.Text

/-- The value of a run of decimal digits. -/
def digitsValue (digits : List Char) : Nat :=
  digits.foldl (fun n c => n * 10 + (c.toNat - '0'.toNat)) 0

/-- The digits of a numeral, after its sign. -/
def unsigned : List Char → List Char
  | '+' :: rest => rest
  | cs => cs

/-- The number below `bound` that a numeral denotes. -/
def numeral? (bound : Nat) (s : String) : Option Nat :=
  let digits := unsigned s.toList
  if digits.isEmpty || !digits.all Char.isDigit then none
  else if digitsValue digits < bound then some (digitsValue digits) else none

end ServiceTemplates.Text
