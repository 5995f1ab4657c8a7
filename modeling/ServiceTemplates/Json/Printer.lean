import ServiceTemplates.Json.Basic

/-!
# JSON text

The compact text of a JSON value: no blanks, the fields of an object as they are
listed, and in a text only the characters escaped that have to be. The text of a
tree is defined on lists of characters, where two texts can be compared from the
left; `Json.render` packs it into a `String`.
-/

namespace ServiceTemplates.Json

/-- The digit of a value below sixteen, in lower case. -/
def hexDigit (n : Nat) : Char :=
  if n < 10 then Char.ofNat ('0'.toNat + n) else Char.ofNat ('a'.toNat + (n - 10))

/-- The characters that stand for `c` inside a text. -/
def escape (c : Char) : List Char :=
  if c = '"' then ['\\', '"']
  else if c = '\\' then ['\\', '\\']
  else if c = '\n' then ['\\', 'n']
  else if c = '\r' then ['\\', 'r']
  else if c = '\t' then ['\\', 't']
  else if c = '\x08' then ['\\', 'b']
  else if c = '\x0c' then ['\\', 'f']
  else if c.toNat < 32 then
    ['\\', 'u', '0', '0', hexDigit (c.toNat / 16), hexDigit (c.toNat % 16)]
  else [c]

def quoted (s : String) : List Char :=
  '"' :: s.toList.flatMap escape ++ ['"']

def Number.toText : Number → String
  | .int n => toString n
  | .float x => x.toText

mutual

/-- The characters of a value's text. -/
def chars : Json → List Char
  | .null => ['n', 'u', 'l', 'l']
  | .bool true => ['t', 'r', 'u', 'e']
  | .bool false => ['f', 'a', 'l', 's', 'e']
  | .number n => n.toText.toList
  | .string s => quoted s
  | .array items => '[' :: itemChars items
  | .object fields => '\x7b' :: fieldChars fields

/-- The characters of the items of an array, closing bracket included. -/
def itemChars : List Json → List Char
  | [] => [']']
  | [x] => x.chars ++ [']']
  | x :: y :: rest => x.chars ++ ',' :: itemChars (y :: rest)

/-- The characters of the fields of an object, closing brace included. -/
def fieldChars : List (String × Json) → List Char
  | [] => ['\x7d']
  | [(k, x)] => quoted k ++ ':' :: x.chars ++ ['\x7d']
  | (k, x) :: y :: rest => quoted k ++ ':' :: x.chars ++ ',' :: fieldChars (y :: rest)

end

def render (j : Json) : String := String.ofList j.chars

end ServiceTemplates.Json
