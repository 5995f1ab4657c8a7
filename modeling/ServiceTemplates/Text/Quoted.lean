import ServiceTemplates.Text.Unprintable

/-!
# Quoted texts

The form in which a message shows a text that it was given: in double quotes, with
quotes and backslashes escaped, the common controls under their letters, and every
other character that has no picture of its own as its code point in hexadecimal.
-/

namespace ServiceTemplates.Text

/-- The characters that stand for `c` inside quotes. -/
def quotedChar (c : Char) : List Char :=
  if c = '"' then ['\\', '"']
  else if c = '\\' then ['\\', '\\']
  else if c = '\n' then ['\\', 'n']
  else if c = '\r' then ['\\', 'r']
  else if c = '\t' then ['\\', 't']
  else if c.toNat = 0 then ['\\', '0']
  else if isVisible c then [c]
  else '\\' :: 'u' :: '\x7b' :: (Nat.toDigits 16 c.toNat ++ ['\x7d'])

def quoted (s : String) : String :=
  String.ofList ('"' :: s.toList.flatMap quotedChar ++ ['"'])

end ServiceTemplates.Text
