/-!
# Request targets

The path and the query of a request, as read from the text that addresses it. The
query begins after the first question mark, and what follows a hash sign is dropped.
Blanks, controls and a few other characters of the low range cannot stand in a target;
every character beyond that range can. Scheme and host in front of a path do not matter.
-/

namespace ServiceTemplates

structure Target where
  path : String
  /-- The query, empty when there is none. -/
  query : String
deriving DecidableEq, Inhabited

namespace Target

/-- Whether a character can stand in a path. -/
def isPathChar (c : Char) : Bool := 0x20 < c.toNat && !([0x3C, 0x3E, 0x60].contains c.toNat)

/-- Whether a character can stand in a query. -/
def isQueryChar (c : Char) : Bool := 0x20 < c.toNat && !([0x22, 0x3C, 0x3E].contains c.toNat)

/-- The target of an address that begins with its path. -/
def ofPath? (address : List Char) : Option Target :=
  let cs := address.takeWhile (· ≠ '#')
  let path := cs.takeWhile (· ≠ '?')
  let query := (cs.dropWhile (· ≠ '?')).drop 1
  if path.all isPathChar && query.all isQueryChar then
    some ⟨String.ofList path, String.ofList query⟩
  else none

/-- What follows the host of an address that begins with a scheme and a host. -/
def afterHost? (address : List Char) : Option (List Char) :=
  match address.dropWhile Char.isAlphanum with
  | ':' :: '/' :: '/' :: rest => some (rest.dropWhile fun c => !(['/', '?', '#'].contains c))
  | _ => none

/-- The target that a text addresses, if it addresses one; on a host alone it is the
root. -/
def ofText? (text : String) : Option Target :=
  match afterHost? text.toList with
  | none => ofPath? text.toList
  | some [] => some ⟨"/", ""⟩
  | some rest => ofPath? rest

end Target

end ServiceTemplates
