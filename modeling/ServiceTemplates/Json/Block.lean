import ServiceTemplates.Json.Printer

/-!
# JSON values in block form

The text of a JSON value for readers: one field or item a line, nesting shown by two
blanks of indentation, a list no deeper than its key, and texts without quotes where
they can be taken for nothing else. A text of several lines stands below its key line
by line; its last line must not be empty.
-/

namespace ServiceTemplates.Json

/-- A line one level deeper; an empty one stays empty. -/
def indent (line : String) : String := if line.isEmpty then line else "  " ++ line

/-- The first of some lines behind a mark, the others as they are. -/
def behind (mark : String) : List String → List String
  | [] => [mark]
  | line :: rest => (mark ++ line) :: rest

/-- Some lines, all but the first one level deeper. -/
def indentRest : List String → List String
  | [] => []
  | line :: rest => line :: rest.map indent

/-- Whether a text of one line would be read as something else without quotes. -/
def needsQuotes (s : String) : Bool := s.isEmpty || (s.splitOn ": ").length != 1

def textLines (s : String) : List String :=
  match s.splitOn "\n" with
  | [_] => [if needsQuotes s then "'" ++ s.replace "'" "''" ++ "'" else s]
  | lines => "|-" :: lines.map indent

mutual

def blockLines : Json → List String
  | .null => ["null"]
  | .bool true => ["true"]
  | .bool false => ["false"]
  | .number n => [n.toText]
  | .string s => textLines s
  | .array [] => ["[]"]
  | .array (x :: xs) => itemLines (x :: xs)
  | .object [] => ["\x7b\x7d"]
  | .object (e :: es) => fieldLines (e :: es)

/-- The lines of the items of an array. -/
def itemLines : List Json → List String
  | [] => []
  | .array (x :: xs) :: rest =>
    behind "- " (indentRest (itemLines (x :: xs))) ++ itemLines rest
  | .object (e :: es) :: rest =>
    behind "- " (indentRest (fieldLines (e :: es))) ++ itemLines rest
  | x :: rest => behind "- " (blockLines x) ++ itemLines rest

/-- The lines of the fields of an object. -/
def fieldLines : List (String × Json) → List String
  | [] => []
  | (k, .array (x :: xs)) :: rest => (k ++ ":") :: itemLines (x :: xs) ++ fieldLines rest
  | (k, .object (e :: es)) :: rest =>
    (k ++ ":") :: (fieldLines (e :: es)).map indent ++ fieldLines rest
  | (k, x) :: rest => behind (k ++ ": ") (blockLines x) ++ fieldLines rest

end

end ServiceTemplates.Json
