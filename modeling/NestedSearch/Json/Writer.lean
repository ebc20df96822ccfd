import NestedSearch.Json.Basic
import NestedSearch.Decimal.Layout

/-!
# Writing JSON

Two ways to write a value: on one line without blanks, and indented by two spaces for a
person to read. Only what must be escaped is escaped.
-/

namespace NestedSearch.Json

/-- A hexadecimal digit, in lower case. -/
def hexChar (n : Nat) : Char :=
  if n < 10 then Char.ofNat ('0'.toNat + n) else Char.ofNat ('a'.toNat + (n - 10))

/-- A character inside a string: quotes, backslashes and control characters are escaped. -/
def escape (c : Char) : List Char :=
  if c = '"' then ['\\', '"']
  else if c = '\\' then ['\\', '\\']
  else if c = '\x08' then ['\\', 'b']
  else if c = '\x0c' then ['\\', 'f']
  else if c = '\n' then ['\\', 'n']
  else if c = '\r' then ['\\', 'r']
  else if c = '\t' then ['\\', 't']
  else if c < ' ' then
    ['\\', 'u', '0', '0', hexChar (c.toNat / 16), hexChar (c.toNat % 16)]
  else [c]

/-- A string between quotes. -/
def quoted (text : String) : String :=
  "\"" ++ String.ofList (text.toList.flatMap escape) ++ "\""

mutual

/-- The value on one line. What names no text is written as `null`. -/
def compact : Json → String
  | .null => "null"
  | .bool b => if b then "true" else "false"
  | .num n => n.render true
  | .str text => (text.map quoted).getD "null"
  | .arr items => "[" ++ compactItems items ++ "]"
  | .obj members => "\x7b" ++ compactMembers members ++ "\x7d"

def compactItems : List Json → String
  | [] => ""
  | [j] => j.compact
  | j :: js => j.compact ++ "," ++ compactItems js

def compactMember : Option String × Json → String
  | (name, j) => quoted (name.getD "") ++ ":" ++ j.compact

def compactMembers : List (Option String × Json) → String
  | [] => ""
  | [m] => compactMember m
  | m :: ms => compactMember m ++ "," ++ compactMembers ms

end

/-- A new line with the given number of indentation steps. -/
def newLine (steps : Nat) : String := "\n" ++ String.ofList (List.replicate (2 * steps) ' ')

mutual

/-- The value over several lines, inside the given number of indentation steps. An empty array
    or object stays on one line. -/
def prettyAt (steps : Nat) : Json → String
  | .arr [] => "[]"
  | .arr items => "[" ++ prettyItems (steps + 1) items ++ newLine steps ++ "]"
  | .obj [] => "\x7b\x7d"
  | .obj members =>
    "\x7b" ++ prettyMembers (steps + 1) members ++ newLine steps ++ "\x7d"
  | .null => "null"
  | .bool b => if b then "true" else "false"
  | .num n => n.render true
  | .str text => (text.map quoted).getD "null"

def prettyItems (steps : Nat) : List Json → String
  | [] => ""
  | [j] => newLine steps ++ prettyAt steps j
  | j :: js => newLine steps ++ prettyAt steps j ++ "," ++ prettyItems steps js

def prettyMember (steps : Nat) : Option String × Json → String
  | (name, j) => newLine steps ++ quoted (name.getD "") ++ ": " ++ prettyAt steps j

def prettyMembers (steps : Nat) : List (Option String × Json) → String
  | [] => ""
  | [m] => prettyMember steps m
  | m :: ms => prettyMember steps m ++ "," ++ prettyMembers steps ms

end

/-- The value over several lines. -/
def pretty (j : Json) : String := prettyAt 0 j

end NestedSearch.Json
