import Referent.Json.Basic

/-!
# JSON text: printing

* `Json.compact` — a value on one line, without spaces.
* `Json.pretty` — a value over several lines, two spaces for each level; an empty array or object
  stays on its line.

Strings escape the quote, the backslash and the controls below the space, and nothing else. A part
that has no value prints as `null`.
-/

namespace Referent.Json

/-! ## Strings -/

/-- One character inside a string. -/
def escapedChar (c : Char) : List Char :=
  if c = '"' then ['\\', '"']
  else if c = '\\' then ['\\', '\\']
  else if c.toNat = 0x8 then ['\\', 'b']
  else if c.toNat = 0x9 then ['\\', 't']
  else if c.toNat = 0xA then ['\\', 'n']
  else if c.toNat = 0xC then ['\\', 'f']
  else if c.toNat = 0xD then ['\\', 'r']
  else if c.toNat < 0x20 then
    ['\\', 'u', '0', '0', Nat.digitChar (c.toNat / 16), Nat.digitChar (c.toNat % 16)]
  else [c]

/-- The text as a JSON string. -/
def quote (text : String) : String :=
  String.ofList ('"' :: text.toList.flatMap escapedChar ++ ['"'])

/-! ## On one line -/

mutual

/-- The value on one line. -/
def compact : Json → String
  | .null | .unheld | .broken => "null"
  | .bool true => "true"
  | .bool false => "false"
  | .natural n => toString n
  | .decimal literal => literal
  | .string text => quote text
  | .array items => "[" ++ compactItems items ++ "]"
  | .object fields => "\x7b" ++ compactFields fields ++ "\x7d"

/-- Items separated by commas. -/
def compactItems : List Json → String
  | [] => ""
  | [v] => v.compact
  | v :: w :: vs => v.compact ++ "," ++ compactItems (w :: vs)

/-- Fields separated by commas. -/
def compactFields : List (Option String × Json) → String
  | [] => ""
  | [(name, v)] => quote (name.getD "") ++ ":" ++ v.compact
  | (name, v) :: f :: fs =>
    quote (name.getD "") ++ ":" ++ v.compact ++ "," ++ compactFields (f :: fs)

end

/-! ## Over several lines -/

/-- A line break, and two spaces for each level. -/
def newline (level : Nat) : String :=
  "\n" ++ String.join (List.replicate level "  ")

mutual

/-- The value over several lines, at a level of indentation. -/
def prettyAt (level : Nat) : Json → String
  | .null | .unheld | .broken => "null"
  | .bool true => "true"
  | .bool false => "false"
  | .natural n => toString n
  | .decimal literal => literal
  | .string text => quote text
  | .array [] => "[]"
  | .array (v :: vs) => "[" ++ prettyItems (level + 1) (v :: vs) ++ newline level ++ "]"
  | .object [] => "\x7b\x7d"
  | .object (f :: fs) => "\x7b" ++ prettyFields (level + 1) (f :: fs) ++ newline level ++ "\x7d"

/-- Each item on a line of its own. -/
def prettyItems (level : Nat) : List Json → String
  | [] => ""
  | [v] => newline level ++ v.prettyAt level
  | v :: w :: vs => newline level ++ v.prettyAt level ++ "," ++ prettyItems level (w :: vs)

/-- Each field on a line of its own. -/
def prettyFields (level : Nat) : List (Option String × Json) → String
  | [] => ""
  | [(name, v)] => newline level ++ quote (name.getD "") ++ ": " ++ v.prettyAt level
  | (name, v) :: f :: fs =>
    newline level ++ quote (name.getD "") ++ ": " ++ v.prettyAt level ++ "," ++
      prettyFields level (f :: fs)

end

/-- The value over several lines. -/
def pretty (v : Json) : String :=
  v.prettyAt 0

end Referent.Json
