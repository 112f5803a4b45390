import Referent.TypeExpr.Basic
import Referent.Text.Alphanumeric
import Referent.Text.Blank
import Referent.Text.Taken

/-!
# Type text: parsing

`TypeExpr.parse` reads a type from source text. Blanks may stand before every token, a keyword
needs none after it, and a name is the longest run of letters, digits, `_`, `$` and `.` that
neither starts nor ends with a point:

    type = "<unknown>" | "?" [("extends" | "super") type] | name ["<" type {"," type} ">"] {"[" "]"}

* `readType` — one type off the front of a text, with the text after it.
* `ParseError` — what was wanted, and the offset in bytes where it was not found.
-/

namespace Referent

/-- What the text should have gone on with. -/
inductive TypeExpr.Wanted where
  | typeName
  | closingAngle
  | closingBracket
  | endOfText
  deriving DecidableEq, Repr

/-- A text that is no type (`ApiError::InvalidArgument` of `from_str`). -/
structure TypeExpr.ParseError where
  text : String
  wanted : TypeExpr.Wanted
  /-- Bytes of the text before the place of the error. -/
  offset : Nat
  deriving DecidableEq, Repr

namespace TypeExpr

open Referent.Text (Left Taken)

/-- The problem in words, as the parser passes it to `TypeTextParser::error`. -/
def Wanted.message : Wanted → String
  | .typeName => "expected a type name"
  | .closingAngle => "expected `>`"
  | .closingBracket => "expected `]`"
  | .endOfText => "unexpected trailing input"

/-- The error in words (`TypeTextParser::error`). -/
def ParseError.message (e : ParseError) : String :=
  e.wanted.message ++ " in type `" ++ e.text ++ "` at offset " ++ toString e.offset

/-! ## Tokens -/

/-- The tokens that are not names. -/
inductive Token where
  | unknownType
  | questionMark
  | extendsWord
  | superWord
  | openAngle
  | comma
  | closeAngle
  | openBracket
  | closeBracket
  deriving DecidableEq, Repr

namespace Token

/-- How the token is written. -/
def spelling : Token → List Char
  | .unknownType => ['<', 'u', 'n', 'k', 'n', 'o', 'w', 'n', '>']
  | .questionMark => ['?']
  | .extendsWord => ['e', 'x', 't', 'e', 'n', 'd', 's']
  | .superWord => ['s', 'u', 'p', 'e', 'r']
  | .openAngle => ['<']
  | .comma => [',']
  | .closeAngle => ['>']
  | .openBracket => ['[']
  | .closeBracket => [']']

theorem spelling_ne_nil (token : Token) : token.spelling ≠ [] := by
  cases token <;> decide

/-- The token off the front of a text, blanks before it left out (`eat`). -/
def take? (token : Token) (cs : List Char) : Option (Taken Token cs) :=
  match h : Text.strip? token.spelling (Text.skipBlanks cs) with
  | some rest =>
    some ⟨token, rest,
      Nat.lt_of_lt_of_le (Text.length_lt_of_strip? token.spelling_ne_nil h)
        (Text.length_skipBlanks_le cs)⟩
  | none => none

end Token

/-- A character of a type name (the loop of `parse_name`). -/
def isNameChar (c : Char) : Bool :=
  Text.isAlphanumeric c || c == '_' || c == '$' || c == '.'

/-- A type name is not empty and neither starts nor ends with a point (the check of
`parse_name`). -/
def isTypeName (cs : List Char) : Bool :=
  cs != [] && cs.head? != some '.' && cs.getLast? != some '.'

theorem ne_nil_of_isTypeName {cs : List Char} (h : isTypeName cs = true) : cs ≠ [] := by
  rintro rfl
  exact Bool.false_ne_true h

/-! ## Types -/

/-- Why and where reading stopped: what was wanted of the text that was left. -/
structure Fault where
  wanted : Wanted
  rest : List Char

/-- The name at the front of a text, blanks before it left out (`parse_name`). -/
def readName (cs : List Char) : Except Fault (Taken String cs) :=
  let start := Text.skipBlanks cs
  if h : isTypeName (start.takeWhile isNameChar) then
    .ok ⟨String.ofList (start.takeWhile isNameChar), start.dropWhile isNameChar,
      Nat.lt_of_lt_of_le (Text.length_dropWhile_lt (ne_nil_of_isTypeName h))
        (Text.length_skipBlanks_le cs)⟩
  else .error ⟨.typeName, start.dropWhile isNameChar⟩

/-- As many array brackets as follow, each of them one more dimension (the last loop of
`parse_type`). Behind a full array brackets are not read; no text of fewer than `2 ^ 64` characters
fills one. -/
def readBrackets (t : TypeExpr) (cs : List Char) : Except Fault (TypeExpr × Left cs) :=
  if t.isFull then .ok (t, Left.all cs)
  else
    match Token.openBracket.take? cs with
    | none => .ok (t, Left.all cs)
    | some opened =>
      match Token.closeBracket.take? opened.rest with
      | none => .error ⟨.closingBracket, Text.skipBlanks opened.rest⟩
      | some closed => do
        let (u, left) ← readBrackets t.arrayOf closed.rest
        .ok (u, ((opened.followedBy closed).leaving u left).left)
termination_by cs.length
decreasing_by exact Nat.lt_trans closed.shorter opened.shorter

/-- The word before a bound, and whether the bound is an upper one (`parse_wildcard`). -/
def boundWord? (cs : List Char) : Option (Taken Bool cs) :=
  match Token.extendsWord.take? cs with
  | some word => some (word.map fun _ => true)
  | none => (Token.superWord.take? cs).map (·.map fun _ => false)

mutual

/-- One type, blanks before it left out (`parse_type`). -/
def readType (cs : List Char) : Except Fault (Taken TypeExpr cs) :=
  match Token.unknownType.take? cs with
  | some token => .ok (token.map fun _ => .unknown)
  | none =>
    match Token.questionMark.take? cs with
    | some mark =>
      match boundWord? mark.rest with
      | none => .ok (mark.map fun _ => .wildcard true)
      | some word => do
        let bound ← readType word.rest
        .ok (mark.followedBy (word.followedBy (bound.map (.bounded word.value ·))))
    | none => do
      let name ← readName cs
      match Token.openAngle.take? name.rest with
      | none =>
        let (t, left) ← readBrackets (ofName name.value) name.rest
        .ok (name.leaving t left)
      | some opened =>
        let first ← readType opened.rest
        let others ← readArgs first.rest
        let args := first.followedBy (others.map (first.value :: ·))
        let (t, left) ← readBrackets (.generic (ofName name.value) args.value) args.rest
        .ok (name.followedBy (opened.followedBy (args.leaving t left)))
termination_by cs.length
decreasing_by
  · exact Nat.lt_trans word.shorter mark.shorter
  · exact Nat.lt_trans opened.shorter name.shorter
  · exact Nat.lt_trans first.shorter (Nat.lt_trans opened.shorter name.shorter)

/-- The arguments that follow the first one, and the bracket that closes them (the loop over
arguments in `parse_type`). -/
def readArgs (cs : List Char) : Except Fault (Taken (List TypeExpr) cs) :=
  match Token.comma.take? cs with
  | some comma => do
    let first ← readType comma.rest
    let others ← readArgs first.rest
    .ok (comma.followedBy (first.followedBy (others.map (first.value :: ·))))
  | none =>
    match Token.closeAngle.take? cs with
    | some closed => .ok (closed.map fun _ => [])
    | none => .error ⟨.closingAngle, Text.skipBlanks cs⟩
termination_by cs.length
decreasing_by
  · exact comma.shorter
  · exact Nat.lt_trans first.shorter comma.shorter

end

/-! ## Whole texts -/

/-- The length of a text in bytes of UTF-8. -/
def byteLength (cs : List Char) : Nat :=
  cs.foldl (fun n c => n + c.utf8Size) 0

/-- A text that is one type and nothing else, up to blanks around it (`from_str`). -/
def readAll (cs : List Char) : Except Fault TypeExpr := do
  let t ← readType cs
  match Text.skipBlanks t.rest with
  | [] => .ok t.value
  | rest => .error ⟨.endOfText, rest⟩

/-- The type that a text denotes (`TypeRef::from_str`). -/
def parse (text : String) : Except ParseError TypeExpr :=
  (readAll text.toList).mapError fun fault =>
    ⟨text, fault.wanted, byteLength text.toList - byteLength fault.rest⟩

end TypeExpr

end Referent
