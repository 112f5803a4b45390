import Referent.Json.Basic
import Referent.Json.Double
import Referent.Text.Taken

/-!
# JSON text: reading

`Json.read` reads any text. What is not JSON shows as `Json.broken` at the place of the fault, with
everything before it intact; text after a whole value is told apart by `Document.ended`.

* `readText` — the rest of a string after its opening quote.
* `readNumber` — a number, told apart into natural numbers and others.
* `readWord` — one of the words `null`, `true` and `false`.
* `readValue`, `readItems`, `readFields` — values, and what an array or object holds.
-/

namespace Referent.Json

open Referent.Text (Left Taken strip? length_lt_of_strip?)

/-! ## Space -/

/-- A character that may stand between tokens. -/
def isSpace (c : Char) : Bool :=
  c == ' ' || c == '\n' || c == '\t' || c == '\r'

/-- The text without the spaces at its front. -/
def skipSpace (cs : List Char) : List Char :=
  cs.dropWhile isSpace

theorem length_skipSpace_le (cs : List Char) : (skipSpace cs).length ≤ cs.length :=
  (List.dropWhile_sublist isSpace).length_le

theorem length_lt_of_skipSpace {cs rest : List Char} {c : Char} (h : skipSpace cs = c :: rest) :
    rest.length < cs.length := by
  have h₁ := length_skipSpace_le cs
  rw [h, List.length_cons] at h₁
  omega

/-! ## Strings -/

/-- A part of a string: a character, or a code unit given by its number. -/
inductive Piece where
  | char (c : Char)
  | unit (n : Nat)
  deriving DecidableEq, Repr

/-- The value of a hexadecimal digit. -/
def hexValue? (c : Char) : Option Nat :=
  if c.isDigit then some (c.toNat - '0'.toNat)
  else if 'a' ≤ c ∧ c ≤ 'f' then some (c.toNat - 'a'.toNat + 10)
  else if 'A' ≤ c ∧ c ≤ 'F' then some (c.toNat - 'A'.toNat + 10)
  else none

/-- The number that four hexadecimal digits write. -/
def hexUnit? (a b c d : Char) : Option Nat := do
  return (((← hexValue? a) * 16 + (← hexValue? b)) * 16 + (← hexValue? c)) * 16 + (← hexValue? d)

/-- The character that a backslash and a letter stand for. -/
def escape? : Char → Option Char
  | '"' => some '"'
  | '\\' => some '\\'
  | '/' => some '/'
  | 'b' => some '\x08'
  | 'f' => some '\x0c'
  | 'n' => some '\n'
  | 'r' => some '\r'
  | 't' => some '\t'
  | _ => none

/-- The parts of a string up to its closing quote. -/
def readPieces : List Char → Option (List Piece × List Char)
  | [] => none
  | '"' :: rest => some ([], rest)
  | '\\' :: 'u' :: a :: b :: c :: d :: rest => do
    let n ← hexUnit? a b c d
    let (pieces, after) ← readPieces rest
    return (.unit n :: pieces, after)
  | '\\' :: e :: rest => do
    let c ← escape? e
    let (pieces, after) ← readPieces rest
    return (.char c :: pieces, after)
  | c :: rest =>
    if c.toNat < 0x20 ∨ c = '\\' then none
    else do
      let (pieces, after) ← readPieces rest
      return (.char c :: pieces, after)

theorem length_of_readPieces {cs rest : List Char} {pieces : List Piece}
    (h : readPieces cs = some (pieces, rest)) : rest.length < cs.length := by
  induction cs using readPieces.induct generalizing pieces with
  | case1 => simp [readPieces] at h
  | case2 tail =>
    simp only [readPieces, Option.some.injEq, Prod.mk.injEq] at h
    simp [h.2]
  | case3 a b c d tail ih =>
    simp only [readPieces, Option.bind_eq_bind, Option.bind_eq_some_iff, Option.pure_def,
      Option.some.injEq, Prod.mk.injEq] at h
    obtain ⟨n, _, ⟨ps, r⟩, hr, _, rfl⟩ := h
    have hlt : r.length < tail.length := ih hr
    simp only [List.length_cons]
    omega
  | case4 e tail hne ih =>
    rw [readPieces] at h
    · simp only [Option.bind_eq_bind, Option.bind_eq_some_iff, Option.pure_def,
        Option.some.injEq, Prod.mk.injEq] at h
      obtain ⟨n, _, ⟨ps, r⟩, hr, _, rfl⟩ := h
      have hlt : r.length < tail.length := ih hr
      simp only [List.length_cons]
      omega
    · exact hne
  | case5 c tail h₁ h₂ h₃ hstop =>
    rw [readPieces] at h
    · simp [hstop] at h
    all_goals assumption
  | case6 c tail h₁ h₂ h₃ hgo ih =>
    rw [readPieces] at h
    · simp only [hgo, if_false, Option.bind_eq_bind, Option.bind_eq_some_iff, Option.pure_def,
        Option.some.injEq, Prod.mk.injEq] at h
      obtain ⟨⟨ps, r⟩, hr, _, rfl⟩ := h
      have hlt : r.length < tail.length := ih hr
      simp only [List.length_cons]
      omega
    all_goals assumption

/-- The characters that the parts make up; none if half a surrogate pair stands alone. -/
def joinPieces : List Piece → Option (List Char)
  | [] => some []
  | .char c :: ps => (joinPieces ps).map (c :: ·)
  | .unit n :: .unit m :: ps =>
    if 0xD800 ≤ n ∧ n < 0xDC00 ∧ 0xDC00 ≤ m ∧ m < 0xE000 then
      (joinPieces ps).map (Char.ofNat (0x10000 + (n - 0xD800) * 0x400 + (m - 0xDC00)) :: ·)
    else if 0xD800 ≤ n ∧ n < 0xE000 then none
    else (joinPieces (.unit m :: ps)).map (Char.ofNat n :: ·)
  | .unit n :: ps =>
    if 0xD800 ≤ n ∧ n < 0xE000 then none else (joinPieces ps).map (Char.ofNat n :: ·)

/-- A string after its opening quote; its value is none if half a surrogate pair stands alone. -/
def readText (cs : List Char) : Option (Taken (Option String) cs) :=
  match h : readPieces cs with
  | none => none
  | some (pieces, rest) =>
    some ⟨(joinPieces pieces).map String.ofList, rest, length_of_readPieces h⟩

/-! ## Numbers -/

/-- The number that decimal digits write. -/
def digitsValue (digits : List Char) : Nat :=
  digits.foldl (fun n d => n * 10 + Double.digitValue d) 0

/-- A number split into what its digits say. -/
structure NumberParts where
  negative : Bool
  whole : List Char
  /-- The digits after the point. -/
  fraction : Option (List Char)
  exponent : Option Int

/-- The value that the parts write: a natural number only if it is digits alone. -/
def NumberParts.value (p : NumberParts) (literal : String) : Json :=
  if Double.isFinite p.whole (p.fraction.getD []) (p.exponent.getD 0) then
    if p.negative || p.fraction.isSome || p.exponent.isSome then .decimal literal
    else .natural (digitsValue p.whole)
  else .unheld

/-- At least one digit, and the text after the last one. -/
def readDigits (cs : List Char) : Option (Taken (List Char) cs) :=
  Text.run? Char.isDigit cs

/-- The digits before the point: no zero stands in front of another digit. -/
def readWhole (cs : List Char) : Option (Taken (List Char) cs) := do
  let digits ← readDigits cs
  if digits.value.head? = some '0' ∧ digits.value.length ≠ 1 then none else some digits

/-- A point with digits after it, if there is a point. -/
def readFraction : (cs : List Char) → Option (Option (List Char) × Left cs)
  | '.' :: cs => do
    let digits ← readDigits cs
    return (some digits.value, digits.left.behind '.')
  | cs => some (none, Left.all cs)

/-- The digits of an exponent after its sign. -/
def readExponentDigits (negative : Bool) (cs : List Char) : Option (Taken Int cs) := do
  let digits ← readDigits cs
  let n : Int := digitsValue digits.value
  return digits.map fun _ => if negative then -n else n

/-- The exponent after its letter. -/
def readSignedExponent : (cs : List Char) → Option (Taken Int cs)
  | '+' :: cs => (readExponentDigits false cs).map (·.behind '+')
  | '-' :: cs => (readExponentDigits true cs).map (·.behind '-')
  | cs => readExponentDigits false cs

/-- An exponent, if there is one. -/
def readExponent : (cs : List Char) → Option (Option Int × Left cs)
  | c :: cs =>
    if c = 'e' ∨ c = 'E' then do
      let exponent ← readSignedExponent cs
      return (some exponent.value, exponent.left.behind c)
    else some (none, Left.all (c :: cs))
  | [] => some (none, Left.all [])

/-- A number without its sign. -/
def readUnsigned (negative : Bool) (cs : List Char) : Option (Taken NumberParts cs) := do
  let whole ← readWhole cs
  let (fraction, afterFraction) ← readFraction whole.rest
  let upToFraction := whole.leaving fraction afterFraction
  let (exponent, left) ← readExponent upToFraction.rest
  return upToFraction.leaving ⟨negative, whole.value, fraction, exponent⟩ left

/-- A number with or without a sign. -/
def readSigned : (cs : List Char) → Option (Taken NumberParts cs)
  | '-' :: cs => (readUnsigned true cs).map (·.behind '-')
  | cs => readUnsigned false cs

/-- A number. -/
def readNumber (cs : List Char) : Option (Taken Json cs) := do
  let parts ← readSigned cs
  let literal := cs.take (cs.length - parts.rest.length)
  return parts.map (·.value (String.ofList literal))

/-! ## Words -/

/-- The words that stand for values. -/
inductive Word where
  | nullWord
  | trueWord
  | falseWord
  deriving DecidableEq, Repr

namespace Word

/-- How the word is written. -/
def spelling : Word → List Char
  | .nullWord => ['n', 'u', 'l', 'l']
  | .trueWord => ['t', 'r', 'u', 'e']
  | .falseWord => ['f', 'a', 'l', 's', 'e']

/-- The value that the word stands for. -/
def value : Word → Json
  | .nullWord => .null
  | .trueWord => .bool true
  | .falseWord => .bool false

theorem spelling_ne_nil (word : Word) : word.spelling ≠ [] := by
  cases word <;> decide

/-- The value of the word, if the text starts with it. -/
def take? (word : Word) (cs : List Char) : Option (Taken Json cs) :=
  match h : strip? word.spelling cs with
  | some rest => some ⟨word.value, rest, length_lt_of_strip? word.spelling_ne_nil h⟩
  | none => none

end Word

/-- A word that stands for a value. -/
def readWord (cs : List Char) : Option (Taken Json cs) :=
  [Word.nullWord, .trueWord, .falseWord].findSome? (·.take? cs)

/-! ## Values -/

/-- What reading gives: something whole with the shorter text after it, or, where the text breaks
off, as much as stands before the fault and the fault itself. -/
inductive Reading (α : Type) (cs : List Char) where
  | whole (value : α) (rest : List Char) (shorter : rest.length < cs.length)
  | torn (value : α)

/-- The result of reading a longer text that ends the same way, with more read at its front. -/
def Reading.widen {α β : Type} {cs ds : List Char} (f : α → β) (h : cs.length < ds.length) :
    Reading α cs → Reading β ds
  | .whole value rest shorter => .whole (f value) rest (Nat.lt_trans shorter h)
  | .torn value => .torn (f value)

mutual

/-- One value. -/
def readValue (cs : List Char) : Reading Json cs :=
  match hstart : skipSpace cs with
  | [] => .torn .broken
  | '"' :: tail =>
    match readText tail with
    | none => .torn .broken
    | some text =>
      .whole (text.value.elim .unheld .string) text.rest
        (Nat.lt_trans text.shorter (length_lt_of_skipSpace hstart))
  | '[' :: tail =>
    have htail := length_lt_of_skipSpace hstart
    match hfirst : skipSpace tail with
    | ']' :: rest =>
      .whole (.array []) rest (Nat.lt_trans (length_lt_of_skipSpace hfirst) htail)
    | _ => (readItems tail).widen .array htail
  | '{' :: tail =>
    have htail := length_lt_of_skipSpace hstart
    match hfirst : skipSpace tail with
    | '}' :: rest =>
      .whole (.object []) rest (Nat.lt_trans (length_lt_of_skipSpace hfirst) htail)
    | _ => (readFields tail).widen .object htail
  | c :: tail =>
    match (readWord (c :: tail)).or (readNumber (c :: tail)) with
    | none => .torn .broken
    | some taken =>
      .whole taken.value taken.rest (by
        have h₁ := length_lt_of_skipSpace hstart
        have h₂ := taken.shorter
        rw [List.length_cons] at h₂
        omega)
termination_by (cs.length, 0)

/-- The items of an array from the next one on. -/
def readItems (cs : List Char) : Reading (List Json) cs :=
  match readValue cs with
  | .torn v => .torn [v]
  | .whole v rest shorter =>
    match hnext : skipSpace rest with
    | ',' :: more =>
      have hmore := Nat.lt_trans (length_lt_of_skipSpace hnext) shorter
      (readItems more).widen (v :: ·) hmore
    | ']' :: after => .whole [v] after (Nat.lt_trans (length_lt_of_skipSpace hnext) shorter)
    | _ => .torn [v, .broken]
termination_by (cs.length, 1)

/-- The fields of an object from the next one on. -/
def readFields (cs : List Char) : Reading (List (Option String × Json)) cs :=
  match hstart : skipSpace cs with
  | '"' :: tail =>
    match readText tail with
    | none => .torn [(none, .broken)]
    | some name =>
      have hname := Nat.lt_trans name.shorter (length_lt_of_skipSpace hstart)
      match hcolon : skipSpace name.rest with
      | ':' :: inner =>
        have hinner := Nat.lt_trans (length_lt_of_skipSpace hcolon) hname
        match readValue inner with
        | .torn v => .torn [(name.value, v)]
        | .whole v rest shorter =>
          have hrest := Nat.lt_trans shorter hinner
          match hnext : skipSpace rest with
          | ',' :: more =>
            have hmore := Nat.lt_trans (length_lt_of_skipSpace hnext) hrest
            (readFields more).widen ((name.value, v) :: ·) hmore
          | '}' :: after =>
            .whole [(name.value, v)] after (Nat.lt_trans (length_lt_of_skipSpace hnext) hrest)
          | _ => .torn [(name.value, v), (none, .broken)]
      | _ => .torn [(name.value, .broken)]
  | _ => .torn [(none, .broken)]
termination_by (cs.length, 1)

end

/-- A document: its value, and whether the text ends there. -/
structure Document where
  root : Json
  ended : Bool
  deriving Inhabited

/-- The document that a text holds. -/
def read (text : String) : Document :=
  match readValue text.toList with
  | .torn v => ⟨v, true⟩
  | .whole v rest _ => ⟨v, (skipSpace rest).isEmpty⟩

end Referent.Json
