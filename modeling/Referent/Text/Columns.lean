import Referent.Text.Emoji
import Referent.Text.Ligature

/-!
# Columns of a line

How many columns of a terminal a line of text takes. Most characters count by themselves, but some
are drawn as one sign with what stands behind them: emoji joined to others, with a skin tone or as a
flag, characters before a variation selector, ligatures of a script, and the two characters of a
line break. A line is therefore counted from its end, and each character is told what stands behind
it.

* `Behind` — what stands behind a character, as far as it matters.
* `place` — the columns that a character adds, and what then stands behind the next one.
* `columns` — the columns of a line.
-/

namespace Referent.Text

/-! ## What stands behind a character -/

/-- How a character is to be drawn, as a selector behind it says. -/
inductive Selector where
  | emoji
  | text
  /-- A quotation mark of two columns. -/
  | wide
  deriving DecidableEq, Repr

namespace Selector

/-- The selector that a character is. -/
def ofChar? (c : Char) : Option Selector :=
  if c.toNat = 0xFE0F then some .emoji
  else if c.toNat = 0xFE0E then some .text
  else if c.toNat = 0xFE01 then some .wide
  else none

end Selector

/-- What stands behind a character, selectors apart. -/
inductive Follower where
  | plain
  | lineFeed
  /-- An emoji, perhaps of several characters. -/
  | emoji
  | modifier
  /-- So many regional indicators, with or without an emoji joined behind them. -/
  | indicators (joined : Bool) (count : Nat)
  /-- A joiner with an emoji behind it. -/
  | joiner
  /-- The mark of a keycap with an emoji joined behind it. -/
  | keycap
  /-- The tags that end the spelling of a region, digits before letters, with an emoji joined
  behind them. -/
  | tags (digits letters : Nat)
  /-- The Kirat Rai vowel sign e. -/
  | vowelE
  /-- The Kirat Rai vowel sign ai. -/
  | vowelAi
  | ligature (part : Ligature)
  deriving DecidableEq, Repr

namespace Follower

/-- What a character is to the one in front of it. -/
def ofChar (c : Char) : Follower :=
  if c = '\n' then .lineFeed
  else if isIndicator c then .indicators false 1
  else if isModifier c then .modifier
  else if isEmoji c then .emoji
  else if c.toNat = 0x16D67 then .vowelE
  else if c.toNat = 0x16D68 then .vowelAi
  else ((Ligature.ofChar? c).map .ligature).getD .plain

/-- A joiner in front ties what stands there to an emoji: it is one, or begins with a flag. -/
def isJoinable : Follower → Bool
  | .emoji | .modifier => true
  | .indicators _ count => 2 ≤ count
  | _ => false

end Follower

/-- What stands behind a character. -/
structure Behind where
  follower : Follower
  /-- The selectors between the character and what follows, the nearest first. -/
  selectors : List Selector
  deriving DecidableEq, Repr

namespace Behind

/-- Something without a selector in front. -/
def just (f : Follower) : Behind :=
  ⟨f, []⟩

/-- A selector put in front. Ligatures look through it, and an emoji stays joined only to one that
the selector makes; all else is cut off. -/
def select (s : Selector) (b : Behind) : Behind :=
  match b.follower, s with
  | .ligature _, _ => ⟨b.follower, s :: b.selectors⟩
  | .joiner, .emoji | .keycap, .emoji => ⟨b.follower, [s]⟩
  | _, _ => ⟨.plain, [s]⟩

/-- The emoji selector taken away, as it found no use. Only a ligature outlasts it. -/
def withoutEmoji (b : Behind) : Behind :=
  match b.follower with
  | .ligature _ => ⟨b.follower, b.selectors.filter (· != .emoji)⟩
  | _ => .just .plain

/-- What is left once no selector has found a use. Only a ligature outlasts them. -/
def unselected (b : Behind) : Follower :=
  match b.selectors, b.follower with
  | [], f => f
  | _ :: _, .ligature part => .ligature part
  | _ :: _, _ => .plain

end Behind

/-! ## One character -/

/-- A quotation mark that a selector can widen. -/
def isWidenable (c : Char) : Bool :=
  inRanges [(0x2018, 0x2019), (0x201C, 0x201D)] c

/-- A character of the first block: a line break of two characters is as wide as one. -/
def placeBasic (c : Char) (f : Follower) : Int × Follower :=
  if c = '\r' ∧ f = .lineFeed then (0, .plain)
  else (1, if c = '\n' then .lineFeed else .plain)

/-- The spelling of a region with one more tag in front, if it can go on so. A region is spelled by
three to six letters, or by three digits and at most four letters. -/
def spell? (digits letters : Nat) (c : Char) : Option Follower :=
  if isTagLetter c && digits == 0 && letters < 6 then some (.tags 0 (letters + 1))
  else if isTagDigit c && (if digits = 0 then letters ≤ 4 else digits < 3) then
    some (.tags (digits + 1) letters)
  else if c = blackFlag && (digits == 3 || digits == 0 && 3 ≤ letters) then some .emoji
  else none

/-- The character that an emoji is joined to. -/
def joined? (c : Char) : Option (Int × Follower) :=
  if c = keycap then some (0, .keycap)
  else if isIndicator c then some (1, .indicators true 1)
  else if isModifier c then some (0, .modifier)
  else if c = tagEnd then some (0, .tags 0 0)
  else if isEmoji c then some (0, .emoji)
  else none

/-- One more regional indicator in front of `count` others. With an emoji joined behind them the
last two are one sign with it, and the first of an odd number stands alone. -/
def indicated (joined : Bool) (count : Nat) : Int × Follower :=
  (if !joined then 1 else if count % 2 = 1 then -1 else 3, .indicators joined (count + 1))

/-- The character drawn as one sign with what follows, if it can be. -/
def merged? (c : Char) (f : Follower) : Option (Int × Follower) :=
  if c = joiner && f.isJoinable then some (0, .joiner)
  else
    match f with
    | .modifier => if isModifierBase c then some (0, .emoji) else none
    | .indicators joined count => if isIndicator c then some (indicated joined count) else none
    | .joiner => joined? c
    | .tags digits letters => (spell? digits letters c).map fun f => (0, f)
    | .vowelE =>
      match c.toNat with
      | 0x16D63 | 0x16D69 => some (0, .plain)
      | 0x16D67 => some (0, .vowelAi)
      | 0x16D68 => some (1, .vowelE)
      | _ => none
    | .vowelAi => if c.toNat = 0x16D63 then some (0, .plain) else none
    | .ligature part =>
      match part.across? c with
      | some part => some (0, .ligature part)
      | none =>
        (part.meet? c).map fun (width, rest) => (width, (rest.map .ligature).getD .plain)
    | .plain | .lineFeed | .emoji | .keycap => none

/-- The character by itself. -/
def alone (c : Char) : Int × Follower :=
  (charColumns c, .ofChar c)

/-- A character as a selector for text or for two columns wants it, if it can be so, and otherwise
drawn with what follows. -/
def presented (c : Char) (b : Behind) : Int × Follower :=
  if .text ∈ b.selectors ∧ isTextSelectable c then (1, .plain)
  else if .wide ∈ b.selectors ∧ isWidenable c then (2, .plain)
  else (merged? c b.unselected).getD (alone c)

/-- A character that is not made an emoji by a selector. -/
def placeOrdinary (c : Char) (b : Behind) : Int × Behind :=
  if c.toNat ≤ 0xA0 then (placeBasic c b.follower).map id .just
  else
    match Selector.ofChar? c with
    | some s => (0, b.select s)
    | none => (presented c b).map id .just

/-- The columns that a character adds to what stands behind it, and what then stands behind the
character in front of it. -/
def place (c : Char) (b : Behind) : Int × Behind :=
  if .emoji ∈ b.selectors then
    if isSelectable c then
      (if b.follower = .joiner ∨ b.follower = .keycap then 0 else 2, .just .emoji)
    else placeOrdinary c b.withoutEmoji
  else placeOrdinary c b

/-! ## A line -/

/-- The columns of characters, and what stands at their front. -/
def measure : List Char → Int × Behind
  | [] => (0, .just .plain)
  | c :: cs =>
    let (sum, behind) := measure cs
    let (width, b) := place c behind
    (sum + width, b)

/-- The columns that a line of text takes. -/
def columns (text : String) : Nat :=
  (measure text.toList).1.toNat

end Referent.Text
