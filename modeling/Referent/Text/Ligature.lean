import Referent.Text.CharWidth

/-!
# Ligatures of a script

Letters of several scripts are drawn as one sign when they meet, and then take fewer columns than
they do apart. A line is looked at from its end: a `Ligature` is the part that has been met, and it
waits for the character in front of it.

* `Ligature.ofChar?` — the ligatures that a character can end.
* `Ligature.across?` — marks and joiners that a waiting part looks through.
* `Ligature.meet?` — the character that a part waits for, its columns, and what still waits.
-/

namespace Referent.Text

/-! ## Marks between letters -/

/-- The joiner of no width. -/
def joiner : Char := '\u200D'

/-- Marks that are ignored by default, in ascending order. -/
def ignorableMarkRanges : List CodeRange :=
  [(0x34F, 0x34F), (0x17B4, 0x17B5), (0x180B, 0x180D), (0x180F, 0x180F), (0xFE00, 0xFE0F),
   (0xE0100, 0xE01EF)]

/-- The character is a mark that is ignored by default. -/
def isIgnorableMark (c : Char) : Bool :=
  inRanges ignorableMarkRanges c

/-- Characters of no column that keep Arabic letters apart: they are no marks, or do not let a
letter join across them. In ascending order. -/
def severingRanges : List CodeRange :=
  [(0x605, 0x605), (0x890, 0x891), (0x8E2, 0x8E2), (0x9BE, 0x9BE), (0x9D7, 0x9D7), (0xB3E, 0xB3E),
   (0xB57, 0xB57), (0xBBE, 0xBBE), (0xBD7, 0xBD7), (0xCC0, 0xCC0), (0xCC2, 0xCC2), (0xCC7, 0xCC8),
   (0xCCA, 0xCCB), (0xCD5, 0xCD6), (0xD3E, 0xD3E), (0xD4E, 0xD4E), (0xD57, 0xD57), (0xDCF, 0xDCF),
   (0xDDF, 0xDDF), (0x1160, 0x11FF), (0x1715, 0x1715), (0x1734, 0x1734), (0x180E, 0x180E),
   (0x1B35, 0x1B35), (0x1B3B, 0x1B3B), (0x1B3D, 0x1B3D), (0x1B43, 0x1B44), (0x1BAA, 0x1BAA),
   (0x1BF2, 0x1BF3), (0x200C, 0x200D), (0x2065, 0x2069), (0x302E, 0x302F), (0x3164, 0x3164),
   (0xA8FA, 0xA8FA), (0xA953, 0xA953), (0xA9C0, 0xA9C0), (0xD7B0, 0xD7C6), (0xD7CB, 0xD7FB),
   (0xFFA0, 0xFFA0), (0xFFF0, 0xFFF8), (0x111C0, 0x111C0), (0x111C2, 0x111C3), (0x11235, 0x11235),
   (0x1133E, 0x1133E), (0x1134D, 0x1134D), (0x11357, 0x11357), (0x113B8, 0x113B8),
   (0x113C2, 0x113C2), (0x113C5, 0x113C5), (0x113C7, 0x113C9), (0x113CF, 0x113CF),
   (0x113D1, 0x113D1), (0x114B0, 0x114B0), (0x114BD, 0x114BD), (0x115AF, 0x115AF),
   (0x116B6, 0x116B6), (0x11930, 0x11930), (0x1193D, 0x1193D), (0x1193F, 0x1193F),
   (0x11941, 0x11941), (0x11A84, 0x11A89), (0x11D46, 0x11D46), (0x11F02, 0x11F02),
   (0x11F41, 0x11F41), (0x16FF0, 0x16FF1), (0x1D165, 0x1D166), (0x1D16D, 0x1D172),
   (0x1D250, 0x1D252), (0x1D25F, 0x1D25F), (0x1D280, 0x1D281), (0xE0000, 0xE0000),
   (0xE0002, 0xE001F), (0xE0080, 0xE00FF), (0xE01F0, 0xE0FFF)]

/-- The character takes no column, and Arabic letters join across it. -/
def isTransparent (c : Char) : Bool :=
  charColumns c == 0 && !inRanges severingRanges c

/-! ## Letters -/

/-- An Arabic letter of the group of alef. -/
def isAlef (c : Char) : Bool :=
  inRanges [(0x622, 0x623), (0x625, 0x625), (0x627, 0x627), (0x671, 0x673), (0x675, 0x675),
    (0x773, 0x774), (0x870, 0x882)] c

/-- An Arabic letter of the group of lam. -/
def isLam (c : Char) : Bool :=
  inRanges [(0x644, 0x644), (0x6B5, 0x6B8), (0x76A, 0x76A), (0x8A6, 0x8A6), (0x8C7, 0x8C7)] c

/-- A consonant of Tifinagh. -/
def isTifinagh (c : Char) : Bool :=
  inRanges [(0x2D31, 0x2D65), (0x2D6F, 0x2D6F)] c

/-- One of the first four tone letters of Lisu. -/
def isFirstTone (c : Char) : Bool :=
  0xA4F8 ≤ c.toNat && c.toNat ≤ 0xA4FB

/-- One of the last two tone letters of Lisu. -/
def isLastTone (c : Char) : Bool :=
  0xA4FC ≤ c.toNat && c.toNat ≤ 0xA4FD

/-- Khmer letters whose form under another letter does not reach beyond it, in ascending order. -/
def coengRanges : List CodeRange :=
  [(0x1780, 0x1782), (0x1784, 0x1787), (0x1789, 0x178C), (0x178E, 0x1793), (0x1795, 0x1798),
   (0x179B, 0x179D), (0x17A0, 0x17A0), (0x17A2, 0x17A2), (0x17A7, 0x17A7), (0x17AB, 0x17AC),
   (0x17AF, 0x17AF)]

/-! ## Waiting parts -/

/-- The end of a ligature that waits for the character in front of it. For some a joiner has to
stand between. -/
inductive Ligature where
  | arabicAlef
  | hebrewLamed (joined : Bool)
  | bugineseYa (joined : Bool)
  | bugineseVowelYa
  | tifinagh (joined : Bool)
  | tifinaghJoiner
  | lisuTone
  | turkicI (joined : Bool)
  | khmerLetter
  deriving DecidableEq, Repr

namespace Ligature

/-- The ligature that a character may be the end of. -/
def ofChar? (c : Char) : Option Ligature :=
  if isAlef c then some .arabicAlef
  else if c.toNat = 0x5DC then some (.hebrewLamed false)
  else if c.toNat = 0x1A10 then some (.bugineseYa false)
  else if isTifinagh c then some (.tifinagh false)
  else if isLastTone c then some .lisuTone
  else if c.toNat = 0x10C03 then some (.turkicI false)
  else if inRanges coengRanges c then some .khmerLetter
  else none

/-- The part with a joiner in front of it. -/
def join : Ligature → Ligature
  | .hebrewLamed _ => .hebrewLamed true
  | .bugineseYa _ => .bugineseYa true
  | .tifinagh _ => .tifinagh true
  | .turkicI _ => .turkicI true
  | l => l

/-- The part that still waits behind a character that it looks through. Arabic letters meet only
across marks that are transparent to them. -/
def across? (c : Char) : Ligature → Option Ligature
  | .arabicAlef => if isTransparent c && !isLam c then some .arabicAlef else none
  | l => if c = joiner then some l.join else if isIgnorableMark c then some l else none

/-- What happens when a part meets a character that it waits for: the columns that the character
adds, and the part that waits on. A character that vanishes with a column of the part adds `-1`. -/
def meet? (c : Char) : Ligature → Option (Int × Option Ligature)
  | .arabicAlef => if isLam c then some (0, none) else none
  | .hebrewLamed joined => if joined && c.toNat == 0x5D0 then some (0, none) else none
  | .bugineseYa joined =>
    if joined && c.toNat == 0x1A17 then some (0, some .bugineseVowelYa) else none
  | .bugineseVowelYa => if c.toNat = 0x1A15 then some (0, none) else none
  | .tifinagh joined =>
    if c.toNat = 0x2D7F then some (1, some .tifinaghJoiner)
    else if joined && isTifinagh c then some (0, none)
    else none
  | .tifinaghJoiner => if isTifinagh c then some (-1, none) else none
  | .lisuTone => if isFirstTone c then some (0, none) else none
  | .turkicI joined => if joined && c.toNat == 0x10C32 then some (0, none) else none
  | .khmerLetter => if c.toNat = 0x17D2 then some (-1, none) else none

end Ligature

end Referent.Text
