import TableSelection.Text.CellRuns

/-!
# Characters that join in a terminal

A few sequences of characters take fewer cells than their characters do: letters of some scripts run
together, and a picture can be made of several characters. Sequences are read from the end of a
line: `Follower` says what follows a character, as far as the two can join, and `Follower.join?` says what
a character takes that joins what follows it.
-/

namespace TableSelection.Text

/-! ## Classes of characters -/

/-- The joiner that makes one shape of two. -/
def isJoiner (c : Char) : Bool := c.toNat == 0x200D

/-- The marks that are not shown. They stand within a sequence without parting it. -/
def isUnseenMark (c : Char) : Bool :=
  inRuns [(0x34F, 0x34F), (0x17B4, 0x17B5), (0x180B, 0x180D), (0x180F, 0x180F), (0xFE00, 0xFE0F),
    (0xE0100, 0xE01EF)] c

/-- The five modifiers for skin tones. -/
def isSkinTone (c : Char) : Bool := 0x1F3FB ≤ c.toNat && c.toNat ≤ 0x1F3FF

/-- The letters with which flags are spelled. -/
def isFlagLetter (c : Char) : Bool := 0x1F1E6 ≤ c.toNat && c.toNat ≤ 0x1F1FF

/-- The letters of the tags that follow a flag. -/
def isTagLetter (c : Char) : Bool := 0xE0061 ≤ c.toNat && c.toNat ≤ 0xE007A

/-- The digits of the tags that follow a flag. -/
def isTagDigit (c : Char) : Bool := 0xE0030 ≤ c.toNat && c.toNat ≤ 0xE0039

/-- The forms of the Arabic letter lam. -/
def isLam (c : Char) : Bool :=
  inRuns [(0x644, 0x644), (0x6B5, 0x6B8), (0x76A, 0x76A), (0x8A6, 0x8A6), (0x8C7, 0x8C7)] c

/-- The forms of the Arabic letter alef. -/
def isAlef (c : Char) : Bool :=
  inRuns [(0x622, 0x623), (0x625, 0x625), (0x627, 0x627), (0x671, 0x673), (0x675, 0x675),
    (0x773, 0x774), (0x870, 0x882)] c

/-- The Khmer letters that are written below the letter before them, without a cell of their own,
when the sign coeng stands between the two. -/
def isCoengLetter (c : Char) : Bool :=
  inRuns [(0x1780, 0x1782), (0x1784, 0x1787), (0x1789, 0x178C), (0x178E, 0x1793), (0x1795, 0x1798),
    (0x179B, 0x179D), (0x17A0, 0x17A0), (0x17A2, 0x17A2), (0x17A7, 0x17A7), (0x17AB, 0x17AC),
    (0x17AF, 0x17AF)] c

/-- The consonants of Tifinagh. -/
def isTifinaghConsonant (c : Char) : Bool := inRuns [(0x2D31, 0x2D65), (0x2D6F, 0x2D6F)] c

/-- The pictures that a selector turns into text of one cell. -/
def isTextual (c : Char) : Bool :=
  inRuns selectableRuns c && inRuns pictureRuns c && !inRuns [(0x1F200, 0x1F2FF)] c

/-- The quotation marks that a selector widens. -/
def isQuotation (c : Char) : Bool := inRuns [(0x2018, 0x2019), (0x201C, 0x201D)] c

/-! ## What follows a character -/

/-- What follows a character, as far as the two can join. -/
inductive Follower
  /-- Nothing that joins. -/
  | other
  /-- The Arabic letter alef, which joins a lam. -/
  | alef
  /-- The Hebrew letter lamed, perhaps behind a joiner, which joins an alef. -/
  | lamed (joined : Bool)
  /-- A Khmer letter that can be written below another. -/
  | coengLetter
  /-- The Buginese letter ya, perhaps behind a joiner. -/
  | ya (joined : Bool)
  /-- The Buginese letter ya with joiner and vowel. -/
  | yaWithVowel
  /-- A consonant of Tifinagh, perhaps behind a joiner. -/
  | tifinagh (joined : Bool)
  /-- A consonant of Tifinagh behind the joining sign of that script. -/
  | tifinaghWithSign
  /-- The second part of a tone letter of Lisu. -/
  | lisuTone
  /-- The Old Turkic letter I, perhaps behind a joiner. -/
  | orkhonI (joined : Bool)
  /-- The last part of a vowel sign of Kirat Rai. -/
  | kiratE
  /-- Two such parts. -/
  | kiratAi
  /-- A modifier for the skin tone. -/
  | skinTone
  /-- One letter of a flag. -/
  | flagLetter
  /-- Several letters of flags. -/
  | flagLetters
  /-- A picture. -/
  | picture
  /-- A picture behind a joiner. -/
  | joinedPicture
  /-- The frame of a key, and a picture behind a joiner. -/
  | joinedKey
  /-- Letters of flags, and a picture behind a joiner. -/
  | joinedFlag (letters : Nat)
  /-- Tags of a flag, and a picture behind a joiner: letters, or digits. -/
  | joinedTags (letters digits : Nat)
  deriving DecidableEq, Repr

namespace Follower

/-- What a character is for the one before it. -/
def ofChar (c : Char) : Follower :=
  let n := c.toNat
  if n < 0x5DC then .other
  else if n = 0x5DC then .lamed false
  else if isAlef c then .alef
  else if isCoengLetter c then .coengLetter
  else if n = 0x1A10 then .ya false
  else if isTifinaghConsonant c then .tifinagh false
  else if n = 0xA4FC ∨ n = 0xA4FD then .lisuTone
  else if n = 0x10C03 then .orkhonI false
  else if n = 0x16D67 then .kiratE
  else if n = 0x16D68 then .kiratAi
  else if isFlagLetter c then .flagLetter
  else if isSkinTone c then .skinTone
  else if inRuns pictureRuns c then .picture
  else .other

/-- Whether letters of a script join here, also past a selector. The vowel signs of Kirat Rai do not
join past one. -/
def isScript : Follower → Bool
  | alef | lamed _ | coengLetter | ya _ | yaWithVowel | tifinagh _ | tifinaghWithSign | lisuTone
  | orkhonI _ => true
  | _ => false

/-- Whether a joiner and unseen marks may stand before it without parting it from a letter. -/
def passesMarks (f : Follower) : Bool := f.isScript && f != alef

/-- Whether a joiner waits for a picture before it that a selector makes. -/
def isJoined : Follower → Bool
  | joinedPicture | joinedKey => true
  | _ => false

/-- The same behind a joiner, for letters of a script. -/
def behindJoiner : Follower → Follower
  | lamed _ => lamed true
  | ya _ => ya true
  | tifinagh _ => tifinagh true
  | orkhonI _ => orkhonI true
  | f => f

/-- A character that joins what follows it: the cells that it adds, and what the two are for the
character before them. It takes cells away where the follower alone takes too many. -/
def join? (f : Follower) (c : Char) : Option (Int × Follower) :=
  let n := c.toNat
  match f with
  | alef =>
      if isLam c then some (0, other)
      else if inRuns transparentRuns c then some (0, alef)
      else none
  | lamed true => if n = 0x5D0 then some (0, other) else none
  | coengLetter => if n = 0x17D2 then some (-1, other) else none
  | ya true => if n = 0x1A17 then some (0, yaWithVowel) else none
  | yaWithVowel => if n = 0x1A15 then some (0, other) else none
  | tifinagh joined =>
      if n = 0x2D7F then some (1, tifinaghWithSign)
      else if joined && isTifinaghConsonant c then some (0, other)
      else none
  | tifinaghWithSign => if isTifinaghConsonant c then some (-1, other) else none
  | lisuTone => if 0xA4F8 ≤ n ∧ n ≤ 0xA4FB then some (0, other) else none
  | orkhonI true => if n = 0x10C32 then some (0, other) else none
  | kiratE =>
      if n = 0x16D63 ∨ n = 0x16D69 then some (0, other)
      else if n = 0x16D67 then some (0, kiratAi)
      else if n = 0x16D68 then some (1, kiratE)
      else none
  | kiratAi => if n = 0x16D63 then some (0, other) else none
  | skinTone =>
      if inRuns tonedRuns c then some (0, picture)
      else if isJoiner c then some (0, joinedPicture)
      else none
  | flagLetter => if isFlagLetter c then some (1, flagLetters) else none
  | flagLetters =>
      if isFlagLetter c then some (1, flagLetters)
      else if isJoiner c then some (0, joinedPicture)
      else none
  | picture => if isJoiner c then some (0, joinedPicture) else none
  | joinedPicture =>
      if n = 0x20E3 then some (0, joinedKey)
      else if isFlagLetter c then some (1, joinedFlag 1)
      else if isSkinTone c then some (0, skinTone)
      else if n = 0xE007F then some (0, joinedTags 0 0)
      else if inRuns pictureRuns c then some (0, picture)
      else none
  | joinedFlag letters =>
      if isFlagLetter c then some (if letters % 2 = 1 then -1 else 3, joinedFlag (letters + 1))
      else if isJoiner c ∧ 2 ≤ letters then some (0, joinedPicture)
      else none
  | joinedTags letters digits =>
      if isTagLetter c ∧ digits = 0 ∧ letters < 6 then some (0, joinedTags (letters + 1) 0)
      else if isTagDigit c ∧ letters ≤ 4 ∧ digits < 3 then some (0, joinedTags 0 (digits + 1))
      else if n = 0x1F3F4 ∧ (3 ≤ letters ∨ digits = 3) then some (0, picture)
      else none
  | _ => none

end Follower

end TableSelection.Text
