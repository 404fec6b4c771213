import KeywordValues.Text.Emoji
import KeywordValues.Text.Width.Letter

/-!
# What stands behind a place in a line

The columns that a character takes depend on what stands behind it: a lam in front of an alef, a
picture joined to the next and the first half of a flag take fewer than they do on their own.
`Behind` keeps of the characters behind a place what those in front of it may join with.
`Behind.join?` says how a character joins, and `alone` how one stands that does not.
-/

namespace KeywordValues.Text.Width

open Emoji

/-- What the characters behind a place begin with. A letter is `joined` if a joiner stands in front
of it, and a tag is known by how many letters or digits of it there are so far. -/
inductive Behind where
  | other
  | alef
  | lamed (joined : Bool)
  | khmerLetter
  | bugineseYa (joined : Bool)
  | bugineseVowel
  | tifinaghLetter (joined : Bool)
  | tifinaghJoiner
  | lisuTone
  | orkhonI (joined : Bool)
  | kiratRaiE
  | kiratRaiAi
  | modifier
  | flagLetter
  | flagLetters
  | emoji
  | joinedEmoji
  | joinedKeycap
  | joinedFlagLetter
  | joinedFlags
  | joinedFlagsAndLetter
  | tagLetters (count : Nat)
  | tagDigits (count : Nat)
deriving DecidableEq, Repr

namespace Behind

/-- Whether a letter in front may share columns with it. -/
def isLetter : Behind → Bool
  | alef | lamed _ | khmerLetter | bugineseYa _ | bugineseVowel | tifinaghLetter _
  | tifinaghJoiner | lisuTone | orkhonI _ => true
  | _ => false

/-- Whether a joiner in front makes it part of a longer picture. -/
def isEmoji : Behind → Bool
  | modifier | flagLetters | emoji | joinedFlags | joinedFlagsAndLetter => true
  | _ => false

/-- Whether it is a picture with a joiner in front. -/
def isJoinedEmoji : Behind → Bool
  | joinedEmoji | joinedKeycap => true
  | _ => false

/-- With a joiner in front. -/
def joined : Behind → Behind
  | lamed _ => lamed true
  | bugineseYa _ => bugineseYa true
  | tifinaghLetter _ => tifinaghLetter true
  | orkhonI _ => orkhonI true
  | b => b

/-- How a mark that is not seen stands in front of a letter, the joiner among them. -/
def skip? (b : Behind) (c : Char) : Option (Int × Behind) :=
  if !b.isLetter || b = alef then none
  else if c.toNat = 0x200D then some (0, b.joined)
  else if ignorable.contains c then some (0, b)
  else none

/-- How a letter or sign shares columns with a letter behind it. -/
def letter? (b : Behind) (c : Char) : Option (Int × Behind) :=
  match b with
  | alef =>
    if lam.contains c then some (0, other) else if isTransparent c then some (0, alef) else none
  | lamed true => if c.toNat = 0x5D0 then some (0, other) else none
  | khmerLetter => if c.toNat = 0x17D2 then some (-1, other) else none
  | bugineseYa true => if c.toNat = 0x1A17 then some (0, bugineseVowel) else none
  | bugineseVowel => if c.toNat = 0x1A15 then some (0, other) else none
  | tifinaghLetter joined =>
    if c.toNat = 0x2D7F then some (1, tifinaghJoiner)
    else if joined && tifinaghLetters.contains c then some (0, other)
    else none
  | tifinaghJoiner => if tifinaghLetters.contains c then some (-1, other) else none
  | lisuTone => if 0xA4F8 ≤ c.toNat && c.toNat ≤ 0xA4FB then some (0, other) else none
  | orkhonI true => if c.toNat = 0x10C32 then some (0, other) else none
  | kiratRaiE =>
    if c.toNat = 0x16D63 || c.toNat = 0x16D69 then some (0, other)
    else if c.toNat = 0x16D67 then some (0, kiratRaiAi)
    else if c.toNat = 0x16D68 then some (1, kiratRaiE)
    else none
  | kiratRaiAi => if c.toNat = 0x16D63 then some (0, other) else none
  | _ => none

/-- How a character in front of a tag goes on with it. A black flag stands in front of a tag, which
is three to six letters, or three digits and then at most four letters. -/
def tag? (b : Behind) (c : Char) : Option (Int × Behind) :=
  let letter := 0xE0061 ≤ c.toNat && c.toNat ≤ 0xE007A
  let digit := 0xE0030 ≤ c.toNat && c.toNat ≤ 0xE0039
  let flag := c.toNat = 0x1F3F4
  match b with
  | tagLetters n =>
    if letter && n < 6 then some (0, tagLetters (n + 1))
    else if digit && n ≤ 4 then some (0, tagDigits 1)
    else if flag && 3 ≤ n then some (0, emoji)
    else none
  | tagDigits n =>
    if digit && n < 3 then some (0, tagDigits (n + 1))
    else if flag && n = 3 then some (0, emoji)
    else none
  | _ => none

/-- How a character is part of the picture that a picture behind it belongs to. -/
def emoji? (b : Behind) (c : Char) : Option (Int × Behind) :=
  if c.toNat = 0x200D then if b.isEmoji then some (0, joinedEmoji) else none
  else
    match b with
    | modifier => if isModifiable c then some (0, emoji) else none
    | flagLetter | flagLetters => if isFlagLetter c then some (1, flagLetters) else none
    | joinedEmoji =>
      if c.toNat = 0x20E3 then some (0, joinedKeycap)
      else if isFlagLetter c then some (1, joinedFlagLetter)
      else if isModifier c then some (0, modifier)
      else if c.toNat = 0xE007F then some (0, tagLetters 0)
      else if isPicture c then some (0, emoji)
      else none
    | joinedFlagLetter | joinedFlagsAndLetter =>
      if isFlagLetter c then some (-1, joinedFlags) else none
    | joinedFlags => if isFlagLetter c then some (3, joinedFlagsAndLetter) else none
    | _ => none

/-- How many columns a character adds that joins with what is behind it, and what the two are to
those in front of them. -/
def join? (b : Behind) (c : Char) : Option (Int × Behind) :=
  b.skip? c <|> b.letter? c <|> b.tag? c <|> b.emoji? c

end Behind

/-- How many columns a character takes that joins with nothing behind it, and what it is to those
in front of it. -/
def alone (c : Char) : Int × Behind :=
  let n := c.toNat
  if n = 0x5DC then (1, .lamed false)
  else if alef.contains c then (1, .alef)
  else if khmerLetters.contains c then (1, .khmerLetter)
  else if n = 0x1A10 then (1, .bugineseYa false)
  else if tifinaghLetters.contains c then (1, .tifinaghLetter false)
  else if n = 0xA4FC || n = 0xA4FD then (1, .lisuTone)
  else if n = 0x10C03 then (1, .orkhonI false)
  else if n = 0x16D67 then (1, .kiratRaiE)
  else if n = 0x16D68 then (1, .kiratRaiAi)
  else if isFlagLetter c then (1, .flagLetter)
  else if isModifier c then (2, .modifier)
  else if isPicture c then (2, .emoji)
  else (charWidth c, .other)

end KeywordValues.Text.Width
