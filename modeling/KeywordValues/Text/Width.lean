import KeywordValues.Text.Width.Behind

/-!
# The width of a line in columns

A line is read from its end, since what a character takes depends on what stands behind it: a
selector, which asks for one of the forms of the character in front, or something that the character
joins with.
-/

namespace KeywordValues.Text

namespace Width

open Emoji

/-- A character that asks for a form of the one in front of it: as a picture, as text, or, of a
quotation mark, two columns wide. -/
inductive Selector where
  | picture
  | text
  | wide
deriving DecidableEq, Repr

/-- The selector that a character is. -/
def Selector.ofChar? (c : Char) : Option Selector :=
  if c.toNat = 0xFE0F then some picture
  else if c.toNat = 0xFE0E then some text
  else if c.toNat = 0xFE01 then some wide
  else none

/-- Whether a selector can make a character two columns wide. -/
def isQuotationMark (c : Char) : Bool :=
  c.toNat = 0x2018 || c.toNat = 0x2019 || c.toNat = 0x201C || c.toNat = 0x201D

/-- What is behind a place: a selector, if one is next, and what is behind that. -/
structure Context where
  selector : Option Selector := none
  behind : Behind := .other

namespace Context

/-- What is behind a character that follows no selector. Letters join across a selector, pictures do
not. -/
def settled (x : Context) : Behind :=
  if x.selector = none || x.behind.isLetter then x.behind else .other

/-- A selector in front. One that asks for a picture leaves a joined picture behind it. -/
def select (x : Context) (s : Selector) : Context :=
  let b := x.settled
  ⟨some s, if b.isLetter || s = .picture && b.isJoinedEmoji then b else .other⟩

/-- How many columns a selector gives a character in front of it, if it is for that character. -/
def selected? (x : Context) (c : Char) : Option (Int × Behind) :=
  match x.selector with
  | some .picture =>
    if isVaried c then some (if x.behind.isJoinedEmoji then 0 else 2, .emoji) else none
  | some .text => if isNarrowAsText c then some (1, .other) else none
  | some .wide => if isQuotationMark c then some (2, .other) else none
  | none => none

/-- How many columns a character adds in front, and what is then behind the next. -/
def advance (x : Context) (c : Char) : Int × Context :=
  let place (r : Int × Behind) : Int × Context := (r.1, ⟨none, r.2⟩)
  match x.selected? c, Selector.ofChar? c with
  | some r, _ => place r
  | none, some s => (0, x.select s)
  | none, none =>
    if c.toNat ≤ 0xA0 then (1, {}) else place ((x.settled.join? c).getD (alone c))

end Context

/-- How many columns the characters from a place on take, and what they are to those before it. -/
def scan : List Char → Int × Context
  | [] => (0, {})
  | c :: cs => let r := scan cs; let s := r.2.advance c; (r.1 + s.1, s.2)

end Width

/-- How many columns a line takes. -/
def width (cs : List Char) : Nat := (Width.scan cs).1.toNat

end KeywordValues.Text
