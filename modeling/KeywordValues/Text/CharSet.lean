/-!
# Sets of characters

A set of characters is given by the code points at which membership changes, in ascending order:
those from the first up to below the second are in it, those from there up to below the third are
not, and so on.
-/

namespace KeywordValues.Text

/-- A set of characters, by the code points at which membership changes. -/
structure CharSet where
  changes : List Nat
deriving DecidableEq, Repr

namespace CharSet

/-- Whether a code point is in a set, given whether those before the next change are. -/
def holds (n : Nat) (inside : Bool) : List Nat → Bool
  | [] => inside
  | k :: ks => if n < k then inside else holds n (!inside) ks

/-- Whether a character is in a set. -/
def contains (s : CharSet) (c : Char) : Bool := holds c.toNat false s.changes

end CharSet

end KeywordValues.Text
