import KeywordValues.Json.Error

/-!
# Readers of a part of a text

A reader takes a part off the front of a text. It says what it read and what is left, and that
the rest is shorter than the text, so a loop over readers ends.
-/

namespace KeywordValues.Json

universe u

/-- What a reader took off the front of a text. -/
structure Scanned (s : List Char) (α : Type u) where
  value : α
  rest : List Char
  shorter : rest.length < s.length

/-- A function that takes a part off the front of a text, or finds a fault. -/
abbrev Scanner (α : Type u) := (s : List Char) → Except Fault (Scanned s α)

theorem length_le_self (s : List Char) : s.length ≤ s.length := Nat.le_refl _

theorem length_lt_length_cons (c : Char) (s : List Char) : s.length < (c :: s).length :=
  Nat.lt_succ_self _

namespace Scanned

variable {s t : List Char} {α β : Type u}

/-- The same part, seen from a text that is not shorter. -/
def widen (r : Scanned s α) (h : s.length ≤ t.length) : Scanned t α :=
  ⟨r.value, r.rest, Nat.lt_of_lt_of_le r.shorter h⟩

/-- The same part, seen from a text with one more character in front. -/
def behind (c : Char) (r : Scanned s α) : Scanned (c :: s) α :=
  r.widen (Nat.le_succ _)

/-- The same part with another value. -/
def map (f : α → β) (r : Scanned s α) : Scanned s β := ⟨f r.value, r.rest, r.shorter⟩

end Scanned

end KeywordValues.Json
