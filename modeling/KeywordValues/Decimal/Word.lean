/-!
# Whole numbers of 64 bits
-/

namespace KeywordValues.Decimal

/-- The whole numbers that a signed or an unsigned 64-bit word holds, from `-2 ^ 63` up to below
`2 ^ 64`. -/
structure Word where
  val : Int
  lower : -9223372036854775808 ≤ val
  upper : val < 18446744073709551616
deriving DecidableEq, Repr

namespace Word

/-- The number itself, if it is in range. -/
def ofInt? (i : Int) : Option Word :=
  if h : -9223372036854775808 ≤ i ∧ i < 18446744073709551616 then some ⟨i, h.1, h.2⟩ else none

/-- The value of a signed word. -/
def ofInt64 (i : Int64) : Word :=
  ⟨i.toInt, i.le_toInt, Int.lt_trans i.toInt_lt (by decide)⟩

@[simp] theorem val_ofInt64 (i : Int64) : (ofInt64 i).val = i.toInt := rfl

/-- The signed word with the same value, if there is one. -/
def toInt64? (w : Word) : Option Int64 :=
  if w.val < 9223372036854775808 then some (.ofInt w.val) else none

end Word

end KeywordValues.Decimal
