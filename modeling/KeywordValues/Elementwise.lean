/-!
# Functions on the elements of a list that can fail

`elementwise f xs` applies `f` to the elements from the left and stops at the first failure, which
it reports with the index of its element.
-/

namespace KeywordValues

universe u v w

variable {α : Type u} {β : Type v} {ε : Type v}

/-- The results for all elements, or the error of the first element that fails and its index. -/
def elementwise (f : α → Except ε β) (xs : List α) : Except (ε × Nat) (List β) :=
  xs.zipIdx.mapM fun (x, i) ↦ (f x).mapError (·, i)

@[simp] theorem elementwise_nil (f : α → Except ε β) : elementwise f [] = .ok [] := rfl

end KeywordValues
