import KeywordValues.Keyword

/-!
# Facts about conversion

The standard registry runs the routine of a type itself, and what a routine makes has its type.
-/

namespace KeywordValues

namespace Routine

/-- The value that a routine makes has the routine's type. -/
theorem dataType_of_run {r : Routine} {node : Node} {v : TypedValue} (h : r.run node = .ok v) :
    v.dataType = r.target := by
  obtain ⟨target⟩ := r
  rcases target with k | k <;> rcases node with s | items <;> simp only [run] at h
  · split at h
    · cases h
      rfl
    · cases h
  · cases h
  · split at h
    · cases h
      rfl
    · cases h
  · split at h
    · cases h
      rfl
    · cases h

end Routine

theorem Registry.binding_standard (t : DataType) : standard.binding t = ⟨t, ⟨t⟩⟩ := by
  rcases t with k | k <;> cases k <;> rfl

namespace DataType

/-- Converting to a type is what the routine of the type does. -/
theorem convert_eq_run (t : DataType) (node : Node) : t.convert node = Routine.run ⟨t⟩ node := by
  rw [convert, Registry.convert, Registry.binding_standard]

theorem dataType_of_convert {t : DataType} {node : Node} {v : TypedValue}
    (h : t.convert node = .ok v) : v.dataType = t := by
  rw [convert_eq_run] at h
  exact Routine.dataType_of_run h

end DataType

namespace Keyword

theorem dataType_of_convert {k : Keyword} {node : Node} {v : TypedValue}
    (h : k.convert node = .ok v) : v.dataType = k.dataType := by
  unfold convert at h
  split at h
  · rename_i hv
    cases h
    exact DataType.dataType_of_convert hv
  · cases h

end Keyword

end KeywordValues
