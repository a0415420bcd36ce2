import Descent.Match

namespace Descent.Match

theorem unload_append (as bs : List Match) : unload (as ++ bs) = unload as ++ unload bs := by
  fun_induction unload as with
  | case1 => rfl
  | case2 text stack ih => simp [unload, ih]
  | case3 name value stack ih => simpa [unload] using ih
  | case4 items stack ih => simpa [unload] using ih
  | case5 stack ih => simpa [unload] using ih
  | case6 value stack ih => simpa [unload] using ih

theorem unload_eq_flatMap (stack : List Match) : unload stack = stack.flatMap leaves := by
  induction stack with
  | nil => simp [unload]
  | cons m rest ih => rw [← List.singleton_append, unload_append, ih]; rfl

@[simp]
theorem leaves_empty : leaves .empty = [] := by
  simp [leaves, unload]

@[simp]
theorem leaves_leaf (t : Text) : leaves (.leaf t) = [t] := by
  simp [leaves, unload]

@[simp]
theorem leaves_foreign (value : Plain) : leaves (.foreign value) = [] := by
  simp [leaves, unload]

@[simp]
theorem leaves_labeled (name : String) (m : Match) : leaves (.labeled name m) = m.leaves := by
  simp [leaves, unload]

@[simp]
theorem leaves_seq (items : List Match) : leaves (.seq items) = items.flatMap leaves := by
  rw [← unload_eq_flatMap]
  simp [leaves, unload]

end Descent.Match
