import SentryNav.Messages
import Mathlib.Analysis.SpecialFunctions.Complex.Arg

/-!
# The C math library in exact arithmetic

The real functions for the calls of `<cmath>`.  `atan2(y, x)` is the argument of the point `(x, y)`,
with the value zero at the origin in both.
-/

namespace SentryNav

/-- The functions of `<cmath>`, without rounding. -/
noncomputable def realLibm : Libm ℝ where
  sqrt := Real.sqrt
  cos := Real.cos
  sin := Real.sin
  hypot x y := Real.sqrt (x ^ 2 + y ^ 2)
  atan2 y x := Complex.arg ⟨x, y⟩

end SentryNav
