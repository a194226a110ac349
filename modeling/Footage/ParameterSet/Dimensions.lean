/-!
# Picture dimensions
-/

namespace Footage

/-- The size of a picture in pixels. -/
structure Dimensions where
  width : Nat
  height : Nat
deriving DecidableEq, Repr

end Footage
