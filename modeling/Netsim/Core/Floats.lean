import Netsim.Lib.Ieee

/-!
# Floating point types
-/

namespace Netsim

/-- A `float`. -/
abbrev Single := Ieee.Value Ieee.binary32

/-- A `double`. -/
abbrev Double := Ieee.Value Ieee.binary64

end Netsim
