/-!
# `SensorGateway.Power`: which powers are meant

More than one library says what a power of a number is. Everywhere in this
namespace it is the power of the core library, whatever else a module
imports, so that a bound such as `2 ^ width` is the same term in the
definitions and in what is proved about them.
-/

set_option autoImplicit false

namespace SensorGateway

/-- Powers with natural exponents are those of the core library. -/
@[default_instance 20000]
scoped instance (priority := 2000) instPow {α : Type} [NatPow α] : Pow α Nat := instPowNat

end SensorGateway
