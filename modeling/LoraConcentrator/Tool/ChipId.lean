import LoraConcentrator.Tool.Terminal

/-!
# The tool that shows the identifier of a board

It takes the device path as its only argument.
-/

namespace LoraConcentrator.ChipId

open ToolM

/-- The identifier in words. -/
def euiLine (eui : UInt64) : String :=
  "INFO: concentrator EUI: 0x" ++ Hex.fixed .small 16 eui.toNat

/-- Shows the identifier of the board, between empty lines. -/
def run (arguments : List String) : ToolM Unit := do
  if arguments.length > 1 then
    printError ("Error: " ++ Text.quoted "Provide at most 1 argument")
    fail
  require (GatewayM.configureBoard { path := arguments.headD defaultPath })
  let eui ← require GatewayM.eui
  print ""
  print (euiLine eui)
  print ""

end LoraConcentrator.ChipId
