import LoraConcentrator.Tool.ChipId
import LoraConcentrator.Tool.Console
import LoraConcentrator.Tool.Listener
import LoraConcentrator.Tool.Sender

/-!
# Command line

The first argument names the tool, the others are those of the tool.
-/

open LoraConcentrator

/-- The turns of a tool that are known beforehand. -/
def nextListed : List (ToolM Unit) → Option (ToolM (List (ToolM Unit)))
  | [] => none
  | tool :: tools => some do
    tool
    return tools

/-- The turns of the listener: opening the session, then one for each fetch. -/
def nextListening (file : Option Listener.SettingsFile) :
    Option Int32 → Option (ToolM (Option Int32))
  | none => some do
    Listener.start file
    return some 0
  | some count => some (some <$> Listener.turn count)

/-- The settings file named by an argument, if there is one. -/
def settingsFile : List String → IO (Option Listener.SettingsFile)
  | [] => return none
  | name :: _ => return some ⟨name, ← readContent name⟩

/-- How the command is used. -/
def usage : String := "usage: chip_id [PATH] | tx [PATH] | rx [SETTINGS]"

/-- Runs the tool that the arguments name. -/
def runNamed : List String → IO ExitStatus
  | "chip_id" :: arguments => runTurns nextListed [ChipId.run arguments]
  | "tx" :: arguments => runTurns nextListed (Sender.turns arguments)
  | "rx" :: arguments => do
    runTurns (nextListening (← settingsFile arguments)) none
  | _ => do
    (← IO.getStderr).putStrLn usage
    return .failure

def main (arguments : List String) : IO UInt32 := do
  return (← runNamed arguments).code.toUInt32
