import LoraConcentrator.Gateway.Configuration
import LoraConcentrator.Gateway.Operations
import LoraConcentrator.Text.Plain

/-!
# Terminals

A tool works on a gateway and writes lines: results to the output, errors and the gravest notices of
the gateway to the error output. It ends normally or with an exit status. Programs of `ToolM` are
pure, so what a tool writes for given answers of a device can be computed and reasoned about.
-/

namespace LoraConcentrator

/-- How a tool ends when it does not end normally. -/
structure ExitStatus where
  code : UInt8
  deriving DecidableEq, Repr

namespace ExitStatus

/-- The status of a tool that ends normally. -/
def success : ExitStatus := ⟨0⟩

/-- The status of a tool that fails. -/
def failure : ExitStatus := ⟨1⟩

end ExitStatus

/-- A gateway with what a tool has written. -/
structure Terminal where
  gateway : Gateway := {}
  /-- The pieces of the output, with their line ends. -/
  output : List String := []
  /-- The pieces of the error output, with their line ends. -/
  errors : List String := []

/-- A program of a tool. -/
abbrev ToolM := EStateM ExitStatus Terminal

/-- A notice in the error output: on a line under its heading, further lines of it indented, and
without control sequences. One that is left open takes the line end with it. -/
def Notice.record (notice : Notice) : String :=
  Text.plain <| "[" ++ notice.severity.label ++ " " ++ notice.origin ++ "] " ++
    Text.indented 4 notice.text ++ "\n"

namespace ToolM

variable {α : Type}

/-- Writes a line to the output. -/
def print (line : String) : ToolM Unit :=
  modify fun t ↦ { t with output := t.output ++ [line ++ "\n"] }

/-- Writes a line to the error output. -/
def printError (line : String) : ToolM Unit :=
  modify fun t ↦ { t with errors := t.errors ++ [line ++ "\n"] }

/-- Ends the tool as failed. -/
def fail : ToolM α := throw .failure

/-- The gravest notices as the error output has them. -/
def graveRecords (notices : List Notice) : List String :=
  (notices.filter fun notice ↦ notice.severity = .error).map Notice.record

/-- The terminal after a program of the gateway, with its notices. -/
def afterwards (t : Terminal) (gateway : Gateway) : Terminal :=
  let new := gateway.link.notices.drop t.gateway.link.notices.length
  { t with gateway := gateway, errors := t.errors ++ graveRecords new }

/-- Runs a program of the gateway. -/
def perform (program : GatewayM α) : ToolM (Except Error α) := fun t ↦
  match program t.gateway with
  | .ok a gateway => .ok (.ok a) (afterwards t gateway)
  | .error e gateway => .ok (.error e) (afterwards t gateway)

/-- Runs a program of the gateway; an error is shown with all its fields and ends the tool. -/
def require (program : GatewayM α) : ToolM α := do
  match ← perform program with
  | .ok a => return a
  | .error e =>
    printError ("Error: " ++ e.inspect)
    fail

/-- Runs a program of the gateway; an error is told in words after what failed and ends the tool. -/
def requireOr (failed : String) (program : GatewayM α) : ToolM α := do
  match ← perform program with
  | .ok a => return a
  | .error e =>
    printError (failed ++ ". Error: " ++ e.message)
    fail

/-- Lets time pass. -/
def pause (time : Duration) : ToolM Unit :=
  modify fun t ↦ { t with gateway := { t.gateway with link := t.gateway.link.pass time } }

/-- Runs tools one after the other, until one ends. -/
def inOrder : List (ToolM Unit) → ToolM Unit
  | [] => return
  | tool :: tools => do
    tool
    inOrder tools

end ToolM

/-- The status a tool ends with and the terminal afterwards. -/
def Terminal.run (tool : ToolM Unit) (t : Terminal) : ExitStatus × Terminal :=
  match tool t with
  | .ok _ t => (.success, t)
  | .error status t => (status, t)

/-- The device path that tools use when none is given. -/
def defaultPath : String := "/dev/ttyACM0"

end LoraConcentrator
