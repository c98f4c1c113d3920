/-
This file is the outer layer of the program: it passes on the arguments and the filter of the
environment, and prints what a run comes to. The platform is the one of a closed room, in which no
name is known and no address answers.
-/

import WebFetch.Simulation.Platform

open WebFetch

/-- The variable of the environment that holds a filter. -/
def filterVariable : String := "RUST_LOG"

def printRun (run : Program.Run) : IO Unit := do
  IO.eprint run.diagnostics
  let output ← IO.getStdout
  output.write (ByteArray.mk run.output.toArray)
  output.flush

def main (arguments : List String) : IO UInt32 := do
  let environment ← IO.getEnv filterVariable
  let run := Program.run (Simulation.platform Simulation.Script.empty environment) arguments
  printRun run
  return run.exitCode.toUInt32
