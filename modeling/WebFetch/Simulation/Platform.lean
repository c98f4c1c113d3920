/-
This file puts together a platform that follows a script: a network, a command line that is read and
a journal that is filtered and printed in the usual way, and an output that takes everything.
-/

import WebFetch.Program
import WebFetch.Simulation.CommandLine.Help
import WebFetch.Simulation.CommandLine.Parser
import WebFetch.Simulation.Journal.Line
import WebFetch.Simulation.Journal.Rules
import WebFetch.Simulation.Network

namespace WebFetch.Simulation

/-- The platform of a script, where the environment holds the text of a filter or none. -/
def platform (script : Script) (environment : Option String) : Platform where
  network := script.network
  readArguments parseField arguments :=
    (CommandLine.parse parseField arguments).mapError CommandLine.stop
  environmentFilter := (environment.bind Rules.parse?).map Rules.filter
  filter text := (Rules.parseLossy text).filter
  print entries := String.join (entries.map Line.print)
  output := Stream.ofEvents []

end WebFetch.Simulation
