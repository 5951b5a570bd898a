import SourceMacros.Command

/-! The program: it reads the configuration file if there is one, and prints the reply. -/

open SourceMacros

def readText (path : String) : IO (Option String) := do
  try
    return some (← IO.FS.readFile path)
  catch _ =>
    return none

def main (args : List String) : IO UInt32 := do
  let contents ← match (Command.ofWords? args).bind Command.configPath? with
    | some path => readText path
    | none => pure none
  let reply := Command.run args contents
  IO.print reply.output
  return reply.exit
