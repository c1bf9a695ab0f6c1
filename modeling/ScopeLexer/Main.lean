import ScopeLexer.CommandLine

/-! The program. It reads the files its arguments name, and its input where no file is named. -/

namespace ScopeLexer.CommandLine

/-- The contents of a file. -/
def readFile (path : String) : IO (Except FileFault Json.Bytes) := do
  try
    return .ok (← IO.FS.readBinFile path).toList
  catch e =>
    match e with
    | .noFileOrDirectory .. => return .error .missing
    | .inappropriateType .. => return .error .directory
    | e => return .error (.other (toString e))

/-- The contents of some files by their names. -/
def readFiles (paths : List String) : IO (List (String × Except FileFault Json.Bytes)) :=
  paths.mapM fun path => do return (path, ← readFile path)

/-- The whole input, when a source is needed and no file is named. -/
def readInput (a : Arguments) : IO Json.Bytes := do
  if a.list || a.lang.isNone || a.source.isSome then return []
  return (← (← IO.getStdin).readBinToEnd).toList

/-- Runs a command line and writes what comes of it. -/
def program (args : List String) : IO UInt32 := do
  let a? := Arguments.read args
  let a := a?.getD {}
  let files ← readFiles (a.grammars ++ a.source.toList)
  let input ← if a?.isSome then readInput a else pure []
  let outcome := run args (fun path => (files.lookup path).getD (.error .missing)) input
  IO.print outcome.stdout
  unless outcome.stderr.isEmpty do
    IO.eprintln outcome.stderr
  return outcome.exit.toUInt32

end ScopeLexer.CommandLine

def main (args : List String) : IO UInt32 := ScopeLexer.CommandLine.program args
