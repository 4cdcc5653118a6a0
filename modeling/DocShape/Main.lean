import DocShape.Command.Run

/-!
# The program

Reads the files a command line needs, prints the lines of the answer and ends with its status. The
log, if the command line asks for one, goes to standard error.
-/

set_option autoImplicit false

namespace DocShape

/-- The code the operating system gives when a directory is read as a file. -/
def isDirectoryCode : UInt32 := 21

/-- What stands under a path, if anything does. Nothing stands under a path that no file can have.
-/
def readEntry? (path : Text) : IO (Option Command.Entry) := do
  try
    let content ← IO.FS.readFile (String.ofList (Command.normalPath path))
    return some (.file content.toList)
  catch
    | .noFileOrDirectory .. => return none
    | .invalidArgument .. => return none
    | .inappropriateType _ code _ =>
        return if code = isDirectoryCode then some .directory else none
    | error => throw error

/-- The files under some paths. -/
def readFiles (paths : List Text) : IO Command.Files :=
  paths.filterMapM fun path => do
    return (← readEntry? path).map fun entry => (path, entry)

end DocShape

open DocShape in
/-- Answers a command line. -/
def main (arguments : List String) : IO UInt32 := do
  let arguments := arguments.map String.toList
  let files ← readFiles (Command.neededPaths arguments)
  let output := Command.run files arguments
  IO.eprint (String.ofList (Command.logText files arguments))
  for line in output.lines do
    IO.println (String.ofList line)
  return output.status.toUInt32
