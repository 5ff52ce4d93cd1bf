/-
RouterConfig.Main — the program: reads the files that a command names, runs
the command, and prints what it gives.
-/
import RouterConfig.Command.Run
import RouterConfig.Pattern.Reader

namespace RouterConfig.Main

/-- The cause that an error of the system stands for. -/
def fileError : IO.Error → FileError
  | .noFileOrDirectory .. => .notFound
  | .noSuchThing .. => .notFound
  | .inappropriateType .. => .notDirectory
  | e => .other (toString e)

/-- What stands at a path seen from a directory, with everything below it. -/
partial def readEntry (place name : String) : IO (Except FileError Entry) := do
  let path := (⟨place, name⟩ : IO.FS.DirEntry).path
  try
    if ← path.isDir then
      let mut entries := #[]
      for entry in ← path.readDir do
        match ← readEntry path.toString entry.fileName with
        | .ok below => entries := entries.push (entry.fileName, below)
        | .error _ => pure ()
      return .ok (.directory entries.toList)
    else return .ok (.file (← IO.FS.readBinFile path))
  catch e => return .error (fileError e)

/-- The disk with the entries at these paths. -/
def diskOf (places : List String) : IO Disk := do
  let entries ← places.mapM fun place => return (place, ← readEntry "." place)
  return fun place => (entries.lookup place).getD (.error .notFound)

/-- Whether the output is coloured: on a terminal, unless the environment forbids it, or where the
environment demands it. -/
def wantsColours : IO Bool := do
  let forced := ((← IO.getEnv "CLICOLOR_FORCE").getD "0") != "0"
  let forbidden := (← IO.getEnv "NO_COLOR").isSome
  let wanted := ((← IO.getEnv "CLICOLOR").getD "1") != "0"
  return forced || (!forbidden && wanted && (← (← IO.getStdout).isTty))

/-- What is said of words that are no command. -/
def usage : String :=
  "usage: inspect TEMPLATES [--path PATH] [--depth N] [--constraints]\n" ++
  "       generate INVENTORY [SOURCES] [--format text|json] [--summary] [--validate]\n" ++
  "       merge INVENTORY INVENTORY... [SOURCES] [--format text|json]\n" ++
  "       diff LEFT RIGHT [SOURCES] [--format text|json] [--summary] [--identical] [--ignore PATH]\n" ++
  "       schema-diff LEFT RIGHT [--format text|json] [--summary] [--identical] [--ignore PATH]\n" ++
  "                   [--max-depth N]\n" ++
  "SOURCES: [--templates DIR] [--config FILE]\n"

/-- Runs the command of the arguments, and answers how the program ends. -/
def run (arguments : List String) : IO UInt32 := do
  match Command.ofArguments? arguments with
  | none =>
    (← IO.getStderr).putStr usage
    return 2
  | some command =>
    let known ← diskOf (command.places fun _ => .error .notFound)
    let disk ← diskOf (command.places known)
    let outcome := command.run Pattern.reader disk (← wantsColours)
    (← IO.getStdout).putStr outcome.printed.output
    (← IO.getStderr).putStr outcome.printed.messages
    return if outcome.success then 0 else 1

end RouterConfig.Main

/-- The program. -/
def main (arguments : List String) : IO UInt32 := RouterConfig.Main.run arguments
