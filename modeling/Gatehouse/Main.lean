import Gatehouse.CommandLine.Program

/-!
# The command line

Reads the files and the environment that `CommandLine.run` is given, and prints what it answers.  It
decides nothing.  No socket is ever opened here, so a gateway whose configuration is good ends with
the report that it cannot listen.
-/

set_option autoImplicit false

open Gatehouse

namespace Gatehouse
namespace CommandLine

/-- What stands under some names in the working directory. -/
def readFiles (names : List String) : IO Directory := do
  let mut files : Directory := []
  for name in names do
    try
      let content ← IO.FS.readBinFile name
      files := files ++ [(Directory.key name, FileEntry.file content.toList)]
    catch
      | .noFileOrDirectory .. => pure ()
      | _ => files := files ++ [(Directory.key name, FileEntry.directory)]
  return files

/-- The files that some arguments can make the program read. -/
def namedFiles (args : List String) : List String :=
  match Invocation.parse args with
  | .start (some path) => [".env", path]
  | .start none => [".env", defaultFile]
  | _ => []

/-- The variables of the process, as the system shows them. -/
def readEnvironment : IO Environment := do
  try
    let content ← IO.FS.readBinFile "/proc/self/environ"
    let entries := (Text.pieces (· == 0) content.toList).filterMap Text.Utf8.decode?
    return entries.filterMap fun entry =>
      (Text.cut? (· == '=') entry.toList).map fun p => (String.ofList p.1, String.ofList p.2)
  catch _ => return []

/-- The answer of a system without a network. -/
def noNetwork : Gateway.Bind := fun _ => some "Operation not supported (os error 95)"

end CommandLine
end Gatehouse

/-- The program. -/
def main (args : List String) : IO UInt32 := do
  let files ← CommandLine.readFiles (CommandLine.namedFiles args)
  let env ← CommandLine.readEnvironment
  let outcome := CommandLine.run { args, files, env, bind := CommandLine.noNetwork }
  IO.print outcome.stdout
  for line in outcome.log do
    IO.println line.render
  IO.eprint outcome.stderr
  return UInt32.ofNat (outcome.exitCode.getD 0)
