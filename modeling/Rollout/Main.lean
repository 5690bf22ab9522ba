import Rollout.CommandLine.Run

/-!
The program: reads the files that a command names, runs it and prints what comes of it. It has
no network of its own, so every request of a deployment is reported as not sent.
-/

open Rollout CommandLine

/-- The contents of the files of a command, where they can be read. -/
def readFiles (paths : List String) : IO (List (String × String)) := do
  let mut found := []
  for path in paths do
    try
      let contents ← IO.FS.readFile path
      found := (path, contents) :: found
    catch _ => pure ()
  return found

def main (arguments : List String) : IO UInt32 := do
  let paths := ((Command.ofArguments arguments).map Command.paths).getD []
  let found ← readFiles paths
  let (report, ()) := run arguments (fun path => found.lookup path) Http.Network.unreachable ()
  IO.print report.output
  match report.error with
  | some e => IO.eprintln ("apideploy error: " ++ e.message)
  | none => pure ()
  return report.exit.toUInt32
