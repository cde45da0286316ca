import CodeOutline.Archive
import CodeOutline.CommandLine.Run

namespace CodeOutline

/-- What is said about words that do not make a command. -/
def usageText : String :=
  "Usage: " ++ Report.programName ++
    " <skeleton|classes|search|members> <PATH> [-f FORMAT] [-c CONFIG] [-l LANGUAGE]..."

/-- Reads lines to the end of the input, without their line feeds. -/
partial def readLines (input : IO.FS.Stream) (read : Array String) : IO (Array String) := do
  let line ← input.getLine
  if line.isEmpty then return read
  else
    let text := if line.endsWith "\n" then (line.dropEnd 1).toString else line
    readLines input (read.push text)

end CodeOutline

open CodeOutline

/-- The status tells whether anything was found. -/
def main (words : List String) : IO UInt32 := do
  let lines ← readLines (← IO.getStdin) #[]
  let outcome := CommandLine.run (Archive.disk lines.toList) [] .sequential false words
  match outcome with
  | .usage .versionAsked => IO.println (Report.programName ++ " " ++ Report.version)
  | .usage .helpAsked => IO.println usageText
  | .usage _ => IO.eprintln usageText
  | .failed error => IO.eprintln ("Error: " ++ error.message?.getD "invalid configuration")
  | .finished _ out err =>
    IO.print out
    IO.eprint err
  return UInt32.ofNat outcome.status
