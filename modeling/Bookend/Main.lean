import Bookend.CommandLine.Demo
import Bookend.Log.Line

namespace Bookend.CommandLine

/-- A file's bytes, or why there are none. -/
def readFile (path : String) : IO (Except FileFault ByteArray) := do
  try
    return .ok (← IO.FS.readBinFile path)
  catch
    | .noFileOrDirectory .. => return .error .missing
    | _ => return .error .directory

def Transcript.write (t : Transcript) : IO Unit := do
  let stdout ← IO.getStdout
  let stderr ← IO.getStderr
  stdout.putStr t.output
  for e in t.log do
    stderr.putStrLn (e.toLine t.format)
  if let some r := t.report then
    stderr.putStrLn r.pretty
  if let some e := t.failure then
    stderr.putStrLn ("Error: " ++ e.display)

/-- Runs the demo; the answer is the exit status. -/
def start (args : List String) : IO UInt32 := do
  match parse args with
  | .help =>
    (← IO.getStdout).putStr helpText
    return 0
  | .usageError =>
    (← IO.getStderr).putStrLn "error: unexpected arguments; for more information, try '--help'."
    return 2
  | .run o =>
    let file ← o.config.mapM readFile
    let t := run o (← IO.getEnv "RUST_LOG") file
    t.write
    return t.status.toUInt32

end Bookend.CommandLine

def main (args : List String) : IO UInt32 := Bookend.CommandLine.start args
