import Ledger.Protocol.Answer

/-!
The command line: answers each non-blank line of standard input with one line on standard
output, flushed, until the input ends.
-/

namespace Ledger

/-- Reads and answers lines until the input ends. -/
partial def serve (stdin : IO.FS.Stream) (stdout : IO.FS.Stream) : IO Unit := do
  let line ← stdin.getLine
  if line.isEmpty then return
  let body := (line.dropEndWhile (fun c => c == '\n' || c == '\r')).toString
  if !body.trimAscii.isEmpty then
    stdout.putStrLn (Protocol.answer body)
    stdout.flush
  serve stdin stdout

end Ledger

/-- Serves standard input. -/
def main : IO Unit := do
  Ledger.serve (← IO.getStdin) (← IO.getStdout)
