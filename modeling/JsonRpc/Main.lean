import JsonRpc.Calculator.CommandLine

set_option autoImplicit false

/- The command line of the calculator: answers one JSON-RPC document, given by an option or on the
standard input. The answer goes to the standard output and the log to the standard error. -/

namespace JsonRpc.Calculator

partial def readToEnd (stream : IO.FS.Stream) (read : ByteArray) : IO ByteArray := do
  let chunk ← stream.read 65536
  if chunk.isEmpty then return read
  readToEnd stream (read ++ chunk)

end JsonRpc.Calculator

open JsonRpc.Calculator

def main (arguments : List String) : IO UInt32 := do
  let needsInput := match readArguments .none arguments with
    | .ok options => options.request.isNone
    | .error _ => false
  let bytes ← if needsInput then readToEnd (← IO.getStdin) .empty else pure .empty
  let report := run arguments (← IO.getEnv "RUST_LOG") (String.fromUTF8? bytes)
  IO.eprint report.stderr
  IO.print report.stdout
  return report.exitCode.toUInt32
