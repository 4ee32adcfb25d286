import Vitae.Command.Run

/-! The program: reads the files that its arguments name, prints and exits. -/

namespace Vitae

def reasonOf : IO.Error → ReadError
  | .noFileOrDirectory .. => .notFound
  | .otherError code details | .permissionDenied _ code details
  | .inappropriateType _ code details | .invalidArgument _ code details
  | .resourceExhausted _ code details =>
    .other (details ++ " (os error " ++ toString code ++ ")")
  | e => .other (toString e)

def readBytes (path : String) : IO (Except ReadError ByteArray) := do
  try
    return .ok (← IO.FS.readBinFile path)
  catch e =>
    return .error (reasonOf e)

def outcome (arguments : List String) : IO Outcome := do
  match Invocation.read arguments with
  | .error e => return .ofUsage e
  | .ok inv =>
    let contents ← inv.files.mapM fun path => return (path, ← readBytes path)
    let disk : Disk := fun path => (contents.lookup path).getD (.error .notFound)
    return inv.run disk.files

end Vitae

def main (arguments : List String) : IO UInt32 := do
  let result ← Vitae.outcome arguments
  IO.print result.stdout
  IO.eprint result.stderr
  return .ofNat result.exitCode
