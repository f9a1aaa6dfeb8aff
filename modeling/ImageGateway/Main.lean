-- The tile cache program as a command. Its outside world is the process: the
-- environment, standard output and standard error. No native library is linked
-- into it, so its loader finds no file.

import ImageGateway.CommandLine.Run
import ImageGateway.Native.Silent

namespace ImageGateway.CommandLine

/-- What the loader says of a file that it does not find. -/
def notFound (name : CText) : LoaderFault :=
  .notOpened (name.lossy ++ ": cannot open shared object file: No such file or directory")

/-- The process as the outside world of a program. -/
def inProcess (request : Request) : IO request.Reply :=
  match request with
  | .call call => return call.silentReply
  | .instanceType _ => return TypeId.invalid
  | .fillSlot _ _ _ => return ()
  | .table => return none
  | .publish offered => return offered
  | .openLibrary name => return .error (notFound name)
  | .resolve library symbol =>
    return .error (.notExported (library.file ++ ": undefined symbol: " ++ symbol.name))
  | .environment name => return (← IO.getEnv name).map Text.Utf8.encode
  | .logs _ => return false
  | .log _ _ => return ()
  | .print line => IO.println line

end ImageGateway.CommandLine

open ImageGateway in
def main (args : List String) : IO UInt32 := do
  let exit ← (CommandLine.run (args.map Text.Utf8.encode)).run CommandLine.inProcess
  IO.eprint exit.complaint
  return exit.status.toUInt32
