-- The configuration with which the image library is started, from a document
-- or from the environment.

import ImageGateway.CacheLimits
import ImageGateway.Library.Opening
import ImageGateway.Text.Decimal

namespace ImageGateway

/-- What a start of the library needs to know. Every field has a default. -/
structure Config where
  /-- The name that the library uses in its messages. -/
  programName : String := "vips-bridge"
  library : LibraryPaths := { }
  /-- Report leaked references at the end. -/
  leakDetection : Bool := false
  /-- Worker threads for each pipeline. -/
  concurrency : Option Int32 := none
  cache : CacheLimits := { }
  deriving DecidableEq, Repr

namespace Config

/-! ## From a document -/

/-- The fields of a configuration in a document. -/
def fields : List (Json.Field Config) := [
  .of "program_name" (·.readText "a string") fun c name => { c with programName := name },
  .of "library" LibraryPaths.read fun c paths => { c with library := paths },
  .of "leak_detection" Json.Node.readBoolean fun c on => { c with leakDetection := on },
  .of "concurrency" (·.readOptional Json.Node.readInt32) fun c n => { c with concurrency := n },
  .of "cache" CacheLimits.read fun c limits => { c with cache := limits }]

def read : Json.Node → Except Json.Fault Config :=
  Json.readRecord "struct VipsConfig" fields { }

def ofJson (document : String) : Except Failure Config :=
  (Json.readDocument read document).mapError Failure.config

/-! ## From the environment -/

/-- The words that switch something on, with blanks around them or not. -/
def isEnabled (value : String) : Bool := ["1", "true", "TRUE", "yes"].contains (Text.trim value)

/-- The text of an environment variable that is set and UTF-8. -/
def setting? (name : String) : Program (Option String) := do
  match ← Program.request (.environment name) with
  | none => return none
  | some bytes => return (Text.Utf8.decode bytes).toOption

/-- The thread count that a variable asks for. One that cannot be read is logged and ignored. -/
def concurrencyOf : Option String → Program (Option Int32)
  | none => return none
  | some value =>
    match Text.readInt32 (Text.trim value) with
    | .ok n => return some n
    | .error fault => do
      logLine .warn ("Ignoring VIPS_BRIDGE_CONCURRENCY: " ++ fault.message)
      return none

/-- The configuration that the environment asks for. -/
def fromEnvironment : Program Config := do
  let name ← setting? "VIPS_BRIDGE_PROGRAM"
  let leak ← setting? "VIPS_BRIDGE_LEAK"
  let concurrency ← concurrencyOf (← setting? "VIPS_BRIDGE_CONCURRENCY")
  let library ← LibraryPaths.fromEnvironment
  let defaults : Config := { }
  return {
    programName := name.getD defaults.programName
    library := library
    leakDetection := leak.any isEnabled
    concurrency := concurrency
    cache := defaults.cache }

/-- Whether tests must fail where the library cannot be loaded. -/
def libraryRequired : Program Bool := do
  return (← setting? "VIPS_BRIDGE_REQUIRE_LIB").any isEnabled

end Config

namespace Control

/-- Makes the entry points known without a start of the library. -/
def load (paths : LibraryPaths) : Attempt Table := (Table.load paths).adapt Failure.load

/-- Starts the library and makes the settings of the configuration. A second start is harmless; it
makes the settings again. -/
def start (config : Config) : Attempt Unit := do
  let _ ← load config.library
  let program ← nativeText config.programName
  let status ← native (.start program)
  if status ≠ 0 then throw (.start (← takeError))
  if config.leakDetection then native (.apply (.leak true))
  if let some n := config.concurrency then apply (.concurrency n)
  config.cache.apply
  if ← Program.request (.logs .debug) then
    let version ← versionString
    logLine .debug ("libvips " ++ version ++ " started as " ++ config.programName)

end Control

end ImageGateway
