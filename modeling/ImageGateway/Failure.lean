-- What an operation of the gateway can fail with.

import ImageGateway.Json.Fault
import ImageGateway.Library.Fault

namespace ImageGateway

/-- A thing that the library should have given and did not. -/
inductive Missing where
  | versionString
  | image
  | blob
  | imageArray
  | operation
  | object
  deriving DecidableEq, Repr

def Missing.name : Missing → String
  | versionString => "version string"
  | image => "image"
  | blob => "blob"
  | imageArray => "image array"
  | operation => "operation"
  | object => "object"

/-- Why an operation failed. -/
inductive Failure where
  /-- The native libraries could not be opened. -/
  | load (failure : LoadFailure)
  /-- No table is published yet. -/
  | notLoaded
  /-- The image library did not start. -/
  | start (message : String)
  /-- A text has a zero byte, so the native side cannot take it. -/
  | zeroByte (text : String)
  /-- An array has more elements than the library counts. -/
  | arrayTooLarge (length : Nat)
  /-- The object has no argument of this name. -/
  | unknownArgument (name object message : String)
  /-- A text is no nick of the enum that the argument takes. -/
  | unknownNick (name nick message : String)
  /-- A value holds another type than the one that was asked for. -/
  | typeMismatch (expected found : String)
  /-- An operation could not be made or built. -/
  | operation (operation message : String)
  /-- The library gave a null pointer. -/
  | nullPointer (missing : Missing)
  /-- The configuration could not be read. -/
  | config (problem : Json.Problem)
  deriving DecidableEq, Repr

namespace Failure

def message : Failure → String
  | load failure => "Failed to load libvips. " ++ failure.message
  | notLoaded => "libvips is not loaded, call Vips::init first"
  | start text => "Failed to initialize libvips. " ++ text
  | zeroByte text =>
    "Invalid C string. nul byte found in provided data at position: "
      ++ toString (Text.Utf8.firstZero text)
  | arrayTooLarge length => "Array of " ++ toString length ++ " elements is too large"
  | unknownArgument name object text =>
    "No argument " ++ Text.quote name ++ " on " ++ object ++ ". " ++ text
  | unknownNick name nick text =>
    "Invalid value " ++ Text.quote nick ++ " for enum argument " ++ Text.quote name ++ ". " ++ text
  | typeMismatch expected found => "Type mismatch: expected " ++ expected ++ ", found " ++ found
  | operation name text => "Operation " ++ name ++ " failed. " ++ text
  | nullPointer missing => "libvips returned a null " ++ missing.name
  | config problem => "Invalid configuration. " ++ problem.message

/-- The failure with its parts named, as the end of a whole program shows it. -/
def describe : Failure → String
  | load failure => "Load(" ++ failure.describe ++ ")"
  | notLoaded => "NotLoaded"
  | start text => "Init(" ++ Text.quote text ++ ")"
  | zeroByte text =>
    "InvalidCString(NulError(" ++ toString (Text.Utf8.firstZero text) ++ ", "
      ++ Text.Utf8.listed text ++ "))"
  | arrayTooLarge length => "ArrayTooLarge(" ++ toString length ++ ")"
  | unknownArgument name object text =>
    Text.withParts "UnknownArgument"
      [("name", Text.quote name), ("object", Text.quote object), ("message", Text.quote text)]
  | unknownNick name nick text =>
    Text.withParts "UnknownEnumNick"
      [("name", Text.quote name), ("nick", Text.quote nick), ("message", Text.quote text)]
  | typeMismatch expected found =>
    Text.withParts "TypeMismatch" [("expected", Text.quote expected), ("found", Text.quote found)]
  | operation name text =>
    Text.withParts "Operation" [("operation", Text.quote name), ("message", Text.quote text)]
  | nullPointer missing => "NullPointer(" ++ Text.quote missing.name ++ ")"
  | config problem =>
    "Config(Error(" ++ Text.quote problem.cause.message ++ ", line: " ++ toString problem.line
      ++ ", column: " ++ toString problem.column ++ "))"

end Failure

end ImageGateway
