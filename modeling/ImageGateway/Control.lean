-- The image library as a whole: its version, its error buffer, its settings
-- and counters, and which loader or saver it has for a file.

import ImageGateway.Gate

namespace ImageGateway.Control

def versionString : Attempt String := do
  requireTable
  match ← native .versionString with
  | some version => return version.lossy
  | none => throw (.nullPointer .versionString)

/-- The messages that the library has gathered. They stay. -/
def errorBuffer : Attempt String := do
  requireTable
  let buffer ← native .errorBuffer
  return (buffer.map CText.lossy).getD ""

/-- A call without arguments and without an answer. -/
def act (action : Action) : Attempt Unit := do
  requireTable
  native (.act action)

def apply (setting : Setting) : Attempt Unit := do
  requireTable
  native (.apply setting)

def read (gauge : Gauge) : Attempt gauge.Reply := do
  requireTable
  native (.read gauge)

/-- Adds a message to the error buffer. It goes in as an argument, never as the format. -/
def error (domain message : String) : Attempt Unit := do
  requireTable
  let domain ← nativeText domain
  let message ← nativeText message
  native (.error domain .passThrough message)

/-- Adds a message and the text of a system error to the error buffer. -/
def errorSystem (code : Int32) (domain message : String) : Attempt Unit := do
  requireTable
  let domain ← nativeText domain
  let message ← nativeText message
  native (.errorSystem code domain .passThrough message)

/-- The nickname of the loader or saver for a file. -/
def findCodec (direction : Direction) (filename : String) : Attempt String := do
  requireTable
  let name ← nativeText filename
  match ← native (.findCodec direction name) with
  | some nickname => return nickname.lossy
  | none => throw (.operation filename (← takeError))

end ImageGateway.Control
