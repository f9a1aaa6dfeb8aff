-- The tile cache program: it loads an image, puts a tile cache behind it and
-- saves the result.

import ImageGateway.CommandLine.Arguments
import ImageGateway.Config

namespace ImageGateway.CommandLine

/-- How the program ends: its status, and what it complains of. -/
structure Exit where
  status : UInt8
  complaint : String
  deriving DecidableEq, Repr

def printLine (line : String) : Program Unit := Program.request (.print line)

/-- Loads an image with the loader that the library has for the file. -/
def loadImage (filename : String) : Attempt Image := do
  let loader ← Control.findCodec .load filename
  logLine .debug ("loading " ++ filename ++ " with " ++ loader)
  let outputs ← Operation.callFor loader
    { inputs := [("filename", .text filename)], outputs := [("out", .image none)] }
  Operation.firstImage outputs

/-- Saves an image with the saver that the library has for the file. -/
def saveImage (image : Image) (filename : String) : Attempt Unit := do
  let saver ← Control.findCodec .save filename
  logLine .debug ("saving " ++ filename ++ " with " ++ saver)
  let _ ← Operation.callFor saver
    { inputs := [("in", .image image), ("filename", .text filename)] }
  return

/-- Shows the sizes of the image. -/
def showSizes (image : Image) : Attempt Unit := do
  let width ← image.extent .width
  let height ← image.extent .height
  let bands ← image.extent .bands
  printLine ("Input: " ++ toString width.toInt ++ "x" ++ toString height.toInt ++ " with "
    ++ toString bands.toInt ++ " bands")

/-- Caches the image and saves the cached one, which is the answer. -/
def cacheAndSave (image : Image) (arguments : Arguments) : Attempt Image := do
  let cached ← tileCache image arguments.tiles
  match ← (saveImage cached arguments.output).result with
  | .ok () => return cached
  | .error failure =>
    cached.release
    throw failure

def convert (arguments : Arguments) : Attempt Image := do
  let image ← loadImage arguments.input
  let rest : Attempt Image := do
    showSizes image
    cacheAndSave image arguments
  rest.closedBy image.release

/-- The whole work, once the arguments are read. -/
def work (arguments : Arguments) : Attempt Unit := do
  Control.start (← Config.fromEnvironment)
  let version ← Control.versionString
  printLine ("libvips " ++ version)
  let cached ← convert arguments
  cached.release
  let size : Int32 ← Control.read .cacheSize
  printLine ("Wrote " ++ arguments.output ++ " (" ++ toString size.toInt ++ " cached operations)")

/-- The program, from its arguments on. -/
def run (args : List (List UInt8)) : Program Exit := do
  match Arguments.parse args with
  | .error .help =>
    printLine usage
    return ⟨0, ""⟩
  | .error (.notText lossy) => return ⟨1, (Refusal.notText lossy).message ++ "\n"⟩
  | .error refusal =>
    return ⟨1, refusal.message ++ "\nRun vips-cache --help for more information.\n"⟩
  | .ok arguments =>
    match ← (work arguments).run with
    | .ok () => return ⟨0, ""⟩
    | .error failure => return ⟨1, "Error: " ++ failure.describe ++ "\n"⟩

end ImageGateway.CommandLine
