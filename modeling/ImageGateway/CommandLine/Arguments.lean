-- The command line of the tile cache program: two paths and three options, in
-- any order.

import ImageGateway.Operation.TileCache
import ImageGateway.Text.Decimal

namespace ImageGateway.CommandLine

/-- What the user asks for. -/
structure Arguments where
  /-- The image to read. -/
  input : String
  /-- Where to write. The suffix selects the format. -/
  output : String
  tiles : TileOptions
  deriving DecidableEq, Repr

/-- Why there is nothing to run. -/
inductive Refusal where
  /-- The user wants to see the usage. -/
  | help
  /-- An argument is not UTF-8. -/
  | notText (lossy : String)
  | unrecognized (argument : String)
  | noValue (option : String)
  | badValue (option value reason : String)
  /-- Something that looks like an option follows a request for help. -/
  | trailing
  | missing (names : List String)
  deriving DecidableEq, Repr

/-- What has been read so far. -/
structure Progress where
  input : Option String := none
  output : Option String := none
  tiles : TileOptions := { }
  /-- Help was asked for. -/
  help : Bool := false
  /-- What follows are paths. -/
  onlyPaths : Bool := false

/-- An option, with its place among the parameters. -/
structure TileOption where
  name : String
  get : TileOptions → Option Int32
  set : TileOptions → Int32 → TileOptions

/-- The options, in the order of the usage. -/
def tileOptions : List TileOption := [
  ⟨"--max-tiles", TileOptions.maxTiles, fun o n => { o with maxTiles := some n }⟩,
  ⟨"--tile-width", TileOptions.tileWidth, fun o n => { o with tileWidth := some n }⟩,
  ⟨"--tile-height", TileOptions.tileHeight, fun o n => { o with tileHeight := some n }⟩]

/-- Reads the value of an option. Each option stands once. -/
def readOption (option : TileOption) (value : String) (tiles : TileOptions) :
    Except String TileOptions :=
  match option.get tiles with
  | some _ => .error "duplicate values provided"
  | none =>
    match Text.readInt32 value with
    | .ok n => .ok (option.set tiles n)
    | .error fault => .error fault.message

def takePath (path : String) (p : Progress) : Except Refusal Progress :=
  match p.input, p.output with
  | none, _ => .ok { p with input := some path }
  | some _, none => .ok { p with output := some path }
  | some _, some _ => .error (.unrecognized path)

/-- Reads the arguments from the left. -/
def readFrom : List String → Progress → Except Refusal Progress
  | [], p => .ok p
  | arg :: rest, p =>
    if p.onlyPaths then takePath arg p >>= readFrom rest
    else if arg = "--help" ∨ arg = "help" then readFrom rest { p with help := true }
    else if arg = "--" then readFrom rest { p with onlyPaths := true }
    else if arg.toList.head? ≠ some '-' then takePath arg p >>= readFrom rest
    else if p.help then .error .trailing
    else
      match tileOptions.find? (·.name = arg) with
      | none => .error (.unrecognized arg)
      | some option =>
        match rest with
        | [] => .error (.noValue arg)
        | value :: rest =>
          match readOption option value p.tiles with
          | .error reason => .error (.badValue arg value reason)
          | .ok tiles => readFrom rest { p with tiles := tiles }

/-- The arguments, once all are read. -/
def Progress.finish (p : Progress) : Except Refusal Arguments :=
  if p.help then .error .help
  else
    match p.input, p.output with
    | some input, some output => .ok ⟨input, output, p.tiles⟩
    | some _, none => .error (.missing ["output"])
    | none, _ => .error (.missing ["input", "output"])

/-- The arguments as texts, unless one is not UTF-8. -/
def decodeAll : List (List UInt8) → Except Refusal (List String)
  | [] => .ok []
  | bytes :: rest =>
    match Text.Utf8.decode bytes with
    | .ok arg => (decodeAll rest).map (arg :: ·)
    | .error _ => .error (.notText (Text.Utf8.lossy bytes))

def Arguments.parse (args : List (List UInt8)) : Except Refusal Arguments := do
  let texts ← decodeAll args
  let progress ← readFrom texts { }
  progress.finish

/-- How to use the program. -/
def usage : String := "\n".intercalate [
  "Usage: vips-cache [--max-tiles <max-tiles>] [--tile-width <tile-width>]"
    ++ " [--tile-height <tile-height>] [--] <input> <output>",
  "",
  "Load an image, wrap it in a tile cache and save the result",
  "",
  "Positional Arguments:",
  "  input             path to the input image",
  "  output            path to the output image, the suffix selects the format",
  "",
  "Options:",
  "  --max-tiles       maximum number of tiles to keep",
  "  --tile-width      tile width in pixels",
  "  --tile-height     tile height in pixels",
  "  --help, help      display usage information",
  ""]

def Refusal.message : Refusal → String
  | help => usage
  | notText lossy => "Invalid utf8: " ++ lossy
  | unrecognized argument => "Unrecognized argument: " ++ argument ++ "\n"
  | noValue option => "No value provided for option '" ++ option ++ "'.\n"
  | badValue option value reason =>
    "Error parsing option '" ++ option ++ "' with value '" ++ value ++ "': " ++ reason ++ "\n"
  | trailing => "Trailing arguments are not allowed after `help`."
  | missing names =>
    "Required positional arguments not provided:"
      ++ String.join (names.map fun name => "\n    " ++ name) ++ "\n"

end ImageGateway.CommandLine
