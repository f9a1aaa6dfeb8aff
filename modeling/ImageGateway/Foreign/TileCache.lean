-- Entry points for the tile cache, with named parameters and without.

import ImageGateway.Foreign.Basic
import ImageGateway.Operation.TileCache

namespace ImageGateway.Foreign

/-- Caches an image of the caller and stores a new reference. The answer is 0 or -1, and what was
stored. -/
def runTileCache (entry : String) (image : Option Handle) (place : Place) (options : TileOptions) :
    Program (Int32 × Option Handle) := do
  match place with
  | .null =>
    warn entry "null output pointer"
    return (-1, none)
  | .writable =>
    let cached ← guarded entry do
      match ← Image.borrow? image with
      | some borrowed => (tileCache borrowed options).closedBy borrowed.release
      | none => throw (.nullPointer .image)
    match cached with
    | some image => return (0, some image.object.handle)
    | none => return (-1, none)

/-- Caches an image with the defaults of the library. -/
def cacheImage (image : Option Handle) (place : Place) : Program (Int32 × Option Handle) :=
  runTileCache "vips_cache_bridge" image place { }

/-- Sets the parameter of the name, if there is one. -/
def setTileOption? (options : TileOptions) (name : String) (n : Int32) : Option TileOptions :=
  if name = "max_tiles" then some { options with maxTiles := some n }
  else if name = "tile_height" then some { options with tileHeight := some n }
  else if name = "tile_width" then some { options with tileWidth := some n }
  else none

/-- Gathers named parameters. Of two with the same name the later one counts, and an unknown name
is refused. -/
def parseTileOptions : TileOptions → List (String × Int32) → Except String TileOptions
  | options, [] => .ok options
  | options, (name, n) :: rest =>
    match setTileOption? options name n with
    | some options => parseTileOptions options rest
    | none => .error ("unknown cache option " ++ Text.quote name)

/-- The pairs up to the first null name. A name that is not UTF-8 is logged and ends it all. -/
def borrowPairs (entry : String) :
    List (Option CText × Int32) → Program (Option (List (String × Int32)))
  | [] => return some []
  | (none, _) :: _ => return some []
  | (some name, n) :: rest => do
    match ← borrowText entry (some name) with
    | none => return none
    | some name => return (← borrowPairs entry rest).map ((name, n) :: ·)

/-- Caches an image with named parameters. A null name ends their list. -/
def cacheImageWith (image : Option Handle) (place : Place)
    (pairs : List (Option CText × Int32)) : Program (Int32 × Option Handle) := do
  let entry := "vips_cache_fixed_bridge"
  match ← borrowPairs entry pairs with
  | none => return (-1, none)
  | some pairs =>
    match parseTileOptions { } pairs with
    | .ok options => runTileCache entry image place options
    | .error text =>
      warn entry text
      return (-1, none)

end ImageGateway.Foreign
