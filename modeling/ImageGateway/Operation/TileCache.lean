-- The tile cache: an image whose pixels are kept once they are computed, so
-- that a second request for the same area costs nothing.

import ImageGateway.Operation.Basic

namespace ImageGateway

/-- The parameters of a tile cache. The library has a default for each. -/
structure TileOptions where
  /-- Tiles that are kept, at most. -/
  maxTiles : Option Int32 := none
  /-- In pixels. -/
  tileHeight : Option Int32 := none
  /-- In pixels. -/
  tileWidth : Option Int32 := none
  deriving DecidableEq, Repr

namespace TileOptions

/-- The parameters that are set, by name, in the order of assignment. -/
def arguments (options : TileOptions) : List (String × Int32) :=
  [("max_tiles", options.maxTiles), ("tile_height", options.tileHeight),
    ("tile_width", options.tileWidth)].filterMap fun (name, value) => value.map (name, ·)

/-- The options of the call that caches the image. -/
def callOptions (options : TileOptions) (image : Image) : CallOptions where
  inputs := ("in", .image image) :: options.arguments.map fun (name, n) => (name, .int n)
  outputs := [("out", .image none)]

end TileOptions

/-- Puts a tile cache behind the image. -/
def tileCache (image : Image) (options : TileOptions) : Attempt Image := do
  let outputs ← Operation.callFor "cache" (options.callOptions image)
  Operation.firstImage outputs

end ImageGateway
