-- Where the native libraries are looked for.

import ImageGateway.Json.Reader
import ImageGateway.Program.Basic

namespace ImageGateway

/-- A path of the file system, as its bytes. -/
structure Path where
  bytes : List UInt8
  deriving DecidableEq, Repr

/-- The path with a replacement character for each part that is not UTF-8. -/
def Path.lossy (path : Path) : String := Text.Utf8.lossy path.bytes

/-- The path that a text spells. -/
def Path.ofString (s : String) : Path := ⟨Text.Utf8.encode s⟩

/-- The names under which a library is tried, in order. There is always one. -/
structure Candidates where
  first : String
  others : List String
  deriving DecidableEq, Repr

def Candidates.toList (c : Candidates) : List String := c.first :: c.others

/-- Where to find the native libraries. What is not set falls back to the usual names, which the
loader looks up on its own search path. -/
structure LibraryPaths where
  /-- The image library. -/
  vips : Option Path := none
  /-- The object system. It is only needed where its entry points cannot be seen through the image
  library. -/
  gobject : Option Path := none
  deriving DecidableEq, Repr

namespace LibraryPaths

/-- An explicit path is the only candidate. -/
def candidates (explicit : Option Path) (usual : Candidates) : Candidates :=
  match explicit with
  | some path => ⟨path.lossy, []⟩
  | none => usual

/-- The names tried for the image library. -/
def vipsCandidates (paths : LibraryPaths) : Candidates :=
  candidates paths.vips ⟨"libvips.so.42", ["libvips.so"]⟩

/-- The names tried for the object system. -/
def gobjectCandidates (paths : LibraryPaths) : Candidates :=
  candidates paths.gobject ⟨"libgobject-2.0.so.0", ["libgobject-2.0.so"]⟩

def fromEnvironment : Program LibraryPaths := do
  let vips ← Program.request (.environment "VIPS_LIBRARY_PATH")
  let gobject ← Program.request (.environment "GOBJECT_LIBRARY_PATH")
  return ⟨vips.map Path.mk, gobject.map Path.mk⟩

def readPath (node : Json.Node) : Except Json.Fault (Option Path) :=
  node.readOptional fun n => (n.readText "path string").map Path.ofString

/-- The fields of the paths in a document. -/
def fields : List (Json.Field LibraryPaths) := [
  .of "vips" readPath fun paths path => { paths with vips := path },
  .of "gobject" readPath fun paths path => { paths with gobject := path }]

def read : Json.Node → Except Json.Fault LibraryPaths :=
  Json.readRecord "struct LibraryConfig" fields { }

end LibraryPaths

end ImageGateway
