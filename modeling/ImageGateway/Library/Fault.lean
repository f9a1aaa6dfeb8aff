-- What can go wrong while the native libraries are opened and their entry
-- points looked up.

import ImageGateway.Native.Symbol
import ImageGateway.Text.Quoted
import ImageGateway.Text.Utf8

namespace ImageGateway

/-- A native library that the loader has opened. -/
structure Library where
  file : String
  deriving DecidableEq, Repr, Inhabited

/-- Why the loader refused. -/
inductive LoaderFault where
  /-- It did not open a file, and says why. -/
  | notOpened (reason : String)
  /-- It did not find an entry point, and says why. -/
  | notExported (reason : String)
  /-- The name has a zero byte before its end, so it never came to the loader. -/
  | zeroInName (name : String)
  /-- The name ends with a zero byte and has another one before it. -/
  | zeroInTerminatedName (name : String)
  deriving DecidableEq, Repr

namespace LoaderFault

def message : LoaderFault → String
  | notOpened reason => reason
  | notExported reason => reason
  | zeroInName _ => "could not create a C string from bytes"
  | zeroInTerminatedName _ => "could not create a C string from bytes with trailing null"

/-- The fault with its parts named, as the end of a whole program shows it. -/
def describe : LoaderFault → String
  | notOpened reason => Text.withParts "DlOpen" [("desc", Text.quoteNative reason)]
  | notExported reason => Text.withParts "DlSym" [("desc", Text.quoteNative reason)]
  | zeroInName name =>
    let place := toString (Text.Utf8.firstZero name)
    Text.withParts "CreateCString"
      [("source", "NulError(" ++ place ++ ", " ++ Text.Utf8.listed name ++ ")")]
  | zeroInTerminatedName name =>
    let place := toString (Text.Utf8.firstZero name)
    Text.withParts "CreateCStringWithTrailing"
      [("source", Text.withParts "InteriorNul" [("position", place)])]

end LoaderFault

/-- Why the native libraries could not be put to use. -/
inductive LoadFailure where
  /-- No candidate for a library could be opened. The fault is that of the last one. -/
  | libraryNotFound (name : String) (candidates : List String) (fault : LoaderFault)
  /-- No opened library exports an entry point. The fault is that of the last one. -/
  | missingSymbol (symbol : Symbol) (fault : LoaderFault)
  deriving DecidableEq, Repr

namespace LoadFailure

def message : LoadFailure → String
  | libraryNotFound name candidates fault =>
    "Could not open " ++ name ++ ", tried " ++ Text.quoteList candidates ++ ". " ++ fault.message
  | missingSymbol symbol fault =>
    "Symbol " ++ symbol.name ++ " is not exported by the loaded libraries. " ++ fault.message

/-- The failure with its parts named. -/
def describe : LoadFailure → String
  | libraryNotFound name candidates fault =>
    Text.withParts "LibraryNotFound"
      [("name", Text.quote name), ("candidates", Text.quoteList candidates),
        ("source", fault.describe)]
  | missingSymbol symbol fault =>
    Text.withParts "MissingSymbol"
      [("symbol", Text.quote symbol.name), ("source", fault.describe)]

end LoadFailure

/-- The resolved entry points: which library each is taken from. The libraries stay open as long
as the table lives. -/
structure Table where
  vips : Library
  gobject : Option Library
  bindings : List (Symbol × Library)
  deriving DecidableEq

namespace Table

/-- The opened libraries, in the order in which they are searched. -/
def libraries (table : Table) : List Library := table.vips :: table.gobject.toList

/-- The library that an entry point is taken from. -/
def binding? (table : Table) (symbol : Symbol) : Option Library := table.bindings.lookup symbol

end Table

end ImageGateway
