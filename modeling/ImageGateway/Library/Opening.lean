-- Opening the native libraries and resolving their entry points. The image
-- library has to be there. The object system is searched second, and it may be
-- missing. One table is published for the whole process.

import ImageGateway.Library.Paths

namespace ImageGateway

/-- A program that loads something, or says why it could not. -/
abbrev Loading := ExceptT LoadFailure Program

/-- The name as the loader takes it: up to the zero byte at its end, if it has one there. -/
def loaderName (name : String) : Except LoaderFault CText :=
  let bytes := Text.Utf8.encode name
  if bytes.getLast? = some 0 then
    if h : 0 ∈ bytes.dropLast then .error (.zeroInTerminatedName name)
    else .ok ⟨bytes.dropLast, h⟩
  else if h : 0 ∈ bytes then .error (.zeroInName name)
  else .ok ⟨bytes, h⟩

/-- Asks the loader for one name. -/
def openNamed (name : String) : Program (Except LoaderFault Library) :=
  match loaderName name with
  | .error fault => return .error fault
  | .ok text => Program.request (.openLibrary text)

/-- Opens the first name that the loader accepts. The fault is that of the last name. -/
def openFirst (library : String) : String → List String → Program (Except LoaderFault Library)
  | name, others => do
    match ← openNamed name with
    | .ok opened =>
      logLine .debug ("Loaded " ++ library ++ " from " ++ name)
      return .ok opened
    | .error fault =>
      match others with
      | [] => return .error fault
      | next :: rest => openFirst library next rest

def openLibrary (library : String) (candidates : Candidates) : Loading Library := do
  match ← openFirst library candidates.first candidates.others with
  | .ok opened => return opened
  | .error fault => throw (.libraryNotFound library candidates.toList fault)

/-- The opened libraries, in the order of search. -/
structure Opened where
  vips : Library
  gobject : Option Library
  deriving DecidableEq, Repr

def Opened.count (o : Opened) : Nat := 1 + o.gobject.toList.length

/-- Opens the libraries. A missing object system is only logged. -/
def LibraryPaths.openAll (paths : LibraryPaths) : Loading Opened := do
  let vips ← openLibrary "libvips" paths.vipsCandidates
  match ← ExceptT.lift (openLibrary "libgobject" paths.gobjectCandidates).run with
  | .ok gobject => return ⟨vips, some gobject⟩
  | .error failure =>
    logLine .debug failure.message
    return ⟨vips, none⟩

/-- The first library that exports the entry point. -/
def Opened.resolve (o : Opened) (symbol : Symbol) : Loading Library := do
  match ← Program.request (.resolve o.vips symbol) with
  | .ok () => return o.vips
  | .error fault =>
    match o.gobject with
    | none => throw (.missingSymbol symbol fault)
    | some gobject =>
      match ← Program.request (.resolve gobject symbol) with
      | .ok () => return gobject
      | .error fault => throw (.missingSymbol symbol fault)

/-- Resolves entry points in order, up to the first that is missing. -/
def Opened.resolveAll (o : Opened) : List Symbol → Loading (List (Symbol × Library))
  | [] => return []
  | symbol :: symbols => do
    let library ← o.resolve symbol
    let rest ← o.resolveAll symbols
    return (symbol, library) :: rest

namespace Table

/-- Opens the libraries and resolves every entry point. Nothing is published. -/
def «open» (paths : LibraryPaths) : Loading Table := do
  let opened ← paths.openAll
  let bindings ← opened.resolveAll Symbol.all
  return ⟨opened.vips, opened.gobject, bindings⟩

/-- The published table. If there is none yet, one is opened and published; if another one was
published meanwhile, that one stays. -/
def load (paths : LibraryPaths) : Loading Table := do
  match ← table? with
  | some table => return table
  | none =>
    let table ← Table.open paths
    Program.request (.publish table)

end Table

end ImageGateway
