-- The limits of the operation cache. A limit that is not set leaves the one in
-- force alone.

import ImageGateway.Control
import ImageGateway.Json.Reader

namespace ImageGateway

/-- Limits of the operation cache. -/
structure CacheLimits where
  maxOperations : Option Int32 := none
  /-- In bytes. -/
  maxMem : Option UInt64 := none
  maxFiles : Option Int32 := none
  deriving DecidableEq, Repr

namespace CacheLimits

/-- The settings that the limits ask for, in the order in which they are made. -/
def settings (limits : CacheLimits) : List Setting :=
  (limits.maxOperations.map Setting.cacheMax).toList
    ++ (limits.maxMem.map Setting.cacheMaxMem).toList
    ++ (limits.maxFiles.map Setting.cacheMaxFiles).toList

/-- Puts the limits in force. Without any limit the library is not needed. -/
def apply (limits : CacheLimits) : Attempt Unit := limits.settings.forM Control.apply

def current : Attempt CacheLimits := do
  let maxOperations ← Control.read .cacheMax
  let maxMem ← Control.read .cacheMaxMem
  let maxFiles ← Control.read .cacheMaxFiles
  return ⟨some maxOperations, some maxMem, some maxFiles⟩

/-- The fields of the limits in a document. -/
def fields : List (Json.Field CacheLimits) := [
  .of "max_operations" (·.readOptional Json.Node.readInt32)
    fun limits n => { limits with maxOperations := n },
  .of "max_mem" (·.readOptional Json.Node.readUInt64)
    fun limits n => { limits with maxMem := n },
  .of "max_files" (·.readOptional Json.Node.readInt32)
    fun limits n => { limits with maxFiles := n }]

def read : Json.Node → Except Json.Fault CacheLimits :=
  Json.readRecord "struct CacheLimits" fields { }

end CacheLimits

end ImageGateway
