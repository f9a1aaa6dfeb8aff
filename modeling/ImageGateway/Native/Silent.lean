-- A library that exports its entry points and does nothing in them: every
-- answer is zero or null, and what was passed in is left as it was.

import ImageGateway.Native.Call

namespace ImageGateway

/-- What an entry point answers that does nothing. -/
def Call.silentReply : (call : Call) → call.Reply
  | .cellInit _ => none
  | .cellGet _ .boolean | .cellGet _ .int | .cellGet _ .enumeration => (0 : Int32)
  | .cellGet _ .uint64 => (0 : UInt64)
  | .cellGet _ .double => (⟨0⟩ : Double)
  | .cellGet _ .string | .cellGet _ .stringCopy => (none : Option CText)
  | .cellGet _ .boxedCopy | .cellGet _ .object => (none : Option Handle)
  | .cellGet _ .ints => (⟨none, 0⟩ : Block Int32)
  | .cellGet _ .doubles => (⟨none, 0⟩ : Block Double)
  | .slots _ => false
  | .typeName _ | .nicknameFind _ | .versionString | .errorBuffer | .findCodec _ _ => none
  | .fundamental _ | .registered _ => .invalid
  | .isA _ _ | .transformable _ _ => (0 : Int32)
  | .getArgument _ _ => ⟨0, none, none⟩
  | .enumFromNick _ _ _ | .extent _ _ | .start _ => (0 : Int32)
  | .operationNew _ | .sourceFromBlob _ | .targetToMemory | .blobCopy _ => none
  | .build operation => (0, some operation)
  | .blobGet _ => none
  | .read .trackedMem | .read .trackedMemHighwater | .read .discThreshold
  | .read .cacheMaxMem => (0 : UInt64)
  | .read .concurrency | .read .trackedAllocs | .read .cacheMax | .read .cacheMaxFiles
  | .read .cacheSize => (0 : Int32)
  | .cellUnset _ | .cellSet _ _ | .makeSlots _ _ | .ref _ | .unref _ | .areaUnref _ => ()
  | .getProperty _ _ _ | .setProperty _ _ _ | .unrefOutputs _ | .apply _ | .act _ => ()
  | .error _ _ _ | .errorSystem _ _ _ _ => ()

end ImageGateway
