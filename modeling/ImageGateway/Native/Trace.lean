-- How a call is written down: its entry point and its arguments, each as a
-- plain datum. Whatever a call passes to the library can be seen here.

import ImageGateway.Native.Call

namespace ImageGateway

/-- One argument of a call. -/
inductive Datum where
  | null
  /-- Also a type number, and a truth value as 0 or 1. -/
  | number (n : Int)
  | double (x : Double)
  | text (t : CText)
  | handle (h : Handle)
  /-- A cell, by its number. -/
  | cell (number : Option Nat)
  | bytes (bytes : List UInt8)
  | numbers (xs : List Int)
  | doubles (xs : List Double)
  deriving DecidableEq

namespace Datum

def type (t : TypeId) : Datum := number t.code.toNat

/-- A truth value, as the library takes it. -/
def flag (b : Bool) : Datum := number (if b then 1 else 0)

def handle? : Option Handle → Datum
  | some h => handle h
  | none => null

def text? : Option CText → Datum
  | some t => text t
  | none => null

end Datum

def Payload.datum : Payload → Datum
  | .boolean n | .int n | .enumeration n => .number n.toInt
  | .uint64 n => .number n.toNat
  | .double x => .double x
  | .string t => .text t
  | .boxed h | .object h => .handle h
  | .ints xs => .numbers (xs.map Int32.toInt)
  | .doubles xs => .doubles xs

def Setting.datum : Setting → Datum
  | .leak on | .progress on | .cacheDump on | .cacheTrace on => .flag on
  | .concurrency n | .cacheMax n | .cacheMaxFiles n => .number n.toInt
  | .pipeReadLimit n => .number n.toInt
  | .cacheMaxMem n => .number n.toNat

/-- The arguments of a call, in order. -/
def Call.arguments : Call → List Datum
  | .cellInit t | .typeName t | .fundamental t | .nicknameFind t => [.type t]
  | .cellUnset c | .cellGet c _ | .slots c => [.cell c.number]
  | .cellSet c payload => [.cell c.number, payload.datum]
  | .makeSlots c n => [.cell c.number, .number n.toInt]
  | .isA t u | .transformable t u => [.type t, .type u]
  | .registered _ | .targetToMemory | .versionString | .errorBuffer | .read _ | .act _ => []
  | .ref h | .areaUnref h | .build h | .sourceFromBlob h | .blobGet h | .extent _ h => [.handle h]
  | .unref h | .unrefOutputs h => [.handle? h]
  | .getProperty h name c | .setProperty h name c => [.handle h, .text name, .cell c.number]
  | .getArgument h name => [.handle h, .text name]
  | .enumFromNick domain t nick => [.text? domain, .type t, .text? nick]
  | .operationNew t | .findCodec _ t | .start t => [.text t]
  | .blobCopy bytes => [.bytes bytes, .number bytes.length]
  | .apply setting => [setting.datum]
  | .error domain format message => [.text domain, .text format, .text message]
  | .errorSystem code domain format message =>
    [.number code.toInt, .text domain, .text format, .text message]

end ImageGateway
