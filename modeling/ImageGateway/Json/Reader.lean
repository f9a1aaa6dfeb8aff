-- Reading values of a wanted type from a tree. A record can stand as an
-- object, with its keys in any order, or as a list of its fields in order.
-- What is not said keeps its default, and keys that nobody knows are passed
-- over.

import ImageGateway.Json.Node

namespace ImageGateway.Json

/-- The fault of a value that is not of the wanted type, unless something in it comes first. -/
def Node.refuse {α : Type} (expected : String) : Node → Except Fault α
  | .absent f => .error f
  | .null stop => .error ⟨.wrongType .null expected, stop⟩
  | .boolean b stop => .error ⟨.wrongType (.boolean b) expected, stop⟩
  | .number n => do
    let found ← n.content
    let stop ← n.stop
    .error ⟨.wrongType (.number found) expected, stop⟩
  | .text s => do
    let found ← s.content
    let stop ← s.stop
    .error ⟨.wrongType (.text found) expected, stop⟩
  | .list start _ _ => .error ⟨.wrongType .sequence expected, start⟩
  | .object start _ _ => .error ⟨.wrongType .map expected, start⟩

def Node.readText (expected : String) : Node → Except Fault String
  | .text s => s.content
  | node => node.refuse expected

def Node.readBoolean : Node → Except Fault Bool
  | .boolean b _ => .ok b
  | node => node.refuse "a boolean"

/-- The number as one of 32 bits. -/
def Number.toInt32? : Number → Option Int32
  | .natural n => if n.toNat ≤ Int32.maxValue.toInt then some (Int32.ofNat n.toNat) else none
  | .negative n => if Int32.minValue.toInt ≤ n.toInt then some (Int32.ofInt n.toInt) else none
  | .floating _ => none

/-- The number as a count of 64 bits. -/
def Number.toUInt64? : Number → Option UInt64
  | .natural n => some n
  | .negative _ | .floating _ => none

/-- Reads a whole number that `convert` accepts. -/
def Node.readWhole {α : Type} (expected : String) (convert : Number → Option α) :
    Node → Except Fault α
  | .number n => do
    let found ← n.content
    match convert found, found with
    | some x, _ => .ok x
    | none, .floating _ => (Node.number n).refuse expected
    | none, _ => do
      let stop ← n.stop
      .error ⟨.wrongValue found expected, stop⟩
  | node => node.refuse expected

def Node.readInt32 : Node → Except Fault Int32 := Node.readWhole "i32" Number.toInt32?

def Node.readUInt64 : Node → Except Fault UInt64 := Node.readWhole "usize" Number.toUInt64?

/-- Reads a value that may be null. -/
def Node.readOptional {α : Type} (read : Node → Except Fault α) : Node → Except Fault (Option α)
  | .null _ => .ok none
  | node => (read node).map some

/-! ## Records -/

/-- A field of a record: its key, and what its value does to the record. -/
structure Field (ρ : Type) where
  key : String
  read : Node → Except Fault (ρ → ρ)

/-- A field that `read` reads and `set` puts into the record. -/
def Field.of {ρ α : Type} (key : String) (read : Node → Except Fault α) (set : ρ → α → ρ) :
    Field ρ :=
  ⟨key, fun node => (read node).map fun a r => set r a⟩

/-- Reads the members of an object into a record. The keys in `seen` were read before. -/
def readMembers {ρ : Type} (fields : List (Field ρ)) :
    List (Key × Node) → ObjectEnd → List String → ρ → Except Fault ρ
  | [], tail, _, record => tail.whileReading.map fun _ => record
  | (key, value) :: rest, tail, seen, record => do
    let name ← key.text.content
    match fields.find? (·.key == name) with
    | some field =>
      if seen.contains name then .error ⟨.repeatedKey name, key.noticed⟩
      else
        let change ← field.read value
        readMembers fields rest tail (name :: seen) (change record)
    | none =>
      let _ ← value.pass
      readMembers fields rest tail seen record

/-- Reads the items of a list into the fields of a record, in order. -/
def readItems {ρ : Type} : List (Field ρ) → List (Nat × Node) → ListEnd → ρ → Except Fault ρ
  | [], [], tail, record => tail.afterLast.map fun _ => record
  | [], (start, _) :: _, _, _ => .error ⟨.trailingText, start + 1⟩
  | _ :: _, [], tail, record => tail.whileReading.map fun _ => record
  | field :: fields, (_, item) :: items, tail, record => do
    let change ← field.read item
    readItems fields items tail (change record)

/-- Reads a record, over its defaults. -/
def readRecord {ρ : Type} (expected : String) (fields : List (Field ρ)) (defaults : ρ) :
    Node → Except Fault ρ
  | .list _ items tail => readItems fields items tail defaults
  | .object _ members tail => readMembers fields members tail [] defaults
  | node => node.refuse expected

def readDocument {α : Type} (read : Node → Except Fault α) (text : String) : Except Problem α :=
  let bytes := Text.Utf8.encode text
  let document := Document.parse bytes
  let result := do
    let value ← read document.root
    match document.extra with
    | none => .ok value
    | some offset => .error ⟨.trailingText, offset + 1⟩
  result.mapError (Fault.locate bytes)

end ImageGateway.Json
