-- The tree of a JSON document, finished or not. The tree does not refuse
-- anything: where the document goes wrong, the tree says what stands there, and
-- each reader meets the first fault on its own way through the document. So a
-- value of the wrong type is reported before a fault that comes after it.

import ImageGateway.Json.Literal

namespace ImageGateway.Json

/-- A number or a string: its content for who reads it, and the place after it for who passes it
over. Either may be a fault instead. -/
structure Literal (α : Type) where
  content : Except Fault α
  stop : Except Fault Nat

/-- How a list ends. Each case but the last has the place where the end shows. -/
inductive ListEnd where
  /-- With its bracket. -/
  | closed (stop : Nat)
  /-- The document ends after an item, or after the opening bracket. -/
  | cut (offset : Nat)
  /-- Something that separates no items follows an item. -/
  | unseparated (offset : Nat)
  /-- The document ends after a comma. -/
  | cutAfterComma (offset : Nat)
  /-- The bracket follows a comma. -/
  | closedAfterComma (offset : Nat)
  /-- The last item has no end. -/
  | broken (fault : Fault)

/-- How the members of an object end. -/
inductive ObjectEnd where
  /-- With its brace. -/
  | closed (stop : Nat)
  /-- The document ends after a member, or after the opening brace. -/
  | cut (offset : Nat)
  /-- Something that separates no members follows a member. -/
  | unseparated (offset : Nat)
  /-- The document ends after a comma. -/
  | cutAfterComma (offset : Nat)
  /-- The brace follows a comma. -/
  | closedAfterComma (offset : Nat)
  /-- No key stands where one should. -/
  | unkeyed (offset : Nat)
  /-- The last member has no end. -/
  | broken (fault : Fault)

/-- The key of a member. -/
structure Key where
  text : Literal String
  /-- The place where a repeated key is reported: behind the white space after it, and behind a
  brace that closes the object there. -/
  noticed : Nat

/-- A value of a document, or what stands in its place. -/
inductive Node where
  /-- No value stands here, for any reader. -/
  | absent (fault : Fault)
  | null (stop : Nat)
  | boolean (b : Bool) (stop : Nat)
  | number (n : Literal Number)
  | text (s : Literal String)
  /-- The items with the places where they start. -/
  | list (start : Nat) (items : List (Nat × Node)) (tail : ListEnd)
  | object (start : Nat) (members : List (Key × Node)) (tail : ObjectEnd)

/-- A document: its value, and the place of the first thing after it, if there is one. -/
structure Document where
  root : Node
  extra : Option Nat

/-! ## Ends, as the readers of a list or an object meet them -/

/-- A reader that wants one item more. -/
def ListEnd.whileReading : ListEnd → Except Fault Nat
  | closed stop => .ok stop
  | cut o => .error ⟨.listCut, o⟩
  | unseparated o => .error ⟨.noListSeparator, o + 1⟩
  | cutAfterComma o => .error ⟨.valueCut, o⟩
  | closedAfterComma o => .error ⟨.trailingComma, o + 1⟩
  | broken f => .error f

/-- A reader that has all the items it knows of. -/
def ListEnd.afterLast : ListEnd → Except Fault Nat
  | closed stop => .ok stop
  | cut o => .error ⟨.listCut, o⟩
  | unseparated o => .error ⟨.trailingText, o + 1⟩
  | cutAfterComma o => .error ⟨.trailingText, o⟩
  | closedAfterComma o => .error ⟨.trailingComma, o + 1⟩
  | broken f => .error f

/-- A reader that passes the list over. -/
def ListEnd.passing : ListEnd → Except Fault Nat
  | closed stop => .ok stop
  | cut o => .error ⟨.listCut, o⟩
  | unseparated o => .error ⟨.noListSeparator, o + 1⟩
  | cutAfterComma o => .error ⟨.valueCut, o⟩
  | closedAfterComma o => .error ⟨.noValue, o + 1⟩
  | broken f => .error f

/-- A reader that looks at the members. -/
def ObjectEnd.whileReading : ObjectEnd → Except Fault Nat
  | closed stop => .ok stop
  | cut o => .error ⟨.objectCut, o⟩
  | unseparated o => .error ⟨.noMemberSeparator, o + 1⟩
  | cutAfterComma o => .error ⟨.valueCut, o⟩
  | closedAfterComma o => .error ⟨.trailingComma, o + 1⟩
  | unkeyed o => .error ⟨.keyNotText, o + 1⟩
  | broken f => .error f

/-- A reader that passes the object over. -/
def ObjectEnd.passing : ObjectEnd → Except Fault Nat
  | closed stop => .ok stop
  | cut o => .error ⟨.objectCut, o⟩
  | unseparated o => .error ⟨.noMemberSeparator, o + 1⟩
  | cutAfterComma o => .error ⟨.objectCut, o⟩
  | closedAfterComma o => .error ⟨.keyNotText, o + 1⟩
  | unkeyed o => .error ⟨.keyNotText, o + 1⟩
  | broken f => .error f

mutual

/-- Passes a value over, whatever it is: the place after it, or the first fault in it. -/
def Node.pass : Node → Except Fault Nat
  | .absent f => .error f
  | .null stop => .ok stop
  | .boolean _ stop => .ok stop
  | .number n => n.stop
  | .text s => s.stop
  | .list _ items tail => passItems items tail
  | .object _ members tail => passMembers members tail

/-- Passes the items of a list over. -/
def passItems : List (Nat × Node) → ListEnd → Except Fault Nat
  | [], tail => tail.passing
  | (_, item) :: rest, tail =>
    match item.pass with
    | .error f => .error f
    | .ok _ => passItems rest tail

/-- Passes the members of an object over. -/
def passMembers : List (Key × Node) → ObjectEnd → Except Fault Nat
  | [], tail => tail.passing
  | (key, value) :: rest, tail =>
    match key.text.stop with
    | .error f => .error f
    | .ok _ =>
      match value.pass with
      | .error f => .error f
      | .ok _ => passMembers rest tail

end

/-! ## From text to tree -/

/-- A word of the language, of which the first letter stands at the place. -/
def word (c : Cursor) (letters : List UInt8) : Except Fault Cursor :=
  match letters with
  | [] => .ok c
  | l :: ls =>
    match c.rest with
    | [] => .error (c.fault .valueCut)
    | b :: _ => if b == l then word (c.skip 1) ls else .error ((c.skip 1).fault .wrongWord)

/-- A literal that starts at the place: what reading and passing over make of it. -/
def literal {α : Type} (c : Cursor) (read : Cursor → Except Fault (α × Cursor))
    (pass : Cursor → Except Fault Cursor) : Literal α × Option Cursor :=
  (⟨(read c).map (·.1), (pass c).map (·.offset)⟩, (pass c).toOption)

mutual

/-- The value that starts at the place, and the place after it if it has an end. -/
def parseValue : Nat → Cursor → Node × Option Cursor
  | 0, c => (.absent (c.fault .valueCut), none)
  | fuel + 1, c =>
    match c.rest with
    | [] => (.absent (c.fault .valueCut), none)
    | b :: _ =>
      if b == 110 then
        match word c [110, 117, 108, 108] with
        | .ok after => (.null after.offset, some after)
        | .error f => (.absent f, none)
      else if b == 116 then
        match word c [116, 114, 117, 101] with
        | .ok after => (.boolean true after.offset, some after)
        | .error f => (.absent f, none)
      else if b == 102 then
        match word c [102, 97, 108, 115, 101] with
        | .ok after => (.boolean false after.offset, some after)
        | .error f => (.absent f, none)
      else if b == 45 || isDigit b then
        let (n, after) := literal c readNumber passNumber
        (.number n, after)
      else if b == 34 then
        let (s, after) := literal (c.skip 1) readText passText
        (.text s, after)
      else if b == 91 then
        let (items, tail, after) := parseItems fuel (c.skip 1).skipSpace
        (.list c.offset items tail, after)
      else if b == 123 then
        let (members, tail, after) := parseMembers fuel (c.skip 1).skipSpace
        (.object c.offset members tail, after)
      else (.absent (c.faultNext .noValue), none)

/-- The items of a list, from after its bracket on. -/
def parseItems : Nat → Cursor → List (Nat × Node) × ListEnd × Option Cursor
  | 0, c => ([], .cut c.offset, none)
  | fuel + 1, c =>
    match c.rest with
    | [] => ([], .cut c.offset, none)
    | b :: _ =>
      if b == 93 then ([], .closed (c.offset + 1), some (c.skip 1))
      else
        let (items, tail, after) := parseItem fuel c
        (items, tail, after)

/-- The items of a list, from an item on. -/
def parseItem : Nat → Cursor → List (Nat × Node) × ListEnd × Option Cursor
  | 0, c => ([], .cut c.offset, none)
  | fuel + 1, c =>
    match parseValue fuel c with
    | (item, none) => ([(c.offset, item)], .broken (c.fault .valueCut), none)
    | (item, some after) =>
      let d := after.skipSpace
      match d.rest with
      | [] => ([(c.offset, item)], .cut d.offset, none)
      | b :: _ =>
        if b == 93 then ([(c.offset, item)], .closed (d.offset + 1), some (d.skip 1))
        else if b == 44 then
          let e := (d.skip 1).skipSpace
          match e.rest with
          | [] => ([(c.offset, item)], .cutAfterComma e.offset, none)
          | b :: _ =>
            if b == 93 then ([(c.offset, item)], .closedAfterComma e.offset, none)
            else
              let (items, tail, after) := parseItem fuel e
              ((c.offset, item) :: items, tail, after)
        else ([(c.offset, item)], .unseparated d.offset, none)

/-- The members of an object, from after its brace on. -/
def parseMembers : Nat → Cursor → List (Key × Node) × ObjectEnd × Option Cursor
  | 0, c => ([], .cut c.offset, none)
  | fuel + 1, c =>
    match c.rest with
    | [] => ([], .cut c.offset, none)
    | b :: _ =>
      if b == 125 then ([], .closed (c.offset + 1), some (c.skip 1))
      else if b == 34 then parseMember fuel c
      else ([], .unkeyed c.offset, none)

/-- The members of an object, from a key on. -/
def parseMember : Nat → Cursor → List (Key × Node) × ObjectEnd × Option Cursor
  | 0, c => ([], .cut c.offset, none)
  | fuel + 1, c =>
    let broken := ObjectEnd.broken (c.fault .valueCut)
    match literal (c.skip 1) readText passText with
    | (text, none) => ([(⟨text, c.offset⟩, .absent (c.fault .valueCut))], broken, none)
    | (text, some after) =>
      let d := after.skipSpace
      match d.rest with
      | [] => ([(⟨text, d.offset⟩, .absent (d.fault .objectCut))], broken, none)
      | b :: _ =>
        if b != 58 then
          let noticed := if b == 125 then d.offset + 1 else d.offset
          ([(⟨text, noticed⟩, .absent (d.faultNext .noColon))], broken, none)
        else
          let key : Key := ⟨text, d.offset⟩
          match parseValue fuel (d.skip 1).skipSpace with
          | (value, none) => ([(key, value)], broken, none)
          | (value, some after) =>
            let e := after.skipSpace
            match e.rest with
            | [] => ([(key, value)], .cut e.offset, none)
            | b :: _ =>
              if b == 125 then ([(key, value)], .closed (e.offset + 1), some (e.skip 1))
              else if b == 44 then
                let g := (e.skip 1).skipSpace
                match g.rest with
                | [] => ([(key, value)], .cutAfterComma g.offset, none)
                | b :: _ =>
                  if b == 34 then
                    let (members, tail, after) := parseMember fuel g
                    ((key, value) :: members, tail, after)
                  else if b == 125 then ([(key, value)], .closedAfterComma g.offset, none)
                  else ([(key, value)], .unkeyed g.offset, none)
              else ([(key, value)], .unseparated e.offset, none)

end

/-- The document that the bytes hold. Each step of the parser but two in a row takes a byte, which
bounds their number. -/
def Document.parse (bytes : List UInt8) : Document :=
  match parseValue (3 * bytes.length + 3) (Cursor.skipSpace ⟨0, bytes⟩) with
  | (root, none) => ⟨root, none⟩
  | (root, some after) =>
    let d := after.skipSpace
    ⟨root, if d.rest.isEmpty then none else some d.offset⟩

end ImageGateway.Json
