-- Sessions: a program and a foreign host use the gateway step by step, in any
-- order and with any answers of the library.

import ImageGateway.Proofs.Custody.Exports
import ImageGateway.Proofs.Tally

namespace ImageGateway

/-- Something that can be handed in as a bare reference. -/
def Holding.IsReference : Holding → Prop
  | .object _ | .image _ | .blob _ => True
  | _ => False

/-- Who owns what between two steps. -/
structure World where
  /-- What the program holds. -/
  held : List Holding
  /-- What was given away to a foreign owner. -/
  given : List Holding
  /-- The references that were handed in. -/
  received : List Holding
  /-- The cells that the host initialised itself. -/
  own : List Cell

namespace World

/-- The beginning: nobody owns anything. -/
def empty : World := ⟨[], [], [], []⟩

end World

/-- A step of a session. -/
inductive Act where
  /-- The program does something. -/
  | deed (deed : Deed)
  /-- The program gives something away, and does not release it any more. -/
  | give (thing : Holding)
  /-- A reference that someone else owned is handed in. -/
  | receive (thing : Holding)
  /-- A value that was given away comes back. -/
  | takeBack (value : Value)
  /-- An empty cell is handed in as a value. -/
  | takeEmpty
  /-- The host calls an entry point. -/
  | enter (entry : Export)
  /-- The host initialises a cell of its own. -/
  | hostInit (number : Nat) (type : TypeId)
  /-- The host unsets a cell of its own. -/
  | hostUnset (cell : Cell)
  /-- The host unsets a cell that was given to it. -/
  | hostDrop (value : Value)

namespace Act

/-- Whether the step is one of the program alone. -/
def IsProgram : Act → Prop
  | deed _ | give _ | receive _ | takeBack _ | takeEmpty => True
  | _ => False

/-- What a step does, and who owns what after it. -/
inductive Step : World → Act → Transcript → World → Prop where
  | deed {w : World} {d : Deed} {rest made : List Holding} {events : Transcript}
      (held : w.held.Perm (d.uses ++ rest)) (lent : ∀ v, d.lent? = some v → .value v ∈ w.held)
      (run : d.program.Runs events made) :
      Step w (.deed d) events { w with held := made ++ rest }
  | give {w : World} {thing : Holding} {rest : List Holding} (held : w.held.Perm (thing :: rest)) :
      Step w (.give thing) [] { w with held := rest, given := thing :: w.given }
  | receive {w : World} {thing : Holding} (reference : thing.IsReference) :
      Step w (.receive thing) []
        { w with held := thing :: w.held, received := thing :: w.received }
  | takeBack {w : World} {v : Value} {rest : List Holding}
      (given : w.given.Perm (.value v :: rest)) :
      Step w (.takeBack v) [] { w with held := .value v :: w.held, given := rest }
  | takeEmpty {w : World} :
      Step w .takeEmpty [] { w with held := .value ⟨.empty⟩ :: w.held }
  | enter {w : World} {entry : Export} {stored : List Holding} {events : Transcript}
      (lent : ∀ c, entry.lent? = some c → .value ⟨c⟩ ∈ w.given ∨ c ∈ w.own)
      (run : entry.program.Runs events stored) :
      Step w (.enter entry) events { w with given := stored ++ w.given }
  | hostInit {w : World} (number : Nat) (type : TypeId) :
      Step w (.hostInit number type) [⟨.call (.cellInit type), some number⟩]
        { w with own := ⟨some number, type⟩ :: w.own }
  | hostUnset {w : World} {c : Cell} {rest : List Cell} (own : w.own.Perm (c :: rest)) :
      Step w (.hostUnset c) [⟨.call (.cellUnset c), ()⟩] { w with own := rest }
  | hostDrop {w : World} {v : Value} {rest : List Holding}
      (given : w.given.Perm (.value v :: rest)) :
      Step w (.hostDrop v) [⟨.call (.cellUnset v.cell), ()⟩] { w with given := rest }

end Act

/-- The steps taken so far, oldest first, each with what it asked and was answered. -/
abbrev Past := List (Act × Transcript)

/-- All that was asked and answered so far. -/
def Past.trace (past : Past) : Transcript := past.flatMap (·.2)

/-- What can have happened from the empty world on. -/
inductive Session : Past → World → Prop where
  | start : Session [] .empty
  | step {past : Past} {w w' : World} {act : Act} {events : Transcript} :
      Session past w → act.Step w events w' → Session (past ++ [(act, events)]) w'

@[simp] theorem Past.trace_nil : Past.trace [] = [] := rfl

@[simp] theorem Past.trace_snoc (past : Past) (act : Act) (events : Transcript) :
    Past.trace (past ++ [(act, events)]) = past.trace ++ events := by
  simp [Past.trace]

end ImageGateway
