-- Programs that ask. A program is a tree of requests to the outside world:
-- calls of the native libraries, looks at native memory, the table of entry
-- points, the loader, the environment, the log and standard output. Nothing in
-- a program knows the answers, so what holds of a program holds for all of them.

import ImageGateway.Native.Call
import ImageGateway.Library.Fault

namespace ImageGateway

/-- How urgent a log line is. -/
inductive Level where
  | warn
  | debug
  deriving DecidableEq, Repr

/-- A request to the outside world. -/
inductive Request where
  /-- A native call. -/
  | call (call : Call)
  /-- The type that the header of a native object names. -/
  | instanceType (object : Handle)
  /-- Writes a handle into an image slot of a cell. -/
  | fillSlot (cell : Cell) (place : Nat) (image : Handle)
  /-- The published table, if there is one. -/
  | table
  /-- Offers a table for publication. The table that is published afterwards comes back. -/
  | publish (table : Table)
  /-- Asks the loader for a library. -/
  | openLibrary (name : CText)
  /-- Asks for an entry point of a library. -/
  | resolve (library : Library) (symbol : Symbol)
  /-- The bytes of an environment variable, if it is set. -/
  | environment (name : String)
  /-- Whether log lines of this level are kept. -/
  | logs (level : Level)
  /-- Writes a log line. -/
  | log (level : Level) (line : String)
  /-- Writes a line to standard output. -/
  | print (line : String)
  deriving DecidableEq

/-- What a request is answered with. -/
abbrev Request.Reply : Request → Type
  | call c => c.Reply
  | instanceType _ => TypeId
  | table => Option Table
  | publish _ => Table
  | openLibrary _ => Except LoaderFault Library
  | resolve _ _ => Except LoaderFault Unit
  | environment _ => Option (List UInt8)
  | logs _ => Bool
  | fillSlot _ _ _ | log _ _ | print _ => Unit

/-- A program: an answer, or a request and what to do with each reply. -/
inductive Program (α : Type) : Type where
  | done (answer : α)
  | ask (request : Request) (next : request.Reply → Program α)

namespace Program

variable {α β : Type}

/-- The first program, and then the one that its answer gives. -/
def bind : Program α → (α → Program β) → Program β
  | done a, f => f a
  | ask q k, f => ask q (fun r => (k r).bind f)

instance : Monad Program where
  pure := done
  bind := bind

/-- One request. Its reply is the answer. -/
def request (q : Request) : Program q.Reply := ask q done

/-- Carries out a program, given what answers the requests. -/
def run {m : Type → Type} [Monad m] (answer : (q : Request) → m q.Reply) : Program α → m α
  | done a => pure a
  | ask q k => do run answer (k (← answer q))

@[simp] theorem done_bind (a : α) (f : α → Program β) : (done a).bind f = f a := rfl

@[simp] theorem ask_bind (q : Request) (k : q.Reply → Program α) (f : α → Program β) :
    (ask q k).bind f = ask q (fun r => (k r).bind f) := rfl

@[simp] theorem pure_eq (a : α) : (pure a : Program α) = done a := rfl

@[simp] theorem bind_eq (p : Program α) (f : α → Program β) : p >>= f = p.bind f := rfl

@[simp] theorem bind_done (p : Program α) : p.bind done = p := by
  induction p with
  | done a => rfl
  | ask q k ih => simp [ih]

theorem bind_assoc {γ : Type} (p : Program α) (f : α → Program β) (g : β → Program γ) :
    (p.bind f).bind g = p.bind (fun a => (f a).bind g) := by
  induction p with
  | done a => rfl
  | ask q k ih => simp [ih]

instance : LawfulMonad Program :=
  LawfulMonad.mk' Program (fun p => bind_done p) (fun _ _ => rfl) (fun p f g => bind_assoc p f g)

end Program

def native (call : Call) : Program call.Reply := Program.request (.call call)

def logLine (level : Level) (line : String) : Program Unit := Program.request (.log level line)

def table? : Program (Option Table) := Program.request .table

def instanceType (object : Handle) : Program TypeId := Program.request (.instanceType object)

end ImageGateway
