-- What a program did: its requests in order, each with the reply it got. A
-- program has a transcript for every choice of replies, so a law about all
-- transcripts of a program is a law about every outside world.

import ImageGateway.Program.Basic

namespace ImageGateway

/-- A request and its reply. -/
structure Event where
  request : Request
  reply : request.Reply

/-- The requests of a run and their replies, oldest first. -/
abbrev Transcript := List Event

/-- The native calls of a transcript, oldest first. -/
def Transcript.calls (events : Transcript) : List Call :=
  events.filterMap fun e =>
    match e.request with
    | .call c => some c
    | _ => none

namespace Program

variable {α β : Type}

/-- The program can answer `answer` and do what the transcript says. -/
inductive Runs : Program α → Transcript → α → Prop where
  | done (a : α) : Runs (done a) [] a
  | ask {q : Request} {k : q.Reply → Program α} {events : Transcript} {a : α} (r : q.Reply) :
      Runs (k r) events a → Runs (ask q k) (⟨q, r⟩ :: events) a

theorem runs_done_iff {a b : α} {events : Transcript} :
    Runs (done a) events b ↔ events = [] ∧ b = a := by
  constructor
  · rintro ⟨⟩
    exact ⟨rfl, rfl⟩
  · rintro ⟨rfl, rfl⟩
    exact .done b

theorem runs_ask_iff {q : Request} {k : q.Reply → Program α} {events : Transcript} {a : α} :
    Runs (ask q k) events a ↔ ∃ r rest, events = ⟨q, r⟩ :: rest ∧ Runs (k r) rest a := by
  constructor
  · rintro ⟨⟩
    rename_i rest r h
    exact ⟨r, rest, rfl, h⟩
  · rintro ⟨r, rest, rfl, h⟩
    exact .ask r h

/-- What two programs do one after the other falls into what each of them does. -/
theorem runs_bind_iff {p : Program α} {f : α → Program β} {events : Transcript} {b : β} :
    Runs (p.bind f) events b ↔
      ∃ first second a, events = first ++ second ∧ Runs p first a ∧ Runs (f a) second b := by
  induction p generalizing events with
  | done a =>
    constructor
    · intro h
      exact ⟨[], events, a, rfl, .done a, h⟩
    · rintro ⟨first, second, a', rfl, h, h'⟩
      obtain ⟨rfl, rfl⟩ := runs_done_iff.1 h
      exact h'
  | ask q k ih =>
    rw [ask_bind, runs_ask_iff]
    constructor
    · rintro ⟨r, rest, rfl, h⟩
      obtain ⟨first, second, a, rfl, h1, h2⟩ := (ih r).1 h
      exact ⟨⟨q, r⟩ :: first, second, a, rfl, .ask r h1, h2⟩
    · rintro ⟨first, second, a, rfl, h1, h2⟩
      obtain ⟨r, rest, rfl, h⟩ := runs_ask_iff.1 h1
      exact ⟨r, rest ++ second, rfl, (ih r).2 ⟨rest, second, a, rfl, h, h2⟩⟩

end Program

end ImageGateway
