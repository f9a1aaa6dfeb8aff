-- What a program asks for at all, whatever the outside world answers.

import ImageGateway.Gate
import ImageGateway.Program.Transcript

namespace ImageGateway

namespace Program

variable {ε α β : Type} {P : Request → Prop}

/-- Every request that the program can make is one of `P`. -/
def Asks (P : Request → Prop) : Program α → Prop
  | done _ => True
  | ask q k => P q ∧ ∀ r, Asks P (k r)

@[simp] theorem asks_done {a : α} : (done a).Asks P := trivial

@[simp] theorem asks_ask {q : Request} {k : q.Reply → Program α} :
    (ask q k).Asks P ↔ P q ∧ ∀ r, (k r).Asks P := Iff.rfl

theorem Asks.bind {p : Program α} {f : α → Program β} (hp : p.Asks P) (hf : ∀ a, (f a).Asks P) :
    (p >>= f).Asks P := by
  induction p with
  | done a => exact hf a
  | ask q k ih => exact ⟨hp.1, fun r => ih r (hp.2 r)⟩

theorem Asks.mono {P' : Request → Prop} {p : Program α} (hp : p.Asks P) (h : ∀ q, P q → P' q) :
    p.Asks P' := by
  induction p with
  | done a => trivial
  | ask q k ih => exact ⟨h q hp.1, fun r => ih r (hp.2 r)⟩

/-- What a program asks for is all that its transcripts show. -/
theorem Asks.of_runs {p : Program α} {events : Transcript} {a : α} (hp : p.Asks P)
    (hrun : p.Runs events a) : ∀ e ∈ events, P e.request := by
  induction hrun with
  | done a => simp
  | ask r _ ih =>
    intro e he
    rcases List.mem_cons.1 he with rfl | he
    · exact hp.1
    · exact ih (hp.2 r) e he

@[simp] theorem asks_request {q : Request} : (request q).Asks P ↔ P q := by
  simp [request]

/-! ## Attempts -/

@[simp] theorem asks_pure {a : α} : (pure a : ExceptT ε Program α).run.Asks P := trivial

@[simp] theorem asks_throw {f : ε} : (throw f : ExceptT ε Program α).run.Asks P := trivial

theorem Asks.lift {p : Program α} (hp : p.Asks P) : (liftM p : ExceptT ε Program α).run.Asks P :=
  hp.bind fun _ => trivial

/-- First the one attempt, then the other. -/
theorem Asks.try {p : ExceptT ε Program α} {f : α → ExceptT ε Program β} (hp : p.run.Asks P)
    (hf : ∀ a, (f a).run.Asks P) : (p >>= f).run.Asks P := by
  apply hp.bind
  intro answer
  cases answer with
  | error _ => trivial
  | ok a => exact hf a

/-- An answer that is put into another form. -/
theorem Asks.map {p : ExceptT ε Program α} {f : α → β} (hp : p.run.Asks P) :
    (do return f (← p) : ExceptT ε Program β).run.Asks P := hp.try fun _ => trivial

/-- First a program, then an attempt. -/
theorem Asks.then {p : Program α} {f : α → ExceptT ε Program β} (hp : p.Asks P)
    (hf : ∀ a, (f a).run.Asks P) : (liftM p >>= f).run.Asks P := hp.lift.try hf

theorem Asks.closedBy {p : Attempt α} {q : Program Unit} (hp : p.run.Asks P) (hq : q.Asks P) :
    (p.closedBy q).run.Asks P := hp.bind fun _ => hq.bind fun _ => trivial

theorem Asks.result {p : Attempt α} (hp : p.run.Asks P) : p.result.run.Asks P :=
  hp.bind fun _ => trivial

end Program

end ImageGateway
