-- A program under watch. Whoever watches a run keeps a note, says what the
-- program may ask for and what the outside world may answer, and rewrites the
-- note after each reply. What a program ensures under watch holds of each of
-- its runs.

import ImageGateway.Gate
import ImageGateway.Program.Transcript

namespace ImageGateway

/-- Someone who watches a run and keeps a note. -/
structure Watch (Note : Type) where
  /-- What the program may ask for. -/
  allows : Note → Request → Prop
  /-- What the outside world may answer. -/
  admits : Note → (q : Request) → q.Reply → Prop
  /-- The note after the reply. -/
  next : Note → (q : Request) → q.Reply → Note

namespace Watch

variable {Note ε α β : Type} {w : Watch Note}

/-! ## Transcripts -/

/-- The note after a transcript. -/
def after (w : Watch Note) : Note → Transcript → Note
  | n, [] => n
  | n, e :: events => w.after (w.next n e.request e.reply) events

/-- Every answer of the transcript is one that the outside world may give. -/
def Admits (w : Watch Note) : Note → Transcript → Prop
  | _, [] => True
  | n, e :: events =>
    w.admits n e.request e.reply ∧ w.Admits (w.next n e.request e.reply) events

/-- Every request of the transcript is one that the program may make. -/
def Allows (w : Watch Note) : Note → Transcript → Prop
  | _, [] => True
  | n, e :: events => w.allows n e.request ∧ w.Allows (w.next n e.request e.reply) events

theorem after_append (n : Note) (first second : Transcript) :
    w.after n (first ++ second) = w.after (w.after n first) second := by
  induction first generalizing n with
  | nil => rfl
  | cons e events ih => exact ih _

theorem admits_append (n : Note) (first second : Transcript) :
    w.Admits n (first ++ second) ↔ w.Admits n first ∧ w.Admits (w.after n first) second := by
  induction first generalizing n with
  | nil => simp [Admits, after]
  | cons e events ih => simp [Admits, after, ih, and_assoc]

theorem allows_append (n : Note) (first second : Transcript) :
    w.Allows n (first ++ second) ↔ w.Allows n first ∧ w.Allows (w.after n first) second := by
  induction first generalizing n with
  | nil => simp [Allows, after]
  | cons e events ih => simp [Allows, after, ih, and_assoc]

/-! ## Programs -/

/-- From the note on, the program asks only for what it may ask for, and ends with an answer and a
note that fit. -/
def Ensures (w : Watch Note) : Note → Program α → (α → Note → Prop) → Prop
  | n, .done a, Q => Q a n
  | n, .ask q k, Q =>
    w.allows n q ∧ ∀ r, w.admits n q r → w.Ensures (w.next n q r) (k r) Q

/-- What a program ensures holds of each of its runs. -/
theorem Ensures.of_runs {n : Note} {p : Program α} {Q : α → Note → Prop} {events : Transcript}
    {a : α} (h : w.Ensures n p Q) (hrun : p.Runs events a) (hadm : w.Admits n events) :
    w.Allows n events ∧ Q a (w.after n events) := by
  induction hrun generalizing n with
  | done a => exact ⟨trivial, h⟩
  | ask r _ ih =>
    obtain ⟨hallowed, hnext⟩ := h
    obtain ⟨hadmitted, hrest⟩ := hadm
    obtain ⟨hall, hQ⟩ := ih (hnext r hadmitted) hrest
    exact ⟨⟨hallowed, hall⟩, hQ⟩

/-- What a run may ask for next hangs on the answers before it alone. -/
theorem Ensures.of_runs_until {n : Note} {p : Program α} {Q : α → Note → Prop}
    {first rest : Transcript} {e : Event} {a : α} (h : w.Ensures n p Q)
    (hrun : p.Runs (first ++ e :: rest) a) (hadm : w.Admits n first) :
    w.Allows n (first ++ [e]) := by
  induction p generalizing n first with
  | done a =>
    obtain ⟨hevents, -⟩ := Program.runs_done_iff.1 hrun
    simp at hevents
  | ask q k ih =>
    obtain ⟨r, tail, hevents, hrun⟩ := Program.runs_ask_iff.1 hrun
    cases first with
    | nil =>
      obtain ⟨rfl, -⟩ := List.cons.inj hevents
      exact ⟨h.1, trivial⟩
    | cons e' first =>
      obtain ⟨rfl, rfl⟩ := List.cons.inj hevents
      exact ⟨h.1, ih r (h.2 r hadm.1) hrun hadm.2⟩

theorem Ensures.mono {n : Note} {p : Program α} {P Q : α → Note → Prop} (h : w.Ensures n p P)
    (hPQ : ∀ a m, P a m → Q a m) : w.Ensures n p Q := by
  induction p generalizing n with
  | done a => exact hPQ a n h
  | ask q k ih => exact ⟨h.1, fun r hr => ih r (h.2 r hr)⟩

@[simp] theorem ensures_done {n : Note} {a : α} {Q : α → Note → Prop} :
    w.Ensures n (.done a) Q ↔ Q a n := Iff.rfl

theorem ensures_ask {n : Note} {q : Request} {k : q.Reply → Program α} {Q : α → Note → Prop} :
    w.Ensures n (.ask q k) Q ↔
      w.allows n q ∧ ∀ r, w.admits n q r → w.Ensures (w.next n q r) (k r) Q := Iff.rfl

theorem ensures_bind {n : Note} {p : Program α} {f : α → Program β} {Q : β → Note → Prop} :
    w.Ensures n (p.bind f) Q ↔ w.Ensures n p (fun a m => w.Ensures m (f a) Q) := by
  induction p generalizing n with
  | done a => rfl
  | ask q k ih => simp [ensures_ask, ih]

/-- First the one program, then the other. -/
theorem Ensures.bind {n : Note} {p : Program α} {f : α → Program β} {P : α → Note → Prop}
    {Q : β → Note → Prop} (h : w.Ensures n p P) (hf : ∀ a m, P a m → w.Ensures m (f a) Q) :
    w.Ensures n (p >>= f) Q := ensures_bind.2 (h.mono hf)

/-! ## Attempts -/

/-- What an attempt ensures: something about its answer, and something about its failure. -/
def Tries (w : Watch Note) (n : Note) (p : ExceptT ε Program α) (ok : α → Note → Prop)
    (failed : ε → Note → Prop) : Prop :=
  w.Ensures n p.run fun
    | .ok a => ok a
    | .error failure => failed failure

section

variable {n : Note} {ok : α → Note → Prop} {failed : ε → Note → Prop}

theorem Tries.mono {p : ExceptT ε Program α} {ok' : α → Note → Prop} {failed' : ε → Note → Prop}
    (h : w.Tries n p ok failed) (hok : ∀ a m, ok a m → ok' a m)
    (hfailed : ∀ f m, failed f m → failed' f m) : w.Tries n p ok' failed' := by
  apply Ensures.mono h
  intro answer m hm
  cases answer with
  | error f => exact hfailed f m hm
  | ok a => exact hok a m hm

theorem tries_bind {p : ExceptT ε Program α} {f : α → ExceptT ε Program β} {ok : β → Note → Prop} :
    w.Tries n (p >>= f) ok failed ↔ w.Tries n p (fun a m => w.Tries m (f a) ok failed) failed := by
  unfold Tries
  apply ensures_bind.trans
  constructor
  · intro h
    apply h.mono
    intro answer m hm
    cases answer <;> exact hm
  · intro h
    apply h.mono
    intro answer m hm
    cases answer <;> exact hm

/-- First the one attempt, then the other if the first did not fail. -/
theorem Tries.bind {p : ExceptT ε Program α} {f : α → ExceptT ε Program β} {P : α → Note → Prop}
    {ok : β → Note → Prop} (h : w.Tries n p P failed)
    (hf : ∀ a m, P a m → w.Tries m (f a) ok failed) :
    w.Tries n (p >>= f) ok failed := tries_bind.2 (h.mono hf fun _ _ hm => hm)

/-- A program is an attempt that does not fail. -/
theorem tries_lift {p : Program α} :
    w.Tries n (liftM p) ok failed ↔ w.Ensures n p ok := by
  apply ensures_bind.trans
  rfl

/-- First a program, then an attempt. -/
theorem Ensures.then {p : Program α} {f : α → ExceptT ε Program β} {P : α → Note → Prop}
    {ok : β → Note → Prop} (h : w.Ensures n p P)
    (hf : ∀ a m, P a m → w.Tries m (f a) ok failed) :
    w.Tries n (liftM p >>= f) ok failed := tries_bind.2 (tries_lift.2 (h.mono hf))

/-- A failure that is put into other words. -/
theorem tries_adapt {ε' : Type} {p : ExceptT ε' Program α} {f : ε' → ε} :
    w.Tries n (p.adapt f) ok failed ↔ w.Tries n p ok fun e => failed (f e) := by
  apply ensures_bind.trans
  constructor
  · intro h
    apply h.mono
    intro answer m hm
    cases answer <;> exact hm
  · intro h
    apply Ensures.mono h
    intro answer m hm
    cases answer <;> exact hm

end

section

variable {n : Note} {ok : α → Note → Prop} {failed : Failure → Note → Prop}

/-- The clean-up is carried out after the answer and after the failure. -/
theorem tries_closedBy {p : Attempt α} {q : Program Unit} :
    w.Tries n (p.closedBy q) ok failed ↔
      w.Tries n p (fun a m => w.Ensures m q fun _ => ok a)
        (fun f m => w.Ensures m q fun _ => failed f) := by
  apply ensures_bind.trans
  constructor
  · intro h
    apply h.mono
    intro answer m hm
    cases answer <;> exact ensures_bind.1 hm
  · intro h
    apply Ensures.mono h
    intro answer m hm
    cases answer <;> exact ensures_bind.2 hm

/-- An attempt whose failure is looked at, and then what comes of it. -/
theorem Tries.result {p : Attempt α} {f : Except Failure α → Attempt β} {P : α → Note → Prop}
    {P' : Failure → Note → Prop} {ok : β → Note → Prop} (h : w.Tries n p P P')
    (hok : ∀ a m, P a m → w.Tries m (f (.ok a)) ok failed)
    (hfailed : ∀ e m, P' e m → w.Tries m (f (.error e)) ok failed) :
    w.Tries n (p.result >>= f) ok failed := by
  refine tries_bind.2 (tries_lift.2 (Ensures.mono h ?_))
  intro answer m hm
  cases answer with
  | error e => exact hfailed e m hm
  | ok a => exact hok a m hm

/-- An attempt whose failure is looked at by a program. -/
theorem Tries.run {p : Attempt α} {f : Except Failure α → Program β} {P : α → Note → Prop}
    {P' : Failure → Note → Prop} {Q : β → Note → Prop} (h : w.Tries n p P P')
    (hok : ∀ a m, P a m → w.Ensures m (f (.ok a)) Q)
    (hfailed : ∀ e m, P' e m → w.Ensures m (f (.error e)) Q) :
    w.Ensures n (p.run >>= f) Q := by
  apply Ensures.bind h
  intro answer m hm
  cases answer with
  | error e => exact hfailed e m hm
  | ok a => exact hok a m hm

end

end Watch

end ImageGateway
