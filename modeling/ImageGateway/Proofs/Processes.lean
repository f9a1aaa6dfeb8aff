-- A process in which many callers are at work at once. Whoever comes next makes
-- one request, and it is answered before anyone goes on. The process has one
-- place for a table. The place keeps the first table that it is offered, so
-- whoever is shown a table is shown that one.

import Mathlib.Logic.Function.Basic
import ImageGateway.Proofs.Asks
import ImageGateway.Proofs.Watch

namespace ImageGateway

/-! ## Parts of runs -/

namespace Program

variable {α β : Type} {P : Request → Prop} {events : Transcript}

/-- What a program has done so far, and what is left of it. -/
inductive Leads : Program α → Transcript → Program α → Prop where
  | refl (p : Program α) : Leads p [] p
  | ask {q : Request} {k : q.Reply → Program α} {events : Transcript} {left : Program α}
      (r : q.Reply) : Leads (k r) events left → Leads (ask q k) (⟨q, r⟩ :: events) left

theorem leads_done_iff {p : Program α} {a : α} : p.Leads events (done a) ↔ p.Runs events a := by
  constructor
  · intro h
    generalize hleft : done a = left at h
    induction h with
    | refl p =>
      subst hleft
      exact .done a
    | ask r _ ih => exact .ask r (ih hleft)
  · intro h
    induction h with
    | done a => exact .refl _
    | ask r _ ih => exact .ask r ih

theorem Asks.of_leads {p left : Program α} (hp : p.Asks P) (h : p.Leads events left) :
    ∀ e ∈ events, P e.request := by
  induction h with
  | refl p => simp
  | ask r _ ih =>
    intro e he
    rcases List.mem_cons.1 he with rfl | he
    · exact hp.1
    · exact ih (hp.2 r) e he

/-- Of two programs, one after the other, a part of the first is done, or all of the first and a
part of the second. -/
theorem Leads.of_bind {p : Program α} {f : α → Program β} {left : Program β}
    (h : (p.bind f).Leads events left) :
    (∃ rest, p.Leads events rest ∧ left = rest.bind f) ∨
      ∃ first second a, events = first ++ second ∧ p.Runs first a ∧ (f a).Leads second left := by
  induction p generalizing events with
  | done a => exact .inr ⟨[], events, a, rfl, .done a, h⟩
  | ask q k ih =>
    cases h with
    | refl => exact .inl ⟨.ask q k, .refl _, rfl⟩
    | ask r h =>
      rcases ih r h with ⟨rest, hrest, rfl⟩ | ⟨first, second, a, rfl, hfirst, hsecond⟩
      · exact .inl ⟨rest, .ask r hrest, rfl⟩
      · exact .inr ⟨⟨q, r⟩ :: first, second, a, rfl, .ask r hfirst, hsecond⟩

/-- A part of the first program is a part of both. -/
theorem Leads.bind_left {p rest : Program α} (h : p.Leads events rest) (f : α → Program β) :
    (p.bind f).Leads events (rest.bind f) := by
  induction h with
  | refl p => exact .refl _
  | ask r _ ih => exact .ask r ih

theorem Leads.bind {p : Program α} {f : α → Program β} {first second : Transcript} {a : α}
    {left : Program β} (hp : p.Runs first a) (hf : (f a).Leads second left) :
    (p.bind f).Leads (first ++ second) left := by
  induction hp with
  | done a => exact hf
  | ask r _ ih => exact .ask r (ih hf)

end Program

/-- A program under watch keeps to what it may ask for at every point of a run. -/
theorem Watch.Ensures.of_leads {Note α : Type} {w : Watch Note} {n : Note} {p left : Program α}
    {Q : α → Note → Prop} {events : Transcript} (h : w.Ensures n p Q) (hleads : p.Leads events left)
    (hadm : w.Admits n events) : w.Allows n events := by
  induction hleads generalizing n with
  | refl p => trivial
  | ask r _ ih => exact ⟨h.1, ih (h.2 r hadm.1) hadm.2⟩

/-! ## One place for a table -/

/-- What the place for a table holds after a request. -/
def Request.publishes : Request → Option Table → Option Table
  | .publish offered, published => some (published.getD offered)
  | _, published => published

/-- The place answers looks and offers with what it holds then. -/
def Event.Fits : Event → Option Table → Prop
  | ⟨.table, found⟩, published => found = published
  | ⟨.publish offered, kept⟩, published => kept = published.getD offered
  | _, _ => True

/-- The table that a look or an offer was answered with. -/
def Event.shown? : Event → Option Table
  | ⟨.table, found⟩ => found
  | ⟨.publish _, kept⟩ => some kept
  | _ => none

/-- A look at the place for a table, or an offer to it. -/
def Request.AtTable : Request → Prop
  | .table | .publish _ => True
  | _ => False

theorem Event.Fits.publishes {e : Event} {published : Option Table} {table : Table}
    (h : e.Fits published) (hshown : e.shown? = some table) :
    e.request.publishes published = some table := by
  obtain ⟨q, r⟩ := e
  cases q with
  | table =>
    obtain rfl : r = published := h
    exact hshown
  | publish offered =>
    obtain rfl : r = published.getD offered := h
    exact hshown
  | _ => cases hshown

theorem Request.publishes_some (q : Request) (table : Table) :
    q.publishes (some table) = some table := by
  cases q <;> rfl

theorem Event.Fits.shown {e : Event} {table : Table} (h : e.Fits (some table))
    (hq : e.request.AtTable) : e.shown? = some table := by
  obtain ⟨q, r⟩ := e
  cases q with
  | table => exact h
  | publish offered => exact congrArg some h
  | _ => exact hq.elim

theorem Event.fits_of_not_atTable {e : Event} (h : ¬ e.request.AtTable)
    (published : Option Table) : e.Fits published ∧ e.request.publishes published = published := by
  obtain ⟨q, r⟩ := e
  cases q with
  | table => exact absurd trivial h
  | publish offered => exact absurd trivial h
  | _ => exact ⟨trivial, rfl⟩

/-! ## Steps -/

/-- A process: what its place for a table holds, and what each caller has left to do. -/
structure Process (ι : Type) (Answer : ι → Type) where
  published : Option Table
  left : (i : ι) → Program (Answer i)

/-- Who asked for what, and the reply, oldest first. -/
abbrev History (ι : Type) := List (ι × Event)

/-- What one of the callers did. -/
def History.own {ι : Type} [DecidableEq ι] (i : ι) (history : History ι) : Transcript :=
  history.filterMap fun step => if step.1 = i then some step.2 else none

namespace Process

variable {ι : Type} [DecidableEq ι] {Answer : ι → Type} {s t u : Process ι Answer}
  {history later : History ι} {table : Table}

/-- One caller makes its next request. -/
inductive Step : Process ι Answer → ι × Event → Process ι Answer → Prop where
  | ask {s : Process ι Answer} {i : ι} {q : Request} {k : q.Reply → Program (Answer i)}
      (r : q.Reply) (hnext : s.left i = .ask q k) (hfits : Event.Fits ⟨q, r⟩ s.published) :
    Step s (i, ⟨q, r⟩) ⟨q.publishes s.published, Function.update s.left i (k r)⟩

/-- Any number of steps, of any callers, in any order. -/
inductive Reaches : Process ι Answer → History ι → Process ι Answer → Prop where
  | refl (s : Process ι Answer) : Reaches s [] s
  | step {s t u : Process ι Answer} {step : ι × Event} {history : History ι}
      (hstep : Step s step t) (hrest : Reaches t history u) : Reaches s (step :: history) u

theorem Step.fits {i : ι} {e : Event} (h : Step s (i, e) t) :
    e.Fits s.published ∧ t.published = e.request.publishes s.published := by
  cases h with
  | ask r hnext hfits => exact ⟨hfits, rfl⟩

/-- Only the caller that asks goes on. -/
theorem Step.left {j : ι} {e : Event} (h : Step s (j, e) t) :
    (∃ k, s.left j = .ask e.request k ∧ t.left j = k e.reply) ∧
      ∀ i, i ≠ j → t.left i = s.left i := by
  cases h with
  | @ask _ q k r hnext hfits =>
    exact ⟨⟨k, hnext, Function.update_self ..⟩, fun i hi => Function.update_of_ne hi ..⟩

theorem Reaches.append (h : Reaches s history t) (h' : Reaches t later u) :
    Reaches s (history ++ later) u := by
  induction h with
  | refl s => exact h'
  | step hstep _ ih => exact .step hstep (ih h')

/-- A table that is published stays. -/
theorem Reaches.stays (h : Reaches s history t) (hs : s.published = some table) :
    t.published = some table := by
  induction h with
  | refl s => exact hs
  | step hstep _ ih =>
    apply ih
    rw [hstep.fits.2, hs]
    exact Request.publishes_some _ table

/-- Whoever is shown a table is shown the one that is published. -/
theorem Reaches.shown (h : Reaches s history t) {i : ι} {e : Event} (he : (i, e) ∈ history)
    (hshown : e.shown? = some table) : t.published = some table := by
  induction h with
  | refl s => simp at he
  | step hstep hrest ih =>
    rcases List.mem_cons.1 he with rfl | he
    · apply hrest.stays
      rw [hstep.fits.2]
      exact hstep.fits.1.publishes hshown
    · exact ih he

/-- Once a table is published, every look and every offer shows it. -/
theorem Reaches.found (h : Reaches s history t) (hs : s.published = some table) {i : ι} {e : Event}
    (he : (i, e) ∈ history) (hq : e.request.AtTable) : e.shown? = some table := by
  induction h with
  | refl s => simp at he
  | step hstep hrest ih =>
    rcases List.mem_cons.1 he with rfl | he
    · exact (hs ▸ hstep.fits.1).shown hq
    · refine ih ?_ he
      rw [hstep.fits.2, hs]
      exact Request.publishes_some _ table

/-! ## The part of one caller -/

theorem mem_own {i : ι} {e : Event} : e ∈ history.own i ↔ (i, e) ∈ history := by
  unfold History.own
  rw [List.mem_filterMap]
  constructor
  · rintro ⟨⟨j, e'⟩, hmem, he⟩
    obtain ⟨rfl, rfl⟩ := by simpa using he
    exact hmem
  · intro hmem
    exact ⟨(i, e), hmem, by simp⟩

theorem own_cons_self (i : ι) (e : Event) :
    History.own i ((i, e) :: history) = e :: history.own i := by
  simp [History.own]

theorem own_cons_of_ne {i j : ι} (h : j ≠ i) (e : Event) :
    History.own i ((j, e) :: history) = history.own i := by
  simp [History.own, h]

theorem own_append (i : ι) (history later : History ι) :
    (history ++ later).own i = history.own i ++ later.own i := List.filterMap_append

/-- What a caller did is a part of a run of its own. -/
theorem Reaches.leads (h : Reaches s history t) (i : ι) :
    (s.left i).Leads (history.own i) (t.left i) := by
  induction h with
  | refl s => exact .refl _
  | @step s t u step history hstep _ ih =>
    obtain ⟨j, e⟩ := step
    obtain ⟨⟨k, hnext, hgone⟩, hothers⟩ := hstep.left
    by_cases hj : j = i
    · subst hj
      rw [hnext, own_cons_self]
      exact .ask e.reply (hgone ▸ ih)
    · rw [own_cons_of_ne hj, ← hothers i (Ne.symm hj)]
      exact ih

/-- A caller can make its next request, and the place for a table answers it. -/
theorem exists_step {i : ι} {q : Request} {k : q.Reply → Program (Answer i)}
    (hnext : s.left i = .ask q k) (r : q.Reply) (hfits : Event.Fits ⟨q, r⟩ s.published) :
    ∃ t, Step s (i, ⟨q, r⟩) t ∧ t.left i = k r ∧ t.published = q.publishes s.published :=
  ⟨_, .ask r hnext hfits, Function.update_self .., rfl⟩

/-- A caller that did nothing has as much left as before. -/
theorem Reaches.idle (h : Reaches s history t) {i : ι} (hidle : history.own i = []) :
    t.left i = s.left i := by
  have hleads := h.leads i
  generalize s.left i = left, t.left i = left' at hleads
  rw [hidle] at hleads
  cases hleads with
  | refl => rfl

/-- What a caller can do by itself it can do in the process, if the place for a table answers so. -/
theorem exists_reaches {i : ι} {events : Transcript} {left : Program (Answer i)}
    (h : (s.left i).Leads events left) (hquiet : ∀ e ∈ events, ¬ e.request.AtTable) :
    ∃ t, Reaches s (events.map fun e => (i, e)) t ∧ t.left i = left ∧
      t.published = s.published := by
  generalize hp : s.left i = p at h
  induction h generalizing s with
  | refl p => exact ⟨s, .refl s, hp, rfl⟩
  | @ask q k events left r _ ih =>
    obtain ⟨hfits, hsame⟩ :=
      Event.fits_of_not_atTable (e := ⟨q, r⟩) (hquiet _ (List.mem_cons_self ..)) s.published
    obtain ⟨t, hstep, hnext, htable⟩ := exists_step hp r hfits
    obtain ⟨u, hreach, hleft, hpublished⟩ :=
      ih (fun e he => hquiet e (List.mem_cons_of_mem _ he)) hnext
    exact ⟨u, .step hstep hreach, hleft, hpublished.trans (htable.trans hsame)⟩

end Process

end ImageGateway
