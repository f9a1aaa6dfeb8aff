-- Runs of attempts, taken apart: which part of a transcript belongs to which
-- part of a program.

import ImageGateway.Proofs.Tally

namespace ImageGateway

namespace Transcript

@[simp] theorem calls_nil : calls [] = [] := rfl

@[simp] theorem calls_cons_call {c : Call} {r : c.Reply} {events : Transcript} :
    calls (⟨.call c, r⟩ :: events) = c :: calls events := rfl

@[simp] theorem calls_append (first second : Transcript) :
    calls (first ++ second) = calls first ++ calls second := List.filterMap_append

/-- Once a table is published, it is there before and after any point. -/
theorem lasting_append_iff {first second : Transcript} :
    Lasting true (first ++ second) ↔ Lasting true first ∧ Lasting true second := by
  simp [lasting_append]

end Transcript

namespace Program

variable {ε α β : Type} {events : Transcript}

theorem runs_request_iff {q : Request} {r : q.Reply} :
    (request q).Runs events r ↔ events = [⟨q, r⟩] := by
  constructor
  · intro h
    obtain ⟨_, rest, rfl, hrest⟩ := runs_ask_iff.1 h
    obtain ⟨rfl, rfl⟩ := runs_done_iff.1 hrest
    rfl
  · rintro rfl
    exact .ask r (.done r)

/-- An attempt after another one: either the first fails, or both are carried out. -/
theorem runs_try_iff {p : ExceptT ε Program α} {f : α → ExceptT ε Program β} {r : Except ε β} :
    (p >>= f).run.Runs events r ↔
      (∃ e, p.run.Runs events (.error e) ∧ r = .error e) ∨
      ∃ first second a, events = first ++ second ∧ p.run.Runs first (.ok a) ∧
        (f a).run.Runs second r := by
  apply runs_bind_iff.trans
  constructor
  · rintro ⟨first, second, e | a, rfl, hfirst, hsecond⟩
    · obtain ⟨rfl, rfl⟩ := runs_done_iff.1 hsecond
      rw [List.append_nil]
      exact .inl ⟨e, hfirst, rfl⟩
    · exact .inr ⟨first, second, a, rfl, hfirst, hsecond⟩
  · rintro (⟨e, hfirst, rfl⟩ | ⟨first, second, a, rfl, hfirst, hsecond⟩)
    · exact ⟨events, [], .error e, by simp, hfirst, .done _⟩
    · exact ⟨first, second, .ok a, rfl, hfirst, hsecond⟩

/-- A program that is used as an attempt does not fail. -/
theorem runs_lift_iff {p : Program α} {r : Except ε α} :
    (liftM p : ExceptT ε Program α).run.Runs events r ↔ ∃ a, r = .ok a ∧ p.Runs events a := by
  apply runs_bind_iff.trans
  constructor
  · rintro ⟨first, second, a, rfl, hfirst, hsecond⟩
    obtain ⟨rfl, rfl⟩ := runs_done_iff.1 hsecond
    exact ⟨a, rfl, by simpa using hfirst⟩
  · rintro ⟨a, rfl, hrun⟩
    exact ⟨events, [], a, by simp, hrun, .done _⟩

/-- First a program, then an attempt. -/
theorem runs_then_iff {p : Program α} {f : α → ExceptT ε Program β} {r : Except ε β} :
    (liftM p >>= f).run.Runs events r ↔
      ∃ first second a, events = first ++ second ∧ p.Runs first a ∧ (f a).run.Runs second r := by
  apply runs_try_iff.trans
  constructor
  · rintro (⟨e, hlift, -⟩ | ⟨first, second, a, rfl, hlift, hsecond⟩)
    · obtain ⟨_, ⟨⟩, -⟩ := runs_lift_iff.1 hlift
    · obtain ⟨_, ⟨⟩, hfirst⟩ := runs_lift_iff.1 hlift
      exact ⟨first, second, a, rfl, hfirst, hsecond⟩
  · rintro ⟨first, second, a, rfl, hfirst, hsecond⟩
    exact .inr ⟨first, second, a, rfl, runs_lift_iff.2 ⟨a, rfl, hfirst⟩, hsecond⟩

/-- An attempt whose failure is put into other words. -/
theorem runs_adapt_iff {ε' : Type} {p : ExceptT ε Program α} {f : ε → ε'}
    {r : Except ε' α} :
    (p.adapt f).run.Runs events r ↔ ∃ answer, p.run.Runs events answer ∧ r = answer.mapError f := by
  constructor
  · intro h
    obtain ⟨first, second, answer, rfl, hfirst, hsecond⟩ := runs_bind_iff.1 h
    obtain ⟨rfl, rfl⟩ := runs_done_iff.1 hsecond
    rw [List.append_nil]
    exact ⟨answer, hfirst, rfl⟩
  · rintro ⟨answer, hrun, rfl⟩
    exact runs_bind_iff.2 ⟨events, [], answer, by simp, hrun, .done _⟩

/-- An attempt whose answer goes through a function. -/
theorem runs_map_iff {p : ExceptT ε Program α} {f : α → β} {r : Except ε β} :
    (do return f (← p) : ExceptT ε Program β).run.Runs events r ↔
      ∃ answer, p.run.Runs events answer ∧ r = answer.map f := by
  apply runs_try_iff.trans
  constructor
  · rintro (⟨e, hrun, rfl⟩ | ⟨first, second, a, rfl, hfirst, hsecond⟩)
    · exact ⟨.error e, hrun, rfl⟩
    · obtain ⟨rfl, rfl⟩ := runs_done_iff.1 hsecond
      exact ⟨.ok a, by simpa using hfirst, rfl⟩
  · rintro ⟨e | a, hrun, rfl⟩
    · exact .inl ⟨e, hrun, rfl⟩
    · exact .inr ⟨events, [], a, by simp, hrun, .done _⟩

/-- An attempt and the clean-up after it. -/
theorem runs_closedBy_iff {p : Attempt α} {q : Program Unit} {r : Except Failure α} :
    (p.closedBy q).run.Runs events r ↔
      ∃ first closing, events = first ++ closing ∧ p.run.Runs first r ∧ q.Runs closing () := by
  apply runs_bind_iff.trans
  constructor
  · rintro ⟨first, second, r, rfl, hfirst, hsecond⟩
    obtain ⟨closing, last, _, rfl, hclosing, hlast⟩ := runs_bind_iff.1 hsecond
    obtain ⟨rfl, rfl⟩ := runs_done_iff.1 hlast
    exact ⟨first, closing, by simp, hfirst, hclosing⟩
  · rintro ⟨first, closing, rfl, hfirst, hclosing⟩
    exact ⟨first, closing, r, rfl, hfirst,
      runs_bind_iff.2 ⟨closing, [], (), by simp, hclosing, .done _⟩⟩

/-- The replies settle the answer. -/
theorem runs_unique {p : Program α} {a b : α} (h : p.Runs events a) (h' : p.Runs events b) :
    b = a := by
  induction h with
  | done a => exact (runs_done_iff.1 h').2
  | ask r _ ih =>
    cases h' with
    | ask _ h' => exact ih h'

theorem takeError_calls {message : String} (hrun : takeError.Runs events message) :
    events.calls = [.errorBuffer, .act .errorClear] := by
  obtain ⟨_, _, buffer, rfl, hbuffer, hrest⟩ := runs_bind_iff.1 hrun
  obtain ⟨_, _, _, rfl, hclear, hdone⟩ := runs_bind_iff.1 hrest
  obtain rfl := runs_request_iff.1 hbuffer
  obtain rfl := runs_request_iff.1 hclear
  obtain ⟨rfl, -⟩ := runs_done_iff.1 hdone
  rfl

theorem nativeText_runs {s : String} {r : Except Failure CText}
    (hrun : (nativeText s).run.Runs events r) : events = [] := by
  unfold nativeText at hrun
  cases h : CText.ofString? s with
  | some text =>
    rw [h] at hrun
    exact (runs_done_iff.1 hrun).1
  | none =>
    rw [h] at hrun
    exact (runs_done_iff.1 hrun).1

theorem nativeText_ok {s : String} {text : CText} (h : (nativeText s).run.Runs events (.ok text)) :
    CText.ofString? s = some text := by
  unfold nativeText at h
  split at h
  · next found hfound =>
    obtain ⟨-, htext⟩ := runs_done_iff.1 h
    cases htext
    exact hfound
  · cases (runs_done_iff.1 h).2

end Program

end ImageGateway
