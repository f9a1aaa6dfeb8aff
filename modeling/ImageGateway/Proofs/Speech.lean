-- Runs on the published table, as what is said in them. Such a run falls into what
-- its parts say, request by request, and the looks at the table are passed over.

import ImageGateway.Proofs.Runs
import ImageGateway.Proofs.Spoken

namespace ImageGateway

namespace Transcript

/-- Whoever passes over the looks at the table loses nothing. -/
theorem filterMap_spoken {α : Type} {f : Event → Option α} (hf : ∀ table, f ⟨.table, table⟩ = none)
    (events : Transcript) : events.spoken.filterMap f = events.filterMap f := by
  unfold spoken
  rw [List.filterMap_filter]
  congr
  funext e
  obtain ⟨q, r⟩ := e
  by_cases hq : q = .table
  · subst hq
    simp [hf]
  · simp [hq]

@[simp] theorem calls_spoken (events : Transcript) : events.spoken.calls = events.calls :=
  filterMap_spoken (fun _ => rfl) events

end Transcript

namespace Program

open SpokenWatch (shownName pendingMessage)

variable {ε α β : Type} {said events : Transcript}

/-- On the published table the program can say this and answer `a`. -/
def Speaks (p : Program α) (said : Transcript) (a : α) : Prop :=
  ∃ events, p.Runs events a ∧ events.Lasting true ∧ events.spoken = said

theorem speaks_of_runs {p : Program α} {a : α} (hrun : p.Runs events a)
    (htable : events.Lasting true) : p.Speaks events.spoken a := ⟨events, hrun, htable, rfl⟩

theorem speaks_done_iff {a b : α} : (done a).Speaks said b ↔ said = [] ∧ b = a := by
  constructor
  · rintro ⟨_, hrun, -, rfl⟩
    obtain ⟨rfl, rfl⟩ := runs_done_iff.1 hrun
    exact ⟨rfl, rfl⟩
  · rintro ⟨rfl, rfl⟩
    exact ⟨[], .done b, trivial, rfl⟩

theorem speaks_bind_iff {p : Program α} {f : α → Program β} {b : β} :
    (p.bind f).Speaks said b ↔
      ∃ first second a, said = first ++ second ∧ p.Speaks first a ∧ (f a).Speaks second b := by
  constructor
  · rintro ⟨_, hrun, htable, rfl⟩
    obtain ⟨first, second, a, rfl, hfirst, hsecond⟩ := runs_bind_iff.1 hrun
    obtain ⟨htable, hrest⟩ := Transcript.lasting_append_iff.1 htable
    exact ⟨_, _, a, Transcript.spoken_append .., speaks_of_runs hfirst htable,
      speaks_of_runs hsecond hrest⟩
  · rintro ⟨_, _, a, rfl, ⟨first, hfirst, htable, rfl⟩, ⟨second, hsecond, hrest, rfl⟩⟩
    exact ⟨first ++ second, runs_bind_iff.2 ⟨first, second, a, rfl, hfirst, hsecond⟩,
      Transcript.lasting_append_iff.2 ⟨htable, hrest⟩, Transcript.spoken_append ..⟩

theorem speaks_request {q : Request} {r : q.Reply} (hq : q ≠ .table)
    (h : (request q).Speaks said r) : said = [⟨q, r⟩] := by
  obtain ⟨_, hrun, -, rfl⟩ := h
  rw [runs_request_iff.1 hrun]
  exact Transcript.spoken_cons (e := ⟨q, r⟩) hq

/-! ## Attempts -/

/-- An attempt after another one: either the first fails, or both are carried out. -/
theorem speaks_try {p : ExceptT ε Program α} {f : α → ExceptT ε Program β} {r : Except ε β}
    (h : (p >>= f).run.Speaks said r) :
    (∃ e, p.run.Speaks said (.error e) ∧ r = .error e) ∨
      ∃ first second a, said = first ++ second ∧ p.run.Speaks first (.ok a) ∧
        (f a).run.Speaks second r := by
  obtain ⟨events, hrun, htable, rfl⟩ := h
  obtain ⟨e, hfirst, rfl⟩ | ⟨first, second, a, rfl, hfirst, hsecond⟩ := runs_try_iff.1 hrun
  · exact .inl ⟨e, speaks_of_runs hfirst htable, rfl⟩
  · obtain ⟨htable, hrest⟩ := Transcript.lasting_append_iff.1 htable
    exact .inr ⟨_, _, a, Transcript.spoken_append .., speaks_of_runs hfirst htable,
      speaks_of_runs hsecond hrest⟩

/-- An attempt, and something made of its answer. -/
theorem speaks_map {p : ExceptT ε Program α} {f : α → β} {r : Except ε β}
    (h : (do return f (← p) : ExceptT ε Program β).run.Speaks said r) :
    ∃ answer, p.run.Speaks said answer ∧ r = answer.map f := by
  obtain ⟨events, hrun, htable, rfl⟩ := h
  obtain ⟨answer, hanswer, rfl⟩ := runs_map_iff.1 hrun
  exact ⟨answer, speaks_of_runs hanswer htable, rfl⟩

/-- A program that is used as an attempt does not fail. -/
theorem speaks_lift {p : Program α} {r : Except ε α}
    (h : (liftM p : ExceptT ε Program α).run.Speaks said r) : ∃ a, r = .ok a ∧ p.Speaks said a := by
  obtain ⟨events, hrun, htable, rfl⟩ := h
  obtain ⟨a, rfl, hp⟩ := runs_lift_iff.1 hrun
  exact ⟨a, rfl, speaks_of_runs hp htable⟩

/-- First a program, then an attempt. -/
theorem speaks_then {p : Program α} {f : α → ExceptT ε Program β} {r : Except ε β}
    (h : (liftM p >>= f).run.Speaks said r) :
    ∃ first second a, said = first ++ second ∧ p.Speaks first a ∧ (f a).run.Speaks second r := by
  obtain ⟨events, hrun, htable, rfl⟩ := h
  obtain ⟨first, second, a, rfl, hfirst, hsecond⟩ := runs_then_iff.1 hrun
  obtain ⟨htable, hrest⟩ := Transcript.lasting_append_iff.1 htable
  exact ⟨_, _, a, Transcript.spoken_append .., speaks_of_runs hfirst htable,
    speaks_of_runs hsecond hrest⟩

/-- One request that is no look at the table, and what comes after its reply. -/
theorem speaks_ask {q : Request} {f : q.Reply → ExceptT ε Program β} {r : Except ε β}
    (hq : q ≠ .table) (h : (liftM (request q) >>= f).run.Speaks said r) :
    ∃ reply rest, said = ⟨q, reply⟩ :: rest ∧ (f reply).run.Speaks rest r := by
  obtain ⟨first, rest, reply, rfl, hfirst, hrest⟩ := speaks_then h
  exact ⟨reply, rest, by rw [speaks_request hq hfirst]; rfl, hrest⟩

theorem speaks_call {call : Call} {f : call.Reply → ExceptT ε Program β} {r : Except ε β}
    (h : (liftM (native call) >>= f).run.Speaks said r) :
    ∃ reply rest, said = ⟨.call call, reply⟩ :: rest ∧ (f reply).run.Speaks rest r :=
  speaks_ask (q := .call call) (by simp) h

/-- An attempt and the clean-up after it. -/
theorem speaks_closedBy {p : Attempt α} {q : Program Unit} {r : Except Failure α}
    (h : (p.closedBy q).run.Speaks said r) :
    ∃ first closing, said = first ++ closing ∧ p.run.Speaks first r ∧ q.Speaks closing () := by
  obtain ⟨events, hrun, htable, rfl⟩ := h
  obtain ⟨first, closing, rfl, hfirst, hclosing⟩ := runs_closedBy_iff.1 hrun
  obtain ⟨htable, hrest⟩ := Transcript.lasting_append_iff.1 htable
  exact ⟨_, _, Transcript.spoken_append .., speaks_of_runs hfirst htable,
    speaks_of_runs hclosing hrest⟩

/-- A look at the table finds one, and is passed over. -/
theorem speaks_table {f : Option Table → ExceptT ε Program β} {r : Except ε β}
    (h : (liftM table? >>= f).run.Speaks said r) : ∃ table, (f (some table)).run.Speaks said r := by
  obtain ⟨_, hrun, htable, rfl⟩ := h
  obtain ⟨look, rest, rfl, hrest⟩ := runs_ask_iff.1 hrun
  cases look with
  | none => cases htable.1 rfl rfl
  | some table => exact ⟨table, rest, hrest, htable.2, (Transcript.spoken_cons_table ..).symm⟩

theorem speaks_requireTable {f : Unit → Attempt α} {r : Except Failure α}
    (h : (requireTable >>= f).run.Speaks said r) : (f ()).run.Speaks said r := by
  obtain ⟨_, hrun, htable, rfl⟩ := h
  obtain ⟨look, rest, rfl, hrest⟩ := runs_ask_iff.1 hrun
  cases look with
  | none => cases htable.1 rfl rfl
  | some table => exact ⟨rest, hrest, htable.2, (Transcript.spoken_cons_table ..).symm⟩

theorem speaks_ifLoaded {p : Program Unit} (h : (ifLoaded p).Speaks said ()) :
    p.Speaks said () := by
  obtain ⟨_, hrun, htable, rfl⟩ := h
  obtain ⟨look, rest, rfl, hrest⟩ := runs_ask_iff.1 hrun
  cases look with
  | none => cases htable.1 rfl rfl
  | some table => exact ⟨rest, hrest, htable.2, (Transcript.spoken_cons_table ..).symm⟩

theorem speaks_releaseObject {object : Object} (h : object.release.Speaks said ()) :
    said = [⟨.call (.unref (some object.handle)), ()⟩] :=
  speaks_request (q := .call (.unref (some object.handle))) (by simp) (speaks_ifLoaded h)

theorem speaks_borrowImage {handle : Handle} {r : Except Failure (Option Image)}
    (h : (Image.borrow? (some handle)).run.Speaks said r) :
    r = .ok (some ⟨⟨handle⟩⟩) ∧ said = [⟨.call (.ref handle), ()⟩] := by
  obtain ⟨events, hrun, htable, rfl⟩ := h
  obtain ⟨borrowed, hborrow, rfl⟩ := runs_map_iff.1 hrun
  obtain ⟨_, rest, hsaid, hrest⟩ :=
    speaks_call (speaks_requireTable (speaks_of_runs hborrow htable))
  obtain ⟨rfl, rfl⟩ := speaks_done_iff.1 hrest
  exact ⟨rfl, hsaid⟩

theorem speaks_nativeText {s : String} {text : CText} {f : CText → Attempt α}
    {r : Except Failure α} (hs : CText.ofString? s = some text)
    (h : (nativeText s >>= f).run.Speaks said r) : (f text).run.Speaks said r := by
  unfold nativeText at h
  rw [hs] at h
  exact h

/-- A text with a zero byte goes no further. -/
theorem speaks_zeroByte {s : String} {f : CText → Attempt α} {r : Except Failure α}
    (hs : CText.ofString? s = none) (h : (nativeText s >>= f).run.Speaks said r) :
    said = [] ∧ r = .error (.zeroByte s) := by
  unfold nativeText at h
  rw [hs] at h
  exact speaks_done_iff.1 h

/-! ## Messages and names -/

theorem speaks_typeName {type : TypeId} {r : Except Failure String}
    (h : (typeName type).run.Speaks said r) :
    ∃ name, said = [⟨.call (.typeName type), name⟩] ∧ r = .ok (shownName name) := by
  obtain ⟨name, rest, rfl, hrest⟩ := speaks_call (speaks_requireTable h)
  obtain ⟨rfl, rfl⟩ := speaks_done_iff.1 hrest
  exact ⟨name, rfl, rfl⟩

/-- The name of a type, and what comes after it. -/
theorem speaks_named {type : TypeId} {f : String → Attempt α} {r : Except Failure α}
    (h : (typeName type >>= f).run.Speaks said r) :
    ∃ name rest, said = ⟨.call (.typeName type), name⟩ :: rest ∧
      (f (shownName name)).run.Speaks rest r := by
  obtain ⟨_, hname, -⟩ | ⟨first, rest, _, rfl, hname, hrest⟩ := speaks_try h
  · obtain ⟨_, -, ⟨⟩⟩ := speaks_typeName hname
  · obtain ⟨name, rfl, hshown⟩ := speaks_typeName hname
    cases hshown
    exact ⟨name, rest, rfl, hrest⟩

theorem speaks_mismatch {expected found : TypeId} {r : Except Failure α}
    (h : (mismatch expected found : Attempt α).run.Speaks said r) :
    ∃ expectedName foundName,
      said = [⟨.call (.typeName expected), expectedName⟩, ⟨.call (.typeName found), foundName⟩] ∧
        r = .error (.typeMismatch (shownName expectedName) (shownName foundName)) := by
  obtain ⟨expectedName, rest, rfl, hrest⟩ := speaks_named h
  obtain ⟨foundName, last, rfl, hlast⟩ := speaks_named hrest
  obtain ⟨rfl, rfl⟩ := speaks_done_iff.1 hlast
  exact ⟨expectedName, foundName, rfl, rfl⟩

theorem speaks_takeError {message : String} (h : takeError.Speaks said message) :
    ∃ buffer, said = [⟨.call .errorBuffer, buffer⟩, ⟨.call (.act .errorClear), ()⟩] ∧
      message = pendingMessage buffer := by
  obtain ⟨first, rest, buffer, rfl, hbuffer, hrest⟩ := speaks_bind_iff.1 h
  obtain ⟨second, last, _, rfl, hclear, hlast⟩ := speaks_bind_iff.1 hrest
  obtain ⟨rfl, rfl⟩ := speaks_done_iff.1 hlast
  rw [speaks_request (q := .call .errorBuffer) (by simp) hbuffer,
    speaks_request (q := .call (.act .errorClear)) (by simp) hclear]
  exact ⟨buffer, rfl, rfl⟩

/-- A program that asks only for some requests says them only. -/
theorem speaks_asked {P : Request → Prop} {p : Program α} {a : α} (hp : p.Asks P)
    (h : p.Speaks said a) : ∀ e ∈ said, P e.request := by
  obtain ⟨events, hrun, -, rfl⟩ := h
  exact fun e he => hp.of_runs hrun e (Transcript.mem_spoken.1 he).1

end Program

end ImageGateway
