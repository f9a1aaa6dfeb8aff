-- What was said in a run: its events, without the looks at the published table.
-- A watch that notes what is said takes a program through its requests one by
-- one, with the replies as they come, up to the answer or the failure.

import ImageGateway.Proofs.Footprint
import ImageGateway.Proofs.Tally

namespace ImageGateway

namespace Transcript

/-- The events of a transcript, without the looks at the published table. -/
def spoken (events : Transcript) : Transcript := events.filter fun e => e.request ≠ .table

/-- Every type comes from itself, as far as the library was asked. -/
def Reflexive (events : Transcript) : Prop :=
  ∀ type answer, ⟨.call (.isA type type), answer⟩ ∈ events → answer ≠ 0

@[simp] theorem spoken_nil : spoken [] = [] := rfl

theorem spoken_cons_table {table : Option Table} {events : Transcript} :
    spoken (⟨.table, table⟩ :: events) = spoken events := rfl

theorem spoken_cons {e : Event} {events : Transcript} (he : e.request ≠ .table) :
    spoken (e :: events) = e :: spoken events := by
  simp [spoken, he]

@[simp] theorem spoken_append (first second : Transcript) :
    spoken (first ++ second) = spoken first ++ spoken second := List.filter_append ..

theorem mem_spoken {e : Event} {events : Transcript} :
    e ∈ events.spoken ↔ e ∈ events ∧ e.request ≠ .table := by
  simp [spoken]

theorem Reflexive.of_append {first second : Transcript} (h : Reflexive (first ++ second)) :
    Reflexive first ∧ Reflexive second :=
  ⟨fun type answer he => h type answer (List.mem_append_left _ he),
    fun type answer he => h type answer (List.mem_append_right _ he)⟩

end Transcript

/-- What a library may answer in which every type comes from itself. -/
def Request.ReflexiveReply : (q : Request) → q.Reply → Prop
  | .call (.isA type ancestor), answer => type = ancestor → answer ≠ 0
  | _, _ => True

/-- Notes what is said, on the published table of a library in which every type comes from
itself. -/
def spokenWatch : Watch Transcript where
  allows _ _ := True
  admits _ q r := (q = .table → Resource.tableSeen q r = true) ∧ q.ReflexiveReply r
  next said q r := if q = .table then said else said ++ [⟨q, r⟩]

namespace SpokenWatch

open Program

variable {α : Type} {said events : Transcript} {ok : α → Transcript → Prop}
  {failed : Failure → Transcript → Prop}

theorem after_eq (said events : Transcript) :
    spokenWatch.after said events = said ++ events.spoken := by
  induction events generalizing said with
  | nil => simp [Watch.after]
  | cons e events ih =>
    refine (ih _).trans ?_
    obtain ⟨q, r⟩ := e
    by_cases hq : q = .table
    · subst hq
      simp [spokenWatch, Transcript.spoken_cons_table]
    · simp [spokenWatch, hq, Transcript.spoken_cons (e := ⟨q, r⟩) hq]

theorem admits_of_lasting (htable : events.Lasting true) (hself : events.Reflexive) :
    spokenWatch.Admits said events := by
  induction events generalizing said with
  | nil => trivial
  | cons e events ih =>
    obtain ⟨q, r⟩ := e
    refine ⟨⟨fun hq => htable.1 hq rfl, ?_⟩, ih (by simpa using htable.2) ?_⟩
    · cases q with
      | call c =>
        cases c with
        | isA type ancestor =>
          rintro rfl
          exact hself type r (List.mem_cons_self ..)
        | _ => trivial
      | _ => trivial
    · exact fun type answer he => hself type answer (List.mem_cons_of_mem _ he)

/-- What an attempt ensures about all that is said is what its runs show. -/
theorem spoken_of_runs {p : Attempt α} {Q : Except Failure α → Transcript → Prop}
    {r : Except Failure α}
    (h : spokenWatch.Tries [] p (fun a => Q (.ok a)) fun f => Q (.error f))
    (hrun : p.run.Runs events r) (htable : events.Lasting true) (hself : events.Reflexive) :
    Q r events.spoken := by
  have hafter := (h.of_runs hrun (admits_of_lasting htable hself)).2
  rw [after_eq, List.nil_append] at hafter
  cases r <;> exact hafter

/-! ## Programs -/

/-- One request that is no look at the table, and what comes after its reply. -/
theorem ensures_say {q : Request} {k : q.Reply → Program α} {Q : α → Transcript → Prop}
    (hq : q ≠ .table)
    (h : ∀ r, q.ReflexiveReply r → spokenWatch.Ensures (said ++ [⟨q, r⟩]) (k r) Q) :
    spokenWatch.Ensures said (request q >>= k) Q := by
  refine ⟨trivial, fun r hr => ?_⟩
  have hnext : spokenWatch.next said q r = said ++ [⟨q, r⟩] := if_neg hq
  rw [hnext]
  exact h r hr.2

theorem ensures_ifLoaded {p : Program Unit} {Q : Unit → Transcript → Prop}
    (h : spokenWatch.Ensures said p Q) : spokenWatch.Ensures said (ifLoaded p) Q := by
  refine ⟨trivial, fun table htable => ?_⟩
  cases table with
  | none => cases htable.1 rfl
  | some table => exact h

/-- A program says what one of its runs says. -/
theorem ensures_runs (p : Program α) :
    spokenWatch.Ensures said p fun a after =>
      ∃ events, p.Runs events a ∧ after = said ++ events.spoken := by
  induction p generalizing said with
  | done a => exact ⟨[], .done a, by simp⟩
  | ask q k ih =>
    refine ⟨trivial, fun r _ => ?_⟩
    by_cases hq : q = .table
    · subst hq
      apply (ih r).mono
      rintro a _ ⟨events, hrun, rfl⟩
      exact ⟨⟨.table, r⟩ :: events, .ask r hrun, rfl⟩
    · have hnext : spokenWatch.next said q r = said ++ [⟨q, r⟩] := if_neg hq
      rw [hnext]
      apply (ih r).mono
      rintro a _ ⟨events, hrun, rfl⟩
      refine ⟨⟨q, r⟩ :: events, .ask r hrun, ?_⟩
      rw [Transcript.spoken_cons (e := ⟨q, r⟩) hq, List.append_assoc]
      rfl

/-- A program that asks only for some requests says them only. -/
theorem ensures_asked {P : Request → Prop} {p : Program α} (h : p.Asks P) :
    spokenWatch.Ensures said p fun _ after =>
      ∃ rest, after = said ++ rest ∧ ∀ e ∈ rest, P e.request := by
  apply (ensures_runs p).mono
  rintro a _ ⟨events, hrun, rfl⟩
  exact ⟨events.spoken, rfl, fun e he => h.of_runs hrun e (Transcript.mem_spoken.1 he).1⟩

/-! ## Attempts -/

variable {β : Type} {f : β → Attempt α}

theorem tries_say {q : Request} {k : q.Reply → Attempt α} (hq : q ≠ .table)
    (h : ∀ r, q.ReflexiveReply r → spokenWatch.Tries (said ++ [⟨q, r⟩]) (k r) ok failed) :
    spokenWatch.Tries said (liftM (request q) >>= k) ok failed :=
  Watch.tries_bind.2 (Watch.tries_lift.2 (ensures_say (k := .done) hq fun r hr => h r hr))

/-- A call, and what comes after its reply. -/
theorem tries_call {call : Call} {k : call.Reply → Attempt α}
    (h : ∀ r, spokenWatch.Tries (said ++ [⟨.call call, r⟩]) (k r) ok failed) :
    spokenWatch.Tries said (liftM (native call) >>= k) ok failed :=
  tries_say (q := .call call) (by simp) fun r _ => h r

/-- A call that an attempt ends with. -/
theorem tries_native {call : Call} {ok : call.Reply → Transcript → Prop}
    (h : ∀ r, ok r (said ++ [⟨.call call, r⟩])) :
    spokenWatch.Tries said (liftM (native call)) ok failed :=
  Watch.tries_lift.2 (ensures_say (q := .call call) (k := .done) (by simp) fun r _ => h r)

theorem tries_requireTable {k : Unit → Attempt α} (h : spokenWatch.Tries said (k ()) ok failed) :
    spokenWatch.Tries said (requireTable >>= k) ok failed := by
  refine ⟨trivial, fun table htable => ?_⟩
  cases table with
  | none => cases htable.1 rfl
  | some table => exact h

theorem tries_nativeText {s : String} {k : CText → Attempt α}
    (hsome : ∀ text, CText.ofString? s = some text → spokenWatch.Tries said (k text) ok failed)
    (hnone : CText.ofString? s = none → failed (.zeroByte s) said) :
    spokenWatch.Tries said (nativeText s >>= k) ok failed := by
  unfold nativeText
  cases h : CText.ofString? s with
  | some text => exact hsome text h
  | none => exact hnone h

/-- The message that the error buffer holds. -/
def pendingMessage (buffer : Option CText) : String :=
  Text.trimEnd ((buffer.map CText.lossy).getD "")

theorem tries_takeError {k : String → Attempt α}
    (h : ∀ buffer, spokenWatch.Tries
      (said ++ [⟨.call .errorBuffer, buffer⟩, ⟨.call (.act .errorClear), ()⟩])
      (k (pendingMessage buffer)) ok failed) :
    spokenWatch.Tries said (liftM takeError >>= k) ok failed := by
  refine Watch.tries_bind.2 (Watch.tries_lift.2 ?_)
  refine ensures_say (q := .call .errorBuffer) (by simp) fun buffer _ => ?_
  refine ensures_say (q := .call (.act .errorClear)) (by simp) fun _ _ => ?_
  rw [List.append_assoc]
  exact h buffer

/-- The name that messages have for a type. -/
def shownName (name : Option CText) : String := (name.map CText.lossy).getD "invalid"

theorem tries_mismatch {expected found : TypeId} {ok : β → Transcript → Prop}
    (h : ∀ expectedName foundName, failed (.typeMismatch (shownName expectedName)
        (shownName foundName)) (said ++ [⟨.call (.typeName expected), expectedName⟩,
          ⟨.call (.typeName found), foundName⟩])) :
    spokenWatch.Tries said (mismatch expected found : Attempt β) ok failed := by
  have hname {γ : Type} {said : Transcript} {type : TypeId} {k : String → Attempt γ}
      {ok : γ → Transcript → Prop}
      (h : ∀ name, spokenWatch.Tries (said ++ [⟨.call (.typeName type), name⟩])
        (k (shownName name)) ok failed) :
      spokenWatch.Tries said (typeName type >>= k) ok failed :=
    Watch.tries_bind.2 (tries_requireTable (tries_call h))
  refine hname fun expectedName => hname fun foundName => ?_
  rw [List.append_assoc]
  exact h expectedName foundName

end SpokenWatch

end ImageGateway
