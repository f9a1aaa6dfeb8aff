-- The messages that the library gathers. A failure that tells one has taken it
-- out of the error buffer, right after the call that failed, and has cleared the
-- buffer. Whatever else comes of an attempt, the buffer is left alone.

import ImageGateway.Proofs.Assignment
import ImageGateway.Proofs.Background

namespace ImageGateway

open SpokenWatch (pendingMessage)

/-- A look at the error buffer, or its clearing. -/
def Request.Drains : Request → Prop
  | .call .errorBuffer | .call (.act .errorClear) => True
  | _ => False

/-- A request that leaves the error buffer as it is. -/
def Request.Calm (q : Request) : Prop := ¬ q.Drains

/-- A question about the names of what failed. -/
def Request.Naming : Request → Prop
  | .call (.cellGet _ .string) => True
  | q => q.Inquiry

namespace Failure

/-- The message of the library that a failure tells. -/
def taken? : Failure → Option String
  | .start text | .unknownArgument _ _ text | .unknownNick _ _ text | .operation _ text => some text
  | _ => none

/-- The call that failed. -/
def Blames : Failure → Event → Prop
  | .start _, ⟨.call (.start _), status⟩ => status ≠ 0
  | .unknownArgument name _ _, ⟨.call (.getArgument _ text), found⟩ =>
    name = text.lossy ∧ found.type? = none
  | .unknownNick _ _ _, ⟨.call (.enumFromNick _ _ _), number⟩ => number < 0
  | .operation name _, ⟨.call (.operationNew text), made⟩ =>
    CText.ofString? name = some text ∧ made = none
  | .operation _ _, ⟨.call (.build _), answer⟩ => answer.1 ≠ 0
  | .operation _ _, ⟨.call (.sourceFromBlob _), made⟩ => made = none
  | .operation _ _, ⟨.call .targetToMemory, made⟩ => made = none
  | .operation name _, ⟨.call (.findCodec _ text), found⟩ =>
    CText.ofString? name = some text ∧ found = none
  | _, _ => False

end Failure

/-- The failure of an attempt, if it failed. -/
def failureOf {α : Type} : Except Failure α → Option Failure
  | .ok _ => none
  | .error failure => some failure

/-- How the error buffer fared while something was done that failed, or did not. -/
inductive Drained : Option Failure → Transcript → Prop where
  /-- It was left alone, and no message is told. -/
  | untouched {failure? : Option Failure} {events : Transcript}
      (untold : failure?.bind Failure.taken? = none) (calm : ∀ e ∈ events, e.request.Calm) :
      Drained failure? events
  /-- It was read once, after the call that failed, and cleared once, right after that. Its text is
  the message that is told. -/
  | taken {failure : Failure} {before asked after : Transcript} {failed : Event}
      {buffer : Option CText} (told : failure.taken? = some (pendingMessage buffer))
      (blame : failure.Blames failed) (naming : ∀ e ∈ asked, e.request.Naming)
      (calm : ∀ e ∈ before ++ failed :: asked ++ after, e.request.Calm) :
      Drained (some failure) (before ++ failed :: asked ++
        [⟨.call .errorBuffer, buffer⟩, ⟨.call (.act .errorClear), ()⟩] ++ after)

namespace Request

theorem calm_of_inquiry (q : Request) (h : q.Inquiry) : q.Calm := by
  unfold Inquiry at h
  split at h <;> first | exact id | exact h.elim

theorem calm_of_naming (q : Request) (h : q.Naming) : q.Calm := by
  unfold Naming at h
  split at h
  · exact id
  · exact calm_of_inquiry q h

theorem naming_of_inquiry (q : Request) (h : q.Inquiry) : q.Naming := by
  unfold Naming
  split <;> trivial

theorem calm_of_boxing (q : Request) (h : q.Boxing) : q.Calm := by
  unfold Boxing at h
  split at h <;> first | exact id | exact calm_of_inquiry q h

theorem calm_of_slotting (q : Request) (h : q.Slotting) : q.Calm := by
  unfold Slotting at h
  split at h <;> first | exact id | exact calm_of_boxing q h

theorem calm_of_looking (q : Request) (h : q.Looking) : q.Calm := by
  unfold Looking at h
  split at h <;> first | exact id | exact calm_of_inquiry q h

theorem calm_of_steady (q : Request) (h : q.Steady) : q.Calm := by
  unfold Steady at h
  split at h <;> first | exact id | exact calm_of_inquiry q h

theorem calm_of_loading (q : Request) (h : q.Loading) : q.Calm := by
  cases q <;> first | exact id | exact h.elim

end Request

open Request Program

/-! ## Transcripts -/

namespace Drained

variable {failure? : Option Failure} {first second : Transcript}

theorem calm_before (hfirst : ∀ e ∈ first, e.request.Calm) (h : Drained failure? second) :
    Drained failure? (first ++ second) := by
  cases h with
  | untouched untold calm =>
    refine .untouched untold fun e he => ?_
    rcases List.mem_append.1 he with he | he
    · exact hfirst e he
    · exact calm e he
  | @taken failure before asked after failed buffer told blame naming calm =>
    have htaken : Drained (some failure) ((first ++ before) ++ failed :: asked ++
        [⟨.call .errorBuffer, buffer⟩, ⟨.call (.act .errorClear), ()⟩] ++ after) := by
      refine .taken told blame naming fun e he => ?_
      rw [List.append_assoc, List.append_assoc, List.mem_append, ← List.append_assoc] at he
      rcases he with he | he
      · exact hfirst e he
      · exact calm e he
    simpa only [List.append_assoc] using htaken

theorem calm_after (h : Drained failure? first) (hsecond : ∀ e ∈ second, e.request.Calm) :
    Drained failure? (first ++ second) := by
  cases h with
  | untouched untold calm =>
    refine .untouched untold fun e he => ?_
    rcases List.mem_append.1 he with he | he
    · exact calm e he
    · exact hsecond e he
  | @taken failure before asked after failed buffer told blame naming calm =>
    have htaken : Drained (some failure) (before ++ failed :: asked ++
        [⟨.call .errorBuffer, buffer⟩, ⟨.call (.act .errorClear), ()⟩] ++
          (after ++ second)) := by
      refine .taken told blame naming fun e he => ?_
      rw [← List.append_assoc, List.mem_append] at he
      rcases he with he | he
      · exact calm e he
      · exact hsecond e he
    simpa only [List.append_assoc] using htaken

/-- Nothing is told without a failure. -/
theorem calm_of_none (h : Drained none first) : ∀ e ∈ first, e.request.Calm := by
  cases h with
  | untouched untold calm => exact calm

end Drained

theorem Transcript.Lasting.of_append {first second : Transcript}
    (h : Lasting false (first ++ second)) : Lasting false first ∧ Lasting false second := by
  have hmono {seen : Bool} {events : Transcript} (h : Lasting seen events) :
      Lasting false events := by
    induction events generalizing seen with
    | nil => trivial
    | cons e events ih =>
      refine ⟨nofun, ?_⟩
      cases hseen : Resource.tableSeen e.request e.reply with
      | false => exact ih h.2
      | true =>
        have hrest := h.2
        rw [hseen, Bool.or_true] at hrest
        exact hrest
  obtain ⟨hfirst, hsecond⟩ := lasting_append.1 h
  exact ⟨hfirst, hmono hsecond⟩

/-! ## Attempts -/

namespace Attempt

variable {α β : Type}

/-- However the attempt ends, the error buffer fared well. -/
def Drains (p : Attempt α) : Prop :=
  ∀ events r, p.run.Runs events r → events.Lasting false → Drained (failureOf r) events

/-- However the attempt ends after an event, the error buffer fared well. -/
def DrainsAfter (e : Event) (p : Attempt α) : Prop :=
  ∀ events r, p.run.Runs events r → events.Lasting false → Drained (failureOf r) (e :: events)

theorem drains_pure (a : α) : Drains (pure a : Attempt α) := by
  intro events r h _
  obtain ⟨rfl, rfl⟩ := runs_done_iff.1 h
  exact .untouched rfl (List.forall_mem_nil _)

theorem drains_throw {failure : Failure} (h : failure.taken? = none) :
    Drains (throw failure : Attempt α) := by
  intro events r hrun _
  obtain ⟨rfl, rfl⟩ := runs_done_iff.1 hrun
  exact .untouched h (List.forall_mem_nil _)

theorem Drains.try {p : Attempt α} {f : α → Attempt β} (hp : Drains p) (hf : ∀ a, Drains (f a)) :
    Drains (p >>= f) := by
  intro events r h htable
  rcases runs_try_iff.1 h with ⟨failure, hfailed, rfl⟩ | ⟨first, second, a, rfl, hfirst, hsecond⟩
  · exact hp events _ hfailed htable
  · obtain ⟨hlasting, hrest⟩ := htable.of_append
    exact (hf a second r hsecond hrest).calm_before (hp first _ hfirst hlasting).calm_of_none

theorem drains_lift {p : Program α} (hp : p.Asks Calm) : Drains (liftM p : Attempt α) := by
  intro events r h _
  obtain ⟨a, rfl, hrun⟩ := runs_lift_iff.1 h
  exact .untouched rfl (hp.of_runs hrun)

theorem drains_then {p : Program α} {f : α → Attempt β} (hp : p.Asks Calm)
    (hf : ∀ a, Drains (f a)) : Drains (liftM p >>= f) := (drains_lift hp).try hf

theorem Drains.map {p : Attempt α} {f : α → β} (hp : Drains p) :
    Drains (do return f (← p) : Attempt β) := hp.try fun _ => drains_pure _

/-- A call, and what comes after its reply. -/
theorem drains_call {c : Call} {k : c.Reply → Attempt α}
    (hk : ∀ r, DrainsAfter ⟨.call c, r⟩ (k r)) : Drains (liftM (native c) >>= k) := by
  intro events r h htable
  obtain ⟨first, second, a, rfl, hfirst, hsecond⟩ := runs_then_iff.1 h
  obtain rfl := runs_request_iff.1 hfirst
  exact hk a second r hsecond htable.of_append.2

theorem Drains.after {p : Attempt α} (hp : Drains p) {e : Event} (he : e.request.Calm) :
    DrainsAfter e p := by
  intro events r h htable
  have hfirst : ∀ d ∈ [e], d.request.Calm := by simpa using he
  exact (hp events r h htable).calm_before hfirst

/-- The message is taken once the names are known. What has to be cleaned up is cleaned up then. -/
theorem drainsAfter_asked (asked : Attempt β) (cleanUp : Program Unit)
    (failure : β → String → Failure) {failed : Event} {p : β → Attempt α}
    (hfailed : failed.request.Calm)
    (hasked : asked.run.Asks Naming) (hdry : Drains asked) (hclean : cleanUp.Asks Calm)
    (htold : ∀ b message, (failure b message).taken? = some message)
    (hblame : ∀ b message, (failure b message).Blames failed)
    (hp : ∀ b, p b = do
      let message ← takeError
      cleanUp
      throw (failure b message)) :
    DrainsAfter failed (asked >>= p) := by
  intro events r h htable
  rcases runs_try_iff.1 h with ⟨_, hrun, rfl⟩ | ⟨first, second, b, rfl, hfirst, hsecond⟩
  · have hfirst : ∀ d ∈ [failed], d.request.Calm := by simpa using hfailed
    exact (hdry events _ hrun htable).calm_before hfirst
  rw [hp] at hsecond
  obtain ⟨third, _, message, rfl, hthird, hrest⟩ := runs_then_iff.1 hsecond
  obtain ⟨fourth, _, _, rfl, hfourth, hthrow⟩ := runs_then_iff.1 hrest
  obtain ⟨rfl, rfl⟩ := runs_done_iff.1 hthrow
  obtain ⟨buffer, rest, rfl, hcleared⟩ := runs_ask_iff.1 hthird
  obtain ⟨⟨⟩, rest, rfl, hdone⟩ := runs_ask_iff.1 hcleared
  obtain ⟨rfl, rfl⟩ := runs_done_iff.1 hdone
  have htaken : Drained (some (failure b (pendingMessage buffer))) ([] ++ failed :: first ++
      [⟨.call .errorBuffer, buffer⟩, ⟨.call (.act .errorClear), ()⟩] ++ fourth) := by
    refine .taken (htold b _) (hblame b _) (hasked.of_runs hfirst) fun e he => ?_
    rcases List.mem_append.1 he with he | he
    · rcases List.mem_cons.1 he with rfl | he
      · exact hfailed
      · exact calm_of_naming _ (hasked.of_runs hfirst e he)
    · exact hclean.of_runs hfourth e he
  simp only [List.append_assoc, List.nil_append, List.append_nil, List.cons_append] at htaken ⊢
  exact htaken

/-- The message is taken right after the call that failed. -/
theorem drainsAfter_taking {failed : Event} {failure : String → Failure}
    (hfailed : failed.request.Calm) (htold : ∀ message, (failure message).taken? = some message)
    (hblame : ∀ message, (failure message).Blames failed) :
    DrainsAfter failed (do throw (failure (← takeError)) : Attempt α) :=
  drainsAfter_asked (pure ()) (pure ()) (fun _ => failure) hfailed trivial (drains_pure ()) trivial
    (fun _ => htold) (fun _ => hblame) fun _ => rfl

theorem Drains.closedBy {p : Attempt α} {q : Program Unit} (hp : Drains p) (hq : q.Asks Calm) :
    Drains (p.closedBy q) := by
  intro events r h htable
  obtain ⟨first, closing, rfl, hfirst, hclosing⟩ := runs_closedBy_iff.1 h
  exact (hp first r hfirst htable.of_append.1).calm_after (hq.of_runs hclosing)

/-- A failure that is passed on after a clean-up. -/
theorem Drains.passed {p : Attempt α} {f : Except Failure α → Attempt β} {q : Program Unit}
    (hp : Drains p) (hq : q.Asks Calm) (hok : ∀ a, Drains (f (.ok a)))
    (herror : ∀ failure, f (.error failure) = do
      q
      throw failure) :
    Drains (p.result >>= f) := by
  intro events r h htable
  obtain ⟨first, second, result, rfl, hfirst, hsecond⟩ := runs_then_iff.1 h
  obtain ⟨hlasting, hrest⟩ := htable.of_append
  cases result with
  | ok a =>
    exact (hok a second r hsecond hrest).calm_before (hp first _ hfirst hlasting).calm_of_none
  | error failure =>
    rw [herror] at hsecond
    obtain ⟨third, fourth, _, rfl, hthird, hthrow⟩ := runs_then_iff.1 hsecond
    obtain ⟨rfl, rfl⟩ := runs_done_iff.1 hthrow
    rw [List.append_nil] at htable ⊢
    exact (hp first _ hfirst hlasting).calm_after (hq.of_runs hthird)

end Attempt

end ImageGateway
