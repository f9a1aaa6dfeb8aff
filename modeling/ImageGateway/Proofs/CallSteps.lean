-- The steps of an operation call as the library sees them: it makes the
-- operation, takes the inputs, builds, hands out the outputs and gives up what
-- it holds for them. All other calls prepare a step or look at what came of it.

import ImageGateway.Proofs.Footprint
import ImageGateway.Proofs.Tally

namespace ImageGateway

/-- A step of an operation call. -/
inductive Step where
  | create (nickname : Option CText)
  | assign (object : Handle) (name : Option CText)
  | build (operation : Handle)
  | fetch (object : Handle) (name : Option CText)
  | clear (object : Option Handle)

/-- The step that a request is, if it is one. -/
def Request.step? : Request → Option Step
  | .call (.operationNew nickname) => some (.create nickname)
  | .call (.setProperty object name _) => some (.assign object name)
  | .call (.build operation) => some (.build operation)
  | .call (.getProperty object name _) => some (.fetch object name)
  | .call (.unrefOutputs object) => some (.clear object)
  | _ => none

/-- The steps of a transcript, oldest first. -/
def Transcript.steps (events : Transcript) : List Step := events.filterMap (·.request.step?)

/-- A request that is no step. -/
def Request.Stepless (q : Request) : Prop := q.step? = none

namespace Transcript

@[simp] theorem steps_nil : steps [] = [] := rfl

@[simp] theorem steps_append (first second : Transcript) :
    steps (first ++ second) = steps first ++ steps second := List.filterMap_append

theorem steps_cons (e : Event) (events : Transcript) :
    steps (e :: events) = e.request.step?.toList ++ steps events := by
  unfold steps
  rw [List.filterMap_cons]
  split <;> simp_all

end Transcript

namespace Request

theorem stepless_of_question (q : Request) (h : q.Question) : q.Stepless := by
  unfold Question at h
  split at h <;> first | rfl | exact h.elim

theorem stepless_of_inquiry : ∀ q : Request, q.Inquiry → q.Stepless :=
  inquiry_of stepless_of_question

theorem stepless_of_boxing (q : Request) (h : q.Boxing) : q.Stepless := by
  unfold Boxing at h
  split at h <;> first | rfl | exact stepless_of_inquiry q h

theorem stepless_of_slotting (q : Request) (h : q.Slotting) : q.Stepless := by
  unfold Slotting at h
  split at h <;> first | rfl | exact stepless_of_boxing q h

theorem stepless_of_looking (q : Request) (h : q.Looking) : q.Stepless := by
  unfold Looking at h
  split at h <;> first | rfl | exact stepless_of_inquiry q h

theorem stepless_of_preparing {object : Handle} (q : Request) (h : q.Preparing object) :
    q.Stepless := by
  unfold Preparing at h
  split at h <;> first | rfl | exact stepless_of_boxing q h

end Request

theorem Program.steps_of_asks {α : Type} {p : Program α} {events : Transcript} {a : α}
    (hp : p.Asks Request.Stepless) (h : p.Runs events a) : events.steps = [] := by
  unfold Transcript.steps
  rw [List.filterMap_eq_nil_iff]
  exact hp.of_runs h

/-! ## Watching the steps -/

/-- Watches the steps of a program. -/
def stepWatch : Watch (List Step) where
  allows _ _ := True
  admits _ _ _ := True
  next steps q _ := steps ++ q.step?.toList

namespace StepWatch

open Program Request

variable {α : Type} {steps : List Step} {events : Transcript}

theorem after_eq (steps : List Step) (events : Transcript) :
    stepWatch.after steps events = steps ++ events.steps := by
  induction events generalizing steps with
  | nil => simp [Watch.after]
  | cons e events ih =>
    rw [Transcript.steps_cons, ← List.append_assoc]
    exact ih _

theorem admits_all (steps : List Step) (events : Transcript) :
    stepWatch.Admits steps events := by
  induction events generalizing steps with
  | nil => trivial
  | cons e events ih => exact ⟨trivial, ih _⟩

theorem ensures_stepless {p : Program α} (h : p.Asks Stepless) :
    stepWatch.Ensures steps p fun _ after => after = steps := by
  induction p generalizing steps with
  | done a => rfl
  | ask q k ih =>
    refine ⟨trivial, fun r _ => ?_⟩
    have hnext : stepWatch.next steps q r = steps := by
      have hq : q.step? = none := h.1
      simp [stepWatch, hq]
    rw [hnext]
    exact ih r (h.2 r)

theorem tries_stepless {p : Attempt α} (h : p.run.Asks Stepless) :
    stepWatch.Tries steps p (fun _ after => after = steps) fun _ after => after = steps := by
  apply Watch.Ensures.mono (ensures_stepless h)
  intro answer after hafter
  cases answer <;> exact hafter

theorem native_stepless {c : Call} (h : (Request.call c).step? = none) :
    (native c).Asks Stepless := asks_of h

/-- The one step that a request is. -/
theorem ensures_step {q : Request} {step : Step} (h : q.step? = some step) :
    stepWatch.Ensures steps (request q) fun _ after => after = steps ++ [step] := by
  refine ⟨trivial, fun r _ => ?_⟩
  simp [stepWatch, h]

theorem nativeText_tries (s : String) :
    stepWatch.Tries steps (nativeText s)
      (fun text after => some text = CText.ofString? s ∧ after = steps)
      fun _ after => after = steps := by
  unfold nativeText
  cases h : CText.ofString? s with
  | some text => exact ⟨rfl, rfl⟩
  | none => exact (rfl : steps = steps)

/-- An operation is asked for once. -/
theorem new_tries (nickname : String) :
    stepWatch.Tries steps (Operation.new nickname)
      (fun _ after => after = steps ++ [.create (CText.ofString? nickname)]) fun _ _ => True := by
  refine Watch.Tries.bind ((tries_stepless (requireTable_asks stepless_of_inquiry)).mono
    (fun _ _ h => h) fun _ _ _ => trivial) ?_
  rintro _ _ rfl
  refine Watch.Tries.bind
    ((nativeText_tries nickname).mono (fun _ _ h => h) fun _ _ _ => trivial) ?_
  intro text _ hend
  obtain ⟨htext, rfl⟩ := hend
  rw [← htext]
  apply Watch.Ensures.then (ensures_step rfl)
  intro handle _ heq
  subst heq
  cases handle with
  | none =>
    exact (ensures_stepless (takeError_asks stepless_of_question)).then fun _ _ _ => trivial
  | some handle => exact (rfl : _ = _)

/-! ## Inputs -/

/-- An assignment is one step. Nothing is assigned on a failure. -/
theorem set_tries (object : Object) (name : String) (v : Value) :
    stepWatch.Tries steps (Property.set object name v)
      (fun _ after => after = steps ++ [.assign object.handle (CText.ofString? name)])
      fun _ after => after = steps := by
  apply Watch.Tries.bind (tries_stepless (requireTable_asks stepless_of_inquiry))
  rintro _ _ rfl
  apply Watch.Tries.bind (nativeText_tries name)
  intro text _ hend
  obtain ⟨htext, rfl⟩ := hend
  have hlookup : (Property.lookup object text).run.Asks Stepless :=
    lookup_asks stepless_of_question object text rfl
  apply Watch.Tries.bind (tries_stepless hlookup)
  rintro found _ rfl
  have hsubstitute : (Property.substitute object name found.spec.type v).run.Asks Stepless :=
    (substitute_prepares name found.spec.type v).mono stepless_of_preparing
  apply Watch.Tries.bind (tries_stepless hsubstitute)
  have hassign (w : Value) (steps : List Step) :
      stepWatch.Ensures steps (native (.setProperty object.handle text w.cell)) fun _ after =>
        after = steps ++ [.assign object.handle (some text)] := ensures_step rfl
  rw [← htext]
  intro other _ heq
  subst heq
  cases other with
  | none => exact Watch.tries_lift.2 (hassign v _)
  | some other =>
    refine Watch.tries_closedBy.2 (Watch.tries_lift.2 ((hassign other _).mono ?_))
    rintro _ _ rfl
    exact ensures_stepless (valueRelease_asks stepless_of_inquiry rfl)

theorem operationSet_tries (operation : Operation) (name : String) (argument : Argument) :
    stepWatch.Tries steps (operation.set name argument)
      (fun _ after => after = steps ++ [.assign operation.object.handle (CText.ofString? name)])
      fun _ after => after = steps := by
  have hvalue : argument.toValue.run.Asks Stepless :=
    (toValue_slots argument).mono stepless_of_slotting
  apply Watch.Tries.bind (tries_stepless hvalue)
  rintro v _ rfl
  have hrelease (steps : List Step) :
      stepWatch.Ensures steps v.release fun _ after => after = steps :=
    ensures_stepless (valueRelease_asks stepless_of_inquiry rfl)
  refine Watch.tries_closedBy.2 ((set_tries operation.object name v).mono ?_ ?_)
  · rintro _ _ rfl
    exact hrelease _
  · rintro _ _ rfl
    exact hrelease _

/-! ## Outputs -/

/-- A property is fetched once, or the attempt failed before that. -/
theorem get_tries (object : Object) (name : String) (type : TypeId) :
    stepWatch.Tries steps (Property.get object name type)
      (fun _ after => after = steps ++ [.fetch object.handle (CText.ofString? name)])
      fun _ after => after = steps := by
  apply Watch.Tries.bind (tries_stepless (requireTable_asks stepless_of_inquiry))
  rintro _ _ rfl
  apply Watch.Tries.bind (nativeText_tries name)
  intro text _ hend
  obtain ⟨htext, rfl⟩ := hend
  have hlookup : (Property.lookup object text).run.Asks Stepless :=
    lookup_asks stepless_of_question object text rfl
  apply Watch.Tries.bind (tries_stepless hlookup)
  rintro found _ rfl
  have htype : (Property.checkTransformable found.spec.type type).run.Asks Stepless :=
    checkTransformable_asks stepless_of_inquiry _ _
  apply Watch.Tries.bind (tries_stepless htype)
  rintro _ _ rfl
  have hnew : (Value.new type).run.Asks Stepless := by
    refine (requireTable_asks stepless_of_inquiry).try fun _ =>
      ((native_stepless (c := .cellInit type) rfl).bind ?_).lift
    intro number
    cases number <;> trivial
  apply Watch.Tries.bind (tries_stepless hnew)
  rintro v _ rfl
  rw [← htext]
  exact Watch.Ensures.then (ensures_step rfl) fun _ _ hfetched => hfetched

/-- What a reading does: it fetches the property once if it answers, and at most once if it
fails. -/
def Fetches (object : Object) (name : String) (p : Attempt α) : Prop :=
  ∀ steps, stepWatch.Tries steps p
    (fun _ after => after = steps ++ [.fetch object.handle (CText.ofString? name)])
    fun _ after => after = steps ∨ after = steps ++ [.fetch object.handle (CText.ofString? name)]

variable {β : Type} {object : Object} {name : String}

theorem Fetches.try {p : Attempt α} {f : α → Attempt β} (hp : Fetches object name p)
    (hf : ∀ a, (f a).run.Asks Stepless) : Fetches object name (p >>= f) := by
  intro steps
  apply Watch.Tries.bind (hp steps)
  rintro a _ rfl
  exact (tries_stepless (hf a)).mono (fun _ _ h => h) fun _ _ h => .inr h

theorem fetches_after {p : Attempt α} {f : α → Attempt β} (hp : p.run.Asks Stepless)
    (hf : ∀ a, Fetches object name (f a)) : Fetches object name (p >>= f) := by
  intro steps
  refine Watch.Tries.bind ((tries_stepless hp).mono (fun _ _ h => h) fun _ _ h => .inl h) ?_
  rintro a _ rfl
  exact hf a _

theorem getWith_fetches {read : Value → Attempt α} (hread : ∀ v, (read v).run.Asks Looking)
    (type : TypeId) : Fetches object name (Property.getWith object name type read) := by
  intro steps
  refine Watch.Tries.bind
    ((get_tries object name type).mono (fun _ _ h => h) fun _ _ h => .inl h) ?_
  rintro v _ rfl
  have hlent : (v.lend read).run.Asks Stepless :=
    ((hread v).mono stepless_of_looking).closedBy (valueRelease_asks stepless_of_inquiry rfl)
  exact (tries_stepless hlent).mono (fun _ _ h => h) fun _ _ h => .inr h

theorem getRegistered_fetches {read : Value → Attempt α} (hread : ∀ v, (read v).run.Asks Looking)
    (which : Registered) :
    Fetches object name (Property.getRegistered object name which read) :=
  fetches_after (requireTable_asks stepless_of_inquiry) fun _ =>
    fetches_after (native_stepless (c := .registered which) rfl).lift fun type =>
      getWith_fetches hread type

theorem outputRelease_stepless (output : Output) : output.release.Asks Stepless := by
  unfold Output.release
  split
  · exact blobRelease_asks stepless_of_inquiry rfl
  · exact objectRelease_asks stepless_of_inquiry rfl
  · trivial

theorem read_fetches (object : Object) (name : String) (output : Output) :
    Fetches object name (output.read object name) := by
  cases output with
  | bool b => exact (getWith_fetches getBool_looks _).try fun _ => trivial
  | int n =>
    have hargument : (Property.argument object name).run.Asks Stepless :=
      argument_asks stepless_of_question fun _ => rfl
    exact (fetches_after hargument fun _ => getWith_fetches getInt_looks _).try fun _ => trivial
  | double d => exact (getWith_fetches getDouble_looks _).try fun _ => trivial
  | doubles xs => exact (getRegistered_fetches getDoubles_looks _).try fun _ => trivial
  | buffer xs =>
    have hfilled : Fetches object name (Property.getDoublesInto object name xs) :=
      (getRegistered_fetches getDoubles_looks _).try fun _ => trivial
    exact hfilled.try fun _ => trivial
  | ints xs => exact (getRegistered_fetches getInts_looks _).try fun _ => trivial
  | text t => exact (getWith_fetches getString_looks _).try fun _ => trivial
  | blob b =>
    exact (getRegistered_fetches getBlob_looks _).try fun _ =>
      (outputRelease_stepless _).then fun _ => trivial
  | image i =>
    exact (getRegistered_fetches getImage_looks _).try fun _ =>
      (outputRelease_stepless _).then fun _ => trivial

/-! ## What runs show -/

variable {p : Attempt α}

/-- What an attempt ensures about its steps is what its runs show. -/
theorem steps_of_runs {ok : α → List Step → Prop} {failed : Failure → List Step → Prop}
    (h : stepWatch.Tries [] p ok failed) :
    (∀ a, p.run.Runs events (.ok a) → ok a events.steps) ∧
      ∀ failure, p.run.Runs events (.error failure) → failed failure events.steps := by
  refine ⟨fun a hrun => ?_, fun failure hrun => ?_⟩
  · have hafter := (h.of_runs hrun (admits_all _ _)).2
    rwa [after_eq, List.nil_append] at hafter
  · have hafter := (h.of_runs hrun (admits_all _ _)).2
    rwa [after_eq, List.nil_append] at hafter

end StepWatch

end ImageGateway
