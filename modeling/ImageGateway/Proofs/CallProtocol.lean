-- The protocol of a call, on the loaded library. A call makes its operation,
-- sets the inputs in order, builds, reads the outputs in order, and stops at
-- the first failure. Each of its ends has a clean-up of its own.

import ImageGateway.Proofs.CallSteps
import ImageGateway.Proofs.InputAssigning
import ImageGateway.Proofs.OutputReading

namespace ImageGateway

open Program
open SpokenWatch (pendingMessage)

/-- Attempts at some items in order, up to the first failure: what they did, what those before the
failure answered, and the failure. `goes` says what an attempt at an item can do, and what comes of
it. -/
inductive InOrder {ι α : Type} (goes : ι → Transcript → Except Failure α → Prop) :
    List ι → Transcript → List α → Option Failure → Prop
  | done : InOrder goes [] [] [] none
  | failed {i : ι} {rest : List ι} {events : Transcript} {failure : Failure} :
      goes i events (.error failure) → InOrder goes (i :: rest) events [] (some failure)
  | next {i : ι} {rest : List ι} {first second : Transcript} {a : α} {answers : List α}
      {failure : Option Failure} :
      goes i first (.ok a) → InOrder goes rest second answers failure →
      InOrder goes (i :: rest) (first ++ second) (a :: answers) failure

namespace InOrder

variable {ι α : Type} {goes goesOn : ι → Transcript → Except Failure α → Prop} {items : List ι}
  {events : Transcript} {answers : List α} {failure : Option Failure}

/-- On the published table, each attempt goes as it goes there. -/
theorem onTable (h : InOrder goes items events answers failure) (htable : events.Lasting true)
    (hgoes : ∀ i events r, goes i events r → events.Lasting true → goesOn i events r) :
    InOrder goesOn items events answers failure := by
  induction h with
  | done => exact .done
  | failed hfailed => exact .failed (hgoes _ _ _ hfailed htable)
  | next hfirst _ ih =>
    obtain ⟨hbefore, hafter⟩ := Transcript.lasting_append_iff.1 htable
    exact .next (hgoes _ _ _ hfirst hbefore) (ih hafter)

/-- What none of the attempts asks for is not asked for. -/
theorem only {P : Request → Prop} (h : InOrder goes items events answers failure)
    (hgoes : ∀ i events r, goes i events r → ∀ e ∈ events, P e.request) :
    ∀ e ∈ events, P e.request := by
  induction h with
  | done => exact List.forall_mem_nil _
  | failed hfailed => exact hgoes _ _ _ hfailed
  | next hfirst _ ih =>
    intro e he
    rcases List.mem_append.1 he with he | he
    · exact hgoes _ _ _ hfirst e he
    · exact ih e he

/-- If each answer takes one step, then the steps belong to the items before the failure, and to the
failed one if it came that far. -/
theorem steps_eq {f : ι → Step} {slack : Nat} (h : InOrder goes items events answers failure)
    (hslack : slack ≤ 1) (hok : ∀ i events a, goes i events (.ok a) → events.steps = [f i])
    (hfailed : ∀ i events e, goes i events (.error e) →
      ∃ more ≤ slack, events.steps = [f i].take more) :
    ∃ more ≤ slack, events.steps = (items.take (answers.length + more)).map f := by
  induction h with
  | done => exact ⟨0, Nat.zero_le _, rfl⟩
  | @failed i rest events e hgoes =>
    obtain ⟨more, hmore, hsteps⟩ := hfailed i events e hgoes
    refine ⟨more, hmore, hsteps.trans ?_⟩
    rcases Nat.le_one_iff_eq_zero_or_eq_one.1 (Nat.le_trans hmore hslack) with rfl | rfl <;> simp
  | @next i rest first second a answers failure hfirst _ ih =>
    obtain ⟨more, hmore, hsteps⟩ := ih
    refine ⟨more, hmore, ?_⟩
    rw [Transcript.steps_append, hok i first a hfirst, hsteps, List.length_cons,
      Nat.add_right_comm, List.take_succ_cons]
    rfl

/-- Of one attempt at most, a failed one leaves no answer. -/
theorem answers_eq_nil {f : Failure} (h : InOrder goes items events answers (some f))
    (hone : items.length ≤ 1) : answers = [] := by
  cases h with
  | failed _ => rfl
  | @next i rest first second a answers _ _ hrest =>
    obtain rfl : rest = [] := List.length_eq_zero_iff.1 (by simpa using hone)
    cases hrest

end InOrder

/-- How attempts in order end: with their first failure, if there is one. -/
def outcome : Option Failure → Except Failure Unit
  | none => .ok ()
  | some failure => .error failure

namespace Operation

/-- How an operation is not made: what is said, and the failure. -/
inductive Unmade (nickname : String) : Failure → Transcript → Prop
  /-- The native side cannot take the nickname. -/
  | unnameable (zero : CText.ofString? nickname = none) : Unmade nickname (.zeroByte nickname) []
  /-- The library has no such operation. The message comes from the error buffer. -/
  | unknown {text : CText} {buffer : Option CText} (named : CText.ofString? nickname = some text) :
      Unmade nickname (.operation nickname (pendingMessage buffer))
        [⟨.call (.operationNew text), none⟩, ⟨.call .errorBuffer, buffer⟩,
          ⟨.call (.act .errorClear), ()⟩]

/-- The beginning of a call. The operation is made, and then the inputs are set in order, up to the
first failure. Each is set to its own value, in a library in which every type comes from itself. -/
structure Opening (nickname : String) (inputs : List (String × Argument)) (events : Transcript)
    (operation : Operation) (set : List Unit) (failure : Option Failure) : Prop where
  parts : ∃ (making setting : Transcript) (text : CText),
    events = ⟨.log .debug ("vips call " ++ nickname), ()⟩ :: making ++ setting ∧
      (new nickname).run.Runs making (.ok operation) ∧
      CText.ofString? nickname = some text ∧
      making.spoken = [⟨.call (.operationNew text), some operation.object.handle⟩] ∧
      InOrder (fun input said r => (operation.set input.1 input.2).run.Runs said r ∧
        (said.Reflexive → input.2.Given operation.object.handle input.1 r said.spoken)) inputs
        setting set failure
  /-- Exactly the inputs before the failure are assigned. -/
  steps : events.steps = .create (CText.ofString? nickname) ::
    (inputs.take set.length).map fun input =>
      .assign operation.object.handle (CText.ofString? input.1)

/-- What a call did, and how it ended. -/
inductive Exit (nickname : String) (options : CallOptions) :
    Transcript → Except Failure Unit → List Output → Prop
  /-- There is no operation. Nothing is called on any object. -/
  | unmade {making : Transcript} {failure : Failure}
      (hmaking : (new nickname).run.Runs making (.error failure))
      (hunmade : Unmade nickname failure making.spoken) :
      Exit nickname options (⟨.log .debug ("vips call " ++ nickname), ()⟩ :: making)
        (.error failure) options.held
  /-- An input failed. All that is left to do is to give the operation up. -/
  | unset {opening closing : Transcript} {operation : Operation} {set : List Unit}
      {failure : Failure}
      (hopening : Opening nickname options.inputs opening operation set (some failure))
      (hclosing : closing.calls = [.unref (some operation.object.handle)]) :
      Exit nickname options (opening ++ closing) (.error failure) options.held
  /-- The build failed. The message comes from the error buffer. The outputs of what it left are
  given up, and then what it left. -/
  | unbuilt {opening building : Transcript} {operation : Operation} {set : List Unit}
      {status : Int32} {left : Option Handle} {buffer : Option CText}
      (hopening : Opening nickname options.inputs opening operation set none)
      (hsaid : building.spoken = [⟨.call (.build operation.object.handle), (status, left)⟩,
        ⟨.call .errorBuffer, buffer⟩, ⟨.call (.act .errorClear), ()⟩,
        ⟨.call (.unrefOutputs left), ()⟩, ⟨.call (.unref left), ()⟩])
      (hstatus : status ≠ 0) :
      Exit nickname options (opening ++ building)
        (.error (.operation nickname (pendingMessage buffer))) options.held
  /-- The build went well and left a null pointer. -/
  | null {opening building : Transcript} {operation : Operation} {set : List Unit}
      (hopening : Opening nickname options.inputs opening operation set none)
      (hsaid : building.spoken = [⟨.call (.build operation.object.handle), (0, none)⟩]) :
      Exit nickname options (opening ++ building) (.error (.nullPointer .operation)) options.held
  /-- The build went well. The outputs are read from what it left, up to the first failure. Those
  before it hold what the library told, and those after it what they held. -/
  | read {opening building reading closing : Transcript} {operation : Operation} {set : List Unit}
      {built : Handle} {answers : List Output} {failure : Option Failure}
      (hopening : Opening nickname options.inputs opening operation set none)
      (hsaid : building.spoken = [⟨.call (.build operation.object.handle), (0, some built)⟩])
      (hreading : InOrder (fun output said r => (output.2.read ⟨built⟩ output.1).run.Runs said r ∧
        output.2.Filled built output.1 r said.spoken) options.outputs reading answers failure)
      (honly : ∀ e ∈ reading, e.request.Reading built)
      (hsteps : ∃ more ≤ 1, reading.steps =
        (options.outputs.take (answers.length + more)).map fun output =>
          .fetch built (CText.ofString? output.1))
      (hclosing : closing.calls = [.unrefOutputs (some built), .unref (some built)]) :
      Exit nickname options (opening ++ building ++ reading ++ closing) (outcome failure)
        (answers ++ options.held.drop answers.length)

end Operation

/-! ## Making and building -/

namespace Operation

variable {events : Transcript} {nickname : String} {operation : Operation} {failure : Failure}

theorem new_speaks {said : Transcript} {r : Except Failure Operation}
    (h : (new nickname).run.Speaks said r) :
    (∃ failure, r = .error failure ∧ Unmade nickname failure said) ∨
      ∃ text handle, CText.ofString? nickname = some text ∧
        said = [⟨.call (.operationNew text), some handle⟩] ∧ r = .ok ⟨⟨handle⟩, nickname⟩ := by
  have hnew := speaks_requireTable h
  cases hname : CText.ofString? nickname with
  | none =>
    obtain ⟨rfl, rfl⟩ := speaks_zeroByte hname hnew
    exact .inl ⟨_, rfl, .unnameable hname⟩
  | some text =>
    obtain ⟨made, rest, rfl, hmade⟩ := speaks_call (speaks_nativeText hname hnew)
    cases made with
    | some handle =>
      obtain ⟨rfl, rfl⟩ := speaks_done_iff.1 hmade
      exact .inr ⟨text, handle, rfl, rfl, rfl⟩
    | none =>
      obtain ⟨taken, last, message, rfl, htaken, hthrow⟩ := speaks_then hmade
      obtain ⟨buffer, rfl, rfl⟩ := speaks_takeError htaken
      obtain ⟨rfl, rfl⟩ := speaks_done_iff.1 hthrow
      exact .inl ⟨_, rfl, .unknown hname⟩

theorem new_steps (hrun : (new nickname).run.Runs events (.ok operation)) :
    events.steps = [.create (CText.ofString? nickname)] :=
  (StepWatch.steps_of_runs (StepWatch.new_tries nickname)).1 operation hrun

/-- Building ends in one of three ways: the library refuses, or it leaves nothing, or it leaves the
built operation. -/
theorem build_speaks {said : Transcript} {r : Except Failure Operation}
    (h : operation.build.run.Speaks said r) :
    (∃ status left buffer, status ≠ 0 ∧
      said = [⟨.call (.build operation.object.handle), (status, left)⟩,
        ⟨.call .errorBuffer, buffer⟩, ⟨.call (.act .errorClear), ()⟩,
        ⟨.call (.unrefOutputs left), ()⟩, ⟨.call (.unref left), ()⟩] ∧
      r = .error (.operation operation.nickname (pendingMessage buffer))) ∨
    (said = [⟨.call (.build operation.object.handle), (0, none)⟩] ∧
      r = .error (.nullPointer .operation)) ∨
    ∃ built, said = [⟨.call (.build operation.object.handle), (0, some built)⟩] ∧
      r = .ok ⟨⟨built⟩, operation.nickname⟩ := by
  obtain ⟨table, hbuild⟩ := speaks_table h
  obtain ⟨⟨status, left⟩, rest, rfl, hrest⟩ := speaks_call hbuild
  dsimp only at hrest
  by_cases hstatus : status = 0
  · subst hstatus
    rw [if_neg fun h => h rfl] at hrest
    right
    cases left with
    | none =>
      obtain ⟨rfl, rfl⟩ := speaks_done_iff.1 hrest
      exact .inl ⟨rfl, rfl⟩
    | some built =>
      obtain ⟨rfl, rfl⟩ := speaks_done_iff.1 hrest
      exact .inr ⟨built, rfl, rfl⟩
  · rw [if_pos hstatus] at hrest
    left
    obtain ⟨taken, more, message, rfl, htaken, hclear⟩ := speaks_then hrest
    obtain ⟨buffer, rfl, rfl⟩ := speaks_takeError htaken
    obtain ⟨_, _, rfl, hunref⟩ := speaks_call hclear
    obtain ⟨_, _, rfl, hthrow⟩ := speaks_call hunref
    obtain ⟨rfl, rfl⟩ := speaks_done_iff.1 hthrow
    exact ⟨status, left, buffer, hstatus, rfl, rfl⟩

/-! ## Inputs and outputs -/

theorem setAll_runs {inputs : List (String × Argument)} {r : Except Failure Unit}
    (hrun : (operation.setAll inputs).run.Runs events r) :
    ∃ set failure,
      InOrder (fun input => (operation.set input.1 input.2).run.Runs) inputs events set failure ∧
        r = outcome failure := by
  induction inputs generalizing events with
  | nil =>
    obtain ⟨rfl, rfl⟩ := runs_done_iff.1 hrun
    exact ⟨[], none, .done, rfl⟩
  | cons input rest ih =>
    rcases runs_try_iff.1 hrun with ⟨e, hset, rfl⟩ | ⟨first, second, _, rfl, hset, hrest⟩
    · exact ⟨[], some e, .failed hset, rfl⟩
    · obtain ⟨set, failure, hinOrder, rfl⟩ := ih hrest
      exact ⟨() :: set, failure, .next hset hinOrder, rfl⟩

theorem readAll_runs {outputs : List (String × Output)} {r : Except Failure Unit}
    {after : List Output} (hrun : (operation.readAll outputs).Runs events (r, after)) :
    ∃ answers failure,
      InOrder (fun output => (output.2.read operation.object output.1).run.Runs) outputs events
        answers failure ∧
      r = outcome failure ∧ after = answers ++ (outputs.map (·.2)).drop answers.length := by
  induction outputs generalizing events r after with
  | nil =>
    obtain ⟨rfl, hr⟩ := runs_done_iff.1 hrun
    cases hr
    exact ⟨[], none, .done, rfl, rfl⟩
  | cons output rest ih =>
    obtain ⟨first, second, e | read, rfl, hread, hrest⟩ := runs_bind_iff.1 hrun
    · obtain ⟨rfl, hr⟩ := runs_done_iff.1 hrest
      cases hr
      exact ⟨[], some e, by simpa using .failed hread, rfl, rfl⟩
    · obtain ⟨third, fourth, ⟨result, others⟩, rfl, hothers, hdone⟩ := runs_bind_iff.1 hrest
      obtain ⟨rfl, hr⟩ := runs_done_iff.1 hdone
      cases hr
      obtain ⟨answers, failure, hinOrder, rfl, rfl⟩ := ih hothers
      refine ⟨read :: answers, failure, ?_, rfl, rfl⟩
      simpa using .next hread hinOrder

/-! ## The call -/

/-- Preparing a call falls into making the operation, setting the inputs, and what comes then. -/
theorem prepare_runs {inputs : List (String × Argument)} {r : Except Failure Operation}
    (hrun : (prepare nickname inputs).run.Runs events r) :
    (∃ failure, r = .error failure ∧ (new nickname).run.Runs events (.error failure)) ∨
    ∃ making setting last operation set failure, events = making ++ setting ++ last ∧
      (new nickname).run.Runs making (.ok operation) ∧
      InOrder (fun input => (operation.set input.1 input.2).run.Runs) inputs setting set failure ∧
      match failure with
      | none => operation.build.run.Runs last r
      | some failure => r = .error failure ∧ operation.release.Runs last () := by
  rcases runs_try_iff.1 hrun with ⟨e, hnew, rfl⟩ | ⟨making, rest, operation, rfl, hnew, hrest⟩
  · exact .inl ⟨e, rfl, hnew⟩
  right
  obtain ⟨setting, last, r', rfl, hset, hlast⟩ := runs_then_iff.1 hrest
  obtain ⟨set, failure, hinOrder, rfl⟩ := setAll_runs hset
  refine ⟨making, setting, last, operation, set, failure, by simp, hnew, hinOrder, ?_⟩
  cases failure with
  | none => exact hlast
  | some failure =>
    obtain ⟨_, _, _, rfl, hrelease, hthrow⟩ := runs_then_iff.1 hlast
    obtain ⟨rfl, rfl⟩ := runs_done_iff.1 hthrow
    exact ⟨rfl, by simpa using hrelease⟩

/-- The steps of the beginning: one for the operation, and one for each input that was set. -/
theorem Opening.of_runs {inputs : List (String × Argument)} {making setting : Transcript}
    {text : CText} {set : List Unit} {failure : Option Failure}
    (hnew : (new nickname).run.Runs making (.ok operation))
    (hname : CText.ofString? nickname = some text)
    (hmade : making.spoken = [⟨.call (.operationNew text), some operation.object.handle⟩])
    (hset : InOrder (fun input => (operation.set input.1 input.2).run.Runs) inputs setting set
      failure)
    (htable : setting.Lasting true) :
    Opening nickname inputs (⟨.log .debug ("vips call " ++ nickname), ()⟩ :: making ++ setting)
      operation set failure where
  parts := ⟨making, setting, text, rfl, hnew, hname, hmade, hset.onTable htable
    fun _ _ _ hrun htable => ⟨hrun, set_gives hrun htable⟩⟩
  steps := by
    have hone {input : String × Argument} {events : Transcript} :=
      @StepWatch.steps_of_runs _ events _ _ _
        (StepWatch.operationSet_tries operation input.1 input.2)
    obtain ⟨more, hmore, hsteps⟩ := hset.steps_eq (Nat.zero_le 1)
      (fun _ _ _ hrun => hone.1 _ hrun) fun _ _ _ hrun => ⟨0, Nat.le_refl 0, hone.2 _ hrun⟩
    obtain rfl := Nat.le_zero.1 hmore
    rw [Transcript.steps_append, Transcript.steps_cons, hsteps, new_steps hnew]
    rfl

theorem release_calls {object : Object} (hrun : object.release.Runs events ())
    (htable : events.Lasting true) : events.calls = [.unref (some object.handle)] := by
  rw [← Transcript.calls_spoken, speaks_releaseObject (speaks_of_runs hrun htable)]
  rfl

theorem unrefOutputs_calls {r : Except Failure Unit}
    (hrun : operation.unrefOutputs.run.Runs events r) (htable : events.Lasting true) :
    r = .ok () ∧ events.calls = [.unrefOutputs (some operation.object.handle)] := by
  obtain ⟨_, rfl, hsaid⟩ := speaks_lift (speaks_requireTable (speaks_of_runs hrun htable))
  refine ⟨rfl, ?_⟩
  rw [← Transcript.calls_spoken,
    speaks_request (q := .call (.unrefOutputs (some operation.object.handle))) (by simp) hsaid]
  rfl

/-- Reading the outputs of what was built. -/
theorem reading_steps {built : Operation} {outputs : List (String × Output)} {reading : Transcript}
    {answers : List Output} {failure : Option Failure}
    (hreading : InOrder (fun output => (output.2.read built.object output.1).run.Runs) outputs
      reading answers failure) :
    ∃ more ≤ 1, reading.steps = (outputs.take (answers.length + more)).map fun output =>
      .fetch built.object.handle (CText.ofString? output.1) := by
  have hone {output : String × Output} {events : Transcript} :=
    @StepWatch.steps_of_runs _ events _ _ _
      (StepWatch.read_fetches built.object output.1 output.2 [])
  refine hreading.steps_eq (Nat.le_refl 1) (fun _ _ _ hrun => hone.1 _ hrun)
    fun output _ _ hrun => ?_
  rcases hone.2 _ hrun with hsteps | hsteps
  · exact ⟨0, Nat.zero_le 1, hsteps⟩
  · exact ⟨1, Nat.le_refl 1, hsteps⟩

end Operation

/-- Every run of a call takes one of the exits. -/
theorem Operation.call_exits {nickname : String} {options : CallOptions} {events : Transcript}
    {result : Except Failure Unit} {outputs : List Output}
    (hrun : (Operation.call nickname options).Runs events (result, outputs))
    (htable : events.Lasting true) : Operation.Exit nickname options events result outputs := by
  obtain ⟨_, _, _, rfl, hlog, hcall⟩ := runs_bind_iff.1 hrun
  obtain rfl := runs_request_iff.1 hlog
  obtain ⟨preparing, rest, prepared, rfl, hprepare, hrest⟩ := runs_bind_iff.1 hcall
  obtain ⟨-, htable⟩ := Transcript.lasting_append_iff.1 htable
  obtain ⟨hpreparing, hlater⟩ := Transcript.lasting_append_iff.1 htable
  rcases Operation.prepare_runs hprepare with
    ⟨failure, rfl, hnew⟩ | ⟨making, setting, last, operation, set, failure, rfl, hnew, hset, hlast⟩
  · obtain ⟨rfl, hr⟩ := runs_done_iff.1 hrest
    cases hr
    rw [List.append_nil]
    obtain ⟨failure, ⟨⟩, hunmade⟩ | ⟨_, _, -, -, ⟨⟩⟩ :=
      Operation.new_speaks (speaks_of_runs hnew hpreparing)
    exact .unmade hnew hunmade
  obtain ⟨hbegun, hlasting⟩ := Transcript.lasting_append_iff.1 hpreparing
  obtain ⟨hmaking, hsetting⟩ := Transcript.lasting_append_iff.1 hbegun
  obtain ⟨_, ⟨⟩, -⟩ | ⟨text, handle, hname, hmade, ⟨⟩⟩ :=
    Operation.new_speaks (speaks_of_runs hnew hmaking)
  have hopening := Operation.Opening.of_runs hnew hname hmade hset hsetting
  cases failure with
  | some failure =>
    obtain ⟨rfl, hrelease⟩ := hlast
    obtain ⟨rfl, hr⟩ := runs_done_iff.1 hrest
    cases hr
    simpa using Operation.Exit.unset hopening (Operation.release_calls hrelease hlasting)
  | none =>
    rcases Operation.build_speaks (speaks_of_runs hlast hlasting) with
      ⟨status, left, buffer, hstatus, hsaid, rfl⟩ | ⟨hsaid, rfl⟩ | ⟨built, hsaid, rfl⟩
    · obtain ⟨rfl, hr⟩ := runs_done_iff.1 hrest
      cases hr
      simpa using Operation.Exit.unbuilt hopening hsaid hstatus
    · obtain ⟨rfl, hr⟩ := runs_done_iff.1 hrest
      cases hr
      simpa using Operation.Exit.null hopening hsaid
    · obtain ⟨reading, _, ⟨result, after⟩, rfl, hread, hcleared⟩ := runs_bind_iff.1 hrest
      obtain ⟨clearing, _, cleared, rfl, hclear, hreleased⟩ := runs_bind_iff.1 hcleared
      obtain ⟨releasing, _, _, rfl, hrelease, hdone⟩ := runs_bind_iff.1 hreleased
      obtain ⟨hreading, hclosing⟩ := Transcript.lasting_append_iff.1 hlater
      obtain ⟨hclearing, hclosing⟩ := Transcript.lasting_append_iff.1 hclosing
      obtain ⟨hreleasing, -⟩ := Transcript.lasting_append_iff.1 hclosing
      obtain ⟨answers, failure, hinOrder, rfl, rfl⟩ := Operation.readAll_runs hread
      obtain ⟨rfl, hunref⟩ := Operation.unrefOutputs_calls hclear hclearing
      obtain ⟨rfl, hr⟩ := runs_done_iff.1 hdone
      cases hr
      have hcalls' : (clearing ++ releasing).calls =
          [.unrefOutputs (some built), .unref (some built)] := by
        rw [Transcript.calls_append, hunref, Operation.release_calls hrelease hreleasing]
        rfl
      have hfilled := hinOrder.onTable hreading fun output said r hrun htable =>
        And.intro hrun (Output.read_fills (speaks_of_runs hrun htable))
      have honly := hinOrder.only fun output _ _ hrun =>
        (output_reads output.2 output.1).of_runs hrun
      have hexit := Operation.Exit.read hopening hsaid hfilled honly
        (Operation.reading_steps hinOrder) hcalls'
      simp only [List.append_assoc, List.cons_append, List.append_nil] at hexit ⊢
      exact hexit

namespace Operation

variable {nickname : String} {options : CallOptions} {events : Transcript}

/-- A call that fails with one output at most has read none. -/
theorem Exit.outputs_eq_held {failure : Failure} {outputs : List Output}
    (h : Exit nickname options events (.error failure) outputs)
    (hone : options.outputs.length ≤ 1) : outputs = options.held := by
  generalize hresult : Except.error failure = result at h
  cases h with
  | unmade | unset | unbuilt | null => rfl
  | @read _ _ _ _ _ _ _ answers stopped _ _ hreading =>
    cases stopped with
    | none => cases hresult
    | some f => rw [hreading.answers_eq_nil hone, List.length_nil, List.drop_zero, List.nil_append]

theorem releaseOutputs_eq {outputs : List Output}
    (h : ∀ output ∈ outputs, output.release = .done ()) :
    (outputs.forM fun output => liftM output.release : Attempt Unit) = pure () := by
  induction outputs with
  | nil => rfl
  | cons output rest ih =>
    show (do liftM output.release; rest.forM fun output => liftM output.release : Attempt Unit) = _
    rw [h output (List.mem_cons_self ..), ih fun output ho => h output (List.mem_cons_of_mem _ ho)]
    rfl

/-- A call for the outputs alone takes the exits of the call, if it has one output at most and that
holds nothing. -/
theorem callFor_exits {r : Except Failure (List Output)}
    (hrun : (callFor nickname options).run.Runs events r) (htable : events.Lasting true)
    (hone : options.outputs.length ≤ 1)
    (hempty : ∀ output ∈ options.held, output.release = .done ()) :
    ∃ result outputs, Exit nickname options events result outputs ∧
      r = result.map fun _ => outputs := by
  obtain ⟨calling, rest, ⟨result, outputs⟩, rfl, hcall, hrest⟩ := runs_then_iff.1 hrun
  have hexit := call_exits hcall (Transcript.lasting_append_iff.1 htable).1
  cases result with
  | ok _ =>
    obtain ⟨rfl, rfl⟩ := runs_done_iff.1 hrest
    exact ⟨.ok (), outputs, by simpa using hexit, rfl⟩
  | error failure =>
    obtain rfl := hexit.outputs_eq_held hone
    dsimp only at hrest
    rw [releaseOutputs_eq hempty] at hrest
    obtain ⟨rfl, rfl⟩ := runs_done_iff.1 hrest
    exact ⟨.error failure, options.held, by simpa using hexit, rfl⟩

/-- What comes of a call for its first output, which is an image. -/
def imageOf : Except Failure Unit → List Output → Except Failure Image
  | .error failure, _ => .error failure
  | .ok (), .image (some image) :: _ => .ok image
  | .ok (), _ => .error (.nullPointer .image)

theorem firstImage_run (outputs : List Output) :
    (firstImage outputs).run = .done (imageOf (.ok ()) outputs) := by
  unfold firstImage
  split
  · rfl
  · next hnone =>
    unfold imageOf
    split
    · next heq => cases heq
    · next image rest _ => exact absurd rfl (hnone image rest)
    · rfl

/-- What is made of the outputs at once does not change the exits of the call. -/
theorem callThen_exits {α : Type} {k : List Output → Attempt α}
    {made : List Output → Except Failure α} {r : Except Failure α}
    (hk : ∀ outputs, (k outputs).run = .done (made outputs))
    (hrun : (callFor nickname options >>= k).run.Runs events r) (htable : events.Lasting true)
    (hone : options.outputs.length ≤ 1)
    (hempty : ∀ output ∈ options.held, output.release = .done ()) :
    ∃ result outputs, Exit nickname options events result outputs ∧
      r = result.bind fun _ => made outputs := by
  obtain ⟨f, hcall, rfl⟩ | ⟨calling, rest, found, rfl, hcall, hrest⟩ := runs_try_iff.1 hrun
  · obtain ⟨result, outputs, hexit, hr⟩ := callFor_exits hcall htable hone hempty
    cases result with
    | ok _ => cases hr
    | error _ =>
      cases hr
      exact ⟨_, outputs, hexit, rfl⟩
  · obtain ⟨hcalling, -⟩ := Transcript.lasting_append_iff.1 htable
    obtain ⟨result, outputs, hexit, hr⟩ := callFor_exits hcall hcalling hone hempty
    cases result with
    | error _ => cases hr
    | ok _ =>
      cases hr
      rw [hk] at hrest
      obtain ⟨rfl, rfl⟩ := runs_done_iff.1 hrest
      exact ⟨.ok (), outputs, by simpa using hexit, rfl⟩

theorem imageOf_eq (result : Except Failure Unit) (outputs : List Output) :
    imageOf result outputs = result.bind fun _ => imageOf (.ok ()) outputs := by
  cases result <;> rfl

theorem imageCall_exits {r : Except Failure Image}
    (hrun : (callFor nickname options >>= firstImage).run.Runs events r)
    (htable : events.Lasting true) (hone : options.outputs.length ≤ 1)
    (hempty : ∀ output ∈ options.held, output.release = .done ()) :
    ∃ result outputs, Exit nickname options events result outputs ∧ r = imageOf result outputs := by
  obtain ⟨result, outputs, hexit, rfl⟩ :=
    callThen_exits firstImage_run hrun htable hone hempty
  exact ⟨result, outputs, hexit, (imageOf_eq result outputs).symm⟩

end Operation

/-! ## The protocol -/

/-- Something that is added to the options of a call. -/
inductive Addition where
  | input (name : String) (argument : Argument)
  | output (name : String) (place : Output)

namespace Addition

/-- The input that is added, if it is one. -/
def input? : Addition → Option (String × Argument)
  | input name argument => some (name, argument)
  | output _ _ => none

/-- The output that is added, if it is one. -/
def output? : Addition → Option (String × Output)
  | input _ _ => none
  | output name place => some (name, place)

/-- The options with the addition. -/
def addTo (options : CallOptions) : Addition → CallOptions
  | input name argument => options.set name argument
  | output name place => options.out name place

end Addition

/-- Options that were put together by additions. -/
def CallOptions.of (additions : List Addition) : CallOptions := additions.foldl Addition.addTo {}

/-- However inputs and outputs were mixed, each kind is kept in the order in which it came. -/
theorem CallOptions.of_eq (additions : List Addition) :
    CallOptions.of additions =
      ⟨additions.filterMap Addition.input?, additions.filterMap Addition.output?⟩ := by
  have hfold (options : CallOptions) : additions.foldl Addition.addTo options =
      ⟨options.inputs ++ additions.filterMap Addition.input?,
        options.outputs ++ additions.filterMap Addition.output?⟩ := by
    induction additions generalizing options with
    | nil => simp
    | cons addition rest ih =>
      rw [List.foldl_cons, ih]
      cases addition <;>
        simp [List.filterMap_cons, Addition.addTo, Addition.input?, Addition.output?,
          CallOptions.set, CallOptions.out]
  exact hfold {}

/-- Whatever the library answers, a call on the loaded library takes one of five exits, and has
called what belongs to that exit, in order. The inputs are set, and the outputs are read, in the
order in which they were added. -/
theorem a_call_keeps_the_protocol {nickname : String} {additions : List Addition}
    {events : Transcript} {result : Except Failure Unit} {outputs : List Output}
    (hrun : (Operation.call nickname (.of additions)).Runs events (result, outputs))
    (htable : events.Lasting true) :
    Operation.Exit nickname
      ⟨additions.filterMap Addition.input?, additions.filterMap Addition.output?⟩ events result
      outputs := by
  rw [CallOptions.of_eq] at hrun
  exact Operation.call_exits hrun htable

/-- A call with one output, which the built operation does not have, and one input. -/
def unreadableCall : List Addition :=
  [.output "out" (.image none), .input "flag" (.bool true)]

/-- The input is set, the cache has the operation already, and the lookup of the output fails. -/
def unreadable : Transcript :=
  let table : Event := ⟨.table, some ⟨⟨"libvips.so.42"⟩, none, []⟩⟩
  let cell : Cell := ⟨some 1, .boolean⟩
  let flag : CText := ⟨[102, 108, 97, 103], by decide⟩
  let out : CText := ⟨[111, 117, 116], by decide⟩
  let black : CText := ⟨[98, 108, 97, 99, 107], by decide⟩
  [⟨.log .debug "vips call black", ()⟩,
    table, ⟨.call (.operationNew black), some ⟨"op"⟩⟩,
    table, ⟨.call (.cellInit .boolean), some 1⟩, ⟨.call (.cellSet cell (.boolean 1)), ()⟩,
    table, ⟨.call (.getArgument ⟨"op"⟩ flag), ⟨0, some ⟨none, .boolean⟩, some 18⟩⟩,
    ⟨.call (.fundamental .boolean), .boolean⟩, ⟨.call (.transformable .boolean .boolean), 1⟩,
    ⟨.call (.setProperty ⟨"op"⟩ flag cell), ()⟩, table, ⟨.call (.cellUnset cell), ()⟩,
    table, ⟨.call (.build ⟨"op"⟩), (0, some ⟨"cached"⟩)⟩,
    table, ⟨.call (.registered .image), ⟨2001⟩⟩,
    table, ⟨.call (.getArgument ⟨"cached"⟩ out), ⟨-1, none, none⟩⟩,
    table, ⟨.instanceType ⟨"cached"⟩, ⟨3100⟩⟩, ⟨.call (.nicknameFind ⟨3100⟩), some black⟩,
    ⟨.call .errorBuffer, none⟩, ⟨.call (.act .errorClear), ()⟩,
    table, ⟨.call (.unrefOutputs (some ⟨"cached"⟩)), ()⟩,
    table, ⟨.call (.unref (some ⟨"cached"⟩)), ()⟩]

theorem an_unreadable_output_keeps_the_protocol :
    Operation.Exit "black" ⟨[("flag", .bool true)], [("out", .image none)]⟩ unreadable
      (.error (.unknownArgument "out" "black" "")) [.image none] := by
  have hrun : (Operation.call "black" (.of unreadableCall)).Runs unreadable
      (.error (.unknownArgument "out" "black" ""), [.image none]) :=
    .ask _ (.ask _ (.ask _ (.ask _ (.ask _ (.ask _ (.ask _ (.ask _ (.ask _ (.ask _ (.ask _ (.ask _
    (.ask _ (.ask _ (.ask _ (.ask _ (.ask _ (.ask _ (.ask _ (.ask _ (.ask _ (.ask _ (.ask _ (.ask _
    (.ask _ (.ask _ (.ask _ (.ask _ (.done _))))))))))))))))))))))))))))
  have htable : unreadable.Lasting true := by
    simp [unreadable, Transcript.Lasting, Resource.tableSeen]
  exact a_call_keeps_the_protocol hrun htable

end ImageGateway
