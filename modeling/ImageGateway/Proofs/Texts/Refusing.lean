-- What becomes of a text with a zero byte. The deed goes on until the text has its
-- turn. From there on it only gives back what it made, and then it fails. And a deed
-- that goes well has come to each of its texts.

import ImageGateway.Proofs.Texts.Conversions
import ImageGateway.Proofs.StartUp.Exits

namespace ImageGateway

/-- The request gives something back, or looks at the table before that. -/
def Request.GivesBack : Request → Prop
  | .table | .call (.cellUnset _) | .call (.unref _) | .call (.unrefOutputs _) => True
  | _ => False

namespace Program

variable {α β : Type} {a : α} {b : β} {p : Program α} {f : α → Program β}
  {first before rest : Transcript}

/-! ## The end of a run -/

/-- On a published table all that is left to do is to give things back. Then the answer is `a`. -/
def Ends (a : α) : Program α → Prop
  | done b => b = a
  | ask q k => q.GivesBack ∧ ∀ r, (q = .table → Resource.tableSeen q r = true) → Ends a (k r)

theorem Ends.bind (h : p.Ends a) (hf : (f a).Ends b) : (p >>= f).Ends b := by
  induction p with
  | done a' =>
    obtain rfl : a' = a := h
    exact hf
  | ask q k ih => exact ⟨h.1, fun r hr => ih r (h.2 r hr)⟩

theorem Ends.then {q : Program Unit} {p : Attempt α} {r : Except Failure α} (hq : q.Ends ())
    (hp : p.run.Ends r) : (do q; p : Attempt α).run.Ends r := by
  have hlift : (liftM q : Attempt Unit).run.Ends (.ok ()) := hq.bind (f := fun _ => done _) rfl
  exact hlift.bind hp

theorem Ends.runs {a' : α} (h : p.Ends a) (hrun : p.Runs rest a') (htable : rest.Lasting true) :
    a' = a ∧ ∀ e ∈ rest, e.request.GivesBack := by
  induction hrun with
  | done a' => exact ⟨h, by simp⟩
  | @ask q k rest a' r hrun ih =>
    obtain ⟨hanswer, hrest⟩ := ih (h.2 r fun hq => htable.1 hq rfl) htable.2
    exact ⟨hanswer, List.forall_mem_cons.2 ⟨h.1, hrest⟩⟩

theorem ends_ifLoaded {p : Program Unit} (h : p.Ends ()) : (ifLoaded p).Ends () := by
  refine ⟨trivial, fun table htable => ?_⟩
  cases table with
  | none => cases htable rfl
  | some table => exact h

theorem releaseValue_ends (v : Value) : v.release.Ends () := by
  unfold Value.release
  split
  · rfl
  · exact ends_ifLoaded ⟨trivial, fun _ _ => rfl⟩

theorem releaseObject_ends (object : Object) : object.release.Ends () :=
  ends_ifLoaded ⟨trivial, fun _ _ => rfl⟩

theorem unrefOutputs_ends (operation : Operation) : operation.unrefOutputs.run.Ends (.ok ()) := by
  refine ⟨trivial, fun table htable => ?_⟩
  cases table with
  | none => cases htable rfl
  | some table => exact ⟨trivial, fun _ _ => rfl⟩

/-- After these events all that is left to do is to give things back and to answer `a`. -/
inductive WindsUp (a : α) : Program α → Transcript → Prop where
  | here {p : Program α} (h : p.Ends a) : WindsUp a p []
  | ask {q : Request} {k : q.Reply → Program α} {before : Transcript} (r : q.Reply)
      (h : WindsUp a (k r) before) : WindsUp a (ask q k) (⟨q, r⟩ :: before)

theorem WindsUp.bind (h : p.WindsUp a before) (hf : (f a).Ends b) :
    (p >>= f).WindsUp b before := by
  induction h with
  | here h => exact .here (h.bind hf)
  | ask r _ ih => exact .ask r ih

theorem WindsUp.next (hrun : p.Runs first a) (h : (f a).WindsUp b before) :
    (p >>= f).WindsUp b (first ++ before) := by
  induction hrun with
  | done a => exact h
  | ask r _ ih => exact .ask r (ih h)

theorem WindsUp.runs {a' : α} (h : p.WindsUp a before) (hrun : p.Runs (before ++ rest) a')
    (htable : rest.Lasting true) : a' = a ∧ ∀ e ∈ rest, e.request.GivesBack := by
  induction h with
  | here h => exact h.runs hrun htable
  | ask r _ ih =>
    cases hrun with
    | ask _ hrun => exact ih hrun

theorem WindsUp.try {p : Attempt α} {f : α → Attempt β} {failure : Failure}
    (h : p.run.WindsUp (.error failure) before) : (p >>= f).run.WindsUp (.error failure) before :=
  h.bind rfl

theorem WindsUp.closedBy {p : Attempt α} {q : Program Unit} {r : Except Failure α}
    (h : p.run.WindsUp r before) (hq : q.Ends ()) : (p.closedBy q).run.WindsUp r before :=
  h.bind (hq.bind rfl)

end Program

open Program

/-! ## Conversions in attempts -/

/-- If the text has a zero byte, then the attempt winds up and refuses the text as soon as it has
its turn. And if the attempt goes well, the text has had its turn. -/
structure Attempt.Converts {α : Type} (p : Attempt α) (c : Conversion) : Prop where
  refuses : ∀ before, c.Turn before → 0 ∈ Text.Utf8.encode c.text →
    p.run.WindsUp (.error (.zeroByte c.text)) before
  reached : ∀ events a, p.run.Runs events (.ok a) → ∃ before, before <+: events ∧ c.Turn before

theorem Conversion.turn_after_iff {α : Type} {p : Attempt α} {c : Conversion}
    {events : Transcript} :
    (c.after p).Turn events ↔
      ∃ first second a, events = first ++ second ∧ p.run.Runs first (.ok a) ∧ c.Turn second := by
  apply runs_try_iff.trans
  constructor
  · rintro (⟨failure, -, ⟨⟩⟩ | found)
    exact found
  · exact .inr

/-- Something is made, and something is done with it. -/
theorem Program.runs_kept_iff {α β : Type} {p : Attempt α} {q : α → Attempt β} {a : α}
    {events : Transcript} :
    (do
      let a ← p
      let _ ← q a
      return a : Attempt α).run.Runs events (.ok a) ↔
      ∃ first second b, events = first ++ second ∧ p.run.Runs first (.ok a) ∧
        (q a).run.Runs second (.ok b) := by
  constructor
  · intro h
    rcases runs_try_iff.1 h with ⟨_, -, ⟨⟩⟩ | ⟨first, second, made, rfl, hfirst, hsecond⟩
    rcases runs_try_iff.1 hsecond with ⟨_, -, ⟨⟩⟩ | ⟨done, last, b, rfl, hdone, hlast⟩
    obtain ⟨rfl, ⟨⟩⟩ := runs_done_iff.1 hlast
    exact ⟨first, done, b, by simp, hfirst, hdone⟩
  · rintro ⟨first, second, b, rfl, hfirst, hsecond⟩
    refine runs_try_iff.2 (.inr ⟨first, second, a, rfl, hfirst, ?_⟩)
    exact runs_try_iff.2 (.inr ⟨second, [], b, by simp, hsecond, .done _⟩)

namespace Attempt

variable {α β : Type} {p : Attempt α} {f : α → Attempt β} {c : Conversion}

theorem converts_text {use : TextUse} {s : String} {k : CText → Attempt α} :
    (nativeText s >>= k).Converts (.first use s) where
  refuses before hturn hzero := by
    obtain ⟨rfl, -⟩ := runs_done_iff.1 hturn
    have hs : 0 ∈ Text.Utf8.encode s := hzero
    apply WindsUp.try
    unfold nativeText CText.ofString?
    rw [dif_pos hs]
    exact .here rfl
  reached events a _ := ⟨[], List.nil_prefix, .done _⟩

theorem Converts.try (h : p.Converts c) : (p >>= f).Converts c where
  refuses before hturn hzero := (h.refuses before hturn hzero).try
  reached events b hrun := by
    rcases runs_try_iff.1 hrun with ⟨failure, -, ⟨⟩⟩ | ⟨first, second, a, rfl, hfirst, -⟩
    obtain ⟨before, hbefore, hturn⟩ := h.reached first a hfirst
    exact ⟨before, hbefore.trans (List.prefix_append ..), hturn⟩

/-- The same after something else. -/
theorem Converts.reached_after {q : Attempt β} {a : α} {b : β} {first second : Transcript}
    (h : p.Converts c) (hfirst : q.run.Runs first (.ok b)) (hsecond : p.run.Runs second (.ok a)) :
    ∃ before, before <+: first ++ second ∧ (c.after q).Turn before := by
  obtain ⟨before, hbefore, hturn⟩ := h.reached second a hsecond
  exact ⟨first ++ before, (List.prefix_append_right_inj first).2 hbefore,
    Conversion.turn_after_iff.2 ⟨first, before, b, rfl, hfirst, hturn⟩⟩

theorem Converts.after (h : ∀ a, (f a).Converts c) : (p >>= f).Converts (c.after p) where
  refuses before hturn hzero := by
    obtain ⟨first, second, a, rfl, hfirst, hsecond⟩ := Conversion.turn_after_iff.1 hturn
    exact .next hfirst ((h a).refuses second hsecond hzero)
  reached events b hrun := by
    rcases runs_try_iff.1 hrun with ⟨failure, -, ⟨⟩⟩ | ⟨first, second, a, rfl, hfirst, hsecond⟩
    exact (h a).reached_after hfirst hsecond

theorem Converts.closedBy {q : Program Unit} (h : p.Converts c) (hq : q.Ends ()) :
    (p.closedBy q).Converts c where
  refuses before hturn hzero := (h.refuses before hturn hzero).closedBy hq
  reached events a hrun := by
    obtain ⟨first, closing, rfl, hfirst, -⟩ := runs_closedBy_iff.1 hrun
    obtain ⟨before, hbefore, hturn⟩ := h.reached first a hfirst
    exact ⟨before, hbefore.trans (List.prefix_append ..), hturn⟩

theorem converts_onTable {use : TextUse} {s : String} {k : CText → Attempt α} :
    (do requireTable; nativeText s >>= k : Attempt α).Converts (.onTable use s) :=
  .after fun _ => converts_text

/-- An attempt that goes well has no text with a zero byte. -/
theorem Converts.no_zero (h : p.Converts c) {events : Transcript} {a : α}
    (hrun : p.run.Runs events (.ok a)) (htable : events.Lasting true) :
    0 ∉ Text.Utf8.encode c.text := by
  intro hzero
  obtain ⟨before, ⟨rest, rfl⟩, hturn⟩ := h.reached events a hrun
  cases ((h.refuses before hturn hzero).runs hrun (Transcript.lasting_append_iff.1 htable).2).1

/-! ## Boxing and properties -/

variable {object : Object} {name : String}

theorem toValue_converts {argument : Argument} (hc : c ∈ argument.conversions) :
    argument.toValue.Converts c := by
  cases argument with
  | text s =>
    cases List.mem_singleton.1 hc
    exact converts_text
  | _ => cases hc

theorem get_converts (type : TypeId) :
    (Property.get object name type).Converts (.onTable .name name) := converts_onTable

theorem argument_converts : (Property.argument object name).Converts (.onTable .name name) :=
  converts_onTable

theorem getWith_converts (type : TypeId) (read : Value → Attempt α) :
    (Property.getWith object name type read).Converts (.onTable .name name) :=
  (get_converts type).try

theorem getRegistered_converts (which : Registered) (read : Value → Attempt α) :
    (Property.getRegistered object name which read).Converts (which.conversion name) :=
  .after fun _ => .after fun type => getWith_converts type read

theorem readProperty_converts (reading : Reading) :
    (reading.ofProperty object name).Converts (reading.conversion name) := by
  cases reading with
  | bool => exact (getWith_converts _ _).try
  | int => exact argument_converts.try.try
  | uint64 => exact (getWith_converts _ _).try
  | double => exact (getWith_converts _ _).try
  | text => exact (getWith_converts _ _).try
  | ints => exact (getRegistered_converts _ _).try
  | doubles => exact (getRegistered_converts _ _).try
  | blob => exact (getRegistered_converts _ _).try
  | image => exact (getRegistered_converts _ _).try

theorem output_converts (output : Output) :
    (output.read object name).Converts (output.reading.conversion name) := by
  cases output with
  | bool b => exact (getWith_converts _ _).try
  | int n => exact argument_converts.try.try
  | double x => exact (getWith_converts _ _).try
  | doubles xs => exact (getRegistered_converts _ _).try
  | buffer xs => exact (getRegistered_converts _ _).try.try
  | ints xs => exact (getRegistered_converts _ _).try
  | text t => exact (getWith_converts _ _).try
  | blob b => exact (getRegistered_converts _ _).try
  | image i => exact (getRegistered_converts _ _).try

theorem set_converts (v : Value) :
    (Property.set object name v).Converts (.onTable .name name) := converts_onTable

end Attempt

/-! ## Operations -/

namespace Operation

open Attempt

variable {operation : Operation} {begun : Attempt Operation} {nickname : String}
  {inputs : List (String × Argument)} {outputs : List (String × Output)} {options : CallOptions}
  {c : Conversion} {first second before : Transcript}

theorem setInput_converts {name : String} {argument : Argument}
    (hc : c ∈ inputConversions name argument) : (operation.set name argument).Converts c := by
  rcases List.mem_append.1 hc with hc | hc
  · exact (toValue_converts hc).try
  · cases List.mem_singleton.1 hc
    exact .after fun v => (set_converts v).closedBy (releaseValue_ends v)

/-- A text of an input has its turn in the course of setting the inputs. -/
theorem setAll_refuses (hc : c ∈ setConversions begun inputs)
    (hturn : c.Turn before) (hzero : 0 ∈ Text.Utf8.encode c.text) :
    ∃ first operation second, before = first ++ second ∧ begun.run.Runs first (.ok operation) ∧
      (operation.setAll inputs).run.WindsUp (.error (.zeroByte c.text)) second := by
  -- The operation so far takes in one input more with each step.
  induction inputs generalizing begun with
  | nil => cases hc
  | cons input rest ih =>
    rcases List.mem_append.1 hc with hc | hc
    · obtain ⟨inner, hinner, rfl⟩ := List.mem_map.1 hc
      obtain ⟨first, second, operation, rfl, hfirst, hsecond⟩ := Conversion.turn_after_iff.1 hturn
      exact ⟨first, operation, second, rfl, hfirst,
        ((setInput_converts hinner).refuses second hsecond hzero).try⟩
    · obtain ⟨first, operation, second, rfl, hfirst, hsecond⟩ := ih hc
      obtain ⟨earlier, setting, _, rfl, hearlier, hsetting⟩ := runs_kept_iff.1 hfirst
      exact ⟨earlier, operation, setting ++ second, List.append_assoc .., hearlier,
        .next hsetting hsecond⟩

theorem setAll_reaches (hc : c ∈ setConversions begun inputs)
    (hbegun : begun.run.Runs first (.ok operation))
    (hset : (operation.setAll inputs : Attempt Unit).run.Runs second (.ok ())) :
    ∃ before, before <+: first ++ second ∧ c.Turn before := by
  induction inputs generalizing begun first second with
  | nil => cases hc
  | cons input rest ih =>
    rcases runs_try_iff.1 hset with ⟨_, -, ⟨⟩⟩ | ⟨setting, others, _, rfl, hsetting, hothers⟩
    rw [← List.append_assoc]
    rcases List.mem_append.1 hc with hc | hc
    · obtain ⟨inner, hinner, rfl⟩ := List.mem_map.1 hc
      obtain ⟨before, hbefore, hturn⟩ := (setInput_converts hinner).reached_after hbegun hsetting
      exact ⟨before, hbefore.trans (List.prefix_append ..), hturn⟩
    · exact ih hc (runs_kept_iff.2 ⟨first, setting, (), rfl, hbegun, hsetting⟩) hothers

/-- The name of an output has its turn in the course of reading the outputs. -/
theorem readAll_refuses (hc : c ∈ readConversions begun outputs)
    (hturn : c.Turn before) (hzero : 0 ∈ Text.Utf8.encode c.text) :
    ∃ first operation second held, before = first ++ second ∧
      begun.run.Runs first (.ok operation) ∧
      (operation.readAll outputs).WindsUp (.error (.zeroByte c.text), held) second := by
  induction outputs generalizing begun with
  | nil => cases hc
  | cons output rest ih =>
    rcases List.mem_cons.1 hc with rfl | hc
    · obtain ⟨first, second, operation, rfl, hfirst, hsecond⟩ := Conversion.turn_after_iff.1 hturn
      exact ⟨first, operation, second, _, rfl, hfirst,
        WindsUp.bind ((output_converts output.2).refuses second hsecond hzero) rfl⟩
    · obtain ⟨first, operation, second, held, rfl, hfirst, hsecond⟩ := ih hc
      obtain ⟨earlier, reading, read, rfl, hearlier, hreading⟩ := runs_kept_iff.1 hfirst
      exact ⟨earlier, operation, reading ++ second, read :: held, List.append_assoc .., hearlier,
        .next hreading (hsecond.bind rfl)⟩

theorem readAll_reaches {held : List Output} (hc : c ∈ readConversions begun outputs)
    (hbegun : begun.run.Runs first (.ok operation))
    (hread : (operation.readAll outputs).Runs second (.ok (), held)) :
    ∃ before, before <+: first ++ second ∧ c.Turn before := by
  induction outputs generalizing begun first second held with
  | nil => cases hc
  | cons output rest ih =>
    obtain ⟨reading, _, answer, rfl, hreading, hrest⟩ := runs_bind_iff.1 hread
    cases answer with
    | error failure => cases (runs_done_iff.1 hrest).2
    | ok read =>
      obtain ⟨others, last, ⟨result, held⟩, rfl, hothers, hlast⟩ := runs_bind_iff.1 hrest
      obtain ⟨rfl, ⟨⟩⟩ := runs_done_iff.1 hlast
      rw [List.append_nil, ← List.append_assoc]
      rcases List.mem_cons.1 hc with rfl | hc
      · obtain ⟨before, hbefore, hturn⟩ :=
          (output_converts output.2).reached_after hbegun hreading
        exact ⟨before, hbefore.trans (List.prefix_append ..), hturn⟩
      · exact ih hc (runs_kept_iff.2 ⟨first, reading, read, rfl, hbegun, hreading⟩) hothers

theorem newOperation_converts : (Operation.new nickname).Converts (.onTable .nickname nickname) :=
  converts_onTable

/-- If an input fails, the operation is given up. -/
theorem building_windsUp {failure : Failure}
    (hmaking : (making nickname).run.Runs first (.ok operation))
    (hset : (operation.setAll inputs : Attempt Unit).run.WindsUp (.error failure) second) :
    (building nickname inputs).run.WindsUp (.error failure) (first ++ second) := by
  obtain ⟨logging, rest, _, rfl, hlog, hnew⟩ := runs_then_iff.1 hmaking
  have hresult : (operation.setAll inputs : Attempt Unit).result.run.WindsUp
      (.ok (.error failure)) second := hset.bind rfl
  have hprepare : (prepare nickname inputs).run.WindsUp (.error failure) (rest ++ second) :=
    .next hnew (hresult.bind ((releaseObject_ends operation.object).then rfl))
  -- The line in the log is no part of the preparation.
  rw [building, run_then, List.append_assoc]
  exact .next hlog hprepare

/-- What is built has all its inputs. -/
theorem building_ok (hrun : (building nickname inputs).run.Runs before (.ok operation)) :
    ∃ first second rest made, before = first ++ (second ++ rest) ∧
      (making nickname).run.Runs first (.ok made) ∧
      (made.setAll inputs : Attempt Unit).run.Runs second (.ok ()) := by
  obtain ⟨logging, _, _, rfl, hlog, hprepare⟩ := runs_then_iff.1 hrun
  rcases runs_try_iff.1 hprepare with ⟨_, -, ⟨⟩⟩ | ⟨first, _, made, rfl, hnew, hmade⟩
  obtain ⟨second, rest, answer, rfl, hset, hrest⟩ := runs_then_iff.1 hmade
  cases answer with
  | ok _ =>
    exact ⟨logging ++ first, second, rest, made, (List.append_assoc ..).symm,
      runs_then_iff.2 ⟨logging, first, _, rfl, hlog, hnew⟩, hset⟩
  | error failure =>
    obtain ⟨_, last, _, rfl, -, hthrow⟩ := runs_then_iff.1 hrest
    cases (runs_done_iff.1 hthrow).2

/-- A call builds its operation, and then it reads the outputs and cleans up. -/
theorem call_eq : call nickname options = do
    match ← (building nickname options.inputs).run with
    | .error failure => return (.error failure, options.held)
    | .ok operation =>
      let (result, outputs) ← operation.readAll options.outputs
      let cleared ← operation.unrefOutputs.run
      operation.release
      return (do cleared; result, outputs) := rfl

/-- If the preparation of a call fails, the call fails. -/
theorem call_prepared {failure : Failure}
    (h : (building nickname options.inputs).run.WindsUp (.error failure) before) :
    (Deed.call nickname options).attempt.run.WindsUp (.error failure) before := by
  have hcall : (call nickname options).WindsUp (.error failure, options.held) before :=
    h.bind rfl
  exact hcall.bind rfl

/-- If the reading of an output fails, the outputs of the operation are given up, and then the
operation. -/
theorem call_read {failure : Failure} {held : List Output}
    (hbuilding : (building nickname options.inputs).run.Runs first (.ok operation))
    (hread : (operation.readAll options.outputs).WindsUp (.error failure, held) second) :
    (Deed.call nickname options).attempt.run.WindsUp (.error failure) (first ++ second) := by
  let answer : Except Failure Unit × List Output := (.error failure, held)
  have hanswer : Ends answer (done answer) := rfl
  have hcall : (call nickname options).WindsUp answer (first ++ second) := by
    rw [call_eq]
    exact .next hbuilding (hread.bind ((unrefOutputs_ends operation).bind
      ((releaseObject_ends operation.object).bind hanswer)))
  exact hcall.bind rfl

/-- A call that goes well has built its operation and read all its outputs. -/
theorem call_ok {things : List Holding}
    (hrun : (Deed.call nickname options).attempt.run.Runs before (.ok things)) :
    ∃ first second rest operation held, before = first ++ (second ++ rest) ∧
      (building nickname options.inputs).run.Runs first (.ok operation) ∧
      (operation.readAll options.outputs).Runs second (.ok (), held) := by
  obtain ⟨_, last, ⟨result, held⟩, rfl, hcall, hlast⟩ := runs_bind_iff.1 hrun
  obtain ⟨rfl, hresult⟩ := runs_done_iff.1 hlast
  rw [call_eq] at hcall
  obtain ⟨first, _, answer, rfl, hbuilding, hbuilt⟩ := runs_bind_iff.1 hcall
  cases answer with
  | error failure =>
    obtain ⟨-, ⟨⟩⟩ := runs_done_iff.1 hbuilt
    cases hresult
  | ok operation =>
    obtain ⟨second, rest, ⟨read, held⟩, rfl, hread, hclosing⟩ := runs_bind_iff.1 hbuilt
    obtain ⟨clearing, _, cleared, rfl, hclear, hreleasing⟩ := runs_bind_iff.1 hclosing
    obtain ⟨releasing, _, _, rfl, hrelease, hdone⟩ := runs_bind_iff.1 hreleasing
    obtain ⟨rfl, ⟨⟩⟩ := runs_done_iff.1 hdone
    -- The call goes well only if both the reading and the clean-up did.
    have hok : read = .ok () := by
      rcases cleared with failure | _
      · cases hresult
      · rcases read with failure | _
        · cases hresult
        · rfl
    subst hok
    exact ⟨first, second, clearing ++ releasing, operation, held, by simp, hbuilding, hread⟩

theorem building_converts : (building nickname inputs).Converts
    ((Conversion.onTable .nickname nickname).after
      (logLine .debug ("vips call " ++ nickname) : Attempt Unit)) :=
  .after fun _ => newOperation_converts.try

/-- A call converts all its texts. -/
theorem call_converts (hc : c ∈ callConversions nickname options) :
    (Deed.call nickname options).attempt.Converts c where
  refuses before hturn hzero := by
    rcases List.mem_cons.1 hc with rfl | hc
    · exact call_prepared (building_converts.refuses before hturn hzero)
    rcases List.mem_append.1 hc with hc | hc
    · obtain ⟨first, operation, second, rfl, hmaking, hset⟩ := setAll_refuses hc hturn hzero
      exact call_prepared (building_windsUp hmaking hset)
    · obtain ⟨first, operation, second, held, rfl, hbuilding, hread⟩ :=
        readAll_refuses hc hturn hzero
      exact call_read hbuilding hread
  reached events things hrun := by
    obtain ⟨first, second, rest, operation, held, rfl, hbuilding, hread⟩ := call_ok hrun
    have hfirst : first <+: first ++ (second ++ rest) := List.prefix_append ..
    rcases List.mem_cons.1 hc with rfl | hc
    · obtain ⟨before, hbefore, hturn⟩ := building_converts.reached first operation hbuilding
      exact ⟨before, hbefore.trans hfirst, hturn⟩
    rcases List.mem_append.1 hc with hc | hc
    · obtain ⟨making, setting, built, made, rfl, hmaking, hset⟩ := building_ok hbuilding
      obtain ⟨before, hbefore, hturn⟩ := setAll_reaches hc hmaking hset
      rw [← List.append_assoc making] at hfirst ⊢
      exact ⟨before, (hbefore.trans (List.prefix_append ..)).trans hfirst, hturn⟩
    · obtain ⟨before, hbefore, hturn⟩ := readAll_reaches hc hbuilding hread
      rw [← List.append_assoc]
      exact ⟨before, hbefore.trans (List.prefix_append ..), hturn⟩

end Operation

/-! ## Deeds -/

open Attempt in
/-- Each text of a deed has its turn. -/
theorem deed_converts {deed : Deed} {c : Conversion} (hc : c ∈ deed.conversions) :
    deed.attempt.Converts c := by
  cases deed with
  | newOperation nickname =>
    cases List.mem_singleton.1 hc
    exact Operation.newOperation_converts.try
  | setInput operation name argument => exact (Operation.setInput_converts hc).try
  | call nickname options => exact Operation.call_converts hc
  | box argument => exact (toValue_converts hc).try
  | readProperty object name reading =>
    cases List.mem_singleton.1 hc
    exact readProperty_converts reading
  | readDoublesInto object name buffer =>
    cases List.mem_singleton.1 hc
    exact (getRegistered_converts _ _).try.try
  | getAs object name type =>
    cases List.mem_singleton.1 hc
    exact (get_converts type).try
  | getDeclared object name =>
    cases List.mem_singleton.1 hc
    exact argument_converts.try.try
  | setProperty object name value =>
    cases List.mem_singleton.1 hc
    exact (set_converts value).try
  | look query =>
    cases query with
    | argument object name =>
      cases List.mem_singleton.1 hc
      exact argument_converts.try
    | error domain message =>
      rcases List.mem_cons.1 hc with rfl | hc
      · exact Converts.try converts_onTable
      · cases List.mem_singleton.1 hc
        exact Converts.try (.after fun _ => .after fun _ => converts_text)
    | errorSystem code domain message =>
      rcases List.mem_cons.1 hc with rfl | hc
      · exact Converts.try converts_onTable
      · cases List.mem_singleton.1 hc
        exact Converts.try (.after fun _ => .after fun _ => converts_text)
    | findCodec direction filename =>
      cases List.mem_singleton.1 hc
      exact Converts.try converts_onTable
    | start config =>
      cases List.mem_singleton.1 hc
      exact Converts.try (.after fun _ => converts_text)
    | _ => cases hc
  | _ => cases hc

end ImageGateway
