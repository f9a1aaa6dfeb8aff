-- What an assignment of a property says to the library, on each of its ways,
-- and which value it assigns. A failed assignment assigns nothing, so in any
-- sequence of assignments the library is given exactly those that succeeded.

import ImageGateway.Proofs.CallSteps
import ImageGateway.Proofs.Runs
import ImageGateway.Proofs.Spoken

namespace ImageGateway

open SpokenWatch (shownName pendingMessage)

/-- The type that a lookup found, if it found the argument. -/
def Lookup.type? (found : Lookup) : Option TypeId :=
  if found.status = 0 then found.spec.map (·.type) else none

/-- The cell that an initialisation gives. -/
def Cell.made : Option Nat → TypeId → Cell
  | some number, type => ⟨some number, type⟩
  | none, _ => .empty

namespace Transcript

/-- A value is released. A cell without a type stays as it is. -/
def released (c : Cell) : Transcript :=
  if c.type = .invalid then [] else [⟨.call (.cellUnset c), ()⟩]

/-- The number of an enum value is put into a new cell of the type, and the cell is assigned. -/
def enumerated (object : Handle) (text : CText) (type : TypeId) (number? : Option Nat) (n : Int32) :
    Transcript :=
  let c := Cell.made number? type
  [⟨.call (.cellInit type), number?⟩, ⟨.call (.cellSet c (.enumeration n)), ()⟩,
    ⟨.call (.setProperty object text c), ()⟩] ++ released c

/-- The text of a value is looked up among the nicks of an enum. -/
def resolved (object : Handle) (type own : TypeId) (domain : Option CText) (c : Cell)
    (nick : Option CText) (n : Int32) : Transcript :=
  [⟨.instanceType object, own⟩, ⟨.call (.nicknameFind own), domain⟩,
    ⟨.call (.cellGet c .string), nick⟩, ⟨.call (.enumFromNick domain type nick), n⟩]

end Transcript

open Transcript

/-- How a whole number is read from a value that holds one. -/
inductive WholeNumber (c : Cell) (n : Int32) : Transcript → Prop where
  | enumeration :
      WholeNumber c n [⟨.call (.fundamental c.type), .enumeration⟩,
        ⟨.call (.cellGet c .enumeration), n⟩]
  | int {ancestor : TypeId} {answer : Int32} (other : ancestor ≠ .enumeration)
      (int : answer ≠ 0) :
      WholeNumber c n [⟨.call (.fundamental c.type), ancestor⟩, ⟨.call (.isA c.type .int), answer⟩,
        ⟨.call (.cellGet c .int), n⟩]

/-- How the value to assign is settled for an argument of a type: what is said, up to the
assignment and with it. -/
inductive Settled (object : Handle) (name : String) (text : CText) (type : TypeId) (c : Cell) :
    Except Failure Unit → Transcript → Prop where
  /-- A text, for an enum: a new value of the enum holds the number that the nick stands for. -/
  | nick {own : TypeId} {domain nick : Option CText} {n : Int32} {number? : Option Nat}
      (holds : c.type = .string) (known : ¬ n < 0) :
      Settled object name text type c (.ok ())
        (⟨.call (.fundamental type), .enumeration⟩ :: resolved object type own domain c nick n ++
          enumerated object text type number? n)
  /-- A text that is no nick of the enum. -/
  | unknownNick {own : TypeId} {domain nick held buffer : Option CText} {n answer : Int32}
      (holds : c.type = .string) (unknown : n < 0) (string : answer ≠ 0) :
      Settled object name text type c
        (.error (.unknownNick name ((held.map CText.lossy).getD "") (pendingMessage buffer)))
        (⟨.call (.fundamental type), .enumeration⟩ :: resolved object type own domain c nick n ++
          [⟨.call (.isA c.type .string), answer⟩, ⟨.call (.cellGet c .string), held⟩,
            ⟨.call .errorBuffer, buffer⟩, ⟨.call (.act .errorClear), ()⟩])
  /-- A whole number, for an enum: a new value of the enum holds it. -/
  | number {n : Int32} {number? : Option Nat} {reading : Transcript} (holds : c.type = .int)
      (read : WholeNumber c n reading) :
      Settled object name text type c (.ok ())
        (⟨.call (.fundamental type), .enumeration⟩ :: reading ++
          enumerated object text type number? n)
  /-- Everything else is assigned as it is, if it can be turned into the type. -/
  | plain {ancestor : TypeId} {answer : Int32}
      (other : ancestor = .enumeration → c.type ≠ .string ∧ c.type ≠ .int) (fits : answer ≠ 0) :
      Settled object name text type c (.ok ())
        [⟨.call (.fundamental type), ancestor⟩, ⟨.call (.transformable c.type type), answer⟩,
          ⟨.call (.setProperty object text c), ()⟩]
  /-- Nothing else can be assigned. -/
  | mismatch {ancestor : TypeId} {expected found : Option CText}
      (other : ancestor = .enumeration → c.type ≠ .string ∧ c.type ≠ .int) :
      Settled object name text type c
        (.error (.typeMismatch (shownName expected) (shownName found)))
        [⟨.call (.fundamental type), ancestor⟩, ⟨.call (.transformable c.type type), 0⟩,
          ⟨.call (.typeName type), expected⟩, ⟨.call (.typeName c.type), found⟩]

/-- How the cell is assigned to the property: what is said, and what comes of it. -/
inductive Assignment (object : Handle) (name : String) (c : Cell) :
    Except Failure Unit → Transcript → Prop where
  /-- The native side cannot take the name. -/
  | unnameable (zero : CText.ofString? name = none) :
      Assignment object name c (.error (.zeroByte name)) []
  /-- The object has no argument of the name. The message comes from the error buffer. -/
  | unknown {text : CText} {found : Lookup} {asked : Transcript} {described : String}
      {buffer : Option CText} (named : CText.ofString? name = some text)
      (missing : found.type? = none) (questions : ∀ e ∈ asked, e.request.Question) :
      Assignment object name c
        (.error (.unknownArgument text.lossy described (pendingMessage buffer)))
        (⟨.call (.getArgument object text), found⟩ :: asked ++
          [⟨.call .errorBuffer, buffer⟩, ⟨.call (.act .errorClear), ()⟩])
  /-- The object has the argument. -/
  | found {text : CText} {found : Lookup} {type : TypeId} {r : Except Failure Unit}
      {rest : Transcript} (named : CText.ofString? name = some text)
      (argument : found.type? = some type) (settled : Settled object name text type c r rest) :
      Assignment object name c r (⟨.call (.getArgument object text), found⟩ :: rest)

namespace SpokenWatch

open Program

variable {α : Type} {said : Transcript} {ok : α → Transcript → Prop}
  {failed : Failure → Transcript → Prop}

/-! ## The parts of an assignment -/

theorem tries_lookup {object : Object} {text : CText} {k : FoundArgument → Attempt α}
    (hfound : ∀ (found : Lookup) (spec : PropertySpec), found.type? = some spec.type →
      spokenWatch.Tries (said ++ [⟨.call (.getArgument object.handle text), found⟩])
        (k ⟨spec, found.flags⟩) ok failed)
    (hunknown : ∀ (found : Lookup) (asked : Transcript) (described : String)
      (buffer : Option CText), found.type? = none → (∀ e ∈ asked, e.request.Question) →
        failed (.unknownArgument text.lossy described (pendingMessage buffer))
          (said ++ (⟨.call (.getArgument object.handle text), found⟩ :: asked ++
            [⟨.call .errorBuffer, buffer⟩, ⟨.call (.act .errorClear), ()⟩]))) :
    spokenWatch.Tries said (Property.lookup object text >>= k) ok failed := by
  have hmissing (found : Lookup) (hnone : found.type? = none) :
      spokenWatch.Tries (said ++ [⟨.call (.getArgument object.handle text), found⟩])
        (Property.lookup.unknown object text) (fun a n => spokenWatch.Tries n (k a) ok failed)
        failed := by
    have hasked : object.describe.Asks Request.Question :=
      describe_asks Request.question_of_inquiry object
    apply (ensures_asked hasked).then
    rintro described _ ⟨asked, rfl, hquestions⟩
    refine tries_takeError fun buffer => ?_
    have hfailed := hunknown found asked described buffer hnone hquestions
    simp only [List.append_assoc, List.cons_append, List.nil_append] at hfailed ⊢
    exact hfailed
  refine Watch.tries_bind.2 (tries_call fun found => ?_)
  rcases hspec : found.spec with _ | spec
  · refine hmissing found ?_
    simp [Lookup.type?, hspec]
  · dsimp only
    by_cases hstatus : found.status = 0
    · rw [if_pos hstatus]
      refine hfound found spec ?_
      simp [Lookup.type?, hspec, hstatus]
    · rw [if_neg hstatus]
      refine hmissing found ?_
      simp [Lookup.type?, hstatus]

/-- A reader that asks for the very type of the value reads it. -/
theorem tries_readAs {v : Value} {type : TypeId} {accessor : Accessor}
    {ok : accessor.Reply → Transcript → Prop} (htype : v.type = type)
    (h : ∀ answer r, answer ≠ 0 → ok r (said ++ [⟨.call (.isA v.type type), answer⟩,
      ⟨.call (.cellGet v.cell accessor), r⟩])) :
    spokenWatch.Tries said (v.readAs type accessor) ok failed := by
  refine Watch.tries_bind.2 (tries_say (q := .call (.isA v.type type)) (by simp) ?_)
  intro answer hself
  have hanswer : answer ≠ 0 := hself htype
  rw [if_neg (by simpa using hanswer)]
  refine tries_native fun r => ?_
  rw [List.append_assoc]
  exact h answer r hanswer

theorem tries_getInt {v : Value} {ok : Int32 → Transcript → Prop} (hint : v.type = .int)
    (h : ∀ n reading, WholeNumber v.cell n reading → ok n (said ++ reading)) :
    spokenWatch.Tries said v.getInt ok failed := by
  refine tries_requireTable (tries_call fun ancestor => ?_)
  by_cases henum : ancestor = .enumeration
  · subst henum
    refine tries_native fun n => ?_
    rw [List.append_assoc]
    exact h n _ .enumeration
  · rw [if_neg henum]
    refine tries_readAs hint fun answer n hanswer => ?_
    rw [List.append_assoc]
    exact h n _ (.int henum hanswer)

theorem tries_getString {v : Value} {k : Option String → Attempt α} (hstring : v.type = .string)
    (h : ∀ answer held, answer ≠ 0 → spokenWatch.Tries
      (said ++ [⟨.call (.isA v.type .string), answer⟩, ⟨.call (.cellGet v.cell .string), held⟩])
      (k (held.map CText.lossy)) ok failed) :
    spokenWatch.Tries said (v.getString >>= k) ok failed :=
  Watch.tries_bind.2 (tries_requireTable (Watch.tries_bind.2 (tries_readAs hstring h)))

theorem ensures_release {v : Value} {Q : Unit → Transcript → Prop}
    (h : Q () (said ++ released v.cell)) : spokenWatch.Ensures said v.release Q := by
  unfold Value.release
  unfold released at h
  split
  · rw [if_pos ‹_›, List.append_nil] at h
    exact h
  · rw [if_neg ‹_›] at h
    exact ensures_ifLoaded (ensures_say (q := .call (.cellUnset v.cell)) (k := .done) (by simp)
      fun _ _ => h)

/-- A new value of an enum is made, assigned and released. -/
theorem tries_enumerated {object : Handle} {text : CText} {type : TypeId} {n : Int32}
    {ok : Unit → Transcript → Prop}
    (h : ∀ number?, ok () (said ++ enumerated object text type number? n)) :
    spokenWatch.Tries said (Value.ofEnum type n) (fun other m =>
      spokenWatch.Tries m (other.lend fun v => native (.setProperty object text v.cell)) ok failed)
      failed := by
  refine tries_requireTable (Watch.tries_lift.2 ?_)
  refine Watch.ensures_bind.2 (ensures_say (q := .call (.cellInit type)) (by simp) ?_)
  intro number? _
  have hmade (v : Value) (hv : v.cell = Cell.made number? type) :
      spokenWatch.Ensures (said ++ [⟨.call (.cellInit type), number?⟩])
        (do native (.cellSet v.cell (.enumeration n)); return v) fun other m =>
          spokenWatch.Tries m
            (other.lend fun v => native (.setProperty object text v.cell)) ok failed := by
    refine ensures_say (q := .call (.cellSet v.cell (.enumeration n))) (by simp) fun _ _ => ?_
    refine Watch.tries_closedBy.2 (tries_native fun _ => ensures_release ?_)
    rw [hv]
    simpa [enumerated] using h number?
  cases number? with
  | none => exact hmade ⟨.empty⟩ rfl
  | some k => exact hmade ⟨⟨some k, type⟩⟩ rfl

/-- The nick is looked up, and the assignment goes on with its number or ends there. -/
theorem tries_numberOfNick {object : Object} {name : String} {type : TypeId} {v : Value}
    {ok : Int32 → Transcript → Prop} (hstring : v.type = .string)
    (hknown : ∀ own domain nick (n : Int32), ¬ n < 0 →
      ok n (said ++ resolved object.handle type own domain v.cell nick n))
    (hunknown : ∀ own domain nick (n : Int32) (answer : Int32) held buffer, n < 0 → answer ≠ 0 →
      failed (.unknownNick name ((held.map CText.lossy).getD "") (pendingMessage buffer))
        (said ++ (resolved object.handle type own domain v.cell nick n ++
          [⟨.call (.isA v.type .string), answer⟩, ⟨.call (.cellGet v.cell .string), held⟩,
            ⟨.call .errorBuffer, buffer⟩, ⟨.call (.act .errorClear), ()⟩]))) :
    spokenWatch.Tries said (Property.numberOfNick object name type v) ok failed := by
  refine tries_say (q := .instanceType object.handle) (by simp) fun own _ => ?_
  refine tries_call fun domain => tries_call fun nick => tries_call fun n => ?_
  by_cases hn : n < 0
  · rw [if_pos hn]
    refine tries_getString hstring fun answer held hanswer => tries_takeError fun buffer => ?_
    have hfailed := hunknown own domain nick n answer held buffer hn hanswer
    simp only [resolved, List.append_assoc, List.cons_append, List.nil_append] at hfailed ⊢
    exact hfailed
  · rw [if_neg hn]
    have hok := hknown own domain nick n hn
    simp only [List.append_assoc, List.cons_append, List.nil_append]
    exact hok

/-! ## An assignment -/

theorem tries_settled {object : Object} {name : String} {text : CText} {type : TypeId} {v : Value}
    {ok : Unit → Transcript → Prop}
    (hok : ∀ rest, Settled object.handle name text type v.cell (.ok ()) rest → ok () (said ++ rest))
    (hfailed : ∀ f rest, Settled object.handle name text type v.cell (.error f) rest →
      failed f (said ++ rest)) :
    spokenWatch.Tries said (do
      match ← Property.substitute object name type v with
      | some other => other.lend fun v => native (.setProperty object.handle text v.cell)
      | none => native (.setProperty object.handle text v.cell)) ok failed := by
  refine Watch.tries_bind.2 (Watch.Ensures.then (P := fun isEnum m => ∃ ancestor : TypeId,
    m = said ++ [⟨.call (.fundamental type), ancestor⟩] ∧
      (isEnum = true ↔ ancestor = .enumeration)) ?_ ?_)
  · exact ensures_say (q := .call (.fundamental type)) (by simp) fun ancestor _ =>
      ⟨ancestor, rfl, by simp⟩
  rintro isEnum _ ⟨ancestor, rfl, hancestor⟩
  by_cases hnick : (isEnum && v.type == .string) = true
  · obtain ⟨henum, hstring⟩ : isEnum = true ∧ v.type = .string := by simpa using hnick
    obtain rfl := hancestor.1 henum
    rw [if_pos hnick]
    refine Watch.tries_bind.2 (tries_numberOfNick hstring ?_ ?_)
    · intro own domain nick n hn
      refine Watch.tries_bind.2 (tries_enumerated ?_)
      intro number?
      have hassigned := hok _ (@Settled.nick _ _ _ _ _ own domain nick n number? hstring hn)
      simpa using hassigned
    · intro own domain nick n answer held buffer hn hanswer
      have hunknown := hfailed _ _
        (@Settled.unknownNick _ _ _ _ _ own domain nick held buffer n answer hstring hn hanswer)
      simpa [Value.type] using hunknown
  · rw [if_neg hnick]
    by_cases hnumber : (isEnum && v.type == .int) = true
    · obtain ⟨henum, hint⟩ : isEnum = true ∧ v.type = .int := by simpa using hnumber
      obtain rfl := hancestor.1 henum
      rw [if_pos hnumber]
      refine Watch.tries_bind.2 (tries_getInt hint fun n reading hreading => ?_)
      refine Watch.tries_bind.2 (tries_enumerated ?_)
      intro number?
      have hassigned := hok _ (@Settled.number _ _ _ _ _ n number? reading hint hreading)
      simpa using hassigned
    · rw [if_neg hnumber]
      have hother : ancestor = .enumeration → v.cell.type ≠ .string ∧ v.cell.type ≠ .int := by
        intro h
        have henum := hancestor.2 h
        subst henum
        exact ⟨by simpa [Value.type] using hnick, by simpa [Value.type] using hnumber⟩
      refine Watch.tries_bind.2 (tries_say (q := .call (.transformable v.type type)) (by simp) ?_)
      intro answer _
      by_cases hanswer : answer = 0
      · subst hanswer
        refine tries_mismatch fun expected found => ?_
        have hmismatch := hfailed _ _
          (@Settled.mismatch _ _ _ _ _ ancestor expected found hother)
        simpa [Value.type] using hmismatch
      · rw [if_neg (by simpa using hanswer)]
        refine tries_native fun (_ : Unit) => ?_
        have hassigned := hok _ (.plain hother hanswer)
        simpa [Value.type] using hassigned

theorem set_tries {object : Object} {name : String} {v : Value} :
    spokenWatch.Tries said (Property.set object name v)
      (fun _ after => ∃ rest, after = said ++ rest ∧
        Assignment object.handle name v.cell (.ok ()) rest)
      fun f after => ∃ rest, after = said ++ rest ∧
        Assignment object.handle name v.cell (.error f) rest := by
  refine tries_requireTable (tries_nativeText (fun text htext => ?_) fun hzero => ?_)
  · refine tries_lookup ?_ ?_
    · intro found spec htype
      refine tries_settled (fun rest hrest => ?_) fun f rest hrest => ?_
      · exact ⟨_, List.append_assoc .., .found htext htype hrest⟩
      · exact ⟨_, List.append_assoc .., .found htext htype hrest⟩
    · intro found asked described buffer hnone hasked
      exact ⟨_, rfl, .unknown htext hnone hasked⟩
  · exact ⟨[], by simp, .unnameable hzero⟩

end SpokenWatch

/-! ## Setting properties -/

/-- A way to set a property: to a value, or to an argument that is boxed for it. -/
inductive Setter where
  | value (object : Object) (name : String) (value : Value)
  | input (operation : Operation) (name : String) (argument : Argument)

namespace Setter

/-- Sets the property. -/
def program : Setter → Attempt Unit
  | value object name v => Property.set object name v
  | input operation name argument => operation.set name argument

/-- The step that the library sees if the property is set. -/
def step : Setter → Step
  | value object name _ => .assign object.handle (CText.ofString? name)
  | input operation name _ => .assign operation.object.handle (CText.ofString? name)

/-- What a setter says to the library, and what comes of it. -/
inductive Says : Setter → Except Failure Unit → Transcript → Prop where
  | value {object : Object} {name : String} {v : Value} {r : Except Failure Unit}
      {events : Transcript} (assigned : Assignment object.handle name v.cell r events) :
      Says (.value object name v) r events
  /-- The argument could not be boxed. -/
  | unboxed {operation : Operation} {name : String} {argument : Argument} {f : Failure}
      {boxing : Transcript} (failed : argument.toValue.run.Runs boxing (.error f)) :
      Says (.input operation name argument) (.error f) boxing.spoken
  /-- The argument is boxed, its value is assigned or not, and the value is released. -/
  | boxed {operation : Operation} {name : String} {argument : Argument} {v : Value}
      {r : Except Failure Unit} {boxing events : Transcript}
      (made : argument.toValue.run.Runs boxing (.ok v))
      (assigned : Assignment operation.object.handle name v.cell r events) :
      Says (.input operation name argument) r (boxing.spoken ++ events ++ released v.cell)

open SpokenWatch in
theorem says_tries (setter : Setter) :
    spokenWatch.Tries [] setter.program (fun _ => setter.Says (.ok ()))
      fun f => setter.Says (.error f) := by
  cases setter with
  | value object name v =>
    apply set_tries.mono
    · rintro _ _ ⟨rest, rfl, hrest⟩
      exact .value hrest
    · rintro f _ ⟨rest, rfl, hrest⟩
      exact .value hrest
  | input operation name argument =>
    refine Watch.tries_bind.2 ((ensures_runs argument.toValue.run).mono ?_)
    rintro (f | v) _ ⟨boxing, hboxing, rfl⟩
    · exact .unboxed hboxing
    · apply Watch.tries_closedBy.2
      apply set_tries.mono
      · rintro _ _ ⟨rest, rfl, hrest⟩
        exact ensures_release (.boxed hboxing hrest)
      · rintro f _ ⟨rest, rfl, hrest⟩
        exact ensures_release (.boxed hboxing hrest)

open StepWatch in
/-- The library is given the property if it is set, and nothing if not. -/
theorem steps_eq {setter : Setter} {events : Transcript} {r : Except Failure Unit}
    (hrun : setter.program.run.Runs events r) :
    events.steps = if r.isOk then [setter.step] else [] := by
  have htries : stepWatch.Tries [] setter.program (fun _ after => after = [setter.step])
      fun _ after => after = [] := by
    cases setter with
    | value object name v => exact StepWatch.set_tries object name v
    | input operation name argument => exact operationSet_tries operation name argument
  obtain ⟨hok, hfailed⟩ := steps_of_runs htries
  cases r with
  | ok a => exact hok a hrun
  | error f => exact hfailed f hrun

end Setter

/-- A setter that was carried out. -/
structure CarriedOut where
  setter : Setter
  events : Transcript
  result : Except Failure Unit
  runs : setter.program.run.Runs events result

/-- All that some setters asked and were answered. -/
def CarriedOut.trace (sets : List CarriedOut) : Transcript := sets.flatMap (·.events)

/-- What the library sees of some setters is what those of them assigned that succeeded. -/
theorem CarriedOut.steps_trace (sets : List CarriedOut) :
    (trace sets).steps = (sets.filter (·.result.isOk)).map (·.setter.step) := by
  induction sets with
  | nil => rfl
  | cons set rest ih =>
    rw [trace, List.flatMap_cons, Transcript.steps_append, Setter.steps_eq set.runs, ← trace, ih,
      List.filter_cons]
    split <;> rfl

/-- However many properties are set, on whatever objects, and whatever the library answers: each
setter says exactly what belongs to its way and fails only where that way does, and the library is
given the properties that were set, one by one and in order, and no other. -/
theorem an_assignment_is_exact_and_atomic (sets : List CarriedOut)
    (htable : (CarriedOut.trace sets).Lasting true) (hself : (CarriedOut.trace sets).Reflexive) :
    (∀ set ∈ sets, set.setter.Says set.result set.events.spoken) ∧
      (CarriedOut.trace sets).steps = (sets.filter (·.result.isOk)).map (·.setter.step) := by
  refine ⟨fun set hset => ?_, CarriedOut.steps_trace sets⟩
  obtain ⟨before, after, rfl⟩ := List.append_of_mem hset
  have htrace : CarriedOut.trace (before ++ set :: after) =
      CarriedOut.trace before ++ (set.events ++ CarriedOut.trace after) := by
    simp [CarriedOut.trace]
  rw [htrace] at htable hself
  have hlasting := (Transcript.lasting_append_iff.1 (Transcript.lasting_append_iff.1 htable).2).1
  exact SpokenWatch.spoken_of_runs set.setter.says_tries set.runs hlasting
    hself.of_append.2.of_append.1

/-- A text for an enum property. -/
def nickSetter : Setter := .value ⟨⟨"op"⟩⟩ "e" ⟨⟨some 1, .string⟩⟩

/-- What is asked before the library looks the nick up. -/
def nickAsked (number : Int32) : Transcript :=
  [⟨.table, some ⟨⟨"libvips.so.42"⟩, none, []⟩⟩,
    ⟨.call (.getArgument ⟨"op"⟩ (.cut [101])), ⟨0, some ⟨none, ⟨3000⟩⟩, some 19⟩⟩,
    ⟨.call (.fundamental ⟨3000⟩), .enumeration⟩, ⟨.instanceType ⟨"op"⟩, ⟨80⟩⟩,
    ⟨.call (.nicknameFind ⟨80⟩), none⟩,
    ⟨.call (.cellGet ⟨some 1, .string⟩ .string), some (.cut [120])⟩,
    ⟨.call (.enumFromNick none ⟨3000⟩ (some (.cut [120]))), number⟩]

/-- The library knows the nick. -/
def nickKnown : Transcript :=
  let table : Event := ⟨.table, some ⟨⟨"libvips.so.42"⟩, none, []⟩⟩
  nickAsked 2 ++
    [table, ⟨.call (.cellInit ⟨3000⟩), some 2⟩,
      ⟨.call (.cellSet ⟨some 2, ⟨3000⟩⟩ (.enumeration 2)), ()⟩,
      ⟨.call (.setProperty ⟨"op"⟩ (.cut [101]) ⟨some 2, ⟨3000⟩⟩), ()⟩,
      table, ⟨.call (.cellUnset ⟨some 2, ⟨3000⟩⟩), ()⟩]

/-- The library does not know the nick. -/
def nickUnknown : Transcript :=
  nickAsked (-1) ++
    [⟨.table, some ⟨⟨"libvips.so.42"⟩, none, []⟩⟩, ⟨.call (.isA .string .string), 1⟩,
      ⟨.call (.cellGet ⟨some 1, .string⟩ .string), some (.cut [120])⟩,
      ⟨.call .errorBuffer, none⟩, ⟨.call (.act .errorClear), ()⟩]

/-- The property is set twice, and the library knows the nick the second time. -/
def nickTwice : List CarriedOut :=
  [⟨nickSetter, nickUnknown, .error (.unknownNick "e" "x" ""),
      .ask _ (.ask _ (.ask _ (.ask _ (.ask _ (.ask _ (.ask _ (.ask _ (.ask _ (.ask _ (.ask _
        (.ask _ (.done _))))))))))))⟩,
    ⟨nickSetter, nickKnown, .ok (),
      .ask _ (.ask _ (.ask _ (.ask _ (.ask _ (.ask _ (.ask _ (.ask _ (.ask _ (.ask _ (.ask _
        (.ask _ (.ask _ (.done _)))))))))))))⟩]

theorem an_unknown_nick_and_a_known_one_are_assigned_exactly :
    nickSetter.Says (.error (.unknownNick "e" "x" "")) nickUnknown.spoken ∧
      nickSetter.Says (.ok ()) nickKnown.spoken ∧
      (nickUnknown ++ nickKnown).steps = [.assign ⟨"op"⟩ (some (.cut [101]))] := by
  have htable : (CarriedOut.trace nickTwice).Lasting true := by
    simp [CarriedOut.trace, nickTwice, nickUnknown, nickKnown, nickAsked, Transcript.Lasting,
      Resource.tableSeen]
  have hself : (CarriedOut.trace nickTwice).Reflexive := by
    intro type answer he
    simp [CarriedOut.trace, nickTwice, nickUnknown, nickKnown, nickAsked] at he
    obtain ⟨rfl, hanswer⟩ := he
    rw [hanswer]
    decide
  obtain ⟨hsaid, hsteps⟩ := an_assignment_is_exact_and_atomic nickTwice htable hself
  exact ⟨hsaid _ (List.mem_cons_self ..), hsaid _ (List.mem_cons_of_mem _ (List.mem_cons_self ..)),
    hsteps⟩

end ImageGateway
