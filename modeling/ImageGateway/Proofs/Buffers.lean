-- Buffers of callers. An array that is read into a buffer goes over the front
-- of it, as far as both reach. The items behind stay, and so does the whole
-- buffer if the reading fails, whatever the library lends and whatever size
-- the caller names.

import ImageGateway.Proofs.CallProtocol
import ImageGateway.Proofs.Copies
import ImageGateway.Proofs.Outcomes

namespace ImageGateway

open Program

/-! ## The front of a buffer -/

/-- The first `n` items of a buffer are those of the values now, and the others are as they were. -/
structure CoversFront {α : Type} (values before after : List α) (n : Nat) : Prop where
  length : after.length = before.length
  front : ∀ i < n, after[i]? = values[i]?
  back : ∀ i, n ≤ i → after[i]? = before[i]?

theorem coversFront_take {α : Type} (values before : List α) {n : Nat}
    (hvalues : n ≤ values.length) (hbefore : n ≤ before.length) :
    CoversFront values before (values.take n ++ before.drop n) n where
  length := by
    rw [List.length_append, List.length_take_of_le hvalues, List.length_drop]
    omega
  front i hi := by
    rw [List.getElem?_append_left (by rwa [List.length_take_of_le hvalues]),
      List.getElem?_take_of_lt hi]
  back i hi := by
    rw [List.getElem?_append_right (by rwa [List.length_take_of_le hvalues]),
      List.length_take_of_le hvalues, List.getElem?_drop, Nat.add_sub_cancel' hi]

theorem overwrite_coversFront {α : Type} (buffer values : List α) :
    CoversFront values buffer (Property.overwrite buffer values)
      (min buffer.length values.length) := by
  have hcover := coversFront_take values buffer (Nat.min_le_right buffer.length values.length)
    (Nat.min_le_left buffer.length values.length)
  unfold Property.overwrite
  rcases Nat.le_total buffer.length values.length with h | h
  · rw [Nat.min_eq_left h, List.drop_length] at hcover
    rw [Nat.min_eq_left h, List.drop_eq_nil_of_le h]
    exact hcover
  · rw [Nat.min_eq_right h, List.take_length] at hcover
    rw [Nat.min_eq_right h, List.take_of_length_le h]
    exact hcover

/-! ## Readings of a property -/

/-- The property was read into a cell, and the reply is what the library told of that cell. Nothing
but looks came in between. -/
def Transcript.Tells (events : Transcript) (object : Handle) (name : String) (accessor : Accessor)
    (reply : accessor.Reply) : Prop :=
  ∃ text c before between closing, CText.ofString? name = some text ∧
    events = before ++ ⟨.call (.getProperty object text c), ()⟩ ::
      (between ++ ⟨.call (.cellGet c accessor), reply⟩ :: closing) ∧
    ∀ e ∈ between, e.request.Looking

theorem Transcript.Tells.after {events : Transcript} {object : Handle} {name : String}
    {accessor : Accessor} {reply : accessor.Reply} (h : events.Tells object name accessor reply)
    (first : Transcript) : (first ++ events).Tells object name accessor reply := by
  obtain ⟨text, c, before, between, closing, hname, rfl, hbetween⟩ := h
  exact ⟨text, c, first ++ before, between, closing, hname, by simp, hbetween⟩

theorem Transcript.Tells.before {events : Transcript} {object : Handle} {name : String}
    {accessor : Accessor} {reply : accessor.Reply} (h : events.Tells object name accessor reply)
    (last : Transcript) : (events ++ last).Tells object name accessor reply := by
  obtain ⟨text, c, before, between, closing, hname, rfl, hbetween⟩ := h
  exact ⟨text, c, before, between, closing ++ last, hname, by simp, hbetween⟩

namespace Property

variable {α : Type} {object : Object} {name : String} {events : Transcript}

/-- Reading a property into a new value ends with the reading. -/
theorem get_runs {type : TypeId} {v : Value}
    (h : (get object name type).run.Runs events (.ok v)) :
    ∃ text before, CText.ofString? name = some text ∧
      events = before ++ [⟨.call (.getProperty object.handle text v.cell), ()⟩] := by
  rcases runs_try_iff.1 h with ⟨_, -, ⟨⟩⟩ | ⟨first, _, _, rfl, -, hnamed⟩
  rcases runs_try_iff.1 hnamed with ⟨_, -, ⟨⟩⟩ | ⟨second, _, text, rfl, htext, hfound⟩
  rcases runs_try_iff.1 hfound with ⟨_, -, ⟨⟩⟩ | ⟨third, _, found, rfl, -, hchecked⟩
  rcases runs_try_iff.1 hchecked with ⟨_, -, ⟨⟩⟩ | ⟨fourth, _, _, rfl, -, hmade⟩
  rcases runs_try_iff.1 hmade with ⟨_, -, ⟨⟩⟩ | ⟨fifth, _, w, rfl, -, hread⟩
  obtain ⟨_, _, _, rfl, hget, hdone⟩ := runs_then_iff.1 hread
  obtain rfl := runs_request_iff.1 hget
  obtain ⟨rfl, hv⟩ := runs_done_iff.1 hdone
  cases hv
  exact ⟨text, first ++ (second ++ (third ++ (fourth ++ fifth))), nativeText_ok htext, by simp⟩

/-- A reader whose answer is a copy of what it saw tells what the property held. -/
theorem getRegistered_tells {accessor : Accessor} {copy : accessor.Reply → α}
    {read : Value → Attempt α} {which : Registered} {a : α}
    (hread : ∀ v, EndsWith accessor copy v.cell (read v))
    (hlooks : ∀ v, (read v).run.Asks Request.Looking)
    (h : (getRegistered object name which read).run.Runs events (.ok a)) :
    ∃ reply, events.Tells object.handle name accessor reply ∧ a = copy reply := by
  rcases runs_try_iff.1 h with ⟨_, -, ⟨⟩⟩ | ⟨first, _, _, rfl, -, htyped⟩
  obtain ⟨second, _, type, rfl, -, hgot⟩ := runs_then_iff.1 htyped
  rcases runs_try_iff.1 hgot with ⟨_, -, ⟨⟩⟩ | ⟨third, _, v, rfl, hget, hlent⟩
  obtain ⟨looking, closing, rfl, hlooking, -⟩ := runs_closedBy_iff.1 hlent
  obtain ⟨text, before, hname, rfl⟩ := get_runs hget
  obtain ⟨between, reply, rfl, rfl⟩ := hread v looking a hlooking
  refine ⟨reply, ⟨text, v.cell, first ++ (second ++ before), between, closing, hname, by simp,
    fun e he => ?_⟩, rfl⟩
  exact (hlooks v).of_runs hlooking e (List.mem_append_left _ he)

theorem getInts_tells {values : List Int32}
    (h : (getInts object name).run.Runs events (.ok values)) :
    ∃ block, events.Tells object.handle name .ints block ∧ values = block.toList :=
  getRegistered_tells getInts_endsWith getInts_looks h

theorem getDoubles_tells {values : List Double}
    (h : (getDoubles object name).run.Runs events (.ok values)) :
    ∃ block, events.Tells object.handle name .doubles block ∧ values = block.toList :=
  getRegistered_tells getDoubles_endsWith getDoubles_looks h

/-- What is in the buffer of a caller after an attempt to read into it. A failure comes without a
buffer. -/
def bufferAfter (buffer : List Double) : Except Failure (Nat × List Double) → List Double
  | .ok (_, after) => after
  | .error _ => buffer

/-- A property that is read into a buffer covers its front. -/
theorem getDoublesInto_covers {buffer : List Double} {n : Nat} {after : List Double}
    (h : (getDoublesInto object name buffer).run.Runs events (.ok (n, after))) :
    ∃ block, events.Tells object.handle name .doubles block ∧
      n = min buffer.length block.toList.length ∧ CoversFront block.toList buffer after n := by
  obtain ⟨answer, hread, hanswer⟩ := (runs_map_iff
    (f := fun values => (min values.length buffer.length, overwrite buffer values))).1 h
  cases answer with
  | error failure => cases hanswer
  | ok values =>
    cases hanswer
    obtain ⟨block, htells, rfl⟩ := getDoubles_tells hread
    rw [Nat.min_comm]
    exact ⟨block, htells, rfl, overwrite_coversFront buffer block.toList⟩

end Property

/-! ## Buffers among the outputs of a call -/

/-- Each item was answered, or it comes no earlier than the one that failed. -/
theorem InOrder.answered_or_stopped {ι α : Type} {goes : ι → Transcript → Except Failure α → Prop}
    {items : List ι} {events : Transcript} {answers : List α} {failure : Option Failure}
    (h : InOrder goes items events answers failure) {j : Nat} {item : ι}
    (hitem : items[j]? = some item) :
    (∃ before run after a, events = before ++ run ++ after ∧ goes item run (.ok a) ∧
      answers[j]? = some a) ∨
    (answers.length ≤ j ∧ ∃ before run stop other, events = before ++ run ∧ failure = some stop ∧
      items[answers.length]? = some other ∧ goes other run (.error stop)) := by
  induction h generalizing j with
  | done => cases hitem
  | @failed other rest events stop hgoes =>
    exact .inr ⟨Nat.zero_le j, [], events, stop, other, rfl, rfl, rfl, hgoes⟩
  | @next _ _ first second a answers failure hfirst _ ih =>
    cases j with
    | zero =>
      cases hitem
      exact .inl ⟨[], first, second, a, rfl, hfirst, rfl⟩
    | succ j =>
      rcases ih hitem with ⟨before, run, after, b, rfl, hgoes, hb⟩ |
        ⟨hlength, before, run, stop, other, rfl, rfl, hother, hgoes⟩
      · exact .inl ⟨first ++ before, run, after, b, by simp, hgoes, hb⟩
      · exact .inr ⟨Nat.succ_le_succ hlength, first ++ before, run, stop, other, by simp, rfl,
          hother, hgoes⟩

namespace Operation

/-- The call stopped no later than at the reading of the output: its preparation failed, or the
reading of an output did. -/
def StopsAt (nickname : String) (options : CallOptions) (events : Transcript) (j : Nat) : Prop :=
  ∃ before failing after failure, events = before ++ failing ++ after ∧
    ((prepare nickname options.inputs).run.Runs failing (.error failure) ∨
      ∃ i ≤ j, ∃ (output : String × Output) (object : Object), options.outputs[i]? = some output ∧
        (output.2.read object output.1).run.Runs failing (.error failure))

variable {nickname : String} {options : CallOptions} {events : Transcript}
  {result : Except Failure Unit} {outputs : List Output}

/-- Each output of a call was read, or the call stopped before that and it holds what it held. -/
theorem call_reads (h : (call nickname options).Runs events (result, outputs)) {j : Nat}
    {name : String} {place : Output} (hplace : options.outputs[j]? = some (name, place)) :
    (∃ (object : Object) (before reading after : Transcript) (read : Output),
      events = before ++ reading ++ after ∧
      (place.read object name).run.Runs reading (.ok read) ∧ outputs[j]? = some read) ∨
    (StopsAt nickname options events j ∧ outputs[j]? = some place ∧
      ∃ failure, result = .error failure) := by
  have hheld : options.held[j]? = some place := by
    rw [CallOptions.held, List.getElem?_map, hplace]
    rfl
  obtain ⟨first, _, _, rfl, -, hcall⟩ := runs_bind_iff.1 h
  obtain ⟨second, _, prepared, rfl, hprepare, hrest⟩ := runs_bind_iff.1 hcall
  cases prepared with
  | error failure =>
    obtain ⟨rfl, hr⟩ := runs_done_iff.1 hrest
    cases hr
    exact .inr ⟨⟨first, second, [], failure, by simp, .inl hprepare⟩, hheld, failure, rfl⟩
  | ok operation =>
    obtain ⟨third, _, ⟨r, after⟩, rfl, hread, hcleared⟩ := runs_bind_iff.1 hrest
    obtain ⟨clearing, _, cleared, rfl, -, hreleased⟩ := runs_bind_iff.1 hcleared
    obtain ⟨releasing, _, _, rfl, -, hdone⟩ := runs_bind_iff.1 hreleased
    obtain ⟨rfl, hr⟩ := runs_done_iff.1 hdone
    cases hr
    obtain ⟨answers, failure, hinOrder, rfl, rfl⟩ := readAll_runs hread
    rcases hinOrder.answered_or_stopped hplace with ⟨before, run, last, a, rfl, hrun, ha⟩ |
      ⟨hlength, before, run, stop, other, rfl, rfl, hother, hrun⟩
    · refine .inl ⟨operation.object, first ++ (second ++ before), run,
        last ++ (clearing ++ (releasing ++ [])), a, by simp only [List.append_assoc], hrun, ?_⟩
      obtain ⟨hbound, -⟩ := List.getElem?_eq_some_iff.1 ha
      rw [List.getElem?_append_left hbound, ha]
    · refine .inr ⟨⟨first ++ (second ++ before), run, clearing ++ (releasing ++ []), stop,
        by simp only [List.append_assoc], .inr ⟨_, hlength, other, operation.object, hother, hrun⟩⟩,
        ?_, ?_⟩
      · rw [List.getElem?_append_right hlength, List.getElem?_drop, Nat.add_sub_cancel' hlength]
        exact hheld
      · cases cleared with
        | error failure => exact ⟨failure, rfl⟩
        | ok _ => exact ⟨stop, rfl⟩

end Operation

/-! ## Buffers of a host -/

namespace Foreign

/-- How many items a host has room for. A null pointer and a size that is not positive stand for no
room. -/
def capacity {α : Type} (buffer : Option (List α)) (size : Int32) : Nat :=
  if buffer.isSome ∧ 0 < size then size.toInt.toNat else 0

/-- The host keeps its promise: behind its pointer there are as many items as the size says. -/
def Promised {α : Type} (buffer : Option (List α)) (size : Int32) : Prop :=
  ∀ items, buffer = some items → size.toInt ≤ items.length

theorem capacity_none {α : Type} (size : Int32) : capacity (none : Option (List α)) size = 0 := rfl

theorem capacity_some {α : Type} (items : List α) (size : Int32) :
    capacity (some items) size = size.toInt.toNat := by
  unfold capacity
  by_cases h : 0 < size
  · exact if_pos ⟨rfl, h⟩
  · have hsize : ¬ 0 < size.toInt := fun hpositive => h (Int32.lt_iff_toInt_lt.2 hpositive)
    rw [if_neg fun hboth => h hboth.2]
    omega

theorem capacity_le {α : Type} (buffer : Option (List α)) (size : Int32) :
    capacity buffer size ≤ size.toInt.toNat := by
  cases buffer with
  | none => exact Nat.zero_le _
  | some items => exact Nat.le_of_eq (capacity_some items size)

theorem capacity_le_length {α : Type} {items : List α} {size : Int32}
    (h : Promised (some items) size) : capacity (some items) size ≤ items.length := by
  have hroom := h items rfl
  rw [capacity_some]
  omega

theorem lent_length {α : Type} {buffer : Option (List α)} {size : Int32}
    (h : Promised buffer size) : (lent buffer size).length = capacity buffer size := by
  cases buffer with
  | none => rfl
  | some items =>
    have hroom := capacity_le_length h
    rw [capacity_some] at hroom
    rw [capacity_some, lent, List.length_take_of_le hroom]

/-- The values cover the front of a host's buffer, as far as it has room, and the host is told how
many items went over. -/
structure Holds {α : Type} (buffer : Option (List α)) (size : Int32) (values : List α)
    (answer : Int32 × Option (List α)) : Prop where
  count : answer.1.toInt = min (capacity buffer size) values.length
  nonnegative : 0 ≤ answer.1.toInt
  inside : answer.1.toInt ≤ max size.toInt 0
  place : answer.2.isSome = buffer.isSome
  front : CoversFront values (buffer.getD []) (answer.2.getD [])
    (min (capacity buffer size) values.length)

/-- The values that go over the front of a host's buffer. -/
theorem lent_coversFront {α : Type} {items : List α} {size : Int32}
    (h : Promised (some items) size) (values : List α) :
    CoversFront values items
      (Property.overwrite (lent (some items) size) values ++
        items.drop (lent (some items) size).length)
      (min (capacity (some items) size) values.length) := by
  have hcover := coversFront_take values items (Nat.min_le_right (capacity (some items) size) _)
    (Nat.le_trans (Nat.min_le_left _ values.length) (capacity_le_length h))
  have hvalues : values.take (min (capacity (some items) size) values.length) =
      values.take (capacity (some items) size) := by simp [List.take_eq_take_iff]
  rw [hvalues, Nat.min_comm, ← lent_length h] at hcover
  rw [Nat.min_comm, ← lent_length h, show lent (some items) size = items.take size.toInt.toNat from
    rfl, Export.overwrite_take]
  exact hcover

theorem copied_holds {α : Type} {buffer : Option (List α)} {size : Int32}
    (h : Promised buffer size) (values : List α) :
    Holds buffer size values (Export.copied buffer size (some values)) := by
  have hroom := capacity_le buffer size
  have hsize := size.toInt_le
  have hmax : Int32.maxValue.toInt = 2 ^ 31 - 1 := by decide
  have hcount : (Export.copied buffer size (some values)).1.toInt =
      min (capacity buffer size) values.length := by
    unfold Export.copied
    rw [lent_length h, Nat.min_comm]
    exact Int32.toInt_ofNat_of_lt (by omega)
  refine ⟨hcount, by omega, by omega, by cases buffer <;> rfl, ?_⟩
  cases buffer with
  | none =>
    rw [capacity_none, Nat.zero_min]
    exact coversFront_take values [] (Nat.zero_le _) (Nat.le_refl 0)
  | some items => exact lent_coversFront h values

/-- How a host reads an array into its buffer. If the arguments are bad or the work fails, it is
told -1 and the whole buffer is as it was. Otherwise it has what the library told of the
property. -/
def Reads {α : Type} (accessor : Accessor) (items : accessor.Reply → List α) (entry : String)
    (read : Object → String → Attempt (List α)) (operation : Option Handle) (name : Option CText)
    (buffer : Option (List α)) (size : Int32) (events : Transcript)
    (answer : Int32 × Option (List α)) : Prop :=
  ∃ result, Export.Tried entry ensureLoaded (onBorrowed operation name read) events result ∧
    match Export.yielded result with
    | none => answer = (-1, buffer)
    | some values => ∃ handle s reply, operation = some handle ∧ borrowed name = .ok s ∧
        events.Tells handle s accessor reply ∧ values = items reply ∧
        Holds buffer size values answer

theorem reads_of_tried {α : Type} {accessor : Accessor} {items : accessor.Reply → List α}
    {entry : String} {read : Object → String → Attempt (List α)} {operation : Option Handle}
    {name : Option CText} {buffer : Option (List α)} {size : Int32} {events : Transcript}
    {result : Option (Except Failure (List α))}
    (hread : ∀ object s events values, (read object s).run.Runs events (.ok values) →
      ∃ reply, events.Tells object.handle s accessor reply ∧ values = items reply)
    (hpromised : Promised buffer size)
    (h : Export.Tried entry ensureLoaded (onBorrowed operation name read) events result) :
    Reads accessor items entry read operation name buffer size events
      (Export.copied buffer size (Export.yielded result)) := by
  refine ⟨result, h, ?_⟩
  generalize htask : onBorrowed operation name read = task at h
  cases h with
  | refused problem => rfl
  | failed failure hrun => rfl
  | done values hrun =>
    rcases runs_try_iff.1 hrun with ⟨_, -, ⟨⟩⟩ | ⟨first, second, _, rfl, -, hsecond⟩
    rcases Export.onBorrowed_ok htask with ⟨-, rfl⟩ | ⟨handle, s, hoperation, hname, rfl⟩
    · cases (runs_done_iff.1 hsecond).2
    · obtain ⟨reply, htells, hvalues⟩ := hread ⟨handle⟩ s second values hsecond
      exact ⟨handle, s, reply, hoperation, hname, htells.after first, hvalues,
        copied_holds hpromised values⟩

theorem getInts_reads {operation : Option Handle} {name : Option CText}
    {buffer : Option (List Int32)} {size : Int32} {events : Transcript}
    {answer : Int32 × Option (List Int32)} (hpromised : Promised buffer size)
    (h : (getInts operation name buffer size).Runs events answer) :
    Reads .ints Block.toList "vo_get_int_array" Property.getInts operation name buffer
      size events answer := by
  obtain ⟨first, result, htried, rfl, rfl⟩ :=
    Export.tried_of_call (e := .getInts operation name buffer size) h
  rw [show Export.lateWarning _ = [] from rfl, List.append_nil]
  exact reads_of_tried (fun _ _ _ _ => Property.getInts_tells) hpromised htried

theorem getDoubles_reads {operation : Option Handle} {name : Option CText}
    {buffer : Option (List Double)} {size : Int32} {events : Transcript}
    {answer : Int32 × Option (List Double)} (hpromised : Promised buffer size)
    (h : (getDoubles operation name buffer size).Runs events answer) :
    Reads .doubles Block.toList "vo_get_double_array" Property.getDoubles operation
      name buffer size events answer := by
  obtain ⟨first, result, htried, rfl, rfl⟩ :=
    Export.tried_of_call (e := .getDoubles operation name buffer size) h
  rw [show Export.lateWarning _ = [] from rfl, List.append_nil]
  exact reads_of_tried (fun _ _ _ _ => Property.getDoubles_tells) hpromised htried

end Foreign

/-! ## All buffers -/

/-- A buffer as an output of a call. -/
theorem Output.read_buffer_covers {object : Object} {name : String} {buffer : List Double}
    {events : Transcript} {after : Output}
    (h : ((Output.buffer buffer).read object name).run.Runs events (.ok after)) :
    ∃ block items, after = .buffer items ∧ events.Tells object.handle name .doubles block ∧
      CoversFront block.toList buffer items (min buffer.length block.toList.length) := by
  obtain ⟨answer, hread, hanswer⟩ :=
    (runs_map_iff (f := fun found : Nat × List Double => Output.buffer found.2)).1 h
  rcases answer with failure | ⟨n, items⟩
  · cases hanswer
  · cases hanswer
    obtain ⟨block, htells, rfl, hcovers⟩ := Property.getDoublesInto_covers hread
    exact ⟨block, items, rfl, htells, hcovers⟩

/-- Whatever the property holds, whatever the library answers and whatever buffer there is: an array
that is read into it goes over its front, as many items as fit and as there are, and the rest stays.
If the reading fails, the whole buffer stays. So it is for the program, for each buffer among the
outputs of a call, and for a host, who is told the count or -1. -/
theorem an_array_goes_over_the_front_of_a_buffer :
    (∀ (object : Object) (name : String) (buffer : List Double) (events : Transcript)
      (result : Except Failure (Nat × List Double)),
      (Property.getDoublesInto object name buffer).run.Runs events result →
      (∃ n block, result = .ok (n, Property.bufferAfter buffer result) ∧
        events.Tells object.handle name .doubles block ∧ n = min buffer.length block.toList.length ∧
        CoversFront block.toList buffer (Property.bufferAfter buffer result) n) ∨
      ((∃ failure, result = .error failure) ∧ Property.bufferAfter buffer result = buffer)) ∧
    (∀ (nickname : String) (options : CallOptions) (events : Transcript)
      (result : Except Failure Unit) (outputs : List Output),
      (Operation.call nickname options).Runs events (result, outputs) →
      ∀ (j : Nat) (name : String) (buffer : List Double),
      options.outputs[j]? = some (name, .buffer buffer) →
      (∃ handle block items, outputs[j]? = some (.buffer items) ∧
        events.Tells handle name .doubles block ∧
        CoversFront block.toList buffer items (min buffer.length block.toList.length)) ∨
      (Operation.StopsAt nickname options events j ∧ outputs[j]? = some (.buffer buffer) ∧
        ∃ failure, result = .error failure)) ∧
    (∀ operation name buffer size events answer, Foreign.Promised buffer size →
      (Foreign.getDoubles operation name buffer size).Runs events answer →
      Foreign.Reads .doubles Block.toList "vo_get_double_array" Property.getDoubles
        operation name buffer size events answer) ∧
    (∀ operation name buffer size events answer, Foreign.Promised buffer size →
      (Foreign.getInts operation name buffer size).Runs events answer →
      Foreign.Reads .ints Block.toList "vo_get_int_array" Property.getInts
        operation name buffer size events answer) ∧
    ∀ {α : Type} (block : Block α), block.items = none ∨ block.count ≤ 0 → block.toList = [] := by
  refine ⟨?_, ?_, ?_, ?_, fun block => Block.toList_eq_nil⟩
  · intro object name buffer events result h
    rcases result with failure | ⟨n, after⟩
    · exact .inr ⟨⟨failure, rfl⟩, rfl⟩
    · obtain ⟨block, htells, hn, hcovers⟩ := Property.getDoublesInto_covers h
      exact .inl ⟨n, block, rfl, htells, hn, hcovers⟩
  · intro nickname options events result outputs h j name buffer hplace
    rcases Operation.call_reads h hplace with
      ⟨object, before, reading, after, read, rfl, hread, houtput⟩ | hstopped
    · obtain ⟨block, items, rfl, htells, hcovers⟩ := Output.read_buffer_covers hread
      exact .inl ⟨object.handle, block, items, houtput, (htells.after before).before after, hcovers⟩
    · exact .inr hstopped
  · exact fun _ _ _ _ _ _ => Foreign.getDoubles_reads
  · exact fun _ _ _ _ _ _ => Foreign.getInts_reads

/-! ### A buffer that is too short, and an array of which nothing is lent -/

/-- The looks and calls of a reading of the property `xs` from an array type, up to the block. -/
def arrayReading (type : TypeId) : Transcript :=
  let table : Event := ⟨.table, some ⟨⟨"libvips.so.42"⟩, none, []⟩⟩
  let xs : CText := ⟨[120, 115], by decide⟩
  [table, ⟨.call (.getArgument ⟨"op"⟩ xs), ⟨0, some ⟨none, type⟩, some 16⟩⟩,
    ⟨.call (.transformable type type), 1⟩, table, ⟨.call (.cellInit type), some 1⟩,
    ⟨.call (.getProperty ⟨"op"⟩ xs ⟨some 1, type⟩), ()⟩, table]

/-- A host has room for two of three numbers. -/
def shortReading : Transcript :=
  let table : Event := ⟨.table, some ⟨⟨"libvips.so.42"⟩, none, []⟩⟩
  let type : TypeId := ⟨2002⟩
  [table, table, ⟨.call (.registered .intArray), type⟩] ++ arrayReading type ++
    [⟨.call (.registered .intArray), type⟩, ⟨.call (.isA type type), 1⟩,
      ⟨.call (.cellGet ⟨some 1, type⟩ .ints), ⟨some [1, 2, 3], 3⟩⟩,
      table, ⟨.call (.cellUnset ⟨some 1, type⟩), ()⟩]

/-- The library lends a null pointer, with a count below zero. -/
def nullReading : Transcript :=
  let table : Event := ⟨.table, some ⟨⟨"libvips.so.42"⟩, none, []⟩⟩
  let type : TypeId := ⟨2003⟩
  [table, ⟨.call (.registered .doubleArray), type⟩] ++ arrayReading type ++
    [⟨.call (.registered .doubleArray), type⟩, ⟨.call (.isA type type), 1⟩,
      ⟨.call (.cellGet ⟨some 1, type⟩ .doubles), ⟨none, -1⟩⟩,
      table, ⟨.call (.cellUnset ⟨some 1, type⟩), ()⟩]

/-- The run of a call that reads nothing but a buffer. -/
def bufferCall : Transcript :=
  let table : Event := ⟨.table, some ⟨⟨"libvips.so.42"⟩, none, []⟩⟩
  [⟨.log .debug "vips call stats", ()⟩,
    table, ⟨.call (.operationNew ⟨[115, 116, 97, 116, 115], by decide⟩), some ⟨"new"⟩⟩,
    table, ⟨.call (.build ⟨"new"⟩), (0, some ⟨"op"⟩)⟩] ++ nullReading ++
    [table, ⟨.call (.unrefOutputs (some ⟨"op"⟩)), ()⟩, table, ⟨.call (.unref (some ⟨"op"⟩)), ()⟩]

theorem a_short_buffer_takes_the_front :
    Foreign.Reads .ints Block.toList "vo_get_int_array" Property.getInts
        (some ⟨"op"⟩) (some ⟨[120, 115], by decide⟩) (some [7, 8, 9]) 2 shortReading
        (2, some [1, 2, 9]) ∧
      (∃ n block, (Except.ok (0, [⟨0⟩]) : Except Failure (Nat × List Double)) = .ok (n, [⟨0⟩]) ∧
        nullReading.Tells ⟨"op"⟩ "xs" .doubles block ∧ n = min 1 block.toList.length ∧
        CoversFront block.toList [⟨0⟩] [⟨0⟩] n) ∧
      ∃ handle block items, [Output.buffer [⟨0⟩]][0]? = some (.buffer items) ∧
        bufferCall.Tells handle "xs" .doubles block ∧
        CoversFront block.toList [⟨0⟩] items (min 1 block.toList.length) := by
  obtain ⟨hinto, hcall, -, hints, -⟩ := an_array_goes_over_the_front_of_a_buffer
  have hshort : (Foreign.getInts (some ⟨"op"⟩) (some ⟨[120, 115], by decide⟩)
      (some [7, 8, 9]) 2).Runs shortReading (2, some [1, 2, 9]) :=
    .ask _ (.ask _ (.ask _ (.ask _ (.ask _ (.ask _ (.ask _ (.ask _ (.ask _ (.ask _ (.ask _
    (.ask _ (.ask _ (.ask _ (.ask _ (.done _)))))))))))))))
  have hnull : (Property.getDoublesInto ⟨⟨"op"⟩⟩ "xs" [⟨0⟩]).run.Runs nullReading
      (.ok (0, [⟨0⟩])) :=
    .ask _ (.ask _ (.ask _ (.ask _ (.ask _ (.ask _ (.ask _ (.ask _ (.ask _ (.ask _ (.ask _
    (.ask _ (.ask _ (.ask _ (.done _))))))))))))))
  have hstats : (Operation.call "stats" ⟨[], [("xs", .buffer [⟨0⟩])]⟩).Runs bufferCall
      (.ok (), [.buffer [⟨0⟩]]) :=
    .ask _ (.ask _ (.ask _ (.ask _ (.ask _ (.ask _ (.ask _ (.ask _ (.ask _ (.ask _ (.ask _
    (.ask _ (.ask _ (.ask _ (.ask _ (.ask _ (.ask _ (.ask _ (.ask _ (.ask _ (.ask _ (.ask _
    (.ask _ (.done _)))))))))))))))))))))))
  have hpromised : Foreign.Promised (some [(7 : Int32), 8, 9]) 2 := by
    rintro _ ⟨⟩
    decide
  refine ⟨hints _ _ _ _ _ _ hpromised hshort, ?_, ?_⟩
  · rcases hinto _ _ _ _ _ hnull with hcovers | ⟨⟨_, ⟨⟩⟩, -⟩
    exact hcovers
  · rcases hcall _ _ _ _ _ hstats 0 "xs" [⟨0⟩] rfl with hcovers | ⟨-, -, _, ⟨⟩⟩
    exact hcovers

end ImageGateway
