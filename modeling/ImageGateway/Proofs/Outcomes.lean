-- What a host is told. A call of an entry point takes effect and keeps quiet, or
-- it leaves everything as it was and warns under its own name. There is no third
-- way, whatever the host passes and whatever the library answers.

import ImageGateway.Proofs.CallSteps
import ImageGateway.Proofs.EntryPoints
import ImageGateway.Proofs.Runs

namespace ImageGateway

/-- A warning that starts with this text. -/
def Request.Warns (start : String) (q : Request) : Prop := ∃ rest, q = .log .warn (start ++ rest)

/-- There is a warning that starts with this text. -/
def Transcript.Warns (start : String) (events : Transcript) : Prop :=
  ∃ e ∈ events, e.request.Warns start

namespace Transcript.Warns

variable {start : String} {first second : Transcript}

theorem append_left (h : Warns start first) (second : Transcript) :
    Warns start (first ++ second) := by
  obtain ⟨e, he, hwarns⟩ := h
  exact ⟨e, List.mem_append_left _ he, hwarns⟩

theorem append_right (h : Warns start second) (first : Transcript) :
    Warns start (first ++ second) := by
  obtain ⟨e, he, hwarns⟩ := h
  exact ⟨e, List.mem_append_right _ he, hwarns⟩

end Transcript.Warns

/-- A property name that an entry point cannot read: a null pointer, or bytes that are not UTF-8. -/
def CText.Unreadable : Option CText → Prop
  | none => True
  | some text => ¬ text.decode.isOk

/-- A buffer of the host took as many items as the count says, from the front, and is as it was
behind them. -/
def Filled {α : Type} (buffer : Option (List α)) (answer : Int32 × Option (List α)) : Prop :=
  0 ≤ answer.1 ∧ ∃ values : List α, (values.length : Int) = answer.1.toInt ∧
    answer.2 = buffer.map fun items => values ++ items.drop values.length

namespace Export

/-- The name of a property that the host passes, if the entry point is about a property. -/
def propertyName? : Export → Option (Option CText)
  | getPlain _ _ name _ | getHanding _ _ name _ => some name
  | getInts _ name _ _ | getDoubles _ name _ _ => some name
  | setProperty _ name _ => some name
  | _ => none

/-- The call did what it is for, and the host has the whole of it. -/
def TakesEffect : (e : Export) → Transcript → e.Answer → Prop
  | setBool .. | setInt .. | setUInt64 .. | setDouble .. | setString .. | setInts ..
  | setDoubles .. | setImages .. | setBlob .. | setObject .. => fun _ written => written.isSome
  | getPlain .bool .. | getPlain .int .. | getPlain .uint64 .. | getPlain .double ..
  | getHanding .text .. | getHanding .blob .. | getHanding .image .. => fun _ stored =>
    stored.isSome
  | getInts _ _ buffer _ => fun _ answer => Filled buffer answer
  | getDoubles _ _ buffer _ => fun _ answer => Filled buffer answer
  | setProperty object name _ => fun events _ =>
    ∃ handle s, object = some handle ∧ Foreign.borrowed name = .ok s ∧
      events.steps = [.assign handle (CText.ofString? s)]
  | cacheImage .. | cacheImageWith .. => fun _ answer => ∃ image, answer = (0, some image)
  | start _ => fun _ status => status = 0

/-- The call left the memory of the host and the property as they were, and says so where it has a
status or a count. -/
def LeavesAlone : (e : Export) → Transcript → e.Answer → Prop
  | setBool .. | setInt .. | setUInt64 .. | setDouble .. | setString .. | setInts ..
  | setDoubles .. | setImages .. | setBlob .. | setObject .. => fun _ written => written = none
  | getPlain .bool .. | getPlain .int .. | getPlain .uint64 .. | getPlain .double ..
  | getHanding .text .. | getHanding .blob .. | getHanding .image .. => fun _ stored =>
    stored = none
  | getInts _ _ buffer _ => fun _ answer => answer = (-1, buffer)
  | getDoubles _ _ buffer _ => fun _ answer => answer = (-1, buffer)
  | setProperty .. => fun events _ => events.steps = []
  | cacheImage .. | cacheImageWith .. => fun _ answer => answer = (-1, none)
  | start _ => fun _ status => status = -1

end Export

namespace Export

open Program Request

variable {e : Export} {events : Transcript}

/-! ## Steps -/

theorem stepless_of_loading (q : Request) (h : q.Loading) : q.Stepless := by
  cases q <;> first | rfl | exact h.elim

theorem warning_stepless (entry text : String) :
    Transcript.steps [Foreign.warning entry text] = [] := rfl

theorem lateWarning_stepless (e : Export) : e.lateWarning.steps = [] := by
  unfold lateWarning
  split <;> rfl

/-- The assignment of a host makes one step if it goes well, and none if it fails. -/
theorem setProperty_steps {object : Option Handle} {name : Option CText} {cell : Option Cell}
    {result : Option (Except Failure Unit)}
    (h : Tried "vo_set_property" Foreign.ensureLoaded (setProperty object name cell).task events
      result) :
    (yielded result = none ∧ events.steps = []) ∨
      ∃ handle s, yielded result = some () ∧ object = some handle ∧
        Foreign.borrowed name = .ok s ∧ events.steps = [.assign handle (CText.ofString? s)] := by
  generalize htask : (setProperty object name cell).task = task at h
  have hset {task : Attempt Unit} (htask : (setProperty object name cell).task = .ok task) :
      task = throw (.nullPointer .operation) ∨ ∃ handle s value, object = some handle ∧
        Foreign.borrowed name = .ok s ∧ task = Property.set ⟨handle⟩ s value := by
    cases cell with
    | none => cases htask
    | some cell =>
      simp only [Export.task] at htask
      rcases onBorrowed_ok htask with ⟨-, rfl⟩ | ⟨handle, s, hobject, hname, rfl⟩
      · exact .inl rfl
      · exact .inr ⟨handle, s, ⟨cell⟩, hobject, hname, rfl⟩
  have hload {r : Except Failure Unit} {events : Transcript}
      (h : Foreign.ensureLoaded.run.Runs events r) : events.steps = [] :=
    steps_of_asks (ensureLoaded_asks stepless_of_loading) h
  cases h with
  | refused problem => exact .inl ⟨rfl, rfl⟩
  | @failed task events failure hrun =>
    refine .inl ⟨rfl, ?_⟩
    rw [Transcript.steps_append, warning_stepless, List.append_nil]
    rcases runs_try_iff.1 hrun with ⟨_, hfirst, -⟩ | ⟨first, second, _, rfl, hfirst, hsecond⟩
    · exact hload hfirst
    rw [Transcript.steps_append, hload hfirst, List.nil_append]
    rcases hset htask with rfl | ⟨handle, s, value, -, -, rfl⟩
    · obtain ⟨rfl, -⟩ := runs_done_iff.1 hsecond
      rfl
    · exact (StepWatch.steps_of_runs (StepWatch.set_tries _ _ _)).2 failure hsecond
  | @done task events a hrun =>
    rcases runs_try_iff.1 hrun with ⟨_, -, ⟨⟩⟩ | ⟨first, second, _, rfl, hfirst, hsecond⟩
    rcases hset htask with rfl | ⟨handle, s, value, hobject, hname, rfl⟩
    · obtain ⟨-, ⟨⟩⟩ := runs_done_iff.1 hsecond
    · refine .inr ⟨handle, s, rfl, hobject, hname, ?_⟩
      rw [Transcript.steps_append, hload hfirst]
      exact (StepWatch.steps_of_runs (StepWatch.set_tries _ _ _)).1 a hsecond

/-! ## Warnings -/

/-- A warning about the environment is under no name of an entry point that reads it. -/
theorem ignoring_not_under_name (host : Option CText) (text : String) :
    ¬ (Request.log .warn ("Ignoring VIPS_BRIDGE_CONCURRENCY: " ++ text)).Warns
      (start host).name := by
  rintro ⟨rest, h⟩
  have hlines := congrArg String.toList (Request.log.inj h).2
  simp [Export.name] at hlines

/-- The work of an entry point puts no warning under its name. -/
theorem task_unwarned {attempt : Attempt e.Yield} (h : e.task = .ok attempt) :
    (do e.load; attempt : Attempt e.Yield).run.Asks fun q => ¬ q.Warns e.name := by
  by_cases hstart : ∃ host, e = .start host
  · obtain ⟨host, rfl⟩ := hstart
    cases h
    refine Asks.try trivial fun _ => (fromEnvironment_asks (fun _ => nofun) fun text => ?_).then
      fun config => start_asks ?_ ?_ (takeError_asks ?_) _
    · exact ignoring_not_under_name host text
    all_goals
      rintro q hq ⟨rest, rfl⟩
      exact hq
  · have hload : e.load = Foreign.ensureLoaded := by
      cases e <;> first | rfl | exact absurd ⟨_, rfl⟩ hstart
    rw [hload]
    refine (ensureLoaded_asks ?_).try fun _ =>
      task_asks ?_ ?_ (fun host he => hstart ⟨host, he⟩) h
    · rintro q hq ⟨rest, rfl⟩
      exact hq
    · rintro q hq ⟨rest, rfl⟩
      exact hq
    · rintro _ _ _ _ q hq ⟨rest, rfl⟩
      exact hq

theorem warning_warns (entry text : String) :
    Transcript.Warns (entry ++ ":") [Foreign.warning entry text] := by
  refine ⟨_, List.mem_singleton_self _, " " ++ text, ?_⟩
  have hline : entry ++ ": " ++ text = entry ++ ":" ++ (" " ++ text) := by
    rw [show ": " = ":" ++ " " from rfl]
    simp only [String.append_assoc]
  exact congrArg (Request.log .warn) hline

/-! ## Answers -/

/-- What the host finds if the work was in vain. -/
theorem leavesAlone_none (hsteps : ∀ object name cell, e = setProperty object name cell →
    events.steps = []) : e.LeavesAlone events (e.answer none) := by
  cases e with
  | getPlain plain operation name place => cases plain <;> cases place <;> rfl
  | getHanding handing operation name place => cases handing <;> cases place <;> rfl
  | setProperty object name cell => exact hsteps object name cell rfl
  | _ => rfl

/-- A reader without a place for what it found leaves everything as it was. -/
theorem leavesAlone_late (hlate : e.late) (yield : Option e.Yield) :
    e.LeavesAlone events (e.answer yield) := by
  cases e with
  | getPlain plain operation name place =>
    cases place with
    | null => cases plain <;> rfl
    | writable => cases hlate
  | getHanding handing operation name place =>
    cases place with
    | null => cases handing <;> rfl
    | writable => cases hlate
  | _ => cases hlate

theorem lent_length_le {α : Type} (items : Option (List α)) (size : Int32) :
    (Foreign.lent items size).length ≤ size.toInt.toNat := by
  unfold Foreign.lent
  cases items with
  | none => simp
  | some items =>
    rw [List.length_take]
    exact Nat.min_le_left ..

/-- Values that go over the first items of a list, and the items behind them. -/
theorem overwrite_take {α : Type} (items values : List α) (n : Nat) :
    Property.overwrite (items.take n) values ++ items.drop (items.take n).length =
      values.take (items.take n).length ++
        items.drop (min values.length (items.take n).length) := by
  have hback : items.drop (items.take n).length = items.drop n := by
    rw [List.length_take]
    by_cases h : n ≤ items.length
    · rw [Nat.min_eq_left h]
    · rw [Nat.min_eq_right (by omega), List.drop_length, List.drop_eq_nil_of_le (by omega)]
  unfold Property.overwrite
  rw [List.append_assoc]
  congr 1
  by_cases h : values.length ≤ (items.take n).length
  · rw [hback, Nat.min_eq_left h, ← List.drop_append_of_le_length h, List.take_append_drop]
  · rw [Nat.min_eq_right (by omega), List.drop_eq_nil_of_le (by omega), List.nil_append]

theorem copied_filled {α : Type} (buffer : Option (List α)) (size : Int32) (values : List α) :
    Filled buffer (copied buffer size (some values)) := by
  have hlent := lent_length_le buffer size
  have hsize := size.toInt_le
  have hmin : min values.length (Foreign.lent buffer size).length < 2 ^ 31 := by
    have hmax : Int32.maxValue.toInt = 2 ^ 31 - 1 := by decide
    omega
  have hcount : (Int32.ofNat (min values.length (Foreign.lent buffer size).length)).toInt =
      min values.length (Foreign.lent buffer size).length := Int32.toInt_ofNat_of_lt hmin
  refine ⟨?_, values.take (Foreign.lent buffer size).length, ?_, ?_⟩
  · show 0 ≤ Int32.ofNat _
    rw [Int32.le_iff_toInt_le, hcount]
    simp
  · rw [List.length_take, Nat.min_comm]
    exact hcount.symm
  · cases buffer with
    | none => rfl
    | some items =>
      have hwhole := overwrite_take items values size.toInt.toNat
      rw [Nat.min_comm, ← List.length_take] at hwhole
      exact congrArg some hwhole

/-- What the host finds if the work was done. -/
theorem takesEffect_some (hlate : e.late = false) (yield : e.Yield)
    (hsteps : ∀ object name cell, e = setProperty object name cell →
      ∃ handle s, object = some handle ∧ Foreign.borrowed name = .ok s ∧
        events.steps = [.assign handle (CText.ofString? s)]) :
    e.TakesEffect events (e.answer (some yield)) := by
  cases e with
  | getPlain plain operation name place =>
    cases place with
    | null => cases hlate
    | writable => cases plain <;> rfl
  | getHanding handing operation name place =>
    cases place with
    | null => cases hlate
    | writable => cases handing <;> rfl
  | getInts operation name buffer size => exact copied_filled buffer size yield
  | getDoubles operation name buffer size => exact copied_filled buffer size yield
  | setProperty object name cell => exact hsteps object name cell rfl
  | cacheImage image place => exact ⟨_, rfl⟩
  | cacheImageWith image place pairs => exact ⟨_, rfl⟩
  | _ => rfl

theorem not_takesEffect_of_leavesAlone {answer : e.Answer} (h : e.LeavesAlone events answer) :
    ¬ e.TakesEffect events answer := by
  cases e with
  | getPlain plain operation name place =>
    cases plain <;>
    · obtain rfl : answer = none := h
      exact nofun
  | getHanding handing operation name place =>
    cases handing <;>
    · obtain rfl : answer = none := h
      exact nofun
  | getInts operation name buffer size =>
    obtain rfl : answer = (-1, buffer) := h
    exact fun hfilled => absurd hfilled.1 (by decide : ¬ (0 : Int32) ≤ -1)
  | getDoubles operation name buffer size =>
    obtain rfl : answer = (-1, buffer) := h
    exact fun hfilled => absurd hfilled.1 (by decide : ¬ (0 : Int32) ≤ -1)
  | setProperty object name cell =>
    rintro ⟨handle, s, -, -, hsteps⟩
    rw [show events.steps = [] from h] at hsteps
    cases hsteps
  | cacheImage image place =>
    obtain rfl : answer = (-1, none) := h
    exact nofun
  | cacheImageWith image place pairs =>
    obtain rfl : answer = (-1, none) := h
    exact nofun
  | start host =>
    obtain rfl : answer = -1 := h
    exact (by decide : ¬ (-1 : Int32) = 0)
  | _ =>
    obtain rfl : answer = none := h
    exact nofun

/-! ## The two ways -/

/-- A property name that cannot be read is found out before anything else is done. -/
theorem task_of_unreadable {name : Option CText} (h : e.propertyName? = some name)
    (hname : CText.Unreadable name) : ∃ problem, e.task = .error problem := by
  have hborrowed : ∃ problem, Foreign.borrowed name = .error problem := by
    cases name with
    | none => exact ⟨_, rfl⟩
    | some text =>
      unfold Foreign.borrowed
      cases hdecode : text.decode with
      | ok s => simp [CText.Unreadable, hdecode, Except.isOk, Except.toBool] at hname
      | error fault => exact ⟨fault.message, by simp [hdecode]⟩
  obtain ⟨problem, hproblem⟩ := hborrowed
  have hread {α : Type} (operation : Option Handle) (f : Object → String → Attempt α) :
      Foreign.onBorrowed operation name f = .error problem := by
    unfold Foreign.onBorrowed
    rw [hproblem]
    rfl
  cases e with
  | getPlain plain operation name place =>
    cases h
    cases plain <;>
    · simp only [Export.task]
      exact ⟨problem, hread _ _⟩
  | getHanding handing operation name place =>
    cases h
    cases handing <;>
    · simp only [Export.task]
      exact ⟨problem, hread _ _⟩
  | getInts operation name buffer size =>
    cases h
    exact ⟨problem, hread _ _⟩
  | getDoubles operation name buffer size =>
    cases h
    exact ⟨problem, hread _ _⟩
  | setProperty object name cell =>
    cases h
    cases cell with
    | none => exact ⟨_, rfl⟩
    | some cell =>
      simp only [Export.task]
      exact ⟨problem, hread _ _⟩
  | _ => cases h

theorem lateWarning_warns (h : e.late) : e.lateWarning.Warns (e.name ++ ":") := by
  unfold lateWarning
  rw [if_pos h]
  exact warning_warns ..

/-- The steps of an assignment by a host, with the warning that may come last. -/
theorem setProperty_done {first : Transcript} {result : Option (Except Failure e.Yield)}
    (h : Tried e.name e.load e.task first result) :
    ∀ object name cell, e = setProperty object name cell →
      (yielded result = none → (first ++ e.lateWarning).steps = []) ∧
      (yielded result ≠ none → ∃ handle s, object = some handle ∧ Foreign.borrowed name = .ok s ∧
        (first ++ e.lateWarning).steps = [.assign handle (CText.ofString? s)]) := by
  rintro object name cell rfl
  rw [Transcript.steps_append, lateWarning_stepless, List.append_nil]
  rcases setProperty_steps h with ⟨hnone, hsteps⟩ | ⟨handle, s, hsome, hobject, hname, hsteps⟩
  · exact ⟨fun _ => hsteps, fun h => absurd hnone h⟩
  · exact ⟨fun h => absurd (hsome.symm.trans h) nofun, fun _ => ⟨handle, s, hobject, hname, hsteps⟩⟩

end Export

/-- Whatever the host passes and whatever is answered, a call of an entry point takes effect without
a warning under its name, or it leaves everything as it was and warns under its name, and never
both. If the name of a property cannot be read, nothing but warnings comes of the call. -/
theorem an_entry_point_takes_effect_or_warns (e : Export) {events : Transcript} {answer : e.Answer}
    (h : e.call.Runs events answer) :
    ((e.TakesEffect events answer ∧ ¬ events.Warns e.name) ∨
      (e.LeavesAlone events answer ∧ events.Warns (e.name ++ ":"))) ∧
    ¬ (e.TakesEffect events answer ∧ e.LeavesAlone events answer) ∧
    ∀ name, e.propertyName? = some name → CText.Unreadable name →
      ∀ ev ∈ events, ∃ line, ev.request = .log .warn line := by
  obtain ⟨first, result, htried, rfl, rfl⟩ := Export.tried_of_call h
  have hsteps := Export.setProperty_done htried
  refine ⟨?_, fun hboth => Export.not_takesEffect_of_leavesAlone hboth.2 hboth.1, ?_⟩
  · by_cases hlate : e.late
    · right
      exact ⟨Export.leavesAlone_late hlate (Export.yielded result),
        (Export.lateWarning_warns hlate).append_right first⟩
    have hquiet : e.lateWarning = [] := if_neg hlate
    generalize htask : e.task = task at htried
    cases htried with
    | refused problem =>
      right
      exact ⟨Export.leavesAlone_none fun object name cell he => (hsteps object name cell he).1 rfl,
        (Export.warning_warns ..).append_left _⟩
    | failed failure hrun =>
      right
      exact ⟨Export.leavesAlone_none fun object name cell he => (hsteps object name cell he).1 rfl,
        ((Export.warning_warns ..).append_right _).append_left _⟩
    | done a hrun =>
      left
      refine ⟨Export.takesEffect_some (by simpa using hlate) a fun object name cell he =>
        (hsteps object name cell he).2 nofun, ?_⟩
      rintro ⟨ev, hev, hwarns⟩
      rw [hquiet, List.append_nil] at hev
      exact (Export.task_unwarned htask).of_runs hrun ev hev hwarns
  · intro name hname hunreadable ev hev
    obtain ⟨problem, hproblem⟩ := Export.task_of_unreadable hname hunreadable
    rw [hproblem] at htried
    cases htried with
    | refused problem =>
      rcases List.mem_append.1 hev with hev | hev
      · obtain rfl := List.mem_singleton.1 hev
        exact ⟨_, rfl⟩
      · unfold Export.lateWarning at hev
        split at hev
        · obtain rfl := List.mem_singleton.1 hev
          exact ⟨_, rfl⟩
        · simp at hev

/-! ### A truth value, and a name that is none -/

/-- A cell of the host takes a truth value. -/
def truthGiven : Transcript :=
  [⟨.table, some ⟨⟨"vips"⟩, none, []⟩⟩, ⟨.table, some ⟨⟨"vips"⟩, none, []⟩⟩,
    ⟨.call (.cellInit .boolean), some 1⟩, ⟨.call (.cellSet ⟨some 1, .boolean⟩ (.boolean 1)), ()⟩]

theorem a_truth_value_takes_effect :
    (Export.setBool .writable 2).call.Runs truthGiven (some ⟨some 1, .boolean⟩) ∧
      ¬ truthGiven.Warns "vo_set_bool" ∧
      (Export.setProperty none none (some .empty)).call.Runs
        [Foreign.warning "vo_set_property" "null string argument"] () ∧
      Transcript.steps [Foreign.warning "vo_set_property" "null string argument"] = [] := by
  have hgiven : (Export.setBool .writable 2).call.Runs truthGiven (some ⟨some 1, .boolean⟩) :=
    .ask _ (.ask _ (.ask _ (.ask _ (.done _))))
  have hunnamed : (Export.setProperty none none (some .empty)).call.Runs
      [Foreign.warning "vo_set_property" "null string argument"] () := .ask _ (.done _)
  refine ⟨hgiven, ?_, hunnamed, ?_⟩
  · rcases (an_entry_point_takes_effect_or_warns _ hgiven).1 with ⟨-, hquiet⟩ | ⟨hnone, -⟩
    · exact hquiet
    · cases hnone
  · rcases (an_entry_point_takes_effect_or_warns _ hunnamed).1 with ⟨⟨_, _, hnone, -⟩, -⟩ |
      ⟨hsteps, -⟩
    · cases hnone
    · exact hsteps

end ImageGateway
