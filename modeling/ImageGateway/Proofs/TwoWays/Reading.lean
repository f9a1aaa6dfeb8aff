-- What a host reads of a property, next to what the program reads. On the
-- published table an entry point looks at the table once more, and then it does
-- what the reader of the program does, request by request. It stores what the
-- reader answers. Only texts take another way: the library makes a copy for the
-- host, where the program looks at the type first and at the text after that.

import ImageGateway.Proofs.EntryPoints
import ImageGateway.Proofs.Runs
import ImageGateway.Proofs.Spoken
import ImageGateway.Proofs.Utf8

namespace ImageGateway

open Program

namespace Export

variable {α β : Type} {entry : String} {events : Transcript}

/-! ## Entry points on the published table -/

theorem logged_map (entry : String) (f : α → β) (r : Except Failure α) :
    Foreign.logged entry (r.map f) = Foreign.logged entry r := by
  cases r <;> rfl

theorem toOption_map (f : α → β) (r : Except Failure α) :
    (r.map f).toOption = r.toOption.map f := by
  cases r <;> rfl

/-- Once a table is published, opening the library is one look at the table. -/
theorem loaded_runs {task : Attempt α} {r : Except Failure α} (htable : events.Lasting true)
    (h : (do Foreign.ensureLoaded; task : Attempt α).run.Runs events r) :
    ∃ table rest, events = ⟨.table, some table⟩ :: rest ∧ task.run.Runs rest r := by
  obtain ⟨look, rest, rfl, hrest⟩ := runs_ask_iff.1 h
  cases look with
  | none => cases htable.1 rfl rfl
  | some table => exact ⟨table, rest, rfl, hrest⟩

variable {e : Export} {answer : e.Answer}

theorem call_eq_of_task {task : Attempt e.Yield} (hload : e.load = Foreign.ensureLoaded)
    (hlate : e.late = false) (htask : e.task = .ok task) :
    e.call = do
      let yield ← Foreign.reported e.name do Foreign.ensureLoaded; task
      return e.answer yield := by
  rw [call_eq, worked, htask, hload, hlate]
  rfl

/-- A run of the work, and what the entry point adds to it. -/
theorem call_runs {task : Attempt e.Yield} (hload : e.load = Foreign.ensureLoaded)
    (hlate : e.late = false) (htask : e.task = .ok task) (table : Table) {inner : Transcript}
    {r : Except Failure e.Yield} (hrun : task.run.Runs inner r) :
    e.call.Runs (⟨.table, some table⟩ :: (inner ++ Foreign.logged e.name r))
      (e.answer r.toOption) := by
  rw [call_eq_of_task hload hlate htask]
  have hwhole : (do Foreign.ensureLoaded; task : Attempt e.Yield).run.Runs
      (⟨.table, some table⟩ :: inner) r := runs_ask_iff.2 ⟨some table, inner, rfl, hrun⟩
  exact runs_bind_iff.2
    ⟨_, [], _, by simp, runs_reported_iff.2 ⟨_, r, rfl, hwhole, rfl⟩, .done _⟩

theorem runs_call_iff {task : Attempt e.Yield} (hload : e.load = Foreign.ensureLoaded)
    (hlate : e.late = false) (htask : e.task = .ok task) (htable : events.Lasting true) :
    e.call.Runs events answer ↔
      ∃ table inner r, events = ⟨.table, some table⟩ :: (inner ++ Foreign.logged e.name r) ∧
        task.run.Runs inner r ∧ answer = e.answer r.toOption := by
  constructor
  · intro h
    rw [call_eq_of_task hload hlate htask] at h
    obtain ⟨first, second, yield, rfl, hfirst, hsecond⟩ := runs_bind_iff.1 h
    obtain ⟨rfl, rfl⟩ := runs_done_iff.1 hsecond
    obtain ⟨whole, r, rfl, hrun, rfl⟩ := runs_reported_iff.1 hfirst
    rw [List.append_nil] at htable
    obtain ⟨table, inner, rfl, hinner⟩ :=
      loaded_runs (Transcript.lasting_append_iff.1 htable).1 hrun
    exact ⟨table, inner, r, by simp, hinner, rfl⟩
  · rintro ⟨table, inner, r, rfl, hinner, rfl⟩
    exact call_runs hload hlate htask table hinner

/-- The same for work that ends with a step of its own. -/
theorem runs_call_map_iff {p : Attempt α} {f : α → e.Yield} (hload : e.load = Foreign.ensureLoaded)
    (hlate : e.late = false) (htask : e.task = .ok (do return f (← p)))
    (htable : events.Lasting true) :
    e.call.Runs events answer ↔
      ∃ table inner r, events = ⟨.table, some table⟩ :: (inner ++ Foreign.logged e.name r) ∧
        p.run.Runs inner r ∧ answer = e.answer (r.toOption.map f) := by
  apply (runs_call_iff hload hlate htask htable).trans
  constructor
  · rintro ⟨table, inner, _, rfl, hrun, rfl⟩
    obtain ⟨r, hp, rfl⟩ := runs_map_iff.1 hrun
    exact ⟨table, inner, r, by rw [logged_map], hp, by rw [toOption_map]⟩
  · rintro ⟨table, inner, r, rfl, hp, rfl⟩
    exact ⟨table, inner, r.map f, by rw [logged_map], runs_map_iff.2 ⟨r, hp, rfl⟩,
      by rw [toOption_map]⟩

theorem borrowed_of_ofString? {s : String} {name : CText} (h : CText.ofString? s = some name) :
    Foreign.borrowed (some name) = .ok s := by
  simp [Foreign.borrowed, CText.decode_of_ofString? h]

theorem onBorrowed_some {handle : Handle} {s : String} {name : CText}
    (h : CText.ofString? s = some name) (f : Object → String → Attempt α) :
    Foreign.onBorrowed (some handle) (some name) f = .ok (f ⟨handle⟩ s) := by
  unfold Foreign.onBorrowed
  rw [borrowed_of_ofString? h]
  rfl

end Export

/-! ## Readers -/

/-- What a host and the program read in the same way. -/
inductive Reader where
  | bool
  | int
  | uint64
  | double
  | blob
  | image
  deriving DecidableEq, Repr

namespace Reader

/-- What the program gets. -/
abbrev Answer : Reader → Type
  | bool => Bool
  | int => Int32
  | uint64 => UInt64
  | double => Double
  | blob => Option Blob
  | image => Option Image

/-- What is stored for the host. -/
abbrev Stored : Reader → Type
  | bool | int => Int32
  | uint64 => UInt64
  | double => Double
  | blob | image => Option Handle

/-- The reader of the program. -/
def read (object : Object) (name : String) : (reader : Reader) → Attempt reader.Answer
  | bool => Property.getBool object name
  | int => Property.getInt object name
  | uint64 => Property.getUInt64 object name
  | double => Property.getDouble object name
  | blob => Property.getBlob object name
  | image => Property.getImage object name

/-- The entry point of the host. -/
def entry (operation : Option Handle) (name : Option CText) (place : Foreign.Place) :
    (reader : Reader) → Program (Option reader.Stored)
  | bool => Foreign.getBool operation name place
  | int => Foreign.getInt operation name place
  | uint64 => Foreign.getUInt64 operation name place
  | double => Foreign.getDouble operation name place
  | blob => Foreign.getBlob operation name place
  | image => Foreign.getImage operation name place

/-- The name of the entry point. -/
def entryName : Reader → String
  | bool => "vo_get_bool"
  | int => "vo_get_int"
  | uint64 => "vo_get_guint64"
  | double => "vo_get_double"
  | blob => "vo_get_blob"
  | image => "vo_get_image"

/-- How an answer is stored: a truth value as 0 or 1, an owned reference as its pointer, and null
if there is none. -/
def stored : (reader : Reader) → reader.Answer → reader.Stored
  | bool => fun b => if b then 1 else 0
  | int => id
  | uint64 => id
  | double => id
  | blob => Option.map Blob.handle
  | image => Option.map fun image => image.object.handle

variable {handle : Handle} {s : String} {name : CText} {events : Transcript}

/-- The entry point does what the reader does, and stores its answer. -/
theorem runs_iff (hname : CText.ofString? s = some name) (reader : Reader)
    {stored : Option reader.Stored} (htable : events.Lasting true) :
    (reader.entry (some handle) (some name) .writable).Runs events stored ↔
      ∃ table inner r,
        events = ⟨.table, some table⟩ :: (inner ++ Foreign.logged reader.entryName r) ∧
        (reader.read ⟨handle⟩ s).run.Runs inner r ∧ stored = r.toOption.map reader.stored := by
  have hplain {e : Export} {answer : e.Answer} {p : Attempt e.Yield}
      (hload : e.load = Foreign.ensureLoaded) (hlate : e.late = false) (htask : e.task = .ok p) :
      e.call.Runs events answer ↔
        ∃ table inner r, events = ⟨.table, some table⟩ :: (inner ++ Foreign.logged e.name r) ∧
          p.run.Runs inner r ∧ answer = e.answer (r.toOption.map id) := by
    simpa using Export.runs_call_iff hload hlate htask htable
  cases reader with
  | bool =>
    exact Export.runs_call_map_iff (e := .getPlain .bool (some handle) (some name) .writable)
      rfl rfl (Export.onBorrowed_some hname fun object name => do
        return bool.stored (← Property.getBool object name)) htable
  | int =>
    exact hplain (e := .getPlain .int (some handle) (some name) .writable)
      rfl rfl (Export.onBorrowed_some hname _)
  | uint64 =>
    exact hplain (e := .getPlain .uint64 (some handle) (some name) .writable)
      rfl rfl (Export.onBorrowed_some hname _)
  | double =>
    exact hplain (e := .getPlain .double (some handle) (some name) .writable)
      rfl rfl (Export.onBorrowed_some hname _)
  | blob =>
    exact Export.runs_call_map_iff (e := .getHanding .blob (some handle) (some name) .writable)
      rfl rfl (Export.onBorrowed_some hname fun object name => do
        return blob.stored (← Property.getBlob object name)) htable
  | image =>
    exact Export.runs_call_map_iff (e := .getHanding .image (some handle) (some name) .writable)
      rfl rfl (Export.onBorrowed_some hname fun object name => do
        return image.stored (← Property.getImage object name)) htable

end Reader

/-! ## Texts -/

/-- What the program does where a host gets a copy of a text: a look at the type, which is answered
with the number, and a look at the text. -/
def Event.plainly (answer : Int32) : Event → Transcript
  | ⟨.call (.cellGet c .stringCopy), text⟩ =>
    [⟨.call (.isA c.type .string), answer⟩, ⟨.call (.cellGet c .string), text⟩]
  | e => [e]

namespace Transcript

/-- A transcript with a look at the text in place of each copy of it. -/
def plainly (answer : Int32) (events : Transcript) : Transcript :=
  events.flatMap (Event.plainly answer)

variable {answer : Int32}

theorem plainly_append (first second : Transcript) :
    (first ++ second).plainly answer = first.plainly answer ++ second.plainly answer :=
  List.flatMap_append

end Transcript

/-- A request that makes no copy of a text. -/
def Request.Copyless : Request → Prop
  | .call (.cellGet _ .stringCopy) => False
  | _ => True

namespace Request

theorem copyless_of_taking {object : Handle} (q : Request) (h : q.Taking object) :
    q.Copyless := by
  unfold Copyless
  split
  · exact h
  · trivial

theorem copyless_of_inquiry (q : Request) (h : q.Inquiry) : q.Copyless := by
  unfold Copyless
  split
  · exact h
  · trivial

end Request

theorem Transcript.plainly_of_runs {α : Type} {p : Program α} {events : Transcript} {a : α}
    {answer : Int32} (hp : p.Asks Request.Copyless) (h : p.Runs events a) :
    events.plainly answer = events := by
  have hevents := hp.of_runs h
  clear h
  induction events with
  | nil => rfl
  | cons e events ih =>
    have hself : e.plainly answer = [e] := by
      have he : e.request.Copyless := hevents e (List.mem_cons_self ..)
      unfold Event.plainly
      split
      · exact he.elim
      · rfl
    show e.plainly answer ++ Transcript.plainly answer events = _
    rw [hself, ih fun e he => hevents e (List.mem_cons_of_mem _ he)]
    rfl

namespace Property

variable {object : Object} {s : String} {events : Transcript}

theorem get_copyless (type : TypeId) : (get object s type).run.Asks Request.Copyless :=
  get_asks Request.copyless_of_taking s type

theorem release_copyless (v : Value) : v.release.Asks Request.Copyless :=
  valueRelease_asks Request.copyless_of_inquiry trivial

/-- If the library initialises its cells, a property is read into a cell of the type. -/
theorem type_of_get {type : TypeId} {v : Value} (h : (get object s type).run.Runs events (.ok v))
    (hinits : events.Initialising) : v.type = type := by
  rcases runs_try_iff.1 h with ⟨_, -, ⟨⟩⟩ | ⟨_, _, _, rfl, -, h⟩
  rcases runs_try_iff.1 h with ⟨_, -, ⟨⟩⟩ | ⟨_, _, text, rfl, -, h⟩
  rcases runs_try_iff.1 h with ⟨_, -, ⟨⟩⟩ | ⟨_, _, found, rfl, -, h⟩
  rcases runs_try_iff.1 h with ⟨_, -, ⟨⟩⟩ | ⟨_, _, _, rfl, -, h⟩
  rcases runs_try_iff.1 h with ⟨_, -, ⟨⟩⟩ | ⟨making, _, w, rfl, hnew, h⟩
  obtain ⟨_, _, _, rfl, -, h⟩ := runs_then_iff.1 h
  obtain ⟨rfl, hv⟩ := runs_done_iff.1 h
  cases hv
  rcases runs_try_iff.1 hnew with ⟨_, -, ⟨⟩⟩ | ⟨_, _, _, rfl, -, hmake⟩
  obtain ⟨_, hw, hmake⟩ := runs_lift_iff.1 hmake
  cases hw
  obtain ⟨number, rest, rfl, hrest⟩ := runs_ask_iff.1 hmake
  have hnumber : number.isSome := hinits type number (by simp)
  cases number with
  | none => cases hnumber
  | some number =>
    obtain ⟨rfl, rfl⟩ := runs_done_iff.1 hrest
    rfl

theorem expect_runs {v : Value} {type : TypeId} {answer : Int32} (h : answer ≠ 0) :
    (v.expect type).run.Runs [⟨.call (.isA v.type type), answer⟩] (.ok ()) := by
  refine runs_then_iff.2
    ⟨[⟨.call (.isA v.type type), answer⟩], [], answer, rfl, .ask _ (.done _), ?_⟩
  rw [if_neg (by simpa using h)]
  exact .done _

theorem asked_of_expect {v : Value} {type : TypeId} {r : Except Failure Unit}
    (h : (v.expect type).run.Runs events r) :
    ∃ answer, ⟨.call (.isA v.type type), answer⟩ ∈ events ∧
      (answer ≠ 0 → events = [⟨.call (.isA v.type type), answer⟩] ∧ r = .ok ()) := by
  obtain ⟨_, rest, answer, rfl, hasked, hrest⟩ := runs_then_iff.1 h
  obtain rfl := runs_request_iff.1 hasked
  refine ⟨answer, by simp, fun hanswer => ?_⟩
  rw [if_neg (by simpa using hanswer)] at hrest
  obtain ⟨rfl, rfl⟩ := runs_done_iff.1 hrest
  exact ⟨rfl, rfl⟩

/-- Where a host gets a copy, the program reads the text. -/
theorem getString_runs {r : Except Failure (Option CText)} {answer : Int32}
    (h : (copyText object s).run.Runs events r) (hanswer : answer ≠ 0) :
    (getString object s).run.Runs (events.plainly answer) (r.map (Option.map CText.lossy)) := by
  rcases runs_try_iff.1 h with ⟨f, hget, rfl⟩ | ⟨first, rest, v, rfl, hget, hrest⟩
  · rw [Transcript.plainly_of_runs (get_copyless _) hget]
    exact runs_try_iff.2 (.inl ⟨f, hget, rfl⟩)
  obtain ⟨looking, closing, rfl, hlooking, hclosing⟩ := runs_closedBy_iff.1 hrest
  simp only [Transcript.plainly_append]
  rw [Transcript.plainly_of_runs (get_copyless _) hget,
    Transcript.plainly_of_runs (release_copyless v) hclosing]
  refine runs_try_iff.2 (.inr ⟨first, _, v, rfl, hget,
    runs_closedBy_iff.2 ⟨_, closing, rfl, ?_, hclosing⟩⟩)
  rcases runs_try_iff.1 hlooking with ⟨f, htable, rfl⟩ | ⟨table, copy, _, rfl, htable, hcopy⟩
  · rw [Transcript.plainly_of_runs (requireTable_asks Request.copyless_of_inquiry) htable]
    exact runs_try_iff.2 (.inl ⟨f, htable, rfl⟩)
  · obtain ⟨text, rfl, hasked⟩ := runs_lift_iff.1 hcopy
    obtain rfl := runs_request_iff.1 hasked
    rw [Transcript.plainly_append,
      Transcript.plainly_of_runs (requireTable_asks Request.copyless_of_inquiry) htable]
    refine runs_try_iff.2 (.inr ⟨table, _, (), rfl, htable, runs_map_iff.2 ⟨.ok text, ?_, rfl⟩⟩)
    exact runs_try_iff.2 (.inr ⟨[⟨.call (.isA v.type .string), answer⟩],
      [⟨.call (.cellGet v.cell .string), text⟩], (), rfl, expect_runs hanswer, .ask _ (.done _)⟩)

/-- Where the program reads a text, a host gets a copy. -/
theorem copyText_runs {r : Except Failure (Option String)}
    (h : (getString object s).run.Runs events r) (hself : events.Reflexive)
    (hinits : events.Initialising) :
    ∃ answer inner copied, answer ≠ 0 ∧ events = Transcript.plainly answer inner ∧
      r = copied.map (Option.map CText.lossy) ∧ (copyText object s).run.Runs inner copied := by
  rcases runs_try_iff.1 h with ⟨f, hget, rfl⟩ | ⟨first, rest, v, rfl, hget, hrest⟩
  · refine ⟨1, events, .error f, by decide, ?_, rfl, runs_try_iff.2 (.inl ⟨f, hget, rfl⟩)⟩
    exact (Transcript.plainly_of_runs (get_copyless _) hget).symm
  obtain ⟨looking, closing, rfl, hlooking, hclosing⟩ := runs_closedBy_iff.1 hrest
  have htype : v.type = .string := type_of_get hget fun type number he =>
    hinits type number (List.mem_append_left _ he)
  have hwhole (answer : Int32) (copying : Transcript) (copied : Except Failure (Option CText))
      (hanswer : answer ≠ 0) (hlook : looking = Transcript.plainly answer copying)
      (hr : r = copied.map (Option.map CText.lossy))
      (hcopy : (do requireTable; native (.cellGet v.cell .stringCopy) : Attempt _).run.Runs
        copying copied) :
      ∃ answer inner copied, answer ≠ 0 ∧
        first ++ (looking ++ closing) = Transcript.plainly answer inner ∧
          r = copied.map (Option.map CText.lossy) ∧ (copyText object s).run.Runs inner copied := by
    refine ⟨answer, first ++ (copying ++ closing), copied, hanswer, ?_, hr, runs_try_iff.2
      (.inr ⟨first, _, v, rfl, hget, runs_closedBy_iff.2 ⟨copying, closing, rfl, hcopy, hclosing⟩⟩)⟩
    simp only [Transcript.plainly_append]
    rw [Transcript.plainly_of_runs (get_copyless _) hget,
      Transcript.plainly_of_runs (release_copyless v) hclosing, hlook]
  rcases runs_try_iff.1 hlooking with ⟨f, htable, rfl⟩ | ⟨table, reading, _, rfl, htable, hread⟩
  · refine hwhole 1 looking (.error f) (by decide) ?_ rfl (runs_try_iff.2 (.inl ⟨f, htable, rfl⟩))
    exact (Transcript.plainly_of_runs (requireTable_asks Request.copyless_of_inquiry) htable).symm
  obtain ⟨text, hreadAs, hr⟩ := runs_map_iff.1 hread
  have hstring (answer : Int32)
      (hasked : ⟨.call (.isA v.type .string), answer⟩ ∈ reading) : answer ≠ 0 := by
    rw [htype] at hasked
    exact hself .string answer (by simp [hasked])
  rcases runs_try_iff.1 hreadAs with ⟨f, hexpect, -⟩ | ⟨checking, asking, _, rfl, hexpect, hasking⟩
  · obtain ⟨answer, hasked, hanswer⟩ := asked_of_expect hexpect
    cases (hanswer (hstring answer hasked)).2
  · obtain ⟨answer, hasked, hanswer⟩ := asked_of_expect hexpect
    have hother := hstring answer (List.mem_append_left _ hasked)
    obtain ⟨rfl, -⟩ := hanswer hother
    obtain ⟨copied, rfl, hcopied⟩ := runs_lift_iff.1 hasking
    obtain rfl := runs_request_iff.1 hcopied
    refine hwhole answer (table ++ [⟨.call (.cellGet v.cell .stringCopy), copied⟩]) (.ok copied)
      hother ?_ hr (runs_try_iff.2 (.inr ⟨table, _, (), rfl, htable,
        runs_lift_iff.2 ⟨copied, rfl, runs_request_iff.2 rfl⟩⟩))
    rw [Transcript.plainly_append,
      Transcript.plainly_of_runs (requireTable_asks Request.copyless_of_inquiry) htable]
    rfl

end Property

section

variable {handle : Handle} {s : String} {name : CText} {events : Transcript}

/-- What a host is told of a text is what came of the copy. -/
theorem getString_runs_iff {stored : Option (Option CText)} (hname : CText.ofString? s = some name)
    (htable : events.Lasting true) :
    (Foreign.getString (some handle) (some name) .writable).Runs events stored ↔
      ∃ table inner r,
        events = ⟨.table, some table⟩ :: (inner ++ Foreign.logged "vo_get_string" r) ∧
        (Property.copyText ⟨handle⟩ s).run.Runs inner r ∧ stored = r.toOption :=
  Export.runs_call_iff (e := .getHanding .text (some handle) (some name) .writable) rfl rfl
    (Export.onBorrowed_some hname Property.copyText) htable

theorem getString_call_runs {r : Except Failure (Option CText)}
    (hname : CText.ofString? s = some name) (table : Table)
    (h : (Property.copyText ⟨handle⟩ s).run.Runs events r) :
    (Foreign.getString (some handle) (some name) .writable).Runs
      (⟨.table, some table⟩ :: (events ++ Foreign.logged "vo_get_string" r)) r.toOption :=
  Export.call_runs (e := .getHanding .text (some handle) (some name) .writable) rfl rfl
    (Export.onBorrowed_some hname Property.copyText) table h

end

end ImageGateway
