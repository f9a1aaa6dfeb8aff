-- Refusals: the library says that a type is not of the kind that is needed, or
-- cannot be turned into another. On a published table an attempt ends with that,
-- as a mismatch of types, and nothing is touched any more.

import ImageGateway.Foreign.Fetch
import ImageGateway.Foreign.Fill
import ImageGateway.Foreign.TileCache
import ImageGateway.Proofs.Conduct.Basic
import ImageGateway.Proofs.Tally

namespace ImageGateway

/-- A request about the type of something that is about to be touched. -/
def Request.Checks : Request → Prop
  | .call (.isA _ _) | .call (.transformable _ _) => True
  | _ => False

/-- A request that touches a cell, a property or an image. -/
def Request.Touches : Request → Prop
  | .call (.cellSet _ _) | .call (.cellGet _ _) | .call (.makeSlots _ _) | .call (.slots _) => True
  | .call (.getProperty _ _ _) | .call (.setProperty _ _ _) | .call (.extent _ _) => True
  | _ => False

/-- Whether the reply says no to a check. -/
def Request.refuses : (q : Request) → q.Reply → Bool
  | .call (.isA _ _), answer => answer == 0
  | .call (.transformable _ _), answer => answer == 0
  | _, _ => false

/-- A check that the library said no to. -/
def Event.Refuses (e : Event) : Prop := e.request.refuses e.reply = true

theorem Request.refuses_of_not_checks {q : Request} (h : ¬ q.Checks) (r : q.Reply) :
    q.refuses r = false := by
  unfold refuses
  split
  · exact absurd trivial h
  · exact absurd trivial h
  · rfl

namespace Transcript

/-- Whether some check was refused. -/
def Refused (events : Transcript) : Prop := ∃ e ∈ events, e.Refuses

/-- Nothing is touched after a check that was refused. -/
def Halting (events : Transcript) : Prop :=
  ∀ first e rest, events = first ++ e :: rest → e.Refuses → ∀ e' ∈ rest, ¬ e'.request.Touches

theorem refused_append {first second : Transcript} :
    Refused (first ++ second) ↔ Refused first ∨ Refused second := by
  simp [Refused, or_and_right, exists_or]

end Transcript

/-- The failure of a value or an object of another type than the wanted one. -/
def Failure.IsMismatch (failure : Failure) : Prop :=
  ∃ expected found, failure = .typeMismatch expected found

/-- Notes on a published table whether a check was refused. Nothing may be touched after that. -/
def refusalWatch : Watch Bool where
  allows refused q := refused = true → ¬ q.Touches
  admits _ q r := q = .table → Resource.tableSeen q r = true
  next refused q r := refused || q.refuses r

namespace Refusals

open Program

variable {α β : Type}

/-! ## What runs show -/

theorem admits_of_lasting {refused : Bool} {events : Transcript} (htable : events.Lasting true) :
    refusalWatch.Admits refused events := by
  induction events generalizing refused with
  | nil => trivial
  | cons e events ih =>
    exact ⟨fun hq => htable.1 hq rfl, ih (by simpa using htable.2)⟩

theorem after_of_refused (events : Transcript) : refusalWatch.after true events = true := by
  induction events with
  | nil => rfl
  | cons e events ih => exact ih

theorem untouched_of_allows {events : Transcript} (h : refusalWatch.Allows true events) :
    ∀ e ∈ events, ¬ e.request.Touches := by
  induction events with
  | nil => simp
  | cons e events ih => exact List.forall_mem_cons.2 ⟨h.1 rfl, ih h.2⟩

/-- After a refusal the note says so, and nothing was touched any more. -/
theorem after_split {refused : Bool} {first rest : Transcript} {e : Event} (he : e.Refuses)
    (hallows : refusalWatch.Allows refused (first ++ e :: rest)) :
    refusalWatch.after refused (first ++ e :: rest) = true ∧
      ∀ e' ∈ rest, ¬ e'.request.Touches := by
  have hnext (m : Bool) : refusalWatch.next m e.request e.reply = true := by
    have he : e.request.refuses e.reply = true := he
    simp [refusalWatch, he]
  obtain ⟨-, -, hrest⟩ := (Watch.allows_append _ _ _).1 hallows
  rw [hnext] at hrest
  refine ⟨?_, untouched_of_allows hrest⟩
  rw [Watch.after_append, Watch.after, hnext]
  exact after_of_refused rest

/-- After a run the note tells whether a check was refused, and nothing was touched after that. -/
theorem halting_of_allows {events : Transcript} (hallows : refusalWatch.Allows false events) :
    events.Halting ∧ (events.Refused → refusalWatch.after false events = true) := by
  refine ⟨fun first e rest hsplit he => ?_, fun hrefused => ?_⟩
  · rw [hsplit] at hallows
    exact (after_split he hallows).2
  · obtain ⟨e, he, hno⟩ := hrefused
    obtain ⟨first, rest, rfl⟩ := List.append_of_mem he
    exact (after_split hno hallows).1

/-! ## Programs -/

/-- A program that checks nothing and touches nothing. -/
def Quiet (p : Program α) : Prop :=
  ∀ refused, refusalWatch.Ensures refused p fun _ after => after = refused

/-- A program that checks nothing. It has to start before any refusal. -/
def Calm (p : Program α) : Prop := refusalWatch.Ensures false p fun _ after => after = false

/-- An attempt that checks nothing, touches nothing, and cannot fail on a published table. -/
def Sure (p : Attempt α) : Prop :=
  ∀ refused, refusalWatch.Tries refused p (fun _ after => after = refused) fun _ _ => False

/-- An attempt that ends with the mismatch as soon as a check is refused. -/
def Stops (p : Attempt α) : Prop :=
  refusalWatch.Tries false p (fun _ after => after = false) fun failure after =>
    after = true → failure.IsMismatch

section

variable {p : Program α}

theorem quiet_done (a : α) : Quiet (done a) := fun _ => rfl

theorem Quiet.bind {f : α → Program β} (h : Quiet p) (hf : ∀ a, Quiet (f a)) :
    Quiet (p >>= f) := fun m => (h m).bind fun a _ hm => hm ▸ hf a m

theorem quiet_request {q : Request} (hchecks : ¬ q.Checks) (htouches : ¬ q.Touches) :
    Quiet (request q) := by
  refine fun m => ⟨fun _ => htouches, fun r _ => ?_⟩
  simp [refusalWatch, q.refuses_of_not_checks hchecks]

theorem Quiet.calm (h : Quiet p) : Calm p := h false

theorem Calm.not_refused (h : Calm p) {events : Transcript} {a : α} (hrun : p.Runs events a)
    (htable : events.Lasting true) : ¬ events.Refused := by
  obtain ⟨hallows, hafter⟩ := Watch.Ensures.of_runs h hrun (admits_of_lasting htable)
  intro hrefused
  exact absurd ((halting_of_allows hallows).2 hrefused) (by simp [hafter])

theorem calm_done (a : α) : Calm (done a) := rfl

theorem Calm.bind {f : α → Program β} (h : Calm p) (hf : ∀ a, Calm (f a)) : Calm (p >>= f) := by
  refine Watch.Ensures.bind h ?_
  rintro a _ rfl
  exact hf a

theorem calm_request {q : Request} (hchecks : ¬ q.Checks) : Calm (request q) := by
  refine ⟨nofun, fun r _ => ?_⟩
  simp [refusalWatch, q.refuses_of_not_checks hchecks]

theorem quiet_ifLoaded {p : Program Unit} (h : Quiet p) : Quiet (ifLoaded p) := by
  refine (quiet_request (q := .table) id id).bind fun table => ?_
  cases table with
  | none => exact quiet_done ()
  | some table => exact h

end

/-! ## Attempts -/

section

variable {p : Attempt α}

theorem stops_pure (a : α) : Stops (pure a) := rfl

theorem stops_throw (failure : Failure) : Stops (throw failure : Attempt α) := nofun

theorem Stops.try {f : α → Attempt β} (h : Stops p) (hf : ∀ a, Stops (f a)) :
    Stops (p >>= f) := by
  refine Watch.Tries.bind h ?_
  rintro a _ rfl
  exact hf a

theorem Stops.map {f : α → β} (h : Stops p) : Stops (do return f (← p)) :=
  h.try fun a => stops_pure (f a)

theorem Calm.lift {p : Program α} (h : Calm p) : Stops (liftM p) := Watch.tries_lift.2 h

theorem Calm.then {p : Program α} {f : α → Attempt β} (h : Calm p) (hf : ∀ a, Stops (f a)) :
    Stops (liftM p >>= f) := h.lift.try hf

theorem stops_native (call : Call) (h : ¬ (Request.call call).Checks) :
    Stops (native call) := (calm_request h).lift

/-- A call that is no check, and what comes after its reply. -/
theorem stops_call (call : Call) {f : call.Reply → Attempt α} (h : ¬ (Request.call call).Checks)
    (hf : ∀ r, Stops (f r)) : Stops (liftM (native call) >>= f) := (calm_request h).then hf

theorem Stops.closedBy {q : Program Unit} (h : Stops p) (hq : Quiet q) : Stops (p.closedBy q) :=
  Watch.tries_closedBy.2 (h.mono (fun _ m hm => (hq m).mono fun _ _ hm' => hm'.trans hm)
    fun _ m hm => (hq m).mono fun _ _ hm' h => hm (hm' ▸ h))

/-- An attempt whose failure is passed on after a clean-up. -/
theorem Stops.orElse {q : Program Unit} {f : Except Failure α → Attempt β} (h : Stops p)
    (hq : Quiet q) (hok : ∀ a, Stops (f (.ok a)))
    (hfailed : ∀ failure, f (.error failure) = do liftM q; throw failure) :
    Stops (p.result >>= f) := by
  refine Watch.Tries.result h ?_ ?_
  · rintro a _ rfl
    exact hok a
  · intro failure m hm
    rw [hfailed]
    exact (hq m).then fun _ _ hm' hrefused => hm (hm' ▸ hrefused)

theorem Sure.try {f : α → Attempt β} (h : Sure p) (hf : ∀ a, Sure (f a)) : Sure (p >>= f) :=
  fun m => Watch.Tries.bind (h m) fun a _ hm => hm ▸ hf a m

theorem sure_pure (a : α) : Sure (pure a) := fun _ => rfl

theorem Quiet.sure {p : Program α} (h : Quiet p) : Sure (liftM p) :=
  fun m => Watch.tries_lift.2 (h m)

theorem Sure.quiet (h : Sure p) : Quiet p.run := by
  intro m
  apply Watch.Ensures.mono (h m)
  intro answer m' hm
  cases answer with
  | error failure => exact hm.elim
  | ok a => exact hm

theorem Sure.stops (h : Sure p) : Stops p := (h false).mono (fun _ _ hm => hm) fun _ _ hm => hm.elim

end

/-! ## Questions -/

theorem requireTable_sure : Sure requireTable := by
  refine fun m => ⟨fun _ => id, fun table htable => ?_⟩
  cases table with
  | none => cases htable rfl
  | some table => exact Bool.or_false m

theorem nativeText_stops (s : String) : Stops (nativeText s) := by
  unfold nativeText
  split
  · exact stops_pure _
  · exact stops_throw _

theorem takeError_quiet : Quiet takeError :=
  (quiet_request (q := .call .errorBuffer) id id).bind fun _ =>
    (quiet_request (q := .call (.act .errorClear)) id id).bind fun _ => quiet_done _

theorem typeName_sure (type : TypeId) : Sure (typeName type) :=
  requireTable_sure.try fun _ =>
    (quiet_request (q := .call (.typeName type)) id id).sure.try fun _ => sure_pure _

/-- A mismatch is the failure, whatever was refused before. -/
theorem mismatch_tries (expected found : TypeId) {ok : α → Bool → Prop} (refused : Bool) :
    refusalWatch.Tries refused (mismatch expected found) ok fun failure _ => failure.IsMismatch :=
  Watch.Tries.bind ((typeName_sure expected refused).mono (fun _ _ hm => hm) fun _ _ hm => hm.elim)
    fun _ m _ => Watch.Tries.bind ((typeName_sure found m).mono (fun _ _ hm => hm)
      fun _ _ hm => hm.elim) fun _ _ _ => ⟨_, _, rfl⟩

theorem objectTypeName_sure (object : Object) : Sure object.typeName :=
  (quiet_request (q := .instanceType object.handle) id id).sure.try fun type => typeName_sure type

theorem describe_quiet (object : Object) : Quiet object.describe := by
  have hnickname : Sure object.nickname :=
    requireTable_sure.try fun _ =>
      (quiet_request (q := .instanceType object.handle) id id).sure.try fun type =>
        (quiet_request (q := .call (.nicknameFind type)) id id).sure.try fun _ => sure_pure _
  refine hnickname.quiet.bind ?_
  rintro (_ | _ | _)
  · refine (objectTypeName_sure object).quiet.bind fun name => ?_
    cases name <;> exact quiet_done _
  · refine (objectTypeName_sure object).quiet.bind fun name => ?_
    cases name <;> exact quiet_done _
  · exact quiet_done _

theorem lookup_stops (object : Object) (name : CText) : Stops (Property.lookup object name) := by
  have hunknown : Stops (Property.lookup.unknown object name) :=
    (describe_quiet object).calm.then fun _ => takeError_quiet.calm.then fun _ => stops_throw _
  refine stops_call (.getArgument object.handle name) id fun found => ?_
  split
  · split
    · exact stops_pure _
    · exact hunknown
  · exact hunknown

theorem isEnumType_calm (type : TypeId) : Calm (Property.isEnumType type) :=
  (calm_request (q := .call (.fundamental type)) id).bind fun _ => calm_done _

theorem argument_stops (object : Object) (name : String) :
    Stops (Property.argument object name) :=
  requireTable_sure.stops.try fun _ => (nativeText_stops name).try fun text =>
    (lookup_stops object text).try fun _ => (typeName_sure _).stops.try fun _ =>
      (isEnumType_calm _).then fun _ => stops_pure _

/-! ## Releases -/

theorem releaseObject_quiet (object : Object) : Quiet object.release :=
  quiet_ifLoaded (quiet_request id id)

theorem releaseBlob_quiet (blob : Blob) : Quiet blob.release :=
  quiet_ifLoaded (quiet_request id id)

theorem releaseValue_quiet (v : Value) : Quiet v.release := by
  unfold Value.release
  split
  · exact quiet_done ()
  · exact quiet_ifLoaded (quiet_request id id)

/-! ## Checks -/

/-- A check that leads to the mismatch if it is refused. -/
theorem stops_check (call : Call) {f : call.Reply → Attempt α}
    (hno : ∀ r, (Request.call call).refuses r = true →
      ∃ expected found, f r = mismatch expected found)
    (hyes : ∀ r, (Request.call call).refuses r = false → Stops (f r)) :
    Stops (liftM (native call) >>= f) := by
  refine Watch.tries_bind.2 (Watch.tries_lift.2 ⟨nofun, fun r _ => ?_⟩)
  have hnext : refusalWatch.next false (.call call) r = (Request.call call).refuses r :=
    Bool.false_or _
  show refusalWatch.Tries (refusalWatch.next false (.call call) r) (f r) _ _
  rw [hnext]
  rcases hr : (Request.call call).refuses r with _ | _
  · exact hyes r hr
  · obtain ⟨expected, found, hf⟩ := hno r hr
    rw [hf]
    exact (mismatch_tries expected found true).mono (fun _ _ h => h)
      fun _ _ hmismatch _ => hmismatch

theorem expect_stops (v : Value) (type : TypeId) : Stops (v.expect type) := by
  refine stops_check (.isA v.type type) (fun answer hno => ?_) fun answer hyes => ?_
  · have hno : (answer == 0) = true := hno
    exact ⟨type, v.type, by simp [hno]⟩
  · have hyes : (answer == 0) = false := hyes
    simpa [hyes] using stops_pure ()

theorem checkTransformable_stops (source target : TypeId) :
    Stops (Property.checkTransformable source target) := by
  refine stops_check (.transformable source target) (fun answer hno => ?_)
    fun answer hyes => ?_
  · have hno : (answer == 0) = true := hno
    exact ⟨target, source, by simp [hno]⟩
  · have hyes : (answer == 0) = false := hyes
    simpa [hyes] using stops_pure ()

theorem isA_tries (object : Object) (type : TypeId) :
    refusalWatch.Tries false (object.isA type) (fun isA after => after = !isA)
      fun _ _ => False := by
  refine Watch.Tries.bind (requireTable_sure false) ?_
  rintro _ _ rfl
  refine (quiet_request (q := .instanceType object.handle) id id false).then ?_
  rintro own _ rfl
  refine ⟨nofun, fun answer _ => ?_⟩
  show (false || answer == 0) = !(answer != 0)
  simp [bne]

/-! ## Values -/

theorem make_calm (type : TypeId) : Calm (Value.make type) := by
  refine (calm_request (q := .call (.cellInit type)) id).bind fun number => ?_
  cases number <;> exact calm_done _

theorem filled_calm (type : TypeId) (payload : Payload) : Calm (Value.filled type payload) :=
  (make_calm type).bind fun v =>
    (calm_request (q := .call (.cellSet v.cell payload)) id).bind fun _ => calm_done _

theorem readAs_stops (v : Value) (type : TypeId) (accessor : Accessor) :
    Stops (v.readAs type accessor) :=
  (expect_stops v type).try fun _ => stops_native _ id

/-! ## Readers -/

theorem getBool_stops (v : Value) : Stops v.getBool :=
  requireTable_sure.stops.try fun _ => (readAs_stops v .boolean .boolean).map

theorem getInt_stops (v : Value) : Stops v.getInt := by
  refine requireTable_sure.stops.try fun _ =>
    stops_call (.fundamental v.type) id fun ancestor => ?_
  split
  · exact stops_native _ id
  · exact readAs_stops v .int .int

theorem getUInt64_stops (v : Value) : Stops v.getUInt64 :=
  requireTable_sure.stops.try fun _ => readAs_stops v .uint64 .uint64

theorem getDouble_stops (v : Value) : Stops v.getDouble :=
  requireTable_sure.stops.try fun _ => readAs_stops v .double .double

theorem getString_stops (v : Value) : Stops v.getString :=
  requireTable_sure.stops.try fun _ => (readAs_stops v .string .string).map

/-- A reader of a type that the library registers. -/
theorem readRegistered_stops {f : α → β} {which : Registered} {read : TypeId → Attempt α}
    (h : ∀ type, Stops (read type)) :
    Stops (do
      requireTable
      let type ← native (.registered which)
      return f (← read type)) :=
  requireTable_sure.stops.try fun _ =>
    stops_call (.registered which) id fun type => (h type).map

theorem getInts_stops (v : Value) : Stops v.getInts :=
  readRegistered_stops fun type => readAs_stops v type .ints

theorem getDoubles_stops (v : Value) : Stops v.getDoubles :=
  readRegistered_stops fun type => readAs_stops v type .doubles

theorem getBlob_stops (v : Value) : Stops v.getBlob :=
  readRegistered_stops fun type => readAs_stops v type .boxedCopy

theorem borrow_stops (handle : Option Handle) : Stops (Object.borrow? handle) := by
  cases handle with
  | none => exact stops_pure _
  | some handle =>
    exact requireTable_sure.stops.try fun _ =>
      stops_call (.ref handle) id fun _ => stops_pure _

theorem getObject_stops (v : Value) : Stops v.getObject :=
  requireTable_sure.stops.try fun _ =>
    (readAs_stops v .object .object).try fun handle => borrow_stops handle

/-- An object that is no image is released, and the mismatch is what comes of it. -/
theorem ofObject_stops (object : Object) : Stops (Image.ofObject object) := by
  refine Stops.orElse ?_ (releaseObject_quiet object) (fun image => stops_pure image)
    fun failure => rfl
  have htype : Stops Image.type :=
    requireTable_sure.stops.try fun _ => stops_native (.registered .image) id
  refine htype.try fun expected => Watch.Tries.bind
    ((isA_tries object expected).mono (fun _ _ h => h) fun _ _ h => h.elim) ?_
  intro isImage m hm
  cases isImage with
  | true =>
    subst hm
    exact stops_pure _
  | false =>
    refine Watch.Tries.bind ((typeName_sure expected m).mono (fun _ _ h => h)
      fun _ _ h => h.elim) fun _ m' _ => Watch.Tries.bind ((objectTypeName_sure object m').mono
        (fun _ _ h => h) fun _ _ h => h.elim) fun _ _ _ _ => ⟨_, _, rfl⟩

theorem getImage_stops (v : Value) : Stops v.getImage := by
  refine requireTable_sure.stops.try fun _ =>
    stops_call (.registered .image) id fun type => (expect_stops v type).try fun _ =>
      (getObject_stops v).try fun object => ?_
  cases object with
  | none => exact stops_pure none
  | some object => exact (ofObject_stops object).map

theorem reading_stops (reading : Reading) (v : Value) : Stops (reading.ofValue v) := by
  cases reading with
  | bool => exact (getBool_stops v).map
  | int => exact (getInt_stops v).map
  | uint64 => exact (getUInt64_stops v).map
  | double => exact (getDouble_stops v).map
  | text => exact (getString_stops v).map
  | ints => exact (getInts_stops v).map
  | doubles => exact (getDoubles_stops v).map
  | blob => exact (getBlob_stops v).map
  | image => exact (getImage_stops v).map

/-! ## Properties -/

theorem get_stops (object : Object) (name : String) (type : TypeId) :
    Stops (Property.get object name type) :=
  requireTable_sure.stops.try fun _ => (nativeText_stops name).try fun text =>
    (lookup_stops object text).try fun _ => (checkTransformable_stops _ _).try fun _ =>
      (requireTable_sure.stops.try fun _ => (make_calm type).lift).try fun v =>
        stops_call (.getProperty object.handle text v.cell) id fun _ => stops_pure _

theorem getValue_stops (object : Object) (name : String) :
    Stops (Property.getValue object name) :=
  (argument_stops object name).try fun info => get_stops object name info.type

theorem getWith_stops {read : Value → Attempt α} (h : ∀ v, Stops (read v)) (object : Object)
    (name : String) (type : TypeId) : Stops (Property.getWith object name type read) :=
  (get_stops object name type).try fun v => (h v).closedBy (releaseValue_quiet v)

theorem getRegistered_stops {read : Value → Attempt α} (h : ∀ v, Stops (read v)) (object : Object)
    (name : String) (which : Registered) :
    Stops (Property.getRegistered object name which read) :=
  requireTable_sure.stops.try fun _ =>
    stops_call (.registered which) id fun type => getWith_stops h object name type

theorem getInteger_stops (object : Object) (name : String) :
    Stops (Property.getInt object name) :=
  (argument_stops object name).try fun _ => getWith_stops getInt_stops object name _

theorem getDoublesInto_stops (object : Object) (name : String) (buffer : List Double) :
    Stops (Property.getDoublesInto object name buffer) :=
  (getRegistered_stops getDoubles_stops object name _).map

theorem copyText_stops (object : Object) (name : String) :
    Stops (Property.copyText object name) :=
  getWith_stops (fun v => requireTable_sure.stops.try fun _ =>
    stops_native (.cellGet v.cell .stringCopy) id) object name .string

theorem readProperty_stops (reading : Reading) (object : Object) (name : String) :
    Stops (reading.ofProperty object name) := by
  cases reading with
  | bool => exact (getWith_stops getBool_stops object name _).map
  | int => exact (getInteger_stops object name).map
  | uint64 => exact (getWith_stops getUInt64_stops object name _).map
  | double => exact (getWith_stops getDouble_stops object name _).map
  | text => exact (getWith_stops getString_stops object name _).map
  | ints => exact (getRegistered_stops getInts_stops object name _).map
  | doubles => exact (getRegistered_stops getDoubles_stops object name _).map
  | blob => exact (getRegistered_stops getBlob_stops object name _).map
  | image => exact (getRegistered_stops getImage_stops object name _).map

/-! ## Assignment -/

theorem ofEnum_stops (type : TypeId) (n : Int32) : Stops (Value.ofEnum type n) :=
  requireTable_sure.stops.try fun _ => (filled_calm type _).lift

theorem substitute_stops (object : Object) (name : String) (type : TypeId) (v : Value) :
    Stops (Property.substitute object name type v) := by
  have hnumber : Stops (Property.numberOfNick object name type v) := by
    refine (calm_request (q := .instanceType object.handle) id).then fun own =>
      stops_call (.nicknameFind own) id fun domain =>
        stops_call (.cellGet v.cell .string) id fun nick =>
          stops_call (.enumFromNick domain type nick) id fun number => ?_
    split
    · exact (getString_stops v).try fun _ => takeError_quiet.calm.then fun _ => stops_throw _
    · exact stops_pure _
  refine (isEnumType_calm type).then fun isEnum => ?_
  split
  · exact hnumber.try fun number => (ofEnum_stops type number).map
  · split
    · exact (getInt_stops v).try fun number => (ofEnum_stops type number).map
    · exact (checkTransformable_stops _ _).try fun _ => stops_pure _

theorem set_stops (object : Object) (name : String) (v : Value) :
    Stops (Property.set object name v) := by
  refine requireTable_sure.stops.try fun _ => (nativeText_stops name).try fun text =>
    (lookup_stops object text).try fun found =>
      (substitute_stops object name found.spec.type v).try fun other => ?_
  cases other with
  | none => exact stops_native _ id
  | some other => exact (stops_native _ id).closedBy (releaseValue_quiet other)

end Refusals

end ImageGateway
