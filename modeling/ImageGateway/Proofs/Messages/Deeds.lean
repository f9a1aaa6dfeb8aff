-- Messages over everything that a program or a host can do: a failure that tells
-- a message of the library has drained the error buffer for it, once and right
-- after the call that failed, and nothing else touches the buffer.

import ImageGateway.Proofs.EntryPoints
import ImageGateway.Proofs.Messages.Operations

namespace ImageGateway

open Attempt Program

/-! ## What a program does -/

/-- Asks. A question has no answer that is owned. -/
def Query.attempt : Query → Attempt (List Holding)
  | typeName type => (ImageGateway.typeName type).nothing
  | imageType => Image.type.nothing
  | objectTypeName object => object.typeName.nothing
  | nickname object => object.nickname.nothing
  | isA object type => (object.isA type).nothing
  | showObject object => (liftM object.shown : Attempt String).nothing
  | extent image which => (image.extent which).nothing
  | bytes blob => (liftM blob.bytes : Attempt (List UInt8)).nothing
  | showBlob blob => (liftM blob.shown : Attempt String).nothing
  | valueTypeName value => value.typeName.nothing
  | holds value type => (value.holds type).nothing
  | showValue value => (liftM value.shown : Attempt String).nothing
  | argument object name => (Property.argument object name).nothing
  | version => Control.versionString.nothing
  | errorBuffer => Control.errorBuffer.nothing
  | act action => (Control.act action).nothing
  | apply setting => (Control.apply setting).nothing
  | read gauge => (Control.read gauge).nothing
  | error domain message => (Control.error domain message).nothing
  | errorSystem code domain message => (Control.errorSystem code domain message).nothing
  | findCodec direction filename => (Control.findCodec direction filename).nothing
  | cacheLimits => CacheLimits.current.nothing
  | applyLimits limits => limits.apply.nothing
  | environment => (liftM Config.fromEnvironment : Attempt Config).nothing
  | libraryRequired => (liftM Config.libraryRequired : Attempt Bool).nothing
  | load paths => (Control.load paths).nothing
  | start config => (Control.start config).nothing

namespace Deed

/-- Does it. The answer is what was made, or why it failed. -/
def attempt : Deed → Attempt (List Holding)
  | drop thing => (liftM thing.release : Attempt Unit).nothing
  | cloneObject object => (liftM object.clone : Attempt Object).holding .object
  | cloneImage image => (liftM image.object.clone : Attempt Object).holding fun o => .image ⟨o⟩
  | cloneOperation operation => (liftM operation.clone : Attempt Operation).holding .operation
  | borrowObject handle => (Object.borrow? handle).holding? .object
  | borrowImage handle => (Image.borrow? handle).holding? .image
  | asImage object => (Image.ofObject object).holding .image
  | asObject image => return [.object image.object]
  | newOperation nickname => (Operation.new nickname).holding .operation
  | setInput operation name argument => (operation.set name argument).nothing
  | build operation => operation.build.holding .operation
  | unrefOutputs operation => operation.unrefOutputs.nothing
  | call nickname options => ExceptT.mk do
    let (result, outputs) ← Operation.call nickname options
    return result.map fun _ => outputs.flatMap Output.holdings
  | tileCache image options => (ImageGateway.tileCache image options).holding .image
  | copyBytes bytes => (Blob.copyOf bytes).holding .blob
  | source blob => blob.source.holding .object
  | memoryTarget => ImageGateway.memoryTarget.holding .object
  | newValue type => (Value.new type).holding .value
  | box argument => argument.toValue.holding .value
  | boxEnum type n => (Value.ofEnum type n).holding .value
  | boxBlob blob => (Value.ofBlob blob).holding .value
  | readValue value reading => reading.ofValue value
  | readObject value => value.getObject.holding? .object
  | readProperty object name reading => reading.ofProperty object name
  | readDoublesInto object name buffer => (Property.getDoublesInto object name buffer).nothing
  | getAs object name type => (Property.get object name type).holding .value
  | getDeclared object name => (Property.getValue object name).holding .value
  | setProperty object name value => (Property.set object name value).nothing
  | look query => query.attempt

/-- The deeds that are about the error buffer itself. -/
def OnErrorBuffer : Deed → Prop
  | look .errorBuffer | look (.act .errorClear) => True
  | _ => False

end Deed

/-! ## Messages of a program -/

section

variable {α : Type} {p : Attempt α}

theorem Attempt.Drains.nothing (h : Drains p) : Drains p.nothing := h.map

theorem Attempt.Drains.holding (f : α → Holding) (h : Drains p) : Drains (p.holding f) := h.map

theorem Attempt.Drains.holding? {p : Attempt (Option α)} (f : α → Holding) (h : Drains p) :
    Drains (p.holding? f) := h.map

theorem calm_of_environment (name : String) : (Request.environment name).Calm := id

theorem query_drains (query : Query) (h : ¬ (Deed.look query).OnErrorBuffer) :
    Drains query.attempt := by
  cases query with
  | typeName type => exact (typeName_drains type).nothing
  | imageType => exact imageType_drains.nothing
  | objectTypeName object => exact (objectTypeName_drains object).nothing
  | nickname object => exact (nickname_drains object).nothing
  | isA object type => exact (isA_drains object type).nothing
  | showObject object =>
    have hshown : object.shown.Asks Request.Calm :=
      (objectTypeName_asks Request.calm_of_inquiry object).bind fun _ => trivial
    exact (drains_lift hshown).nothing
  | extent image which =>
    exact (onTable_drains (asks_of (q := .call (.extent which image.object.handle)) id)).nothing
  | bytes blob => exact (drains_lift (bytes_asks Request.calm_of_steady blob)).nothing
  | showBlob blob =>
    have hshown : blob.shown.Asks Request.Calm :=
      (bytes_asks Request.calm_of_steady blob).bind fun _ => trivial
    exact (drains_lift hshown).nothing
  | valueTypeName value => exact (typeName_drains value.type).nothing
  | holds value type => exact (holds_drains value type).nothing
  | showValue value =>
    have hshown : value.shown.Asks Request.Calm :=
      (typeName_asks Request.calm_of_inquiry value.type).bind fun _ => trivial
    exact (drains_lift hshown).nothing
  | argument object name => exact (argument_drains object name).nothing
  | version => exact versionString_drains.nothing
  | errorBuffer => exact absurd trivial h
  | act action =>
    refine (act_drains ?_).nothing
    rintro rfl
    exact h trivial
  | apply setting => exact (apply_drains setting).nothing
  | read gauge => exact (read_drains gauge).nothing
  | error domain message => exact (error_drains domain message).nothing
  | errorSystem code domain message => exact (errorSystem_drains code domain message).nothing
  | findCodec direction filename => exact (findCodec_drains direction filename).nothing
  | cacheLimits => exact currentLimits_drains.nothing
  | applyLimits limits => exact (applyAll_drains limits.settings).nothing
  | environment =>
    exact (drains_lift (fromEnvironment_asks calm_of_environment fun _ => id)).nothing
  | libraryRequired =>
    have hrequired : Config.libraryRequired.Asks Request.Calm :=
      (setting_asks calm_of_environment _).bind fun _ => trivial
    exact (drains_lift hrequired).nothing
  | load paths => exact (load_drains paths).nothing
  | start config => exact (start_drains config).nothing

theorem readValue_drains (value : Value) (reading : Reading) :
    Drains (reading.ofValue value) := by
  cases reading with
  | bool => exact (getBool_drains value).nothing
  | int => exact (getInt_drains value).nothing
  | uint64 => exact (getUInt64_drains value).nothing
  | double => exact (getDouble_drains value).nothing
  | text => exact (getString_drains value).nothing
  | ints => exact (getInts_drains value).nothing
  | doubles => exact (getDoubles_drains value).nothing
  | blob => exact (getBlob_drains value).holding? .blob
  | image => exact (getImage_drains value).holding? .image

theorem readProperty_drains (object : Object) (name : String) (reading : Reading) :
    Drains (reading.ofProperty object name) := by
  cases reading with
  | bool => exact (getWith_drains getBool_drains _).nothing
  | int => exact getInt_property_drains.nothing
  | uint64 => exact (getWith_drains getUInt64_drains _).nothing
  | double => exact (getWith_drains getDouble_drains _).nothing
  | text => exact (getWith_drains getString_drains _).nothing
  | ints => exact (getRegistered_drains getInts_drains _).nothing
  | doubles => exact (getRegistered_drains getDoubles_drains _).nothing
  | blob => exact (getRegistered_drains getBlob_drains _).holding? .blob
  | image => exact (getRegistered_drains getImage_drains _).holding? .image

theorem release_calm (thing : Holding) : thing.release.Asks Request.Calm := by
  cases thing with
  | object o => exact objectRelease_calm o
  | image i => exact objectRelease_calm i.object
  | operation o => exact objectRelease_calm o.object
  | blob b => exact blobRelease_calm b
  | value v => exact valueRelease_calm v
  | text t => trivial

theorem clone_calm (object : Object) : object.clone.Asks Request.Calm :=
  (ifLoaded_asks Request.calm_of_inquiry (asks_of (q := .call (.ref object.handle)) id)).bind
    fun _ => trivial

theorem deed_drains (deed : Deed) (h : ¬ deed.OnErrorBuffer) : Drains deed.attempt := by
  cases deed with
  | drop thing => exact (drains_lift (release_calm thing)).nothing
  | cloneObject object => exact (drains_lift (clone_calm object)).holding _
  | cloneImage image => exact (drains_lift (clone_calm image.object)).holding _
  | cloneOperation operation =>
    have hclone : operation.clone.Asks Request.Calm :=
      (clone_calm operation.object).bind fun _ => trivial
    exact (drains_lift hclone).holding _
  | borrowObject handle => exact (borrow_drains handle).holding? _
  | borrowImage handle => exact (borrow_drains handle).map.holding? _
  | asImage object => exact (ofObject_drains object).holding _
  | asObject image => exact drains_pure _
  | newOperation nickname => exact (new_operation_drains nickname).holding _
  | setInput operation name argument => exact (setInput_drains operation name argument).nothing
  | build operation => exact (build_drains operation).holding _
  | unrefOutputs operation => exact (unrefOutputs_drains operation).nothing
  | call nickname options =>
    intro events r hrun htable
    obtain ⟨first, second, ⟨result, outputs⟩, rfl, hcall, hdone⟩ := runs_bind_iff.1 hrun
    obtain ⟨rfl, rfl⟩ := runs_done_iff.1 hdone
    rw [List.append_nil] at htable ⊢
    have hcalled := call_drained hcall htable
    cases result <;> exact hcalled
  | tileCache image options => exact (tileCache_drains image options).holding _
  | copyBytes bytes => exact (copyOf_drains bytes).holding _
  | source blob => exact (source_drains blob).holding _
  | memoryTarget => exact memoryTarget_drains.holding _
  | newValue type => exact (new_drains type).holding _
  | box argument => exact (toValue_drains argument).holding _
  | boxEnum type n => exact (ofEnum_drains type n).holding _
  | boxBlob blob => exact (ofBlob_drains blob).holding _
  | readValue value reading => exact readValue_drains value reading
  | readObject value => exact (getObject_drains value).holding? _
  | readProperty object name reading => exact readProperty_drains object name reading
  | readDoublesInto object name buffer =>
    exact (getRegistered_drains getDoubles_drains _).map.nothing
  | getAs object name type => exact (get_drains object name type).holding _
  | getDeclared object name => exact (getValue_drains object name).holding _
  | setProperty object name value => exact (set_drains object name value).nothing
  | look query => exact query_drains query h

end

/-! ## Messages of a host -/

namespace Export

theorem ensureLoaded_drains : Drains Foreign.ensureLoaded := by
  refine drains_then (asks_of (q := .table) id) fun found => ?_
  cases found with
  | some table => exact drains_pure ()
  | none =>
    exact drains_then (pathsFromEnvironment_asks calm_of_environment) fun paths =>
      (load_drains paths).try fun _ => drains_pure ()

theorem load_step_drains (e : Export) : Drains e.load := by
  cases e <;> first | exact drains_pure () | exact ensureLoaded_drains

theorem releaseAll_calm (images : List Image) : (Foreign.releaseAll images).Asks Request.Calm :=
  (releaseAll_looks images).mono Request.calm_of_looking

theorem borrowImages_drains (taken : List Image) (items : List (Option Handle)) :
    Drains (Foreign.borrowImages taken items) := by
  induction items generalizing taken with
  | nil => exact drains_pure taken
  | cons handle rest ih =>
    refine Drains.passed (q := Foreign.releaseAll taken) (borrow_drains handle).map
      (releaseAll_calm taken) (fun image => ?_) fun _ => rfl
    cases image with
    | none => exact drains_then (releaseAll_calm taken) fun _ => drains_throw rfl
    | some image => exact ih _

theorem cached_drains {image : Option Handle} {place : Foreign.Place} {options : TileOptions}
    {attempt : Attempt Image} (h : Foreign.caching image place options = .ok attempt) :
    Drains attempt := by
  cases place with
  | null => cases h
  | writable =>
    cases h
    refine (borrow_drains image).map.try fun borrowed => ?_
    cases borrowed with
    | none => exact drains_throw rfl
    | some borrowed =>
      exact (tileCache_drains borrowed options).closedBy (objectRelease_calm borrowed.object)

theorem task_drains {e : Export} {attempt : Attempt e.Yield} (h : e.task = .ok attempt) :
    Drains attempt := by
  have hfilled {place : Foreign.Place} {make attempt : Attempt Value} (hmake : Drains make)
      (h : Foreign.filling place make = .ok attempt) : Drains attempt := by
    obtain ⟨-, rfl⟩ := filling_ok h
    exact hmake
  have hread {α : Type} {operation : Option Handle} {name : Option CText}
      {f : Object → String → Attempt α} {attempt : Attempt α}
      (hf : ∀ object name, Drains (f object name))
      (h : Foreign.onBorrowed operation name f = .ok attempt) : Drains attempt := by
    rcases onBorrowed_ok h with ⟨-, rfl⟩ | ⟨handle, s, -, -, rfl⟩
    · exact drains_throw rfl
    · exact hf ⟨handle⟩ s
  cases e with
  | setBool place n => exact hfilled (toValue_drains (.bool (n != 0))) h
  | setInt place n => exact hfilled (toValue_drains (.int n)) h
  | setUInt64 place n => exact hfilled (toValue_drains (.uint64 n)) h
  | setDouble place x => exact hfilled (toValue_drains (.double x)) h
  | setString place text =>
    obtain ⟨s, -, h⟩ := bind_ok h
    exact hfilled (ofString_drains s) h
  | setInts place items size => exact hfilled (ofInts_drains _) h
  | setDoubles place items size => exact hfilled (ofDoubles_drains _) h
  | setImages place items size =>
    exact hfilled ((borrowImages_drains [] _).try fun images =>
      (ofImages_drains images).closedBy (releaseAll_calm images)) h
  | setBlob place blob =>
    refine hfilled ?_ h
    cases blob with
    | none => exact drains_throw rfl
    | some handle => exact ofBlob_drains ⟨handle⟩
  | setObject kin place object =>
    refine hfilled ?_ h
    cases object with
    | none => exact drains_throw rfl
    | some handle => exact ofObject_value_drains ⟨handle⟩
  | getPlain plain operation name place =>
    cases plain with
    | bool =>
      simp only [Export.task] at h
      exact hread (fun _ _ => (getWith_drains getBool_drains _).map) h
    | int =>
      simp only [Export.task] at h
      exact hread (fun _ _ => getInt_property_drains) h
    | uint64 =>
      simp only [Export.task] at h
      exact hread (fun _ _ => getWith_drains getUInt64_drains _) h
    | double =>
      simp only [Export.task] at h
      exact hread (fun _ _ => getWith_drains getDouble_drains _) h
  | getHanding handing operation name place =>
    cases handing with
    | text =>
      simp only [Export.task] at h
      exact hread (fun _ _ => getWith_drains (fun v =>
        onTable_drains (cellGet_calm v.cell .stringCopy)) _) h
    | blob =>
      simp only [Export.task] at h
      exact hread (fun _ _ => (getRegistered_drains getBlob_drains _).map) h
    | image =>
      simp only [Export.task] at h
      exact hread (fun _ _ => (getRegistered_drains getImage_drains _).map) h
  | getInts operation name buffer size =>
    simp only [Export.task] at h
    exact hread (fun _ _ => getRegistered_drains getInts_drains _) h
  | getDoubles operation name buffer size =>
    simp only [Export.task] at h
    exact hread (fun _ _ => getRegistered_drains getDoubles_drains _) h
  | setProperty object name cell =>
    cases cell with
    | none => cases h
    | some cell =>
      simp only [Export.task] at h
      exact hread (fun object name => set_drains object name ⟨cell⟩) h
  | cacheImage image place => exact cached_drains h
  | cacheImageWith image place pairs =>
    obtain ⟨found, -, h⟩ := bind_ok h
    obtain ⟨options, -, h⟩ := bind_ok h
    exact cached_drains h
  | start host =>
    cases h
    exact drains_then (fromEnvironment_asks calm_of_environment fun _ => id) fun config =>
      start_drains _

/-- What comes of the work of an entry point tells what it did to the error buffer. A warning does
nothing to it. -/
theorem tried_drained {e : Export} {events : Transcript}
    {result : Option (Except Failure e.Yield)} (h : Tried e.name e.load e.task events result)
    (htable : events.Lasting false) : Drained (result.bind failureOf) events := by
  generalize htask : e.task = task at h
  have hwarned (text : String) : ∀ ev ∈ [Foreign.warning e.name text], ev.request.Calm := by
    simp [Foreign.warning, Request.Calm, Request.Drains]
  cases h with
  | refused problem => exact .untouched rfl (hwarned problem)
  | failed failure hrun =>
    exact (((load_step_drains e).try fun _ => task_drains htask) _ _ hrun
      htable.of_append.1).calm_after (hwarned _)
  | done a hrun => exact ((load_step_drains e).try fun _ => task_drains htask) _ _ hrun htable

end Export

/-- Whatever is done, by a program or for a host, and whatever is answered: a failure that tells a
message of the library has taken it out of the error buffer, once and right after the call that
failed, and has cleared the buffer. Everything else leaves the buffer alone. -/
theorem a_message_is_taken_by_the_failure_that_tells_it :
    (∀ (deed : Deed) (events : Transcript) (r : Except Failure (List Holding)),
      ¬ deed.OnErrorBuffer → deed.attempt.run.Runs events r → events.Lasting false →
        Drained (failureOf r) events) ∧
    ∀ (e : Export) (events : Transcript) (answer : e.Answer), e.call.Runs events answer →
      events.Lasting false →
        ∃ first result, Export.Tried e.name e.load e.task first result ∧
          events = first ++ e.lateWarning ∧ answer = e.answer (Export.yielded result) ∧
          Drained (result.bind failureOf) events := by
  refine ⟨fun deed events r hdeed hrun htable => deed_drains deed hdeed events r hrun htable, ?_⟩
  intro e events answer hcall htable
  obtain ⟨first, result, htried, rfl, rfl⟩ := Export.tried_of_call hcall
  refine ⟨first, result, htried, rfl, rfl, ?_⟩
  refine (Export.tried_drained htried htable.of_append.1).calm_after ?_
  unfold Export.lateWarning
  split
  · simp [Foreign.warning, Request.Calm, Request.Drains]
  · simp

/-! ### An operation that is not there -/

/-- The answer to a name that no operation has. -/
def noOperation : Transcript :=
  [⟨.table, some ⟨⟨"vips"⟩, none, []⟩⟩, ⟨.call (.operationNew (.cut [110])), none⟩,
    ⟨.call .errorBuffer, some (.cut [63, 10])⟩, ⟨.call (.act .errorClear), ()⟩]

/-- A reader of a host gets no operation to read from. -/
def nothingToRead : Transcript :=
  [⟨.table, some ⟨⟨"vips"⟩, none, []⟩⟩,
    Foreign.warning "vo_get_double" "libvips returned a null operation"]

theorem an_operation_that_is_not_there_tells_why :
    (Deed.newOperation "n").attempt.run.Runs noOperation (.error (.operation "n" "?")) ∧
      Drained (some (.operation "n" "?")) noOperation ∧
      (Export.getPlain .double none (some (.cut [110])) .writable).call.Runs nothingToRead none ∧
      ∃ failure?, Drained failure? nothingToRead := by
  have hrun : (Deed.newOperation "n").attempt.run.Runs noOperation (.error (.operation "n" "?")) :=
    .ask _ (.ask _ (.ask _ (.ask _ (.done _))))
  have htable : noOperation.Lasting false := by
    simp [noOperation, Transcript.Lasting, Resource.tableSeen]
  have hcall : (Export.getPlain .double none (some (.cut [110])) .writable).call.Runs
      nothingToRead none := .ask _ (.ask _ (.done _))
  have hhost : nothingToRead.Lasting false := by
    simp [nothingToRead, Foreign.warning, Transcript.Lasting, Resource.tableSeen]
  obtain ⟨-, result, -, -, -, hdrained⟩ :=
    a_message_is_taken_by_the_failure_that_tells_it.2 _ _ _ hcall hhost
  exact ⟨hrun, a_message_is_taken_by_the_failure_that_tells_it.1 _ _ _ id hrun htable, hcall, _,
    hdrained⟩

end ImageGateway
