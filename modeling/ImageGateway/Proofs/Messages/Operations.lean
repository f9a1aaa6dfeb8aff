-- What every operation of the gateway does with the messages of the library. A
-- message is taken in seven places: after a start, a lookup, a nick, a new
-- operation, a build, a source, a target and the search for a codec. All other
-- ways lead past the error buffer.

import ImageGateway.Proofs.CallProtocol
import ImageGateway.Proofs.Messages.Basic

namespace ImageGateway

open Attempt Program Request

variable {α : Type}

/-! ## Tables, texts and types -/

theorem requireTable_drains : Drains requireTable := by
  refine drains_then (asks_of (q := .table) id) fun table => ?_
  cases table with
  | none => exact drains_throw rfl
  | some table => exact drains_pure ()

theorem nativeText_drains (s : String) : Drains (nativeText s) := by
  unfold nativeText
  split
  · exact drains_pure _
  · exact drains_throw rfl

/-- A call that needs nothing but a table. -/
theorem onTable_drains {p : Program α} (hp : p.Asks Calm) :
    Drains (do requireTable; p : Attempt α) :=
  requireTable_drains.try fun _ => drains_lift hp

theorem typeName_drains (type : TypeId) : Drains (typeName type) :=
  requireTable_drains.try fun _ => drains_then (asks_of (q := .call (.typeName type)) id) fun _ =>
    drains_pure _

theorem mismatch_drains (expected found : TypeId) : Drains (mismatch expected found : Attempt α) :=
  (typeName_drains expected).try fun _ => (typeName_drains found).try fun _ => drains_throw rfl

/-! ## Objects, images and blobs -/

section

variable (object : Object)

theorem typeId_calm : object.typeId.Asks Calm := typeId_asks calm_of_inquiry object

theorem objectTypeName_drains : Drains object.typeName :=
  drains_then (typeId_calm object) typeName_drains

theorem nickname_drains : Drains object.nickname :=
  requireTable_drains.try fun _ => drains_then (typeId_calm object) fun type =>
    drains_then (asks_of (q := .call (.nicknameFind type)) id) fun _ => drains_pure _

theorem isA_drains (type : TypeId) : Drains (object.isA type) :=
  requireTable_drains.try fun _ => drains_then (typeId_calm object) fun own =>
    drains_then (asks_of (q := .call (.isA own type)) id) fun _ => drains_pure _

theorem borrow_drains (handle : Option Handle) : Drains (Object.borrow? handle) := by
  cases handle with
  | none => exact drains_pure none
  | some handle =>
    exact requireTable_drains.try fun _ =>
      drains_then (asks_of (q := .call (.ref handle)) id) fun _ => drains_pure _

theorem objectRelease_calm : object.release.Asks Calm := objectRelease_asks calm_of_inquiry id

theorem imageType_drains : Drains Image.type :=
  onTable_drains (asks_of (q := .call (.registered .image)) id)

theorem ofObject_drains : Drains (Image.ofObject object) := by
  refine Drains.passed (q := object.release) ?_ (objectRelease_calm object)
    (fun image => drains_pure image) fun _ => rfl
  refine imageType_drains.try fun expected => (isA_drains object expected).try fun isImage => ?_
  split
  · exact drains_pure _
  · exact (typeName_drains expected).try fun _ => (objectTypeName_drains object).try fun _ =>
      drains_throw rfl

theorem blobRelease_calm (blob : Blob) : blob.release.Asks Calm :=
  blobRelease_asks calm_of_inquiry id

theorem copyOf_drains (bytes : List UInt8) : Drains (Blob.copyOf bytes) := by
  refine requireTable_drains.try fun _ =>
    drains_then (asks_of (q := .call (.blobCopy bytes)) id) fun handle => ?_
  cases handle with
  | none => exact drains_throw rfl
  | some handle => exact drains_pure _

theorem source_drains (blob : Blob) : Drains blob.source := by
  refine requireTable_drains.try fun _ => drains_call fun handle => ?_
  cases handle with
  | none => exact drainsAfter_taking id (fun _ => rfl) fun _ => rfl
  | some handle => exact (drains_pure _).after id

theorem memoryTarget_drains : Drains memoryTarget := by
  refine requireTable_drains.try fun _ => drains_call fun handle => ?_
  cases handle with
  | none => exact drainsAfter_taking id (fun _ => rfl) fun _ => rfl
  | some handle => exact (drains_pure _).after id

end

/-! ## The library as a whole -/

theorem versionString_drains : Drains Control.versionString := by
  refine requireTable_drains.try fun _ =>
    drains_then (asks_of (q := .call .versionString) id) fun version => ?_
  cases version with
  | none => exact drains_throw rfl
  | some version => exact drains_pure _

theorem apply_drains (setting : Setting) : Drains (Control.apply setting) :=
  onTable_drains (asks_of (q := .call (.apply setting)) id)

theorem read_drains (gauge : Gauge) : Drains (Control.read gauge) :=
  onTable_drains (asks_of (q := .call (.read gauge)) id)

theorem act_drains {action : Action} (h : action ≠ .errorClear) : Drains (Control.act action) := by
  refine onTable_drains (asks_of (q := .call (.act action)) ?_)
  cases action <;> first | exact id | exact absurd rfl h

theorem error_drains (domain message : String) : Drains (Control.error domain message) :=
  requireTable_drains.try fun _ => (nativeText_drains domain).try fun domain =>
    (nativeText_drains message).try fun message =>
      drains_lift (asks_of (q := .call (.error domain .passThrough message)) id)

theorem errorSystem_drains (code : Int32) (domain message : String) :
    Drains (Control.errorSystem code domain message) :=
  requireTable_drains.try fun _ => (nativeText_drains domain).try fun domain =>
    (nativeText_drains message).try fun message =>
      drains_lift (asks_of (q := .call (.errorSystem code domain .passThrough message)) id)

/-- What is said with the text of a string. -/
theorem nativeText_then_drains {s : String} {k : CText → Attempt α}
    (hk : ∀ text, CText.ofString? s = some text → Drains (k text)) :
    Drains (nativeText s >>= k) := by
  unfold nativeText
  cases htext : CText.ofString? s with
  | none => exact drains_throw rfl
  | some text => exact hk text htext

theorem findCodec_drains (direction : Direction) (filename : String) :
    Drains (Control.findCodec direction filename) := by
  refine requireTable_drains.try fun _ => nativeText_then_drains fun name hname =>
    drains_call fun nickname => ?_
  cases nickname with
  | none => exact drainsAfter_taking id (fun _ => rfl) fun _ => ⟨hname, rfl⟩
  | some nickname => exact (drains_pure _).after id

theorem applyAll_drains (settings : List Setting) :
    Drains (settings.forM Control.apply : Attempt Unit) := by
  induction settings with
  | nil => exact drains_pure ()
  | cons setting rest ih => exact (apply_drains setting).try fun _ => ih

theorem currentLimits_drains : Drains CacheLimits.current :=
  (read_drains .cacheMax).try fun _ => (read_drains .cacheMaxMem).try fun _ =>
    (read_drains .cacheMaxFiles).try fun _ => drains_pure _

theorem load_drains (paths : LibraryPaths) : Drains (Control.load paths) := by
  intro events r h _
  obtain ⟨answer, -, rfl⟩ := runs_adapt_iff.1 h
  refine .untouched ?_ ((load_asks calm_of_loading paths).of_runs h)
  cases answer <;> rfl

theorem started_drains (config : Config) : Drains (do
    if let some n := config.concurrency then Control.apply (.concurrency n)
    config.cache.apply
    if ← Program.request (.logs .debug) then
      let version ← Control.versionString
      logLine .debug ("libvips " ++ version ++ " started as " ++ config.programName)) := by
  have hcache : Drains (do
      config.cache.apply
      if ← Program.request (.logs .debug) then
        let version ← Control.versionString
        logLine .debug ("libvips " ++ version ++ " started as " ++ config.programName)) := by
    refine (applyAll_drains _).try fun _ =>
      drains_then (asks_of (q := .logs .debug) id) fun logged => ?_
    split
    · exact versionString_drains.try fun _ => drains_lift (asks_of (q := .log .debug _) id)
    · exact drains_pure ()
  dsimp only
  split
  · exact (apply_drains _).try fun _ => hcache
  · exact hcache

theorem start_drains (config : Config) : Drains (Control.start config) := by
  refine (load_drains config.library).try fun _ => (nativeText_drains _).try fun program =>
    drains_call fun status => ?_
  dsimp only
  by_cases hstatus : status ≠ 0
  · rw [if_pos hstatus]
    exact drainsAfter_taking id (fun _ => rfl) fun _ => hstatus
  · rw [if_neg hstatus]
    refine Drains.after ?_ id
    split
    · exact drains_then (asks_of (q := .call (.apply (.leak true))) id) fun _ =>
        started_drains config
    · exact started_drains config

/-! ## Values -/

theorem filled_calm (type : TypeId) (payload : Payload) : (Value.filled type payload).Asks Calm :=
  (filled_boxes type payload).mono calm_of_boxing

theorem valueRelease_calm (value : Value) : value.release.Asks Calm :=
  valueRelease_asks calm_of_inquiry id

theorem new_drains (type : TypeId) : Drains (Value.new type) := by
  refine onTable_drains ((asks_of (q := .call (.cellInit type)) id).bind fun number => ?_)
  cases number <;> trivial

theorem holds_drains (value : Value) (type : TypeId) : Drains (value.holds type) :=
  requireTable_drains.try fun _ => drains_then (asks_of (q := .call (.isA value.type type)) id)
    fun _ => drains_pure _

theorem countOf_drains (length : Nat) : Drains (Value.countOf length) := by
  unfold Value.countOf
  split
  · exact drains_pure _
  · exact drains_throw rfl

theorem ofInts_drains (xs : Span Int32) : Drains (Value.ofInts xs) :=
  requireTable_drains.try fun _ => (countOf_drains _).try fun _ =>
    drains_then (asks_of (q := .call (.registered .intArray)) id) fun type =>
      drains_lift (filled_calm type _)

theorem ofDoubles_drains (xs : Span Double) : Drains (Value.ofDoubles xs) :=
  requireTable_drains.try fun _ => (countOf_drains _).try fun _ =>
    drains_then (asks_of (q := .call (.registered .doubleArray)) id) fun type =>
      drains_lift (filled_calm type _)

theorem ofString_drains (text : String) : Drains (Value.ofString text) :=
  (nativeText_drains text).try fun _ => onTable_drains (filled_calm _ _)

theorem ofBlob_drains (blob : Blob) : Drains (Value.ofBlob blob) :=
  requireTable_drains.try fun _ => drains_then (asks_of (q := .call (.registered .blob)) id)
    fun type => drains_lift (filled_calm type _)

theorem ofObject_value_drains (object : Object) : Drains (Value.ofObject object) :=
  requireTable_drains.try fun _ => drains_then (typeId_calm object) fun type =>
    drains_lift (filled_calm type _)

theorem ofImages_drains (images : List Image) : Drains (Value.ofImages images) := by
  refine requireTable_drains.try fun _ => (countOf_drains _).try fun n =>
    drains_then (asks_of (q := .call (.registered .imageArray)) id) fun type => ?_
  have hmake : (Value.make type).Asks Calm := by
    apply (asks_of (q := .call (.cellInit type)) id).bind
    intro number
    cases number <;> trivial
  refine drains_then hmake fun v => drains_then (asks_of (q := .call (.makeSlots v.cell n)) id)
    fun _ => drains_then (asks_of (q := .call (.slots v.cell)) id) fun slots => ?_
  split
  · exact drains_then ((fillSlots_slots v.cell 0 images).mono calm_of_slotting) fun _ =>
      drains_pure v
  · exact drains_then (valueRelease_calm v) fun _ => drains_throw rfl

theorem toValue_drains (argument : Argument) : Drains argument.toValue := by
  cases argument with
  | bool b => exact onTable_drains (filled_calm _ _)
  | int n => exact onTable_drains (filled_calm _ _)
  | uint64 n => exact onTable_drains (filled_calm _ _)
  | double x => exact onTable_drains (filled_calm _ _)
  | text s => exact ofString_drains s
  | ints xs => exact ofInts_drains xs
  | doubles xs => exact ofDoubles_drains xs
  | images images => exact ofImages_drains images
  | bytes bs =>
    exact (copyOf_drains bs).try fun blob => (ofBlob_drains blob).closedBy (blobRelease_calm blob)
  | image i => exact ofObject_value_drains i.object
  | object o => exact ofObject_value_drains o

section

variable (v : Value)

theorem expect_drains (type : TypeId) : Drains (v.expect type) := by
  refine drains_then (asks_of (q := .call (.isA v.type type)) id) fun answer => ?_
  split
  · exact mismatch_drains type v.type
  · exact drains_pure ()

theorem cellGet_calm (cell : Cell) (accessor : Accessor) :
    (native (.cellGet cell accessor)).Asks Calm := asks_of (q := .call (.cellGet cell accessor)) id

theorem readAs_drains (type : TypeId) (accessor : Accessor) : Drains (v.readAs type accessor) :=
  (expect_drains v type).try fun _ => drains_lift (cellGet_calm v.cell accessor)

theorem getBool_drains : Drains v.getBool :=
  requireTable_drains.try fun _ => (readAs_drains v .boolean .boolean).map

theorem getInt_drains : Drains v.getInt := by
  refine requireTable_drains.try fun _ =>
    drains_then (asks_of (q := .call (.fundamental v.type)) id) fun ancestor => ?_
  split
  · exact drains_lift (cellGet_calm v.cell .enumeration)
  · exact readAs_drains v .int .int

theorem getUInt64_drains : Drains v.getUInt64 :=
  requireTable_drains.try fun _ => readAs_drains v .uint64 .uint64

theorem getDouble_drains : Drains v.getDouble :=
  requireTable_drains.try fun _ => readAs_drains v .double .double

theorem getString_drains : Drains v.getString :=
  requireTable_drains.try fun _ => (readAs_drains v .string .string).map

theorem getInts_drains : Drains v.getInts :=
  requireTable_drains.try fun _ => drains_then (asks_of (q := .call (.registered .intArray)) id)
    fun type => (readAs_drains v type .ints).map

theorem getDoubles_drains : Drains v.getDoubles :=
  requireTable_drains.try fun _ => drains_then (asks_of (q := .call (.registered .doubleArray)) id)
    fun type => (readAs_drains v type .doubles).map

theorem getBlob_drains : Drains v.getBlob :=
  requireTable_drains.try fun _ => drains_then (asks_of (q := .call (.registered .blob)) id)
    fun type => (readAs_drains v type .boxedCopy).map

theorem getObject_drains : Drains v.getObject :=
  requireTable_drains.try fun _ => (readAs_drains v .object .object).try borrow_drains

theorem getImage_drains : Drains v.getImage := by
  refine requireTable_drains.try fun _ =>
    drains_then (asks_of (q := .call (.registered .image)) id) fun type =>
      (expect_drains v type).try fun _ => (getObject_drains v).try fun object => ?_
  cases object with
  | none => exact drains_pure none
  | some object => exact (ofObject_drains object).map

end

/-! ## Properties -/

section

variable (object : Object) (name : String)

theorem checkTransformable_drains (source target : TypeId) :
    Drains (Property.checkTransformable source target) := by
  refine drains_then (asks_of (q := .call (.transformable source target)) id) fun answer => ?_
  split
  · exact mismatch_drains target source
  · exact drains_pure ()

/-- An argument that is not found leaves a message. -/
theorem lookup_drains (text : CText) : Drains (Property.lookup object text) := by
  have hunknown (found : Lookup) (hfound : found.type? = none) :
      DrainsAfter ⟨.call (.getArgument object.handle text), found⟩
        (Property.lookup.unknown object text) :=
    drainsAfter_asked (liftM object.describe) (pure ())
      (fun described message => .unknownArgument text.lossy described message) id
      (describe_asks naming_of_inquiry object).lift
      (drains_lift (describe_asks calm_of_inquiry object)) trivial (fun _ _ => rfl)
      (fun _ _ => ⟨rfl, hfound⟩) fun _ => rfl
  refine drains_call fun found => ?_
  rcases hspec : found.spec with _ | spec
  · exact hunknown found (by simp [Lookup.type?, hspec])
  · dsimp only
    by_cases hstatus : found.status = 0
    · rw [if_pos hstatus]
      exact (drains_pure _).after id
    · rw [if_neg hstatus]
      exact hunknown found (by simp [Lookup.type?, hstatus])

theorem isEnumType_calm (type : TypeId) : (Property.isEnumType type).Asks Calm :=
  isEnumType_asks calm_of_inquiry type

theorem argument_drains : Drains (Property.argument object name) :=
  requireTable_drains.try fun _ => (nativeText_drains name).try fun text =>
    (lookup_drains object text).try fun found => (typeName_drains _).try fun _ =>
      drains_then (isEnumType_calm found.spec.type) fun _ => drains_pure _

theorem get_drains (type : TypeId) : Drains (Property.get object name type) :=
  requireTable_drains.try fun _ => (nativeText_drains name).try fun text =>
    (lookup_drains object text).try fun _ => (checkTransformable_drains _ type).try fun _ =>
      (new_drains type).try fun v =>
        drains_then (asks_of (q := .call (.getProperty object.handle text v.cell)) id) fun _ =>
          drains_pure v

theorem getValue_drains : Drains (Property.getValue object name) :=
  (argument_drains object name).try fun info => get_drains object name info.type

variable {object name}

theorem getWith_drains {read : Value → Attempt α} (hread : ∀ v, Drains (read v)) (type : TypeId) :
    Drains (Property.getWith object name type read) :=
  (get_drains object name type).try fun v => (hread v).closedBy (valueRelease_calm v)

theorem getInt_property_drains : Drains (Property.getInt object name) :=
  (argument_drains object name).try fun _ => getWith_drains getInt_drains _

theorem getRegistered_drains {read : Value → Attempt α} (hread : ∀ v, Drains (read v))
    (which : Registered) : Drains (Property.getRegistered object name which read) :=
  requireTable_drains.try fun _ => drains_then (asks_of (q := .call (.registered which)) id)
    fun type => getWith_drains hread type

variable (object name)

/-- A text that is no nick leaves a message. It is taken once the text is known. -/
theorem numberOfNick_drains (type : TypeId) (v : Value) :
    Drains (Property.numberOfNick object name type v) := by
  refine drains_then (typeId_calm object) fun own =>
    drains_then (asks_of (q := .call (.nicknameFind own)) id) fun domain =>
      drains_then (cellGet_calm v.cell .string) fun nick => drains_call fun number => ?_
  have hasked : v.getString.run.Asks Naming :=
    (requireTable_asks naming_of_inquiry).try fun _ =>
      ((expect_asks naming_of_inquiry v .string).try fun _ =>
        (asks_of (q := .call (.cellGet v.cell .string)) trivial).lift).map
  by_cases hnumber : number < 0
  · simp only [hnumber, ↓reduceIte]
    exact drainsAfter_asked v.getString (pure ())
      (fun held message => .unknownNick name (held.getD "") message) id hasked
      (getString_drains v) trivial (fun _ _ => rfl) (fun _ _ => hnumber) fun _ => rfl
  · simp only [hnumber, ↓reduceIte]
    exact (drains_pure number).after id

theorem ofEnum_drains (type : TypeId) (n : Int32) : Drains (Value.ofEnum type n) :=
  onTable_drains (filled_calm _ _)

theorem substitute_drains (type : TypeId) (v : Value) :
    Drains (Property.substitute object name type v) := by
  refine drains_then (isEnumType_calm type) fun isEnum => ?_
  split
  · exact (numberOfNick_drains object name type v).try fun n => (ofEnum_drains type n).map
  · split
    · exact (getInt_drains v).try fun n => (ofEnum_drains type n).map
    · exact (checkTransformable_drains _ _).try fun _ => drains_pure none

theorem set_drains (v : Value) : Drains (Property.set object name v) := by
  refine requireTable_drains.try fun _ => (nativeText_drains name).try fun text =>
    (lookup_drains object text).try fun found =>
      (substitute_drains object name found.spec.type v).try fun other => ?_
  have hassign (w : Value) : (native (.setProperty object.handle text w.cell)).Asks Calm :=
    asks_of (q := .call (.setProperty object.handle text w.cell)) id
  cases other with
  | none => exact drains_lift (hassign v)
  | some other => exact (drains_lift (hassign other)).closedBy (valueRelease_calm other)

end

/-! ## Operations -/

theorem new_operation_drains (nickname : String) : Drains (Operation.new nickname) := by
  refine requireTable_drains.try fun _ => nativeText_then_drains fun text htext =>
    drains_call fun handle => ?_
  cases handle with
  | none => exact drainsAfter_taking id (fun _ => rfl) fun _ => ⟨htext, rfl⟩
  | some handle => exact (drains_pure _).after id

theorem setInput_drains (operation : Operation) (name : String) (argument : Argument) :
    Drains (operation.set name argument) :=
  (toValue_drains argument).try fun v =>
    (set_drains operation.object name v).closedBy (valueRelease_calm v)

/-- A failed build leaves a message. It is taken before the outputs are given up. -/
theorem build_drains (operation : Operation) : Drains operation.build := by
  refine drains_then (asks_of (q := .table) id) fun table => ?_
  cases table with
  | none => exact drains_then (objectRelease_calm operation.object) fun _ => drains_throw rfl
  | some table =>
    refine drains_call fun answer => ?_
    obtain ⟨status, left⟩ := answer
    dsimp only
    by_cases hstatus : status ≠ 0
    · rw [if_pos hstatus]
      let failed : Event := ⟨.call (.build operation.object.handle), (status, left)⟩
      have hcalm : failed.request.Calm := id
      exact drainsAfter_asked (pure ()) (do native (.unrefOutputs left); native (.unref left))
        (fun _ message => .operation operation.nickname message) hcalm trivial
        (drains_pure ()) ⟨id, fun _ => ⟨id, fun _ => trivial⟩⟩ (fun _ _ => rfl)
        (fun _ _ => hstatus) fun _ => rfl
    · rw [if_neg hstatus]
      refine Drains.after ?_ id
      cases left with
      | none => exact drains_throw rfl
      | some handle => exact drains_pure _

theorem unrefOutputs_drains (operation : Operation) : Drains operation.unrefOutputs :=
  onTable_drains (asks_of (q := .call (.unrefOutputs (some operation.object.handle))) id)

theorem setAll_drains (operation : Operation) (inputs : List (String × Argument)) :
    Drains (operation.setAll inputs) := by
  induction inputs with
  | nil => exact drains_pure ()
  | cons input rest ih => exact (setInput_drains operation input.1 input.2).try fun _ => ih

theorem prepare_drains (nickname : String) (inputs : List (String × Argument)) :
    Drains (Operation.prepare nickname inputs) := by
  refine (new_operation_drains nickname).try fun operation => ?_
  exact Drains.passed (q := operation.release) (setAll_drains operation inputs)
    (objectRelease_calm operation.object) (fun _ => build_drains operation) fun _ => rfl

theorem outputRelease_calm (output : Output) : output.release.Asks Calm := by
  unfold Output.release
  split
  · exact blobRelease_calm _
  · exact objectRelease_calm _
  · trivial

theorem output_drains (output : Output) (object : Object) (name : String) :
    Drains (output.read object name) := by
  cases output with
  | bool b => exact (getWith_drains getBool_drains _).map
  | int n => exact getInt_property_drains.map
  | double x => exact (getWith_drains getDouble_drains _).map
  | doubles xs => exact (getRegistered_drains getDoubles_drains _).map
  | buffer xs => exact (getRegistered_drains getDoubles_drains _).map.map
  | ints xs => exact (getRegistered_drains getInts_drains _).map
  | text s => exact (getWith_drains getString_drains _).map
  | blob b =>
    exact (getRegistered_drains getBlob_drains _).try fun _ =>
      drains_then (outputRelease_calm _) fun _ => drains_pure _
  | image i =>
    exact (getRegistered_drains getImage_drains _).try fun _ =>
      drains_then (outputRelease_calm _) fun _ => drains_pure _

/-! ## Calls -/

/-- A table that was seen stays. -/
theorem Transcript.Lasting.of_seen {first second : Transcript} {table : Table}
    (h : Lasting false (first ++ second)) (hseen : ⟨.table, some table⟩ ∈ first) :
    Lasting true second := by
  have hany : first.any (fun e => Resource.tableSeen e.request e.reply) = true :=
    List.any_eq_true.2 ⟨_, hseen, rfl⟩
  have hrest := (lasting_append.1 h).2
  rwa [hany] at hrest

/-- What was prepared was prepared on a table. -/
theorem prepare_seen {nickname : String} {inputs : List (String × Argument)} {events : Transcript}
    {operation : Operation}
    (h : (Operation.prepare nickname inputs).run.Runs events (.ok operation)) :
    ∃ table, ⟨.table, some table⟩ ∈ events := by
  rcases runs_try_iff.1 h with ⟨_, -, ⟨⟩⟩ | ⟨first, second, made, rfl, hnew, -⟩
  rcases runs_try_iff.1 hnew with ⟨_, -, ⟨⟩⟩ | ⟨third, fourth, _, rfl, hrequire, -⟩
  obtain ⟨fifth, sixth, found, rfl, hlook, hfound⟩ := runs_then_iff.1 hrequire
  obtain rfl := runs_request_iff.1 hlook
  cases found with
  | none => obtain ⟨-, ⟨⟩⟩ := runs_done_iff.1 hfound
  | some table => exact ⟨table, by simp⟩

theorem readAll_drained {operation : Operation} {after : List Output}
    {places : List (String × Output)} {events : Transcript} {result : Except Failure Unit}
    (h : (operation.readAll places).Runs events (result, after)) (htable : events.Lasting false) :
    Drained (failureOf result) events := by
  induction places generalizing events result after with
  | nil =>
    obtain ⟨rfl, hr⟩ := runs_done_iff.1 h
    cases hr
    exact .untouched rfl (List.forall_mem_nil _)
  | cons place rest ih =>
    obtain ⟨first, second, read, rfl, hfirst, hsecond⟩ := runs_bind_iff.1 h
    obtain ⟨hlasting, hrest⟩ := htable.of_append
    have hread := output_drains place.2 operation.object place.1 first read hfirst hlasting
    cases read with
    | error failure =>
      obtain ⟨rfl, hr⟩ := runs_done_iff.1 hsecond
      cases hr
      rw [List.append_nil]
      exact hread
    | ok output =>
      obtain ⟨third, fourth, ⟨result', others⟩, rfl, hthird, hdone⟩ := runs_bind_iff.1 hsecond
      obtain ⟨rfl, hr⟩ := runs_done_iff.1 hdone
      cases hr
      rw [List.append_nil] at hrest ⊢
      exact (ih hthird hrest).calm_before hread.calm_of_none

/-- The clean-up of a call does not hide how its outputs were read. -/
theorem call_drained {nickname : String} {options : CallOptions} {events : Transcript}
    {result : Except Failure Unit} {outputs : List Output}
    (h : (Operation.call nickname options).Runs events (result, outputs))
    (htable : events.Lasting false) : Drained (failureOf result) events := by
  obtain ⟨log, rest, _, rfl, hlog, hrest⟩ := runs_bind_iff.1 h
  obtain rfl := runs_request_iff.1 hlog
  refine Drained.calm_before (by simp [Request.Calm, Request.Drains]) ?_
  replace htable := htable.of_append.2
  obtain ⟨preparing, later, prepared, rfl, hprepare, hlater⟩ := runs_bind_iff.1 hrest
  have hprepared := prepare_drains nickname options.inputs _ _ hprepare htable.of_append.1
  cases prepared with
  | error failure =>
    obtain ⟨rfl, hr⟩ := runs_done_iff.1 hlater
    cases hr
    rw [List.append_nil]
    exact hprepared
  | ok operation =>
    obtain ⟨table, hseen⟩ := prepare_seen hprepare
    have hlasting := htable.of_seen hseen
    obtain ⟨reading, closing, ⟨read, after⟩, rfl, hread, hclosing⟩ := runs_bind_iff.1 hlater
    obtain ⟨clearing, releasing, cleared, rfl, hclear, hreleased⟩ := runs_bind_iff.1 hclosing
    obtain ⟨last, _, _, rfl, hrelease, hdone⟩ := runs_bind_iff.1 hreleased
    have hlate := (Transcript.lasting_append_iff.1 hlasting).2
    obtain ⟨rfl, -⟩ :=
      Operation.unrefOutputs_calls hclear (Transcript.lasting_append_iff.1 hlate).1
    obtain ⟨rfl, hr⟩ := runs_done_iff.1 hdone
    cases hr
    have hafter := htable.of_append.2.of_append.2
    have hquiet : ∀ e ∈ clearing, e.request.Calm :=
      (unrefOutputs_drains operation _ _ hclear hafter.of_append.1).calm_of_none
    rw [List.append_nil]
    refine ((readAll_drained hread htable.of_append.2.of_append.1).calm_after ?_).calm_before
      hprepared.calm_of_none
    intro e he
    rcases List.mem_append.1 he with he | he
    · exact hquiet e he
    · exact (objectRelease_calm operation.object).of_runs hrelease e he

theorem releaseOutputs_calm {outputs : List Output} {events : Transcript}
    {r : Except Failure PUnit}
    (h : (outputs.forM fun output => liftM output.release : Attempt PUnit).run.Runs events r) :
    r = .ok () ∧ ∀ e ∈ events, e.request.Calm := by
  induction outputs generalizing events with
  | nil =>
    obtain ⟨rfl, rfl⟩ := runs_done_iff.1 h
    exact ⟨rfl, List.forall_mem_nil _⟩
  | cons output rest ih =>
    obtain ⟨first, second, _, rfl, hfirst, hsecond⟩ := runs_then_iff.1 h
    obtain ⟨hok, hrest⟩ := ih hsecond
    refine ⟨hok, fun e he => ?_⟩
    rcases List.mem_append.1 he with he | he
    · exact (outputRelease_calm output).of_runs hfirst e he
    · exact hrest e he

theorem callFor_drains (nickname : String) (options : CallOptions) :
    Drains (Operation.callFor nickname options) := by
  intro events r h htable
  obtain ⟨first, second, ⟨result, outputs⟩, rfl, hcall, hsecond⟩ := runs_then_iff.1 h
  have hcalled := call_drained hcall htable.of_append.1
  cases result with
  | ok _ =>
    obtain ⟨rfl, rfl⟩ := runs_done_iff.1 hsecond
    rw [List.append_nil]
    exact hcalled
  | error failure =>
    rcases runs_try_iff.1 hsecond with ⟨_, hfailed, -⟩ | ⟨third, fourth, _, rfl, hthird, hthrow⟩
    · cases (releaseOutputs_calm hfailed).1
    obtain ⟨rfl, rfl⟩ := runs_done_iff.1 hthrow
    rw [List.append_nil]
    exact hcalled.calm_after (releaseOutputs_calm hthird).2

theorem tileCache_drains (image : Image) (options : TileOptions) :
    Drains (tileCache image options) := by
  refine (callFor_drains _ _).try fun outputs => ?_
  unfold Operation.firstImage
  split
  · exact drains_pure _
  · exact drains_throw rfl

end ImageGateway
