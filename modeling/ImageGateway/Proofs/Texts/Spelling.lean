-- The texts that the library gets. Each of them is the whole of a text that the
-- program was given for the same use, byte by byte. The one text that the program
-- brings itself is the format of a message, and it is always the same.

import ImageGateway.Proofs.StartUp.Exits
import ImageGateway.Proofs.Texts.Conversions
import ImageGateway.Proofs.Utf8

namespace ImageGateway

/-! ## What is passed on -/

/-- The texts that a request passes on, apart from the format of a message and from those that come
from the library itself. -/
def Request.texts : Request → List (TextUse × CText)
  | .call (.getProperty _ name _) | .call (.setProperty _ name _) => [(.name, name)]
  | .call (.getArgument _ name) => [(.name, name)]
  | .call (.operationNew nickname) => [(.nickname, nickname)]
  | .call (.cellSet _ (.string content)) => [(.content, content)]
  | .call (.findCodec _ filename) => [(.filename, filename)]
  | .call (.start program) => [(.program, program)]
  | .call (.error domain _ message) => [(.domain, domain), (.message, message)]
  | .call (.errorSystem _ domain _ message) => [(.domain, domain), (.message, message)]
  | _ => []

/-- The format of a message. -/
def Request.format? : Request → Option CText
  | .call (.error _ format _) | .call (.errorSystem _ _ format _) => some format
  | _ => none

namespace Request

/-- What the request passes on is the whole of a text that was given for the same use, byte by byte.
A format is always the one that passes a message through as it is. -/
structure Spells (given : List (TextUse × String)) (q : Request) : Prop where
  texts : ∀ use text, (use, text) ∈ q.texts →
    ∃ s, (use, s) ∈ given ∧ text.bytes = Text.Utf8.encode s
  format : ∀ format, q.format? = some format → format = .passThrough

variable {given : List (TextUse × String)} {q : Request}

theorem spells_of_none (htexts : q.texts = []) (hformat : q.format? = none) : q.Spells given := by
  constructor
  · simp [htexts]
  · simp [hformat]

theorem spells_one {use : TextUse} {s : String} {text : CText} (htexts : q.texts = [(use, text)])
    (hformat : q.format? = none) (hs : (use, s) ∈ given) (htext : CText.ofString? s = some text) :
    q.Spells given := by
  constructor
  · intro use' text' h
    rw [htexts, List.mem_singleton] at h
    cases h
    exact ⟨s, hs, CText.bytes_of_ofString? htext⟩
  · simp [hformat]

/-- A message with where it comes from. The format passes it through as it is. -/
theorem spells_message {domain message : String} {source text : CText}
    (htexts : q.texts = [(.domain, source), (.message, text)])
    (hformat : q.format? = some .passThrough) (hdomain : (.domain, domain) ∈ given)
    (hmessage : (.message, message) ∈ given) (hsource : CText.ofString? domain = some source)
    (htext : CText.ofString? message = some text) : q.Spells given := by
  constructor
  · intro use passed h
    simp only [htexts, List.mem_cons, List.not_mem_nil, or_false, Prod.mk.injEq] at h
    rcases h with ⟨rfl, rfl⟩ | ⟨rfl, rfl⟩
    · exact ⟨domain, hdomain, CText.bytes_of_ofString? hsource⟩
    · exact ⟨message, hmessage, CText.bytes_of_ofString? htext⟩
  · intro format h
    exact (Option.some.inj (hformat.symm.trans h)).symm

theorem spells_of_question (q : Request) (h : q.Question) : q.Spells given := by
  unfold Question at h
  split at h <;> first | exact spells_of_none rfl rfl | exact h.elim

theorem spells_of_inquiry : ∀ q : Request, q.Inquiry → q.Spells given :=
  inquiry_of spells_of_question

theorem spells_of_looking (q : Request) (h : q.Looking) : q.Spells given := by
  unfold Looking at h
  split at h <;> first | exact spells_of_none rfl rfl | exact spells_of_inquiry _ h

theorem spells_of_loading (q : Request) (h : q.Loading) : q.Spells given := by
  unfold Loading Opening at h
  split at h <;> first | exact spells_of_none rfl rfl | skip
  split at h <;> first | exact spells_of_none rfl rfl | exact h.elim

end Request

namespace Program

open Request

variable {α : Type} {P : Request → Prop} {given : List (TextUse × String)} {object : Object}
  {name : String}

theorem asks_onText {s : String} {k : CText → Attempt α}
    (h : ∀ text, CText.ofString? s = some text → (k text).run.Asks P) :
    (nativeText s >>= k).run.Asks P := by
  unfold nativeText
  split
  · next text htext => exact h text htext
  · trivial

theorem asks_silent {q : Request} (htexts : q.texts = []) (hformat : q.format? = none) :
    (request q).Asks (Spells given) := asks_of (spells_of_none htexts hformat)

theorem requireTable_spells : requireTable.run.Asks (Spells given) :=
  requireTable_asks spells_of_inquiry

theorem releaseValue_spells (v : Value) : v.release.Asks (Spells given) :=
  valueRelease_asks spells_of_inquiry (spells_of_none rfl rfl)

theorem releaseObject_spells (object : Object) : object.release.Asks (Spells given) :=
  objectRelease_asks spells_of_inquiry (spells_of_none rfl rfl)

/-! ## Boxing -/

theorem make_spells (type : TypeId) : (Value.make type).Asks (Spells given) := by
  apply (asks_silent (q := .call (.cellInit type)) rfl rfl).bind
  intro number
  cases number <;> trivial

/-- A payload is put into a new cell. -/
theorem filled_spells (type : TypeId) {payload : Payload}
    (h : ∀ c, (Request.call (.cellSet c payload)).Spells given) :
    (Value.filled type payload).Asks (Spells given) :=
  (make_spells type).bind fun v => (asks_of (h v.cell)).bind fun _ => trivial

/-- A payload that is no text. -/
theorem boxed_spells (type : TypeId) {payload : Payload} (h : ∀ text, payload ≠ .string text) :
    (Value.filled type payload).Asks (Spells given) := by
  refine filled_spells type fun c => spells_of_none ?_ rfl
  cases payload with
  | string text => exact absurd rfl (h text)
  | _ => rfl

theorem tableThenBoxed_spells (type : TypeId) {payload : Payload}
    (h : ∀ text, payload ≠ .string text) :
    (do requireTable; Value.filled type payload : Attempt Value).run.Asks (Spells given) :=
  requireTable_spells.try fun _ => (boxed_spells type h).lift

theorem array_spells (length : Nat) (which : Registered) {payload : Payload}
    (h : ∀ text, payload ≠ .string text) :
    (do
      requireTable
      let _ ← Value.countOf length
      Value.filled (← native (.registered which)) payload
      : Attempt Value).run.Asks (Spells given) :=
  requireTable_spells.try fun _ => (countOf_asks _).try fun _ =>
    (asks_silent (q := .call (.registered which)) rfl rfl).then fun type =>
      (boxed_spells type h).lift

theorem ofImages_spells (images : List Image) :
    (Value.ofImages images).run.Asks (Spells given) := by
  have hfill (c : Cell) (place : Nat) : (Value.fillSlots c place images).Asks (Spells given) := by
    induction images generalizing place with
    | nil => trivial
    | cons image rest ih =>
      exact (asks_silent (q := .call (.ref image.object.handle)) rfl rfl).bind fun _ =>
        (asks_silent (q := .fillSlot c place image.object.handle) rfl rfl).bind fun _ => ih _
  refine requireTable_spells.try fun _ => (countOf_asks _).try fun n =>
    (asks_silent (q := .call (.registered .imageArray)) rfl rfl).then fun type =>
      (make_spells type).then fun v =>
        (asks_silent (q := .call (.makeSlots v.cell n)) rfl rfl).then fun _ =>
          (asks_silent (q := .call (.slots v.cell)) rfl rfl).then fun slots => ?_
  split
  · exact (hfill v.cell 0).then fun _ => trivial
  · exact (releaseValue_spells v).then fun _ => trivial

theorem ofBytes_spells (bytes : List UInt8) : (Value.ofBytes bytes).run.Asks (Spells given) := by
  have hcopy : (Blob.copyOf bytes).run.Asks (Spells given) := by
    refine requireTable_spells.try fun _ =>
      (asks_silent (q := .call (.blobCopy bytes)) rfl rfl).then fun handle => ?_
    cases handle <;> trivial
  have hboxed (type : TypeId) (blob : Blob) :
      (Value.filled type (.boxed blob.handle)).Asks (Spells given) := boxed_spells type nofun
  refine hcopy.try fun blob => Asks.closedBy ?_ ?_
  · exact requireTable_spells.try fun _ =>
      (asks_silent (q := .call (.registered .blob)) rfl rfl).then fun type =>
        (hboxed type blob).lift
  · exact blobRelease_asks spells_of_inquiry (spells_of_none rfl rfl)

theorem ofObject_spells (object : Object) : (Value.ofObject object).run.Asks (Spells given) := by
  have hboxed (type : TypeId) :
      (Value.filled type (.object object.handle)).Asks (Spells given) := boxed_spells type nofun
  exact requireTable_spells.try fun _ => (typeId_asks spells_of_inquiry object).then fun type =>
    (hboxed type).lift

theorem toValue_spells {argument : Argument} (h : argument.texts ⊆ given) :
    argument.toValue.run.Asks (Spells given) := by
  cases argument with
  | text s =>
    refine asks_onText fun content hcontent => requireTable_spells.try fun _ =>
      (filled_spells .string fun c => spells_one rfl rfl (h ?_) hcontent).lift
    exact List.mem_singleton_self _
  | bool b => exact tableThenBoxed_spells _ nofun
  | int n => exact tableThenBoxed_spells _ nofun
  | uint64 n => exact tableThenBoxed_spells _ nofun
  | double x => exact tableThenBoxed_spells _ nofun
  | ints xs => exact array_spells _ _ nofun
  | doubles xs => exact array_spells _ _ nofun
  | images images => exact ofImages_spells images
  | bytes bytes => exact ofBytes_spells bytes
  | image image => exact ofObject_spells image.object
  | object object => exact ofObject_spells object

/-! ## Reading properties -/

section

variable (hname : (.name, name) ∈ given)
include hname

theorem argument_spells : (Property.argument object name).run.Asks (Spells given) :=
  requireTable_spells.try fun _ => asks_onText fun text htext =>
    (lookup_asks spells_of_question object text (spells_one rfl rfl hname htext)).try fun _ =>
      (typeName_asks spells_of_inquiry _).try fun _ =>
        (isEnumType_asks spells_of_inquiry _).then fun _ => trivial

theorem get_spells (type : TypeId) : (Property.get object name type).run.Asks (Spells given) :=
  requireTable_spells.try fun _ => asks_onText fun text htext =>
    (lookup_asks spells_of_question object text (spells_one rfl rfl hname htext)).try fun _ =>
      (checkTransformable_asks spells_of_inquiry _ _).try fun _ =>
        (new_asks spells_of_inquiry (spells_of_none rfl rfl)).try fun v =>
          (asks_of (q := .call (.getProperty object.handle text v.cell))
            (spells_one rfl rfl hname htext)).then fun _ => trivial

theorem getValue_spells : (Property.getValue object name).run.Asks (Spells given) :=
  (argument_spells hname).try fun info => get_spells hname info.type

theorem getWith_spells {read : Value → Attempt α} (hread : ∀ v, (read v).run.Asks Looking)
    (type : TypeId) : (Property.getWith object name type read).run.Asks (Spells given) :=
  (get_spells hname type).try fun v =>
    ((hread v).mono spells_of_looking).closedBy (releaseValue_spells v)

theorem getInt_spells : (Property.getInt object name).run.Asks (Spells given) :=
  (argument_spells hname).try fun _ => getWith_spells hname getInt_looks _

theorem getRegistered_spells {read : Value → Attempt α} (hread : ∀ v, (read v).run.Asks Looking)
    (which : Registered) :
    (Property.getRegistered object name which read).run.Asks (Spells given) :=
  requireTable_spells.try fun _ => (asks_silent (q := .call (.registered which)) rfl rfl).then
    fun type => getWith_spells hname hread type

theorem readProperty_spells (reading : Reading) :
    (reading.ofProperty object name).run.Asks (Spells given) := by
  cases reading with
  | bool => exact (getWith_spells hname getBool_looks _).map
  | int => exact (getInt_spells hname).map
  | uint64 => exact (getWith_spells hname getUInt64_looks _).map
  | double => exact (getWith_spells hname getDouble_looks _).map
  | text => exact (getWith_spells hname getString_looks _).map
  | ints => exact (getRegistered_spells hname getInts_looks _).map
  | doubles => exact (getRegistered_spells hname getDoubles_looks _).map
  | blob => exact (getRegistered_spells hname getBlob_looks _).map
  | image => exact (getRegistered_spells hname getImage_looks _).map

theorem output_spells (output : Output) : (output.read object name).run.Asks (Spells given) := by
  have hrelease : output.release.Asks (Spells given) := by
    unfold Output.release
    split
    · exact blobRelease_asks spells_of_inquiry (spells_of_none rfl rfl)
    · exact releaseObject_spells _
    · trivial
  cases output with
  | bool b => exact (getWith_spells hname getBool_looks _).map
  | int n => exact (getInt_spells hname).map
  | double x => exact (getWith_spells hname getDouble_looks _).map
  | doubles xs => exact (getRegistered_spells hname getDoubles_looks _).map
  | buffer xs => exact (getRegistered_spells hname getDoubles_looks _).map.map
  | ints xs => exact (getRegistered_spells hname getInts_looks _).map
  | text t => exact (getWith_spells hname getString_looks _).map
  | blob b =>
    exact (getRegistered_spells hname getBlob_looks _).try fun _ => hrelease.then fun _ => trivial
  | image i =>
    exact (getRegistered_spells hname getImage_looks _).try fun _ => hrelease.then fun _ => trivial

end

/-! ## Assigning properties -/

theorem substitute_spells (type : TypeId) (v : Value) :
    (Property.substitute object name type v).run.Asks (Spells given) := by
  have hplain (n : Int32) : ∀ text, Payload.enumeration n ≠ .string text := nofun
  have hboxed (n : Int32) : (Value.ofEnum type n).run.Asks (Spells given) :=
    tableThenBoxed_spells type (hplain n)
  have hnumber (n : Int32) :
      (do return some (← Value.ofEnum type n) : Attempt (Option Value)).run.Asks (Spells given) :=
    (hboxed n).map
  refine (isEnumType_asks spells_of_inquiry type).then fun isEnum => ?_
  split
  · refine Asks.try ?_ hnumber
    refine (typeId_asks spells_of_inquiry object).then fun own =>
      (asks_silent (q := .call (.nicknameFind own)) rfl rfl).then fun domain =>
        (asks_silent (q := .call (.cellGet v.cell .string)) rfl rfl).then fun nick =>
          (asks_silent (q := .call (.enumFromNick domain type nick)) rfl rfl).then fun number => ?_
    split
    · exact ((getString_looks v).mono spells_of_looking).try fun _ =>
        (takeError_asks spells_of_question).then fun _ => trivial
    · trivial
  · split
    · exact ((getInt_looks v).mono spells_of_looking).try hnumber
    · exact (checkTransformable_asks spells_of_inquiry _ _).try fun _ => trivial

theorem set_spells (hname : (.name, name) ∈ given) (v : Value) :
    (Property.set object name v).run.Asks (Spells given) := by
  refine requireTable_spells.try fun _ => asks_onText fun text htext =>
    (lookup_asks spells_of_question object text (spells_one rfl rfl hname htext)).try fun found =>
      (substitute_spells _ v).try fun other => ?_
  have hset (w : Value) : (native (.setProperty object.handle text w.cell)).Asks (Spells given) :=
    asks_of (spells_one rfl rfl hname htext)
  cases other with
  | none => exact (hset v).lift
  | some other => exact (hset other).lift.closedBy (releaseValue_spells other)

/-! ## Whole operations -/

section

variable {operation : Operation} {nickname : String} {options : CallOptions}

theorem setInput_spells {argument : Argument}
    (h : argument.texts ++ [(.name, name)] ⊆ given) :
    (operation.set name argument).run.Asks (Spells given) := by
  obtain ⟨hargument, hname⟩ := List.append_subset.1 h
  refine (toValue_spells hargument).try fun v => Asks.closedBy ?_ (releaseValue_spells v)
  exact set_spells (hname (List.mem_singleton_self _)) v

theorem setAll_spells {inputs : List (String × Argument)}
    (h : ∀ input ∈ inputs, input.2.texts ++ [(.name, input.1)] ⊆ given) :
    (operation.setAll inputs).run.Asks (Spells given) := by
  induction inputs with
  | nil => trivial
  | cons input rest ih =>
    exact (setInput_spells (h input (List.mem_cons_self ..))).try fun _ =>
      ih fun input hinput => h input (List.mem_cons_of_mem _ hinput)

theorem newOperation_spells (h : (.nickname, nickname) ∈ given) :
    (Operation.new nickname).run.Asks (Spells given) := by
  refine requireTable_spells.try fun _ => asks_onText fun text htext =>
    (asks_of (q := .call (.operationNew text)) (spells_one rfl rfl h htext)).then fun handle => ?_
  cases handle with
  | none => exact (takeError_asks spells_of_question).then fun _ => trivial
  | some handle => trivial

theorem readAll_spells {outputs : List (String × Output)}
    (h : ∀ output ∈ outputs, (.name, output.1) ∈ given) :
    (operation.readAll outputs).Asks (Spells given) := by
  induction outputs with
  | nil => trivial
  | cons output rest ih =>
    apply (output_spells (h output (List.mem_cons_self ..)) output.2).bind
    intro answer
    cases answer with
    | error failure => trivial
    | ok found =>
      exact (ih fun output houtput => h output (List.mem_cons_of_mem _ houtput)).bind
        fun _ => trivial

theorem call_spells (hnickname : (.nickname, nickname) ∈ given)
    (hinputs : ∀ input ∈ options.inputs, input.2.texts ++ [(.name, input.1)] ⊆ given)
    (houtputs : ∀ output ∈ options.outputs, (.name, output.1) ∈ given) :
    (Operation.call nickname options).Asks (Spells given) := by
  refine (asks_silent (q := .log .debug _) rfl rfl).bind fun _ => Asks.bind ?_ ?_
  · refine (newOperation_spells hnickname).try fun operation =>
      (setAll_spells hinputs).result.try fun answer => ?_
    cases answer with
    | error failure => exact (releaseObject_spells operation.object).then fun _ => trivial
    | ok _ =>
      exact build_asks spells_of_question operation (spells_of_none rfl rfl)
        fun _ => ⟨spells_of_none rfl rfl, spells_of_none rfl rfl⟩
  · intro answer
    cases answer with
    | error failure => trivial
    | ok operation =>
      refine (readAll_spells houtputs).bind fun _ => Asks.bind ?_ fun _ =>
        (releaseObject_spells operation.object).bind fun _ => trivial
      exact requireTable_spells.try fun _ =>
        (asks_silent (q := .call (.unrefOutputs (some operation.object.handle))) rfl rfl).lift

end

/-! ## The library as a whole -/

section

variable {domain message : String} (hdomain : (.domain, domain) ∈ given)
  (hmessage : (.message, message) ∈ given)
include hdomain hmessage

theorem error_spells : (Control.error domain message).run.Asks (Spells given) :=
  requireTable_spells.try fun _ => asks_onText fun _ hsource => asks_onText fun _ htext =>
    Asks.lift (asks_of (spells_message rfl rfl hdomain hmessage hsource htext))

theorem errorSystem_spells (code : Int32) :
    (Control.errorSystem code domain message).run.Asks (Spells given) :=
  requireTable_spells.try fun _ => asks_onText fun _ hsource => asks_onText fun _ htext =>
    Asks.lift (asks_of (spells_message rfl rfl hdomain hmessage hsource htext))

end

theorem findCodec_spells (direction : Direction) {filename : String}
    (h : (.filename, filename) ∈ given) :
    (Control.findCodec direction filename).run.Asks (Spells given) := by
  refine requireTable_spells.try fun _ => asks_onText fun text htext =>
    (asks_of (q := .call (.findCodec direction text)) (spells_one rfl rfl h htext)).then
      fun nickname => ?_
  cases nickname with
  | none => exact (takeError_asks spells_of_question).then fun _ => trivial
  | some nickname => trivial

end Program

open Program Request

/-- Only calls pass texts on. -/
theorem spells_of_calls {given : List (TextUse × String)} {events : Transcript}
    (h : ∀ c ∈ events.calls, (Request.call c).Spells given) :
    ∀ e ∈ events, e.request.Spells given := by
  rintro ⟨q, r⟩ he
  cases q with
  | call c => exact h c (Transcript.mem_calls he)
  | _ => exact spells_of_none rfl rfl

/-- The settings of a start have no texts. -/
theorem SetUp.spells {given : List (TextUse × String)} {settings : List Setting}
    {events : Transcript} {r : Except Failure Unit} (h : SetUp settings events r)
    (htable : events.Lasting true) : ∀ e ∈ events, e.request.Spells given := by
  have hsettings : ∀ c ∈ settings.map Call.apply, (Request.call c).Spells given := by
    intro c hc
    obtain ⟨setting, -, rfl⟩ := List.mem_map.1 hc
    exact spells_of_none rfl rfl
  have hversion : ∀ c ∈ [Call.versionString], (Request.call c).Spells given := by
    intro c hc
    cases List.mem_singleton.1 hc
    exact spells_of_none rfl rfl
  apply spells_of_calls
  cases h with
  | done hcalls hmore _ =>
    rw [hcalls]
    refine List.forall_mem_append.2 ⟨hsettings, ?_⟩
    rcases hmore with rfl | rfl
    · exact nofun
    · exact hversion
  | unversioned hcalls _ _ =>
    rw [hcalls]
    exact List.forall_mem_append.2 ⟨hsettings, hversion⟩
  | lost hlost => exact absurd htable hlost

/-- The program name is passed on once. -/
theorem start_spells {given : List (TextUse × String)} {config : Config} {events : Transcript}
    {r : Except Failure Unit} (h : (.program, config.programName) ∈ given)
    (hrun : (Control.start config).run.Runs events r) (htable : events.Lasting true) :
    ∀ e ∈ events, e.request.Spells given := by
  have hload := load_asks (P := Spells given) spells_of_loading config.library
  rcases runs_try_iff.1 hrun with ⟨failure, hfailed, -⟩ | ⟨loading, rest, _, rfl, hloaded, hrest⟩
  · exact hload.of_runs hfailed
  refine List.forall_mem_append.2 ⟨hload.of_runs hloaded, ?_⟩
  rcases runs_try_iff.1 hrest with ⟨failure, htext, -⟩ | ⟨_, starting, text, rfl, htext, hstarting⟩
  · exact (nativeText_asks config.programName).of_runs htext
  obtain rfl := nativeText_runs htext
  obtain ⟨asked, answered, status, rfl, hasked, hanswered⟩ := runs_then_iff.1 hstarting
  obtain rfl := runs_request_iff.1 hasked
  refine List.forall_mem_cons.2 ⟨spells_one rfl rfl h (nativeText_ok htext), ?_⟩
  by_cases hstatus : status = 0
  · subst hstatus
    obtain ⟨-, hstarted⟩ := Transcript.lasting_append_iff.1 htable
    have hlasting : Transcript.Lasting true answered :=
      (Transcript.lasting_append_iff.1 hstarted).2.2
    exact (setsUp_settings _ _ hanswered).spells hlasting
  · dsimp only at hanswered
    rw [if_pos hstatus] at hanswered
    obtain ⟨taken, last, message, rfl, hmessage, hlast⟩ := runs_then_iff.1 hanswered
    obtain ⟨rfl, rfl⟩ := runs_done_iff.1 hlast
    show ∀ e ∈ taken ++ [], e.request.Spells given
    rw [List.append_nil]
    exact (takeError_asks spells_of_question).of_runs hmessage

/-! ## Deeds -/

/-- Whatever is done with texts, the library gets whole texts only. -/
theorem deed_spells {deed : Deed} {events : Transcript} {r : Except Failure (List Holding)}
    (htexts : deed.texts ≠ []) (hrun : deed.attempt.run.Runs events r)
    (htable : events.Lasting true) : ∀ e ∈ events, e.request.Spells deed.texts := by
  have hhead (c : Conversion) : c.given ∈ [c].map Conversion.given := List.mem_singleton_self _
  cases deed with
  | newOperation nickname => exact (newOperation_spells (hhead _)).map.of_runs hrun
  | setInput operation name argument =>
    exact (setInput_spells (Operation.inputConversions_given ▸ List.Subset.refl _)).map.of_runs hrun
  | call nickname options =>
    obtain ⟨first, second, answer, rfl, hcall, hdone⟩ := runs_bind_iff.1 hrun
    obtain ⟨rfl, rfl⟩ := runs_done_iff.1 hdone
    rw [List.append_nil]
    exact (call_spells Deed.nickname_mem_texts (fun _ => Deed.input_mem_texts)
      fun _ => Deed.output_mem_texts).of_runs hcall
  | box argument => exact (toValue_spells fun _ h => h).map.of_runs hrun
  | readProperty object name reading =>
    have hname : (.name, name) ∈ (Deed.readProperty object name reading).texts := by
      cases reading <;> exact List.mem_singleton_self _
    exact (readProperty_spells hname reading).of_runs hrun
  | readDoublesInto object name buffer =>
    exact (getRegistered_spells (hhead _) getDoubles_looks _).map.map.of_runs hrun
  | getAs object name type => exact (get_spells (hhead _) type).map.of_runs hrun
  | getDeclared object name => exact (getValue_spells (hhead _)).map.of_runs hrun
  | setProperty object name value => exact (set_spells (hhead _) value).map.of_runs hrun
  | look query =>
    cases query with
    | argument object name => exact (argument_spells (hhead _)).map.of_runs hrun
    | error domain message =>
      exact (error_spells (List.mem_cons_self ..)
        (List.mem_cons_of_mem _ (List.mem_singleton_self _))).map.of_runs hrun
    | errorSystem code domain message =>
      exact (errorSystem_spells (List.mem_cons_self ..)
        (List.mem_cons_of_mem _ (List.mem_singleton_self _)) code).map.of_runs hrun
    | findCodec direction filename =>
      exact (findCodec_spells direction (hhead _)).map.of_runs hrun
    | start config =>
      obtain ⟨answer, hstart, -⟩ := runs_map_iff.1 hrun
      exact start_spells (hhead _) hstart htable
    | _ => exact absurd rfl htexts
  | _ => exact absurd rfl htexts

end ImageGateway
