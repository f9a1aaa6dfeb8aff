-- Everything that a program can do with the gateway, and what it owns before
-- and after. One law covers all of it: what was used up is given back, and what
-- was made is held.

import ImageGateway.Proofs.Custody.Operations

namespace ImageGateway

/-- Something that someone owns and has to give back. -/
inductive Holding where
  | object (object : Object)
  | image (image : Image)
  | operation (operation : Operation)
  | blob (blob : Blob)
  | value (value : Value)
  /-- A copy of a text, which has to be freed. -/
  | text (text : CText)
  deriving DecidableEq

namespace Holding

/-- Gives it back. A copy of a text is never held by the program itself. -/
def release : Holding → Program Unit
  | object o => o.release
  | image i => i.release
  | operation o => o.release
  | blob b => b.release
  | value v => v.release
  | text _ => return

end Holding

/-- What an output owns. -/
def Output.holdings : Output → List Holding
  | blob (some b) => [.blob b]
  | image (some i) => [.image i]
  | _ => []

/-! ## Deeds -/

/-- A question about the library, a type or a thing, or a change of the settings. -/
inductive Query where
  | typeName (type : TypeId)
  | imageType
  | objectTypeName (object : Object)
  | nickname (object : Object)
  | isA (object : Object) (type : TypeId)
  | showObject (object : Object)
  | extent (image : Image) (which : Extent)
  | bytes (blob : Blob)
  | showBlob (blob : Blob)
  | valueTypeName (value : Value)
  | holds (value : Value) (type : TypeId)
  | showValue (value : Value)
  | argument (object : Object) (name : String)
  | version
  | errorBuffer
  | act (action : Action)
  | apply (setting : Setting)
  | read (gauge : Gauge)
  | error (domain message : String)
  | errorSystem (code : Int32) (domain message : String)
  | findCodec (direction : Direction) (filename : String)
  | cacheLimits
  | applyLimits (limits : CacheLimits)
  | environment
  | libraryRequired
  | load (paths : LibraryPaths)
  | start (config : Config)

/-- Carries out an attempt for what it does alone. -/
def Attempt.forget {α : Type} (attempt : Attempt α) : Program Unit := do
  let _ ← attempt.run
  return

/-- Carries out a program for what it does alone. -/
def Program.forget {α : Type} (p : Program α) : Program Unit := do
  let _ ← p
  return

/-- Asks. -/
def Query.program : Query → Program Unit
  | typeName type => (ImageGateway.typeName type).forget
  | imageType => Image.type.forget
  | objectTypeName object => object.typeName.forget
  | nickname object => object.nickname.forget
  | isA object type => (object.isA type).forget
  | showObject object => object.shown.forget
  | extent image which => (image.extent which).forget
  | bytes blob => blob.bytes.forget
  | showBlob blob => blob.shown.forget
  | valueTypeName value => value.typeName.forget
  | holds value type => (value.holds type).forget
  | showValue value => value.shown.forget
  | argument object name => (Property.argument object name).forget
  | version => Control.versionString.forget
  | errorBuffer => Control.errorBuffer.forget
  | act action => (Control.act action).forget
  | apply setting => (Control.apply setting).forget
  | read gauge => (Control.read gauge).forget
  | error domain message => (Control.error domain message).forget
  | errorSystem code domain message => (Control.errorSystem code domain message).forget
  | findCodec direction filename => (Control.findCodec direction filename).forget
  | cacheLimits => CacheLimits.current.forget
  | applyLimits limits => limits.apply.forget
  | environment => Config.fromEnvironment.forget
  | libraryRequired => Config.libraryRequired.forget
  | load paths => (Control.load paths).forget
  | start config => (Control.start config).forget

section

variable {α : Type} {P : Request → Prop}

theorem Program.Asks.forgotten {p : Attempt α} (h : p.run.Asks P) : p.forget.Asks P :=
  h.bind fun _ => trivial

theorem Program.Asks.forget {p : Program α} (h : p.Asks P) : p.forget.Asks P :=
  h.bind fun _ => trivial

/-- A query goes on in the background, unless it is about the extent of an image. -/
theorem Query.asks (hP : ∀ q : Request, q.Background → P q) (query : Query)
    (h : ∀ image which, query = .extent image which →
      P (.call (.extent which image.object.handle))) : query.program.Asks P := by
  have hI := inquiry_of (question_of hP)
  have hS := steady_of hP
  have hL := loading_of hP
  have henv (name : String) : P (.environment name) := hP _ trivial
  cases query with
  | typeName type => exact (typeName_asks hI type).forgotten
  | imageType => exact (imageType_asks hI).forgotten
  | objectTypeName object => exact (objectTypeName_asks hI object).forgotten
  | nickname object => exact (nickname_asks hI object).forgotten
  | isA object type => exact (isA_asks hI object type).forgotten
  | showObject object => exact .forget ((objectTypeName_asks hI object).bind fun _ => trivial)
  | extent image which =>
    exact ((onTable_asks hS).try fun _ =>
      .lift (Program.asks_request.2 (h image which rfl))).forgotten
  | bytes blob => exact (bytes_asks hS blob).forget
  | showBlob blob => exact .forget ((bytes_asks hS blob).bind fun _ => trivial)
  | valueTypeName value => exact (typeName_asks hI value.type).forgotten
  | holds value type => exact (holds_asks hS value type).forgotten
  | showValue value => exact .forget ((typeName_asks hI value.type).bind fun _ => trivial)
  | argument object name => exact (propertyInfo_asks hP object name).forgotten
  | version => exact (versionString_asks hS).forgotten
  | errorBuffer => exact (errorBuffer_asks hP).forgotten
  | act action => exact (act_asks hP action).forgotten
  | apply setting => exact (apply_asks hS setting).forgotten
  | read gauge => exact (read_asks hS gauge).forgotten
  | error domain message => exact (error_asks hS domain message).forgotten
  | errorSystem code domain message => exact (errorSystem_asks hS code domain message).forgotten
  | findCodec direction filename =>
    exact (findCodec_asks (question_of hP) (fun _ => hP _ trivial) filename).forgotten
  | cacheLimits => exact (currentLimits_asks hS).forgotten
  | applyLimits limits => exact (applyAll_asks hS limits.settings).forgotten
  | environment => exact (fromEnvironment_asks henv fun _ => hP (.log .warn _) trivial).forget
  | libraryRequired => exact .forget ((setting_asks henv _).bind fun _ => trivial)
  | load paths => exact (load_asks hL paths).forgotten
  | start config => exact (start_asks hL hS (takeError_asks (question_of hP)) config).forgotten

end

/-- What a value or a property is read as. -/
inductive Reading where
  | bool
  | int
  | uint64
  | double
  | text
  | ints
  | doubles
  | blob
  | image

/-- An attempt whose answer owns nothing. -/
def Attempt.nothing {α : Type} (attempt : Attempt α) : Attempt (List Holding) := do
  let _ ← attempt
  return []

/-- An attempt whose answer is owned, if there is one. -/
def Attempt.holding? {α : Type} (f : α → Holding) (attempt : Attempt (Option α)) :
    Attempt (List Holding) := do
  return (← attempt).toList.map f

/-- An attempt whose answer is owned. -/
def Attempt.holding {α : Type} (f : α → Holding) (attempt : Attempt α) :
    Attempt (List Holding) := do
  return [f (← attempt)]

namespace Reading

/-- Reads a value. -/
def ofValue : Reading → Value → Attempt (List Holding)
  | bool, v => v.getBool.nothing
  | int, v => v.getInt.nothing
  | uint64, v => v.getUInt64.nothing
  | double, v => v.getDouble.nothing
  | text, v => v.getString.nothing
  | ints, v => v.getInts.nothing
  | doubles, v => v.getDoubles.nothing
  | blob, v => v.getBlob.holding? .blob
  | image, v => v.getImage.holding? .image

/-- Reads a property. -/
def ofProperty : Reading → Object → String → Attempt (List Holding)
  | bool, o, name => (Property.getBool o name).nothing
  | int, o, name => (Property.getInt o name).nothing
  | uint64, o, name => (Property.getUInt64 o name).nothing
  | double, o, name => (Property.getDouble o name).nothing
  | text, o, name => (Property.getString o name).nothing
  | ints, o, name => (Property.getInts o name).nothing
  | doubles, o, name => (Property.getDoubles o name).nothing
  | blob, o, name => (Property.getBlob o name).holding? .blob
  | image, o, name => (Property.getImage o name).holding? .image

end Reading

/-- Something that a program does with the gateway. -/
inductive Deed where
  /-- Gives something back. -/
  | drop (thing : Holding)
  | cloneObject (object : Object)
  | cloneImage (image : Image)
  | cloneOperation (operation : Operation)
  /-- Takes a new reference to something that someone else holds. -/
  | borrowObject (handle : Option Handle)
  | borrowImage (handle : Option Handle)
  /-- Turns an object into an image. -/
  | asImage (object : Object)
  /-- Turns an image into a plain object. -/
  | asObject (image : Image)
  | newOperation (nickname : String)
  | setInput (operation : Operation) (name : String) (argument : Argument)
  | build (operation : Operation)
  | unrefOutputs (operation : Operation)
  | call (nickname : String) (options : CallOptions)
  | tileCache (image : Image) (options : TileOptions)
  | copyBytes (bytes : List UInt8)
  | source (blob : Blob)
  | memoryTarget
  | newValue (type : TypeId)
  | box (argument : Argument)
  | boxEnum (type : TypeId) (n : Int32)
  | boxBlob (blob : Blob)
  | readValue (value : Value) (reading : Reading)
  | readObject (value : Value)
  | readProperty (object : Object) (name : String) (reading : Reading)
  | readDoublesInto (object : Object) (name : String) (buffer : List Double)
  /-- Reads a property into a value of a type. -/
  | getAs (object : Object) (name : String) (type : TypeId)
  /-- Reads a property into a value of its own type. -/
  | getDeclared (object : Object) (name : String)
  | setProperty (object : Object) (name : String) (value : Value)
  | look (query : Query)

namespace Deed

/-- What comes of an attempt, and nothing if it fails. -/
def found (attempt : Attempt (List Holding)) : Program (List Holding) := do
  return (← attempt.run).toOption.getD []

/-- Does it. The answer is what was made. -/
def program : Deed → Program (List Holding)
  | drop thing => do
    thing.release
    return []
  | cloneObject object => return [.object (← object.clone)]
  | cloneImage image => return [.image ⟨← image.object.clone⟩]
  | cloneOperation operation => return [.operation (← operation.clone)]
  | borrowObject handle => found ((Object.borrow? handle).holding? .object)
  | borrowImage handle => found ((Image.borrow? handle).holding? .image)
  | asImage object => found ((Image.ofObject object).holding .image)
  | asObject image => return [.object image.object]
  | newOperation nickname => found ((Operation.new nickname).holding .operation)
  | setInput operation name argument => found (operation.set name argument).nothing
  | build operation => found (operation.build.holding .operation)
  | unrefOutputs operation => found operation.unrefOutputs.nothing
  | call nickname options => do
    let (_, outputs) ← Operation.call nickname options
    return outputs.flatMap Output.holdings
  | tileCache image options => found ((ImageGateway.tileCache image options).holding .image)
  | copyBytes bytes => found ((Blob.copyOf bytes).holding .blob)
  | source blob => found (blob.source.holding .object)
  | memoryTarget => found (ImageGateway.memoryTarget.holding .object)
  | newValue type => found ((Value.new type).holding .value)
  | box argument => found (argument.toValue.holding .value)
  | boxEnum type n => found ((Value.ofEnum type n).holding .value)
  | boxBlob blob => found ((Value.ofBlob blob).holding .value)
  | readValue value reading => found (reading.ofValue value)
  | readObject value => found (value.getObject.holding? .object)
  | readProperty object name reading => found (reading.ofProperty object name)
  | readDoublesInto object name buffer => found (Property.getDoublesInto object name buffer).nothing
  | getAs object name type => found ((Property.get object name type).holding .value)
  | getDeclared object name => found ((Property.getValue object name).holding .value)
  | setProperty object name value => found (Property.set object name value).nothing
  | look query => do
    query.program
    return []

/-- What the deed uses up. The outputs of a call are taken and come back. -/
def uses : Deed → List Holding
  | drop thing => [thing]
  | asImage object => [.object object]
  | asObject image => [.image image]
  | build operation => [.operation operation]
  | call _ options => options.held.flatMap Output.holdings
  | _ => []

/-- The value that the deed is lent. -/
def lent? : Deed → Option Value
  | readValue value _ | readObject value | setProperty _ _ value => some value
  | _ => none

end Deed

namespace Resource

variable {α : Type} {x : Resource} {s : Standing}

/-- How often a thing that is held owns the resource. -/
def worth (x : Resource) : Holding → Nat
  | .object o => x.one (.object o.handle)
  | .image i => x.one (.object i.object.handle)
  | .operation o => x.one (.object o.object.handle)
  | .blob b => x.one (.blob b.handle)
  | .value v => x.inCell v.cell
  | .text t => x.one (.text t)

/-- How often some things own the resource. -/
def worths (x : Resource) (things : List Holding) : Nat := (things.map x.worth).sum

@[simp] theorem worths_nil : x.worths [] = 0 := rfl

@[simp] theorem worths_cons (thing : Holding) (things : List Holding) :
    x.worths (thing :: things) = x.worth thing + x.worths things := rfl

@[simp] theorem worths_append (things more : List Holding) :
    x.worths (things ++ more) = x.worths things + x.worths more := by
  simp [worths]

theorem worths_perm {things more : List Holding} (h : things.Perm more) :
    x.worths things = x.worths more := (h.map x.worth).sum_nat

theorem worths_holdings (outputs : List Output) :
    x.worths (outputs.flatMap Output.holdings) = x.inOutputs outputs := by
  induction outputs with
  | nil => rfl
  | cons output rest ih =>
    rw [List.flatMap_cons, worths_append, inOutputs_cons, ih]
    congr 1
    rcases output with _ | _ | _ | _ | _ | _ | _ | (_ | b) | (_ | i) <;> rfl

theorem value_not_mem_holdings (outputs : List Output) (v : Value) :
    .value v ∉ outputs.flatMap Output.holdings := by
  intro hv
  obtain ⟨output, -, hv⟩ := List.mem_flatMap.1 hv
  rcases output with _ | _ | _ | _ | _ | _ | _ | (_ | b) | (_ | i) <;>
    simp [Output.holdings] at hv

/-- Every value among the things owns a cell that was initialised under a type. -/
def SoundAll (x : Resource) (things : List Holding) : Prop :=
  ∀ v, .value v ∈ things → x.Sound v.cell

theorem soundAll_append {things more : List Holding} :
    x.SoundAll (things ++ more) ↔ x.SoundAll things ∧ x.SoundAll more := by
  simp [SoundAll, or_imp, forall_and]

theorem soundAll_nil : x.SoundAll [] := fun _ hv => (List.not_mem_nil hv).elim

theorem soundAll_of_ne {thing : Holding} (hvalue : ∀ v, thing ≠ .value v) : x.SoundAll [thing] :=
  fun v hv => (hvalue v (List.mem_singleton.1 hv).symm).elim

theorem soundAll_value {v : Value} (h : x.Sound v.cell) : x.SoundAll [.value v] := by
  intro w hw
  cases List.mem_singleton.1 hw
  exact h

/-- Only values own cells. -/
theorem worth_of_ofCells (hx : x.OfCells) {thing : Holding} (hvalue : ∀ v, thing ≠ .value v) :
    x.worth thing = 0 := by
  cases thing with
  | value v => exact absurd rfl (hvalue v)
  | _ => exact one_of_ofCells hx id

theorem worths_of_ofCells (hx : x.OfCells) {things : List Holding}
    (hvalue : ∀ v, .value v ∉ things) : x.worths things = 0 := by
  induction things with
  | nil => rfl
  | cons thing rest ih =>
    rw [worths_cons, ih fun v hv => hvalue v (List.mem_cons_of_mem _ hv), worth_of_ofCells hx]
    rintro v rfl
    exact hvalue v (List.mem_cons_self ..)

/-- An attempt whose answer is what it gains. -/
abbrev Makes (x : Resource) (s : Standing) (p : Attempt (List Holding)) : Prop :=
  x.Gives s p x.worths x.SoundAll

/-- From the one standing to the other things were made and something was used up. A cell is made on
a published table only. -/
structure Made (x : Resource) (s t : Standing) (used : Nat) (things : List Holding) : Prop where
  sound : x.SoundAll things
  moves : s.Moves t used (x.worths things)
  loaded : x.OfCells → x.worths things = 0 ∨ t.loaded = true

theorem Made.nothing {t : Standing} {used : Nat} (h : s.Moves t used 0) : x.Made s t used [] :=
  ⟨soundAll_nil, h, fun _ => .inl rfl⟩

theorem Made.one {t : Standing} {used : Nat} {thing : Holding} (hvalue : ∀ v, thing ≠ .value v)
    (h : s.Moves t used (x.worth thing)) : x.Made s t used [thing] where
  sound := soundAll_of_ne hvalue
  moves := h
  loaded := fun hx => .inl (worth_of_ofCells hx hvalue)

/-- A program that uses something up, and whose answer is what it made. -/
abbrev Turns (x : Resource) (s : Standing) (p : Program (List Holding)) (used : Nat) : Prop :=
  x.watch.Ensures s p fun made t => x.Made s t used made

/-! ## Queries -/

theorem query_idle (query : Query) : query.program.Asks Idle :=
  query.asks idle_of_background fun _ _ _ => ⟨⟨fun _ => rfl, fun _ _ => rfl⟩, rfl⟩

/-! ## Attempts -/

theorem nothing_makes {p : Attempt α} (h : x.Keeps s p) : x.Makes s p.nothing := by
  apply Watch.Tries.bind h
  intro a t hend
  obtain ⟨ht, -, hmoves⟩ := hend
  exact ⟨ht, soundAll_nil, hmoves⟩

theorem holding_makes {p : Attempt α} {f : α → Holding} {owned : α → Nat} (h : x.Yields s p owned)
    (howned : ∀ a, x.worth (f a) = owned a) (hvalue : ∀ a v, f a ≠ .value v) :
    x.Makes s (p.holding f) := by
  apply Watch.Tries.bind h
  intro a t hend
  obtain ⟨ht, -, hmoves⟩ := hend
  exact ⟨ht, soundAll_of_ne (hvalue a), by simpa [howned] using hmoves⟩

theorem value_makes {p : Attempt Value} (h : x.YieldsValue s p) :
    x.Makes s (p.holding .value) := by
  apply Watch.Tries.bind h
  intro v t hend
  obtain ⟨ht, hsound, hmoves⟩ := hend
  exact ⟨ht, soundAll_value hsound, hmoves⟩

theorem maybe_makes {p : Attempt (Option α)} {f : α → Holding} {g : α → Resource}
    (h : x.Yields s p (x.inAny g)) (howned : ∀ a, x.worth (f a) = x.one (g a))
    (hvalue : ∀ a v, f a ≠ .value v) : x.Makes s (p.holding? f) := by
  apply Watch.Tries.bind h
  intro a t hend
  obtain ⟨ht, -, hmoves⟩ := hend
  cases a with
  | none => exact ⟨ht, soundAll_nil, hmoves⟩
  | some a => exact ⟨ht, soundAll_of_ne (hvalue a), by simpa [howned] using hmoves⟩

/-- What an attempt made is there after it, and a failed one left nothing. -/
theorem found_turns {p : Attempt (List Holding)} (h : x.Makes s p) :
    x.Turns s (Deed.found p) 0 := by
  refine Watch.Tries.run h ?_ ?_
  · intro made t hend
    obtain ⟨ht, hsound, hmoves⟩ := hend
    exact ⟨hsound, hmoves, fun _ => .inr ht⟩
  · intro failure t hmoves
    exact .nothing hmoves

/-! ## Deeds -/

theorem readValue_makes {v : Value} (reading : Reading) (hsound : x.Sound v.cell)
    (hcount : x.inCell v.cell ≤ s.there) : x.Makes s (reading.ofValue v) := by
  cases reading with
  | bool => exact nothing_makes (getBool_reader v s hsound hcount)
  | int => exact nothing_makes (getInt_reader v s hsound hcount)
  | uint64 => exact nothing_makes (getUInt64_reader v s hsound hcount)
  | double => exact nothing_makes (getDouble_reader v s hsound hcount)
  | text => exact nothing_makes (getString_reader v s hsound hcount)
  | ints => exact nothing_makes (getInts_reader v s hsound hcount)
  | doubles => exact nothing_makes (getDoubles_reader v s hsound hcount)
  | blob => exact maybe_makes (getBlob_reader v s hsound hcount) (fun _ => rfl) nofun
  | image => exact maybe_makes (getImage_reader v s hsound hcount) (fun _ => rfl) nofun

theorem readProperty_makes (object : Object) (name : String) (reading : Reading) :
    x.Makes s (reading.ofProperty object name) := by
  cases reading with
  | bool => exact nothing_makes (getWith_yields getBool_reader object name _)
  | int => exact nothing_makes (getInt_yields object name)
  | uint64 => exact nothing_makes (getWith_yields getUInt64_reader object name _)
  | double => exact nothing_makes (getWith_yields getDouble_reader object name _)
  | text => exact nothing_makes (getWith_yields getString_reader object name _)
  | ints => exact nothing_makes (getRegistered_yields getInts_reader object name _)
  | doubles => exact nothing_makes (getRegistered_yields getDoubles_reader object name _)
  | blob =>
    exact maybe_makes (getRegistered_yields getBlob_reader object name _) (fun _ => rfl) nofun
  | image =>
    exact maybe_makes (getRegistered_yields getImage_reader object name _) (fun _ => rfl) nofun

theorem drop_turns (thing : Holding) (hx : ∀ text, x ≠ .text text)
    (hs : s.loaded = true ∨ x.worth thing = 0) (hsound : x.SoundAll [thing])
    (h : x.worth thing ≤ s.count) : x.Turns s (Deed.drop thing).program (x.worth thing) := by
  have hrelease : x.watch.Ensures s thing.release fun _ t => s.Moves t (x.worth thing) 0 := by
    cases thing with
    | object o => exact releaseObject_ensures _ hs h
    | image i => exact releaseObject_ensures _ hs h
    | operation o => exact releaseObject_ensures _ hs h
    | blob b => exact releaseBlob_ensures hs h
    | value v => exact release_ensures hs (hsound v (List.mem_singleton_self _)) h
    | text t => exact (one_of_ne (hx t)) ▸ .refl s 0
  exact hrelease.bind fun _ _ ht => .nothing ht

/-- An attempt that uses something up and whose answer is owned. -/
theorem used_turns {p : Attempt α} {f : α → Holding} {n : Nat}
    (h : x.watch.Tries s p (fun a t => s.Moves t n (x.worth (f a))) fun _ t => s.Moves t n 0)
    (hvalue : ∀ a v, f a ≠ .value v) : x.Turns s (Deed.found (p.holding f)) n := by
  refine Watch.Tries.run (P := fun made t => x.Made s t n made)
    (Watch.Tries.bind h ?_) (fun _ _ h => h) ?_
  · intro a t ht
    exact .one (hvalue a) ht
  · intro failure t ht
    exact .nothing ht

/-- A program whose answer is owned. -/
theorem owned_turns {p : Program α} {f : α → Holding} {n : Nat}
    (h : x.watch.Ensures s p fun a t => x.worth (f a) = n ∧ s.Moves t 0 n)
    (hvalue : ∀ a v, f a ≠ .value v) : x.Turns s (do return [f (← p)]) 0 := by
  apply h.bind
  intro a t hend
  obtain ⟨howned, ht⟩ := hend
  exact .one (hvalue a) (howned ▸ ht)

theorem clone_ensures (object : Object) {f : Object → Holding}
    (hs : s.loaded = true ∨ x.OfCells)
    (hf : ∀ o, x.worth (f o) = x.one (.object o.handle)) :
    x.watch.Ensures s object.clone fun copy t =>
      x.worth (f copy) = x.one (.object object.handle) ∧
        s.Moves t 0 (x.one (.object object.handle)) := by
  refine (cloneObject_ensures (hs.imp id ?_)).mono ?_
  · exact fun hx => (one_of_ofCells hx id).symm
  · intro _ t hend
    obtain ⟨rfl, ht⟩ := hend
    exact ⟨hf _, ht⟩

/-- What a deed needs: it owns what it uses up, and the value that it is lent is there. Before a
table is published there is nothing but cells to look after, and none of them is used up. -/
structure Ready (x : Resource) (s : Standing) (deed : Deed) : Prop where
  owns : x.worths deed.uses ≤ s.count
  loaded : s.loaded = true ∨ x.OfCells ∧ x.worths deed.uses = 0
  noText : ∀ text, x ≠ .text text
  sound : x.SoundAll deed.uses
  lent : ∀ v, deed.lent? = some v → x.Sound v.cell ∧ x.inCell v.cell ≤ s.there

/-- Whatever comes of a deed, what it used up is gone and what it made is there. -/
theorem deed_turns (deed : Deed) (h : x.Ready s deed) :
    x.Turns s deed.program (x.worths deed.uses) := by
  obtain ⟨howns, hloaded, htext, hsound, hlent⟩ := h
  have hcell : s.loaded = true ∨ x.OfCells := hloaded.imp id fun h => h.1
  have hfree : s.loaded = true ∨ x.worths deed.uses = 0 := hloaded.imp id fun h => h.2
  cases deed with
  | drop thing => exact drop_turns thing htext hfree hsound howns
  | cloneObject object => exact owned_turns (clone_ensures object hcell fun _ => rfl) nofun
  | cloneImage image =>
    exact owned_turns (f := fun o => .image ⟨o⟩)
      (clone_ensures image.object hcell fun _ => rfl) nofun
  | cloneOperation operation =>
    have hclone : x.watch.Ensures s operation.clone fun copy t =>
        x.worth (.operation copy) = x.one (.object operation.object.handle) ∧
          s.Moves t 0 (x.one (.object operation.object.handle)) :=
      (clone_ensures operation.object (f := fun o => .operation { operation with object := o })
        hcell fun _ => rfl).bind fun _ _ h => h
    exact owned_turns hclone nofun
  | borrowObject handle =>
    rcases handle with _ | handle
    · exact .nothing (.refl s 0)
    · exact found_turns (maybe_makes (borrow_yields handle) (fun _ => rfl) nofun)
  | borrowImage handle =>
    rcases handle with _ | handle
    · exact .nothing (.refl s 0)
    · have hborrow : x.Yields s (Image.borrow? (some handle))
          (x.inAny fun i => .object i.object.handle) :=
        .map (borrow_yields handle) fun o => by cases o <;> rfl
      exact found_turns (maybe_makes hborrow (fun _ => rfl) nofun)
  | asImage object =>
    refine used_turns ((ofObject_tries _ hfree howns).mono ?_ fun _ _ ht => ht) nofun
    intro image t hend
    obtain ⟨himage, ht⟩ := hend
    exact ht.same (by simp [Deed.uses, worth, himage])
  | asObject image =>
    exact .one nofun (.refl s _)
  | newOperation nickname =>
    exact found_turns (holding_makes (newOperation_yields nickname) (fun _ => rfl) nofun)
  | setInput operation name argument =>
    exact found_turns (nothing_makes (setInput_keeps operation name argument))
  | build operation =>
    exact used_turns
      ((build_tries operation hfree howns).mono (fun _ _ ht => ht.2) fun _ _ ht => ht) nofun
  | unrefOutputs operation =>
    have hkeeps : x.Keeps s operation.unrefOutputs :=
      .onTable fun t ht _ => keeps_of_idle ht unrefOutputs_idle.lift
    exact found_turns (nothing_makes hkeeps)
  | call nickname options =>
    refine (call_ensures nickname options ?_).bind ?_
    · rw [← worths_holdings]
      exact howns
    · rintro ⟨result, outputs⟩ t ⟨-, -, hmoves⟩
      refine ⟨fun v hv => (value_not_mem_holdings outputs v hv).elim, ?_, ?_⟩
      · rw [Deed.uses, worths_holdings, worths_holdings]
        exact hmoves
      · exact fun hx => .inl (worths_of_ofCells hx (value_not_mem_holdings outputs))
  | tileCache image options =>
    exact found_turns (holding_makes (tileCache_yields image options) (fun _ => rfl) nofun)
  | copyBytes bytes => exact found_turns (holding_makes (copyOf_yields bytes) (fun _ => rfl) nofun)
  | source blob => exact found_turns (holding_makes (source_yields blob) (fun _ => rfl) nofun)
  | memoryTarget => exact found_turns (holding_makes memoryTarget_yields (fun _ => rfl) nofun)
  | newValue type => exact found_turns (value_makes (new_gives type))
  | box argument => exact found_turns (value_makes (toValue_gives argument))
  | boxEnum type n => exact found_turns (value_makes (ofEnum_gives type n))
  | boxBlob blob => exact found_turns (value_makes (ofBlob_gives blob))
  | readValue value reading =>
    obtain ⟨hvalue, hcount⟩ := hlent value rfl
    exact found_turns (readValue_makes reading hvalue hcount)
  | readObject value =>
    obtain ⟨hvalue, hcount⟩ := hlent value rfl
    exact found_turns (maybe_makes (getObject_reader value s hvalue hcount) (fun _ => rfl) nofun)
  | readProperty object name reading =>
    exact found_turns (readProperty_makes object name reading)
  | readDoublesInto object name buffer =>
    exact found_turns (nothing_makes (getDoublesInto_keeps object name buffer))
  | getAs object name type => exact found_turns (value_makes (get_gives object name type))
  | getDeclared object name => exact found_turns (value_makes (getValue_gives object name))
  | setProperty object name value =>
    obtain ⟨hvalue, hcount⟩ := hlent value rfl
    exact found_turns (nothing_makes (set_keeps object name hvalue hcount))
  | look query =>
    exact (ensures_idle (query_idle query)).bind fun _ _ ht => .nothing ht

end Resource

end ImageGateway
