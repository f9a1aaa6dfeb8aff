-- The shape that all entry points share. What is wrong with the arguments is
-- found out first and costs one warning. Otherwise the work is done on the
-- loaded library, a failure of it is logged, and the host finds what came of it.

import ImageGateway.Proofs.Custody.Exports
import ImageGateway.Proofs.Footprint

namespace ImageGateway

open Foreign (Place)

theorem run_then {α β : Type} (p : Program α) (f : α → Attempt β) :
    (liftM p >>= f).run = p >>= fun a => (f a).run := by
  show (p.bind _).bind _ = _
  rw [Program.bind_assoc]
  rfl

namespace Foreign

/-- The warning of an entry point. -/
def warning (entry text : String) : Event := ⟨.log .warn (entry ++ ": " ++ text), ()⟩

/-- The text that the caller passed, or what is wrong with it. -/
def borrowed : Option CText → Except String String
  | none => .error "null string argument"
  | some text =>
    match text.decode with
    | .ok s => .ok s
    | .error fault => .error fault.message

/-- The pairs up to the first null name, or what is wrong with a name among them. -/
def borrowedPairs : List (Option CText × Int32) → Except String (List (String × Int32))
  | [] | (none, _) :: _ => .ok []
  | (some name, n) :: rest => do
    let name ← borrowed (some name)
    let others ← borrowedPairs rest
    return (name, n) :: others

/-- What an entry point logs of the result of its work. -/
def logged {α : Type} (entry : String) : Except Failure α → Transcript
  | .ok _ => []
  | .error failure => [warning entry failure.message]

/-- The answer of an attempt. A failure is logged. -/
def reported {α : Type} (entry : String) (attempt : Attempt α) : Program (Option α) := do
  match ← attempt.run with
  | .ok answer => return some answer
  | .error failure =>
    warn entry failure.message
    return none

/-- Does a task on the loaded library, or warns of what is wrong with the arguments. -/
def tried {α : Type} (entry : String) (load : Attempt Unit) (task : Except String (Attempt α)) :
    Program (Option α) :=
  match task with
  | .error problem => do
    warn entry problem
    return none
  | .ok attempt => reported entry do
    load
    attempt

/-- Makes a value for the cell of the host. -/
def filling (place : Place) (make : Attempt Value) : Except String (Attempt Value) :=
  match place with
  | .null => .error "null GValue"
  | .writable => .ok make

/-- Does something with an operation and a property name of the host. -/
def onBorrowed {α : Type} (operation : Option Handle) (name : Option CText)
    (f : Object → String → Attempt α) : Except String (Attempt α) := do
  let name ← borrowed name
  return match operation with
    | some handle => f ⟨handle⟩ name
    | none => throw (.nullPointer .operation)

/-- Caches an image of the host. -/
def caching (image : Option Handle) (place : Place) (options : TileOptions) :
    Except String (Attempt Image) :=
  match place with
  | .null => .error "null output pointer"
  | .writable => .ok do
    match ← Image.borrow? image with
    | some borrowed => (tileCache borrowed options).closedBy borrowed.release
    | none => throw (.nullPointer .image)

theorem borrowText_eq (entry : String) (text : Option CText) :
    borrowText entry text =
      match borrowed text with
      | .ok s => return some s
      | .error problem => do
        warn entry problem
        return none := by
  rcases text with _ | text
  · rfl
  · unfold borrowText borrowed
    dsimp only
    cases text.decode <;> rfl

theorem borrowPairs_eq (entry : String) (pairs : List (Option CText × Int32)) :
    borrowPairs entry pairs =
      match borrowedPairs pairs with
      | .ok found => return some found
      | .error problem => do
        warn entry problem
        return none := by
  induction pairs with
  | nil => rfl
  | cons pair rest ih =>
    obtain ⟨_ | name, n⟩ := pair
    · rfl
    · unfold borrowPairs borrowedPairs
      rw [borrowText_eq, ih]
      cases borrowed (some name) with
      | error problem => rfl
      | ok name => cases borrowedPairs rest <;> rfl

end Foreign

namespace Export

/-- The name of the entry point. -/
def name : Export → String
  | setBool .. => "vo_set_bool"
  | setInt .. => "vo_set_int"
  | setUInt64 .. => "vo_set_guint64"
  | setDouble .. => "vo_set_double"
  | setString .. => "vo_set_string"
  | setInts .. => "vo_set_int_array"
  | setDoubles .. => "vo_set_double_array"
  | setImages .. => "vo_set_images"
  | setBlob .. => "vo_set_blob"
  | setObject .object .. => "vo_set_object"
  | setObject .image .. => "vo_set_image"
  | setObject .source .. => "vo_set_source"
  | setObject .target .. => "vo_set_target"
  | getPlain .bool .. => "vo_get_bool"
  | getPlain .int .. => "vo_get_int"
  | getPlain .uint64 .. => "vo_get_guint64"
  | getPlain .double .. => "vo_get_double"
  | getHanding .text .. => "vo_get_string"
  | getHanding .blob .. => "vo_get_blob"
  | getHanding .image .. => "vo_get_image"
  | getInts .. => "vo_get_int_array"
  | getDoubles .. => "vo_get_double_array"
  | setProperty .. => "vo_set_property"
  | cacheImage .. => "vips_cache_bridge"
  | cacheImageWith .. => "vips_cache_fixed_bridge"
  | start _ => "vo_init"

/-! ## What is done, and what the host finds -/

/-- What comes of the work of the entry point. -/
abbrev Yield : Export → Type
  | getPlain .bool .. | getPlain .int .. => Int32
  | getPlain .uint64 .. => UInt64
  | getPlain .double .. => Double
  | getHanding .text .. => Option CText
  | getHanding .blob .. | getHanding .image .. => Option Handle
  | getInts .. => List Int32
  | getDoubles .. => List Double
  | setProperty .. | start _ => Unit
  | cacheImage .. | cacheImageWith .. => Image
  | _ => Value

/-- What the host finds after the call: what was stored for it, and the status. -/
abbrev Answer : Export → Type
  | getPlain .bool .. | getPlain .int .. => Option Int32
  | getPlain .uint64 .. => Option UInt64
  | getPlain .double .. => Option Double
  | getHanding .text .. => Option (Option CText)
  | getHanding .blob .. | getHanding .image .. => Option (Option Handle)
  | getInts .. => Int32 × Option (List Int32)
  | getDoubles .. => Int32 × Option (List Double)
  | setProperty .. => Unit
  | start _ => Int32
  | cacheImage .. | cacheImageWith .. => Int32 × Option Handle
  | _ => Option Cell

/-- The call of the entry point. -/
def call : (e : Export) → Program e.Answer
  | setBool place n => Foreign.setBool place n
  | setInt place n => Foreign.setInt place n
  | setUInt64 place n => Foreign.setUInt64 place n
  | setDouble place x => Foreign.setDouble place x
  | setString place text => Foreign.setString place text
  | setInts place items size => Foreign.setInts place items size
  | setDoubles place items size => Foreign.setDoubles place items size
  | setImages place items size => Foreign.setImages place items size
  | setBlob place blob => Foreign.setBlob place blob
  | setObject .object place object => Foreign.setObject place object
  | setObject .image place object => Foreign.setImage place object
  | setObject .source place object => Foreign.setSource place object
  | setObject .target place object => Foreign.setTarget place object
  | getPlain .bool operation name place => Foreign.getBool operation name place
  | getPlain .int operation name place => Foreign.getInt operation name place
  | getPlain .uint64 operation name place => Foreign.getUInt64 operation name place
  | getPlain .double operation name place => Foreign.getDouble operation name place
  | getHanding .text operation name place => Foreign.getString operation name place
  | getHanding .blob operation name place => Foreign.getBlob operation name place
  | getHanding .image operation name place => Foreign.getImage operation name place
  | getInts operation name buffer size => Foreign.getInts operation name buffer size
  | getDoubles operation name buffer size => Foreign.getDoubles operation name buffer size
  | setProperty object name cell => Foreign.setProperty object name cell
  | cacheImage image place => Foreign.cacheImage image place
  | cacheImageWith image place pairs => Foreign.cacheImageWith image place pairs
  | start name => Foreign.start name

/-- The work of the entry point on the loaded library, or what is wrong with the arguments. -/
def task : (e : Export) → Except String (Attempt e.Yield)
  | setBool place n => Foreign.filling place (Value.ofBool (n != 0))
  | setInt place n => Foreign.filling place (Value.ofInt n)
  | setUInt64 place n => Foreign.filling place (Value.ofUInt64 n)
  | setDouble place x => Foreign.filling place (Value.ofDouble x)
  | setString place text => do Foreign.filling place (Value.ofString (← Foreign.borrowed text))
  | setInts place items size =>
    Foreign.filling place (Value.ofInts (.ofList (Foreign.lent items size)))
  | setDoubles place items size =>
    Foreign.filling place (Value.ofDoubles (.ofList (Foreign.lent items size)))
  | setImages place items size => Foreign.filling place do
    let images ← Foreign.borrowImages [] (Foreign.lent items size)
    (Value.ofImages images).closedBy (Foreign.releaseAll images)
  | setBlob place blob => Foreign.filling place <|
    match blob with
    | some handle => Value.ofBlob ⟨handle⟩
    | none => throw (.nullPointer .blob)
  | setObject _ place object => Foreign.filling place <|
    match object with
    | some handle => Value.ofObject ⟨handle⟩
    | none => throw (.nullPointer .object)
  | getPlain .bool operation name _ => Foreign.onBorrowed operation name fun object name => do
    return if ← Property.getBool object name then 1 else 0
  | getPlain .int operation name _ => Foreign.onBorrowed operation name Property.getInt
  | getPlain .uint64 operation name _ => Foreign.onBorrowed operation name Property.getUInt64
  | getPlain .double operation name _ => Foreign.onBorrowed operation name Property.getDouble
  | getHanding .text operation name _ => Foreign.onBorrowed operation name Property.copyText
  | getHanding .blob operation name _ => Foreign.onBorrowed operation name fun object name => do
    return (← Property.getBlob object name).map Blob.handle
  | getHanding .image operation name _ => Foreign.onBorrowed operation name fun object name => do
    return (← Property.getImage object name).map (·.object.handle)
  | getInts operation name _ _ => Foreign.onBorrowed operation name Property.getInts
  | getDoubles operation name _ _ => Foreign.onBorrowed operation name Property.getDoubles
  | setProperty _ _ none => .error "null GValue"
  | setProperty object name (some cell) => Foreign.onBorrowed object name fun object name =>
    Property.set object name ⟨cell⟩
  | cacheImage image place => Foreign.caching image place { }
  | cacheImageWith image place pairs => do
    let pairs ← Foreign.borrowedPairs pairs
    Foreign.caching image place (← Foreign.parseTileOptions { } pairs)
  | start name => .ok do
    let config ← Config.fromEnvironment
    Control.start
      (match name with
      | some name => { config with programName := name.lossy }
      | none => config)

/-- What the entry point does before its work. A start loads the library itself. -/
def load : Export → Attempt Unit
  | start _ => return
  | _ => Foreign.ensureLoaded

/-- What comes of the work, if the arguments are good and it does not fail. -/
def worked (e : Export) : Program (Option e.Yield) := Foreign.tried e.name e.load e.task

/-- Whether the host has no place for what a reader finds. It hears of that last. -/
def late : Export → Bool
  | getPlain _ _ _ .null | getHanding _ _ _ .null => true
  | _ => false

/-- What a buffer is after values were copied into it, and how many. -/
def copied {α : Type} (buffer : Option (List α)) (size : Int32) :
    Option (List α) → Int32 × Option (List α)
  | none => (-1, buffer)
  | some values =>
    (Int32.ofNat (min values.length (Foreign.lent buffer size).length),
      buffer.map fun items => Property.overwrite (Foreign.lent buffer size) values ++
        items.drop (Foreign.lent buffer size).length)

/-- What is stored of a cached image, after the status. -/
def shared : Option Image → Int32 × Option Handle
  | none => (-1, none)
  | some image => (0, some image.object.handle)

/-- What the host finds, given what came of the work. -/
def answer : (e : Export) → Option e.Yield → e.Answer
  | setBool .. | setInt .. | setUInt64 .. | setDouble .. | setString .. | setInts ..
  | setDoubles .. | setImages .. | setBlob .. | setObject .. => fun made => made.map Value.cell
  | getPlain .bool _ _ place | getPlain .int _ _ place | getPlain .uint64 _ _ place
  | getPlain .double _ _ place | getHanding .text _ _ place | getHanding .blob _ _ place
  | getHanding .image _ _ place => fun found =>
    match place with
    | .null => none
    | .writable => found
  | getInts _ _ buffer size => copied buffer size
  | getDoubles _ _ buffer size => copied buffer size
  | setProperty .. => fun _ => ()
  | cacheImage .. | cacheImageWith .. => shared
  | start _ => fun started => if started.isSome then 0 else -1

/-! ## The shape -/

section

variable {α : Type} (entry : String)

theorem fill_eq (place : Place) (make : Attempt Value) :
    Foreign.fill entry place make = do
      let made ← Foreign.tried entry Foreign.ensureLoaded (Foreign.filling place make)
      return made.map Value.cell := by
  cases place <;> rfl

theorem onProperty_eq (operation : Option Handle) (name : Option CText)
    (f : Object → String → Attempt α) :
    Foreign.onProperty entry operation name f =
      Foreign.tried entry Foreign.ensureLoaded (Foreign.onBorrowed operation name f) := by
  unfold Foreign.onProperty Foreign.onBorrowed
  rw [Foreign.borrowText_eq]
  cases Foreign.borrowed name <;> rfl

theorem fetch_eq (operation : Option Handle) (name : Option CText) (place : Place)
    (f : Object → String → Attempt α) :
    Foreign.fetch entry operation name place f = do
      let answer ← Foreign.tried entry Foreign.ensureLoaded (Foreign.onBorrowed operation name f)
      match place with
      | .null => do
        Foreign.warn entry "null output pointer"
        return none
      | .writable => return answer := by
  unfold Foreign.fetch
  rw [onProperty_eq]
  cases place <;> rfl

theorem fetchInto_eq (operation : Option Handle) (name : Option CText) (buffer : Option (List α))
    (size : Int32) (f : Object → String → Attempt (List α)) :
    Foreign.fetchInto entry operation name buffer size f = do
      let values ← Foreign.tried entry Foreign.ensureLoaded (Foreign.onBorrowed operation name f)
      return copied buffer size values := by
  unfold Foreign.fetchInto
  rw [onProperty_eq]
  dsimp only
  congr 1
  funext values
  cases values <;> rfl

theorem runTileCache_eq (image : Option Handle) (place : Place) (options : TileOptions) :
    Foreign.runTileCache entry image place options = do
      let cached ← Foreign.tried entry Foreign.ensureLoaded (Foreign.caching image place options)
      return shared cached := by
  cases place with
  | null => rfl
  | writable =>
    show Foreign.guarded entry _ >>= _ = Foreign.guarded entry _ >>= _
    congr 1
    funext cached
    cases cached <;> rfl

theorem runParsed_eq (image : Option Handle) (place : Place) (pairs : List (String × Int32)) :
    (match Foreign.parseTileOptions { } pairs with
      | .ok options => Foreign.runTileCache entry image place options
      | .error text => do
        Foreign.warn entry text
        return (-1, none)) = do
      let cached ← Foreign.tried entry Foreign.ensureLoaded do
        Foreign.caching image place (← Foreign.parseTileOptions { } pairs)
      return shared cached := by
  cases Foreign.parseTileOptions { } pairs with
  | error problem => rfl
  | ok options => exact runTileCache_eq ..

end

theorem start_eq (host : Option CText) :
    (start host).call = do
      let started ← (start host).worked
      return if started.isSome then 0 else -1 := by
  have hrun (f : Config → Attempt Unit) :
      (do load (start host); liftM Config.fromEnvironment >>= f : Attempt Unit).run =
        Config.fromEnvironment >>= fun config => (f config).run := run_then _ f
  simp only [call, Foreign.start, worked, Foreign.tried, task, Foreign.reported, hrun, bind_assoc]
  congr 1
  funext config
  congr 1
  funext result
  cases result <;> rfl

/-- An entry point does its work, warns once more if the host has no place for what it found, and
leaves the rest with the host. -/
theorem call_eq (e : Export) : e.call = do
    let yield ← e.worked
    if e.late then Foreign.warn e.name "null output pointer"
    return e.answer yield := by
  cases e with
  | setBool place n => exact fill_eq ..
  | setInt place n => exact fill_eq ..
  | setUInt64 place n => exact fill_eq ..
  | setDouble place x => exact fill_eq ..
  | setString place text =>
    simp only [call, Foreign.setString, Foreign.borrowText_eq, worked, task]
    cases Foreign.borrowed text with
    | error problem => rfl
    | ok s => exact fill_eq ..
  | setInts place items size => exact fill_eq ..
  | setDoubles place items size => exact fill_eq ..
  | setImages place items size => exact fill_eq ..
  | setBlob place blob => exact fill_eq ..
  | setObject kin place object => cases kin <;> exact fill_eq ..
  | getPlain plain operation name place =>
    cases plain <;> refine (fetch_eq ..).trans ?_ <;> cases place <;> rfl
  | getHanding handing operation name place =>
    cases handing <;> refine (fetch_eq ..).trans ?_ <;> cases place <;> rfl
  | getInts operation name buffer size => exact fetchInto_eq ..
  | getDoubles operation name buffer size => exact fetchInto_eq ..
  | setProperty object name cell =>
    cases cell with
    | none => rfl
    | some cell =>
      simp only [call, Foreign.setProperty, onProperty_eq]
      rfl
  | cacheImage image place => exact runTileCache_eq ..
  | cacheImageWith image place pairs =>
    simp only [call, Foreign.cacheImageWith, Foreign.borrowPairs_eq, worked, task]
    cases Foreign.borrowedPairs pairs with
    | error problem => rfl
    | ok pairs => exact runParsed_eq ..
  | start host => exact start_eq host

/-! ## Runs of an entry point -/

/-- How a task went: refused at once, failed with a warning, or done. -/
inductive Tried {α : Type} (entry : String) (load : Attempt Unit) :
    Except String (Attempt α) → Transcript → Option (Except Failure α) → Prop where
  | refused (problem : String) :
    Tried entry load (.error problem) [Foreign.warning entry problem] none
  | failed {task : Attempt α} {events : Transcript} (failure : Failure)
      (hrun : (do load; task).run.Runs events (.error failure)) :
    Tried entry load (.ok task) (events ++ [Foreign.warning entry failure.message])
      (some (.error failure))
  | done {task : Attempt α} {events : Transcript} (a : α)
      (hrun : (do load; task).run.Runs events (.ok a)) :
    Tried entry load (.ok task) events (some (.ok a))

/-- What came of a task, if it was done. -/
def yielded {α : Type} (result : Option (Except Failure α)) : Option α :=
  result.bind Except.toOption

open Program in
theorem runs_reported_iff {α : Type} {entry : String} {attempt : Attempt α} {events : Transcript}
    {yield : Option α} :
    (Foreign.reported entry attempt).Runs events yield ↔
      ∃ inner r, events = inner ++ Foreign.logged entry r ∧ attempt.run.Runs inner r ∧
        yield = r.toOption := by
  apply runs_bind_iff.trans
  constructor
  · rintro ⟨inner, last, failure | a, rfl, hrun, hlast⟩
    · obtain ⟨_, rest, rfl, hrest⟩ := runs_ask_iff.1 hlast
      obtain ⟨rfl, rfl⟩ := runs_done_iff.1 hrest
      exact ⟨inner, .error failure, rfl, hrun, rfl⟩
    · obtain ⟨rfl, rfl⟩ := runs_done_iff.1 hlast
      exact ⟨inner, .ok a, rfl, hrun, rfl⟩
  · rintro ⟨inner, failure | a, rfl, hrun, rfl⟩
    · exact ⟨inner, _, .error failure, rfl, hrun, .ask _ (.done _)⟩
    · exact ⟨inner, [], .ok a, rfl, hrun, .done _⟩

open Program in
theorem tried_of_runs {α : Type} {entry : String} {load : Attempt Unit}
    {task : Except String (Attempt α)} {events : Transcript} {a : Option α}
    (h : (Foreign.tried entry load task).Runs events a) :
    ∃ result, Tried entry load task events result ∧ a = yielded result := by
  cases task with
  | error problem =>
    obtain ⟨r, rest, rfl, hrest⟩ := runs_ask_iff.1 h
    obtain ⟨rfl, rfl⟩ := runs_done_iff.1 hrest
    exact ⟨none, .refused problem, rfl⟩
  | ok task =>
    obtain ⟨inner, r, rfl, hrun, rfl⟩ := runs_reported_iff.1 h
    cases r with
    | error failure => exact ⟨some (.error failure), .failed failure hrun, rfl⟩
    | ok answer =>
      refine ⟨some (.ok answer), ?_, rfl⟩
      rw [show Foreign.logged entry (.ok answer) = [] from rfl, List.append_nil]
      exact .done answer hrun

/-- The warning of a reader that has no place for what it found. -/
def lateWarning (e : Export) : Transcript :=
  if e.late then [Foreign.warning e.name "null output pointer"] else []

open Program in
theorem tried_of_call {e : Export} {events : Transcript} {answer : e.Answer}
    (h : e.call.Runs events answer) :
    ∃ first result, Tried e.name e.load e.task first result ∧ events = first ++ e.lateWarning ∧
      answer = e.answer (yielded result) := by
  rw [call_eq] at h
  obtain ⟨first, second, yield, rfl, hfirst, hsecond⟩ := runs_bind_iff.1 h
  obtain ⟨result, htried, rfl⟩ := tried_of_runs hfirst
  refine ⟨first, result, htried, ?_⟩
  unfold lateWarning
  split at hsecond
  · obtain ⟨r, rest, rfl, hrest⟩ := runs_ask_iff.1 hsecond
    obtain ⟨rfl, rfl⟩ := runs_done_iff.1 hrest
    simp_all [Foreign.warning]
  · obtain ⟨rfl, rfl⟩ := runs_done_iff.1 hsecond
    simp_all

/-! ## The tasks, taken apart -/

section

variable {α : Type}

/-- A chain that comes to an end went through each of its links. -/
theorem bind_ok {ε β : Type} {x : Except ε α} {f : α → Except ε β} {b : β}
    (h : x >>= f = .ok b) : ∃ a, x = .ok a ∧ f a = .ok b := by
  cases x with
  | error e => cases h
  | ok a => exact ⟨a, rfl, h⟩

theorem filling_ok {place : Place} {make task : Attempt Value}
    (h : Foreign.filling place make = .ok task) : place = .writable ∧ task = make := by
  cases place with
  | null => cases h
  | writable =>
    cases h
    exact ⟨rfl, rfl⟩

/-- A task on a property is nothing but a failure if there is no operation. -/
theorem onBorrowed_ok {operation : Option Handle} {name : Option CText}
    {f : Object → String → Attempt α} {task : Attempt α}
    (h : Foreign.onBorrowed operation name f = .ok task) :
    (operation = none ∧ task = throw (.nullPointer .operation)) ∨
      ∃ handle s, operation = some handle ∧ Foreign.borrowed name = .ok s ∧
        task = f ⟨handle⟩ s := by
  obtain ⟨s, hs, h⟩ := bind_ok h
  cases operation with
  | none =>
    cases h
    exact .inl ⟨rfl, rfl⟩
  | some handle =>
    cases h
    exact .inr ⟨handle, s, rfl, hs, rfl⟩

end

/-! ## What is asked for -/

section

variable {α : Type} {P : Request → Prop}

theorem tried_asks {entry : String} {load : Attempt Unit} {task : Except String (Attempt α)}
    (hwarn : ∀ line, P (.log .warn line)) (hload : load.run.Asks P)
    (htask : ∀ attempt, task = .ok attempt → attempt.run.Asks P) :
    (Foreign.tried entry load task).Asks P := by
  cases task with
  | error problem => exact (Program.asks_of (hwarn _)).bind fun _ => trivial
  | ok attempt =>
    apply (hload.try fun _ => htask attempt rfl).bind
    intro result
    cases result with
    | error failure => exact (Program.asks_of (hwarn _)).bind fun _ => trivial
    | ok answer => trivial

theorem call_asks {e : Export} (hwarn : ∀ line, P (.log .warn line)) (hload : e.load.run.Asks P)
    (htask : ∀ attempt, e.task = .ok attempt → attempt.run.Asks P) : e.call.Asks P := by
  rw [call_eq]
  refine (tried_asks hwarn hload htask).bind fun yield => ?_
  split
  · exact (Program.asks_of (hwarn _)).bind fun _ => trivial
  · trivial

theorem program_asks {e : Export} (h : e.call.Asks P) : e.program.Asks P := by
  cases e with
  | setObject kin => cases kin <;> exact h.bind fun _ => trivial
  | getPlain plain => cases plain <;> exact h.bind fun _ => trivial
  | getHanding handing => cases handing <;> exact h.bind fun _ => trivial
  | _ => exact h.bind fun _ => trivial

open Program Request

theorem releaseAll_looks (images : List Image) : (Foreign.releaseAll images).Asks Looking := by
  induction images with
  | nil => trivial
  | cons image rest ih =>
    have hrelease : image.object.release.Asks Looking :=
      objectRelease_asks looking_of_inquiry trivial
    exact hrelease.bind fun _ => ih

theorem borrowImages_looks (taken : List Image) (items : List (Option Handle)) :
    (Foreign.borrowImages taken items).run.Asks Looking := by
  induction items generalizing taken with
  | nil => trivial
  | cons handle rest ih =>
    apply (borrow_looks handle).map.result.try
    rintro (failure | _ | image)
    · exact (releaseAll_looks taken).then fun _ => trivial
    · exact (releaseAll_looks taken).then fun _ => trivial
    · exact ih _

/-- The work of an entry point is that of an operation, and only an array of images has slots. -/
theorem task_asks (hP : ∀ q : Request, q.Operating → P q) {e : Export}
    (hslots : ∀ place items size, e = .setImages place items size → ∀ q : Request, q.Slotting → P q)
    (hstart : ∀ host, e ≠ .start host) {attempt : Attempt e.Yield} (h : e.task = .ok attempt) :
    attempt.run.Asks P := by
  have hboxed {make : Attempt Value} {place : Place} {attempt : Attempt Value}
      (hmake : make.run.Asks Boxing) (h : Foreign.filling place make = .ok attempt) :
      attempt.run.Asks P := by
    obtain ⟨-, rfl⟩ := filling_ok h
    exact hmake.mono fun q hq => hP q (operating_of_boxing q hq)
  have hread {β : Type} {f : Object → String → Attempt β} {operation : Option Handle}
      {name : Option CText} {attempt : Attempt β}
      (hf : ∀ (object : Object) s, (f object s).run.Asks P)
      (h : Foreign.onBorrowed operation name f = .ok attempt) : attempt.run.Asks P := by
    obtain ⟨-, rfl⟩ | ⟨handle, s, -, -, rfl⟩ := onBorrowed_ok h
    · trivial
    · exact hf ⟨handle⟩ s
  have hgot {β : Type} {f : Object → String → Attempt β} {operation : Option Handle}
      {name : Option CText} {attempt : Attempt β}
      (hf : ∀ (object : Object) s, (f object s).run.Asks (Request.Reading object.handle))
      (h : Foreign.onBorrowed operation name f = .ok attempt) : attempt.run.Asks P :=
    hread (fun object s => (hf object s).mono fun q hq => hP q (operating_of_reading q hq)) h
  have hcached {image : Option Handle} {place : Place} {options : TileOptions}
      {attempt : Attempt Image} (h : Foreign.caching image place options = .ok attempt) :
      attempt.run.Asks P := by
    cases place with
    | null => cases h
    | writable =>
      cases h
      apply ((borrow_looks image).mono fun q hq => hP q (operating_of_looking q hq)).map.try
      intro borrowed
      cases borrowed with
      | none => trivial
      | some borrowed => exact (tileCache_asks hP borrowed options).closedBy (release_asks hP _)
  cases e with
  | setBool place n => exact hboxed (tableThenFilled_boxes _ _) h
  | setInt place n => exact hboxed (tableThenFilled_boxes _ _) h
  | setUInt64 place n => exact hboxed (tableThenFilled_boxes _ _) h
  | setDouble place x => exact hboxed (tableThenFilled_boxes _ _) h
  | setString place text =>
    obtain ⟨s, -, h⟩ := bind_ok h
    exact hboxed (ofString_boxes s) h
  | setInts place items size => exact hboxed (ofInts_boxes _) h
  | setDoubles place items size => exact hboxed (ofDoubles_boxes _) h
  | setImages place items size =>
    have hS := hslots place items size rfl
    obtain ⟨-, rfl⟩ := filling_ok h
    refine ((borrowImages_looks [] _).mono fun q hq => hP q (operating_of_looking q hq)).try
      fun images => ((ofImages_slots images).mono hS).closedBy ?_
    exact (releaseAll_looks images).mono fun q hq => hP q (operating_of_looking q hq)
  | setBlob place blob =>
    refine hboxed ?_ h
    cases blob with
    | none => trivial
    | some handle => exact ofBlob_boxes ⟨handle⟩
  | setObject kin place object =>
    refine hboxed ?_ h
    cases object with
    | none => trivial
    | some handle => exact ofObject_boxes ⟨handle⟩
  | getPlain plain operation name place =>
    cases plain with
    | bool =>
      simp only [task] at h
      refine hgot ?_ h
      exact fun object s => (getWith_reads getBool_looks s _).map
    | int =>
      simp only [task] at h
      refine hgot ?_ h
      exact fun object s => (argument_reads s).try fun _ => getWith_reads getInt_looks s _
    | uint64 =>
      simp only [task] at h
      refine hgot ?_ h
      exact fun object s => getWith_reads getUInt64_looks s _
    | double =>
      simp only [task] at h
      refine hgot ?_ h
      exact fun object s => getWith_reads getDouble_looks s _
  | getHanding handing operation name place =>
    cases handing with
    | text =>
      simp only [task] at h
      refine hgot ?_ h
      exact fun object s => getWith_reads (fun v => requireTable_looks.try fun _ =>
        (cellGet_looks v.cell .stringCopy).lift) s _
    | blob =>
      simp only [task] at h
      refine hgot ?_ h
      exact fun object s => (getRegistered_reads getBlob_looks s _).map
    | image =>
      simp only [task] at h
      refine hgot ?_ h
      exact fun object s => (getRegistered_reads getImage_looks s _).map
  | getInts operation name buffer size =>
    simp only [task] at h
    refine hgot ?_ h
    exact fun object s => getRegistered_reads getInts_looks s _
  | getDoubles operation name buffer size =>
    simp only [task] at h
    refine hgot ?_ h
    exact fun object s => getRegistered_reads getDoubles_looks s _
  | setProperty object name cell =>
    cases cell with
    | none => cases h
    | some cell =>
      simp only [task] at h
      refine hread ?_ h
      exact fun object s => assign_asks hP object s ⟨cell⟩
  | cacheImage image place => exact hcached h
  | cacheImageWith image place pairs =>
    obtain ⟨found, -, h⟩ := bind_ok h
    obtain ⟨options, -, h⟩ := bind_ok h
    exact hcached h
  | start host => exact absurd rfl (hstart host)

end

end Export

end ImageGateway
