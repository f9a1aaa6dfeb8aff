-- A loader that gives the same answer whenever it is asked the same, and what the
-- search for a library comes to with it: the names are tried in order up to the
-- first that opens, and if none does, the fault is that of the last one.

import ImageGateway.Library.Opening
import ImageGateway.Native.Silent
import ImageGateway.Proofs.Runs

namespace ImageGateway

/-- What there is to load. -/
structure Loader where
  /-- The library under a name, or why it cannot be opened. -/
  library : CText → Except LoaderFault Library
  /-- Whether a library exports an entry point, or why it does not. -/
  exported : Library → Symbol → Except LoaderFault Unit

namespace Loader

variable (loader : Loader)

/-- The event shows what this loader answers. -/
def Gives : Event → Prop
  | ⟨.openLibrary name, found⟩ => found = loader.library name
  | ⟨.resolve library symbol, found⟩ => found = loader.exported library symbol
  | _ => True

/-- Whoever asks for a library or an entry point asks this loader. -/
def Answers (events : Transcript) : Prop := ∀ e ∈ events, loader.Gives e

/-- What comes of a name. Not every name can be passed to the loader. -/
def named (name : String) : Except LoaderFault Library :=
  match loaderName name with
  | .ok text => loader.library text
  | .error fault => .error fault

def opens (name : String) : Bool := (loader.named name).isOk

/-- The first library that can be opened under one of the names. -/
def first (names : List String) : Option Library :=
  names.findSome? fun name => (loader.named name).toOption

/-- The names up to the first that opens, and all of them if none does. -/
def tried : List String → List String
  | [] => []
  | name :: rest => name :: if loader.opens name then [] else tried rest

/-- What a search under the names can end with. -/
inductive Finds (names : List String) : Except LoaderFault Library → Prop where
  | first {library : Library} (h : loader.first names = some library) : Finds names (.ok library)
  | nothing {last : String} {fault : LoaderFault} (hnone : loader.first names = none)
      (hlast : names.getLast? = some last) (hfault : loader.named last = .error fault) :
    Finds names (.error fault)

/-- A world with nothing in it but this loader and this environment. -/
def answer (environment : String → Option (List UInt8)) : (q : Request) → q.Reply
  | .call c => c.silentReply
  | .instanceType _ => .invalid
  | .table => none
  | .environment name => environment name
  | .publish table => table
  | .openLibrary name => loader.library name
  | .resolve library symbol => loader.exported library symbol
  | .logs _ => false
  | .fillSlot _ _ _ | .log _ _ | .print _ => ()

end Loader

/-- Whoever looks at the environment finds what it holds. -/
def Transcript.Reads (environment : String → Option (List UInt8)) (events : Transcript) : Prop :=
  ∀ name bytes, ⟨.environment name, bytes⟩ ∈ events → bytes = environment name

/-- The name as it is passed to the loader, if it can be. -/
def passedName (name : String) : Option CText := (loaderName name).toOption

theorem passed_cons (name : String) (names : List String) :
    (name :: names).filterMap passedName =
      (passedName name).toList ++ names.filterMap passedName := by
  cases h : passedName name <;> simp [h]

/-- The names that the loader was asked for, oldest first. -/
def Transcript.asked (events : Transcript) : List CText :=
  events.filterMap fun e =>
    match e.request with
    | .openLibrary name => some name
    | _ => none

namespace Transcript

@[simp] theorem asked_append (first second : Transcript) :
    asked (first ++ second) = asked first ++ asked second := List.filterMap_append

end Transcript

namespace Loader

variable {loader : Loader} {name : String} {names others : List String}

@[simp] theorem answers_append {first second : Transcript} :
    loader.Answers (first ++ second) ↔ loader.Answers first ∧ loader.Answers second :=
  List.forall_mem_append

theorem opens_eq_false_iff :
    loader.opens name = false ↔ ∃ fault, loader.named name = .error fault := by
  unfold opens
  cases loader.named name with
  | error fault => simp [Except.isOk, Except.toBool]
  | ok library => simp [Except.isOk, Except.toBool]

theorem first_eq_none_iff :
    loader.first names = none ↔ ∀ name ∈ names, loader.opens name = false := by
  unfold first
  rw [List.findSome?_eq_none_iff]
  have (name : String) : (loader.named name).toOption = none ↔ loader.opens name = false := by
    unfold opens
    cases loader.named name <;> simp [Except.isOk, Except.toBool, Except.toOption]
  simp [this]

theorem first_cons_of_ok {library : Library} (h : loader.named name = .ok library) :
    loader.first (name :: others) = some library := by
  simp [first, h, Except.toOption]

theorem first_cons_of_error {fault : LoaderFault} (h : loader.named name = .error fault) :
    loader.first (name :: others) = loader.first others := by
  simp [first, h, Except.toOption]

theorem tried_of_ok {library : Library} (h : loader.named name = .ok library) :
    loader.tried (name :: others) = [name] := by
  simp [tried, opens, h, Except.isOk, Except.toBool]

theorem tried_of_error {fault : LoaderFault} (h : loader.named name = .error fault) :
    loader.tried (name :: others) = name :: loader.tried others := by
  simp [tried, opens, h, Except.isOk, Except.toBool]

/-- A name that does not open may stand before the others. -/
theorem Finds.cons_of_error {next : String} {fault : LoaderFault}
    {r : Except LoaderFault Library} (hfinds : loader.Finds (next :: others) r)
    (h : loader.named name = .error fault) : loader.Finds (name :: next :: others) r := by
  cases hfinds with
  | first hfirst => exact .first ((first_cons_of_error h).trans hfirst)
  | nothing hnone hlast hfault =>
    exact .nothing ((first_cons_of_error h).trans hnone)
      (List.getLast?_cons_cons.trans hlast) hfault

end Loader

namespace Program

variable {loader : Loader} {events : Transcript}

/-- There is a run in any world. -/
theorem exists_runs {α : Type} (p : Program α) (world : (q : Request) → q.Reply) :
    ∃ events a, p.Runs events a ∧ ∀ e ∈ events, e.reply = world e.request := by
  induction p with
  | done a => exact ⟨[], a, .done a, by simp⟩
  | ask q k ih =>
    obtain ⟨events, a, hrun, hworld⟩ := ih (world q)
    refine ⟨⟨q, world q⟩ :: events, a, .ask _ hrun, ?_⟩
    intro e he
    rcases List.mem_cons.1 he with rfl | he
    · rfl
    · exact hworld e he

/-- There is a run with any loader in any environment. -/
theorem exists_runs_answered {α : Type} (p : Program α) (loader : Loader)
    (environment : String → Option (List UInt8)) :
    ∃ events a, p.Runs events a ∧ loader.Answers events ∧ events.Reads environment := by
  obtain ⟨events, a, hrun, hworld⟩ := p.exists_runs (loader.answer environment)
  refine ⟨events, a, hrun, fun e he => ?_, fun name bytes he => hworld _ he⟩
  obtain ⟨q, r⟩ := e
  obtain rfl : r = loader.answer environment q := hworld _ he
  cases q <;> first | rfl | trivial

theorem logLine_runs {level : Level} {line : String} (h : (logLine level line).Runs events ()) :
    events.asked = [] := by
  obtain rfl := runs_request_iff.1 h
  rfl

theorem openNamed_runs {name : String} {r : Except LoaderFault Library}
    (hrun : (openNamed name).Runs events r) (hloader : loader.Answers events) :
    r = loader.named name ∧ events.asked = (passedName name).toList := by
  unfold openNamed at hrun
  unfold Loader.named passedName
  cases hname : loaderName name with
  | error fault =>
    rw [hname] at hrun
    obtain ⟨rfl, rfl⟩ := runs_done_iff.1 hrun
    exact ⟨rfl, rfl⟩
  | ok text =>
    rw [hname] at hrun
    obtain rfl := runs_request_iff.1 hrun
    exact ⟨hloader _ (List.mem_singleton_self _), rfl⟩

/-- The first name opens, or the search goes on with the others. -/
theorem openFirst_cases {library name : String} {others : List String}
    {r : Except LoaderFault Library} (hrun : (openFirst library name others).Runs events r)
    (hloader : loader.Answers events) :
    (∃ opened, loader.named name = .ok opened ∧ r = .ok opened ∧
      events.asked = (passedName name).toList) ∨
    ∃ fault before after, loader.named name = .error fault ∧ events = before ++ after ∧
      before.asked = (passedName name).toList ∧
      ((others = [] ∧ after = [] ∧ r = .error fault) ∨
        ∃ next rest, others = next :: rest ∧ (openFirst library next rest).Runs after r) := by
  unfold openFirst at hrun
  obtain ⟨before, after, answer, rfl, hnamed, hafter⟩ := runs_bind_iff.1 hrun
  obtain ⟨hbefore, -⟩ := Loader.answers_append.1 hloader
  obtain ⟨rfl, hasked⟩ := openNamed_runs hnamed hbefore
  cases hname : loader.named name with
  | ok opened =>
    rw [hname] at hafter
    obtain ⟨logged, rest, _, rfl, hlogged, hrest⟩ := runs_bind_iff.1 hafter
    obtain ⟨rfl, rfl⟩ := runs_done_iff.1 hrest
    exact .inl ⟨opened, rfl, rfl, by simp [hasked, logLine_runs hlogged]⟩
  | error fault =>
    rw [hname] at hafter
    refine .inr ⟨fault, before, after, rfl, rfl, hasked, ?_⟩
    cases others with
    | nil =>
      obtain ⟨rfl, rfl⟩ := runs_done_iff.1 hafter
      exact .inl ⟨rfl, rfl, rfl⟩
    | cons next rest => exact .inr ⟨next, rest, rfl, hafter⟩

/-- The search tries the names in order, up to the first that opens. -/
theorem openFirst_runs {library name : String} {others : List String}
    {r : Except LoaderFault Library} (hrun : (openFirst library name others).Runs events r)
    (hloader : loader.Answers events) :
    loader.Finds (name :: others) r ∧
      events.asked = (loader.tried (name :: others)).filterMap passedName := by
  induction others generalizing name events with
  | nil =>
    obtain ⟨opened, hname, rfl, hasked⟩ | ⟨fault, before, after, hname, rfl, hasked, hend⟩ :=
      openFirst_cases hrun hloader
    · exact ⟨.first (Loader.first_cons_of_ok hname), by rw [hasked, Loader.tried_of_ok hname]; rfl⟩
    · obtain ⟨-, rfl, rfl⟩ | ⟨_, _, ⟨⟩, -⟩ := hend
      refine ⟨.nothing (Loader.first_cons_of_error hname) rfl hname, ?_⟩
      rw [List.append_nil, hasked, Loader.tried_of_error hname]
      rfl
  | cons next rest ih =>
    obtain ⟨opened, hname, rfl, hasked⟩ | ⟨fault, before, after, hname, rfl, hasked, hend⟩ :=
      openFirst_cases hrun hloader
    · exact ⟨.first (Loader.first_cons_of_ok hname), by rw [hasked, Loader.tried_of_ok hname]; rfl⟩
    · obtain ⟨⟨⟩, -, -⟩ | ⟨_, _, ⟨⟩, hafter⟩ := hend
      obtain ⟨hfinds, htried⟩ := ih hafter (Loader.answers_append.1 hloader).2
      refine ⟨hfinds.cons_of_error hname, ?_⟩
      rw [Transcript.asked_append, hasked, htried, Loader.tried_of_error hname, passed_cons]

/-- A search that finds nothing fails with all names and the fault of the last one. -/
theorem openLibrary_runs {library : String} {candidates : Candidates}
    {r : Except LoadFailure Library} (hrun : (openLibrary library candidates).run.Runs events r)
    (hloader : loader.Answers events) :
    (∃ found, loader.Finds candidates.toList found ∧
      r = found.mapError (LoadFailure.libraryNotFound library candidates.toList)) ∧
      events.asked = (loader.tried candidates.toList).filterMap passedName := by
  obtain ⟨search, rest, found, rfl, hsearch, hrest⟩ := runs_then_iff.1 hrun
  obtain ⟨hfinds, hasked⟩ := openFirst_runs hsearch (Loader.answers_append.1 hloader).1
  have hend : rest = [] ∧
      r = found.mapError (LoadFailure.libraryNotFound library candidates.toList) := by
    cases found <;> exact runs_done_iff.1 hrest
  obtain ⟨rfl, rfl⟩ := hend
  rw [List.append_nil]
  exact ⟨⟨found, hfinds, rfl⟩, hasked⟩

/-- What the opening of both libraries can end with. The object system is looked for only if the
image library was found, and it may be missing. -/
inductive OpensBoth (loader : Loader) (paths : LibraryPaths) :
    List CText → Except LoadFailure Opened → Prop where
  | notFound {last : String} {fault : LoaderFault}
      (hnone : loader.first paths.vipsCandidates.toList = none)
      (hlast : paths.vipsCandidates.toList.getLast? = some last)
      (hfault : loader.named last = .error fault) :
    OpensBoth loader paths ((loader.tried paths.vipsCandidates.toList).filterMap passedName)
      (.error (.libraryNotFound "libvips" paths.vipsCandidates.toList fault))
  | opened {vips : Library} (hvips : loader.first paths.vipsCandidates.toList = some vips) :
    OpensBoth loader paths
      ((loader.tried paths.vipsCandidates.toList ++
        loader.tried paths.gobjectCandidates.toList).filterMap passedName)
      (.ok ⟨vips, loader.first paths.gobjectCandidates.toList⟩)

theorem openAll_runs {paths : LibraryPaths} {r : Except LoadFailure Opened}
    (hrun : paths.openAll.run.Runs events r) (hloader : loader.Answers events) :
    OpensBoth loader paths events.asked r := by
  obtain ⟨failure, hvips, rfl⟩ | ⟨before, after, vips, rfl, hvips, hrest⟩ := runs_try_iff.1 hrun
  · obtain ⟨⟨found, hfinds, hfailure⟩, hasked⟩ := openLibrary_runs hvips hloader
    rw [hasked]
    cases hfinds with
    | first hfirst => cases hfailure
    | nothing hnone hlast hfault =>
      cases hfailure
      exact .notFound hnone hlast hfault
  · obtain ⟨hbefore, hafter⟩ := Loader.answers_append.1 hloader
    obtain ⟨⟨found, hfinds, hfound⟩, hasked⟩ := openLibrary_runs hvips hbefore
    cases hfinds with
    | nothing hnone hlast hfault => cases hfound
    | first hfirst =>
      cases hfound
      obtain ⟨second, rest, found, rfl, hgobject, hrest⟩ := runs_then_iff.1 hrest
      obtain ⟨⟨answer, hfinds, rfl⟩, hmore⟩ :=
        openLibrary_runs hgobject (Loader.answers_append.1 hafter).1
      have hend : rest.asked = [] ∧
          r = .ok ⟨vips, loader.first paths.gobjectCandidates.toList⟩ := by
        cases hfinds with
        | first hfirst =>
          obtain ⟨rfl, rfl⟩ := runs_done_iff.1 hrest
          exact ⟨rfl, by rw [hfirst]⟩
        | nothing hnone hlast hfault =>
          obtain ⟨logged, last, _, rfl, hlogged, hlast⟩ := runs_then_iff.1 hrest
          obtain ⟨rfl, rfl⟩ := runs_done_iff.1 hlast
          exact ⟨by simp [logLine_runs hlogged], by rw [hnone]⟩
      obtain ⟨hquiet, rfl⟩ := hend
      rw [Transcript.asked_append, Transcript.asked_append, hasked, hmore, hquiet,
        List.append_nil, ← List.filterMap_append]
      exact .opened hfirst

end Program

end ImageGateway
