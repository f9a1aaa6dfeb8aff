-- Those who want the entry points of the library, each with paths of its own:
-- directly, through the gateway, by a start or by an entry point. What a caller
-- offers it has opened to the end, and once it finds a table it opens nothing
-- and looks at no paths.

import ImageGateway.Proofs.EntryPoints
import ImageGateway.Proofs.Processes

namespace ImageGateway

/-- A request that only a caller without a published table makes. -/
def Request.Opens : Request → Prop
  | .openLibrary _ | .resolve _ _ | .publish _ => True
  | _ => False

/-! ## Callers -/

/-- Someone who wants the entry points of the library. -/
inductive Caller where
  /-- Asks which table is published. -/
  | look
  /-- Loads the library itself. -/
  | direct (paths : LibraryPaths)
  | load (paths : LibraryPaths)
  | start (config : Config)
  /-- Calls an entry point, which loads the library on first use. -/
  | enter (entry : Export)

namespace Caller

abbrev Answer : Caller → Type
  | look => Option Table
  | direct _ => Except LoadFailure Table
  | load _ => Except Failure Table
  | start _ => Except Failure Unit
  | enter entry => entry.Answer

def program : (c : Caller) → Program c.Answer
  | look => table?
  | direct paths => (Table.load paths).run
  | load paths => (Control.load paths).run
  | start config => (Control.start config).run
  | enter entry => entry.call

/-- The table that the answer gives, if it gives one. -/
def gets? : (c : Caller) → c.Answer → Option Table
  | look => id
  | direct _ | load _ => Except.toOption
  | start _ | enter _ => fun _ => none

/-- The answer of a caller whose load went well, whatever came of the rest. From an entry point it
is any answer that a failure does not give. -/
def Loaded : (c : Caller) → c.Answer → Prop
  | look => fun found => found.isSome
  | direct _ => fun answer => answer.isOk
  | load _ => fun answer => answer.isOk
  | start _ => fun answer => ∀ failure, answer ≠ .error (.load failure)
  | enter entry => fun answer => answer ≠ entry.answer none

/-- Where the caller was told to look for the libraries. An entry point asks the environment. -/
def paths? : Caller → Option LibraryPaths
  | direct paths | load paths => some paths
  | start config => some config.library
  | look | enter _ => none

/-- The answer of a caller whose load failed. -/
def Failed : (c : Caller) → c.Answer → Prop
  | direct _ => fun answer => ¬ answer.isOk
  | load _ => fun answer => ¬ answer.isOk
  | start _ => fun answer => ∃ failure, answer = .error (.load failure)
  | look | enter _ => fun _ => False

/-- The same caller with other paths to the libraries. -/
def withPaths : Caller → LibraryPaths → Caller
  | direct _, paths => direct paths
  | load _, paths => load paths
  | start config, paths => start { config with library := paths }
  | c, _ => c

/-- Whether the caller does nothing but load the library from these paths. -/
def Loads : Caller → LibraryPaths → Prop
  | direct own, paths | load own, paths => own = paths
  | _, _ => False

/-- A process in which everyone is about to begin. -/
def fresh {ι : Type} (who : ι → Caller) : Process ι fun i => (who i).Answer :=
  ⟨none, fun i => (who i).program⟩

end Caller

/-! ## All callers -/

/-- From the note on, the program asks only for what it may ask for. -/
abbrev Watch.Lets {Note α : Type} (w : Watch Note) (n : Note) (p : Program α) : Prop :=
  w.Ensures n p fun _ _ => True

/-- A watch that minds nothing but the opening of libraries, and lets every load pass. -/
structure Watch.LetsLoad {Note : Type} (w : Watch Note) : Prop where
  calm : ∀ n q, ¬ Request.Opens q → w.allows n q
  load : ∀ n paths, w.Lets n (Table.load paths).run

namespace Watch

open Program

variable {Note α β : Type} {w : Watch Note} {n : Note} {P : Request → Prop}

theorem Lets.bind {p : Program α} {f : α → Program β} (hp : w.Lets n p)
    (hf : ∀ a n, w.Lets n (f a)) : w.Lets n (p >>= f) := Ensures.bind hp fun a m _ => hf a m

theorem Lets.try {p : Attempt α} {f : α → Attempt β} (hp : w.Lets n p.run)
    (hf : ∀ a n, w.Lets n (f a).run) : w.Lets n (p >>= f).run := by
  apply Lets.bind hp
  intro result m
  cases result with
  | error failure => trivial
  | ok a => exact hf a m

theorem Lets.then {p : Program α} {f : α → Attempt β} (hp : w.Lets n p)
    (hf : ∀ a n, w.Lets n (f a).run) : w.Lets n (liftM p >>= f).run := by
  rw [run_then]
  exact hp.bind hf

/-- An entry point keeps to what its load and its task may ask for. -/
theorem call_lets {e : Export} (hwarn : ∀ n line, w.allows n (.log .warn line))
    (hload : ∀ n, w.Lets n e.load.run)
    (htask : ∀ n attempt, e.task = .ok attempt → w.Lets n attempt.run) (n : Note) :
    w.Lets n e.call := by
  have hwarned (text : String) (n : Note) : w.Lets n (Foreign.warn e.name text) :=
    ⟨hwarn n _, fun _ _ => trivial⟩
  have htried : w.Lets n e.worked := by
    unfold Export.worked Foreign.tried
    cases htask' : e.task with
    | error problem => exact (hwarned _ n).bind fun _ _ => trivial
    | ok attempt =>
      refine ((hload n).try fun _ n => htask n attempt htask').bind fun result n => ?_
      cases result with
      | error failure => exact (hwarned _ n).bind fun _ _ => trivial
      | ok answer => trivial
  rw [Export.call_eq]
  refine htried.bind fun yield n => ?_
  split
  · exact (hwarned _ n).bind fun _ _ => trivial
  · trivial

theorem lets_of_asks {p : Program α} (h : ∀ n q, P q → w.allows n q) (hp : p.Asks P) (n : Note) :
    w.Lets n p := by
  induction p generalizing n with
  | done a => trivial
  | ask q k ih => exact ⟨h n q hp.1, fun r _ => ih r (hp.2 r) _⟩

namespace LetsLoad

variable (h : w.LetsLoad)
include h

theorem asked {p : Program α} (hp : p.Asks fun q => ¬ q.Opens) (n : Note) : w.Lets n p :=
  lets_of_asks h.calm hp n

theorem gateway (n : Note) (paths : LibraryPaths) : w.Lets n (Control.load paths).run :=
  (h.load n paths).bind fun _ _ => trivial

theorem start (n : Note) (config : Config) : w.Lets n (Control.start config).run := by
  refine (h.gateway n config.library).try fun _ n => h.asked (starting_asks ?_ ?_ config) n
  · exact fun q hq => by cases q <;> first | exact id | exact hq.elim
  · exact takeError_asks fun q hq => by cases q <;> first | exact id | exact hq.elim

theorem ensureLoaded (n : Note) : w.Lets n Foreign.ensureLoaded.run := by
  refine ⟨h.calm n .table id, fun found _ => ?_⟩
  cases found with
  | some table => trivial
  | none =>
    exact (h.asked (pathsFromEnvironment_asks fun _ => id) _).then fun paths n =>
      (h.gateway n paths).try fun _ _ => trivial

/-- The work of an entry point opens nothing once the library is loaded. -/
theorem task (e : Export) (n : Note) (attempt : Attempt e.Yield) (htask : e.task = .ok attempt) :
    w.Lets n attempt.run := by
  by_cases hstart : ∃ host, e = .start host
  · obtain ⟨host, rfl⟩ := hstart
    cases htask
    exact (h.asked (fromEnvironment_asks (fun _ => id) fun _ => id) n).then fun config n =>
      h.start n _
  · refine h.asked (Export.task_asks ?_ ?_ (fun host he => hstart ⟨host, he⟩) htask) n
    · exact fun q hq => by cases q <;> first | exact id | exact hq.elim
    · exact fun _ _ _ _ q hq => by cases q <;> first | exact id | exact hq.elim

theorem entry (e : Export) (n : Note) : w.Lets n e.call := by
  refine call_lets (fun n line => h.calm n _ id) (fun n => ?_) (fun n => h.task e n) n
  cases e <;> first | trivial | exact h.ensureLoaded n

/-- A watch that lets every load pass lets every caller pass. -/
theorem caller (c : Caller) (n : Note) : w.Lets n c.program := by
  cases c with
  | look => exact h.asked (asks_of id) n
  | direct paths => exact h.load n paths
  | load paths => exact h.gateway n paths
  | start config => exact h.start n config
  | enter e => exact h.entry e n

end LetsLoad

end Watch

/-! ## Callers who come late -/

/-- Every look finds a table. -/
def Transcript.Found (events : Transcript) : Prop :=
  ∀ e ∈ events, e.request = .table → e.shown?.isSome

namespace Transcript.Found

variable {first second : Transcript}

theorem of_append (h : Found (first ++ second)) : Found first ∧ Found second :=
  ⟨fun e he => h e (List.mem_append_left _ he), fun e he => h e (List.mem_append_right _ he)⟩

end Transcript.Found

/-- Minds what is asked for while every look finds a table. -/
def foundWatch (P : Request → Prop) : Watch Unit where
  allows _ := P
  admits _ q r := q = .table → (Event.shown? ⟨q, r⟩).isSome
  next _ _ _ := ()

namespace FoundWatch

variable {P : Request → Prop} {α : Type}

/-- What is asked for while every look finds a table. -/
theorem of_leads {p left : Program α} {events : Transcript} (h : (foundWatch P).Lets () p)
    (hleads : p.Leads events left) (hfound : events.Found) : ∀ e ∈ events, P e.request := by
  have hadmits {events : Transcript} (hfound : events.Found) :
      (foundWatch P).Admits () events := by
    induction events with
    | nil => trivial
    | cons e events ih =>
      exact ⟨hfound e (List.mem_cons_self ..), ih fun e' he' =>
        hfound e' (List.mem_cons_of_mem _ he')⟩
  have hallows {events : Transcript} (h : (foundWatch P).Allows () events) :
      ∀ e ∈ events, P e.request := by
    induction events with
    | nil => simp
    | cons e events ih =>
      intro e' he'
      rcases List.mem_cons.1 he' with rfl | he'
      · exact h.1
      · exact ih h.2 e' he'
  exact hallows (h.of_leads hleads (hadmits hfound))

theorem letsLoad : (foundWatch fun q => ¬ q.Opens).LetsLoad where
  calm _ _ := id
  load _ paths := by
    refine ⟨id, fun found hfound => ?_⟩
    cases found with
    | none => cases hfound rfl
    | some table => trivial

theorem ensureLoaded (hP : P .table) : (foundWatch P).Lets () Foreign.ensureLoaded.run := by
  refine ⟨hP, fun found hfound => ?_⟩
  cases found with
  | none => cases hfound rfl
  | some table => trivial

end FoundWatch

/-- A caller that finds a table opens nothing. -/
theorem Caller.opens_nothing {c : Caller} {events : Transcript} {left : Program c.Answer}
    (h : c.program.Leads events left) (hfound : events.Found) :
    ∀ e ∈ events, ¬ e.request.Opens :=
  FoundWatch.of_leads (FoundWatch.letsLoad.caller c ()) h hfound

/-! ## Other paths -/

/-- A look at a variable that tells where a library is. -/
def Request.OfPaths : Request → Prop
  | .environment name => name = "VIPS_LIBRARY_PATH" ∨ name = "GOBJECT_LIBRARY_PATH"
  | _ => False

/-- The same event in an environment that tells other paths to the libraries. -/
def Event.elsewhere (paths : LibraryPaths) : Event → Event
  | ⟨.environment name, found⟩ =>
    ⟨.environment name,
      if name = "VIPS_LIBRARY_PATH" then paths.vips.map Path.bytes
      else if name = "GOBJECT_LIBRARY_PATH" then paths.gobject.map Path.bytes
      else found⟩
  | e => e

section

variable {paths : LibraryPaths} {events : Transcript}

theorem Event.elsewhere_eq {e : Event} (h : ¬ e.request.OfPaths) : e.elsewhere paths = e := by
  obtain ⟨q, found⟩ := e
  cases q with
  | environment name =>
    obtain ⟨hvips, hgobject⟩ := not_or.1 h
    simp [elsewhere, hvips, hgobject]
  | _ => rfl

theorem Transcript.elsewhere_eq (h : ∀ e ∈ events, ¬ e.request.OfPaths) :
    events.map (Event.elsewhere paths) = events :=
  (List.map_congr_left fun e he => Event.elsewhere_eq (h e he)).trans (List.map_id _)

end

namespace Program

variable {α β : Type} {paths : LibraryPaths} {events : Transcript}

/-- What the first program can do the other can do where the environment tells other paths, as long
as a table is found. -/
def FollowsElsewhere (paths : LibraryPaths) (p p' : Program α) : Prop :=
  ∀ events left, p.Leads events left → events.Found →
    ∃ left', p'.Leads (events.map (Event.elsewhere paths)) left'

theorem FollowsElsewhere.of_asks {p : Program α} (hp : p.Asks fun q => ¬ q.OfPaths) :
    FollowsElsewhere paths p p := by
  intro events left h _
  rw [Transcript.elsewhere_eq (hp.of_leads h)]
  exact ⟨left, h⟩

theorem FollowsElsewhere.bind {p : Program α} {f f' : α → Program β}
    (hp : p.Asks fun q => ¬ q.OfPaths) (hf : ∀ a, FollowsElsewhere paths (f a) (f' a)) :
    FollowsElsewhere paths (p >>= f) (p >>= f') := by
  intro events left h hfound
  rcases h.of_bind with ⟨rest, hrest, -⟩ | ⟨first, second, a, rfl, hfirst, hsecond⟩
  · rw [Transcript.elsewhere_eq (hp.of_leads hrest)]
    exact ⟨rest.bind f', hrest.bind_left f'⟩
  · obtain ⟨left', hleft'⟩ := hf a second left hsecond hfound.of_append.2
    rw [List.map_append, Transcript.elsewhere_eq (hp.of_runs hfirst)]
    exact ⟨left', Leads.bind hfirst hleft'⟩

/-- Two programs that look for a table first and go the same way if they find one. -/
theorem FollowsElsewhere.of_look {k k' : Option Table → Program α}
    (hsame : ∀ table, k (some table) = k' (some table))
    (hquiet : ∀ table, (k (some table)).Asks fun q => ¬ q.OfPaths) :
    FollowsElsewhere paths (.ask .table k) (.ask .table k') := by
  intro events left h hfound
  cases h with
  | refl => exact ⟨_, .refl _⟩
  | @ask _ _ events _ found hrest =>
    cases found with
    | none => cases hfound _ (List.mem_cons_self ..) rfl
    | some table =>
      refine ⟨left, ?_⟩
      rw [List.map_cons, Transcript.elsewhere_eq ((hquiet table).of_leads hrest)]
      rw [hsame] at hrest
      exact Leads.ask (q := .table) (some table) hrest

/-- The environment tells the other paths. -/
theorem FollowsElsewhere.environment {f f' : Config → Program α}
    (hf : ∀ config, FollowsElsewhere paths (f config) (f' { config with library := paths })) :
    FollowsElsewhere paths (Config.fromEnvironment >>= f) (Config.fromEnvironment >>= f') := by
  have hsetting (name : String) (hname : ¬ (Request.environment name).OfPaths) :
      (Config.setting? name).Asks fun q => ¬ q.OfPaths := by
    apply (asks_request.2 hname).bind
    intro bytes
    cases bytes <;> trivial
  simp only [Config.fromEnvironment, bind_eq, bind_assoc]
  refine .bind (hsetting "VIPS_BRIDGE_PROGRAM" ?_) fun name =>
    .bind (hsetting "VIPS_BRIDGE_LEAK" ?_) fun leak =>
      .bind (hsetting "VIPS_BRIDGE_CONCURRENCY" ?_) fun value =>
        .bind (concurrencyOf_asks (fun _ => id) value) fun concurrency => ?_
  all_goals try simp [Request.OfPaths]
  intro events left h hfound
  cases h with
  | refl => exact ⟨_, .refl _⟩
  | ask vips h =>
    cases h with
    | refl => exact ⟨_, .ask _ (.refl _)⟩
    | ask gobject h =>
      have hsplit : Transcript.Found [_, _] ∧ Transcript.Found _ :=
        Transcript.Found.of_append hfound
      obtain ⟨left', hleft'⟩ := hf _ _ left h hsplit.2
      refine ⟨left', .ask _ (.ask _ ?_)⟩
      have htold (path : Option Path) : path.map (Path.mk ∘ Path.bytes) = path :=
        congrFun Option.map_id path
      simpa [htold] using hleft'

end Program

namespace Caller

open Program

variable {paths : LibraryPaths}

theorem quiet_of_operating (q : Request) (h : q.Operating) : ¬ q.OfPaths := by
  cases q <;> first | exact id | exact h.elim

theorem starting_quiet (config : Config) : (do
    let program ← nativeText config.programName
    let status ← native (.start program)
    if status ≠ 0 then throw (.start (← takeError))
    if config.leakDetection then native (.apply (.leak true))
    if let some n := config.concurrency then Control.apply (.concurrency n)
    config.cache.apply
    if ← Program.request (.logs .debug) then
      let version ← Control.versionString
      logLine .debug ("libvips " ++ version ++ " started as " ++ config.programName)
    : Attempt Unit).run.Asks fun q => ¬ q.OfPaths := by
  refine starting_asks (fun q hq => ?_) (takeError_asks fun q hq => ?_) config
  all_goals cases q <;> first | exact id | exact hq.elim

/-- An entry point that finds a table does the same where the environment tells other paths. -/
theorem entry_follows (e : Export) : FollowsElsewhere paths e.call e.call := by
  by_cases hstart : ∃ host, e = .start host
  · obtain ⟨host, rfl⟩ := hstart
    apply FollowsElsewhere.environment
    intro config
    -- The host's own name changes the name of the configuration, and nothing is asked for it.
    cases host <;> refine .of_look (fun _ => rfl) fun _ => (starting_quiet _).bind ?_ <;>
      rintro (failure | _)
    case none.error | some.error => exact (asks_of id).bind fun _ => trivial
    case none.ok | some.ok => trivial
  · have hload : e.load = Foreign.ensureLoaded := by
      cases e <;> first | rfl | exact absurd ⟨_, rfl⟩ hstart
    intro events left h hfound
    have hquiet : ∀ ev ∈ events, ¬ ev.request.OfPaths := by
      refine FoundWatch.of_leads (P := fun q => ¬ q.OfPaths)
        (Watch.call_lets (fun _ _ => id) ?_ ?_ ()) h hfound
      · intro n
        rw [hload]
        exact FoundWatch.ensureLoaded id
      · intro n attempt htask
        refine Watch.lets_of_asks (fun _ _ => id)
          (Export.task_asks quiet_of_operating ?_ ?_ htask) n
        · exact fun _ _ _ _ q hq => by cases q <;> first | exact id | exact hq.elim
        · exact fun host he => hstart ⟨host, he⟩
    rw [Transcript.elsewhere_eq hquiet]
    exact ⟨left, h⟩

/-- A caller that finds a table does the same with any other paths. -/
theorem withPaths_follows (c : Caller) (paths : LibraryPaths) :
    ∀ events left, c.program.Leads events left → events.Found →
      ∃ left', (c.withPaths paths).program.Leads (events.map (Event.elsewhere paths)) left' := by
  cases c with
  | look => exact FollowsElsewhere.of_asks (asks_of id)
  | direct own => exact FollowsElsewhere.of_look (fun _ => rfl) fun _ => trivial
  | load own => exact FollowsElsewhere.of_look (fun _ => rfl) fun _ => trivial
  | start config => exact FollowsElsewhere.of_look (fun _ => rfl) fun _ => starting_quiet config
  | enter entry => exact entry_follows entry

end Caller

/-! ## Offers -/

namespace Program

theorem quiet_of_opening (q : Request) (h : q.Opening) : ¬ q.AtTable := by
  cases q <;> first | exact id | exact h.elim

theorem open_quiet {paths : LibraryPaths} {events : Transcript} {r : Except LoadFailure Table}
    (h : (Table.open paths).run.Runs events r) : ∀ e ∈ events, ¬ e.request.AtTable :=
  (open_asks quiet_of_opening paths).of_runs h

end Program

/-- Notes what was done, and minds that nothing is offered but what was just opened. -/
def offerWatch : Watch Transcript where
  allows done q := ∀ table, q = .publish table →
    ∃ paths first opening, done = first ++ opening ∧ (Table.open paths).run.Runs opening (.ok table)
  admits _ _ _ := True
  next done q r := done ++ [⟨q, r⟩]

namespace OfferWatch

open Program

variable {done events : Transcript}

theorem after_eq (done events : Transcript) : offerWatch.after done events = done ++ events := by
  induction events generalizing done with
  | nil => simp [Watch.after]
  | cons e events ih =>
    refine (ih (done ++ [e])).trans ?_
    simp

theorem admits_all (done events : Transcript) : offerWatch.Admits done events := by
  induction events generalizing done with
  | nil => trivial
  | cons e events ih => exact ⟨trivial, ih _⟩

theorem ensures_runs {α : Type} {p : Program α} (h : p.Asks fun q => ¬ q.AtTable) :
    offerWatch.Ensures done p fun a after =>
      ∃ events, p.Runs events a ∧ after = done ++ events := by
  induction p generalizing done with
  | done a => exact ⟨[], .done a, by simp⟩
  | ask q k ih =>
    refine ⟨?_, fun r _ => (ih r (h.2 r)).mono ?_⟩
    · rintro table rfl
      exact absurd trivial h.1
    rintro a _ ⟨events, hrun, rfl⟩
    exact ⟨⟨q, r⟩ :: events, .ask r hrun, by simp [offerWatch]⟩

theorem letsLoad : offerWatch.LetsLoad where
  calm done q hq := by
    rintro table rfl
    exact absurd trivial hq
  load done paths := by
    refine ⟨nofun, fun found _ => ?_⟩
    cases found with
    | some table => trivial
    | none =>
      apply (ensures_runs (open_asks quiet_of_opening paths)).bind
      rintro result _ ⟨opening, hrun, rfl⟩
      cases result with
      | error failure => trivial
      | ok table =>
        refine ⟨?_, fun _ _ => trivial⟩
        rintro _ ⟨⟩
        exact ⟨paths, done ++ [⟨.table, none⟩], opening, rfl, hrun⟩

/-- Only a table that was opened and resolved to the end is offered. -/
theorem opened {c : Caller} {first rest : Transcript} {table kept : Table}
    {left : Program c.Answer}
    (h : c.program.Leads (first ++ ⟨.publish table, kept⟩ :: rest) left) :
    ∃ paths start opening, first = start ++ opening ∧
      (Table.open paths).run.Runs opening (.ok table) := by
  have hallows := (letsLoad.caller c []).of_leads h (admits_all _ _)
  obtain ⟨-, hoffer, -⟩ := (Watch.allows_append ..).1 hallows
  rw [after_eq, List.nil_append] at hoffer
  exact hoffer table rfl

end OfferWatch

end ImageGateway
