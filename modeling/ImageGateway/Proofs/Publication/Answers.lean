-- What the answer of a caller tells of its load: the table that it was shown, or
-- that none was there and none could be opened.

import ImageGateway.Proofs.Publication.Callers
import ImageGateway.Proofs.Runs

namespace ImageGateway

/-! ## One load -/

namespace Program

variable {events : Transcript}

/-- How a load goes: a table is there, none can be opened, or one is opened and offered. -/
inductive LoadRun (paths : LibraryPaths) : Transcript → Except LoadFailure Table → Prop where
  | found (table : Table) : LoadRun paths [⟨.table, some table⟩] (.ok table)
  | failed {opening : Transcript} {failure : LoadFailure}
      (hopening : (Table.open paths).run.Runs opening (.error failure)) :
    LoadRun paths (⟨.table, none⟩ :: opening) (.error failure)
  | offered {opening : Transcript} {table : Table} (kept : Table)
      (hopening : (Table.open paths).run.Runs opening (.ok table)) :
    LoadRun paths (⟨.table, none⟩ :: (opening ++ [⟨.publish table, kept⟩])) (.ok kept)

theorem loadRun_of_runs {paths : LibraryPaths} {r : Except LoadFailure Table}
    (h : (Table.load paths).run.Runs events r) : LoadRun paths events r := by
  obtain ⟨first, second, found, rfl, hfirst, hsecond⟩ := runs_then_iff.1 h
  obtain rfl := runs_request_iff.1 hfirst
  cases found with
  | some table =>
    obtain ⟨rfl, rfl⟩ := runs_done_iff.1 hsecond
    exact .found table
  | none =>
    rcases runs_try_iff.1 hsecond with ⟨failure, hopening, rfl⟩ |
      ⟨opening, offer, table, rfl, hopening, hoffer⟩
    · exact .failed hopening
    · obtain ⟨kept, rfl, hkept⟩ := runs_lift_iff.1 hoffer
      obtain rfl := runs_request_iff.1 hkept
      exact .offered kept hopening

/-- A load that goes well is shown the table that it gets. -/
theorem LoadRun.shown {paths : LibraryPaths} {table : Table}
    (h : LoadRun paths events (.ok table)) : ∃ e ∈ events, e.shown? = some table := by
  cases h with
  | found table => exact ⟨_, List.mem_cons_self .., rfl⟩
  | @offered _ opened kept hopening => exact ⟨⟨.publish opened, table⟩, by simp, rfl⟩

/-- A load that fails found no table and could open none. -/
theorem LoadRun.in_vain {paths : LibraryPaths} {failure : LoadFailure}
    (h : LoadRun paths events (.error failure)) :
    ∃ opening, events = ⟨.table, none⟩ :: opening ∧
      (Table.open paths).run.Runs opening (.error failure) := by
  cases h with
  | failed hopening => exact ⟨_, rfl, hopening⟩

end Program

/-! ## Answers -/

/-- A failure that no load gives. -/
def Failure.NotOfLoad (failure : Failure) : Prop := ∀ cause, failure ≠ .load cause

/-- A watch that minds nothing. -/
def idleWatch : Watch Unit where
  allows _ _ := True
  admits _ _ _ := True
  next _ _ _ := ()

namespace Program

/-- Whatever happens, the attempt does not fail as a load does. -/
abbrev NeverLoads {α : Type} (p : Attempt α) : Prop :=
  idleWatch.Tries () p (fun _ _ => True) fun failure _ => failure.NotOfLoad

theorem idle_ensures {α : Type} (p : Program α) : idleWatch.Ensures () p fun _ _ => True := by
  induction p with
  | done a => trivial
  | ask q k ih => exact ⟨trivial, fun r _ => ih r⟩

theorem NeverLoads.try {α β : Type} {p : Attempt α} {f : α → Attempt β} (hp : NeverLoads p)
    (hf : ∀ a, NeverLoads (f a)) : NeverLoads (p >>= f) := Watch.Tries.bind hp fun a _ _ => hf a

theorem neverLoads_then {α β : Type} {p : Program α} {f : α → Attempt β}
    (hf : ∀ a, NeverLoads (f a)) : NeverLoads (liftM p >>= f) :=
  (idle_ensures p).then fun a _ _ => hf a

theorem neverLoads_throw {α : Type} {failure : Failure} (h : failure.NotOfLoad) :
    NeverLoads (throw failure : Attempt α) := h

theorem requireTable_neverLoads : NeverLoads requireTable :=
  neverLoads_then fun found => by cases found <;> simp [NeverLoads, Watch.Tries, Failure.NotOfLoad]

theorem nativeText_neverLoads (s : String) : NeverLoads (nativeText s) := by
  unfold nativeText
  split
  · trivial
  · exact neverLoads_throw nofun

theorem apply_neverLoads (setting : Setting) : NeverLoads (Control.apply setting) :=
  requireTable_neverLoads.try fun _ => Watch.tries_lift.2 (idle_ensures _)

theorem versionString_neverLoads : NeverLoads Control.versionString := by
  refine requireTable_neverLoads.try fun _ => neverLoads_then fun version => ?_
  cases version with
  | none => exact neverLoads_throw nofun
  | some version => trivial

theorem applyAll_neverLoads (settings : List Setting) :
    NeverLoads (settings.forM Control.apply : Attempt Unit) := by
  induction settings with
  | nil => trivial
  | cons setting rest ih => exact (apply_neverLoads setting).try fun _ => ih

theorem started_neverLoads (config : Config) : NeverLoads (do
    if let some n := config.concurrency then Control.apply (.concurrency n)
    config.cache.apply
    if ← Program.request (.logs .debug) then
      let version ← Control.versionString
      logLine .debug ("libvips " ++ version ++ " started as " ++ config.programName)) := by
  have hcache : NeverLoads (do
      config.cache.apply
      if ← Program.request (.logs .debug) then
        let version ← Control.versionString
        logLine .debug ("libvips " ++ version ++ " started as " ++ config.programName)) := by
    refine (applyAll_neverLoads _).try fun _ => neverLoads_then fun logged => ?_
    split
    · exact versionString_neverLoads.try fun _ => Watch.tries_lift.2 (idle_ensures _)
    · trivial
  dsimp only
  split
  · exact (apply_neverLoads _).try fun _ => hcache
  · exact hcache

/-- A start that has a table fails in other ways than a load. -/
theorem start_failed {config : Config} {events : Transcript} {failure : Failure}
    (h : (Control.start config).run.Runs events (.error failure)) :
    (Control.load config.library).run.Runs events (.error failure) ∨ failure.NotOfLoad := by
  rcases runs_try_iff.1 h with ⟨_, hload, ⟨⟩⟩ | ⟨first, second, table, rfl, -, hrest⟩
  · exact .inl hload
  · right
    have hnever := (nativeText_neverLoads config.programName).try fun program =>
      neverLoads_then (p := native (.start program)) (f := fun status => do
        if status ≠ 0 then throw (.start (← takeError))
        if config.leakDetection then native (.apply (.leak true))
        if let some n := config.concurrency then Control.apply (.concurrency n)
        config.cache.apply
        if ← Program.request (.logs .debug) then
          let version ← Control.versionString
          logLine .debug ("libvips " ++ version ++ " started as " ++ config.programName))
        fun status => by
          dsimp only
          split
          · exact neverLoads_then fun _ => neverLoads_throw nofun
          · split
            · exact neverLoads_then fun _ => started_neverLoads config
            · exact started_neverLoads config
    have hadmits {n : Unit} {events : Transcript} : idleWatch.Admits n events := by
      induction events with
      | nil => trivial
      | cons e events ih => exact ⟨trivial, ih⟩
    exact (hnever.of_runs hrest hadmits).2

end Program

namespace Caller

open Program

variable {c : Caller} {events : Transcript} {answer : c.Answer}

theorem load_shown {paths : LibraryPaths} {events : Transcript} {table : Table}
    (h : (Control.load paths).run.Runs events (.ok table)) :
    ∃ e ∈ events, e.shown? = some table := by
  obtain ⟨answer, hrun, hanswer⟩ := runs_adapt_iff.1 h
  cases answer with
  | error failure => cases hanswer
  | ok table =>
    cases hanswer
    exact (loadRun_of_runs hrun).shown

theorem start_shown {config : Config} {events : Transcript} {answer : Except Failure Unit}
    (h : (Control.start config).run.Runs events answer)
    (hanswer : ∀ failure, answer ≠ .error (.load failure)) :
    ∃ e ∈ events, ∃ table, e.shown? = some table := by
  rcases runs_try_iff.1 h with ⟨failure, hload, rfl⟩ | ⟨first, second, table, rfl, hload, -⟩
  · obtain ⟨cause, -, hcause⟩ := runs_adapt_iff.1 hload
    cases cause with
    | ok table => cases hcause
    | error cause =>
      cases hcause
      exact absurd rfl (hanswer cause)
  · obtain ⟨e, he, hshown⟩ := load_shown hload
    exact ⟨e, List.mem_append_left _ he, table, hshown⟩

theorem ensureLoaded_shown {events : Transcript}
    (h : Foreign.ensureLoaded.run.Runs events (.ok ())) :
    ∃ e ∈ events, ∃ table, e.shown? = some table := by
  obtain ⟨first, second, found, rfl, hfirst, hsecond⟩ := runs_then_iff.1 h
  obtain rfl := runs_request_iff.1 hfirst
  cases found with
  | some table => exact ⟨_, List.mem_cons_self .., table, rfl⟩
  | none =>
    obtain ⟨_, more, paths, rfl, -, hrest⟩ := runs_then_iff.1 hsecond
    rcases runs_try_iff.1 hrest with ⟨_, -, ⟨⟩⟩ | ⟨loading, _, table, rfl, hload, -⟩
    obtain ⟨e, he, hshown⟩ := load_shown hload
    exact ⟨e, by simp [he], table, hshown⟩

/-- An entry point whose work is done was shown a table. -/
theorem entry_shown {e : Export} {events : Transcript} {answer : e.Answer}
    (h : e.call.Runs events answer) (hanswer : answer ≠ e.answer none) :
    ∃ ev ∈ events, ∃ table, ev.shown? = some table := by
  obtain ⟨first, result, htried, rfl, rfl⟩ := Export.tried_of_call h
  generalize htask : e.task = task at htried
  cases htried with
  | refused problem => exact absurd rfl hanswer
  | failed failure hrun => exact absurd rfl hanswer
  | @done attempt _ a hrun =>
    rcases runs_try_iff.1 hrun with ⟨_, -, ⟨⟩⟩ | ⟨loading, rest, _, rfl, hload, hrest⟩
    have hshown : ∃ ev ∈ loading ++ rest, ∃ table, ev.shown? = some table := by
      by_cases hstart : ∃ host, e = .start host
      · obtain ⟨host, rfl⟩ := hstart
        cases htask
        obtain ⟨_, more, config, rfl, -, hstarted⟩ := runs_then_iff.1 hrest
        obtain ⟨ev, hev, table, hshown⟩ := start_shown hstarted nofun
        exact ⟨ev, by simp [hev], table, hshown⟩
      · have hensured : e.load = Foreign.ensureLoaded := by
          cases e <;> first | rfl | exact absurd ⟨_, rfl⟩ hstart
        rw [hensured] at hload
        obtain ⟨ev, hev, table, hshown⟩ := ensureLoaded_shown hload
        exact ⟨ev, List.mem_append_left _ hev, table, hshown⟩
    obtain ⟨ev, hev, table, hshown⟩ := hshown
    exact ⟨ev, List.mem_append_left _ hev, table, hshown⟩

/-- A caller whose load went well was shown a table, and it is the one that it got. -/
theorem shown_of_loaded (h : c.program.Runs events answer) (hloaded : c.Loaded answer) :
    ∃ e ∈ events, ∃ table, e.shown? = some table ∧
      ∀ got, c.gets? answer = some got → got = table := by
  cases c with
  | look =>
    obtain rfl := runs_request_iff.1 h
    obtain ⟨table, rfl⟩ := Option.isSome_iff_exists.1 hloaded
    exact ⟨_, List.mem_cons_self .., table, rfl, fun got hgot => (Option.some.inj hgot).symm⟩
  | direct paths =>
    cases answer with
    | error failure => cases hloaded
    | ok table =>
      obtain ⟨e, he, hshown⟩ := (loadRun_of_runs h).shown
      exact ⟨e, he, table, hshown, fun got hgot => (Option.some.inj hgot).symm⟩
  | load paths =>
    cases answer with
    | error failure => cases hloaded
    | ok table =>
      obtain ⟨e, he, hshown⟩ := load_shown h
      exact ⟨e, he, table, hshown, fun got hgot => (Option.some.inj hgot).symm⟩
  | start config =>
    obtain ⟨e, he, table, hshown⟩ := start_shown h hloaded
    exact ⟨e, he, table, hshown, nofun⟩
  | enter entry =>
    obtain ⟨e, he, table, hshown⟩ := entry_shown h hloaded
    exact ⟨e, he, table, hshown, nofun⟩

theorem load_in_vain {paths : LibraryPaths} {events : Transcript} {failure : Failure}
    (h : (Control.load paths).run.Runs events (.error failure)) :
    ∃ opening cause, events = ⟨.table, none⟩ :: opening ∧
      (Table.open paths).run.Runs opening (.error cause) := by
  obtain ⟨answer, hrun, hanswer⟩ := runs_adapt_iff.1 h
  cases answer with
  | ok table => cases hanswer
  | error cause =>
    obtain ⟨opening, hevents, hopening⟩ := (loadRun_of_runs hrun).in_vain
    exact ⟨opening, cause, hevents, hopening⟩

/-- A caller whose load failed found no table, could open none, and offered none. -/
theorem opens_in_vain (h : c.program.Runs events answer) (hfailed : c.Failed answer) :
    ∃ paths opening failure, c.paths? = some paths ∧ events = ⟨.table, none⟩ :: opening ∧
      (Table.open paths).run.Runs opening (.error failure) ∧
      ∀ e ∈ opening, ¬ e.request.AtTable := by
  have hload {paths : LibraryPaths} {failure : Failure} (hpaths : c.paths? = some paths)
      (h : (Control.load paths).run.Runs events (.error failure)) :
      ∃ paths opening failure, c.paths? = some paths ∧ events = ⟨.table, none⟩ :: opening ∧
        (Table.open paths).run.Runs opening (.error failure) ∧
        ∀ e ∈ opening, ¬ e.request.AtTable := by
    obtain ⟨opening, cause, hevents, hopening⟩ := load_in_vain h
    exact ⟨paths, opening, cause, hpaths, hevents, hopening, open_quiet hopening⟩
  cases c with
  | look => exact hfailed.elim
  | enter entry => exact hfailed.elim
  | direct paths =>
    cases answer with
    | ok table => exact absurd rfl hfailed
    | error failure =>
      obtain ⟨opening, hevents, hopening⟩ := (loadRun_of_runs h).in_vain
      exact ⟨paths, opening, failure, rfl, hevents, hopening, open_quiet hopening⟩
  | load paths =>
    cases answer with
    | ok table => exact absurd rfl hfailed
    | error failure => exact hload rfl h
  | start config =>
    obtain ⟨cause, rfl⟩ := hfailed
    rcases start_failed h with hfirst | hnever
    · exact hload rfl hfirst
    · exact absurd rfl (hnever cause)

end Caller

end ImageGateway
