-- Refusals in the entry points for foreign hosts: one that meets a refusal stores
-- nothing and logs the mismatch.

import ImageGateway.Proofs.Background
import ImageGateway.Proofs.Custody.Exports
import ImageGateway.Proofs.Refusals.Operations
import ImageGateway.Proofs.Runs

namespace ImageGateway

/-- The warning that an entry point logs for a failure. -/
def Foreign.warned (entry : String) (failure : Failure) : Event :=
  ⟨.log .warn (entry ++ ": " ++ failure.message), ()⟩

namespace Refusals

open Program

variable {α β : Type}

/-- A program that, if a check is refused, answers with nothing and logs the mismatch. -/
structure Withholds (p : Program α) (nothing : α → Prop) : Prop where
  stores : refusalWatch.Ensures false p fun a refused => refused = true → nothing a
  logs : ∀ {events : Transcript} {a : α}, p.Runs events a → events.Lasting true → events.Refused →
    ∃ entry failure, failure.IsMismatch ∧ Foreign.warned entry failure ∈ events

section

variable {p : Program α} {P : α → Prop} {Q : β → Prop}

theorem Calm.withholds (h : Calm p) : Withholds p P where
  stores := Watch.Ensures.mono h fun _ _ hm hrefused => by simp [hm] at hrefused
  logs hrun htable hrefused := absurd hrefused (h.not_refused hrun htable)

/-- What comes after the answer checks nothing, and makes nothing of nothing. -/
theorem Withholds.bind {f : α → Program β} (h : Withholds p P)
    (hf : ∀ a m, refusalWatch.Ensures m (f a) fun b after => after = m ∧ (P a → Q b)) :
    Withholds (p >>= f) Q where
  stores := by
    refine Watch.Ensures.bind h.stores fun a m hm => (hf a m).mono ?_
    rintro b _ ⟨rfl, hb⟩ hrefused
    exact hb (hm hrefused)
  logs := by
    intro events b hrun htable hrefused
    obtain ⟨first, last, a, rfl, hfirst, hlast⟩ := runs_bind_iff.1 hrun
    obtain ⟨hbefore, hafter⟩ := Transcript.lasting_append_iff.1 htable
    have hcalm : Calm (f a) := (hf a false).mono fun _ _ hb => hb.1
    rcases Transcript.refused_append.1 hrefused with hrefused | hrefused
    · obtain ⟨entry, failure, hmismatch, hlog⟩ := h.logs hfirst hbefore hrefused
      exact ⟨entry, failure, hmismatch, List.mem_append_left _ hlog⟩
    · exact absurd hrefused (hcalm.not_refused hlast hafter)

theorem Withholds.map {f : α → β} (h : Withholds p P) (hf : ∀ a, P a → Q (f a)) :
    Withholds (do return f (← p)) Q := h.bind fun a _ => ⟨rfl, hf a⟩

/-- First a program that checks nothing. -/
theorem Calm.bindWithholds {f : α → Program β} (h : Calm p) (hf : ∀ a, Withholds (f a) Q) :
    Withholds (p >>= f) Q where
  stores := by
    refine Watch.Ensures.bind h ?_
    rintro a _ rfl
    exact (hf a).stores
  logs := by
    intro events b hrun htable hrefused
    obtain ⟨first, last, a, rfl, hfirst, hlast⟩ := runs_bind_iff.1 hrun
    obtain ⟨hbefore, hafter⟩ := Transcript.lasting_append_iff.1 htable
    rcases Transcript.refused_append.1 hrefused with hrefused | hrefused
    · exact absurd hrefused (h.not_refused hfirst hbefore)
    · obtain ⟨entry, failure, hmismatch, hlog⟩ := (hf a).logs hlast hafter hrefused
      exact ⟨entry, failure, hmismatch, List.mem_append_right _ hlog⟩

theorem withholds_done {a : α} : Withholds (done a) P := (calm_done a).withholds

end

/-- A program that never touches anything may go on after a refusal. -/
theorem ensures_of_asks {refused : Bool} {p : Program α} (h : p.Asks fun q => ¬ q.Touches) :
    refusalWatch.Ensures refused p fun _ _ => True := by
  induction p generalizing refused with
  | done a => trivial
  | ask q k ih => exact ⟨fun _ => h.1, fun r _ => ih r (h.2 r)⟩

theorem untouched_of_background (q : Request) (h : q.Background) : ¬ q.Touches := by
  unfold Request.Touches
  split <;> first | exact id | exact fun _ => h

/-! ## The frame of an entry point -/

theorem warn_quiet (entry text : String) : Quiet (Foreign.warn entry text) :=
  quiet_request id id

theorem borrowText_calm (entry : String) (text : Option CText) :
    Calm (Foreign.borrowText entry text) := by
  cases text with
  | none => exact (warn_quiet entry _).calm.bind fun _ => calm_done _
  | some text =>
    unfold Foreign.borrowText
    split
    · contradiction
    · split
      · exact calm_done _
      · exact (warn_quiet entry _).calm.bind fun _ => calm_done _

/-- Where a table is published, the library is not loaded again. -/
theorem ensureLoaded_stops : Stops Foreign.ensureLoaded := by
  refine ⟨nofun, fun table htable => ?_⟩
  cases table with
  | none => cases htable rfl
  | some table => rfl

theorem guarded_withholds {entry : String} {p : Attempt α} (h : Stops p) :
    Withholds (Foreign.guarded entry p) (· = none) := by
  have hwhole : Stops (Foreign.ensureLoaded >>= fun _ => p) := ensureLoaded_stops.try fun _ => h
  constructor
  · refine Watch.Tries.run hwhole ?_ ?_
    · rintro a _ rfl
      exact withholds_done.stores
    · intro failure m hm
      exact (warn_quiet entry _ m).bind fun _ _ _ _ => rfl
  · intro events answer hrun htable hrefused
    obtain ⟨first, last, result, rfl, hfirst, hlast⟩ := runs_bind_iff.1 hrun
    obtain ⟨hbefore, -⟩ := Transcript.lasting_append_iff.1 htable
    obtain ⟨hallows, hresult⟩ := hwhole.of_runs hfirst (admits_of_lasting hbefore)
    have hafter := (halting_of_allows hallows).2
    cases result with
    | ok a =>
      obtain ⟨rfl, -⟩ := runs_done_iff.1 hlast
      rw [List.append_nil] at hrefused
      rw [hafter hrefused] at hresult
      cases hresult
    | error failure =>
      obtain ⟨_, rest, rfl, hrest⟩ := runs_ask_iff.1 hlast
      obtain ⟨rfl, -⟩ := runs_done_iff.1 hrest
      rcases Transcript.refused_append.1 hrefused with hrefused | ⟨e, he, hno⟩
      · exact ⟨entry, failure, hresult (hafter hrefused), by simp [Foreign.warned]⟩
      · obtain rfl := List.mem_singleton.1 he
        cases hno

theorem onProperty_withholds {entry : String} {f : Object → String → Attempt α}
    (operation : Option Handle) (name : Option CText) (h : ∀ object name, Stops (f object name)) :
    Withholds (Foreign.onProperty entry operation name f) (· = none) := by
  refine (borrowText_calm entry name).bindWithholds fun name => ?_
  cases name with
  | none => exact withholds_done
  | some name =>
    apply guarded_withholds
    cases operation with
    | none => exact stops_throw _
    | some handle => exact h ⟨handle⟩ name

theorem fetch_withholds {entry : String} {f : Object → String → Attempt α}
    (operation : Option Handle) (name : Option CText) (place : Foreign.Place)
    (h : ∀ object name, Stops (f object name)) :
    Withholds (Foreign.fetch entry operation name place f) (· = none) := by
  refine (onProperty_withholds operation name h).bind fun answer m => ?_
  cases place with
  | null => exact (warn_quiet entry _ m).bind fun _ _ hm => ⟨hm, fun _ => rfl⟩
  | writable => exact ⟨rfl, id⟩

theorem fetchInto_withholds {entry : String} {f : Object → String → Attempt (List α)}
    (operation : Option Handle) (name : Option CText) (buffer : Option (List α)) (size : Int32)
    (h : ∀ object name, Stops (f object name)) :
    Withholds (Foreign.fetchInto entry operation name buffer size f) (· = (-1, buffer)) := by
  refine (onProperty_withholds operation name h).bind fun answer m => ?_
  cases answer with
  | none => exact ⟨rfl, fun _ => rfl⟩
  | some values => exact ⟨rfl, fun hnone => by cases hnone⟩

theorem fill_withholds {entry : String} {make : Attempt Value} (place : Foreign.Place)
    (h : Stops make) : Withholds (Foreign.fill entry place make) (· = none) := by
  cases place with
  | null => exact (warn_quiet entry _).calm.bindWithholds fun _ => withholds_done
  | writable => exact (guarded_withholds h).map fun _ => congrArg _

theorem releaseAll_quiet (images : List Image) : Quiet (Foreign.releaseAll images) := by
  induction images with
  | nil => exact quiet_done ()
  | cons image rest ih => exact (releaseObject_quiet image.object).bind fun _ => ih

theorem borrowImages_stops (taken : List Image) (items : List (Option Handle)) :
    Stops (Foreign.borrowImages taken items) := by
  induction items generalizing taken with
  | nil => exact stops_pure _
  | cons handle rest ih =>
    refine Watch.Tries.result (borrow_stops handle).map ?_ fun failure m hm => ?_
    · rintro image _ rfl
      cases image with
      | none => exact (releaseAll_quiet taken).calm.then fun _ => stops_throw _
      | some image => exact ih _
    · refine (releaseAll_quiet taken m).then ?_
      rintro _ _ rfl
      exact hm

theorem runTileCache_withholds (entry : String) (image : Option Handle) (place : Foreign.Place)
    (options : TileOptions) :
    Withholds (Foreign.runTileCache entry image place options) (·.2 = none) := by
  cases place with
  | null => exact (warn_quiet entry _).calm.bindWithholds fun _ => withholds_done
  | writable =>
    refine (guarded_withholds ?_).bind fun cached m => ?_
    · refine (borrow_stops image).map.try fun borrowed => ?_
      cases borrowed with
      | none => exact stops_throw _
      | some borrowed =>
        exact (tileCache_stops borrowed options).closedBy (releaseObject_quiet borrowed.object)
    · cases cached with
      | none => exact ⟨rfl, fun _ => rfl⟩
      | some image => exact ⟨rfl, fun hnone => by cases hnone⟩

theorem borrowPairs_calm (entry : String) (pairs : List (Option CText × Int32)) :
    Calm (Foreign.borrowPairs entry pairs) := by
  induction pairs with
  | nil => exact calm_done _
  | cons pair rest ih =>
    obtain ⟨name, n⟩ := pair
    cases name with
    | none => exact calm_done _
    | some name =>
      refine (borrowText_calm entry (some name)).bind fun name => ?_
      cases name with
      | none => exact calm_done _
      | some name => exact ih.bind fun _ => calm_done _

/-! ## Entry points -/

/-- A property that is read for the host. -/
theorem fetched_withholds {entry : String} {f : Object → String → Attempt α}
    (operation : Option Handle) (name : Option CText) (place : Foreign.Place)
    (h : ∀ object name, Stops (f object name)) :
    Withholds (do let _ ← Foreign.fetch entry operation name place f; return [])
      (· = ([] : List Holding)) :=
  (fetch_withholds operation name place h).map fun _ _ => rfl

theorem handed_withholds {entry : String} {f : Object → String → Attempt (Option α)}
    {g : α → Holding} (operation : Option Handle) (name : Option CText) (place : Foreign.Place)
    (h : ∀ object name, Stops (f object name)) :
    Withholds (do return Export.handed g (← Foreign.fetch entry operation name place f))
      (· = []) :=
  (fetch_withholds operation name place h).map fun answer hnone => by rw [hnone]; rfl

theorem filled_withholds {entry : String} {make : Attempt Value} (place : Foreign.Place)
    (h : Stops make) :
    Withholds (do return Export.filled (← Foreign.fill entry place make)) (· = []) :=
  (fill_withholds place h).map fun answer hnone => by rw [hnone]; rfl

theorem export_withholds {entry : Export} (hstart : ∀ name, entry ≠ .start name) :
    Withholds entry.program (· = []) := by
  cases entry with
  | setBool place n => exact filled_withholds place (boxed_stops _ _)
  | setInt place n => exact filled_withholds place (boxed_stops _ _)
  | setUInt64 place n => exact filled_withholds place (boxed_stops _ _)
  | setDouble place x => exact filled_withholds place (boxed_stops _ _)
  | setString place text =>
    refine Withholds.map (P := (· = none)) ?_ fun answer hnone => by rw [hnone]; rfl
    refine (borrowText_calm _ text).bindWithholds fun text => ?_
    cases text with
    | none => exact withholds_done
    | some text =>
      exact fill_withholds place ((nativeText_stops text).try fun _ => boxed_stops _ _)
  | setInts place items size => exact filled_withholds place (array_stops _ _ _)
  | setDoubles place items size => exact filled_withholds place (array_stops _ _ _)
  | setImages place items size =>
    exact filled_withholds place ((borrowImages_stops [] _).try fun images =>
      (ofImages_stops images).closedBy (releaseAll_quiet images))
  | setBlob place blob =>
    refine filled_withholds place ?_
    cases blob with
    | none => exact stops_throw _
    | some handle => exact ofBlob_stops ⟨handle⟩
  | setObject kin place object =>
    have hany (entry : String) :
        Withholds (do return Export.filled (← Foreign.setAnyObject entry place object))
          (· = []) := by
      refine filled_withholds place ?_
      cases object with
      | none => exact stops_throw _
      | some handle => exact ofObject_stops_boxing ⟨handle⟩
    cases kin <;> exact hany _
  | getPlain plain operation name place =>
    cases plain with
    | bool =>
      exact fetched_withholds operation name place fun object name =>
        (getWith_stops getBool_stops object name _).map
    | int => exact fetched_withholds operation name place getInteger_stops
    | uint64 =>
      exact fetched_withholds operation name place fun object name =>
        getWith_stops getUInt64_stops object name _
    | double =>
      exact fetched_withholds operation name place fun object name =>
        getWith_stops getDouble_stops object name _
  | getHanding handing operation name place =>
    cases handing with
    | text => exact handed_withholds operation name place copyText_stops
    | blob =>
      exact handed_withholds operation name place fun object name =>
        (getRegistered_stops getBlob_stops object name _).map
    | image =>
      exact handed_withholds operation name place fun object name =>
        (getRegistered_stops getImage_stops object name _).map
  | getInts operation name buffer size =>
    exact (fetchInto_withholds operation name buffer size fun object name =>
      getRegistered_stops getInts_stops object name _).map fun _ _ => rfl
  | getDoubles operation name buffer size =>
    exact (fetchInto_withholds operation name buffer size fun object name =>
      getRegistered_stops getDoubles_stops object name _).map fun _ _ => rfl
  | setProperty object name cell =>
    refine Withholds.map (f := fun _ => []) (P := fun _ => True) ?_ fun _ _ => rfl
    cases cell with
    | none => exact (warn_quiet _ _).calm.withholds
    | some cell =>
      exact (onProperty_withholds object name fun object name =>
        set_stops object name ⟨cell⟩).map fun _ _ => trivial
  | cacheImage image place =>
    exact (runTileCache_withholds _ image place _).map fun r hr => by rw [hr]; rfl
  | cacheImageWith image place pairs =>
    refine Withholds.map (P := (·.2 = none)) ?_ fun r hr => by rw [hr]; rfl
    refine (borrowPairs_calm _ pairs).bindWithholds fun pairs => ?_
    cases pairs with
    | none => exact withholds_done
    | some pairs =>
      dsimp only
      split
      · exact runTileCache_withholds _ image place _
      · exact (warn_quiet _ _).calm.bindWithholds fun _ => withholds_done
  | start name => exact absurd rfl (hstart name)

/-- Whatever the entry point is, it stores nothing if a check is refused. -/
theorem export_stores (entry : Export) :
    refusalWatch.Ensures false entry.program fun stored refused =>
      refused = true → stored = [] := by
  by_cases hstart : ∃ name, entry = .start name
  · obtain ⟨name, rfl⟩ := hstart
    have hasked : (Foreign.start name).Asks fun q => ¬ q.Touches :=
      startForHost_asks (fun q hq => untouched_of_background q hq) name
    exact (ensures_of_asks hasked).bind fun _ _ _ _ => rfl
  · exact (export_withholds fun name hname => hstart ⟨name, hname⟩).stores

end Refusals

end ImageGateway
