-- The books of the entry points for foreign hosts. What an entry point takes it
-- gives back or leaves with the host. The one exception: a reader that hands
-- something over reads it before it looks at the place for it, so without a
-- place what was read is lost.

import ImageGateway.Proofs.Custody.Slots
import ImageGateway.Proofs.Tally

namespace ImageGateway

/-- The same call with a place for the answer. -/
def Export.placed : Export → Export
  | getHanding handing operation name _ => getHanding handing operation name .writable
  | entry => entry

theorem Export.placed_not_misplaced (entry : Export) : ¬ entry.placed.Misplaced := by
  cases entry <;> exact id

open Resource

/-- The last that a reader does without a place: it logs a warning. -/
def Foreign.noPlace (entry : String) : Event :=
  ⟨.log .warn (entry ++ ": " ++ "null output pointer"), ()⟩

/-- Whoever takes references and copies in a run, and in the end has to account for them. -/
structure Books (events : Transcript) (x : Resource) (owned : Nat) : Prop where
  /-- What was taken was given back, left in slots, or is owned in the end. -/
  balance : x.acquiredIn events = x.releasedIn events + x.slottedIn events + owned
  /-- At no point more was given back than was taken before. -/
  covered : ∀ first, first <+: events →
    x.releasedIn first + x.slottedIn first ≤ x.acquiredIn first

/-- The warning changes nothing in the books. -/
theorem Books.warned {owned : Nat} {events : Transcript} {x : Resource}
    (h : Books events x owned) (name : String) :
    Books (events ++ [Foreign.noPlace name]) x owned where
  balance := by
    simpa [Foreign.noPlace, gained, returned, slotted] using h.balance
  covered := by
    intro first hfirst
    rcases List.prefix_concat_iff.1 hfirst with rfl | hfirst
    · simpa [Foreign.noPlace, gained, returned, slotted] using h.covered events (List.prefix_refl _)
    · exact h.covered first hfirst

namespace Foreign

variable {α : Type} {entry : String} {operation : Option Handle} {name : Option CText}
  {f : Object → String → Attempt α} {events : Transcript}

/-- Without a place a reader does all that it does with one, and then logs a warning. -/
theorem runs_fetch_null {stored : Option α}
    (hrun : (fetch entry operation name .null f).Runs events stored) :
    stored = none ∧ ∃ before answer, events = before ++ [noPlace entry] ∧
      (fetch entry operation name .writable f).Runs before answer := by
  obtain ⟨before, last, answer, rfl, hread, hstore⟩ := Program.runs_bind_iff.1 hrun
  obtain ⟨_, rest, rfl, hrest⟩ := Program.runs_ask_iff.1 hstore
  obtain ⟨rfl, rfl⟩ := Program.runs_done_iff.1 hrest
  refine ⟨rfl, before, answer, rfl, Program.runs_bind_iff.2 ⟨before, [], answer, ?_, hread, ?_⟩⟩
  · simp
  · exact .done answer

/-- The same, for what is handed over. -/
theorem runs_handed_null {f : Object → String → Attempt (Option α)} {g : α → Holding}
    {stored : List Holding}
    (hrun : Program.Runs (do return Export.handed g (← fetch entry operation name .null f)) events
      stored) :
    stored = [] ∧ ∃ before answer, events = before ++ [noPlace entry] ∧
      Program.Runs (do return Export.handed g (← fetch entry operation name .writable f)) before
        (Export.handed g answer) := by
  obtain ⟨first, last, answer, rfl, hfetch, hdone⟩ := Program.runs_bind_iff.1 hrun
  obtain ⟨rfl, rfl⟩ := Program.runs_done_iff.1 hdone
  obtain ⟨rfl, before, answer, rfl, hplaced⟩ := runs_fetch_null hfetch
  refine ⟨rfl, before, answer, by simp, ?_⟩
  exact Program.runs_bind_iff.2 ⟨before, [], answer, by simp, hplaced, .done _⟩

end Foreign

theorem Export.value_not_mem_handed {α : Type} {f : α → Holding} (hf : ∀ a v, f a ≠ .value v)
    (answer : Option (Option α)) (v : Value) : .value v ∉ Export.handed f answer := by
  rcases answer with _ | _ | a
  · exact List.not_mem_nil
  · exact List.not_mem_nil
  · intro hv
    exact hf a v (List.mem_singleton.1 hv).symm

/-- A call without a place does all that it does with one, stores nothing, and logs a warning. -/
theorem runs_misplaced {entry : Export} (h : entry.Misplaced) {events : Transcript}
    {stored : List Holding} (hrun : entry.program.Runs events stored) :
    stored = [] ∧ ∃ before name lost, events = before ++ [Foreign.noPlace name] ∧
      entry.placed.program.Runs before lost ∧ ∀ v, .value v ∉ lost := by
  cases entry with
  | getHanding handing operation name place =>
    cases place with
    | writable => exact h.elim
    | null =>
      cases handing with
      | text =>
        obtain ⟨hstored, before, answer, hevents, hplaced⟩ := Foreign.runs_handed_null hrun
        exact ⟨hstored, before, _, _, hevents, hplaced, Export.value_not_mem_handed nofun answer⟩
      | blob =>
        obtain ⟨hstored, before, answer, hevents, hplaced⟩ := Foreign.runs_handed_null hrun
        exact ⟨hstored, before, _, _, hevents, hplaced, Export.value_not_mem_handed nofun answer⟩
      | image =>
        obtain ⟨hstored, before, answer, hevents, hplaced⟩ := Foreign.runs_handed_null hrun
        exact ⟨hstored, before, _, _, hevents, hplaced, Export.value_not_mem_handed nofun answer⟩
  | _ => exact h.elim

/-! ## The books -/

namespace Resource

variable {x : Resource} {events : Transcript}

/-- What a program is sure to move is what its books say. -/
theorem books_of_runs {α : Type} {p : Program α} {a : α} {owned : α → Nat} {seen : Bool}
    (hx : ¬ x.OfCells)
    (h : x.watch.Ensures ⟨seen, 0, 0⟩ p fun a t => Standing.Moves ⟨seen, 0, 0⟩ t 0 (owned a))
    (hrun : p.Runs events a) (htable : events.Lasting seen) : Books events x (owned a) := by
  obtain ⟨hallows, hmoves⟩ := h.of_runs hrun (admits_of_lasting hx htable)
  refine ⟨?_, ?_⟩
  · have hafter := count_after hallows
    have hcount := hmoves.count
    omega
  · rintro first ⟨second, rfl⟩
    simpa using released_le ((Watch.allows_append _ _ _).1 hallows).1

/-- A call with a place for its answer keeps its books, whatever the library answers. -/
theorem export_books (hx : ¬ x.OfCells) {entry : Export} (hplace : ¬ entry.Misplaced)
    {stored : List Holding} {seen : Bool} (hrun : entry.program.Runs events stored)
    (htable : events.Lasting seen) : Books events x (x.worths stored) := by
  have hlent : ∀ c, entry.lent? = some c →
      x.Sound c ∧ x.inCell c ≤ (⟨seen, 0, 0⟩ : Standing).there :=
    fun c _ => ⟨sound_of_not hx c, Nat.le_of_eq (inCell_of_not hx c)⟩
  have hturns := export_turns (s := ⟨seen, 0, 0⟩) entry (.inl hplace) hlent
  exact books_of_runs hx (hturns.mono fun _ _ hmade => hmade.moves) hrun htable

/-- References and copies that are owned weigh something. -/
theorem exists_worth {things : List Holding} (hne : things ≠ [])
    (hvalue : ∀ v, .value v ∉ things) : ∃ x : Resource, ¬ x.OfCells ∧ 0 < x.worths things := by
  obtain ⟨thing, rest, rfl⟩ := List.exists_cons_of_ne_nil hne
  cases thing with
  | object o => exact ⟨.object o.handle, id, by rw [worths_cons, worth, one_self]; omega⟩
  | image i => exact ⟨.object i.object.handle, id, by rw [worths_cons, worth, one_self]; omega⟩
  | operation o => exact ⟨.object o.object.handle, id, by rw [worths_cons, worth, one_self]; omega⟩
  | blob b => exact ⟨.blob b.handle, id, by rw [worths_cons, worth, one_self]; omega⟩
  | value v => exact absurd (List.mem_cons_self ..) (hvalue v)
  | text t => exact ⟨.text t, id, by rw [worths_cons, worth, one_self]; omega⟩

end Resource

/-- Whatever the library answers, an entry point gives back every reference and every copy that it
takes, or leaves it with the host, and never gives back more than it took. The exception is a reader
that hands something over and has no place for it: what it would have stored with a place is lost,
and its books are in order only if that is nothing. -/
theorem an_entry_point_loses_only_what_it_has_no_place_for {entry : Export} {events : Transcript}
    {stored : List Holding} {seen : Bool} (hrun : entry.program.Runs events stored)
    (htable : events.Lasting seen) :
    (¬ entry.Misplaced → ∀ x : Resource, ¬ x.OfCells → Books events x (x.worths stored)) ∧
    (entry.Misplaced → stored = [] ∧ ∃ before name lost, events = before ++ [Foreign.noPlace name] ∧
      entry.placed.program.Runs before lost ∧
      (∀ x : Resource, ¬ x.OfCells → Books events x (x.worths lost)) ∧
      ((∀ x : Resource, ¬ x.OfCells → Books events x (x.worths stored)) ↔ lost = [])) ∧
    ∀ e ∈ events, ∀ c place image, e.request = .fillSlot c place image → .value ⟨c⟩ ∈ stored := by
  refine ⟨fun hplace x hx => export_books hx hplace hrun htable, fun hplace => ?_, ?_⟩
  · obtain ⟨rfl, before, name, lost, rfl, hplaced, hvalue⟩ := runs_misplaced hplace hrun
    have hbooks (x : Resource) (hx : ¬ x.OfCells) :
        Books (before ++ [Foreign.noPlace name]) x (x.worths lost) :=
      (export_books hx entry.placed_not_misplaced hplaced
        (Transcript.lasting_append.1 htable).1).warned name
    refine ⟨rfl, before, name, lost, rfl, hplaced, hbooks, fun hall => ?_, ?_⟩
    · by_cases hlost : lost = []
      · exact hlost
      · obtain ⟨x, hx, hpos⟩ := exists_worth hlost hvalue
        have hempty := (hall x hx).balance
        have hfull := (hbooks x hx).balance
        rw [worths_nil] at hempty
        omega
    · rintro rfl
      exact hbooks
  · intro e he c place image hrequest
    obtain ⟨-, hafter⟩ :=
      (SlotWatch.export_ensures entry).of_runs hrun (SlotWatch.admits_all events)
    exact hafter c (SlotWatch.mem_after (.inr ⟨e, he, place, image, hrequest⟩))

/-! ## A blob that is lost -/

/-- A host asks for a blob and has no place for it. -/
def blobWithoutPlace : Export :=
  .getHanding .blob (some ⟨"o"⟩) (some ⟨[98], by decide⟩) .null

/-- The type under which the library registers blobs. -/
def blobType : TypeId := ⟨2004⟩

/-- The reference to the blob is taken, the cell is given back, and then the place is looked at. -/
def blobLost : Transcript :=
  let table : Event := ⟨.table, some ⟨⟨"libvips.so.42"⟩, none, []⟩⟩
  let cell : Cell := ⟨some 1, blobType⟩
  [table, table, ⟨.call (.registered .blob), blobType⟩,
    table, ⟨.call (.getArgument ⟨"o"⟩ ⟨[98], by decide⟩), ⟨0, some ⟨none, blobType⟩, some 2⟩⟩,
    ⟨.call (.transformable blobType blobType), 1⟩,
    table, ⟨.call (.cellInit blobType), some 1⟩,
    ⟨.call (.getProperty ⟨"o"⟩ ⟨[98], by decide⟩ cell), ()⟩,
    table, ⟨.call (.registered .blob), blobType⟩, ⟨.call (.isA blobType blobType), 1⟩,
    ⟨.call (.cellGet cell .boxedCopy), some ⟨"blob"⟩⟩,
    table, ⟨.call (.cellUnset cell), ()⟩,
    Foreign.noPlace "vo_get_blob"]

theorem blobLost_runs : blobWithoutPlace.program.Runs blobLost [] :=
  .ask _ (.ask _ (.ask _ (.ask _ (.ask _ (.ask _ (.ask _ (.ask _ (.ask _ (.ask _ (.ask _
    (.ask _ (.ask _ (.ask _ (.ask _ (.ask _ (.done _))))))))))))))))

theorem blobLost_lasting : blobLost.Lasting true := by
  simp [blobLost, Foreign.noPlace, Transcript.Lasting, Resource.tableSeen]

/-- The reference to the blob is neither given back nor stored. -/
theorem a_call_without_a_place_can_lose_a_blob :
    ¬ ∀ (entry : Export) (events : Transcript) (stored : List Holding) (seen : Bool),
      entry.program.Runs events stored → events.Lasting seen →
        ∀ x : Resource, ¬ x.OfCells → Books events x (x.worths stored) := by
  intro h
  have hbooks := h _ _ _ true blobLost_runs blobLost_lasting (.blob ⟨"blob"⟩) id
  have hacquired : (Resource.blob ⟨"blob"⟩).acquiredIn blobLost = 1 := by decide
  have hreleased : (Resource.blob ⟨"blob"⟩).releasedIn blobLost = 0 := by decide
  have hslotted : (Resource.blob ⟨"blob"⟩).slottedIn blobLost = 0 := by decide
  have hbalance := hbooks.balance
  rw [hacquired, hreleased, hslotted] at hbalance
  exact absurd hbalance (by decide)

/-- With the same replies and a place the host would own the blob. -/
theorem a_blob_without_a_place_is_what_is_lost :
    ∃ before name lost, blobLost = before ++ [Foreign.noPlace name] ∧
      blobWithoutPlace.placed.program.Runs before lost ∧
      Books blobLost (.blob ⟨"blob"⟩) ((Resource.blob ⟨"blob"⟩).worths lost) := by
  obtain ⟨-, hlost, -⟩ :=
    an_entry_point_loses_only_what_it_has_no_place_for blobLost_runs blobLost_lasting
  obtain ⟨-, before, name, lost, hevents, hplaced, hbooks, -⟩ := hlost trivial
  exact ⟨before, name, lost, hevents, hplaced, hbooks _ id⟩

end ImageGateway
