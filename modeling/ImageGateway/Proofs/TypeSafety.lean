-- Nothing is touched as what it is not: typed entry points get what they take,
-- and where the library says no, whoever asked stops, says so and keeps nothing.

import ImageGateway.Proofs.Cells
import ImageGateway.Proofs.ForeignReferences
import ImageGateway.Proofs.References
import ImageGateway.Proofs.Refusals.Exports
import ImageGateway.Proofs.Types

namespace ImageGateway

/-- What looks at a type before it touches something, each with what it uses up. -/
inductive Checker : {α : Type} → Attempt α → List Holding → Prop where
  | value (reading : Reading) (v : Value) : Checker (reading.ofValue v) []
  | object (v : Value) : Checker v.getObject []
  | property (reading : Reading) (object : Object) (name : String) :
      Checker (reading.ofProperty object name) []
  | buffer (object : Object) (name : String) (buffer : List Double) :
      Checker (Property.getDoublesInto object name buffer) []
  | copy (object : Object) (name : String) : Checker (Property.copyText object name) []
  | get (object : Object) (name : String) (type : TypeId) :
      Checker (Property.get object name type) []
  | declared (object : Object) (name : String) : Checker (Property.getValue object name) []
  | image (object : Object) : Checker (Image.ofObject object) [.object object]
  | set (object : Object) (name : String) (v : Value) : Checker (Property.set object name v) []
  | input (operation : Operation) (name : String) (argument : Argument) :
      Checker (operation.set name argument) []
  | cache (image : Image) (options : TileOptions) : Checker (tileCache image options) []

/-- A run that stopped where a check was refused: the failure is the mismatch, nothing was touched
any more, and every reference that was used up or taken was given back, or left in an image slot, or
is owned by what was made. -/
structure Stopped {α : Type} (events : Transcript) (result : Except Failure α)
    (used made : List Holding) : Prop where
  mismatch : ∃ failure, result = .error failure ∧ failure.IsMismatch
  halting : events.Halting
  balance : ∀ x : Resource, x.IsReference →
    x.acquiredIn events + x.worths used =
      x.releasedIn events + x.slottedIn events + x.worths made

namespace Refusals

variable {α : Type} {events : Transcript}

variable {entry : Export} {stored : List Holding}

theorem entry_stops (hrun : entry.program.Runs events stored) (htable : events.Lasting true)
    (hrefused : events.Refused) : stored = [] ∧ events.Halting := by
  obtain ⟨hallows, hstored⟩ := (export_stores entry).of_runs hrun (admits_of_lasting htable)
  obtain ⟨hhalting, hafter⟩ := halting_of_allows hallows
  exact ⟨hstored (hafter hrefused), hhalting⟩

/-- What an entry point took before the refusal it gave back. Without a place for its answer it did
all that it does with one, so there is nothing that could be lost. -/
theorem entry_books (hrun : entry.program.Runs events stored) (htable : events.Lasting true)
    (hrefused : events.Refused) {x : Resource} (hx : x.IsReference) : Books events x 0 := by
  by_cases hplace : entry.Misplaced
  · obtain ⟨-, before, name, lost, rfl, hplaced, -⟩ := runs_misplaced hplace hrun
    have hbefore := (Transcript.lasting_append.1 htable).1
    have hstill : Transcript.Refused before := by
      rcases Transcript.refused_append.1 hrefused with hrefused | ⟨e, he, hno⟩
      · exact hrefused
      · obtain rfl := List.mem_singleton.1 he
        cases hno
    obtain ⟨rfl, -⟩ := entry_stops hplaced hbefore hstill
    have hbooks := Resource.export_books hx.not_ofCells entry.placed_not_misplaced hplaced hbefore
    exact hbooks.warned name
  · obtain ⟨rfl, -⟩ := entry_stops hrun htable hrefused
    exact Resource.export_books hx.not_ofCells hplace hrun htable

end Refusals

namespace Checker

open Refusals Resource

variable {α : Type} {p : Attempt α} {used : List Holding} {events : Transcript}

theorem stops (h : Checker p used) : Stops p := by
  cases h with
  | value reading v => exact reading_stops reading v
  | object v => exact getObject_stops v
  | property reading object name => exact readProperty_stops reading object name
  | buffer object name buffer => exact getDoublesInto_stops object name buffer
  | copy object name => exact copyText_stops object name
  | get object name type => exact get_stops object name type
  | declared object name => exact getValue_stops object name
  | image object => exact ofObject_stops object
  | set object name v => exact set_stops object name v
  | input operation name argument => exact setInput_stops operation name argument
  | cache image options => exact tileCache_stops image options

/-- What fails keeps nothing, and gives up what it used. -/
theorem tries {x : Resource} (hx : x.IsReference) (h : Checker p used) :
    x.watch.Tries ⟨true, x.worths used, 0⟩ p (fun _ _ => True)
      fun _ t => Standing.Moves ⟨true, x.worths used, 0⟩ t (x.worths used) 0 := by
  have hsound (c : Cell) : x.Sound c := sound_of_not hx.not_ofCells c
  have hcount (c : Cell) {s : Standing} : x.inCell c ≤ s.there := by
    simp [inCell_of_not hx.not_ofCells]
  have hgives {α : Type} {p : Attempt α} {owned : α → Nat} {good : α → Prop} {s : Standing}
      (hp : x.Gives s p owned good) :
      x.watch.Tries s p (fun _ _ => True) fun _ t => s.Moves t 0 0 :=
    hp.mono (fun _ _ _ => trivial) fun _ _ ht => ht
  cases h with
  | value reading v => exact hgives (readValue_makes reading (hsound _) (hcount _))
  | object v => exact hgives (getObject_reader v _ (hsound _) (hcount _))
  | property reading object name => exact hgives (readProperty_makes object name reading)
  | buffer object name buffer => exact hgives (getDoublesInto_keeps object name buffer)
  | copy object name => exact hgives (getText_yields object name)
  | get object name type => exact hgives (get_gives object name type)
  | declared object name => exact hgives (getValue_gives object name)
  | image object =>
    exact (ofObject_tries object (.inl rfl) (Nat.le_refl _)).mono (fun _ _ _ => trivial)
      fun _ _ ht => ht
  | set object name v => exact hgives (set_keeps object name (hsound _) (hcount _))
  | input operation name argument => exact hgives (setInput_keeps operation name argument)
  | cache image options => exact hgives (tileCache_yields image options)

theorem stopped (h : Checker p used) {result : Except Failure α}
    (hrun : p.run.Runs events result) (htable : events.Lasting true) (hrefused : events.Refused) :
    Stopped events result used [] := by
  obtain ⟨hallows, hresult⟩ := h.stops.of_runs hrun (Refusals.admits_of_lasting htable)
  obtain ⟨hhalting, hafter⟩ := halting_of_allows hallows
  rw [hafter hrefused] at hresult
  cases result with
  | ok a => cases hresult
  | error failure =>
    refine ⟨⟨failure, rfl, hresult rfl⟩, hhalting, fun x hx => ?_⟩
    obtain ⟨hallows, hmoves⟩ := (h.tries hx).of_runs hrun
      (Resource.admits_of_lasting hx.not_ofCells htable)
    have hcount := count_after hallows
    have hmoved := hmoves.count
    simp only [worths_nil]
    omega

end Checker

/-- A run of an entry point that met a refusal: it stores nothing, touches nothing any more, gives
back every reference that it took or leaves it in an image slot, and logs the mismatch. The one that
starts the library asks for no property and logs nothing of the kind. -/
structure Withheld (entry : Export) (events : Transcript) (stored : List Holding) : Prop where
  stored : stored = []
  halting : events.Halting
  books : ∀ x : Resource, x.IsReference → Books events x 0
  logged : (∀ name, entry ≠ .start name) →
    ∃ name failure, failure.IsMismatch ∧ Foreign.warned name failure ∈ events

/-- Whoever checks something stops where the library says no. -/
structure RefusalsStop : Prop where
  attempts : ∀ {α : Type} {p : Attempt α} {used : List Holding}, Checker p used →
    ∀ {events : Transcript} {result : Except Failure α}, p.run.Runs events result →
      events.Lasting true → events.Refused → Stopped events result used []
  /-- A call of an operation goes on with neither its inputs nor its outputs. -/
  calls : ∀ {nickname : String} {options : CallOptions} {events : Transcript}
    {result : Except Failure Unit} {outputs : List Output},
    (Operation.call nickname options).Runs events (result, outputs) → events.Lasting true →
      events.Refused → Stopped events result (options.held.flatMap Output.holdings)
        (outputs.flatMap Output.holdings)
  /-- An entry point for foreign hosts withholds its answer. -/
  entries : ∀ {entry : Export} {events : Transcript} {stored : List Holding},
    entry.program.Runs events stored → events.Lasting true → events.Refused →
      Withheld entry events stored

theorem refusalsStop : RefusalsStop where
  attempts h _ _ hrun htable hrefused := h.stopped hrun htable hrefused
  calls := by
    intro nickname options events result outputs hrun htable hrefused
    obtain ⟨hallows, hends⟩ := (Refusals.call_ends nickname options).of_runs hrun
      (Refusals.admits_of_lasting htable)
    obtain ⟨hhalting, hafter⟩ := Refusals.halting_of_allows hallows
    refine ⟨hends (hafter hrefused), hhalting, fun x hx => ?_⟩
    have hdeed : (Deed.call nickname options).program.Runs events
        (outputs.flatMap Output.holdings) :=
      Program.runs_bind_iff.2 ⟨events, [], _, (List.append_nil _).symm, hrun, .done _⟩
    exact Resource.deed_balance hx hdeed htable
  entries := by
    intro entry events stored hrun htable hrefused
    obtain ⟨hstored, hhalting⟩ := Refusals.entry_stops hrun htable hrefused
    exact ⟨hstored, hhalting, fun x hx => Refusals.entry_books hrun htable hrefused hx,
      fun hstart => (Refusals.export_withholds hstart).logs hrun htable hrefused⟩

/-- Whatever a program and a foreign host do with a library that goes by a table of types: a typed
entry point is called on a cell of the type that it belongs to, which was initialised under the type
that it carries, and the size of an image is asked of an image. Where a check is refused, the result
is the mismatch, nothing is touched any more, and no reference is kept. -/
theorem nothing_is_touched_as_what_it_is_not {types : TypeTable} {past : Past} {w : World}
    (h : FairSession types.IsImage types.IsEnum past w) (hanswers : types.Answers past.trace) :
    (∀ first e rest, past.trace = first ++ e :: rest → types.WellTyped first e.request) ∧
      RefusalsStop :=
  ⟨fun _ _ _ hsplit => h.wellTyped hanswers hsplit, refusalsStop⟩

/-! ## A truth value and an image -/

/-- The image library's own types, where every object is an image. -/
def imageTypes : TypeTable where
  parent type :=
    if type.code ∈ [2001, 2002, 2003] then some .object
    else if type.code ∈ [2004, 2005, 2006, 2007] then some .boxed
    else none
  instanceType _ := ⟨2001⟩
  registered
    | .image => ⟨2001⟩
    | .source => ⟨2002⟩
    | .target => ⟨2003⟩
    | .blob => ⟨2004⟩
    | .intArray => ⟨2005⟩
    | .doubleArray => ⟨2006⟩
    | .imageArray => ⟨2007⟩
  invalid := rfl
  instances _ := .step rfl .refl
  boxed which h := by
    cases which <;> first | exact .step rfl .refl | exact absurd h (by decide)

def publishedTable : Event := ⟨.table, some ⟨⟨"libvips.so.42"⟩, none, []⟩⟩

/-- The truth value is asked for as a whole number, and the library says no. -/
def truthRefused : Transcript :=
  [publishedTable, ⟨.call (.fundamental .boolean), .boolean⟩, ⟨.call (.isA .boolean .int), 0⟩,
    publishedTable, ⟨.call (.typeName .int), none⟩, publishedTable,
    ⟨.call (.typeName .boolean), none⟩]

/-- An object becomes an image, since its type is the one that the library registers. -/
def imageTaken : Transcript :=
  [publishedTable, ⟨.call (.registered .image), ⟨2001⟩⟩, publishedTable,
    ⟨.instanceType ⟨"i"⟩, ⟨2001⟩⟩, ⟨.call (.isA ⟨2001⟩ ⟨2001⟩), 1⟩]

def widthAsked : Transcript := [publishedTable, ⟨.call (.extent .width ⟨"i"⟩), 640⟩]

def truthBoxed : Transcript :=
  [publishedTable, ⟨.call (.cellInit .boolean), some 1⟩,
    ⟨.call (.cellSet boxedTruth.cell (.boolean 1)), ()⟩]

/-- An object is handed in, becomes an image and is asked for its width. A truth value is made, and
asked for as a whole number. -/
def typedPast : Past :=
  [(.receive (.object ⟨⟨"i"⟩⟩), []), (.deed (.asImage ⟨⟨"i"⟩⟩), imageTaken),
    (.deed (.look (.extent ⟨⟨⟨"i"⟩⟩⟩ .width)), widthAsked), (.deed (.box (.bool true)), truthBoxed),
    (.deed (.readValue boxedTruth .int), truthRefused)]

theorem typedPast_session :
    FairSession imageTypes.IsImage imageTypes.IsEnum typedPast
      ⟨[.value boxedTruth, .image ⟨⟨⟨"i"⟩⟩⟩], [], [.object ⟨⟨"i"⟩⟩], []⟩ := by
  have htaken : (Deed.asImage ⟨⟨"i"⟩⟩).program.Runs imageTaken [.image ⟨⟨⟨"i"⟩⟩⟩] :=
    .ask _ (.ask _ (.ask _ (.ask _ (.ask _ (.done _)))))
  have hasked : (Deed.look (.extent ⟨⟨⟨"i"⟩⟩⟩ .width)).program.Runs widthAsked [] :=
    .ask _ (.ask _ (.done _))
  have hboxed : (Deed.box (.bool true)).program.Runs truthBoxed [.value boxedTruth] :=
    .ask _ (.ask _ (.ask _ (.done _)))
  have hread : (Deed.readValue boxedTruth .int).program.Runs truthRefused [] :=
    .ask _ (.ask _ (.ask _ (.ask _ (.ask _ (.ask _ (.ask _ (.done _)))))))
  have hreceived : FairSession imageTypes.IsImage imageTypes.IsEnum (typedPast.take 1)
      ⟨[.object ⟨⟨"i"⟩⟩], [], [.object ⟨⟨"i"⟩⟩], []⟩ := .step .start trivial (.receive trivial)
  have hfirst : FairSession imageTypes.IsImage imageTypes.IsEnum (typedPast.take 2)
      ⟨[.image ⟨⟨⟨"i"⟩⟩⟩], [], [.object ⟨⟨"i"⟩⟩], []⟩ :=
    .step hreceived trivial (.deed (d := .asImage ⟨⟨"i"⟩⟩) (.refl _) nofun htaken)
  have hlooked : FairSession imageTypes.IsImage imageTypes.IsEnum (typedPast.take 3)
      ⟨[.image ⟨⟨⟨"i"⟩⟩⟩], [], [.object ⟨⟨"i"⟩⟩], []⟩ :=
    .step hfirst (.inl (List.mem_cons_self ..))
      (.deed (d := .look (.extent ⟨⟨⟨"i"⟩⟩⟩ .width)) (.refl _) nofun hasked)
  have hmade : FairSession imageTypes.IsImage imageTypes.IsEnum (typedPast.take 4)
      ⟨[.value boxedTruth, .image ⟨⟨⟨"i"⟩⟩⟩], [], [.object ⟨⟨"i"⟩⟩], []⟩ :=
    .step hlooked trivial (.deed (d := .box (.bool true)) (.refl _) nofun hboxed)
  refine .step hmade trivial (.deed (d := .readValue boxedTruth .int) (.refl _) ?_ hread)
  intro v hv
  obtain rfl := Option.some.inj hv
  exact List.mem_cons_self ..

theorem typedPast_answers : imageTypes.Answers typedPast.trace := by
  intro e he
  simp only [typedPast, Past.trace, imageTaken, widthAsked, truthBoxed, truthRefused,
    publishedTable, List.flatMap_cons, List.flatMap_nil, List.cons_append, List.nil_append,
    List.mem_cons, List.not_mem_nil, or_false] at he
  rcases he with rfl | rfl | rfl | rfl | rfl | rfl | rfl | rfl | rfl | rfl | rfl | rfl | rfl | rfl |
    rfl | rfl | rfl
  all_goals try trivial
  · exact fun _ => TypeTable.isA_refl _
  · exact fun _ => rfl
  · exact fun _ => TypeTable.isA_refl _
  · exact fun hno => absurd rfl hno

theorem a_truth_value_is_not_read_as_a_number :
    imageTypes.WellTyped (typedPast.trace.take 6) (.call (.extent .width ⟨"i"⟩)) ∧
      imageTypes.WellTyped (typedPast.trace.take 9)
        (.call (.cellSet boxedTruth.cell (.boolean 1))) ∧
      Stopped truthRefused
        (.error (.typeMismatch "invalid" "invalid") : Except Failure (List Holding)) [] [] := by
  obtain ⟨htyped, hstop⟩ :=
    nothing_is_touched_as_what_it_is_not typedPast_session typedPast_answers
  refine ⟨htyped _ ⟨.call (.extent .width ⟨"i"⟩), 640⟩ (typedPast.trace.drop 7) rfl,
    htyped _ ⟨.call (.cellSet boxedTruth.cell (.boolean 1)), ()⟩ (typedPast.trace.drop 10) rfl, ?_⟩
  have hread : (Reading.ofValue .int boxedTruth).run.Runs truthRefused
      (.error (.typeMismatch "invalid" "invalid")) :=
    .ask _ (.ask _ (.ask _ (.ask _ (.ask _ (.ask _ (.ask _ (.done _)))))))
  have htable : truthRefused.Lasting true := by
    simp [truthRefused, publishedTable, Transcript.Lasting, Resource.tableSeen]
  have hrefused : truthRefused.Refused :=
    ⟨⟨.call (.isA .boolean .int), 0⟩, by simp [truthRefused], rfl⟩
  exact hstop.attempts (.value .int boxedTruth) hread htable hrefused

end ImageGateway
