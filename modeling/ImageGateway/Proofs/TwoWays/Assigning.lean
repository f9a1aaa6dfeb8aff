-- What a host does to set a property, next to what the program does. The host
-- fills a cell in one call and assigns it in another. The program puts the
-- argument into a cell, assigns it and gives it up. What is asked of the library
-- is the same, but for the references that the host's array of images needs.

import ImageGateway.Proofs.Assignment
import ImageGateway.Proofs.OwnCells
import ImageGateway.Proofs.Speech
import ImageGateway.Proofs.TwoWays.Reading

namespace ImageGateway

open Program

/-- The entry points that fill a cell with an argument, by their names, and the calls of them. -/
inductive Argument.PassedBy : Argument → String → Program (Option Cell) → Prop where
  | bool (n : Int32) : PassedBy (.bool (n != 0)) "vo_set_bool" (Foreign.setBool .writable n)
  | int (n : Int32) : PassedBy (.int n) "vo_set_int" (Foreign.setInt .writable n)
  | uint64 (n : UInt64) :
      PassedBy (.uint64 n) "vo_set_guint64" (Foreign.setUInt64 .writable n)
  | double (x : Double) :
      PassedBy (.double x) "vo_set_double" (Foreign.setDouble .writable x)
  | text {s : String} {text : CText} (h : CText.ofString? s = some text) :
      PassedBy (.text s) "vo_set_string" (Foreign.setString .writable (some text))
  | ints {xs : Span Int32} {items : Option (List Int32)} {size : Int32}
      (h : Foreign.lent items size = xs.toList) :
      PassedBy (.ints xs) "vo_set_int_array" (Foreign.setInts .writable items size)
  | doubles {xs : Span Double} {items : Option (List Double)} {size : Int32}
      (h : Foreign.lent items size = xs.toList) :
      PassedBy (.doubles xs) "vo_set_double_array" (Foreign.setDoubles .writable items size)
  | images {images : List Image} {items : Option (List (Option Handle))} {size : Int32}
      (h : Foreign.lent items size = images.map fun image => some image.object.handle) :
      PassedBy (.images images) "vo_set_images" (Foreign.setImages .writable items size)
  | image (image : Image) :
      PassedBy (.image image) "vo_set_image"
        (Foreign.setImage .writable (some image.object.handle))
  | object (object : Object) :
      PassedBy (.object object) "vo_set_object"
        (Foreign.setObject .writable (some object.handle))
  | source (object : Object) :
      PassedBy (.object object) "vo_set_source"
        (Foreign.setSource .writable (some object.handle))
  | target (object : Object) :
      PassedBy (.object object) "vo_set_target"
        (Foreign.setTarget .writable (some object.handle))

/-- The images that an entry point takes references to while it fills a cell. -/
def Argument.borrowed : Argument → List Image
  | .images lent => lent
  | _ => []

namespace Transcript

/-- A reference is taken to each image. -/
def refs (images : List Image) : Transcript :=
  images.map fun image => ⟨.call (.ref image.object.handle), ()⟩

/-- A reference to each image is given up. -/
def unrefs (images : List Image) : Transcript :=
  images.map fun image => ⟨.call (.unref (some image.object.handle)), ()⟩

/-- Looks at the table initialise nothing. -/
theorem numbers_spoken (events : Transcript) : events.spoken.numbers = events.numbers := by
  induction events with
  | nil => rfl
  | cons e events ih =>
    by_cases he : e.request = .table
    · obtain ⟨q, r⟩ := e
      obtain rfl : q = .table := he
      exact ih
    · rw [spoken_cons he]
      unfold numbers at ih ⊢
      rw [List.filterMap_cons, List.filterMap_cons, ih]

theorem numbers_append (first second : Transcript) :
    numbers (first ++ second) = numbers first ++ numbers second := List.filterMap_append

end Transcript

section

variable {α : Type} {events : Transcript}

/-! ## What is said on the published table -/

/-- The reference to each image is given up, in order. -/
theorem speaks_releaseAll {images : List Image} {said : Transcript}
    (h : (Foreign.releaseAll images).Speaks said ()) : said = Transcript.unrefs images := by
  induction images generalizing said with
  | nil => exact (speaks_done_iff.1 h).1
  | cons image images ih =>
    obtain ⟨first, rest, _, rfl, hrelease, hrest⟩ := speaks_bind_iff.1 h
    rw [speaks_releaseObject hrelease, ih hrest]
    rfl

/-- A reference to each image is taken, in order. At the first one that is missing those that were
taken are given up, in order. -/
theorem speaks_borrowImages {taken : List Image} {items : List (Option Handle)} {said : Transcript}
    {r : Except Failure (List Image)} (h : (Foreign.borrowImages taken items).run.Speaks said r) :
    (∃ images : List Image, items = images.map (fun image => some image.object.handle) ∧
      said = Transcript.refs images ∧ r = .ok (taken ++ images)) ∨
    ∃ (before : List Image) (others : List (Option Handle)),
      items = before.map (fun image => some image.object.handle) ++ none :: others ∧
        said = Transcript.refs before ++ Transcript.unrefs (taken ++ before) ∧
          r = .error (.nullPointer .image) := by
  induction items generalizing taken said with
  | nil =>
    obtain ⟨rfl, rfl⟩ := speaks_done_iff.1 h
    exact .inl ⟨[], rfl, rfl, by rw [List.append_nil]⟩
  | cons item items ih =>
    obtain ⟨first, rest, borrowed, rfl, hborrow, hrest⟩ := speaks_then h
    cases item with
    | none =>
      obtain ⟨rfl, rfl⟩ := speaks_done_iff.1 hborrow
      obtain ⟨releasing, last, _, rfl, hrelease, hlast⟩ := speaks_then hrest
      obtain ⟨rfl, rfl⟩ := speaks_done_iff.1 hlast
      refine .inr ⟨[], items, rfl, ?_, rfl⟩
      simp [speaks_releaseAll hrelease, Transcript.refs]
    | some handle =>
      obtain ⟨rfl, rfl⟩ := speaks_borrowImage hborrow
      obtain ⟨images, rfl, rfl, rfl⟩ | ⟨before, others, rfl, rfl, rfl⟩ := ih hrest
      · exact .inl ⟨⟨⟨handle⟩⟩ :: images, rfl, rfl, by rw [List.append_assoc]; rfl⟩
      · exact .inr ⟨⟨⟨handle⟩⟩ :: before, others, rfl, by rw [List.append_assoc]; rfl, rfl⟩

/-- Images are told apart by their handles. -/
theorem eq_of_map_handle {images others : List Image}
    (h : images.map (fun image => some image.object.handle) =
      others.map fun image => some image.object.handle) : images = others := by
  refine (List.map_inj_right ?_).1 h
  rintro ⟨⟨handle⟩⟩ ⟨⟨other⟩⟩ hsame
  cases hsame
  rfl

/-- Around the array of images that the program makes, the host takes and gives up a reference to
each image. If one is missing, no array is made. -/
theorem speaks_lentImages {items : List (Option Handle)} {said : Transcript}
    {r : Except Failure Value}
    (h : (do
      let images ← Foreign.borrowImages [] items
      (Value.ofImages images).closedBy (Foreign.releaseAll images) : Attempt Value).run.Speaks
        said r) :
    (∃ (images : List Image) (boxing : Transcript),
      items = images.map (fun image => some image.object.handle) ∧
        (Value.ofImages images).run.Speaks boxing r ∧
          said = Transcript.refs images ++ boxing ++ Transcript.unrefs images) ∨
    ∃ (before : List Image) (others : List (Option Handle)),
      items = before.map (fun image => some image.object.handle) ++ none :: others ∧
        said = Transcript.refs before ++ Transcript.unrefs before ∧
          r = .error (.nullPointer .image) := by
  obtain ⟨_, hborrow, rfl⟩ | ⟨first, rest, taken, rfl, hborrow, hrest⟩ := speaks_try h
  · obtain ⟨_, -, -, ⟨⟩⟩ | ⟨before, others, rfl, rfl, hfailure⟩ := speaks_borrowImages hborrow
    cases hfailure
    exact .inr ⟨before, others, rfl, rfl, rfl⟩
  · obtain ⟨images, rfl, rfl, htaken⟩ | ⟨_, _, -, -, ⟨⟩⟩ := speaks_borrowImages hborrow
    cases htaken
    obtain ⟨boxing, closing, rfl, hboxing, hclosing⟩ := speaks_closedBy hrest
    refine .inl ⟨images, boxing, rfl, hboxing, ?_⟩
    rw [speaks_releaseAll hclosing, List.append_assoc]
    rfl

theorem spoken_logged (entry : String) (r : Except Failure α) :
    (Foreign.logged entry r).spoken = Foreign.logged entry r := by
  cases r <;> rfl

/-! ## Filling a cell -/

theorem fill_runs {entry : String} {make : Attempt Value} {made : Option Cell}
    (h : (Foreign.fill entry .writable make).Runs events made) (htable : events.Lasting true) :
    ∃ table inner r, events = ⟨.table, some table⟩ :: (inner ++ Foreign.logged entry r) ∧
      make.run.Runs inner r ∧ made = r.toOption.map Value.cell := by
  rw [Export.fill_eq] at h
  obtain ⟨first, second, yield, rfl, hfirst, hsecond⟩ := runs_bind_iff.1 h
  obtain ⟨rfl, rfl⟩ := runs_done_iff.1 hsecond
  obtain ⟨whole, r, rfl, hrun, rfl⟩ := Export.runs_reported_iff.1 hfirst
  rw [List.append_nil] at htable
  obtain ⟨table, inner, rfl, hinner⟩ :=
    Export.loaded_runs (Transcript.lasting_append_iff.1 htable).1 hrun
  exact ⟨table, inner, r, by simp, hinner, rfl⟩

theorem ofInts_of_toList {xs ys : Span Int32} (h : xs.toList = ys.toList) :
    Value.ofInts xs = Value.ofInts ys := by
  have hsize : xs.size = ys.size := by
    rw [← Span.length_toList xs, ← Span.length_toList ys, h]
  unfold Value.ofInts
  rw [hsize, h]

theorem ofDoubles_of_toList {xs ys : Span Double} (h : xs.toList = ys.toList) :
    Value.ofDoubles xs = Value.ofDoubles ys := by
  have hsize : xs.size = ys.size := by
    rw [← Span.length_toList xs, ← Span.length_toList ys, h]
  unfold Value.ofDoubles
  rw [hsize, h]

theorem setString_eq {s : String} {text : CText} (h : CText.ofString? s = some text) :
    Foreign.setString .writable (some text) =
      Foreign.fill "vo_set_string" .writable (Value.ofString s) := by
  unfold Foreign.setString
  rw [Foreign.borrowText_eq, Export.borrowed_of_ofString? h]
  rfl

namespace Argument

variable {argument : Argument} {entry : String} {p : Program (Option Cell)} {filling : Transcript}
  {made : Option Cell}

/-- A host fills a cell exactly if the program can put the argument into one, with the same
requests, and with a reference to each image taken before and given up after that. -/
theorem PassedBy.fills (hpass : argument.PassedBy entry p) (h : p.Runs filling made)
    (htable : filling.Lasting true) :
    ∃ boxing boxed, argument.toValue.run.Runs boxing boxed ∧ made = boxed.toOption.map Value.cell ∧
      filling.spoken = Transcript.refs argument.borrowed ++ boxing.spoken ++
        Transcript.unrefs argument.borrowed ++ Foreign.logged entry boxed := by
  have hplain {make : Attempt Value} (hmake : make = argument.toValue)
      (hborrowed : argument.borrowed = [])
      (h : (Foreign.fill entry .writable make).Runs filling made) :
      ∃ boxing boxed, argument.toValue.run.Runs boxing boxed ∧
        made = boxed.toOption.map Value.cell ∧
          filling.spoken = Transcript.refs argument.borrowed ++ boxing.spoken ++
            Transcript.unrefs argument.borrowed ++ Foreign.logged entry boxed := by
    subst hmake
    obtain ⟨table, boxing, boxed, rfl, hboxing, rfl⟩ := fill_runs h htable
    refine ⟨boxing, boxed, hboxing, rfl, ?_⟩
    rw [Transcript.spoken_cons_table, Transcript.spoken_append, spoken_logged, hborrowed]
    simp [Transcript.refs, Transcript.unrefs]
  cases hpass with
  | bool n => exact hplain rfl rfl h
  | int n => exact hplain rfl rfl h
  | uint64 n => exact hplain rfl rfl h
  | double x => exact hplain rfl rfl h
  | text hs =>
    rw [setString_eq hs] at h
    exact hplain rfl rfl h
  | ints hitems => exact hplain (ofInts_of_toList (by rw [Span.toList_ofList, hitems])) rfl h
  | doubles hitems => exact hplain (ofDoubles_of_toList (by rw [Span.toList_ofList, hitems])) rfl h
  | images hitems =>
    obtain ⟨table, inner, boxed, rfl, hinner, rfl⟩ := fill_runs h htable
    have hlasting : (inner ++ Foreign.logged "vo_set_images" boxed).Lasting true := htable.2
    obtain ⟨images', _, hsame, ⟨boxing, hboxing, -, rfl⟩, hspoken⟩ |
        ⟨before, others, hnone, -⟩ :=
      speaks_lentImages (speaks_of_runs hinner (Transcript.lasting_append_iff.1 hlasting).1)
    · obtain rfl := eq_of_map_handle (hitems.symm.trans hsame)
      refine ⟨boxing, boxed, hboxing, rfl, ?_⟩
      rw [Transcript.spoken_cons_table, Transcript.spoken_append, spoken_logged, hspoken]
      rfl
    · have hmem : none ∈ Foreign.lent _ _ := hnone ▸ List.mem_append_right _ (List.mem_cons_self ..)
      rw [hitems] at hmem
      obtain ⟨_, -, ⟨⟩⟩ := List.mem_map.1 hmem
  | image image => exact hplain rfl rfl h
  | object object => exact hplain rfl rfl h
  | source object => exact hplain rfl rfl h
  | target object => exact hplain rfl rfl h

theorem lent_toList {α : Type} {xs : List α} (h : xs.length < 2 ^ 31) :
    Foreign.lent (some xs) (Int32.ofNat xs.length) = xs := by
  have hlength : (Int32.ofNat xs.length).toInt = xs.length := Int32.toInt_ofNat_of_lt h
  simp [Foreign.lent, hlength]

theorem countOf_runs {length : Nat} {n : Int32} {events : Transcript}
    (h : (Value.countOf length).run.Runs events (.ok n)) : length < 2 ^ 31 := by
  unfold Value.countOf at h
  split at h
  · have hmax : Int32.maxValue.toInt = 2 ^ 31 - 1 := by decide
    omega
  · obtain ⟨-, ⟨⟩⟩ := runs_done_iff.1 h

/-- Whatever the program can put into a cell, bytes apart, a host can pass too. -/
theorem exists_passedBy {boxing : Transcript} {v : Value}
    (h : argument.toValue.run.Runs boxing (.ok v)) (hbytes : ∀ bytes, argument ≠ .bytes bytes) :
    ∃ entry p, argument.PassedBy entry p := by
  have hcounted {length : Nat} {f : Int32 → Attempt Value} {events : Transcript}
      (h : (do requireTable; let n ← Value.countOf length; f n : Attempt Value).run.Runs events
        (.ok v)) : length < 2 ^ 31 := by
    rcases runs_try_iff.1 h with ⟨_, -, ⟨⟩⟩ | ⟨_, _, _, rfl, -, h⟩
    rcases runs_try_iff.1 h with ⟨_, -, ⟨⟩⟩ | ⟨_, _, n, rfl, hcount, -⟩
    exact countOf_runs hcount
  cases argument with
  | bool b =>
    have hb : b = ((if b then 1 else 0 : Int32) != 0) := by cases b <;> rfl
    rw [hb]
    exact ⟨_, _, .bool _⟩
  | int n => exact ⟨_, _, .int n⟩
  | uint64 n => exact ⟨_, _, .uint64 n⟩
  | double x => exact ⟨_, _, .double x⟩
  | text s =>
    rcases runs_try_iff.1 h with ⟨_, -, ⟨⟩⟩ | ⟨_, _, text, rfl, htext, -⟩
    unfold nativeText at htext
    cases hs : CText.ofString? s with
    | some text => exact ⟨_, _, .text hs⟩
    | none =>
      rw [hs] at htext
      obtain ⟨-, ⟨⟩⟩ := runs_done_iff.1 htext
  | ints xs =>
    have hlength : xs.toList.length < 2 ^ 31 := by
      rw [Span.length_toList]
      exact hcounted h
    exact ⟨_, _, .ints (lent_toList hlength)⟩
  | doubles xs =>
    have hlength : xs.toList.length < 2 ^ 31 := by
      rw [Span.length_toList]
      exact hcounted h
    exact ⟨_, _, .doubles (lent_toList hlength)⟩
  | images lent =>
    have hlength : (lent.map fun image => some image.object.handle).length < 2 ^ 31 := by
      rw [List.length_map]
      exact hcounted h
    exact ⟨_, _, .images (lent_toList hlength)⟩
  | bytes bytes => exact absurd rfl (hbytes bytes)
  | image image => exact ⟨_, _, .image image⟩
  | object object => exact ⟨_, _, .object object⟩

end Argument

/-! ## Assigning it -/

variable {handle : Handle} {s : String} {name : CText} {c : Cell}

/-- The assignment of a host is that of the program, after a look at the table. -/
theorem setProperty_runs (hname : CText.ofString? s = some name)
    (h : (Foreign.setProperty (some handle) (some name) (some c)).Runs events ())
    (htable : events.Lasting true) :
    ∃ table setting r,
      events = ⟨.table, some table⟩ :: (setting ++ Foreign.logged "vo_set_property" r) ∧
        (Property.set ⟨handle⟩ s ⟨c⟩).run.Runs setting r := by
  obtain ⟨table, setting, r, rfl, hset, -⟩ :=
    (Export.runs_call_iff (e := .setProperty (some handle) (some name) (some c)) rfl rfl
      (Export.onBorrowed_some hname fun object name => Property.set object name ⟨c⟩) htable).1 h
  exact ⟨table, setting, r, rfl, hset⟩

/-- The assignment of the program: what it puts into a cell, what it assigns, and what it gives
up. -/
theorem operationSet_runs {operation : Operation} {argument : Argument} {v : Value}
    {boxing setting releasing : Transcript} {r : Except Failure Unit}
    (hboxing : argument.toValue.run.Runs boxing (.ok v))
    (hsetting : (Property.set operation.object s v).run.Runs setting r)
    (hreleasing : v.release.Runs releasing ()) :
    (operation.set s argument).run.Runs (boxing ++ (setting ++ releasing)) r :=
  runs_try_iff.2 (.inr ⟨boxing, _, v, rfl, hboxing,
    runs_closedBy_iff.2 ⟨setting, releasing, rfl, hsetting, hreleasing⟩⟩)

/-- There is one assignment if it goes well, and none if it fails. -/
theorem steps_of_set {object : Object} {v : Value} {r : Except Failure Unit}
    (hname : CText.ofString? s = some name) (h : (Property.set object s v).run.Runs events r) :
    events.steps = if r.isOk then [.assign object.handle (some name)] else [] := by
  rw [← hname]
  cases r with
  | error failure => exact (StepWatch.steps_of_runs (StepWatch.set_tries object s v)).2 failure h
  | ok _ => exact (StepWatch.steps_of_runs (StepWatch.set_tries object s v)).1 () h

theorem steps_logged (entry : String) (r : Except Failure α) :
    (Foreign.logged entry r).steps = [] := by
  cases r <;> rfl

theorem harmless_logged {entry : String} {r : Except Failure α} {ev : Event}
    (h : ev ∈ Foreign.logged entry r) : ev.request.Harmless := by
  cases r with
  | error failure =>
    obtain rfl := List.mem_singleton.1 h
    exact fun _ => id
  | ok a => cases h

end

end ImageGateway
