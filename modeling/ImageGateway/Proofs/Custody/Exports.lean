-- The entry points for foreign hosts, and what each of them leaves with the
-- host: a filled cell, a reference, a copy of a text, or nothing.

import ImageGateway.Proofs.Custody.Deeds

namespace ImageGateway

open Foreign (Place)

/-- A reader of properties whose answer the host has to give back. -/
inductive Foreign.Handing where
  | text
  | blob
  | image
  deriving DecidableEq

/-- A reader of properties whose answer is a plain number. -/
inductive Foreign.Plain where
  | bool
  | int
  | uint64
  | double
  deriving DecidableEq

/-- One of the four entry points that fill a cell with an object. -/
inductive Foreign.Kin where
  | object
  | image
  | source
  | target
  deriving DecidableEq

/-- A call of an entry point. -/
inductive Export where
  | setBool (place : Place) (n : Int32)
  | setInt (place : Place) (n : Int32)
  | setUInt64 (place : Place) (n : UInt64)
  | setDouble (place : Place) (x : Double)
  | setString (place : Place) (text : Option CText)
  | setInts (place : Place) (items : Option (List Int32)) (size : Int32)
  | setDoubles (place : Place) (items : Option (List Double)) (size : Int32)
  | setImages (place : Place) (items : Option (List (Option Handle))) (size : Int32)
  | setBlob (place : Place) (blob : Option Handle)
  | setObject (kin : Foreign.Kin) (place : Place) (object : Option Handle)
  | getPlain (plain : Foreign.Plain) (operation : Option Handle) (name : Option CText)
    (place : Place)
  | getHanding (handing : Foreign.Handing) (operation : Option Handle) (name : Option CText)
    (place : Place)
  | getInts (operation : Option Handle) (name : Option CText) (buffer : Option (List Int32))
    (size : Int32)
  | getDoubles (operation : Option Handle) (name : Option CText) (buffer : Option (List Double))
    (size : Int32)
  | setProperty (object : Option Handle) (name : Option CText) (cell : Option Cell)
  | cacheImage (image : Option Handle) (place : Place)
  | cacheImageWith (image : Option Handle) (place : Place) (pairs : List (Option CText × Int32))
  | start (name : Option CText)

namespace Export

/-- A filled cell belongs to the host. -/
def filled (cell : Option Cell) : List Holding := (cell.map fun c => .value ⟨c⟩).toList

/-- What was stored for the host, if it was not null. -/
def handed {α : Type} (f : α → Holding) (stored : Option (Option α)) : List Holding :=
  (stored.join.map f).toList

/-- Carries out the call. The answer is what the host owns after it. -/
def program : Export → Program (List Holding)
  | setBool place n => return filled (← Foreign.setBool place n)
  | setInt place n => return filled (← Foreign.setInt place n)
  | setUInt64 place n => return filled (← Foreign.setUInt64 place n)
  | setDouble place x => return filled (← Foreign.setDouble place x)
  | setString place text => return filled (← Foreign.setString place text)
  | setInts place items size => return filled (← Foreign.setInts place items size)
  | setDoubles place items size => return filled (← Foreign.setDoubles place items size)
  | setImages place items size => return filled (← Foreign.setImages place items size)
  | setBlob place blob => return filled (← Foreign.setBlob place blob)
  | setObject .object place object => return filled (← Foreign.setObject place object)
  | setObject .image place object => return filled (← Foreign.setImage place object)
  | setObject .source place object => return filled (← Foreign.setSource place object)
  | setObject .target place object => return filled (← Foreign.setTarget place object)
  | getPlain .bool operation name place => do
    let _ ← Foreign.getBool operation name place
    return []
  | getPlain .int operation name place => do
    let _ ← Foreign.getInt operation name place
    return []
  | getPlain .uint64 operation name place => do
    let _ ← Foreign.getUInt64 operation name place
    return []
  | getPlain .double operation name place => do
    let _ ← Foreign.getDouble operation name place
    return []
  | getHanding .text operation name place =>
    return handed .text (← Foreign.getString operation name place)
  | getHanding .blob operation name place =>
    return handed (fun h => .blob ⟨h⟩) (← Foreign.getBlob operation name place)
  | getHanding .image operation name place =>
    return handed (fun h => .image ⟨⟨h⟩⟩) (← Foreign.getImage operation name place)
  | getInts operation name buffer size => do
    let _ ← Foreign.getInts operation name buffer size
    return []
  | getDoubles operation name buffer size => do
    let _ ← Foreign.getDoubles operation name buffer size
    return []
  | setProperty object name cell => do
    Foreign.setProperty object name cell
    return []
  | cacheImage image place => do
    let (_, stored) ← Foreign.cacheImage image place
    return (stored.map fun h => .image ⟨⟨h⟩⟩).toList
  | cacheImageWith image place pairs => do
    let (_, stored) ← Foreign.cacheImageWith image place pairs
    return (stored.map fun h => .image ⟨⟨h⟩⟩).toList
  | start name => do
    let _ ← Foreign.start name
    return []

/-- The cell that the host lends to the call. -/
def lent? : Export → Option Cell
  | setProperty _ _ cell => cell
  | _ => none

/-- Whether the call is to store what the host has to give back, and there is no place for it. -/
def Misplaced : Export → Prop
  | getHanding _ _ _ .null => True
  | _ => False

end Export

namespace Resource

variable {α : Type} {x : Resource} {s : Standing}

/-! ## The frame of an entry point -/

theorem ensureLoaded_tries : x.watch.Tries s Foreign.ensureLoaded
    (fun _ t => t.loaded = true ∧ s.Moves t 0 0) fun _ t => s.Moves t 0 0 := by
  refine tries_table (fun table => ⟨rfl, .of_seen (.refl _ 0)⟩) fun _ => ?_
  apply (ensures_idle (pathsFromEnvironment_asks fun _ => idle_of_background _ trivial)).then
  intro paths t ht
  refine Watch.Tries.bind ((load_tries paths).mono (fun _ _ h => h) fun _ _ hu => ht.trans hu) ?_
  intro _ u hend
  obtain ⟨hu, hmoves⟩ := hend
  exact ⟨hu, ht.trans hmoves⟩

/-- An entry point gains what the answer of its attempt owns, and nothing if it fails. -/
theorem guarded_ensures {entry : String} {p : Attempt α} (owned : α → Nat) (good : α → Prop)
    (h : ∀ t : Standing, t.loaded = true → t.there = s.there → x.Gives t p owned good) :
    x.watch.Ensures s (Foreign.guarded entry p) fun answer t =>
      (∀ a, answer = some a → good a ∧ t.loaded = true) ∧
        s.Moves t 0 ((answer.map owned).getD 0) := by
  have hloaded : x.watch.Tries s (do Foreign.ensureLoaded; p)
      (fun a t => (good a ∧ t.loaded = true) ∧ s.Moves t 0 (owned a)) fun _ t => s.Moves t 0 0 := by
    apply Watch.Tries.bind ensureLoaded_tries
    intro _ t hend
    obtain ⟨ht, hmoves⟩ := hend
    have hthere : t.there = s.there := by
      have := hmoves.count
      have := hmoves.lent
      unfold Standing.there
      omega
    refine (h t ht hthere).mono ?_ fun _ _ hu => hmoves.trans hu
    intro a u hend
    obtain ⟨hloaded, hgood, hu⟩ := hend
    exact ⟨⟨hgood, hloaded⟩, (hmoves.trans hu).same (by omega)⟩
  refine Watch.Tries.run hloaded ?_ ?_
  · intro a t hend
    obtain ⟨hgood, hmoves⟩ := hend
    exact ⟨by rintro _ ⟨⟩; exact hgood, hmoves⟩
  · intro failure t hmoves
    apply (ensures_idle (warn_asks idle_of_background _ _)).bind
    intro _ u hu
    exact ⟨nofun, hmoves.trans hu⟩

/-! ## Filling a cell -/

/-- A program that fills a cell of the host or none. -/
def Fills (x : Resource) (s : Standing) (p : Program (Option Cell)) : Prop :=
  x.watch.Ensures s p fun cell t =>
    (∀ c, cell = some c → x.Sound c ∧ t.loaded = true) ∧ s.Moves t 0 ((cell.map x.inCell).getD 0)

theorem fill_fills {entry : String} {make : Attempt Value} (place : Foreign.Place)
    (h : ∀ t : Standing, t.loaded = true → x.YieldsValue t make) :
    x.Fills s (Foreign.fill entry place make) := by
  cases place with
  | null => exact (ensures_idle (warn_asks idle_of_background _ _)).bind fun _ t ht => ⟨nofun, ht⟩
  | writable =>
    refine (guarded_ensures (fun v => x.inCell v.cell) _ fun t ht _ => h t ht).bind ?_
    intro v t hend
    obtain ⟨hgood, hmoves⟩ := hend
    cases v with
    | none => exact ⟨nofun, hmoves⟩
    | some v => exact ⟨by rintro _ ⟨⟩; exact hgood v rfl, hmoves⟩

theorem Fills.turns {p : Program (Option Cell)} (h : x.Fills s p) :
    x.Turns s (do return Export.filled (← p)) 0 := by
  apply Watch.Ensures.bind h
  intro c t hend
  obtain ⟨hsound, hmoves⟩ := hend
  cases c with
  | none => exact .nothing hmoves
  | some c =>
    obtain ⟨hsound, ht⟩ := hsound c rfl
    exact ⟨soundAll_value hsound, hmoves, fun _ => .inr ht⟩

/-- How often some images are the resource. -/
abbrev inImages (x : Resource) (images : List Image) : Nat := x.worths (images.map .image)

theorem releaseAll_ensures (images : List Image) (hs : s.loaded = true)
    (h : x.inImages images ≤ s.count) :
    x.watch.Ensures s (Foreign.releaseAll images) fun _ t => s.Moves t (x.inImages images) 0 := by
  induction images generalizing s with
  | nil => exact .refl s 0
  | cons image rest ih =>
    simp only [inImages, List.map_cons, worths_cons, worth] at h ⊢
    apply (releaseObject_ensures image.object (.inl hs) (by omega)).bind
    intro _ t ht
    have hcount := ht.count
    refine (ih (ht.loaded hs) (by unfold inImages; omega)).mono fun _ _ hu => ?_
    exact ht.trans hu

/-- The references taken so far are kept, or given up with the failure. -/
theorem borrowImages_tries (taken : List Image) (items : List (Option Handle))
    (hs : s.loaded = true) (h : x.inImages taken ≤ s.count) :
    x.watch.Tries s (Foreign.borrowImages taken items)
      (fun images t => t.loaded = true ∧ s.Moves t (x.inImages taken) (x.inImages images))
      fun _ t => s.Moves t (x.inImages taken) 0 := by
  induction items generalizing s taken with
  | nil => exact ⟨hs, .refl s _⟩
  | cons handle rest ih =>
    have hgiveUp {failure : Failure} {t : Standing} (ht : s.Moves t 0 0) :
        x.watch.Tries t (do Foreign.releaseAll taken; throw failure : Attempt (List Image))
          (fun images u => u.loaded = true ∧ s.Moves u (x.inImages taken) (x.inImages images))
          fun _ u => s.Moves u (x.inImages taken) 0 := by
      have hcount := ht.count
      refine (releaseAll_ensures taken (ht.loaded hs) (by omega)).then fun _ u hu => ?_
      exact (ht.trans hu).same (by omega)
    rcases handle with _ | handle
    · exact hgiveUp (.refl s 0)
    · refine Watch.Tries.result (borrowImage_yields handle) ?_ ?_
      · intro image t hend
        obtain ⟨ht, -, hmoves⟩ := hend
        cases image with
        | none => exact hgiveUp hmoves
        | some image =>
          have hcount := hmoves.count
          have hmore : x.inImages (taken ++ [image]) =
              x.inImages taken + x.one (.object image.object.handle) := by
            simp [inImages, worth]
          simp only [inAny_some] at hcount
          refine (ih (taken ++ [image]) ht (by omega)).mono ?_ ?_
          · intro images u hend
            obtain ⟨hu, hmoves'⟩ := hend
            exact ⟨hu, (hmoves.trans hmoves').same (by simp only [inAny_some]; omega)⟩
          · intro failure u hmoves'
            exact (hmoves.trans hmoves').same (by simp only [inAny_some]; omega)
      · intro failure t ht
        exact hgiveUp ht

theorem setImages_fills (place : Foreign.Place) (items : Option (List (Option Handle)))
    (size : Int32) : x.Fills s (Foreign.setImages place items size) := by
  refine fill_fills place fun t ht => ?_
  apply Watch.Tries.bind (borrowImages_tries [] (Foreign.lent items size) ht (Nat.zero_le _))
  intro images u hend
  obtain ⟨hu, hmoves⟩ := hend
  exact (ofImages_gives images).closedBy hmoves hu fun v hv => releaseAll_ensures images hv

theorem setBlob_fills (place : Foreign.Place) (blob : Option Handle) :
    x.Fills s (Foreign.setBlob place blob) := by
  refine fill_fills place fun t ht => ?_
  rcases blob with _ | handle
  · exact gives_throw
  · exact ofBlob_gives ⟨handle⟩

theorem setAnyObject_fills (entry : String) (place : Foreign.Place) (object : Option Handle) :
    x.Fills s (Foreign.setAnyObject entry place object) := by
  refine fill_fills place fun t ht => ?_
  rcases object with _ | handle
  · exact gives_throw
  · exact ofObject_gives ⟨handle⟩

theorem setString_fills (place : Foreign.Place) (text : Option CText) :
    x.Fills s (Foreign.setString place text) := by
  apply (ensures_idle (borrowText_asks idle_of_background _ text)).bind
  intro found t ht
  cases found with
  | none => exact ⟨nofun, ht⟩
  | some found =>
    apply (fill_fills place fun u hu => ofString_gives found).mono
    intro cell u hend
    obtain ⟨hsound, hmoves⟩ := hend
    exact ⟨hsound, (ht.trans hmoves).same (by omega)⟩

/-! ## Reading properties -/

theorem onProperty_ensures {entry : String} {f : Object → String → Attempt α} (owned : α → Nat)
    (operation : Option Handle) (name : Option CText)
    (h : ∀ object name, ∀ t : Standing, t.there = s.there → x.Yields t (f object name) owned) :
    x.watch.Ensures s (Foreign.onProperty entry operation name f) fun answer t =>
      s.Moves t 0 ((answer.map owned).getD 0) := by
  apply (ensures_idle (borrowText_asks idle_of_background entry name)).bind
  intro name t ht
  cases name with
  | none => exact ht
  | some name =>
    have hthere : t.there = s.there := by
      have := ht.count
      have := ht.lent
      unfold Standing.there
      omega
    refine (guarded_ensures owned (fun _ => True) ?_).mono ?_
    · intro u _ hu
      rcases operation with _ | handle
      · exact gives_throw
      · exact h ⟨handle⟩ name u (hu.trans hthere)
    · intro answer u hend
      obtain ⟨-, hmoves⟩ := hend
      exact (ht.trans hmoves).same (by omega)

/-- A reader with a place to store to, or with nothing to give back. -/
theorem fetch_ensures {entry : String} {f : Object → String → Attempt α} {owned : α → Nat}
    (operation : Option Handle) (name : Option CText) (place : Foreign.Place)
    (h : ∀ object name, ∀ t : Standing, x.Yields t (f object name) owned)
    (hplace : place = .writable ∨ ∀ a, owned a = 0) :
    x.watch.Ensures s (Foreign.fetch entry operation name place f) fun answer t =>
      s.Moves t 0 ((answer.map owned).getD 0) := by
  apply (onProperty_ensures _ operation name fun object name t _ => h object name t).bind
  intro answer t ht
  cases place with
  | writable => exact ht
  | null =>
    have hnone : (answer.map owned).getD 0 = 0 := by
      rcases hplace with hplace | hplace
      · cases hplace
      · rcases answer with _ | a
        · rfl
        · exact hplace a
    rw [hnone] at ht
    apply (ensures_idle (warn_asks idle_of_background _ _)).bind
    intro _ u hu
    exact ht.trans hu

/-- An entry point that hands nothing over. -/
theorem empty_turns {p : Program α} {owned : α → Nat}
    (h : x.watch.Ensures s p fun a t => s.Moves t 0 (owned a)) (howned : ∀ a, owned a = 0) :
    x.Turns s (do let _ ← p; return []) 0 := by
  apply h.bind
  intro a t ht
  rw [howned] at ht
  exact .nothing ht

/-- A reader of something that has to be given back. -/
theorem handed_turns {p : Program (Option (Option α))} {f : α → Holding} {g : α → Resource}
    (h : x.watch.Ensures s p fun stored t => s.Moves t 0 ((stored.map (x.inAny g)).getD 0))
    (hf : ∀ a, x.worth (f a) = x.one (g a)) (hvalue : ∀ a v, f a ≠ .value v) :
    x.Turns s (do return Export.handed f (← p)) 0 := by
  apply h.bind
  rintro (_ | _ | a) t ht
  · exact .nothing ht
  · exact .nothing ht
  · exact .one (hvalue a) (by simpa [hf] using ht)

theorem getText_yields (object : Object) (name : String) :
    x.Yields s (Property.copyText object name) (x.inAny .text) := by
  refine getWith_yields ?_ object name .string
  intro v t hsound hcount
  refine .onTable fun u hu htu => Watch.tries_lift.2 ((ensures_request
    (q := .call (.cellGet v.cell .stringCopy)) (Nat.zero_le _) ?_).mono ?_)
  · simpa [Request.cells] using hsound.lends (htu ▸ hcount)
  · intro text w hend
    obtain ⟨-, hmoves, -⟩ := hend
    exact ⟨hmoves.loaded hu, trivial, hmoves⟩

theorem getHanding_turns (handing : Foreign.Handing) (operation : Option Handle)
    (name : Option CText) (place : Foreign.Place)
    (hplace : place = .writable ∨ x.OfCells) :
    x.Turns s (Export.getHanding handing operation name place).program 0 := by
  have hfree {β : Type} {g : β → Resource} (hg : ∀ b, ¬ (g b).OfCells) :
      place = .writable ∨ ∀ o, x.inAny g o = 0 := by
    refine hplace.imp id fun hx o => inAny_of_ne (fun b => ?_) o
    rintro rfl
    exact hg b hx
  cases handing with
  | text =>
    exact handed_turns (fetch_ensures operation name place
      (fun object name t => getText_yields object name) (hfree nofun)) (fun _ => rfl) nofun
  | blob =>
    refine handed_turns (g := .blob) (fetch_ensures operation name place (fun object name t => ?_)
      (hfree nofun)) (fun _ => rfl) nofun
    exact .map (getRegistered_yields getBlob_reader object name _) fun o => by cases o <;> rfl
  | image =>
    refine handed_turns (g := .object) (fetch_ensures operation name place (fun object name t => ?_)
      (hfree nofun)) (fun _ => rfl) nofun
    exact .map (getRegistered_yields getImage_reader object name _) fun o => by cases o <;> rfl

theorem getPlain_turns (plain : Foreign.Plain) (operation : Option Handle)
    (name : Option CText) (place : Foreign.Place) :
    x.Turns s (Export.getPlain plain operation name place).program 0 := by
  have hfetch {β : Type} {entry : String} {f : Object → String → Attempt β}
      (h : ∀ object name, ∀ t : Standing, x.Keeps t (f object name)) :
      x.Turns s (do let _ ← Foreign.fetch entry operation name place f; return []) 0 := by
    apply empty_turns (fetch_ensures operation name place h (.inr fun _ => rfl))
    intro found
    cases found <;> rfl
  cases plain with
  | bool =>
    exact hfetch fun object name t =>
      .map (getWith_yields getBool_reader object name _) fun _ => rfl
  | int => exact hfetch fun object name t => getInt_yields object name
  | uint64 => exact hfetch fun object name t => getWith_yields getUInt64_reader object name _
  | double => exact hfetch fun object name t => getWith_yields getDouble_reader object name _

/-- A reader of arrays keeps nothing. -/
theorem fetchInto_ensures {entry : String} {f : Object → String → Attempt (List α)}
    (operation : Option Handle) (name : Option CText) (buffer : Option (List α)) (size : Int32)
    (h : ∀ object name, ∀ t : Standing, x.Keeps t (f object name)) :
    x.watch.Ensures s (Foreign.fetchInto entry operation name buffer size f) fun _ t =>
      s.Moves t 0 0 := by
  apply (onProperty_ensures _ operation name fun object name t _ => h object name t).bind
  intro values t ht
  cases values <;> exact ht

theorem assign_ensures (object : Option Handle) (name : Option CText) (cell : Option Cell)
    (hlent : ∀ c, cell = some c → x.Sound c ∧ x.inCell c ≤ s.there) :
    x.watch.Ensures s (Foreign.setProperty object name cell) fun _ t => s.Moves t 0 0 := by
  rcases cell with _ | cell
  · exact ensures_idle (warn_asks idle_of_background _ _)
  · obtain ⟨hsound, hcount⟩ := hlent cell rfl
    refine (onProperty_ensures (fun _ => 0) object name fun object name t ht =>
      set_keeps (v := ⟨cell⟩) object name hsound (ht ▸ hcount)).bind ?_
    intro found t ht
    cases found <;> exact ht

/-! ## Images and the start -/

theorem runTileCache_ensures (entry : String) (image : Option Handle) (place : Foreign.Place)
    (options : TileOptions) :
    x.watch.Ensures s (Foreign.runTileCache entry image place options) fun r t =>
      s.Moves t 0 (x.inAny .object r.2) := by
  cases place with
  | null => exact (ensures_idle (warn_asks idle_of_background _ _)).bind fun _ t ht => ht
  | writable =>
    refine (guarded_ensures (fun i => x.one (.object i.object.handle)) (fun _ => True) ?_).bind ?_
    · intro t ht _
      rcases image with _ | handle
      · exact gives_throw
      · apply Watch.Tries.bind (borrowImage_yields handle)
        intro image u hend
        obtain ⟨hu, -, hmoves⟩ := hend
        cases image with
        | none => exact hmoves
        | some image =>
          exact (tileCache_yields image options).closedBy hmoves hu fun v hv =>
            releaseObject_ensures _ (.inl hv)
    · intro cached t hend
      obtain ⟨-, hmoves⟩ := hend
      cases cached <;> exact hmoves

theorem cacheImageWith_ensures (image : Option Handle) (place : Foreign.Place)
    (pairs : List (Option CText × Int32)) :
    x.watch.Ensures s (Foreign.cacheImageWith image place pairs) fun r t =>
      s.Moves t 0 (x.inAny .object r.2) := by
  apply (ensures_idle (borrowPairs_asks idle_of_background _ pairs)).bind
  intro pairs t ht
  cases pairs with
  | none => exact ht
  | some pairs =>
    dsimp only
    split
    · refine (runTileCache_ensures _ image place _).mono fun _ _ hu => ?_
      exact (ht.trans hu).same (by omega)
    · exact (ensures_idle (warn_asks idle_of_background _ _)).bind fun _ u hu => ht.trans hu

/-- A tile cache hands one image over, or nothing. -/
theorem cached_turns {p : Program (Int32 × Option Handle)}
    (h : x.watch.Ensures s p fun r t => s.Moves t 0 (x.inAny .object r.2)) :
    x.Turns s (do
      let (_, stored) ← p
      return (stored.map fun h => .image ⟨⟨h⟩⟩).toList) 0 := by
  apply h.bind
  rintro ⟨status, _ | handle⟩ t ht
  · exact .nothing ht
  · exact .one nofun ht

/-! ## All of them -/

/-- Whatever comes of a call of an entry point, what it gained is what the host owns after it. Cells
are looked after even where the host has no place for the answer. -/
theorem export_turns (entry : Export) (hplace : ¬ entry.Misplaced ∨ x.OfCells)
    (hlent : ∀ c, entry.lent? = some c → x.Sound c ∧ x.inCell c ≤ s.there) :
    x.Turns s entry.program 0 := by
  cases entry with
  | setBool place n => exact (fill_fills place fun _ _ => ofBool_gives _).turns
  | setInt place n => exact (fill_fills place fun _ _ => ofInt_gives n).turns
  | setUInt64 place n => exact (fill_fills place fun _ _ => ofUInt64_gives n).turns
  | setDouble place d => exact (fill_fills place fun _ _ => ofDouble_gives d).turns
  | setString place text => exact (setString_fills place text).turns
  | setInts place items size => exact (fill_fills place fun _ _ => ofInts_gives _).turns
  | setDoubles place items size => exact (fill_fills place fun _ _ => ofDoubles_gives _).turns
  | setImages place items size => exact (setImages_fills place items size).turns
  | setBlob place blob => exact (setBlob_fills place blob).turns
  | setObject kin place object => cases kin <;> exact (setAnyObject_fills _ place object).turns
  | getPlain plain operation name place => exact getPlain_turns plain operation name place
  | getHanding handing operation name place =>
    refine getHanding_turns handing operation name place (hplace.imp ?_ id)
    cases place with
    | writable => exact fun _ => rfl
    | null => exact fun h => (h trivial).elim
  | getInts operation name buffer size =>
    exact empty_turns (fetchInto_ensures operation name buffer size fun object name t =>
      getRegistered_yields getInts_reader object name _) fun _ => rfl
  | getDoubles operation name buffer size =>
    exact empty_turns (fetchInto_ensures operation name buffer size fun object name t =>
      getRegistered_yields getDoubles_reader object name _) fun _ => rfl
  | setProperty object name cell =>
    exact empty_turns (assign_ensures object name cell hlent) fun _ => rfl
  | cacheImage image place => exact cached_turns (runTileCache_ensures _ image place _)
  | cacheImageWith image place pairs =>
    exact cached_turns (cacheImageWith_ensures image place pairs)
  | start name =>
    exact empty_turns (ensures_idle (startForHost_asks idle_of_background name)) fun _ => rfl

end Resource

end ImageGateway
