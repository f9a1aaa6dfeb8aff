-- Properties. A property gives back what was assigned to it, whichever argument
-- that was. An enum gives the number that it was set to, or the number that the
-- library has for the nick. Assignments that fail change nothing of it.

import ImageGateway.Proofs.Keeping.Containers

namespace ImageGateway

open Program

/-! ## What a property holds -/

namespace Content

variable {lib : Keeper} {s : Store} {c : Content} {object : Handle} {name : CText}

/-- The content is in the property. -/
def Assigned (c : Content) (object : Handle) (name : CText) (s : Store) : Prop :=
  ∃ p, s.properties object name = some p ∧ c.Stored s p

theorem Assigned.empty (h : c.Assigned object name s) (cell : Cell) :
    c.Assigned object name (s.empty cell) := by
  obtain ⟨p, hp, hstored⟩ := h
  exact ⟨p, hp, hstored.of_blobs fun _ _ => rfl⟩

/-- A property holds what it holds until it is assigned. -/
theorem Assigned.after {events : Transcript} (h : c.Assigned object name s)
    (hlib : lib.watch.Admits s events) (hsteps : events.steps = []) :
    c.Assigned object name (lib.watch.after s events) := by
  induction events generalizing s with
  | nil => exact h
  | cons e events ih =>
    obtain ⟨hadmitted, hrest⟩ := hlib
    obtain ⟨hstep, hsteps⟩ := List.append_eq_nil_iff.1 ((Transcript.steps_cons e events).symm.trans
      hsteps)
    refine ih ?_ hrest hsteps
    obtain ⟨p, hp, hstored⟩ := h
    have hsame : (lib.next s e.request e.reply).properties = s.properties :=
      Keeper.next_properties (by simpa using hstep)
    refine ⟨p, (congrFun (congrFun hsame object) name).trans hp, hstored.of_blobs fun blob hblob =>
      Keeper.next_blobs hadmitted (.inr ⟨object, name, ?_⟩)⟩
    rw [hp, hblob]

end Content

/-! ## The parts of an access -/

namespace Keeper

variable {lib : Keeper} {s : Store} {α : Type} {object : Object} {name : String} {text : CText}
  {type : TypeId} {ok : α → Store → Prop} {failed : Failure → Store → Prop}

/-- The lookup of a declared property finds its type. -/
theorem tries_lookup {k : FoundArgument → Attempt α}
    (hdeclared : lib.declared object.handle text = some type)
    (h : ∀ found : FoundArgument, found.spec.type = type → lib.watch.Tries s (k found) ok failed) :
    lib.watch.Tries s (Property.lookup object text >>= k) ok failed := by
  refine Watch.tries_bind.2 (tries_ask trivial fun found hfound => ?_)
  have hsome : found.type? = some type := (show found.type? = _ from hfound).trans hdeclared
  unfold Lookup.type? at hsome
  split at hsome
  · next hstatus =>
    obtain ⟨spec, hspec, rfl⟩ := Option.map_eq_some_iff.1 hsome
    rw [hspec]
    dsimp only
    rw [if_pos hstatus]
    exact h _ rfl
  · cases hsome

theorem tries_isEnumType {k : Bool → Attempt α}
    (h : ∀ isEnum, (isEnum = true ↔ lib.types.IsEnum type) →
      lib.watch.Tries s (k isEnum) ok failed) :
    lib.watch.Tries s (liftM (Property.isEnumType type) >>= k) ok failed := by
  refine Watch.tries_bind.2 (Watch.tries_lift.2 ⟨trivial, fun root hroot => ?_⟩)
  refine h _ ?_
  rw [decide_eq_true_iff]
  exact hroot _ (by decide)

theorem tries_checkTransformable {source target : TypeId} {k : Unit → Attempt α}
    (hpasses : lib.passes source target) (h : lib.watch.Tries s (k ()) ok failed) :
    lib.watch.Tries s (Property.checkTransformable source target >>= k) ok failed := by
  refine Watch.tries_bind.2 (tries_ask trivial fun answer hanswer => ?_)
  have htrue : answer ≠ 0 := hanswer hpasses
  rw [if_neg (by simpa using htrue)]
  exact h

theorem ensures_release {v : Value} {Q : Unit → Store → Prop} (hrest : Q () s)
    (hempty : Q () (s.empty v.cell)) : lib.watch.Ensures s v.release Q := by
  unfold Value.release
  split
  · exact hrest
  · exact ensures_ifLoaded trivial ⟨trivial, fun _ _ => hempty⟩

end Keeper

/-! ## Assigning -/

namespace Keeper

variable {lib : Keeper} {s : Store} {c : Content} {object : Object} {name : String} {text : CText}
  {type : TypeId} {v : Value} {n : Int32} {impossible : Prop}

theorem assigned_of_kept (hkept : c.Kept lib v s)
    (hdeclared : lib.declared object.handle text = some (c.type lib.types.toTypeTable)) :
    c.Assigned object.handle text
      (lib.next s (.call (.setProperty object.handle text v.cell)) ()) := by
  have htype : v.cell.type = c.type lib.types.toTypeTable := hkept.type
  obtain ⟨p, hcontent, hstored⟩ := hkept.content
  refine ⟨p, (if_pos ⟨rfl, rfl⟩).trans ?_, hstored.of_blobs fun _ _ => rfl⟩
  rw [if_pos (by rw [hdeclared, htype]), hcontent]

/-- A value is given up after its use. What does not hang on its cell stays. -/
theorem tries_lend {p : Value → Attempt Unit} {Q : Store → Prop}
    (h : lib.watch.Tries s (p v) (fun _ => Q) fun _ _ => impossible)
    (hQ : ∀ t cell, Q t → Q (t.empty cell)) :
    lib.watch.Tries s (v.lend p) (fun _ => Q) fun _ _ => impossible :=
  Watch.tries_closedBy.2 (h.mono (fun _ t ht => ensures_release ht (hQ t v.cell ht))
    fun _ _ himpossible => ensures_release himpossible himpossible)

/-- A value of the type of the property is assigned as it is. -/
theorem set_tries (hname : CText.ofString? name = some text)
    (hdeclared : lib.declared object.handle text = some (c.type lib.types.toTypeTable))
    (henum : ¬ lib.types.IsEnum (c.type lib.types.toTypeTable)) (hkept : c.Kept lib v s) :
    lib.watch.Tries s (Property.set object name v)
      (fun _ => c.Assigned object.handle text) fun _ _ => False := by
  refine tries_requireTable trivial (tries_nativeText hname (tries_lookup hdeclared
    fun found hfound => Watch.tries_bind.2 (tries_isEnumType fun isEnum hisEnum => ?_)))
  rw [hfound] at hisEnum ⊢
  obtain rfl : isEnum = false := by simpa [henum] using hisEnum
  exact tries_checkTransformable (hkept.type ▸ lib.passes_self _)
    (Watch.tries_lift.2 ⟨trivial, fun _ _ => assigned_of_kept hkept hdeclared⟩)

/-- The number of an enum is put into a value of its own. -/
theorem tries_ofEnum {α : Type} {k : Value → Attempt α} {ok : α → Store → Prop}
    {failed : Failure → Store → Prop} (henum : lib.types.IsEnum type)
    (h : ∀ v t, (Content.enumeration type n).Kept lib v t → t.nicks = s.nicks →
      lib.watch.Tries t (k v) ok failed) :
    lib.watch.Tries s (Value.ofEnum type n >>= k) ok failed := by
  have hmake : lib.watch.Tries s (Value.ofEnum type n) ((Content.enumeration type n).Kept lib)
      fun _ _ => False := Content.make_tries (c := .enumeration type n) henum
  refine Watch.tries_bind.2 (Watch.Ensures.mono (ensures_nicks ?_ hmake) ?_)
  · exact (tableThenFilled_boxes _ _).mono Request.slotting_of_boxing
  · rintro (f | v) t ⟨hkept, hnicks⟩
    · exact hkept.elim
    · exact h v t hkept hnicks

/-- The property has the number of an enum, which hangs on the nicks that were looked up. -/
def HoldsNumber (type : TypeId) (object : Object) (text : CText)
    (which : Int32 → List (TypeId × Option CText × Int32) → Prop) (s : Store) : Prop :=
  ∃ n, which n s.nicks ∧ (Content.enumeration type n).Assigned object.handle text s

variable {which : Int32 → List (TypeId × Option CText × Int32) → Prop}

theorem HoldsNumber.empty (h : HoldsNumber type object text which s) (cell : Cell) :
    HoldsNumber type object text which (s.empty cell) := by
  obtain ⟨n, hwhich, hassigned⟩ := h
  exact ⟨n, hwhich, hassigned.empty cell⟩

/-- An enum is assigned in a value of its own. -/
theorem set_tries_of_substitute (hname : CText.ofString? name = some text)
    (hdeclared : lib.declared object.handle text = some type)
    (hsubstitute : lib.watch.Tries s (Property.substitute object name type v) (fun found t =>
      ∃ other n, found = some other ∧ which n t.nicks ∧
        (Content.enumeration type n).Kept lib other t) fun _ _ => impossible) :
    lib.watch.Tries s (Property.set object name v)
      (fun _ => HoldsNumber type object text which) fun _ _ => impossible := by
  refine tries_requireTable trivial (tries_nativeText hname (tries_lookup hdeclared
    fun found hfound => ?_))
  rw [hfound]
  refine hsubstitute.bind fun found t ht => ?_
  obtain ⟨other, n, rfl, hwhich, hkept⟩ := ht
  exact tries_lend (Watch.tries_lift.2 ⟨trivial, fun _ _ =>
    ⟨n, hwhich, assigned_of_kept hkept hdeclared⟩⟩) fun t cell h => h.empty cell

/-- An enum takes a whole number as the number of its value. -/
theorem set_tries_number (hname : CText.ofString? name = some text)
    (hdeclared : lib.declared object.handle text = some type) (henum : lib.types.IsEnum type)
    (hkept : (Content.argument (.int n)).Kept lib v s) :
    lib.watch.Tries s (Property.set object name v)
      (fun _ => HoldsNumber type object text fun m _ => m = n) fun _ _ => False := by
  refine set_tries_of_substitute hname hdeclared (tries_isEnumType
    fun isEnum hisEnum => ?_)
  have hint : v.type = .int := hkept.type
  obtain ⟨p, hcontent, rfl⟩ := hkept.content
  have hother : ¬ lib.types.IsEnum v.type := hint ▸ Content.not_isEnum (a := .int n) trivial
  rw [hisEnum.2 henum, if_neg (by rw [hint]; decide), if_pos (by rw [hint]; decide)]
  refine Watch.tries_bind.2 (Content.getInt_tries hother (hint ▸ TypeTable.isA_refl _) hcontent ?_)
  exact tries_ofEnum henum fun other t hother _ => ⟨other, n, rfl, rfl, hother⟩

/-- The number of a nick is what the library answers, unless that is negative. -/
theorem numberOfNick_tries {nick : CText} (hcontent : s.content v.cell = some (.string nick)) :
    lib.watch.Tries s (Property.numberOfNick object name type v)
      (fun n t => 0 ≤ n ∧ t.nicks = s.nicks ++ [(type, some nick, n)]) fun _ _ => True := by
  refine tries_ask trivial fun own _ => tries_ask trivial fun domain _ =>
    tries_ask trivial fun read hread => tries_ask trivial fun n _ => ?_
  obtain rfl : read = some nick := hread _ hcontent
  split
  · refine Watch.tries_bind.2 ((ensures_any v.getString.run).mono ?_)
    rintro (f | held) t -
    · trivial
    · exact (ensures_any takeError).then fun _ _ _ => trivial
  · next hn => exact ⟨Int32.not_lt.1 hn, rfl⟩

/-- An enum takes a text as a nick, if the library has a number for it. -/
theorem set_tries_nick {nick : String} (hname : CText.ofString? name = some text)
    (hdeclared : lib.declared object.handle text = some type) (henum : lib.types.IsEnum type)
    (hkept : (Content.argument (.text nick)).Kept lib v s) :
    lib.watch.Tries s (Property.set object name v) (fun _ => HoldsNumber type object text
      fun n nicks => 0 ≤ n ∧ nicks = s.nicks ++ [(type, CText.ofString? nick, n)])
      fun _ _ => True := by
  refine set_tries_of_substitute hname hdeclared (tries_isEnumType
    fun isEnum hisEnum => ?_)
  have hstring : v.type = .string := hkept.type
  obtain ⟨p, hcontent, native, hnative, rfl⟩ := hkept.content
  rw [hisEnum.2 henum, if_pos (by rw [hstring]; decide), hnative]
  refine (numberOfNick_tries hcontent).bind fun n t ht => ?_
  exact tries_ofEnum henum fun other u hother hnicks =>
    ⟨other, n, rfl, ⟨ht.1, hnicks.trans ht.2⟩, hother⟩

/-! ## Setting inputs -/

variable {operation : Operation} {a : Argument} {Q : Store → Prop}

/-- An argument that fits is put into a value, and the value is assigned and given up. -/
theorem operationSet_tries (hfits : (Content.argument a).Fits lib.types.toTypeTable)
    (hset : ∀ v t, (Content.argument a).Kept lib v t → t.nicks = s.nicks →
      lib.watch.Tries t (Property.set operation.object name v) (fun _ => Q) fun _ _ => impossible)
    (hQ : ∀ t cell, Q t → Q (t.empty cell)) :
    lib.watch.Tries s (operation.set name a) (fun _ => Q) fun _ _ => impossible := by
  have hmake := ensures_nicks (toValue_slots a) (Content.make_tries (s := s) hfits)
  refine Watch.tries_bind.2 (Watch.Ensures.mono hmake ?_)
  rintro (f | v) t ⟨hkept, hnicks⟩
  · exact hkept.elim
  · exact tries_lend (hset v t hkept hnicks) hQ

end Keeper

/-! ## Reading -/

/-- A reader asks for the type of the content itself, unless it reads enums or objects too. -/
theorem Content.Suits.type_eq {types : TypeTable} {c : Content} {getter : Getter}
    (h : c.Suits types getter) (hint : getter ≠ .int) (hobject : getter ≠ .object)
    (himage : getter ≠ .image) : getter.type types = c.type types := by
  unfold Content.Suits at h
  split at h <;> first | rfl | exact absurd rfl ‹_› | exact h.elim

namespace Getter

/-- Reads the property. An object is read from the value of the property. -/
def readProperty (object : Object) (name : String) : (getter : Getter) → Attempt getter.Answer
  | .bool => Property.getBool object name
  | .int => Property.getInt object name
  | .uint64 => Property.getUInt64 object name
  | .double => Property.getDouble object name
  | .text => Property.getString object name
  | .ints => Property.getInts object name
  | .doubles => Property.getDoubles object name
  | .blob => Property.getBlob object name
  | .object => do
    let value ← Property.getValue object name
    value.lend Value.getObject
  | .image => Property.getImage object name

end Getter

namespace Keeper

variable {lib : Keeper} {s : Store} {c : Content} {object : Object} {name : String} {text : CText}
  {declared type : TypeId} {p : Payload} {α : Type} {ok : α → Store → Prop}
  {failed : Failure → Store → Prop}

/-- What the library says about a declared property is its type, and whether that is an enum. -/
theorem tries_argument {k : ArgumentInfo → Attempt α} (hname : CText.ofString? name = some text)
    (hdeclared : lib.declared object.handle text = some type)
    (h : ∀ info : ArgumentInfo, info.type = type → (info.isEnum = true ↔ lib.types.IsEnum type) →
      lib.watch.Tries s (k info) ok failed) :
    lib.watch.Tries s (Property.argument object name >>= k) ok failed := by
  refine Watch.tries_bind.2 (tries_requireTable trivial (tries_nativeText hname
    (tries_lookup hdeclared fun found hfound => Watch.tries_bind.2 (tries_requireTable trivial
      (tries_ask trivial fun _ _ => tries_isEnumType fun isEnum hisEnum => ?_)))))
  exact h _ hfound (hfound ▸ hisEnum)

/-- A property is taken as it is into a new cell. -/
theorem tries_get {k : Value → Attempt α} (hname : CText.ofString? name = some text)
    (hdeclared : lib.declared object.handle text = some declared)
    (hpasses : lib.passes declared type) (hstorable : lib.types.Storable type)
    (hproperty : s.properties object.handle text = some p)
    (h : ∀ v t n, v.cell = ⟨some n, type⟩ → t.cells n = some (some p) → t.blobs = s.blobs →
      lib.watch.Tries t (k v) ok failed) :
    lib.watch.Tries s (Property.get object name type >>= k) ok failed := by
  refine Watch.tries_bind.2 (tries_requireTable trivial (tries_nativeText hname
    (tries_lookup hdeclared fun found hfound => ?_)))
  rw [hfound]
  refine tries_checkTransformable hpasses (Watch.tries_bind.2 (tries_requireTable trivial
    (Watch.tries_lift.2 ((ensures_make hstorable).mono ?_))))
  rintro v _ ⟨n, hcell, rfl⟩
  refine Watch.tries_bind.2 (Watch.tries_lift.2 ⟨trivial, fun _ _ => h v _ n hcell ?_ rfl⟩)
  have hpassed : (lib.declared object.handle text).any (lib.passes · v.cell.type) := by
    rw [hdeclared, hcell]
    exact hpasses
  refine (fill_cells_self _ (by rw [hcell]) _).trans ?_
  rw [if_pos hpassed]
  exact congrArg some hproperty

/-- A reader looks at the value of a property and gives it up. -/
theorem tries_peek {v : Value} {t : Store} {read : Value → Attempt α} {given : α → Prop}
    (hblobs : t.blobs = s.blobs)
    (h : lib.watch.Tries t (read v) (fun answer u => u = t ∧ given answer) fun _ _ => False) :
    lib.watch.Tries t (v.lend read) (fun answer u => u.blobs = s.blobs ∧ given answer)
      fun _ _ => False := by
  refine Watch.tries_closedBy.2 (h.mono ?_ fun _ _ hfalse => hfalse.elim)
  rintro answer _ ⟨rfl, hgiven⟩
  exact ensures_release ⟨hblobs, hgiven⟩ ⟨hblobs, hgiven⟩

/-- A property that is read into a value of its own type gives what was assigned. -/
theorem getWith_tries {getter : Getter} (htype : type = c.type lib.types.toTypeTable)
    (hname : CText.ofString? name = some text)
    (hdeclared : lib.declared object.handle text = some (c.type lib.types.toTypeTable))
    (hfits : c.Fits lib.types.toTypeTable) (hassigned : c.Assigned object.handle text s)
    (hsuits : c.Suits lib.types.toTypeTable getter) :
    lib.watch.Tries s (Property.getWith object name type getter.read)
      (fun answer t => t.blobs = s.blobs ∧
        c.Given (fun blob bytes => s.blobs blob.handle = bytes) getter answer)
      fun _ _ => False := by
  subst htype
  obtain ⟨p, hproperty, hstored⟩ := hassigned
  have hstorable := TypeSystem.storable_content hfits
  refine tries_get hname hdeclared (lib.passes_self _) hstorable hproperty ?_
  intro v t n hcell hcontent hblobs
  have hkept : c.Kept lib v t :=
    ⟨n, p, hcell, hcontent, hstored.of_blobs fun blob _ => congrFun hblobs blob⟩
  have hread := Content.read_tries hfits hkept hsuits
  rw [hblobs] at hread
  exact tries_peek hblobs hread

/-- The reader of properties for the content finds it. -/
theorem readProperty_tries {getter : Getter} (hname : CText.ofString? name = some text)
    (hdeclared : lib.declared object.handle text = some (c.type lib.types.toTypeTable))
    (hfits : c.Fits lib.types.toTypeTable) (hassigned : c.Assigned object.handle text s)
    (hsuits : c.Suits lib.types.toTypeTable getter)
    (himage : getter = .image →
      lib.passes (c.type lib.types.toTypeTable) (lib.types.registered .image)) :
    lib.watch.Tries s (getter.readProperty object name)
      (fun answer t => t.blobs = s.blobs ∧
        c.Given (fun blob bytes => s.blobs blob.handle = bytes) getter answer)
      fun _ _ => False := by
  have hown {type : TypeId} (htype : type = c.type lib.types.toTypeTable) :=
    getWith_tries htype hname hdeclared hfits hassigned hsuits
  have hplain (hint : getter ≠ .int) (hobject : getter ≠ .object) (hother : getter ≠ .image) :=
    hown (hsuits.type_eq hint hobject hother)
  cases getter with
  | int =>
    refine tries_argument hname hdeclared fun info htype hisEnum => hown ?_
    split
    · exact htype
    · next henum =>
      have hother : ¬ lib.types.IsEnum (c.type lib.types.toTypeTable) := mt hisEnum.2 henum
      rcases c with a | ⟨type, n⟩
      · cases a <;> first | rfl | exact hsuits.elim
      · exact absurd hfits hother
  | object =>
    refine Watch.tries_bind.2 (tries_argument hname hdeclared fun info htype _ => ?_)
    exact Watch.tries_bind.1 (hown htype)
  | image =>
    obtain ⟨p, hproperty, hstored⟩ := hassigned
    have hisA : lib.types.IsA (lib.types.registered .image) .object :=
      lib.types.objects .image (by decide)
    refine tries_requireTable trivial (tries_registered trivial (tries_get hname hdeclared
      (himage rfl) (hisA.storable (TypeTable.storable_root (by decide))) hproperty ?_))
    intro v t n hcell hcells hblobs
    have htype : lib.types.IsA v.type (lib.types.registered .image) := by
      unfold Value.type
      rw [hcell]
      exact TypeTable.isA_refl _
    refine tries_peek hblobs ?_
    rcases c with a | ⟨type, m⟩
    · cases a with
      | image i =>
        obtain rfl := hstored
        exact Content.getImage_tries htype hsuits (content_eq (by rw [hcell]) hcells) ⟨rfl, rfl⟩
      | object o =>
        obtain rfl := hstored
        exact Content.getImage_tries htype hsuits (content_eq (by rw [hcell]) hcells) ⟨rfl, rfl⟩
      | _ => exact hsuits.elim
    · exact hsuits.elim
  | ints =>
    exact tries_requireTable trivial (tries_registered trivial (hplain nofun nofun nofun))
  | doubles =>
    exact tries_requireTable trivial (tries_registered trivial (hplain nofun nofun nofun))
  | blob =>
    exact tries_requireTable trivial (tries_registered trivial (hplain nofun nofun nofun))
  | _ => exact hplain nofun nofun nofun

end Keeper

/-! ## Assigning and reading -/

/-- A reader needs a value that holds what it reads, and what fits into no value is in none. -/
theorem Argument.fits_of_runs {lib : Keeper} {s : Store} {a : Argument} {events : Transcript}
    {v : Value} {getter : Getter} (hrun : a.toValue.run.Runs events (.ok v))
    (hlib : lib.watch.Admits s events)
    (hsuits : (Content.argument a).Suits lib.types.toTypeTable getter) :
    (Content.argument a).Fits lib.types.toTypeTable := by
  have hcounted {n : Nat} (hlength : a.length? = some n) : n ≤ Int32.maxValue.toInt := by
    by_contra hn
    obtain ⟨_, -, hfalse⟩ | ⟨_, herror, -⟩ :=
      (Keeper.of_runs (toValue_refused hlength (by omega)) hrun hlib).2
    · exact hfalse
    · cases herror
  cases a with
  | text t =>
    rcases runs_try_iff.1 hrun with ⟨_, -, ⟨⟩⟩ | ⟨_, _, text, -, htext, -⟩
    exact Option.isSome_of_eq_some (nativeText_ok htext)
  | ints xs => exact hcounted rfl
  | doubles xs => exact hcounted rfl
  | images images => exact hsuits.elim
  | _ => trivial

/-- The readers of the property that are for the content give it back. For an image that is declared
under a type of its own, the library has to pass that on as an image. -/
def Content.ComesBack (lib : Keeper) (c : Content) (object : Object) (name : String) (s : Store) :
    Prop :=
  ∀ getter, c.Suits lib.types.toTypeTable getter →
    (getter = .image →
      lib.passes (c.type lib.types.toTypeTable) (lib.types.registered .image)) →
    ∀ reading result, (getter.readProperty object name).run.Runs reading result →
      lib.watch.Admits s reading →
      ∃ answer, result = .ok answer ∧
        c.Given (lib.Tells (lib.watch.after s reading)) getter answer

theorem Content.comesBack_of_assigned {lib : Keeper} {c : Content} {object : Object} {name : String}
    {text : CText} {s : Store} (hname : CText.ofString? name = some text)
    (hdeclared : lib.declared object.handle text = some (c.type lib.types.toTypeTable))
    (hfits : c.Fits lib.types.toTypeTable) (hassigned : c.Assigned object.handle text s) :
    c.ComesBack lib object name s := by
  intro getter hsuits himage reading result hrun hlib
  obtain ⟨answer, rfl, hblobs, hgiven⟩ := Keeper.ok_of_runs
    (Keeper.readProperty_tries hname hdeclared hfits hassigned hsuits himage) hrun hlib
  exact ⟨answer, rfl, hgiven.mono fun blob bytes hbytes =>
    Keeper.tells_of_blobs ((congrFun hblobs _).trans hbytes)⟩

/-- An argument was assigned to a property of the type, and later the library keeps what it keeps
now. -/
structure ReadsBack (lib : Keeper) (object : Object) (name : String) (type : TypeId)
    (argument : Argument) (setting : Transcript) (r : Except Failure Unit) (now : Store) :
    Prop where
  /-- A property of the type of the argument gives the argument back. -/
  same : type = (Content.argument argument).type lib.types.toTypeTable → r = .ok () →
    (Content.argument argument).ComesBack lib object name now
  /-- An enum takes every whole number, and gives it back. -/
  number : lib.types.IsEnum type → ∀ n, argument = .int n →
    r = .ok () ∧ (Content.enumeration type n).ComesBack lib object name now
  /-- An enum gives the number that the library had for a nick. -/
  nick : lib.types.IsEnum type → ∀ t, argument = .text t → r = .ok () →
    ∃ n, 0 ≤ n ∧ setting.nicks = [(type, CText.ofString? t, n)] ∧
      (Content.enumeration type n).ComesBack lib object name now

theorem CarriedOut.steps_of_failing {failing : List CarriedOut}
    (h : ∀ set ∈ failing, set.result.isOk = false) : (trace failing).steps = [] := by
  rw [steps_trace, List.map_eq_nil_iff, List.filter_eq_nil_iff]
  intro set hset
  rw [h set hset]
  decide

/-- The library keeps what a property was assigned and gives it back unchanged, looks properties up
as they are declared, and turns each type into itself. Then every reader of a property gives back
what was assigned to it. An enum gives the number that it was assigned or that the library had for
the nick. Failing assignments in between, to whatever property, change nothing of it. -/
theorem a_property_gives_back_what_was_assigned (lib : Keeper) (s : Store) (operation : Operation)
    {name : String} {text : CText} {type : TypeId} {argument : Argument} {setting : Transcript}
    {r : Except Failure Unit} {failing : List CarriedOut}
    (hname : CText.ofString? name = some text)
    (hdeclared : lib.declared operation.object.handle text = some type)
    (hset : (operation.set name argument).run.Runs setting r)
    (hfailing : ∀ set ∈ failing, set.result.isOk = false)
    (hlib : lib.watch.Admits s (setting ++ CarriedOut.trace failing)) :
    ReadsBack lib operation.object name type argument setting r
      (lib.watch.after s (setting ++ CarriedOut.trace failing)) := by
  obtain ⟨hsetting, hrest⟩ := (Watch.admits_append _ _ _).1 hlib
  have hback {c : Content} (hfits : c.Fits lib.types.toTypeTable)
      (htype : c.type lib.types.toTypeTable = type)
      (hassigned : c.Assigned operation.object.handle text (lib.watch.after s setting)) :
      c.ComesBack lib operation.object name
        (lib.watch.after s (setting ++ CarriedOut.trace failing)) := by
    rw [Watch.after_append]
    exact Content.comesBack_of_assigned hname (hdeclared.trans (congrArg some htype.symm)) hfits
      (hassigned.after hrest (CarriedOut.steps_of_failing hfailing))
  have hfits {getter : Getter}
      (hsuits : (Content.argument argument).Suits lib.types.toTypeTable getter) (hr : r = .ok ()) :
      (Content.argument argument).Fits lib.types.toTypeTable := by
    rcases runs_try_iff.1 hset with ⟨_, -, rfl⟩ | ⟨making, _, v, rfl, hmaking, -⟩
    · cases hr
    · exact Argument.fits_of_runs hmaking ((Watch.admits_append _ _ _).1 hsetting).1 hsuits
  constructor
  · intro htype hr getter hsuits
    have hfits := hfits hsuits hr
    have hdeclared := hdeclared.trans (congrArg some htype)
    have htries := Keeper.operationSet_tries (s := s) hfits
      (fun v t hkept _ => Keeper.set_tries hname hdeclared (Content.not_isEnum hfits) hkept)
      fun t cell h => h.empty cell
    obtain ⟨-, -, hassigned⟩ := Keeper.ok_of_runs htries hset hsetting
    exact hback hfits htype.symm hassigned getter hsuits
  · rintro henum n rfl
    have htries := Keeper.operationSet_tries (a := .int n) (s := s) trivial
      (fun v t hkept _ => Keeper.set_tries_number hname hdeclared henum hkept)
      fun t cell h => h.empty cell
    obtain ⟨-, rfl, m, rfl, hassigned⟩ := Keeper.ok_of_runs htries hset hsetting
    exact ⟨rfl, hback henum rfl hassigned⟩
  · rintro henum t rfl hr
    have hsuits : (Content.argument (.text t)).Suits lib.types.toTypeTable .text := trivial
    have hfits := hfits hsuits hr
    have htries := Keeper.operationSet_tries (s := s)
      (Q := Keeper.HoldsNumber type operation.object text fun n nicks =>
        0 ≤ n ∧ nicks = s.nicks ++ [(type, CText.ofString? t, n)]) hfits
      (fun v u hkept hnicks => hnicks ▸ Keeper.set_tries_nick hname hdeclared henum hkept)
      fun u cell h => h.empty cell
    obtain ⟨_, -, n, ⟨hn, hnicks⟩, hassigned⟩ | ⟨_, rfl, -⟩ :=
      (Keeper.of_runs htries hset hsetting).2
    · rw [Keeper.after_nicks, List.append_cancel_left_eq] at hnicks
      exact ⟨n, hn, hnicks, hback henum rfl hassigned⟩
    · cases hr

/-! ### The number of a nick -/

/-- The library looks for the enum property of an object. -/
def enumFound : Event :=
  ⟨.call (.getArgument ⟨"op"⟩ (.cut [101])), ⟨0, some ⟨none, ⟨3000⟩⟩, some 19⟩⟩

/-- The library has the number 2 for the nick, and the property is assigned. -/
def nickAssigned : Transcript :=
  let table : Event := ⟨.table, some ⟨⟨"libvips.so.42"⟩, none, []⟩⟩
  [table, ⟨.call (.cellInit .string), some 1⟩,
    ⟨.call (.cellSet ⟨some 1, .string⟩ (.string (.cut [120]))), ()⟩,
    table, enumFound, ⟨.call (.fundamental ⟨3000⟩), .enumeration⟩,
    ⟨.instanceType ⟨"op"⟩, .object⟩, ⟨.call (.nicknameFind .object), none⟩,
    ⟨.call (.cellGet ⟨some 1, .string⟩ .string), some (.cut [120])⟩,
    ⟨.call (.enumFromNick none ⟨3000⟩ (some (.cut [120]))), (2 : Int32)⟩,
    table, ⟨.call (.cellInit ⟨3000⟩), some 2⟩,
    ⟨.call (.cellSet ⟨some 2, ⟨3000⟩⟩ (.enumeration 2)), ()⟩,
    ⟨.call (.setProperty ⟨"op"⟩ (.cut [101]) ⟨some 2, ⟨3000⟩⟩), ()⟩,
    table, ⟨.call (.cellUnset ⟨some 2, ⟨3000⟩⟩), ()⟩,
    table, ⟨.call (.cellUnset ⟨some 1, .string⟩), ()⟩]

/-- A truth value is not assigned to the property. -/
def truthUnassigned : List CarriedOut :=
  let table : Event := ⟨.table, some ⟨⟨"libvips.so.42"⟩, none, []⟩⟩
  [⟨.value ⟨⟨"op"⟩⟩ "e" ⟨⟨some 1, .boolean⟩⟩,
    [table, enumFound, ⟨.call (.fundamental ⟨3000⟩), .enumeration⟩,
      ⟨.call (.transformable .boolean ⟨3000⟩), (0 : Int32)⟩,
      table, ⟨.call (.typeName ⟨3000⟩), none⟩, table, ⟨.call (.typeName .boolean), none⟩],
    .error (.typeMismatch (Keeper.builtIn.shown ⟨3000⟩) (Keeper.builtIn.shown .boolean)),
    .ask _ (.ask _ (.ask _ (.ask _ (.ask _ (.ask _ (.ask _ (.ask _ (.done _))))))))⟩]

/-- The property is read. -/
def enumRead : Transcript :=
  let table : Event := ⟨.table, some ⟨⟨"libvips.so.42"⟩, none, []⟩⟩
  let fundamental : Event := ⟨.call (.fundamental ⟨3000⟩), .enumeration⟩
  [table, enumFound, table, ⟨.call (.typeName ⟨3000⟩), none⟩, fundamental,
    table, enumFound, ⟨.call (.transformable ⟨3000⟩ ⟨3000⟩), (1 : Int32)⟩,
    table, ⟨.call (.cellInit ⟨3000⟩), some 1⟩,
    ⟨.call (.getProperty ⟨"op"⟩ (.cut [101]) ⟨some 1, ⟨3000⟩⟩), ()⟩,
    table, fundamental, ⟨.call (.cellGet ⟨some 1, ⟨3000⟩⟩ .enumeration), (2 : Int32)⟩,
    table, ⟨.call (.cellUnset ⟨some 1, ⟨3000⟩⟩), ()⟩]

theorem the_number_of_a_nick_comes_back :
    (Getter.int.readProperty ⟨⟨"op"⟩⟩ "e").run.Runs enumRead (.ok (2 : Int32)) ∧
      ∃ n, 0 ≤ n ∧ nickAssigned.nicks = [(⟨3000⟩, CText.ofString? "x", n)] ∧ n = 2 := by
  have hset : ((⟨⟨⟨"op"⟩⟩, "resize"⟩ : Operation).set "e" (.text "x")).run.Runs nickAssigned
      (.ok ()) :=
    .ask _ (.ask _ (.ask _ (.ask _ (.ask _ (.ask _ (.ask _ (.ask _ (.ask _ (.ask _ (.ask _
      (.ask _ (.ask _ (.ask _ (.ask _ (.ask _ (.ask _ (.ask _ (.done _))))))))))))))))))
  have hread : (Getter.int.readProperty ⟨⟨"op"⟩⟩ "e").run.Runs enumRead (.ok (2 : Int32)) :=
    .ask _ (.ask _ (.ask _ (.ask _ (.ask _ (.ask _ (.ask _ (.ask _ (.ask _ (.ask _ (.ask _
      (.ask _ (.ask _ (.ask _ (.ask _ (.ask _ (.done _))))))))))))))))
  have henum : Keeper.builtIn.types.IsEnum ⟨3000⟩ := .step rfl .refl
  have hroot : ∀ root ∈ TypeId.roots,
      TypeId.enumeration = root ↔ Keeper.builtIn.types.IsA ⟨3000⟩ root := by
    intro root hroot
    constructor
    · rintro rfl
      exact henum
    · exact TypeSystem.root_unique (by decide) hroot henum
  have hlib : Keeper.builtIn.watch.Admits .blank
      (nickAssigned ++ CarriedOut.trace truthUnassigned) := by
    refine ⟨rfl, ⟨fun _ _ => rfl, fun _ => rfl⟩, trivial, rfl, rfl, hroot, rfl, trivial, ?_,
      trivial, rfl, ⟨?_, fun _ => rfl⟩, trivial, trivial, rfl, trivial, rfl, trivial,
      rfl, rfl, hroot, ?_, rfl, rfl, rfl, rfl, trivial⟩
    · rintro _ ⟨⟩
      rfl
    · rintro _ ⟨⟩
      rfl
    · intro hpasses
      cases hpasses
  have hfailing : ∀ set ∈ truthUnassigned, set.result.isOk = false := by
    simp [truthUnassigned, Except.isOk, Except.toBool]
  have hreading : Keeper.builtIn.watch.Admits (Keeper.builtIn.watch.after .blank
      (nickAssigned ++ CarriedOut.trace truthUnassigned)) enumRead := by
    refine ⟨rfl, rfl, rfl, rfl, hroot, rfl, rfl, fun _ => by decide, rfl, ⟨?_, fun _ => rfl⟩,
      trivial, rfl, hroot, ?_, rfl, trivial, trivial⟩
    · rintro _ ⟨⟩
      rfl
    · rintro _ ⟨⟩
      rfl
  obtain ⟨n, hn, hnicks, hback⟩ := (a_property_gives_back_what_was_assigned .builtIn .blank
    ⟨⟨⟨"op"⟩⟩, "resize"⟩ rfl rfl hset hfailing hlib).nick henum "x" rfl rfl
  obtain ⟨_, hanswer, rfl⟩ := hback .int trivial (by rintro ⟨⟩) _ _ hread hreading
  cases hanswer
  exact ⟨hread, 2, hn, hnicks, rfl⟩

end ImageGateway
