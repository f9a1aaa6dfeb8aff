-- Conduct in everything that a program and a foreign host can do, and in whole
-- sessions of both.

import ImageGateway.Proofs.Conduct.Operations
import ImageGateway.Proofs.Custody.Sessions

namespace ImageGateway

/-! ## Sessions that are fair -/

/-- Whether a step is fair: it asks for the extent of nothing but an image, takes nothing but an
image for one, and boxes numbers as those of enums only. What the program holds as an image may be
used as one. -/
def Act.Fair (image : Handle → Prop) (enum : TypeId → Prop) (w : World) : Act → Prop
  | .deed (.look (.extent i _)) | .deed (.cloneImage i) => .image i ∈ w.held ∨ image i.object.handle
  | .deed (.borrowImage (some h)) => image h
  | .deed (.boxEnum type _) => enum type
  | .receive (.image i) => image i.object.handle
  | _ => True

/-- What can have happened from the empty world on, by fair steps. -/
inductive FairSession (image : Handle → Prop) (enum : TypeId → Prop) : Past → World → Prop where
  | start : FairSession image enum [] .empty
  | step {past : Past} {w w' : World} {act : Act} {events : Transcript} :
      FairSession image enum past w → act.Fair image enum w → act.Step w events w' →
        FairSession image enum (past ++ [(act, events)]) w'

theorem FairSession.session {image : Handle → Prop} {enum : TypeId → Prop} {past : Past} {w : World}
    (h : FairSession image enum past w) : Session past w := by
  induction h with
  | start => exact .start
  | step _ _ hstep ih => exact .step ih hstep

/-- Where every object may be an image and every type one of enums, every step is fair. -/
theorem Session.fair {past : Past} {w : World} (h : Session past w) :
    FairSession (fun _ => True) (fun _ => True) past w := by
  induction h with
  | start => exact .start
  | step _ hstep ih =>
    refine .step ih ?_ hstep
    unfold Act.Fair
    split <;> simp

namespace Conduct

open Program

variable {Note α β : Type} {c : Conduct Note}

/-- What a deed needs besides what it uses up and what it is lent. -/
def Allowed (c : Conduct Note) : Deed → Prop
  | .look (.extent i _) | .cloneImage i => c.image i.object.handle
  | .borrowImage (some h) => c.image h
  | .boxEnum type _ => c.enum type
  | _ => True

namespace Lawful

variable (h : c.Lawful)

/-! ## Deeds -/

theorem found {p : Attempt (List Holding)} (hp : c.Gets p c.AllGood) :
    c.Does (Deed.found p) c.AllGood :=
  hp.run (fun _ hmade => does_done hmade) fun _ => does_done allGood_nil

theorem foundNothing {p : Attempt α} (hp : c.Minds p) : c.Does (Deed.found p.nothing) c.AllGood :=
  found (gets_nothing.2 (hp.mono fun _ _ => allGood_nil))

theorem foundOne {p : Attempt α} {f : α → Holding} (hp : c.Gets p fun a => c.Good (f a)) :
    c.Does (Deed.found (p.holding f)) c.AllGood :=
  found (gets_holding.2 (hp.mono fun _ => allGood_one))

theorem foundAny {p : Attempt (Option α)} {f : α → Holding}
    (hp : c.Gets p fun o => ∀ a, o = some a → c.Good (f a)) :
    c.Does (Deed.found (p.holding? f)) c.AllGood := by
  refine found (gets_holding?.2 (hp.mono fun o ho => ?_))
  cases o with
  | none => exact allGood_nil
  | some a => exact allGood_one (ho a rfl)

include h

theorem drop {thing : Holding} (hgood : c.Good thing) : c.Heeds thing.release := by
  cases thing with
  | object o => exact h.release o
  | image i => exact h.release i.object
  | operation o => exact h.release o.object
  | blob b => exact h.releaseBlob b
  | value v => exact h.releaseValue hgood
  | text t => exact does_done trivial

theorem look (query : Query) (hallowed : c.Allowed (.look query)) : c.Heeds query.program := by
  refine heeds_of_asks (query.asks h.background fun i which hquery => ?_)
  subst hquery
  exact h.extent hallowed

/-- Whatever a deed makes may be used as what it is. -/
theorem deed (d : Deed) (hallowed : c.Allowed d) (huses : c.AllGood d.uses)
    (hlent : ∀ v, d.lent? = some v → c.cell v.cell) : c.Does d.program c.AllGood := by
  cases d with
  | drop thing => exact (h.drop (allGood_cons.1 huses).1).bind fun _ _ => does_done allGood_nil
  | cloneObject object => exact (h.clone object).bind fun _ _ => does_done (allGood_one trivial)
  | cloneImage image =>
    refine (h.clone image.object).bind fun copy hcopy => does_done (allGood_one ?_)
    subst hcopy
    exact hallowed
  | cloneOperation operation =>
    exact ((h.clone operation.object).bind (Q := fun _ => True) fun _ _ => does_done trivial).bind
      fun _ _ => does_done (allGood_one trivial)
  | borrowObject handle =>
    exact foundAny ((h.borrow handle).mono fun _ _ _ _ => trivial)
  | borrowImage handle =>
    refine foundAny ((h.borrowImage handle).mono fun o ho i hi => ?_)
    subst hi
    cases handle with
    | none => cases ho
    | some handle =>
      cases ho
      exact hallowed
  | asImage object => exact foundOne (h.asImage object)
  | asObject image => exact does_done (allGood_one trivial)
  | newOperation nickname => exact foundOne ((h.newOperation nickname).mono fun _ _ => trivial)
  | setInput operation name argument => exact foundNothing (h.setInput operation name argument)
  | build operation => exact foundOne ((h.build operation).mono fun _ _ => trivial)
  | unrefOutputs operation => exact foundNothing (h.unrefOutputs operation)
  | call nickname options =>
    exact (h.callOperation nickname options huses).bind fun _ hr => does_done hr
  | tileCache image options => exact foundOne (h.tileCache image options)
  | copyBytes bytes => exact foundOne ((h.copyBytes bytes).mono fun _ _ => trivial)
  | source blob => exact foundOne ((h.source blob).mono fun _ _ => trivial)
  | memoryTarget => exact foundOne (h.memoryTarget.mono fun _ _ => trivial)
  | newValue type => exact foundOne (h.new type)
  | box argument => exact foundOne (h.box argument)
  | boxEnum type n => exact foundOne (h.boxEnum hallowed)
  | boxBlob blob => exact foundOne (h.boxBlob blob)
  | readValue value reading => exact found (h.read reading (hlent value rfl))
  | readObject value =>
    exact foundAny ((h.readObject (hlent value rfl)).mono fun _ _ _ _ => trivial)
  | readProperty object name reading => exact found (h.readProperty object name reading)
  | readDoublesInto object name buffer => exact foundNothing (h.getDoublesInto object name buffer)
  | getAs object name type => exact foundOne (h.get object name type)
  | getDeclared object name => exact foundOne (h.getDeclared object name)
  | setProperty object name value => exact foundNothing (h.set object name (hlent value rfl))
  | look query => exact (h.look query hallowed).bind fun _ _ => does_done allGood_nil

/-! ## Entry points -/

theorem warn (entry text : String) : c.Heeds (Foreign.warn entry text) :=
  heeds_of_asks (warn_asks h.background entry text)

theorem guarded {entry : String} {p : Attempt α} {P : α → Prop} (hp : c.Gets p P) :
    c.Does (Foreign.guarded entry p) fun answer => ∀ a, answer = some a → P a := by
  refine ((minds_of_asks (ensureLoaded_asks (loading_of h.background))).try fun _ _ => hp).run ?_ ?_
  · rintro a ha
    exact does_done (by rintro _ ⟨⟩; exact ha)
  · exact fun failure => (h.warn _ _).bind fun _ _ => does_done nofun

theorem fill {entry : String} {make : Attempt Value} (place : Foreign.Place)
    (hmake : c.Gets make fun v => c.cell v.cell) :
    c.Does (Foreign.fill entry place make) fun k => c.AllGood (Export.filled k) := by
  cases place with
  | null => exact (h.warn _ _).bind fun _ _ => does_done allGood_nil
  | writable =>
    refine (h.guarded hmake).bind fun v hv => does_done ?_
    cases v with
    | none => exact allGood_nil
    | some v => exact allGood_one (hv v rfl)

theorem onProperty {entry : String} {f : Object → String → Attempt α} {P : α → Prop}
    (operation : Option Handle) (name : Option CText)
    (hf : ∀ object name, c.Gets (f object name) P) :
    c.Does (Foreign.onProperty entry operation name f) fun answer =>
      ∀ a, answer = some a → P a := by
  refine (heeds_of_asks (borrowText_asks h.background entry name)).bind fun name _ => ?_
  cases name with
  | none => exact does_done nofun
  | some name =>
    apply h.guarded
    cases operation with
    | none => exact gets_throw
    | some handle => exact hf ⟨handle⟩ name

theorem fetched {entry : String} {f : Object → String → Attempt α} {P : α → Prop}
    (operation : Option Handle) (name : Option CText) (place : Foreign.Place)
    (hf : ∀ object name, c.Gets (f object name) P) :
    c.Does (Foreign.fetch entry operation name place f) fun answer =>
      ∀ a, answer = some a → P a := by
  refine (h.onProperty operation name hf).bind fun answer hanswer => ?_
  cases place with
  | null => exact (h.warn _ _).bind fun _ _ => does_done nofun
  | writable => exact does_done hanswer

theorem fetchedPlain {entry : String} {f : Object → String → Attempt α}
    (operation : Option Handle) (name : Option CText) (place : Foreign.Place)
    (hf : ∀ object name, c.Minds (f object name)) :
    c.Does (do let _ ← Foreign.fetch entry operation name place f; return []) c.AllGood :=
  (h.fetched operation name place hf).bind fun _ _ => does_done allGood_nil

theorem handed {entry : String} {f : Object → String → Attempt (Option α)} {g : α → Holding}
    (operation : Option Handle) (name : Option CText) (place : Foreign.Place)
    (hf : ∀ object name, c.Gets (f object name) fun o => c.AllGood (o.toList.map g)) :
    c.Does (do return Export.handed g (← Foreign.fetch entry operation name place f))
      c.AllGood := by
  refine (h.fetched operation name place hf).bind fun stored hstored => does_done ?_
  rcases stored with _ | _ | a
  · exact allGood_nil
  · exact allGood_nil
  · exact hstored _ rfl

theorem fetchedInto {entry : String} {f : Object → String → Attempt (List α)}
    (operation : Option Handle) (name : Option CText) (buffer : Option (List α)) (size : Int32)
    (hf : ∀ object name, c.Minds (f object name)) :
    c.Does (do let _ ← Foreign.fetchInto entry operation name buffer size f; return [])
      c.AllGood := by
  refine Does.bind (P := fun _ => True) ?_ fun _ _ => does_done allGood_nil
  refine (h.onProperty operation name hf).bind fun values _ => ?_
  cases values <;> exact does_done trivial

theorem releaseAll (images : List Image) : c.Heeds (Foreign.releaseAll images) := by
  induction images with
  | nil => exact does_done trivial
  | cons image rest ih => exact (h.release image.object).bind fun _ _ => ih

theorem borrowImages (taken : List Image) (items : List (Option Handle)) :
    c.Minds (Foreign.borrowImages taken items) := by
  induction items generalizing taken with
  | nil => exact gets_pure trivial
  | cons handle rest ih =>
    refine (h.borrowImage handle).result (fun image _ => ?_) fun failure => ?_
    · cases image with
      | none => exact (h.releaseAll taken).then fun _ _ => gets_throw
      | some image => exact ih _
    · exact (h.releaseAll taken).then fun _ _ => gets_throw

theorem runTileCache (entry : String) (image : Option Handle) (place : Foreign.Place)
    (options : TileOptions) :
    c.Does (Foreign.runTileCache entry image place options) fun r =>
      c.AllGood (r.2.map fun h => .image ⟨⟨h⟩⟩).toList := by
  cases place with
  | null => exact (h.warn _ _).bind fun _ _ => does_done allGood_nil
  | writable =>
    refine (h.guarded (P := fun i => c.image i.object.handle) ?_).bind fun cached hcached => ?_
    · refine (h.borrowImage image).try fun borrowed _ => ?_
      cases borrowed with
      | none => exact gets_throw
      | some borrowed => exact (h.tileCache borrowed options).closedBy (h.release borrowed.object)
    · cases cached with
      | none => exact does_done allGood_nil
      | some cached => exact does_done (allGood_one (hcached cached rfl))

/-- Whatever an entry point leaves with the host may be used as what it is. -/
theorem enter (entry : Export) (hlent : ∀ k, entry.lent? = some k → c.cell k) :
    c.Does entry.program c.AllGood := by
  cases entry with
  | setBool place n => exact (h.fill place (h.box (.bool (n != 0)))).bind fun _ => does_done
  | setInt place n => exact (h.fill place (h.box (.int n))).bind fun _ => does_done
  | setUInt64 place n => exact (h.fill place (h.box (.uint64 n))).bind fun _ => does_done
  | setDouble place x => exact (h.fill place (h.box (.double x))).bind fun _ => does_done
  | setString place text =>
    refine ((heeds_of_asks (borrowText_asks h.background _ text)).bind ?_).bind fun _ => does_done
    intro found _
    cases found with
    | none => exact does_done allGood_nil
    | some found => exact h.fill place (h.box (.text found))
  | setInts place items size => exact (h.fill place (h.box (.ints _))).bind fun _ => does_done
  | setDoubles place items size => exact (h.fill place (h.box (.doubles _))).bind fun _ => does_done
  | setImages place items size =>
    refine (h.fill place ?_).bind fun _ => does_done
    exact (h.borrowImages [] _).try fun images _ =>
      (h.box (.images images)).closedBy (h.releaseAll images)
  | setBlob place blob =>
    refine (h.fill place ?_).bind fun _ => does_done
    cases blob with
    | none => exact gets_throw
    | some handle => exact h.boxBlob ⟨handle⟩
  | setObject kin place object =>
    have hany (entry : String) : c.Does (Foreign.setAnyObject entry place object) fun k =>
        c.AllGood (Export.filled k) := by
      apply h.fill
      cases object with
      | none => exact gets_throw
      | some handle => exact h.box (.object ⟨handle⟩)
    cases kin <;> exact (hany _).bind fun _ => does_done
  | getPlain plain operation name place =>
    cases plain with
    | bool =>
      exact h.fetchedPlain operation name place fun object name =>
        (h.getBool object name).try fun _ _ => gets_pure trivial
    | int => exact h.fetchedPlain operation name place h.getInt
    | uint64 => exact h.fetchedPlain operation name place h.getUInt64
    | double => exact h.fetchedPlain operation name place h.getDouble
  | getHanding handing operation name place =>
    cases handing with
    | text =>
      refine h.handed operation name place fun object name =>
        (h.copy object name).mono fun o _ => ?_
      cases o with
      | none => exact allGood_nil
      | some text => exact allGood_one trivial
    | blob =>
      refine h.handed operation name place fun object name =>
        (h.getBlob object name).try fun o _ => gets_pure ?_
      cases o with
      | none => exact allGood_nil
      | some blob => exact allGood_one trivial
    | image =>
      refine h.handed operation name place fun object name =>
        (h.getImage object name).try fun o ho => gets_pure ?_
      cases o with
      | none => exact allGood_nil
      | some image => exact ho
  | getInts operation name buffer size => exact h.fetchedInto operation name buffer size h.getInts
  | getDoubles operation name buffer size =>
    exact h.fetchedInto operation name buffer size h.getDoubles
  | setProperty object name cell =>
    refine Does.bind (P := fun _ => True) ?_ fun _ _ => does_done allGood_nil
    cases cell with
    | none => exact h.warn _ _
    | some cell =>
      exact (h.onProperty object name fun object name =>
        h.set object name (v := ⟨cell⟩) (hlent cell rfl)).bind fun _ _ => does_done trivial
  | cacheImage image place =>
    exact (h.runTileCache _ image place _).bind fun _ hstored => does_done hstored
  | cacheImageWith image place pairs =>
    refine Does.bind (P := fun r => c.AllGood (r.2.map fun h => .image ⟨⟨h⟩⟩).toList) ?_
      fun _ hstored => does_done hstored
    refine (heeds_of_asks (borrowPairs_asks h.background _ pairs)).bind fun pairs _ => ?_
    cases pairs with
    | none => exact does_done allGood_nil
    | some pairs =>
      dsimp only
      split
      · exact h.runTileCache _ image place _
      · exact (h.warn _ _).bind fun _ _ => does_done allGood_nil
  | start name =>
    exact (heeds_of_asks (startForHost_asks h.background name)).bind fun _ _ =>
      does_done allGood_nil

end Lawful

/-! ## Sessions -/

/-- Whether all that is owned may be used as what it is. -/
structure GoodWorld (c : Conduct Note) (w : World) : Prop where
  held : c.AllGood w.held
  given : c.AllGood w.given
  own : ∀ k ∈ w.own, c.cell k

theorem GoodWorld.allowed {w : World} (hw : c.GoodWorld w) {d : Deed}
    (hfair : (Act.deed d).Fair c.image c.enum w) : c.Allowed d := by
  cases d with
  | look query =>
    cases query with
    | extent i which => exact hfair.elim (hw.held _) id
    | _ => trivial
  | cloneImage i => exact hfair.elim (hw.held _) id
  | borrowImage handle =>
    cases handle with
    | none => trivial
    | some handle => exact hfair
  | boxEnum type n => exact hfair
  | _ => trivial

variable {n : Note} {events : Transcript}

/-- A fair step is a run of a program that keeps to the conduct, from a good world to a good one. -/
theorem Lawful.step_runs (h : c.Lawful) {w w' : World} {act : Act} (hw : c.GoodWorld w)
    (hfair : act.Fair c.image c.enum w) (hstep : act.Step w events w') :
    ∃ p : Program World, p.Runs events w' ∧ c.Does p c.GoodWorld := by
  have hmade {p : Program (List Holding)} {made : List Holding} {f : List Holding → World}
      (hrun : p.Runs events made) (hp : c.Does p c.AllGood)
      (hf : ∀ made, c.AllGood made → c.GoodWorld (f made)) :
      ∃ p : Program World, p.Runs events (f made) ∧ c.Does p c.GoodWorld :=
    ⟨p >>= fun made => done (f made),
      runs_bind_iff.2 ⟨events, [], made, (List.append_nil _).symm, hrun, .done _⟩,
      hp.bind fun made hgood => does_done (hf made hgood)⟩
  have hunset {k : Cell} {w' : World} (hk : c.cell k) (hw' : c.GoodWorld w') :
      ∃ p : Program World, p.Runs [⟨.call (.cellUnset k), ()⟩] w' ∧ c.Does p c.GoodWorld :=
    ⟨request (.call (.cellUnset k)) >>= fun _ => done w', .ask _ (.done _),
      (heeds_request (h.unset hk)).bind fun _ _ => does_done hw'⟩
  obtain ⟨hheld, hgiven, hown⟩ := hw
  cases hstep with
  | @deed d rest made _ hperm hlent hrun =>
    obtain ⟨huses, hrest⟩ := allGood_append.1 (hheld.perm hperm)
    have hdeed := h.deed d (GoodWorld.allowed ⟨hheld, hgiven, hown⟩ hfair) huses
      fun v hv => hheld _ (hlent v hv)
    exact hmade (f := fun made => { w with held := made ++ rest }) hrun hdeed fun made hgood =>
      ⟨allGood_append.2 ⟨hgood, hrest⟩, hgiven, hown⟩
  | @give thing rest hperm =>
    obtain ⟨hthing, hrest⟩ := allGood_cons.1 (hheld.perm hperm)
    exact ⟨_, .done _, does_done ⟨hrest, allGood_cons.2 ⟨hthing, hgiven⟩, hown⟩⟩
  | @receive thing hreference =>
    refine ⟨_, .done _, does_done ⟨allGood_cons.2 ⟨?_, hheld⟩, hgiven, hown⟩⟩
    cases thing with
    | image i => exact hfair
    | object o => trivial
    | blob b => trivial
    | _ => exact hreference.elim
  | @takeBack v rest hperm =>
    obtain ⟨hv, hrest⟩ := allGood_cons.1 (hgiven.perm hperm)
    exact ⟨_, .done _, does_done ⟨allGood_cons.2 ⟨hv, hheld⟩, hrest, hown⟩⟩
  | takeEmpty =>
    exact ⟨_, .done _, does_done ⟨allGood_cons.2 ⟨h.empty, hheld⟩, hgiven, hown⟩⟩
  | @enter entry stored _ hlent hrun =>
    have hentry := h.enter entry fun k hk =>
      (hlent k hk).elim (fun hmem => hgiven _ hmem) (hown k)
    exact hmade (f := fun stored => { w with given := stored ++ w.given }) hrun hentry
      fun stored hgood => ⟨hheld, allGood_append.2 ⟨hgood, hgiven⟩, hown⟩
  | hostInit number type =>
    let after (number : Option Nat) : World :=
      { w with own := (number.map fun k => ⟨some k, type⟩).toList ++ w.own }
    refine ⟨ask (.call (.cellInit type)) fun number => done (after number),
      runs_ask_iff.2 ⟨some number, [], rfl, .done (after (some number))⟩,
      fun n hn => ⟨(h.init n hn).1, fun number hnumber => ?_⟩⟩
    refine ⟨⟨hheld, hgiven, ?_⟩, (h.init n hn).2 number hnumber⟩
    cases number with
    | none => exact hown
    | some number => exact List.forall_mem_cons.2 ⟨h.initialised hn hnumber, hown⟩
  | @hostUnset k rest hperm =>
    have hcells : ∀ k' ∈ k :: rest, c.cell k' := fun k' hk' => hown k' (hperm.mem_iff.2 hk')
    exact hunset (hcells k (List.mem_cons_self ..))
      ⟨hheld, hgiven, fun k' hk' => hcells k' (List.mem_cons_of_mem _ hk')⟩
  | @hostDrop v rest hperm =>
    obtain ⟨hv, hrest⟩ := allGood_cons.1 (hgiven.perm hperm)
    exact hunset hv ⟨hheld, hrest, hown⟩

/-- A fair session keeps to the conduct, and all that is owned after it may be used as what it
is. -/
theorem Lawful.session (h : c.Lawful) {past : Past} {w : World}
    (hsession : FairSession c.image c.enum past w) (hn : c.calm n)
    (hadmits : c.watch.Admits n past.trace) :
    c.watch.Allows n past.trace ∧ c.calm (c.watch.after n past.trace) ∧ c.GoodWorld w := by
  induction hsession with
  | start => exact ⟨trivial, hn, allGood_nil, allGood_nil, fun _ hk => (List.not_mem_nil hk).elim⟩
  | @step past w w' act events _ hfair hstep ih =>
    rw [Past.trace_snoc] at hadmits ⊢
    obtain ⟨hbefore, hnow⟩ := (Watch.admits_append _ _ _).1 hadmits
    obtain ⟨hallows, hcalm, hw⟩ := ih hbefore
    obtain ⟨p, hrun, hdoes⟩ := h.step_runs hw hfair hstep
    obtain ⟨hallows', hw', hcalm'⟩ := (hdoes _ hcalm).of_runs hrun hnow
    rw [Watch.after_append]
    exact ⟨(Watch.allows_append _ _ _).2 ⟨hallows, hallows'⟩, hcalm', hw'⟩

/-- In a fair session, what may be asked for next hangs on the answers before it alone. -/
theorem Lawful.session_until (h : c.Lawful) {past : Past} {w : World}
    (hsession : FairSession c.image c.enum past w) (hn : c.calm n) {first rest : Transcript}
    {e : Event} (hsplit : past.trace = first ++ e :: rest) (hadmits : c.watch.Admits n first) :
    c.watch.Allows n (first ++ [e]) := by
  induction hsession generalizing rest with
  | start => simp at hsplit
  | @step past w w' act events hpast hfair hstep ih =>
    rw [Past.trace_snoc] at hsplit
    have hlast (now : Transcript) (hfirst : first = past.trace ++ now)
        (hevents : events = now ++ e :: rest) : c.watch.Allows n (first ++ [e]) := by
      subst hfirst
      obtain ⟨hbefore, hnow⟩ := (Watch.admits_append _ _ _).1 hadmits
      obtain ⟨hallows, hcalm, hw⟩ := h.session hpast hn hbefore
      obtain ⟨p, hrun, hdoes⟩ := h.step_runs hw hfair hstep
      rw [hevents] at hrun
      rw [List.append_assoc]
      exact (Watch.allows_append _ _ _).2 ⟨hallows, (hdoes _ hcalm).of_runs_until hrun hnow⟩
    rcases List.append_eq_append_iff.1 hsplit with
      ⟨now, hfirst, hevents⟩ | ⟨later, hbefore, hevents⟩
    · exact hlast now hfirst hevents
    · cases later with
      | nil => exact hlast [] (by simpa using hbefore.symm) hevents.symm
      | cons e' later =>
        obtain ⟨rfl, -⟩ := List.cons.inj hevents
        exact ih hbefore

end Conduct

end ImageGateway
