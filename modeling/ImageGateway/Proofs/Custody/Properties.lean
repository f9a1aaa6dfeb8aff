-- Custody in properties: a getter keeps what its answer owns and no cell, and an
-- assignment leaves nothing behind, whichever way it ends.

import ImageGateway.Proofs.Custody.Values

namespace ImageGateway.Resource

variable {α : Type} {x : Resource} {s : Standing}

theorem lookup_idle (object : Object) (name : CText) :
    (Property.lookup object name).run.Asks Idle :=
  lookup_asks (fun _ => idle_of_question) _ _ ⟨⟨fun _ => rfl, fun _ _ => rfl⟩, rfl⟩

theorem argument_idle (object : Object) (name : String) :
    (Property.argument object name).run.Asks Idle :=
  argument_asks (fun _ => idle_of_question) fun _ => ⟨⟨fun _ => rfl, fun _ _ => rfl⟩, rfl⟩

/-! ## Getters -/

theorem new_gives (type : TypeId) : x.YieldsValue s (Value.new type) := by
  refine .onTable fun t ht _ => Watch.tries_lift.2 ((make_ensures type).mono ?_)
  intro v u hend
  obtain ⟨hsound, hu⟩ := hend
  exact ⟨hu.loaded ht, hsound, hu⟩

theorem get_gives (object : Object) (name : String) (type : TypeId) :
    x.YieldsValue s (Property.get object name type) := by
  refine .onTable fun t ht _ => .onText fun text _ => .try ht (lookup_idle object text) fun found =>
    .try ht (checkTransformable_asks idle_of_inquiry _ _) fun _ => ?_
  apply Watch.Tries.bind (new_gives type)
  intro v u hend
  obtain ⟨hu, hsound, hmoves⟩ := hend
  have hlends := hsound.lends hmoves.le_there
  refine (ensures_lent (q := .call (.getProperty object.handle text v.cell)) hu
    ⟨fun _ => rfl, fun _ _ => rfl⟩ rfl hlends).then ?_
  rintro _ _ rfl
  exact ⟨hu, hsound, hmoves⟩

theorem getValue_gives (object : Object) (name : String) :
    x.YieldsValue s (Property.getValue object name) :=
  .look (argument_idle object name) fun info _ => get_gives object name info.type

theorem getWith_yields {read : Value → Attempt α} {owned : α → Nat} (hread : x.Reader read owned)
    (object : Object) (name : String) (type : TypeId) :
    x.Yields s (Property.getWith object name type read) owned := by
  apply Watch.Tries.bind (get_gives object name type)
  intro v t hend
  obtain ⟨ht, hsound, hmoves⟩ := hend
  exact (hread v t hsound hmoves.le_there).lend hsound hmoves ht

theorem getRegistered_yields {read : Value → Attempt α} {owned : α → Nat}
    (hread : x.Reader read owned) (object : Object) (name : String) (which : Registered) :
    x.Yields s (Property.getRegistered object name which read) owned :=
  .onTable fun _ ht _ => .then ht (idle_question trivial) fun type =>
    getWith_yields hread object name type

theorem getInt_yields (object : Object) (name : String) :
    x.Keeps s (Property.getInt object name) :=
  .look (argument_idle object name) fun _ _ => getWith_yields getInt_reader object name _

theorem getDoublesInto_keeps (object : Object) (name : String) (buffer : List Double) :
    x.Keeps s (Property.getDoublesInto object name buffer) :=
  .map (getRegistered_yields getDoubles_reader object name _) fun _ => rfl

/-! ## Assignment -/

theorem numberOfNick_keeps {v : Value} (object : Object) (name : String) (type : TypeId)
    (hs : s.loaded = true) (hsound : x.Sound v.cell) (hcount : x.inCell v.cell ≤ s.there) :
    x.Keeps s (Property.numberOfNick object name type v) := by
  refine .then hs (typeId_asks idle_of_inquiry object) fun own =>
    .then hs (idle_question trivial) fun domain => ?_
  refine (ensures_lent (q := .call (.cellGet v.cell .string)) hs ⟨fun _ => rfl, fun _ _ => rfl⟩ rfl
    (hsound.lends hcount)).then ?_
  rintro nick _ rfl
  have hresolve : (native (.enumFromNick domain type nick)).Asks Idle :=
    Program.asks_request.2 ⟨⟨fun _ => rfl, fun _ _ => rfl⟩, rfl⟩
  refine Gives.then hs hresolve fun number => ?_
  split
  · apply Watch.Tries.bind (getString_reader v _ hsound hcount)
    intro held t hend
    obtain ⟨ht, -, hmoves⟩ := hend
    apply (ensures_idle_of_loaded ht takeError_idle).then
    rintro _ _ rfl
    exact hmoves
  · exact gives_pure hs trivial rfl

/-- What is assigned in place of the given value is a new value that is owned. -/
theorem substitute_gives {v : Value} (object : Object) (name : String) (type : TypeId)
    (hs : s.loaded = true) (hsound : x.Sound v.cell) (hcount : x.inCell v.cell ≤ s.there) :
    x.Gives s (Property.substitute object name type v)
      (fun other => (other.map fun w => x.inCell w.cell).getD 0)
      fun other => ∀ w, other = some w → x.Sound w.cell := by
  have hnew (number : Int32) : x.Gives s (do return some (← Value.ofEnum type number))
      (fun other => (other.map fun w => x.inCell w.cell).getD 0)
      fun other => ∀ w, other = some w → x.Sound w.cell := by
    apply Watch.Tries.bind (ofEnum_gives type number)
    intro w t hend
    obtain ⟨ht, hw, hmoves⟩ := hend
    refine ⟨ht, ?_, hmoves⟩
    rintro _ ⟨⟩
    exact hw
  refine .then hs (isEnumType_asks idle_of_inquiry type) fun isEnum => ?_
  split
  · apply Watch.Tries.bind (numberOfNick_keeps object name type hs hsound hcount)
    intro number t hend
    obtain ⟨-, -, hmoves⟩ := hend
    cases hmoves.eq hs
    exact hnew number
  · split
    · apply Watch.Tries.bind (getInt_reader v s hsound hcount)
      intro number t hend
      obtain ⟨-, -, hmoves⟩ := hend
      cases hmoves.eq hs
      exact hnew number
    · refine .try hs (checkTransformable_asks idle_of_inquiry _ _) fun _ => ?_
      exact gives_pure hs (by rintro _ ⟨⟩) rfl

theorem set_keeps {v : Value} (object : Object) (name : String) (hsound : x.Sound v.cell)
    (hcount : x.inCell v.cell ≤ s.there) : x.Keeps s (Property.set object name v) := by
  refine .onTable fun t ht htcount => .onText fun text _ => .try ht (lookup_idle object text)
    fun found => ?_
  have hcount : x.inCell v.cell ≤ t.there := htcount ▸ hcount
  have hassign {w : Value} {u : Standing} (hu : u.loaded = true) (hw : x.Sound w.cell)
      (hwcount : x.inCell w.cell ≤ u.there) :
      x.Keeps u (liftM (native (.setProperty object.handle text w.cell))) := by
    have hasked := ensures_lent (q := .call (.setProperty object.handle text w.cell)) hu
      ⟨fun _ => rfl, fun _ _ => rfl⟩ rfl (hw.lends hwcount)
    refine Watch.tries_lift.2 (hasked.mono ?_)
    rintro _ _ rfl
    exact ⟨hu, trivial, .refl _ 0⟩
  apply Watch.Tries.bind (substitute_gives object name _ ht hsound hcount)
  intro other u hend
  obtain ⟨hu, hother, hmoves⟩ := hend
  cases other with
  | none =>
    cases hmoves.eq ht
    exact hassign ht hsound hcount
  | some other =>
    have hsound' := hother other rfl
    exact Gives.lend hsound' hmoves hu (hassign hu hsound' hmoves.le_there)

end ImageGateway.Resource
