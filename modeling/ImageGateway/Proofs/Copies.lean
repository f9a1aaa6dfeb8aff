-- Copies of what a cell holds. A reader of texts or arrays asks an accessor for
-- the content, and its answer is made of the reply alone. What happens to the
-- cell after that does not change it.

import ImageGateway.Foreign.Fetch
import ImageGateway.Proofs.Runs

namespace ImageGateway

open Program

/-- An attempt that ends with a look into a cell, and whose answer is a copy of what it saw. -/
def EndsWith {α : Type} (accessor : Accessor) (copy : accessor.Reply → α) (c : Cell)
    (p : Attempt α) : Prop :=
  ∀ events a, p.run.Runs events (.ok a) →
    ∃ before reply, events = before ++ [⟨.call (.cellGet c accessor), reply⟩] ∧ a = copy reply

/-- An attempt whose answer is a copy of what a cell held. After the look at it the cell is unset at
most. -/
def CopiesOut {α : Type} (accessor : Accessor) (copy : accessor.Reply → α) (p : Attempt α) : Prop :=
  ∀ events a, p.run.Runs events (.ok a) →
    ∃ (before : Transcript) (c : Cell) (reply : accessor.Reply) (closing : Transcript),
      events = before ++ ⟨.call (.cellGet c accessor), reply⟩ :: closing ∧ a = copy reply ∧
        (closing.calls = [] ∨ closing.calls = [.cellUnset c])

section

variable {α β : Type} {accessor : Accessor} {copy : accessor.Reply → α} {c : Cell}

theorem endsWith_get : EndsWith accessor id c (liftM (native (.cellGet c accessor))) := by
  intro events a hrun
  obtain ⟨_, ⟨⟩, hget⟩ := runs_lift_iff.1 hrun
  obtain rfl := runs_request_iff.1 hget
  exact ⟨[], a, rfl, rfl⟩

theorem EndsWith.after {p : Attempt β} {f : β → Attempt α}
    (hf : ∀ b, EndsWith accessor copy c (f b)) : EndsWith accessor copy c (p >>= f) := by
  intro events a hrun
  rcases runs_try_iff.1 hrun with ⟨_, _, ⟨⟩⟩ | ⟨first, second, b, rfl, -, hsecond⟩
  obtain ⟨before, reply, rfl, rfl⟩ := hf b second a hsecond
  exact ⟨first ++ before, reply, by simp, rfl⟩

theorem EndsWith.map {f : α → β} {p : Attempt α} (hp : EndsWith accessor copy c p) :
    EndsWith accessor (f ∘ copy) c (do return f (← p)) := by
  intro events b hrun
  rcases runs_try_iff.1 hrun with ⟨_, _, ⟨⟩⟩ | ⟨first, second, a, rfl, hfirst, hsecond⟩
  obtain ⟨rfl, hb⟩ := runs_done_iff.1 hsecond
  cases hb
  obtain ⟨before, reply, rfl, rfl⟩ := hp first a hfirst
  exact ⟨before, reply, by simp, rfl⟩

theorem EndsWith.copiesOut {p : Attempt α} (hp : EndsWith accessor copy c p) :
    CopiesOut accessor copy p := by
  intro events a hrun
  obtain ⟨before, reply, rfl, rfl⟩ := hp events a hrun
  exact ⟨before, c, reply, [], rfl, rfl, .inl rfl⟩

theorem CopiesOut.after {p : Attempt β} {f : β → Attempt α}
    (hf : ∀ b, CopiesOut accessor copy (f b)) : CopiesOut accessor copy (p >>= f) := by
  intro events a hrun
  rcases runs_try_iff.1 hrun with ⟨_, _, ⟨⟩⟩ | ⟨first, second, b, rfl, -, hsecond⟩
  obtain ⟨before, c, reply, closing, rfl, rfl, hclosing⟩ := hf b second a hsecond
  exact ⟨first ++ before, c, reply, closing, by simp, rfl, hclosing⟩

theorem CopiesOut.map {f : α → β} {p : Attempt α} (hp : CopiesOut accessor copy p) :
    CopiesOut accessor (f ∘ copy) (do return f (← p)) := by
  intro events b hrun
  rcases runs_try_iff.1 hrun with ⟨_, _, ⟨⟩⟩ | ⟨first, second, a, rfl, hfirst, hsecond⟩
  obtain ⟨rfl, hb⟩ := runs_done_iff.1 hsecond
  cases hb
  obtain ⟨before, c, reply, closing, rfl, rfl, hclosing⟩ := hp first a hfirst
  exact ⟨before, c, reply, closing, by simp, rfl, hclosing⟩

/-- The release of a value unsets its cell at most. -/
theorem release_runs {v : Value} {events : Transcript} (hrun : v.release.Runs events ()) :
    events.calls = [] ∨ events.calls = [.cellUnset v.cell] := by
  unfold Value.release at hrun
  split at hrun
  · obtain ⟨rfl, -⟩ := runs_done_iff.1 hrun
    exact .inl rfl
  · obtain ⟨first, second, look, rfl, hlook, hunset⟩ := runs_bind_iff.1 hrun
    obtain rfl := runs_request_iff.1 hlook
    cases look with
    | none =>
      obtain ⟨rfl, -⟩ := runs_done_iff.1 hunset
      exact .inl rfl
    | some table =>
      obtain rfl := runs_request_iff.1 hunset
      exact .inr rfl

theorem lend_copiesOut {v : Value} {read : Value → Attempt α}
    (hread : EndsWith accessor copy v.cell (read v)) :
    CopiesOut accessor copy (v.lend read) := by
  intro events a hrun
  obtain ⟨first, closing, rfl, hfirst, hrelease⟩ := runs_closedBy_iff.1 hrun
  obtain ⟨before, reply, rfl, rfl⟩ := hread first a hfirst
  exact ⟨before, v.cell, reply, closing, by simp, rfl, release_runs hrelease⟩

theorem getWith_copiesOut {read : Value → Attempt α} (object : Object) (name : String)
    (type : TypeId) (hread : ∀ v, EndsWith accessor copy v.cell (read v)) :
    CopiesOut accessor copy (Property.getWith object name type read) :=
  .after fun v => lend_copiesOut (hread v)

theorem getRegistered_copiesOut {read : Value → Attempt α} (object : Object) (name : String)
    (which : Registered) (hread : ∀ v, EndsWith accessor copy v.cell (read v)) :
    CopiesOut accessor copy (Property.getRegistered object name which read) :=
  .after fun _ => .after fun type => getWith_copiesOut object name type hread

end

/-! ## Texts and arrays -/

/-- The readers of texts and arrays. -/
inductive Copier : {α : Type} → (accessor : Accessor) → (accessor.Reply → α) → Attempt α → Prop
  | text (v : Value) : Copier .string (Option.map CText.lossy) v.getString
  | ints (v : Value) : Copier .ints Block.toList v.getInts
  | doubles (v : Value) : Copier .doubles Block.toList v.getDoubles
  | propertyText (object : Object) (name : String) :
      Copier .string (Option.map CText.lossy) (Property.getString object name)
  | propertyInts (object : Object) (name : String) :
      Copier .ints Block.toList (Property.getInts object name)
  | propertyDoubles (object : Object) (name : String) :
      Copier .doubles Block.toList (Property.getDoubles object name)
  | propertyDoublesInto (object : Object) (name : String) (buffer : List Double) :
      Copier .doubles
        (fun block => (min block.toList.length buffer.length,
          Property.overwrite buffer block.toList))
        (Property.getDoublesInto object name buffer)
  | foreignText (object : Object) (name : String) :
      Copier .stringCopy id (Property.copyText object name)

theorem getString_endsWith (v : Value) :
    EndsWith .string (Option.map CText.lossy) v.cell v.getString :=
  .after fun _ => (EndsWith.after fun _ => endsWith_get).map

theorem getInts_endsWith (v : Value) : EndsWith .ints Block.toList v.cell v.getInts :=
  .after fun _ => .after fun _ => (EndsWith.after fun _ => endsWith_get).map

theorem getDoubles_endsWith (v : Value) : EndsWith .doubles Block.toList v.cell v.getDoubles :=
  .after fun _ => .after fun _ => (EndsWith.after fun _ => endsWith_get).map

/-- Every text and every array that is read is a copy of what the cell held. -/
theorem Copier.copiesOut {α : Type} {accessor : Accessor} {copy : accessor.Reply → α}
    {p : Attempt α} (h : Copier accessor copy p) : CopiesOut accessor copy p := by
  cases h with
  | text v => exact (getString_endsWith v).copiesOut
  | ints v => exact (getInts_endsWith v).copiesOut
  | doubles v => exact (getDoubles_endsWith v).copiesOut
  | propertyText object name => exact getWith_copiesOut object name .string getString_endsWith
  | propertyInts object name => exact getRegistered_copiesOut object name .intArray getInts_endsWith
  | propertyDoubles object name =>
    exact getRegistered_copiesOut object name .doubleArray getDoubles_endsWith
  | propertyDoublesInto object name buffer =>
    exact CopiesOut.map
      (f := fun values => (min values.length buffer.length, Property.overwrite buffer values))
      (getRegistered_copiesOut object name .doubleArray getDoubles_endsWith)
  | foreignText object name =>
    exact getWith_copiesOut object name .string fun v => .after fun _ => endsWith_get

end ImageGateway
