-- How the outputs of a call are filled. A place has a reader of its kind, and it
-- holds afterwards what that reader answered. What the place held before is given up
-- once the answer is there, and a reading that fails leaves the place alone.

import ImageGateway.Proofs.PropertyReading

namespace ImageGateway

open Program Transcript

/-! ## Places -/

namespace Output

/-- The reader that fills the place. -/
abbrev getter : Output → Getter
  | bool _ => .bool
  | int _ => .int
  | double _ => .double
  | doubles _ | buffer _ => .doubles
  | ints _ => .ints
  | text _ => .text
  | blob _ => .blob
  | image _ => .image

/-- The place with the answer. A buffer takes as many items as fit and keeps the rest. -/
def put : (place : Output) → place.getter.Answer → Output
  | bool _, b => bool b
  | int _, n => int n
  | double _, x => double x
  | doubles _, xs => doubles xs
  | buffer held, xs => buffer (xs.take held.length ++ held.drop xs.length)
  | ints _, xs => ints xs
  | text _, s => text s
  | blob _, b => blob b
  | image _, i => image i

/-- The reference that the place holds is given up. -/
def givenUp : Output → Transcript
  | blob (some b) => [⟨.call (.areaUnref b.handle), ()⟩]
  | image (some i) => [⟨.call (.unref (some i.object.handle)), ()⟩]
  | _ => []

/-- How a property is read into a place: what is said, and what comes of it. -/
inductive Filled (object : Handle) (name : String) (place : Output) :
    Except Failure Output → Transcript → Prop where
  /-- The native side cannot take the name. At most a type is asked for. -/
  | unnameable {said : Transcript} (zero : CText.ofString? name = none)
      (types : ∀ e ∈ said, ∃ which, e.request = .call (.registered which)) :
      Filled object name place (.error (.zeroByte name)) said
  | failed {text : CText} {f : Failure} {said : Transcript}
      (named : CText.ofString? name = some text)
      (got : Got object text place.getter (.error f) said) :
      Filled object name place (.error f) said
  | filled {text : CText} {answer : place.getter.Answer} {said : Transcript}
      (named : CText.ofString? name = some text)
      (got : Got object text place.getter (.ok answer) said) :
      Filled object name place (.ok (place.put answer)) (said ++ place.givenUp)

end Output

/-! ## Names with a zero byte -/

namespace Property

variable {α : Type} {object : Object} {name : String} {said : Transcript}

theorem argument_unnameable {r : Except Failure ArgumentInfo} (hname : CText.ofString? name = none)
    (h : (argument object name).run.Speaks said r) : said = [] ∧ r = .error (.zeroByte name) :=
  speaks_zeroByte hname (speaks_requireTable h)

theorem getWith_unnameable {type : TypeId} {read : Value → Attempt α} {r : Except Failure α}
    (hname : CText.ofString? name = none)
    (h : (getWith object name type read).run.Speaks said r) :
    said = [] ∧ r = .error (.zeroByte name) := by
  obtain ⟨f, hget, rfl⟩ | ⟨_, _, _, -, hget, -⟩ := speaks_try h
  · obtain ⟨rfl, ⟨⟩⟩ := speaks_zeroByte hname (speaks_requireTable hget)
    exact ⟨rfl, rfl⟩
  · obtain ⟨-, ⟨⟩⟩ := speaks_zeroByte hname (speaks_requireTable hget)

theorem getRegistered_unnameable {which : Registered} {read : Value → Attempt α}
    {r : Except Failure α} (hname : CText.ofString? name = none)
    (h : (getRegistered object name which read).run.Speaks said r) :
    (∃ type, said = [⟨.call (.registered which), type⟩]) ∧ r = .error (.zeroByte name) := by
  obtain ⟨type, rest, rfl, hrest⟩ := speaks_call (speaks_requireTable h)
  obtain ⟨rfl, rfl⟩ := getWith_unnameable hname hrest
  exact ⟨⟨type, rfl⟩, rfl⟩

end Property

theorem Getter.readProperty_unnameable {object : Object} {name : String} {said : Transcript}
    {getter : Getter} {r : Except Failure getter.Answer} (hname : CText.ofString? name = none)
    (h : (getter.readProperty object name).run.Speaks said r) :
    r = .error (.zeroByte name) ∧ ∀ e ∈ said, ∃ which, e.request = .call (.registered which) := by
  cases getter with
  | bool | uint64 | double | text =>
    obtain ⟨rfl, rfl⟩ := Property.getWith_unnameable hname h
    exact ⟨rfl, List.forall_mem_nil _⟩
  | ints | doubles | blob | image =>
    obtain ⟨⟨type, rfl⟩, rfl⟩ := Property.getRegistered_unnameable hname h
    exact ⟨rfl, List.forall_mem_singleton.2 ⟨_, rfl⟩⟩
  | int =>
    obtain ⟨_, hargument, rfl⟩ | ⟨_, _, _, -, hargument, -⟩ := speaks_try h
    · obtain ⟨rfl, ⟨⟩⟩ := Property.argument_unnameable hname hargument
      exact ⟨rfl, List.forall_mem_nil _⟩
    · obtain ⟨-, ⟨⟩⟩ := Property.argument_unnameable hname hargument
  | object =>
    obtain ⟨_, hvalue, rfl⟩ | ⟨_, _, _, -, hvalue, -⟩ := speaks_try h
    · obtain ⟨_, hargument, ⟨⟩⟩ | ⟨_, _, _, -, hargument, -⟩ := speaks_try hvalue
      · obtain ⟨rfl, ⟨⟩⟩ := Property.argument_unnameable hname hargument
        exact ⟨rfl, List.forall_mem_nil _⟩
      · obtain ⟨-, ⟨⟩⟩ := Property.argument_unnameable hname hargument
    · obtain ⟨_, -, ⟨⟩⟩ | ⟨_, _, _, -, hargument, -⟩ := speaks_try hvalue
      obtain ⟨-, ⟨⟩⟩ := Property.argument_unnameable hname hargument

namespace Output

variable {object : Object} {name : String} {said : Transcript} {place : Output}

theorem release_speaks (h : place.release.Speaks said ()) : said = place.givenUp := by
  cases place with
  | blob b? =>
    cases b? with
    | none => exact (speaks_done_iff.1 h).1
    | some b =>
      exact speaks_request (q := .call (.areaUnref b.handle)) (by simp) (speaks_ifLoaded h)
  | image i? =>
    cases i? with
    | none => exact (speaks_done_iff.1 h).1
    | some i => exact speaks_releaseObject h
  | _ => exact (speaks_done_iff.1 h).1

/-- A place is filled with the answer of its reader. -/
theorem read_eq (place : Output) (object : Object) (name : String) :
    place.read object name = (do
      let answer ← place.getter.readProperty object name
      liftM place.release
      return place.put answer) := by
  cases place with
  | bool b => rfl
  | int n => rfl
  | double x => rfl
  | doubles xs => rfl
  | buffer xs => exact bind_assoc _ _ _
  | ints xs => rfl
  | text s => rfl
  | blob b => rfl
  | image i => rfl

theorem read_fills {r : Except Failure Output} (h : (place.read object name).run.Speaks said r) :
    place.Filled object.handle name r said := by
  rw [read_eq] at h
  obtain ⟨f, hread, rfl⟩ | ⟨reading, rest, answer, rfl, hread, hrest⟩ := speaks_try h
  · cases hname : CText.ofString? name with
    | none =>
      obtain ⟨⟨⟩, types⟩ := Getter.readProperty_unnameable hname hread
      exact .unnameable hname types
    | some text => exact .failed hname (Getter.readProperty_speaks hname hread)
  · cases hname : CText.ofString? name with
    | none => cases (Getter.readProperty_unnameable hname hread).1
    | some text =>
      obtain ⟨releasing, none, _, rfl, hrelease, hnone⟩ := speaks_then hrest
      obtain ⟨rfl, rfl⟩ := speaks_done_iff.1 hnone
      rw [release_speaks hrelease, List.append_nil]
      exact .filled hname (Getter.readProperty_speaks hname hread)

end Output

end ImageGateway
