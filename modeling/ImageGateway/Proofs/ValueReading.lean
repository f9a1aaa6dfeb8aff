-- What is said when a value is read, and what the reader answers. It looks at the
-- type first, and its answer is what the accessor of its kind told of the cell. An
-- object comes with a reference of its own, which is given up again where the object
-- was to be an image and is none.

import ImageGateway.Proofs.Keeping.Values
import ImageGateway.Proofs.Speech

namespace ImageGateway

open Program
open SpokenWatch (shownName)

/-! ## Looks -/

/-- How a cell is asked with an accessor, after a look at its type: what is said, and what comes of
it. -/
inductive Looked (c : Cell) (type : TypeId) (accessor : Accessor) :
    Except Failure accessor.Reply → Transcript → Prop where
  | told {answer : Int32} {told : accessor.Reply} (is : answer ≠ 0) :
      Looked c type accessor (.ok told)
        [⟨.call (.isA c.type type), answer⟩, ⟨.call (.cellGet c accessor), told⟩]
  /-- The cell is not of the type. The failure names both. -/
  | mismatch {typeName cellName : Option CText} :
      Looked c type accessor (.error (.typeMismatch (shownName typeName) (shownName cellName)))
        [⟨.call (.isA c.type type), 0⟩, ⟨.call (.typeName type), typeName⟩,
          ⟨.call (.typeName c.type), cellName⟩]

/-- A new reference to the object that was told, if one was. -/
def Transcript.referred : Except Failure (Option Handle) → Transcript
  | .ok (some handle) => [⟨.call (.ref handle), ()⟩]
  | _ => []

@[simp] theorem Transcript.referred_some (handle : Handle) :
    referred (.ok (some handle)) = [⟨.call (.ref handle), ()⟩] := rfl

@[simp] theorem Transcript.referred_none : referred (.ok none) = [] := rfl

@[simp] theorem Transcript.referred_error (f : Failure) : referred (.error f) = [] := rfl

/-- How an object is taken for an image, after a look at its own type. One that is none is given
up. -/
inductive Recognised (object : Handle) : Except Failure Image → Transcript → Prop where
  | image {type own : TypeId} {answer : Int32} (is : answer ≠ 0) :
      Recognised object (.ok ⟨⟨object⟩⟩)
        [⟨.call (.registered .image), type⟩, ⟨.instanceType object, own⟩,
          ⟨.call (.isA own type), answer⟩]
  | other {type own again : TypeId} {typeName ownName : Option CText} :
      Recognised object (.error (.typeMismatch (shownName typeName) (shownName ownName)))
        [⟨.call (.registered .image), type⟩, ⟨.instanceType object, own⟩,
          ⟨.call (.isA own type), 0⟩, ⟨.call (.typeName type), typeName⟩,
          ⟨.instanceType object, again⟩, ⟨.call (.typeName again), ownName⟩,
          ⟨.call (.unref (some object)), ()⟩]

/-- How a reader reads a cell: what is said, and what it answers. -/
inductive ReadOut (c : Cell) :
    (getter : Getter) → Except Failure getter.Answer → Transcript → Prop where
  | bool {r : Except Failure Int32} {said : Transcript}
      (looked : Looked c .boolean .boolean r said) :
      ReadOut c .bool (r.map fun n => n != 0) said
  /-- An enum gives its number, whatever its type. -/
  | enumeration {n : Int32} :
      ReadOut c .int (.ok n) [⟨.call (.fundamental c.type), .enumeration⟩,
        ⟨.call (.cellGet c .enumeration), n⟩]
  | int {ancestor : TypeId} {r : Except Failure Int32} {said : Transcript}
      (other : ancestor ≠ .enumeration) (looked : Looked c .int .int r said) :
      ReadOut c .int r (⟨.call (.fundamental c.type), ancestor⟩ :: said)
  | uint64 {r : Except Failure UInt64} {said : Transcript}
      (looked : Looked c .uint64 .uint64 r said) :
      ReadOut c .uint64 r said
  | double {r : Except Failure Double} {said : Transcript}
      (looked : Looked c .double .double r said) :
      ReadOut c .double r said
  | text {r : Except Failure (Option CText)} {said : Transcript}
      (looked : Looked c .string .string r said) :
      ReadOut c .text (r.map (Option.map CText.lossy)) said
  | ints {type : TypeId} {r : Except Failure (Block Int32)} {said : Transcript}
      (looked : Looked c type .ints r said) :
      ReadOut c .ints (r.map Block.toList) (⟨.call (.registered .intArray), type⟩ :: said)
  | doubles {type : TypeId} {r : Except Failure (Block Double)} {said : Transcript}
      (looked : Looked c type .doubles r said) :
      ReadOut c .doubles (r.map Block.toList) (⟨.call (.registered .doubleArray), type⟩ :: said)
  | blob {type : TypeId} {r : Except Failure (Option Handle)} {said : Transcript}
      (looked : Looked c type .boxedCopy r said) :
      ReadOut c .blob (r.map (Option.map Blob.mk)) (⟨.call (.registered .blob), type⟩ :: said)
  | object {r : Except Failure (Option Handle)} {said : Transcript}
      (looked : Looked c .object .object r said) :
      ReadOut c .object (r.map (Option.map Object.mk)) (said ++ Transcript.referred r)
  /-- The cell is none for images. -/
  | mismatch {type : TypeId} {typeName cellName : Option CText} :
      ReadOut c .image (.error (.typeMismatch (shownName typeName) (shownName cellName)))
        [⟨.call (.registered .image), type⟩, ⟨.call (.isA c.type type), 0⟩,
          ⟨.call (.typeName type), typeName⟩, ⟨.call (.typeName c.type), cellName⟩]
  /-- The cell is one for images, and there is no object in it, or the look at it failed. -/
  | imageless {type : TypeId} {answer : Int32} {r : Except Failure (Option Handle)}
      {said : Transcript} (is : answer ≠ 0) (looked : Looked c .object .object r said)
      (none : ∀ handle, r ≠ .ok (some handle)) :
      ReadOut c .image (r.map fun _ => .none)
        (⟨.call (.registered .image), type⟩ :: ⟨.call (.isA c.type type), answer⟩ :: said)
  | image {type : TypeId} {answer : Int32} {object : Handle} {r : Except Failure Image}
      {said recognising : Transcript} (is : answer ≠ 0)
      (looked : Looked c .object .object (.ok (some object)) said)
      (recognised : Recognised object r recognising) :
      ReadOut c .image (r.map some)
        (⟨.call (.registered .image), type⟩ :: ⟨.call (.isA c.type type), answer⟩ :: said ++
          ⟨.call (.ref object), ()⟩ :: recognising)

/-! ## The parts of a reading -/

variable {v : Value} {type : TypeId} {accessor : Accessor} {said : Transcript}

theorem Value.expect_speaks {r : Except Failure Unit} (h : (v.expect type).run.Speaks said r) :
    (∃ answer : Int32, answer ≠ 0 ∧ said = [⟨.call (.isA v.cell.type type), answer⟩] ∧
      r = .ok ()) ∨
    ∃ typeName cellName, said = [⟨.call (.isA v.cell.type type), 0⟩,
        ⟨.call (.typeName type), typeName⟩, ⟨.call (.typeName v.cell.type), cellName⟩] ∧
      r = .error (.typeMismatch (shownName typeName) (shownName cellName)) := by
  obtain ⟨answer, rest, rfl, hrest⟩ := speaks_call h
  by_cases hanswer : answer = 0
  · subst hanswer
    obtain ⟨typeName, cellName, rfl, rfl⟩ := speaks_mismatch hrest
    exact .inr ⟨typeName, cellName, rfl, rfl⟩
  · rw [if_neg (by simpa using hanswer)] at hrest
    obtain ⟨rfl, rfl⟩ := speaks_done_iff.1 hrest
    exact .inl ⟨answer, hanswer, rfl, rfl⟩

theorem Value.readAs_speaks {r : Except Failure accessor.Reply}
    (h : (v.readAs type accessor).run.Speaks said r) : Looked v.cell type accessor r said := by
  obtain ⟨_, hexpect, rfl⟩ | ⟨first, rest, _, rfl, hexpect, hrest⟩ := speaks_try h
  · obtain ⟨_, -, -, ⟨⟩⟩ | ⟨typeName, cellName, rfl, ⟨⟩⟩ := Value.expect_speaks hexpect
    exact .mismatch
  · obtain ⟨answer, is, rfl, -⟩ | ⟨_, _, -, ⟨⟩⟩ := Value.expect_speaks hexpect
    obtain ⟨told, rfl, htold⟩ := speaks_lift hrest
    rw [speaks_request (q := .call (.cellGet v.cell accessor)) (by simp) htold]
    exact .told is

/-- A reader that makes something of what the accessor tells. -/
theorem Value.mapAs_speaks {α : Type} {f : accessor.Reply → α} {r : Except Failure α}
    (h : (do return f (← v.readAs type accessor) : Attempt α).run.Speaks said r) :
    ∃ told, Looked v.cell type accessor told said ∧ r = told.map f := by
  obtain ⟨told, hread, rfl⟩ := speaks_map h
  exact ⟨told, Value.readAs_speaks hread, rfl⟩

theorem Object.borrow_speaks {handle? : Option Handle} {r : Except Failure (Option Object)}
    (h : (Object.borrow? handle?).run.Speaks said r) :
    r = .ok (handle?.map Object.mk) ∧ said = Transcript.referred (.ok handle?) := by
  cases handle? with
  | none =>
    obtain ⟨rfl, rfl⟩ := speaks_done_iff.1 h
    exact ⟨rfl, rfl⟩
  | some handle =>
    obtain ⟨_, rest, rfl, hrest⟩ := speaks_call (speaks_requireTable h)
    obtain ⟨rfl, rfl⟩ := speaks_done_iff.1 hrest
    exact ⟨rfl, rfl⟩

theorem Value.getObject_speaks {r : Except Failure (Option Object)}
    (h : v.getObject.run.Speaks said r) :
    ∃ told looking, Looked v.cell .object .object told looking ∧
      r = told.map (Option.map Object.mk) ∧ said = looking ++ Transcript.referred told := by
  obtain ⟨f, hread, rfl⟩ | ⟨looking, rest, handle?, rfl, hread, hborrow⟩ :=
    speaks_try (speaks_requireTable h)
  · exact ⟨.error f, said, Value.readAs_speaks hread, rfl, (List.append_nil said).symm⟩
  · obtain ⟨rfl, rfl⟩ := Object.borrow_speaks hborrow
    exact ⟨.ok handle?, looking, Value.readAs_speaks hread, rfl, rfl⟩

theorem Object.isA_speaks {object : Object} {r : Except Failure Bool}
    (h : (object.isA type).run.Speaks said r) :
    ∃ own answer, said = [⟨.instanceType object.handle, own⟩, ⟨.call (.isA own type), answer⟩] ∧
      r = .ok (answer != 0) := by
  obtain ⟨own, rest, rfl, hown⟩ :=
    speaks_ask (q := .instanceType object.handle) (by simp) (speaks_requireTable h)
  obtain ⟨answer, last, rfl, hlast⟩ := speaks_call hown
  obtain ⟨rfl, rfl⟩ := speaks_done_iff.1 hlast
  exact ⟨own, answer, rfl, rfl⟩

theorem Object.typeName_speaks {object : Object} {r : Except Failure String}
    (h : object.typeName.run.Speaks said r) :
    ∃ own name, said = [⟨.instanceType object.handle, own⟩, ⟨.call (.typeName own), name⟩] ∧
      r = .ok (shownName name) := by
  obtain ⟨own, rest, rfl, hown⟩ := speaks_ask (q := .instanceType object.handle) (by simp) h
  obtain ⟨name, rfl, rfl⟩ := speaks_typeName hown
  exact ⟨own, name, rfl, rfl⟩

theorem Image.ofObject_speaks {object : Object} {r : Except Failure Image}
    (h : (Image.ofObject object).run.Speaks said r) : Recognised object.handle r said := by
  obtain ⟨trying, rest, tried, rfl, htrying, hrest⟩ := speaks_then h
  obtain ⟨_, htype, -⟩ | ⟨asked, asking, type, rfl, htype, hasking⟩ :=
    speaks_try (p := Image.type) htrying
  · obtain ⟨_, ⟨⟩, -⟩ := speaks_lift (speaks_requireTable htype)
  obtain ⟨_, ⟨⟩, hregistered⟩ := speaks_lift (speaks_requireTable htype)
  obtain rfl := speaks_request (q := .call (.registered .image)) (by simp) hregistered
  obtain ⟨_, his, -⟩ | ⟨looked, naming, _, rfl, his, hnaming⟩ := speaks_try hasking
  · obtain ⟨_, _, -, ⟨⟩⟩ := Object.isA_speaks his
  obtain ⟨own, answer, rfl, ⟨⟩⟩ := Object.isA_speaks his
  by_cases hanswer : answer = 0
  · subst hanswer
    rw [if_neg (by simp)] at hnaming
    obtain ⟨typeName, found, rfl, hfound⟩ := speaks_named hnaming
    obtain ⟨_, hown, -⟩ | ⟨ownNamed, last, _, rfl, hown, hlast⟩ := speaks_try hfound
    · obtain ⟨_, _, -, ⟨⟩⟩ := Object.typeName_speaks hown
    obtain ⟨again, ownName, rfl, ⟨⟩⟩ := Object.typeName_speaks hown
    obtain ⟨rfl, rfl⟩ := speaks_done_iff.1 hlast
    obtain ⟨releasing, none, _, rfl, hrelease, hnone⟩ := speaks_then hrest
    obtain ⟨rfl, rfl⟩ := speaks_done_iff.1 hnone
    rw [speaks_releaseObject hrelease]
    exact .other
  · rw [if_pos (by simpa using hanswer)] at hnaming
    obtain ⟨rfl, rfl⟩ := speaks_done_iff.1 hnaming
    obtain ⟨rfl, rfl⟩ := speaks_done_iff.1 hrest
    exact .image hanswer

theorem Value.getInt_speaks {r : Except Failure Int32} (h : v.getInt.run.Speaks said r) :
    ReadOut v.cell .int r said := by
  obtain ⟨ancestor, rest, rfl, hrest⟩ := speaks_call (speaks_requireTable h)
  by_cases henum : ancestor = .enumeration
  · subst henum
    obtain ⟨n, rfl, hn⟩ := speaks_lift hrest
    rw [speaks_request (q := .call (.cellGet v.cell .enumeration)) (by simp) hn]
    exact .enumeration
  · rw [if_neg henum] at hrest
    exact .int henum (Value.readAs_speaks hrest)

theorem Value.getImage_speaks {r : Except Failure (Option Image)}
    (h : v.getImage.run.Speaks said r) : ReadOut v.cell .image r said := by
  obtain ⟨type, rest, rfl, hrest⟩ := speaks_call (speaks_requireTable h)
  obtain ⟨_, hexpect, rfl⟩ | ⟨expecting, reading, _, rfl, hexpect, hreading⟩ := speaks_try hrest
  · obtain ⟨_, -, -, ⟨⟩⟩ | ⟨typeName, cellName, rfl, ⟨⟩⟩ := Value.expect_speaks hexpect
    exact .mismatch
  obtain ⟨answer, is, rfl, -⟩ | ⟨_, _, -, ⟨⟩⟩ := Value.expect_speaks hexpect
  obtain ⟨f, hobject, rfl⟩ | ⟨taking, recognising, found, rfl, hobject, hfound⟩ :=
    speaks_try hreading
  · obtain ⟨told, looking, looked, htold, rfl⟩ := Value.getObject_speaks hobject
    cases told with
    | ok handle? => cases htold
    | error f =>
      cases htold
      rw [Transcript.referred_error, List.append_nil]
      exact .imageless is looked nofun
  · obtain ⟨told, looking, looked, htold, rfl⟩ := Value.getObject_speaks hobject
    cases told with
    | error f => cases htold
    | ok handle? =>
      cases htold
      cases handle? with
      | none =>
        obtain ⟨rfl, rfl⟩ := speaks_done_iff.1 hfound
        rw [Transcript.referred_none, List.append_nil, List.append_nil]
        exact .imageless is looked nofun
      | some handle =>
        obtain ⟨answered, himage, rfl⟩ := speaks_map hfound
        rw [Transcript.referred_some, List.append_assoc]
        exact .image is looked (Image.ofObject_speaks himage)

/-! ## A reading -/

theorem Getter.read_speaks {getter : Getter} {r : Except Failure getter.Answer}
    (h : (getter.read v).run.Speaks said r) : ReadOut v.cell getter r said := by
  cases getter with
  | bool =>
    obtain ⟨told, looked, rfl⟩ := Value.mapAs_speaks (speaks_requireTable h)
    exact .bool looked
  | int => exact Value.getInt_speaks h
  | uint64 => exact .uint64 (Value.readAs_speaks (speaks_requireTable h))
  | double => exact .double (Value.readAs_speaks (speaks_requireTable h))
  | text =>
    obtain ⟨told, looked, rfl⟩ := Value.mapAs_speaks (speaks_requireTable h)
    exact .text looked
  | ints =>
    obtain ⟨type, rest, rfl, hrest⟩ := speaks_call (speaks_requireTable h)
    obtain ⟨told, looked, rfl⟩ := Value.mapAs_speaks hrest
    exact .ints looked
  | doubles =>
    obtain ⟨type, rest, rfl, hrest⟩ := speaks_call (speaks_requireTable h)
    obtain ⟨told, looked, rfl⟩ := Value.mapAs_speaks hrest
    exact .doubles looked
  | blob =>
    obtain ⟨type, rest, rfl, hrest⟩ := speaks_call (speaks_requireTable h)
    obtain ⟨told, looked, rfl⟩ := Value.mapAs_speaks hrest
    exact .blob looked
  | object =>
    obtain ⟨told, looking, looked, rfl, rfl⟩ := Value.getObject_speaks h
    exact .object looked
  | image => exact Value.getImage_speaks h

end ImageGateway
