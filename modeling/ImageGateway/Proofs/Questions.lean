-- Questions: requests that only ask the library about types, names and its
-- error buffer, and the parts of the gateway that ask nothing else. Most of
-- them leave the error buffer alone.

import ImageGateway.Proofs.Asks
import ImageGateway.Property.Basic

namespace ImageGateway

/-- A request that asks about types or names, or whether a table is published. -/
def Request.Inquiry : Request → Prop
  | .table | .instanceType _ => True
  | .call (.typeName _) | .call (.fundamental _) | .call (.isA _ _) => True
  | .call (.transformable _ _) | .call (.registered _) | .call (.nicknameFind _) => True
  | _ => False

/-- A request that asks about types, names or messages, or whether a table is published. -/
def Request.Question : Request → Prop
  | .table | .instanceType _ => True
  | .call (.typeName _) | .call (.fundamental _) | .call (.isA _ _) => True
  | .call (.transformable _ _) | .call (.registered _) | .call (.nicknameFind _) => True
  | .call .errorBuffer | .call (.act .errorClear) => True
  | _ => False

theorem Request.question_of_inquiry (q : Request) (h : q.Inquiry) : q.Question := by
  unfold Inquiry at h
  split at h <;> trivial

variable {α : Type} {P : Request → Prop}

/-- What holds of every question holds of an inquiry. -/
theorem inquiry_of (hP : ∀ q : Request, q.Question → P q) (q : Request) (h : q.Inquiry) : P q :=
  hP q (q.question_of_inquiry h)

theorem nativeText_asks (s : String) : (nativeText s).run.Asks P := by
  unfold nativeText
  split <;> trivial

section

variable (hP : ∀ q : Request, q.Inquiry → P q)
include hP

theorem asks_inquiry {q : Request} (hq : q.Inquiry) : (Program.request q).Asks P :=
  Program.asks_request.2 (hP q hq)

theorem requireTable_asks : requireTable.run.Asks P := by
  apply (asks_inquiry hP (q := .table) trivial).then
  intro table
  cases table <;> simp

theorem ifLoaded_asks {p : Program Unit} (h : p.Asks P) : (ifLoaded p).Asks P := by
  apply (asks_inquiry hP (q := .table) trivial).bind
  intro table
  cases table with
  | none => trivial
  | some _ => exact h

theorem typeName_asks (type : TypeId) : (typeName type).run.Asks P :=
  (requireTable_asks hP).try fun _ =>
    (asks_inquiry hP (q := .call (.typeName type)) trivial).then fun _ => trivial

theorem mismatch_asks (expected found : TypeId) :
    (mismatch expected found : Attempt α).run.Asks P :=
  (typeName_asks hP expected).try fun _ => (typeName_asks hP found).try fun _ => trivial

/-! ## Objects -/

theorem typeId_asks (object : Object) : object.typeId.Asks P :=
  asks_inquiry hP (q := .instanceType object.handle) trivial

theorem objectTypeName_asks (object : Object) : object.typeName.run.Asks P :=
  (typeId_asks hP object).then fun type => typeName_asks hP type

theorem nickname_asks (object : Object) : object.nickname.run.Asks P :=
  (requireTable_asks hP).try fun _ => (typeId_asks hP object).then fun type =>
    (asks_inquiry hP (q := .call (.nicknameFind type)) trivial).then fun _ => trivial

theorem describe_asks (object : Object) : object.describe.Asks P := by
  apply (nickname_asks hP object).bind
  rintro (_ | _ | _)
  · apply (objectTypeName_asks hP object).bind
    intro name
    cases name <;> trivial
  · apply (objectTypeName_asks hP object).bind
    intro name
    cases name <;> trivial
  · trivial

theorem isA_asks (object : Object) (type : TypeId) : (object.isA type).run.Asks P :=
  (requireTable_asks hP).try fun _ => (typeId_asks hP object).then fun own =>
    (asks_inquiry hP (q := .call (.isA own type)) trivial).then fun _ => trivial

theorem imageType_asks : Image.type.run.Asks P :=
  (requireTable_asks hP).try fun _ =>
    (asks_inquiry hP (q := .call (.registered .image)) trivial).lift

/-! ## Values and properties -/

theorem expect_asks (value : Value) (type : TypeId) : (value.expect type).run.Asks P := by
  refine (asks_inquiry hP (q := .call (.isA value.type type)) trivial).then fun answer => ?_
  split
  · exact mismatch_asks hP type value.type
  · trivial

theorem checkTransformable_asks (source target : TypeId) :
    (Property.checkTransformable source target).run.Asks P := by
  apply (asks_inquiry hP (q := .call (.transformable source target)) trivial).then
  intro answer
  split
  · exact mismatch_asks hP target source
  · trivial

theorem isEnumType_asks (type : TypeId) : (Property.isEnumType type).Asks P :=
  (asks_inquiry hP (q := .call (.fundamental type)) trivial).bind fun _ => trivial

/-! ## Releases -/

theorem objectRelease_asks {object : Object} (h : P (.call (.unref (some object.handle)))) :
    object.release.Asks P := ifLoaded_asks hP (Program.asks_request.2 h)

theorem blobRelease_asks {blob : Blob} (h : P (.call (.areaUnref blob.handle))) :
    blob.release.Asks P := ifLoaded_asks hP (Program.asks_request.2 h)

theorem valueRelease_asks {value : Value} (h : P (.call (.cellUnset value.cell))) :
    value.release.Asks P := by
  unfold Value.release
  split
  · trivial
  · exact ifLoaded_asks hP (Program.asks_request.2 h)

end

/-! ## Messages -/

section

variable (hP : ∀ q : Request, q.Question → P q)
include hP

theorem takeError_asks : takeError.Asks P :=
  (Program.asks_request.2 (hP (.call .errorBuffer) trivial)).bind fun _ =>
    (Program.asks_request.2 (hP (.call (.act .errorClear)) trivial)).bind fun _ => trivial

/-- A lookup asks the object for the argument, and otherwise questions only. -/
theorem lookup_asks (object : Object) (name : CText)
    (hobject : P (.call (.getArgument object.handle name))) :
    (Property.lookup object name).run.Asks P := by
  have hunknown : (Property.lookup.unknown object name).run.Asks P :=
    (describe_asks (inquiry_of hP) object).then fun _ => (takeError_asks hP).then fun _ => trivial
  refine .then (Program.asks_request.2 hobject) fun found => ?_
  split
  · split
    · trivial
    · exact hunknown
  · exact hunknown

theorem argument_asks {object : Object} {name : String}
    (hobject : ∀ text, P (.call (.getArgument object.handle text))) :
    (Property.argument object name).run.Asks P :=
  (requireTable_asks (inquiry_of hP)).try fun _ => (nativeText_asks name).try fun text =>
    (lookup_asks hP object text (hobject text)).try fun _ =>
      (typeName_asks (inquiry_of hP) _).try fun _ =>
        (isEnumType_asks (inquiry_of hP) _).then fun _ => trivial

end

end ImageGateway
