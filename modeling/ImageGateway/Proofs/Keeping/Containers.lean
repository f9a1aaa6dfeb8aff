-- Containers. A value gives back what was put into it, to the reader of its
-- kind and to no other, for as long as nobody alters its cell. An array that
-- the library cannot count is refused before anything is called.

import ImageGateway.Proofs.Keeping.Values

namespace ImageGateway

/-! ## Arrays that are too long -/

namespace Argument

/-- The length of an array. -/
def length? : Argument → Option Nat
  | ints xs => some xs.size
  | doubles xs => some xs.size
  | images xs => some xs.length
  | _ => none

open Keeper

variable {lib : Keeper} {s : Store} {n : Nat}

/-- An array that the library cannot count is refused after a look at the table. -/
theorem toValue_refused {a : Argument} (hlength : a.length? = some n)
    (hn : Int32.maxValue.toInt < n) :
    (lib.guard fun q => q = .table).Tries s a.toValue (fun _ _ => False) fun failure _ =>
      failure = .arrayTooLarge n := by
  have hrefused {k : Int32 → Attempt Value} : (lib.guard fun q => q = .table).Tries s
      (do requireTable; let m ← Value.countOf n; k m) (fun _ _ => False) fun failure _ =>
        failure = .arrayTooLarge n := by
    refine tries_requireTable rfl ?_
    unfold Value.countOf
    rw [if_neg (by omega)]
    exact rfl
  cases a <;> cases hlength <;> exact hrefused

/-- An array that the library can count is not refused for its length. -/
theorem toValue_counted {a : Argument} (hlength : a.length? = some n)
    (hn : n ≤ Int32.maxValue.toInt) :
    lib.watch.Tries s a.toValue (fun _ _ => True) fun failure _ =>
      ∀ m, failure ≠ .arrayTooLarge m := by
  cases a with
  | ints xs =>
    cases hlength
    exact (Content.make_tries (c := .argument (.ints xs)) hn).mono (fun _ _ _ => trivial)
      fun _ _ h => h.elim
  | doubles xs =>
    cases hlength
    exact (Content.make_tries (c := .argument (.doubles xs)) hn).mono (fun _ _ _ => trivial)
      fun _ _ h => h.elim
  | images images =>
    cases hlength
    refine tries_requireTable trivial (tries_countOf hn (tries_registered trivial ?_))
    refine (ensures_any (Value.make _)).then fun v t _ => tries_ask trivial fun _ _ =>
      tries_ask trivial fun slots _ => ?_
    split
    · exact (ensures_any _).then fun _ _ _ => trivial
    · exact (ensures_any _).then fun _ _ _ m => nofun
  | _ => cases hlength

end Argument

/-! ## Containers -/

/-- A library that keeps what it is given, with the built-in types and any enums and types of
objects besides. Whatever fits into a value is put into one. For as long as nobody alters its cell,
the reader for it gives back exactly what was put in, and every other reader fails, names its own
type and that of the value, and looks at no payload. An array is refused for its length, before
anything is called, if and only if the library cannot count it. -/
theorem a_value_gives_back_what_was_put_in (lib : Keeper) (s : Store) :
    (∀ (c : Content), c.Fits lib.types.toTypeTable →
      ∀ making made, c.make.run.Runs making made → lib.watch.Admits s making →
      ∃ v, made = .ok v ∧ v.type = c.type lib.types.toTypeTable ∧
        ∀ between, lib.watch.Admits (lib.watch.after s making) between →
        (∀ e ∈ between, ∀ k, v.cell.number = some k → ¬ e.request.Alters k) →
        ∀ (getter : Getter) reading result, (getter.read v).run.Runs reading result →
        lib.watch.Admits (lib.watch.after s (making ++ between)) reading →
        (c.Suits lib.types.toTypeTable getter → ∃ answer, result = .ok answer ∧
          c.Given (lib.Tells (lib.watch.after s (making ++ between ++ reading))) getter answer) ∧
        (¬ c.Suits lib.types.toTypeTable getter →
          result = .error (.typeMismatch (lib.shown (getter.type lib.types.toTypeTable))
            (lib.shown (c.type lib.types.toTypeTable))) ∧
          ∀ e ∈ reading, e.request.Payloadless)) ∧
    ∀ (a : Argument) n, a.length? = some n →
      ∀ events made, a.toValue.run.Runs events made → lib.watch.Admits s events →
      (Int32.maxValue.toInt < n → made = .error (.arrayTooLarge n) ∧ events.calls = []) ∧
      (n ≤ Int32.maxValue.toInt → ∀ m, made ≠ .error (.arrayTooLarge m)) := by
  refine ⟨?_, ?_⟩
  · intro c hfits making made hmaking hlib
    obtain ⟨v, rfl, hmade⟩ := Keeper.ok_of_runs (Content.make_tries hfits) hmaking hlib
    refine ⟨v, rfl, hmade.type, ?_⟩
    intro between hbetween huntouched getter reading result hreading hadmits
    have hkept := hmade.after hbetween huntouched
    rw [← Watch.after_append] at hkept
    constructor
    · intro hsuits
      obtain ⟨answer, rfl, hsame, hgiven⟩ :=
        Keeper.ok_of_runs (Content.read_tries hfits hkept hsuits) hreading hadmits
      rw [Watch.after_append, hsame]
      exact ⟨answer, rfl, hgiven.mono fun _ _ => Keeper.tells_of_blobs⟩
    · intro hsuits
      obtain ⟨hpayloadless, hend⟩ := Keeper.of_runs (Content.read_refused hfits hkept hsuits)
        hreading hadmits
      obtain ⟨_, -, hfalse⟩ | ⟨failure, rfl, rfl⟩ := hend
      · exact hfalse.elim
      · exact ⟨rfl, hpayloadless⟩
  · intro a n hlength events made hrun hlib
    constructor
    · intro hn
      obtain ⟨htable, hend⟩ := Keeper.of_runs (Argument.toValue_refused hlength hn) hrun hlib
      obtain ⟨_, -, hfalse⟩ | ⟨failure, rfl, rfl⟩ := hend
      · exact hfalse.elim
      · refine ⟨rfl, List.filterMap_eq_nil_iff.2 fun e he => ?_⟩
        rw [htable e he]
    · rintro hn m rfl
      obtain ⟨_, hcases, -⟩ | ⟨failure, hcases, hother⟩ :=
        (Keeper.of_runs (Argument.toValue_counted hlength hn) hrun hlib).2
      · cases hcases
      · cases hcases
        exact hother m rfl

/-! ### Two bytes, and an array that is too long -/

/-- Two bytes are put into a value. -/
def bytesMade : Transcript :=
  let table : Event := ⟨.table, some ⟨⟨"libvips.so.42"⟩, none, []⟩⟩
  let type : TypeId := ⟨2004⟩
  [table, ⟨.call (.blobCopy [1, 2]), some ⟨"b"⟩⟩, table, ⟨.call (.registered .blob), type⟩,
    ⟨.call (.cellInit type), some 1⟩, ⟨.call (.cellSet ⟨some 1, type⟩ (.boxed ⟨"b"⟩)), ()⟩,
    table, ⟨.call (.areaUnref ⟨"b"⟩), ()⟩]

/-- They are read as a blob. -/
def bytesRead : Transcript :=
  let table : Event := ⟨.table, some ⟨⟨"libvips.so.42"⟩, none, []⟩⟩
  let type : TypeId := ⟨2004⟩
  [table, ⟨.call (.registered .blob), type⟩, ⟨.call (.isA type type), 1⟩,
    ⟨.call (.cellGet ⟨some 1, type⟩ .boxedCopy), some ⟨"b"⟩⟩]

/-- They are no text. -/
def bytesRefused : Transcript :=
  let table : Event := ⟨.table, some ⟨⟨"libvips.so.42"⟩, none, []⟩⟩
  let name := TypeSystem.builtIn.name
  [table, ⟨.call (.isA ⟨2004⟩ .string), 0⟩, table, ⟨.call (.typeName .string), name .string⟩,
    table, ⟨.call (.typeName ⟨2004⟩), name ⟨2004⟩⟩]

/-- All that is asked of an array that is too long. -/
def longRefused : Transcript := [⟨.table, some ⟨⟨"libvips.so.42"⟩, none, []⟩⟩]

theorem two_bytes_come_back :
    (∃ answer, (Except.ok (some ⟨⟨"b"⟩⟩) : Except Failure (Option Blob)) = .ok answer ∧
      (Content.argument (.bytes [1, 2])).Given (Keeper.builtIn.Tells
        (Keeper.builtIn.watch.after .blank (bytesMade ++ [] ++ bytesRead))) .blob answer) ∧
    (∀ e ∈ bytesRefused, e.request.Payloadless) ∧
    (Argument.ints (.replicate (2 ^ 31) 0)).toValue.run.Runs longRefused
      (.error (.arrayTooLarge (2 ^ 31))) ∧ longRefused.calls = [] := by
  obtain ⟨hcontents, harrays⟩ := a_value_gives_back_what_was_put_in .builtIn .blank
  have hmaking : (Content.argument (.bytes [1, 2])).make.run.Runs bytesMade
      (.ok ⟨⟨some 1, ⟨2004⟩⟩⟩) :=
    .ask _ (.ask _ (.ask _ (.ask _ (.ask _ (.ask _ (.ask _ (.ask _ (.done _))))))))
  have hreading : (Getter.blob.read ⟨⟨some 1, ⟨2004⟩⟩⟩).run.Runs bytesRead (.ok (some ⟨⟨"b"⟩⟩)) :=
    .ask _ (.ask _ (.ask _ (.ask _ (.done _))))
  have hrefused : (Getter.text.read ⟨⟨some 1, ⟨2004⟩⟩⟩).run.Runs bytesRefused
      (.error (.typeMismatch (Keeper.builtIn.shown .string) (Keeper.builtIn.shown ⟨2004⟩))) :=
    .ask _ (.ask _ (.ask _ (.ask _ (.ask _ (.ask _ (.done _))))))
  have hlong : (Argument.ints (.replicate (2 ^ 31) 0)).toValue.run.Runs longRefused
      (.error (.arrayTooLarge (2 ^ 31))) := .ask _ (.done _)
  have hmade : Keeper.builtIn.watch.Admits .blank bytesMade :=
    ⟨rfl, ⟨_, rfl, by rintro (⟨_, ⟨⟩⟩ | ⟨_, _, ⟨⟩⟩)⟩, rfl, rfl, ⟨fun _ _ => rfl, fun _ => rfl⟩,
      trivial, rfl, trivial, trivial⟩
  have hread : Keeper.builtIn.watch.Admits (Keeper.builtIn.watch.after .blank bytesMade)
      bytesRead :=
    ⟨rfl, rfl, ⟨fun _ => .refl, fun _ => by decide⟩, by rintro _ ⟨⟩; rfl, trivial⟩
  have hother : ¬ Keeper.builtIn.types.IsA ⟨2004⟩ .string := fun h =>
    absurd (TypeSystem.root_unique (by decide) (by decide) h (.step rfl .refl))
      (by decide : TypeId.string ≠ .boxed)
  have hasked : Keeper.builtIn.watch.Admits (Keeper.builtIn.watch.after .blank bytesMade)
      bytesRefused :=
    ⟨rfl, ⟨fun h => absurd rfl h, fun h => absurd h hother⟩, rfl, rfl, rfl, rfl, trivial⟩
  obtain ⟨v, hv, -, hback⟩ := hcontents (.argument (.bytes [1, 2])) trivial _ _ hmaking hmade
  cases hv
  have hwaiting := hback [] trivial (by simp)
  refine ⟨(hwaiting .blob _ _ hreading hread).1 trivial,
    ((hwaiting .text _ _ hrefused hasked).2 id).2, hlong,
    ((harrays _ _ rfl _ _ hlong ⟨rfl, trivial⟩).1 (by decide)).2⟩

end ImageGateway
