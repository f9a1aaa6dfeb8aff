-- Calls that nothing stands in the way of. Where the library has each argument, takes
-- the type of each value and builds the operation, a call runs through: its inputs are
-- assigned in order, and the image that the output holds is the answer. A tile cache
-- is such a call, with those of its options that are set.

import Mathlib.Data.List.Forall2
import ImageGateway.Operation.TileCache
import ImageGateway.Proofs.CallProtocol

namespace ImageGateway

open Program

/-! ## Runs put together -/

namespace Program

variable {ε α β : Type} {first second : Transcript} {a : α}

/-- An attempt that goes well, and what comes after it. -/
theorem runs_after {p : ExceptT ε Program α} {f : α → ExceptT ε Program β} {r : Except ε β}
    (h : p.run.Runs first (.ok a)) (hrest : (f a).run.Runs second r) :
    (p >>= f).run.Runs (first ++ second) r :=
  runs_try_iff.2 (.inr ⟨first, second, a, rfl, h, hrest⟩)

theorem runs_nativeText {s : String} {text : CText} {f : CText → Attempt α} {r : Except Failure α}
    (hs : CText.ofString? s = some text) (h : (f text).run.Runs first r) :
    (nativeText s >>= f).run.Runs first r := by
  unfold nativeText
  rw [hs]
  exact h

end Program

/-- The table of one library under its usual name. -/
def Table.usual : Table := ⟨⟨"libvips.so.42"⟩, none, []⟩

/-- A look that finds the table. -/
def Table.shown (table : Table) : Event := ⟨.table, some table⟩

variable {table : Table}

/-- What is said when a container is given back. -/
def Cell.returning (table : Table) (c : Cell) : Transcript :=
  [table.shown, ⟨.call (.cellUnset c), ()⟩]

/-! ## Inputs -/

/-- How an input gets to the native side: its name there, what is said when its value is made, and
the container of the value. -/
structure Passing where
  name : CText
  making : Transcript
  cell : Cell

namespace Passing

/-- The input gets there so, and the container is one whose content is taken as it is. -/
structure Carries (p : Passing) (input : String × Argument) : Prop where
  named : CText.ofString? input.1 = some p.name
  made : input.2.toValue.run.Runs p.making (.ok ⟨p.cell⟩)
  typed : p.cell.type ≠ .invalid
  plain : p.cell.type ≠ .enumeration

/-- What is said when the operation takes the content of the container. It has an argument of the
name and the type. -/
def offering (table : Table) (operation : Handle) (p : Passing) : Transcript :=
  [table.shown, ⟨.call (.getArgument operation p.name), ⟨0, some ⟨none, p.cell.type⟩, none⟩⟩,
    ⟨.call (.fundamental p.cell.type), p.cell.type⟩,
    ⟨.call (.transformable p.cell.type p.cell.type), 1⟩,
    ⟨.call (.setProperty operation p.name p.cell), ()⟩]

/-- What is said when the input is assigned. -/
def assigning (table : Table) (operation : Handle) (p : Passing) : Transcript :=
  p.making ++ (p.offering table operation ++ p.cell.returning table)

theorem assigning_lasting {operation : Handle} {p : Passing} (h : p.making.Lasting true) :
    (p.assigning table operation).Lasting true := by
  simp [assigning, offering, Cell.returning, Table.shown, Transcript.lasting_append_iff, h,
    Transcript.Lasting, Resource.tableSeen]

/-- The value is made of this payload, once the library has answered some questions. -/
def filled (asked : Transcript) (type : TypeId) (payload : Payload) (name : CText) (number : Nat) :
    Passing where
  name
  making := asked ++ [⟨.call (.cellInit type), some number⟩,
    ⟨.call (.cellSet ⟨some number, type⟩ payload), ()⟩]
  cell := ⟨some number, type⟩

variable {name : CText} {number : Nat} {word : String}

theorem int_carries (n : Int32) (hname : CText.ofString? word = some name) :
    (filled [table.shown] .int (.int n) name number).Carries (word, .int n) where
  named := hname
  made := .ask _ (.ask _ (.ask _ (.done _)))
  typed := (by decide : TypeId.int ≠ .invalid)
  plain := (by decide : TypeId.int ≠ .enumeration)

theorem text_carries {s : String} {content : CText} (hname : CText.ofString? word = some name)
    (hs : CText.ofString? s = some content) :
    (filled [table.shown] .string (.string content) name number).Carries (word, .text s) where
  named := hname
  made := runs_nativeText hs (.ask _ (.ask _ (.ask _ (.done _))))
  typed := (by decide : TypeId.string ≠ .invalid)
  plain := (by decide : TypeId.string ≠ .enumeration)

/-- An image goes under the type that its header names. -/
theorem image_carries {type : TypeId} (image : Image) (hname : CText.ofString? word = some name)
    (htyped : type ≠ .invalid) (hplain : type ≠ .enumeration) :
    (filled [table.shown, ⟨.instanceType image.object.handle, type⟩] type
      (.object image.object.handle) name number).Carries (word, .image image) where
  named := hname
  made := .ask _ (.ask _ (.ask _ (.ask _ (.done _))))
  typed := htyped
  plain := hplain

end Passing

/-- A container that has a type is given back. -/
theorem Value.release_runs (table : Table) {c : Cell} (htyped : c.type ≠ .invalid) :
    (Value.release ⟨c⟩).Runs (c.returning table) () := by
  have hrelease : Value.release ⟨c⟩ = ifLoaded (native (.cellUnset c)) := if_neg htyped
  rw [hrelease]
  exact .ask _ (.ask _ (.done _))

/-- A value of the wanted type is assigned as it is. -/
theorem Property.substitute_runs {object : Object} {name : String} {c : Cell}
    (hplain : c.type ≠ .enumeration) :
    (Property.substitute object name c.type ⟨c⟩).run.Runs
      [⟨.call (.fundamental c.type), c.type⟩, ⟨.call (.transformable c.type c.type), 1⟩]
      (.ok none) := by
  have henum : (isEnumType c.type).Runs [⟨.call (.fundamental c.type), c.type⟩] false := by
    rw [← decide_eq_false hplain]
    exact .ask _ (.done _)
  have hcheck : (checkTransformable c.type c.type).run.Runs
      [⟨.call (.transformable c.type c.type), 1⟩] (.ok ()) := .ask _ (.done _)
  exact runs_then_iff.2 ⟨_, _, false, rfl, henum, runs_after hcheck (.done _)⟩

namespace Operation

variable {operation : Operation} {input : String × Argument} {p : Passing}

theorem set_runs (h : p.Carries input) :
    (operation.set input.1 input.2).run.Runs (p.assigning table operation.object.handle)
      (.ok ()) := by
  have hset : (Property.set operation.object input.1 ⟨p.cell⟩).run.Runs
      (p.offering table operation.object.handle) (.ok ()) :=
    .ask _ (runs_nativeText h.named
      (.ask _ (runs_after (Property.substitute_runs h.plain) (.ask _ (.done _)))))
  exact runs_after h.made (runs_closedBy_iff.2 ⟨_, _, rfl, hset, Value.release_runs table h.typed⟩)

theorem setAll_runs_of_carries {passings : List Passing} {inputs : List (String × Argument)}
    (h : List.Forall₂ Passing.Carries passings inputs) :
    (operation.setAll inputs).run.Runs
      (passings.flatMap (Passing.assigning table operation.object.handle)) (.ok ()) := by
  induction h with
  | nil => exact .done _
  | cons hfirst _ ih => exact runs_after (set_runs hfirst) ih

end Operation

/-! ## The image -/

namespace Transcript

/-- What is said when an argument of the type is taken into a container of its own type. -/
def taking (table : Table) (built : Handle) (name : CText) (type : TypeId) (number : Nat) :
    Transcript :=
  [table.shown, ⟨.call (.getArgument built name), ⟨0, some ⟨none, type⟩, none⟩⟩,
    ⟨.call (.transformable type type), 1⟩, table.shown, ⟨.call (.cellInit type), some number⟩,
    ⟨.call (.getProperty built name ⟨some number, type⟩), ()⟩]

/-- What is said when an image is found in a container for images. -/
def finding (table : Table) (c : Cell) (image : Handle) : Transcript :=
  [table.shown, ⟨.call (.registered .image), c.type⟩, ⟨.call (.isA c.type c.type), 1⟩, table.shown,
    ⟨.call (.isA c.type .object), 1⟩, ⟨.call (.cellGet c .object), some image⟩, table.shown,
    ⟨.call (.ref image), ()⟩, table.shown, ⟨.call (.registered .image), c.type⟩, table.shown,
    ⟨.instanceType image, c.type⟩, ⟨.call (.isA c.type c.type), 1⟩]

/-- What is said when an image is read from an argument that holds one of the type. -/
def fetchingImage (table : Table) (built : Handle) (name : CText) (type : TypeId) (number : Nat)
    (image : Handle) : Transcript :=
  let c : Cell := ⟨some number, type⟩
  [table.shown, ⟨.call (.registered .image), type⟩] ++
    (taking table built name type number ++ (finding table c image ++ c.returning table))

theorem fetchingImage_lasting {built image : Handle} {name : CText} {type : TypeId} {number : Nat} :
    (fetchingImage table built name type number image).Lasting true := by
  simp [fetchingImage, taking, finding, Cell.returning, Table.shown, Lasting, Resource.tableSeen]

end Transcript

theorem Property.getImage_runs {built image : Handle} {word : String} {name : CText} {type : TypeId}
    {number : Nat} (hname : CText.ofString? word = some name) (htyped : type ≠ .invalid) :
    (Property.getImage ⟨built⟩ word).run.Runs
      (.fetchingImage table built name type number image) (.ok (some ⟨⟨image⟩⟩)) := by
  let c : Cell := ⟨some number, type⟩
  have hget : (Property.get ⟨built⟩ word type).run.Runs
      (.taking table built name type number) (.ok ⟨c⟩) :=
    .ask _ (runs_nativeText hname (.ask _ (.ask _ (.ask _ (.ask _ (.ask _ (.done _)))))))
  have hread : (Value.getImage ⟨c⟩).run.Runs (.finding table c image) (.ok (some ⟨⟨image⟩⟩)) :=
    .ask _ (.ask _ (.ask _ (.ask _ (.ask _ (.ask _ (.ask _ (.ask _ (.ask _ (.ask _ (.ask _ (.ask _
      (.ask _ (.done _)))))))))))))
  have hwith : (Property.getWith ⟨built⟩ word type Value.getImage).run.Runs (_ ++ (_ ++ _)) _ :=
    runs_after hget (runs_closedBy_iff.2 ⟨_, _, rfl, hread, Value.release_runs table htyped⟩)
  exact .ask _ (.ask _ hwith)

/-! ## The call -/

namespace Transcript

/-- What is said when the operation is made, its inputs are assigned and it is built. -/
def preparing (table : Table) (name : CText) (operation built : Handle) (passings : List Passing) :
    Transcript :=
  [table.shown, ⟨.call (.operationNew name), some operation⟩] ++
    (passings.flatMap (Passing.assigning table operation) ++
      [table.shown, ⟨.call (.build operation), (0, some built)⟩])

/-- What is said in the whole call, given what is said when its outputs are read. -/
def calling (table : Table) (nickname : String) (name : CText) (operation built : Handle)
    (passings : List Passing) (reading : Transcript) : Transcript :=
  ⟨.log .debug ("vips call " ++ nickname), ()⟩ :: (preparing table name operation built passings ++
    (reading ++ [table.shown, ⟨.call (.unrefOutputs (some built)), ()⟩,
      table.shown, ⟨.call (.unref (some built)), ()⟩]))

theorem calling_lasting {nickname : String} {name : CText} {operation built : Handle}
    {passings : List Passing} {reading : Transcript}
    (hpassings : ∀ p ∈ passings, p.making.Lasting true) (hreading : reading.Lasting true) :
    (calling table nickname name operation built passings reading).Lasting true := by
  have hassigning :
      Lasting true (passings.flatMap (Passing.assigning table operation)) := by
    induction passings with
    | nil => trivial
    | cons p rest ih =>
      obtain ⟨hp, hrest⟩ := List.forall_mem_cons.1 hpassings
      exact lasting_append_iff.2 ⟨Passing.assigning_lasting hp, ih hrest⟩
  simp [calling, preparing, Table.shown, lasting_append_iff, hassigning, hreading, Lasting,
    Resource.tableSeen]

end Transcript

namespace Operation

variable {nickname : String} {inputs : List (String × Argument)} {name : CText}
  {operation built : Handle} {passings : List Passing}

theorem prepare_completes (hname : CText.ofString? nickname = some name)
    (hinputs : List.Forall₂ Passing.Carries passings inputs) :
    (prepare nickname inputs).run.Runs (.preparing table name operation built passings)
      (.ok ⟨⟨built⟩, nickname⟩) := by
  have hnew : (new nickname).run.Runs [table.shown, ⟨.call (.operationNew name), some operation⟩]
      (.ok ⟨⟨operation⟩, nickname⟩) :=
    .ask _ (runs_nativeText hname (.ask _ (.done _)))
  have hset : (setAll ⟨⟨operation⟩, nickname⟩ inputs).run.Runs
      (passings.flatMap (Passing.assigning table operation)) (.ok ()) :=
    setAll_runs_of_carries hinputs
  exact runs_after hnew (runs_then_iff.2 ⟨_, _, .ok (), rfl, hset, .ask _ (.ask _ (.done _))⟩)

/-- A call for an image that meets nothing in its way answers the image. -/
theorem imageCall_completes {word : String} {out : CText} {type : TypeId} {number : Nat}
    {image : Handle} (hname : CText.ofString? nickname = some name)
    (hinputs : List.Forall₂ Passing.Carries passings inputs)
    (hword : CText.ofString? word = some out) (htyped : type ≠ .invalid) :
    (callFor nickname ⟨inputs, [(word, .image none)]⟩ >>= firstImage).run.Runs
      (.calling table nickname name operation built passings
        (.fetchingImage table built out type number image)) (.ok ⟨⟨image⟩⟩) := by
  have hread : ((Output.image none).read ⟨built⟩ word).run.Runs
      (.fetchingImage table built out type number image) (.ok (.image (some ⟨⟨image⟩⟩))) := by
    rw [← List.append_nil (Transcript.fetchingImage ..)]
    exact runs_after (Property.getImage_runs hword htyped) (.done _)
  have hreadAll : (readAll ⟨⟨built⟩, nickname⟩ [(word, .image none)]).Runs
      (.fetchingImage table built out type number image)
      (.ok (), [.image (some ⟨⟨image⟩⟩)]) := by
    rw [← List.append_nil (Transcript.fetchingImage ..)]
    exact runs_bind_iff.2 ⟨_, _, _, rfl, hread, .done _⟩
  have hclear : (unrefOutputs ⟨⟨built⟩, nickname⟩).run.Runs
      [table.shown, ⟨.call (.unrefOutputs (some built)), ()⟩] (.ok ()) := .ask _ (.ask _ (.done _))
  have hrelease : (Object.release ⟨built⟩).Runs
      [table.shown, ⟨.call (.unref (some built)), ()⟩] () := .ask _ (.ask _ (.done _))
  have hcall : (call nickname ⟨inputs, [(word, .image none)]⟩).Runs
      (.calling table nickname name operation built passings
        (.fetchingImage table built out type number image))
      (.ok (), [.image (some ⟨⟨image⟩⟩)]) := by
    refine runs_bind_iff.2 ⟨[_], _, (), rfl, .ask _ (.done _), ?_⟩
    refine runs_bind_iff.2 ⟨_, _, _, rfl, prepare_completes hname hinputs, ?_⟩
    refine runs_bind_iff.2 ⟨_, _, _, rfl, hreadAll, ?_⟩
    refine runs_bind_iff.2 ⟨_, _, _, rfl, hclear, ?_⟩
    exact runs_bind_iff.2 ⟨_, [], _, rfl, hrelease, .done _⟩
  rw [← List.append_nil (Transcript.calling ..)]
  exact runs_after (runs_then_iff.2 ⟨_, _, _, (List.append_nil _).symm, hcall, .done _⟩) (.done _)

end Operation

/-! ## Tile caches -/

/-- A whole number as an input, if there is one. -/
def ifGiven (name : String) (n? : Option Int32) : List (String × Argument) :=
  n?.toList.map fun n => (name, .int n)

/-- The image is assigned first, and then the options that are set are, in this order. -/
theorem TileOptions.callOptions_eq (tiles : TileOptions) (image : Image) :
    tiles.callOptions image =
      ⟨("in", .image image) :: (ifGiven "max_tiles" tiles.maxTiles ++
          ifGiven "tile_height" tiles.tileHeight ++ ifGiven "tile_width" tiles.tileWidth),
        [("out", .image none)]⟩ := by
  obtain ⟨maxTiles, tileHeight, tileWidth⟩ := tiles
  cases maxTiles <;> cases tileHeight <;> cases tileWidth <;> rfl

namespace Passing

/-- A whole number, if there is one. -/
def ofOption (table : Table) (word : String) (number : Nat) (n? : Option Int32) : List Passing :=
  n?.toList.map fun n => filled [table.shown] .int (.int n) (.cut (Text.Utf8.encode word)) number

theorem ofOption_carries {word : String} {number : Nat} (n? : Option Int32)
    (hname : CText.ofString? word = some (.cut (Text.Utf8.encode word))) :
    List.Forall₂ Carries (ofOption table word number n?) (ifGiven word n?) := by
  cases n? with
  | none => exact .nil
  | some n => exact .cons (int_carries n hname) .nil

/-- An image and the options of its tile cache. -/
def ofTiles (table : Table) (image : Handle) (type : TypeId) (tiles : TileOptions) : List Passing :=
  filled [table.shown, ⟨.instanceType image, type⟩] type (.object image)
      (.cut (Text.Utf8.encode "in")) 1 ::
    (ofOption table "max_tiles" 2 tiles.maxTiles ++
      ofOption table "tile_height" 3 tiles.tileHeight ++
      ofOption table "tile_width" 4 tiles.tileWidth)

end Passing

/-- What is said when a tile cache is put behind an image. -/
def Transcript.cachingTiles (table : Table) (image cached : Handle) (type : TypeId)
    (tiles : TileOptions) : Transcript :=
  .calling table "cache" (.cut (Text.Utf8.encode "cache")) ⟨"cache"⟩ ⟨"built cache"⟩
    (Passing.ofTiles table image type tiles)
    (.fetchingImage table ⟨"built cache"⟩ (.cut (Text.Utf8.encode "out")) type 5 cached)

theorem Transcript.cachingTiles_lasting {image cached : Handle} {type : TypeId}
    {tiles : TileOptions} : (cachingTiles table image cached type tiles).Lasting true := by
  refine calling_lasting (fun p hp => ?_) fetchingImage_lasting
  simp only [Passing.ofTiles, Passing.ofOption, List.mem_cons, List.mem_append, List.mem_map] at hp
  obtain rfl | (⟨_, -, rfl⟩ | ⟨_, -, rfl⟩) | ⟨_, -, rfl⟩ := hp <;>
    simp [Passing.filled, Table.shown, Lasting, Resource.tableSeen]

/-- Whatever the options, an image is cached where nothing stands in the way. -/
theorem tileCache_completes {image cached : Handle} {type : TypeId} (tiles : TileOptions)
    (htyped : type ≠ .invalid) (hplain : type ≠ .enumeration) :
    (tileCache ⟨⟨image⟩⟩ tiles).run.Runs (.cachingTiles table image cached type tiles)
      (.ok ⟨⟨cached⟩⟩) := by
  unfold tileCache
  rw [TileOptions.callOptions_eq]
  refine Operation.imageCall_completes rfl (.cons ?_ ?_) rfl htyped
  · exact Passing.image_carries ⟨⟨image⟩⟩ rfl htyped hplain
  · exact List.rel_append (List.rel_append (Passing.ofOption_carries _ rfl)
      (Passing.ofOption_carries _ rfl)) (Passing.ofOption_carries _ rfl)

end ImageGateway
