-- A configuration from a document. It is the default configuration with those fields
-- replaced that the document gives. A document of another shape, with a value of the
-- wrong type, or with a known key twice at its level is refused as a whole.

import ImageGateway.Config
import ImageGateway.Proofs.Documents.Records

namespace ImageGateway

open Json

/-! ## The slots of the three records -/

/-- A path is given as a text. -/
def LibraryPaths.MeansPath (tree : Tree) (path : Path) : Prop :=
  ∃ s, MeansText tree s ∧ Path.ofString s = path

def LibraryPaths.slots : List (Slot LibraryPaths) := [
  ⟨"vips", _, MeansOptional MeansPath, vips, fun paths path => { paths with vips := path }⟩,
  ⟨"gobject", _, MeansOptional MeansPath, gobject,
    fun paths path => { paths with gobject := path }⟩]

def CacheLimits.slots : List (Slot CacheLimits) := [
  ⟨"max_operations", _, MeansOptional MeansInt32, maxOperations,
    fun limits n => { limits with maxOperations := n }⟩,
  ⟨"max_mem", _, MeansOptional MeansUInt64, maxMem, fun limits n => { limits with maxMem := n }⟩,
  ⟨"max_files", _, MeansOptional MeansInt32, maxFiles,
    fun limits n => { limits with maxFiles := n }⟩]

def Config.slots : List (Slot Config) := [
  ⟨"program_name", _, MeansText, programName, fun c name => { c with programName := name }⟩,
  ⟨"library", _, MeansRecord LibraryPaths.slots { }, library,
    fun c paths => { c with library := paths }⟩,
  ⟨"leak_detection", _, MeansBoolean, leakDetection, fun c on => { c with leakDetection := on }⟩,
  ⟨"concurrency", _, MeansOptional MeansInt32, concurrency,
    fun c n => { c with concurrency := n }⟩,
  ⟨"cache", _, MeansRecord CacheLimits.slots { }, cache,
    fun c limits => { c with cache := limits }⟩]

theorem LibraryPaths.slots_lawful : Lawful slots where
  nodup := by decide
  get_set := by simp [slots]
  get_set_of_ne := by simp [slots]
  ext := by
    rintro ⟨vips, gobject⟩ ⟨vips', gobject'⟩ h
    simpa [slots] using h

theorem CacheLimits.slots_lawful : Lawful slots where
  nodup := by decide
  get_set := by simp [slots]
  get_set_of_ne := by simp [slots]
  ext := by
    rintro ⟨_, _, _⟩ ⟨_, _, _⟩ h
    simpa [slots] using h

theorem Config.slots_lawful : Lawful slots where
  nodup := by decide
  get_set := by simp [slots]
  get_set_of_ne := by simp [slots]
  ext := by
    rintro ⟨_, _, _, _, _⟩ ⟨_, _, _, _, _⟩ h
    simpa [slots] using h

theorem LibraryPaths.read_readsAs : ReadsAs read (MeansRecord slots { }) := by
  have hpath : ReadsAs readPath (MeansOptional MeansPath) :=
    ((readText_readsAs "path string").map Path.ofString).optional
  refine readRecord_readsAs _ _ ?_ slots_lawful
  exact .cons (Field.of_fills hpath) (.cons (Field.of_fills hpath) .nil)

theorem CacheLimits.read_readsAs : ReadsAs read (MeansRecord slots { }) := by
  refine readRecord_readsAs _ _ ?_ slots_lawful
  exact .cons (Field.of_fills readInt32_readsAs.optional)
    (.cons (Field.of_fills readUInt64_readsAs.optional)
      (.cons (Field.of_fills readInt32_readsAs.optional) .nil))

theorem Config.read_readsAs : ReadsAs read (MeansRecord slots { }) := by
  refine readRecord_readsAs _ _ ?_ slots_lawful
  exact .cons (Field.of_fills (readText_readsAs "a string"))
    (.cons (Field.of_fills LibraryPaths.read_readsAs)
      (.cons (Field.of_fills readBoolean_readsAs)
        (.cons (Field.of_fills readInt32_readsAs.optional)
          (.cons (Field.of_fills CacheLimits.read_readsAs) .nil))))

namespace Config

variable {document : String} {tree : Tree} {members members' : List (String × Tree)}
  {config : Config}

theorem ofJson_eq_ok_iff (h : SpellsDocument (Text.Utf8.encode document) tree) :
    ofJson document = .ok config ↔ MeansRecord slots { } tree config := by
  rw [← readDocument_eq_ok_iff read_readsAs h config]
  unfold ofJson
  cases readDocument read document with
  | error problem => exact ⟨nofun, nofun⟩
  | ok config' =>
    show Except.ok config' = .ok config ↔ _
    rw [Except.ok.injEq, Except.ok.injEq]

/-- Whatever is wrong with a document, the failure says that it is about the configuration. -/
theorem ofJson_error {failure : Failure} (h : ofJson document = .error failure) :
    ∃ problem, failure = .config problem := by
  unfold ofJson at h
  cases hread : readDocument read document with
  | error problem =>
    rw [hread] at h
    cases h
    exact ⟨problem, rfl⟩
  | ok config =>
    rw [hread] at h
    cases h

/-! ## Objects -/

/-- The paths and the limits stand in objects of their own. -/
def Sectioned (members : List (String × Tree)) : Prop :=
  ∀ tree, ("library", tree) ∈ members ∨ ("cache", tree) ∈ members → ∃ inner, tree = .object inner

/-- No known key is repeated at its level. -/
structure UnrepeatedThroughout (members : List (String × Tree)) : Prop where
  top : Unrepeated slots members
  library : ∀ inner, ("library", .object inner) ∈ members → Unrepeated LibraryPaths.slots inner
  cache : ∀ inner, ("cache", .object inner) ∈ members → Unrepeated CacheLimits.slots inner

/-- Every known member has a value of its type and range. -/
structure WellTyped (members : List (String × Tree)) : Prop where
  programName : ∀ tree, ("program_name", tree) ∈ members → ∃ s, MeansText tree s
  leakDetection : ∀ tree, ("leak_detection", tree) ∈ members → ∃ b, MeansBoolean tree b
  concurrency : ∀ tree, ("concurrency", tree) ∈ members →
    ∃ n?, MeansOptional MeansInt32 tree n?
  library : ∀ inner, ("library", .object inner) ∈ members → Typed LibraryPaths.slots inner
  cache : ∀ inner, ("cache", .object inner) ∈ members → Typed CacheLimits.slots inner

theorem typed_iff :
    Typed slots members ↔
      (∀ tree, ("program_name", tree) ∈ members → ∃ s, MeansText tree s) ∧
      (∀ tree, ("library", tree) ∈ members →
        ∃ paths, MeansRecord LibraryPaths.slots { } tree paths) ∧
      (∀ tree, ("leak_detection", tree) ∈ members → ∃ b, MeansBoolean tree b) ∧
      (∀ tree, ("concurrency", tree) ∈ members → ∃ n?, MeansOptional MeansInt32 tree n?) ∧
      ∀ tree, ("cache", tree) ∈ members →
        ∃ limits, MeansRecord CacheLimits.slots { } tree limits := by
  simp only [Typed, slots, List.forall_mem_cons, List.not_mem_nil, false_imp_iff, implies_true,
    and_true]

theorem throughout_of_overrides (hunrepeated : Unrepeated slots members)
    (hover : Overrides slots { } members config) :
    UnrepeatedThroughout members ∧ WellTyped members := by
  have htyped := (exists_overrides_iff slots_lawful hunrepeated).1 ⟨config, hover⟩
  obtain ⟨hname, hlibrary, hleak, hconcurrency, hcache⟩ := typed_iff.1 htyped
  have hpaths inner (h : ("library", .object inner) ∈ members) :=
    (exists_means_object_iff LibraryPaths.slots_lawful).1 (hlibrary _ h)
  have hlimits inner (h : ("cache", .object inner) ∈ members) :=
    (exists_means_object_iff CacheLimits.slots_lawful).1 (hcache _ h)
  exact ⟨⟨hunrepeated, fun inner h => (hpaths inner h).1, fun inner h => (hlimits inner h).1⟩,
    ⟨hname, hleak, hconcurrency, fun inner h => (hpaths inner h).2,
      fun inner h => (hlimits inner h).2⟩⟩

theorem exists_overrides_of_throughout (hsections : Sectioned members)
    (hunrepeated : UnrepeatedThroughout members) (htyped : WellTyped members) :
    ∃ config, Overrides slots { } members config := by
  refine (exists_overrides_iff slots_lawful hunrepeated.top).2 (typed_iff.2
    ⟨htyped.programName, fun tree h => ?_, htyped.leakDetection, htyped.concurrency,
      fun tree h => ?_⟩)
  · obtain ⟨inner, rfl⟩ := hsections tree (.inl h)
    exact (exists_means_object_iff LibraryPaths.slots_lawful).2
      ⟨hunrepeated.library inner h, htyped.library inner h⟩
  · obtain ⟨inner, rfl⟩ := hsections tree (.inr h)
    exact (exists_means_object_iff CacheLimits.slots_lawful).2
      ⟨hunrepeated.cache inner h, htyped.cache inner h⟩

/-! ## Other orders -/

/-- Two values under a key that are the same up to the order of what stands in a section, and up to
what no section knows. -/
inductive Alike : String → Tree → Tree → Prop where
  | same {key : String} {tree : Tree} : Alike key tree tree
  | library {inner inner' : List (String × Tree)}
      (h : Rearranged LibraryPaths.slots (fun _ => Eq) inner inner') :
      Alike "library" (.object inner) (.object inner')
  | cache {inner inner' : List (String × Tree)}
      (h : Rearranged CacheLimits.slots (fun _ => Eq) inner inner') :
      Alike "cache" (.object inner) (.object inner')

theorem means_iff_of_alike {slot : Slot Config} (hslot : slot ∈ slots) {tree tree' : Tree}
    (h : Alike slot.key tree tree') (a : slot.Value) : slot.means tree a ↔ slot.means tree' a := by
  generalize hkey : slot.key = key at h
  cases h with
  | same => rfl
  | library h =>
    have hlibrary : slots[1] ∈ slots := List.getElem_mem _
    obtain rfl := slots_lawful.eq_of_key hlibrary hslot hkey
    exact h.means_iff
  | cache h =>
    have hcache : slots[4] ∈ slots := List.getElem_mem _
    obtain rfl := slots_lawful.eq_of_key hcache hslot hkey
    exact h.means_iff

theorem means_iff_of_rearranged (h : Rearranged slots Alike members members') :
    MeansRecord slots { } (.object members) config ↔
      MeansRecord slots { } (.object members') config :=
  and_congr h.unrepeated_iff
    (h.overrides_iff fun _ hslot _ _ halike a => means_iff_of_alike hslot halike a)

/-- The numeral of one digit. -/
def four : Numeral := ⟨false, ⟨[52], nofun, List.all_eq_true.1 rfl⟩, nofun, none, none⟩

theorem leakDetection_spelled : SpellsMember
    (34 :: (Text.Utf8.encode "leak_detection" ++ 34 :: ([] ++ 58 :: ([] ++ [116, 114, 117, 101]))))
    ("leak_detection", .boolean true) :=
  .mk (spellsText_of_plain (by decide)) blank_nil blank_nil .yes

theorem concurrency_spelled : SpellsMember
    (34 :: (Text.Utf8.encode "concurrency" ++ 34 :: ([] ++ 58 :: ([] ++ four.bytes))))
    ("concurrency", .number four) :=
  .mk (spellsText_of_plain (by decide)) blank_nil blank_nil (.number four)

theorem unknown_spelled : SpellsMember
    (34 :: (Text.Utf8.encode "x" ++ 34 :: ([] ++ 58 :: ([] ++ [110, 117, 108, 108]))))
    ("x", .null) :=
  .mk (spellsText_of_plain (by decide)) blank_nil blank_nil .null

/-- A configuration in two members. -/
def twoMembers : String := "\x7b\"leak_detection\":true,\"concurrency\":4\x7d"

theorem twoMembers_spelled : SpellsDocument (Text.Utf8.encode twoMembers)
    (.object [("leak_detection", .boolean true), ("concurrency", .number four)]) := by
  have hspelled := SpellsDocument.mk blank_nil (.object blank_nil (.more leakDetection_spelled
    blank_nil blank_nil (.last concurrency_spelled blank_nil))) blank_nil
  refine Eq.mp (congrArg (SpellsDocument · _) ?_) hspelled
  decide

/-- The same in the other order, with a member that nobody knows between them. -/
def otherOrder : String := "\x7b\"concurrency\":4,\"x\":null,\"leak_detection\":true\x7d"

theorem otherOrder_spelled : SpellsDocument (Text.Utf8.encode otherOrder)
    (.object [("concurrency", .number four), ("x", .null), ("leak_detection", .boolean true)]) := by
  have hspelled := SpellsDocument.mk blank_nil (.object blank_nil (.more concurrency_spelled
    blank_nil blank_nil (.more unknown_spelled blank_nil blank_nil
      (.last leakDetection_spelled blank_nil)))) blank_nil
  refine Eq.mp (congrArg (SpellsDocument · _) ?_) hspelled
  decide

end Config

end ImageGateway
