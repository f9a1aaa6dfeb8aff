-- The calls that the gateway makes to the native libraries, each with its
-- arguments and the type of its reply.

import ImageGateway.Native.Basic
import ImageGateway.Native.Symbol

namespace ImageGateway

/-- What a setter puts into a cell. -/
inductive Payload where
  | boolean (n : Int32)
  | int (n : Int32)
  | uint64 (n : UInt64)
  | double (x : Double)
  | string (text : CText)
  | enumeration (n : Int32)
  | boxed (blob : Handle)
  | object (object : Handle)
  | ints (xs : List Int32)
  | doubles (xs : List Double)
  deriving DecidableEq

/-- An array that belongs to the library. No items stands for a null pointer, and then `count`
means nothing. -/
structure Block (α : Type) where
  items : Option (List α)
  count : Int32
  deriving DecidableEq

/-- What a getter reads from a cell. -/
inductive Accessor where
  | boolean
  | int
  | uint64
  | double
  | string
  /-- A new copy of the string, which the caller has to free. -/
  | stringCopy
  | enumeration
  /-- A new reference to the boxed value. -/
  | boxedCopy
  | object
  | ints
  | doubles
  deriving DecidableEq, Repr

abbrev Accessor.Reply : Accessor → Type
  | .boolean | .int | .enumeration => Int32
  | .uint64 => UInt64
  | .double => Double
  | .string | .stringCopy => Option CText
  | .boxedCopy | .object => Option Handle
  | .ints => Block Int32
  | .doubles => Block Double

/-- A type that the image library registers when it starts. -/
inductive Registered where
  | image
  | source
  | target
  | blob
  | intArray
  | doubleArray
  | imageArray
  deriving DecidableEq, Repr

/-- A setting of the whole process. -/
inductive Setting where
  /-- Report leaked references at the end. -/
  | leak (on : Bool)
  /-- Worker threads for each pipeline. -/
  | concurrency (n : Int32)
  | progress (on : Bool)
  /-- Bytes that a loader reads from a pipe at most, and -1 for no limit. -/
  | pipeReadLimit (n : Int64)
  /-- Operations in the cache, at most. -/
  | cacheMax (n : Int32)
  /-- Bytes held by the cached operations, at most. -/
  | cacheMaxMem (n : UInt64)
  /-- Files held open by the cached operations, at most. -/
  | cacheMaxFiles (n : Int32)
  /-- Print the cache at the end. -/
  | cacheDump (on : Bool)
  /-- Log what the cache finds and what it misses. -/
  | cacheTrace (on : Bool)
  deriving DecidableEq, Repr

/-- A number that the library keeps about the whole process. -/
inductive Gauge where
  | concurrency
  | trackedMem
  | trackedMemHighwater
  | trackedAllocs
  | discThreshold
  | cacheMax
  | cacheMaxMem
  | cacheMaxFiles
  | cacheSize
  deriving DecidableEq, Repr

abbrev Gauge.Reply : Gauge → Type
  | .trackedMem | .trackedMemHighwater | .discThreshold | .cacheMaxMem => UInt64
  | .concurrency | .trackedAllocs | .cacheMax | .cacheMaxFiles | .cacheSize => Int32

/-- A call without arguments and without an answer. -/
inductive Action where
  | shutdown
  | threadShutdown
  | errorClear
  | errorFreeze
  | errorThaw
  | cacheDropAll
  | cachePrint
  deriving DecidableEq, Repr

/-- A size of an image. -/
inductive Extent where
  | width
  | height
  | bands
  deriving DecidableEq, Repr

/-- Which way an image file goes. -/
inductive Direction where
  | load
  | save
  deriving DecidableEq, Repr

/-- What the library says about a property: its own name for it and the type of its values. -/
structure PropertySpec where
  name : Option CText
  type : TypeId
  deriving DecidableEq

/-- The answer to the lookup of an argument. `flags` is missing if the argument has no class. -/
structure Lookup where
  status : Int32
  spec : Option PropertySpec
  flags : Option UInt32
  deriving DecidableEq

/-- A call of a native entry point. An argument of type `Option` may be a null pointer. -/
inductive Call where
  | cellInit (type : TypeId)
  | cellUnset (cell : Cell)
  | cellSet (cell : Cell) (payload : Payload)
  | cellGet (cell : Cell) (accessor : Accessor)
  /-- Makes an array of `n` empty image slots in the cell. -/
  | makeSlots (cell : Cell) (n : Int32)
  /-- Asks for the image slots of the cell. -/
  | slots (cell : Cell)
  | typeName (type : TypeId)
  | fundamental (type : TypeId)
  | isA (type ancestor : TypeId)
  | transformable (source target : TypeId)
  | registered (which : Registered)
  | ref (object : Handle)
  | unref (object : Option Handle)
  | areaUnref (blob : Handle)
  | getProperty (object : Handle) (name : CText) (cell : Cell)
  | setProperty (object : Handle) (name : CText) (cell : Cell)
  | getArgument (object : Handle) (name : CText)
  | unrefOutputs (object : Option Handle)
  | nicknameFind (type : TypeId)
  | enumFromNick (domain : Option CText) (type : TypeId) (nick : Option CText)
  | operationNew (nickname : CText)
  /-- Gives up a reference to the operation and leaves one to the built operation, if any. -/
  | build (operation : Handle)
  | sourceFromBlob (blob : Handle)
  | targetToMemory
  | blobCopy (bytes : List UInt8)
  | blobGet (blob : Handle)
  | extent (which : Extent) (image : Handle)
  | findCodec (direction : Direction) (filename : CText)
  | start (program : CText)
  | versionString
  | errorBuffer
  | apply (setting : Setting)
  | read (gauge : Gauge)
  | act (action : Action)
  | error (domain format message : CText)
  | errorSystem (code : Int32) (domain format message : CText)
  deriving DecidableEq

namespace Call

abbrev Reply : Call → Type
  /- The number of the initialised cell, or none if the library left it empty. -/
  | cellInit _ => Option Nat
  | cellGet _ accessor => accessor.Reply
  /- Whether there are slots. -/
  | slots _ => Bool
  | typeName _ | nicknameFind _ | versionString | errorBuffer | findCodec _ _ => Option CText
  | fundamental _ | registered _ => TypeId
  /- A C boolean. -/
  | isA _ _ | transformable _ _ => Int32
  | getArgument _ _ => Lookup
  | enumFromNick _ _ _ | extent _ _ | start _ => Int32
  | operationNew _ | sourceFromBlob _ | targetToMemory | blobCopy _ => Option Handle
  /- The status, and the operation that is there afterwards. -/
  | build _ => Int32 × Option Handle
  | blobGet _ => Option (List UInt8)
  | read gauge => gauge.Reply
  | cellUnset _ | cellSet _ _ | makeSlots _ _ | ref _ | unref _ | areaUnref _ => Unit
  | getProperty _ _ _ | setProperty _ _ _ | unrefOutputs _ | apply _ | act _ => Unit
  | error _ _ _ | errorSystem _ _ _ _ => Unit

end Call

def Payload.entry : Payload → String
  | .boolean _ => "g_value_set_boolean"
  | .int _ => "g_value_set_int"
  | .uint64 _ => "g_value_set_uint64"
  | .double _ => "g_value_set_double"
  | .string _ => "g_value_set_string"
  | .enumeration _ => "g_value_set_enum"
  | .boxed _ => "g_value_set_boxed"
  | .object _ => "g_value_set_object"
  | .ints _ => "vips_value_set_array_int"
  | .doubles _ => "vips_value_set_array_double"

def Accessor.entry : Accessor → String
  | .boolean => "g_value_get_boolean"
  | .int => "g_value_get_int"
  | .uint64 => "g_value_get_uint64"
  | .double => "g_value_get_double"
  | .string => "g_value_get_string"
  | .stringCopy => "g_value_dup_string"
  | .enumeration => "g_value_get_enum"
  | .boxedCopy => "g_value_dup_boxed"
  | .object => "g_value_get_object"
  | .ints => "vips_value_get_array_int"
  | .doubles => "vips_value_get_array_double"

/-- The entry point that tells the number of a registered type. -/
def Registered.entry : Registered → String
  | .image => "vips_image_get_type"
  | .source => "vips_source_get_type"
  | .target => "vips_target_get_type"
  | .blob => "vips_blob_get_type"
  | .intArray => "vips_array_int_get_type"
  | .doubleArray => "vips_array_double_get_type"
  | .imageArray => "vips_array_image_get_type"

def Setting.entry : Setting → String
  | .leak _ => "vips_leak_set"
  | .concurrency _ => "vips_concurrency_set"
  | .progress _ => "vips_progress_set"
  | .pipeReadLimit _ => "vips_pipe_read_limit_set"
  | .cacheMax _ => "vips_cache_set_max"
  | .cacheMaxMem _ => "vips_cache_set_max_mem"
  | .cacheMaxFiles _ => "vips_cache_set_max_files"
  | .cacheDump _ => "vips_cache_set_dump"
  | .cacheTrace _ => "vips_cache_set_trace"

def Gauge.entry : Gauge → String
  | .concurrency => "vips_concurrency_get"
  | .trackedMem => "vips_tracked_get_mem"
  | .trackedMemHighwater => "vips_tracked_get_mem_highwater"
  | .trackedAllocs => "vips_tracked_get_allocs"
  | .discThreshold => "vips_get_disc_threshold"
  | .cacheMax => "vips_cache_get_max"
  | .cacheMaxMem => "vips_cache_get_max_mem"
  | .cacheMaxFiles => "vips_cache_get_max_files"
  | .cacheSize => "vips_cache_get_size"

def Action.entry : Action → String
  | .shutdown => "vips_shutdown"
  | .threadShutdown => "vips_thread_shutdown"
  | .errorClear => "vips_error_clear"
  | .errorFreeze => "vips_error_freeze"
  | .errorThaw => "vips_error_thaw"
  | .cacheDropAll => "vips_cache_drop_all"
  | .cachePrint => "vips_cache_print"

/-- The name of the entry point that a call goes to. -/
def Call.entry : Call → String
  | .cellInit _ => "g_value_init"
  | .cellUnset _ => "g_value_unset"
  | .cellSet _ payload => payload.entry
  | .cellGet _ accessor => accessor.entry
  | .makeSlots _ _ => "vips_value_set_array_image"
  | .slots _ => "vips_value_get_array_image"
  | .typeName _ => "g_type_name"
  | .fundamental _ => "g_type_fundamental"
  | .isA _ _ => "g_type_is_a"
  | .transformable _ _ => "g_value_type_transformable"
  | .registered which => which.entry
  | .ref _ => "g_object_ref"
  | .unref _ => "g_object_unref"
  | .areaUnref _ => "vips_area_unref"
  | .getProperty _ _ _ => "g_object_get_property"
  | .setProperty _ _ _ => "g_object_set_property"
  | .getArgument _ _ => "vips_object_get_argument"
  | .unrefOutputs _ => "vips_object_unref_outputs"
  | .nicknameFind _ => "vips_nickname_find"
  | .enumFromNick _ _ _ => "vips_enum_from_nick"
  | .operationNew _ => "vips_operation_new"
  | .build _ => "vips_cache_operation_buildp"
  | .sourceFromBlob _ => "vips_source_new_from_blob"
  | .targetToMemory => "vips_target_new_to_memory"
  | .blobCopy _ => "vips_blob_copy"
  | .blobGet _ => "vips_blob_get"
  | .extent .width _ => "vips_image_get_width"
  | .extent .height _ => "vips_image_get_height"
  | .extent .bands _ => "vips_image_get_bands"
  | .findCodec .load _ => "vips_foreign_find_load"
  | .findCodec .save _ => "vips_foreign_find_save"
  | .start _ => "vips_init"
  | .versionString => "vips_version_string"
  | .errorBuffer => "vips_error_buffer"
  | .apply setting => setting.entry
  | .read gauge => gauge.entry
  | .act action => action.entry
  | .error _ _ _ => "vips_error"
  | .errorSystem _ _ _ _ => "vips_error_system"

/-- The entry point that a call goes to. -/
def Call.symbol (call : Call) : Symbol := ⟨call.entry⟩

end ImageGateway
