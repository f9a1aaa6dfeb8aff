-- The entry points that the gateway needs from the native libraries, in the
-- order in which they are resolved.

namespace ImageGateway

/-- The name of an entry point. -/
structure Symbol where
  name : String
  deriving DecidableEq, Repr, Inhabited

namespace Symbol

def cells : List String := [
  "g_value_init", "g_value_unset", "g_value_set_boolean", "g_value_get_boolean",
  "g_value_set_int", "g_value_get_int", "g_value_set_uint64", "g_value_get_uint64",
  "g_value_set_double", "g_value_get_double", "g_value_set_string", "g_value_get_string",
  "g_value_dup_string", "g_value_set_enum", "g_value_get_enum", "g_value_set_boxed",
  "g_value_get_boxed", "g_value_dup_boxed", "g_value_set_object", "g_value_get_object"]

def objects : List String := [
  "g_type_name", "g_type_fundamental", "g_type_is_a", "g_value_type_transformable",
  "g_object_ref", "g_object_unref", "g_object_get_property", "g_object_set_property", "g_free"]

/-- Start, end and the state of the whole process. -/
def process : List String := [
  "vips_init", "vips_shutdown", "vips_thread_shutdown", "vips_version_string", "vips_leak_set",
  "vips_concurrency_set", "vips_concurrency_get", "vips_tracked_get_mem",
  "vips_tracked_get_mem_highwater", "vips_tracked_get_allocs", "vips_progress_set",
  "vips_get_disc_threshold", "vips_pipe_read_limit_set", "vips_error_buffer",
  "vips_error_clear", "vips_error_freeze", "vips_error_thaw"]

/-- The types that the image library registers. -/
def types : List String := [
  "vips_image_get_type", "vips_source_get_type", "vips_target_get_type", "vips_blob_get_type",
  "vips_array_int_get_type", "vips_array_double_get_type", "vips_array_image_get_type"]

def boxes : List String := [
  "vips_value_set_array_int", "vips_value_get_array_int", "vips_value_set_array_double",
  "vips_value_get_array_double", "vips_value_set_array_image", "vips_value_get_array_image",
  "vips_blob_copy", "vips_blob_get", "vips_area_unref"]

/-- Arguments, operations and images. -/
def operations : List String := [
  "vips_object_get_argument", "vips_object_unref_outputs", "vips_nickname_find",
  "vips_enum_from_nick", "vips_operation_new", "vips_cache_operation_buildp",
  "vips_source_new_from_blob", "vips_target_new_to_memory", "vips_image_get_width",
  "vips_image_get_height", "vips_image_get_bands", "vips_foreign_find_load",
  "vips_foreign_find_save"]

def operationCache : List String := [
  "vips_cache_set_max", "vips_cache_get_max", "vips_cache_set_max_mem", "vips_cache_get_max_mem",
  "vips_cache_set_max_files", "vips_cache_get_max_files", "vips_cache_get_size",
  "vips_cache_set_dump", "vips_cache_set_trace", "vips_cache_drop_all", "vips_cache_print"]

/-- The entry points that take a format and its arguments. They come last. -/
def formatted : List String := ["vips_error", "vips_error_system"]

/-- Every entry point, in the order of resolution. -/
def all : List Symbol :=
  (cells ++ objects ++ process ++ types ++ boxes ++ operations ++ operationCache
    ++ formatted).map Symbol.mk

end Symbol

end ImageGateway
