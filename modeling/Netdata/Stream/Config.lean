import Mathlib.Data.List.Basic
/-!
# Reading `stream.conf`

`rrdpush_init`, `rrdpush_receiver_needs_dbengine` and `configured_as_parent`
(`src/streaming/rrdpush.c`). The configuration library is not in the source. `rrdpush_init`
reads `stream.conf` and `netdata.conf` through readers by section, name and default; the other
two walk the sections of `stream.conf`, each a name and its `name = value` lines, and read a
section's values with `appconfig_get_by_section`.

- `rrdpush_init_enabled`: streaming is left enabled exactly when `stream.conf` enables it and
  gives both a destination and an API key; the return value is that flag.
- `needs_dbengine_iff`: a parent needs `dbengine` exactly when an enabled section other than
  `[stream]` asks for it as its memory mode or default memory mode.
- `configured_as_parent_iff`: an agent is a parent exactly when a section named by a UUID is
  enabled.
-/

namespace Netdata.Stream.Config

/-! ## `rrdpush_init` -/

/-- The indexes of `rrdpush_compression_levels`. -/
inductive COMPRESSION_ALGORITHM where
  | BROTLI | ZSTD | LZ4 | GZIP
  deriving DecidableEq, Repr

/-- The globals `rrdpush_init` writes; `NULL` strings are `none`. -/
structure rrdpush_globals where
  default_rrdpush_enabled : Bool
  default_rrdpush_destination : Option String
  default_rrdpush_api_key : Option String
  default_rrdpush_send_charts_matching : Option String
  default_rrdpush_enable_replication : Bool
  default_rrdpush_seconds_to_replicate : Int
  default_rrdpush_replication_step : Int
  rrdhost_free_orphan_time_s : Int
  default_rrdpush_compression_enabled : Bool
  rrdpush_compression_levels : COMPRESSION_ALGORITHM → Int
  netdata_ssl_validate_certificate_sender : Bool
  netdata_ssl_ca_path : Option String
  netdata_ssl_ca_file : Option String

/-- The readers `rrdpush_init` calls, by section, name and default: `appconfig_*` on
`stream.conf` (once `load_stream_conf` has loaded it), `config_*` on `netdata.conf`. -/
structure Readers where
  appconfig_get : String → String → Option String → Option String
  appconfig_get_boolean : String → String → Bool → Bool
  appconfig_get_number : String → String → Int → Int
  config_get_boolean : String → String → Bool → Bool
  config_get_number : String → String → Int → Int

/-- The `(int)` cast of a `long long`. -/
def int_cast (n : Int) : Int := (BitVec.ofInt 32 n).toInt

/-- `!s || !*s`: a `NULL` or empty string. -/
def null_or_empty : Option String → Bool
  | none => true
  | some s => s.isEmpty

section Init

variable (R : Readers) (CONFIG_SECTION_STREAM CONFIG_SECTION_DB : String) (ENABLE_HTTPS : Bool)
  (netdata_ssl_validate_certificate : Bool)

/-- `rrdpush_compression_levels[a] = (int)appconfig_get_number(...)`. -/
def read_level (levels : COMPRESSION_ALGORITHM → Int) (a : COMPRESSION_ALGORITHM)
    (name : String) : COMPRESSION_ALGORITHM → Int :=
  Function.update levels a
    (int_cast (R.appconfig_get_number CONFIG_SECTION_STREAM name (levels a)))

/-- The reads of `rrdpush_init`, each with the global it sets as its default. -/
def read_stream_conf (g : rrdpush_globals) : rrdpush_globals :=
  let S := CONFIG_SECTION_STREAM
  { g with
    default_rrdpush_enabled := R.appconfig_get_boolean S "enabled" g.default_rrdpush_enabled
    default_rrdpush_destination := R.appconfig_get S "destination" (some "")
    default_rrdpush_api_key := R.appconfig_get S "api key" (some "")
    default_rrdpush_send_charts_matching := R.appconfig_get S "send charts matching" (some "*")
    default_rrdpush_enable_replication := R.config_get_boolean CONFIG_SECTION_DB
      "enable replication" g.default_rrdpush_enable_replication
    default_rrdpush_seconds_to_replicate := R.config_get_number CONFIG_SECTION_DB
      "seconds to replicate" g.default_rrdpush_seconds_to_replicate
    default_rrdpush_replication_step := R.config_get_number CONFIG_SECTION_DB
      "seconds per replication step" g.default_rrdpush_replication_step
    rrdhost_free_orphan_time_s := R.config_get_number CONFIG_SECTION_DB
      "cleanup orphan hosts after secs" g.rrdhost_free_orphan_time_s
    default_rrdpush_compression_enabled :=
      R.appconfig_get_boolean S "enable compression" g.default_rrdpush_compression_enabled
    rrdpush_compression_levels :=
      let levels := read_level R S g.rrdpush_compression_levels .BROTLI "brotli compression level"
      let levels := read_level R S levels .ZSTD "zstd compression level"
      let levels := read_level R S levels .LZ4 "lz4 compression acceleration"
      read_level R S levels .GZIP "gzip compression level" }

/-- The check after the reads: no sending thread without a destination and an API key. -/
def check_destination (g : rrdpush_globals) : rrdpush_globals :=
  if g.default_rrdpush_enabled && (null_or_empty g.default_rrdpush_destination ||
      null_or_empty g.default_rrdpush_api_key) then { g with default_rrdpush_enabled := false }
  else g

/-- The `ENABLE_HTTPS` lines, which run only in a build with it. -/
def read_ssl (g : rrdpush_globals) : rrdpush_globals :=
  if ENABLE_HTTPS then { g with
    netdata_ssl_validate_certificate_sender := !R.appconfig_get_boolean CONFIG_SECTION_STREAM
      "ssl skip certificate verification" !netdata_ssl_validate_certificate
    netdata_ssl_ca_path := R.appconfig_get CONFIG_SECTION_STREAM "CApath" none
    netdata_ssl_ca_file := R.appconfig_get CONFIG_SECTION_STREAM "CAfile" none }
  else g

/-- `rrdpush_init`: the globals after it and the value it returns, `default_rrdpush_enabled`. -/
def rrdpush_init (g : rrdpush_globals) : rrdpush_globals × Bool :=
  let g := read_ssl R CONFIG_SECTION_STREAM ENABLE_HTTPS netdata_ssl_validate_certificate
    (check_destination (read_stream_conf R CONFIG_SECTION_STREAM CONFIG_SECTION_DB g))
  (g, g.default_rrdpush_enabled)

theorem check_destination_enabled (g : rrdpush_globals) :
    (check_destination g).default_rrdpush_enabled = (g.default_rrdpush_enabled &&
      !(null_or_empty g.default_rrdpush_destination ||
        null_or_empty g.default_rrdpush_api_key)) := by
  unfold check_destination
  cases null_or_empty g.default_rrdpush_destination <;> split <;> simp_all

theorem read_ssl_enabled (g : rrdpush_globals) :
    (read_ssl R CONFIG_SECTION_STREAM ENABLE_HTTPS netdata_ssl_validate_certificate
      g).default_rrdpush_enabled = g.default_rrdpush_enabled := by
  unfold read_ssl
  split <;> rfl

/-- Streaming is left enabled, and `rrdpush_init` returns true, exactly when `stream.conf`
enables it and gives a destination and an API key that are not empty. -/
theorem rrdpush_init_enabled (g : rrdpush_globals) :
    (rrdpush_init R CONFIG_SECTION_STREAM CONFIG_SECTION_DB ENABLE_HTTPS
        netdata_ssl_validate_certificate g).2 =
      (rrdpush_init R CONFIG_SECTION_STREAM CONFIG_SECTION_DB ENABLE_HTTPS
        netdata_ssl_validate_certificate g).1.default_rrdpush_enabled ∧
    ((rrdpush_init R CONFIG_SECTION_STREAM CONFIG_SECTION_DB ENABLE_HTTPS
        netdata_ssl_validate_certificate g).2 = true ↔
      R.appconfig_get_boolean CONFIG_SECTION_STREAM "enabled" g.default_rrdpush_enabled = true ∧
        null_or_empty (R.appconfig_get CONFIG_SECTION_STREAM "destination" (some "")) = false ∧
        null_or_empty (R.appconfig_get CONFIG_SECTION_STREAM "api key" (some "")) = false) := by
  refine ⟨rfl, ?_⟩
  rw [rrdpush_init, read_ssl_enabled, check_destination_enabled]
  simp [read_stream_conf]

end Init

/-! ## The sections of `stream.conf` -/

/-- `struct section`, the name and lines the two loops read (`section` is a word of Lean). -/
structure Section where
  name : String
  values : List (String × String)
  deriving DecidableEq, Repr

/-- `appconfig_get_by_section(co, name, NULL)`: the value of the line of that name. -/
def appconfig_get_by_section (co : Section) (name : String) : Option String :=
  co.values.lookup name

section Sections

variable (appconfig_test_boolean_value : String → Bool)

/-- `rrdpush_receiver_needs_dbengine`: the loop over the sections, returning at the first
enabled section other than `[stream]` whose `default memory mode` or `memory mode` is
`dbengine`. -/
def rrdpush_receiver_needs_dbengine : List Section → Bool
  | [] => false
  | co :: sections =>
    if co.name = "stream" then rrdpush_receiver_needs_dbengine sections
    else match appconfig_get_by_section co "enabled" with
      | none => rrdpush_receiver_needs_dbengine sections
      | some s =>
        if !appconfig_test_boolean_value s then rrdpush_receiver_needs_dbengine sections
        else if appconfig_get_by_section co "default memory mode" = some "dbengine" then true
        else if appconfig_get_by_section co "memory mode" = some "dbengine" then true
        else rrdpush_receiver_needs_dbengine sections

/-- A section that makes the parent need `dbengine`. -/
def Section.wants_dbengine (co : Section) : Prop :=
  co.name ≠ "stream" ∧
    (appconfig_get_by_section co "enabled").any appconfig_test_boolean_value ∧
    (appconfig_get_by_section co "default memory mode" = some "dbengine" ∨
      appconfig_get_by_section co "memory mode" = some "dbengine")

/-- A parent needs `dbengine` exactly when some section other than `[stream]` is enabled and
asks for it, as its default memory mode or its memory mode. -/
theorem needs_dbengine_iff (sections : List Section) :
    rrdpush_receiver_needs_dbengine appconfig_test_boolean_value sections = true ↔
      ∃ co ∈ sections, co.wants_dbengine appconfig_test_boolean_value := by
  induction sections with
  | nil => simp [rrdpush_receiver_needs_dbengine]
  | cons co sections ih =>
    rw [rrdpush_receiver_needs_dbengine]
    simp only [List.mem_cons, exists_eq_or_imp, ← ih]
    rw [Section.wants_dbengine]
    clear ih
    cases he : appconfig_get_by_section co "enabled" <;> split_ifs <;> simp_all

variable (uuid_parse : String → Int)
  (appconfig_get_boolean_by_section : Section → String → Bool → Bool)

/-- `configured_as_parent`: 1 at the first section named by a UUID that is enabled, else 0. -/
def configured_as_parent : List Section → Int
  | [] => 0
  | s :: sections =>
    if uuid_parse s.name ≠ -1 ∧ appconfig_get_boolean_by_section s "enabled" false then 1
    else configured_as_parent sections

/-- An agent is configured as a parent exactly when a section named by a UUID is enabled. -/
theorem configured_as_parent_iff (sections : List Section) :
    configured_as_parent uuid_parse appconfig_get_boolean_by_section sections =
      if ∃ s ∈ sections, uuid_parse s.name ≠ -1 ∧
          appconfig_get_boolean_by_section s "enabled" false = true then 1 else 0 := by
  induction sections with
  | nil => simp [configured_as_parent]
  | cons s sections ih =>
    rw [configured_as_parent, ih]
    by_cases h :
      uuid_parse s.name ≠ -1 ∧ appconfig_get_boolean_by_section s "enabled" false = true
    · rw [if_pos h, if_pos ⟨s, List.mem_cons_self _ _, h⟩]
    · simp only [if_neg h, List.mem_cons, exists_eq_or_imp, h, false_or, if_false]

end Sections

end Netdata.Stream.Config
