import Netdata.Stream.Definition
/-!
# Values, host labels, functions, the claimed id and dynamic configuration on the wire

The other lines a child writes in `src/streaming/rrdpush.c`: the version 1 values of a chart
(`rrdpush_send_chart_metrics`), the host labels (`rrdpush_send_host_labels`), the global
functions (`rrdpush_send_global_functions`), the claimed id (`rrdpush_send_claimed_id`), and the
dynamic configuration, sent whole by `rrdpush_send_dyncfg` or one change at a time by
`rrdpush_send_dyncfg_enable`, `rrdpush_send_dyncfg_reg_module`, `rrdpush_send_dyncfg_reg_job`
and `rrdpush_send_job_status_update`. Each function hands `sender_commit` a block of lines as
in `Definition`, with a traffic type; the parent reads it with `read_block`.

- `chart_metrics_read_back`: the parent reads a `BEGIN` line, one `SET` per updated and exposed
  dimension in order, the chart variables and `END`; every updated dimension that is not
  exposed yet is marked for the next definition instead, and sent in none.
- `host_labels_read_back`: every host label comes back with its source bits, then
  `OVERWRITE labels`.
- `claimed_id_read_back`: the machine guid and the claimed id, or `NULL`, come back as words.
- `dyncfg_dump_agrees`: the whole dump is the lines the one-change functions write, in the
  dictionaries' order, exactly when no job's reason is the empty string; the dump writes an
  empty reason as `""`, the status update leaves it out.
- `legacy_parent_messages`: what a mask negotiated from a parent's legacy version allows: no
  global functions, no dynamic configuration, and neither claimed id nor host labels to the
  oldest versions.
-/

namespace Netdata.Stream.Messages

open Definition

/-- `STREAM_TRAFFIC_TYPE`: the class `sender_commit` accounts a buffer to. -/
inductive STREAM_TRAFFIC_TYPE where
  | REPLICATION | FUNCTIONS | METADATA | DATA | DYNCFG
  deriving DecidableEq, Repr

/-- What a function hands `sender_commit`: the lines it wrote and their traffic type. -/
structure Commit where
  records : List Record
  traffic : STREAM_TRAFFIC_TYPE
  deriving DecidableEq, Repr

/-! ## Values of a chart, version 1 -/

/-- What `rrdpush_send_chart_metrics` reads of a dimension. `updated` is
`rrddim_check_updated(rd)` and `exposed` is `rrddim_check_upstream_exposed_collector(rd)`,
flag tests not in the source; `collected_value` is the `collected_number` it prints. -/
structure RRDDIM where
  id : String
  updated : Bool
  exposed : Bool
  collected_value : Int
  deriving DecidableEq, Repr

/-- What it reads of a chart; `resync_time_s` is `st->rrdpush.sender.resync_time_s`. -/
structure RRDSET where
  id : String
  last_collected_time_s : Int
  resync_time_s : Int
  usec_since_last_update : Nat
  dims : List RRDDIM
  deriving DecidableEq, Repr

/-- The number after the chart id: the microseconds since the last update, or `0` while the
chart is inside its resync window. -/
def begin_usec (st : RRDSET) : Nat :=
  if st.last_collected_time_s > st.resync_time_s then st.usec_since_last_update else 0

def begin_record (st : RRDSET) : Record := ⟨"BEGIN", [.str st.id, .int (begin_usec st)]⟩

def set_record (rd : RRDDIM) : Record := ⟨"SET", [.str rd.id, .word "=", .int rd.collected_value]⟩

/-- One pass of the dimension loop, over the lines written and the dimensions marked with
`rrddim_metadata_updated`: a `SET` for an updated dimension exposed upstream, a mark for an
updated one that is not, nothing for the others. -/
def dim_step (acc : List Record × List RRDDIM) (rd : RRDDIM) : List Record × List RRDDIM :=
  if !rd.updated then acc
  else if rd.exposed then (acc.1 ++ [set_record rd], acc.2)
  else (acc.1, acc.2 ++ [rd])

/-- `rrdpush_send_chart_metrics`: the lines it writes and the dimensions whose metadata it marks
updated, to go out with the next definition. `print_variables` is
`rrdsetvar_print_to_streaming_custom_chart_variables`, not in the source. -/
def rrdpush_send_chart_metrics (print_variables : RRDSET → List Record) (st : RRDSET)
    (UPSTREAM_SEND_VARIABLES : Bool) : List Record × List RRDDIM :=
  let (sets, marked) := st.dims.foldl dim_step ([], [])
  (begin_record st :: sets ++ (if UPSTREAM_SEND_VARIABLES then print_variables st else []) ++
    [⟨"END", []⟩], marked)

/-- The loop writes the `SET` lines of the updated, exposed dimensions and marks the updated
ones that are not exposed, each in the chart's order. -/
theorem foldl_dim_step : ∀ (dims : List RRDDIM) (sets : List Record) (marked : List RRDDIM),
    dims.foldl dim_step (sets, marked) =
      (sets ++ (dims.filter fun rd => rd.updated && rd.exposed).map set_record,
        marked ++ dims.filter fun rd => rd.updated && !rd.exposed)
  | [], _, _ => by simp
  | rd :: dims, sets, marked => by
    rw [List.foldl_cons]
    cases hu : rd.updated <;> cases he : rd.exposed <;>
      simp [dim_step, hu, he, foldl_dim_step dims]

/-- The parent reads the values of a chart whose ids it can read back as a `BEGIN` line with
the chart's id and `begin_usec`, one `SET` line per updated and exposed dimension in the chart's
order, the variables when they are sent, and `END`; the updated dimensions that are not exposed
are the ones marked, and none of them is sent. -/
theorem chart_metrics_read_back (print_variables : RRDSET → List Record) {st : RRDSET}
    (hst : LineQuotable st.id) (hdims : ∀ rd ∈ st.dims, LineQuotable rd.id)
    (hvars : ∀ r ∈ print_variables st, r.single) (UPSTREAM_SEND_VARIABLES : Bool) :
    read_block (Record.block (rrdpush_send_chart_metrics print_variables st
        UPSTREAM_SEND_VARIABLES).1) =
      ["BEGIN".toList, st.id.toList, (toString (begin_usec st)).toList] ::
        (st.dims.filter fun rd => rd.updated && rd.exposed).map
          (fun rd => ["SET".toList, rd.id.toList, "=".toList, (toString rd.collected_value).toList]) ++
        (if UPSTREAM_SEND_VARIABLES then (print_variables st).map Record.values else []) ++
        [["END".toList], []] ∧
    (rrdpush_send_chart_metrics print_variables st UPSTREAM_SEND_VARIABLES).2 =
      st.dims.filter fun rd => rd.updated && !rd.exposed := by
  have hsingle : ∀ r ∈ (rrdpush_send_chart_metrics print_variables st UPSTREAM_SEND_VARIABLES).1,
      r.single := by
    simp only [rrdpush_send_chart_metrics, foldl_dim_step, List.nil_append, List.cons_append,
      List.mem_cons, List.mem_append, List.mem_map, List.mem_filter, List.not_mem_nil, or_false]
    rintro r (rfl | ((⟨rd, ⟨hrd, -⟩, rfl⟩ | hr) | rfl))
    · exact Record.single_of (by decide) (by simpa using And.intro hst.field (int_field _))
    · exact Record.single_of (by decide) (by
        simpa using And.intro (hdims rd hrd).field (And.intro (LineWord.field (by decide)) (int_field _)))
    · split at hr
      · exact hvars r hr
      · simp at hr
    · exact Record.single_of (by decide) (by simp)
  refine ⟨?_, by simp [rrdpush_send_chart_metrics, foldl_dim_step]⟩
  rw [read_block_block hsingle]
  simp only [rrdpush_send_chart_metrics, foldl_dim_step, List.nil_append, List.cons_append,
    List.map_cons, List.map_append, List.map_map, List.map_nil, List.append_assoc]
  split <;> rfl

/-- A chart with one dimension sent and one not yet exposed. -/
def two_dims : RRDSET :=
  ⟨"disk.sda", 100, 90, 1000000,
    [⟨"reads", true, true, 7⟩, ⟨"writes", true, false, 3⟩, ⟨"busy", false, true, 1⟩]⟩

theorem chart_metrics_read_back_two_dims :
    LineQuotable two_dims.id ∧ (∀ rd ∈ two_dims.dims, LineQuotable rd.id) ∧
    read_block (Record.block (rrdpush_send_chart_metrics (fun _ => []) two_dims false).1) =
      [["BEGIN".toList, "disk.sda".toList, "1000000".toList],
        ["SET".toList, "reads".toList, "=".toList, "7".toList], ["END".toList], []] ∧
    (rrdpush_send_chart_metrics (fun _ => []) two_dims false).2 = [⟨"writes", true, false, 3⟩] :=
  ⟨by decide, by decide, chart_metrics_read_back (fun _ => []) (by decide) (by decide) (by simp) false⟩

/-! ## Host labels -/

/-- `rrdpush_send_host_labels`: nothing unless definitions can go to the parent
(`rrdhost_can_send_definitions_to_parent`) and `STREAM_CAP_HLABELS` is negotiated; else a
`LABEL` line per label, in the order of the host's label dictionary, and `OVERWRITE labels`. -/
def rrdpush_send_host_labels (H : StreamHeader) (can_send_definitions : Bool)
    (capabilities : BitVec 32) (rrdlabels : List Label) : Option Commit :=
  if !can_send_definitions || !H.has capabilities .HLABELS then none
  else some ⟨rrdlabels.map send_labels_callback ++ [⟨"OVERWRITE", [.word "labels"]⟩], .METADATA⟩

/-- When the labels go out, as metadata, the parent reads every label whose name and value it
can read back as its name, `=`, its source bits and its value, in order, then
`OVERWRITE labels`. -/
theorem host_labels_read_back {H : StreamHeader} {can_send_definitions : Bool}
    {capabilities : BitVec 32} {rrdlabels : List Label}
    (hl : ∀ l ∈ rrdlabels, LineQuotable l.name ∧ LineQuotable l.value) {c : Commit}
    (hc : rrdpush_send_host_labels H can_send_definitions capabilities rrdlabels = some c) :
    c.traffic = .METADATA ∧ read_block (Record.block c.records) =
      rrdlabels.map (fun l => ["LABEL".toList, l.name.toList, "=".toList,
        (toString l.ls.toInt).toList, l.value.toList]) ++ [["OVERWRITE".toList, "labels".toList], []] := by
  unfold rrdpush_send_host_labels at hc
  split at hc
  · cases hc
  obtain rfl := Option.some.inj hc.symm
  refine ⟨rfl, ?_⟩
  have hsingle : ∀ r ∈ rrdlabels.map send_labels_callback ++ [⟨"OVERWRITE", [.word "labels"]⟩],
      Record.single r := by
    simp only [List.mem_append, List.mem_map, List.mem_singleton]
    rintro r (⟨l, hm, rfl⟩ | rfl)
    · exact Record.single_of (by decide) (by
        simpa [send_labels_callback] using ⟨(hl l hm).1.field, LineWord.field (by decide),
          int_field _, (hl l hm).2.field⟩)
    · exact Record.single_of (by decide) (by simpa using LineWord.field (by decide))
  rw [read_block_block hsingle, List.map_append, List.map_map, List.append_assoc]
  rfl

/-- One label `env` = `prod` from source bits `1`, with host labels negotiated. -/
theorem host_labels_read_back_env :
    ∃ c, rrdpush_send_host_labels StreamHeader.tableOrder true
        (StreamHeader.tableOrder.cap .HLABELS) [⟨"env", "prod", 1⟩] = some c ∧
      c.traffic = .METADATA ∧ read_block (Record.block c.records) =
        [["LABEL".toList, "env".toList, "=".toList, "1".toList, "prod".toList],
          ["OVERWRITE".toList, "labels".toList], []] :=
  ⟨_, rfl, @host_labels_read_back StreamHeader.tableOrder true
    (StreamHeader.tableOrder.cap .HLABELS) [⟨"env", "prod", 1⟩] (by decide) _ rfl⟩

/-! ## Global functions -/

/-- `rrdpush_send_global_functions`: nothing unless `STREAM_CAP_FUNCTIONS` is negotiated and
definitions can go to the parent; else the lines `rrd_functions_expose_global_rrdpush` writes for
the host's global functions (not in the source), as functions traffic. -/
def rrdpush_send_global_functions (H : StreamHeader) (can_send_definitions : Bool)
    (capabilities : BitVec 32) (rrd_functions_expose_global_rrdpush : List Record) :
    Option Commit :=
  if !H.has capabilities .FUNCTIONS then none
  else if !can_send_definitions then none
  else some ⟨rrd_functions_expose_global_rrdpush, .FUNCTIONS⟩

/-! ## Claimed id -/

/-- `rrdpush_send_claimed_id`: nothing unless `STREAM_CAP_CLAIM` is negotiated and definitions
can go to the parent; else a `CLAIMED_ID` line with the machine guid and the claimed id, `NULL`
for a host that is not claimed, both written with `%s`. -/
def rrdpush_send_claimed_id (H : StreamHeader) (can_send_definitions : Bool)
    (capabilities : BitVec 32) (machine_guid : String) (claimed_id : Option String) :
    Option Commit :=
  if !H.has capabilities .CLAIM then none
  else if !can_send_definitions then none
  else some ⟨[⟨"CLAIMED_ID", [.word machine_guid, .word (claimed_id.getD "NULL")]⟩], .METADATA⟩

/-- When the claimed id goes out, as metadata, the parent reads the machine guid and the
claimed id, or `NULL` for a host that is not claimed. -/
theorem claimed_id_read_back {H : StreamHeader} {can_send_definitions : Bool}
    {capabilities : BitVec 32} {machine_guid : String} {claimed_id : Option String}
    (hguid : LineWord machine_guid) (hid : ∀ id ∈ claimed_id, LineWord id) {c : Commit}
    (hc : rrdpush_send_claimed_id H can_send_definitions capabilities machine_guid claimed_id =
      some c) :
    c.traffic = .METADATA ∧ read_block (Record.block c.records) =
      [["CLAIMED_ID".toList, machine_guid.toList, (claimed_id.getD "NULL").toList], []] := by
  unfold rrdpush_send_claimed_id at hc
  split at hc
  · cases hc
  split at hc
  · cases hc
  obtain rfl := Option.some.inj hc.symm
  have hword : LineWord (claimed_id.getD "NULL") := by
    cases claimed_id with
    | none => decide
    | some id => exact hid id rfl
  refine ⟨rfl, ?_⟩
  rw [read_block_block fun r hr => by
    rw [List.mem_singleton.1 hr]
    exact Record.single_of (by decide) (by simpa using ⟨hguid.field, hword.field⟩)]
  rfl

/-- An unclaimed host with a guid of hex digits and dashes. -/
theorem unclaimed_host_read_back :
    ∃ c, rrdpush_send_claimed_id StreamHeader.tableOrder true
        (StreamHeader.tableOrder.cap .CLAIM) "0a1b-2c3d" none = some c ∧
      c.traffic = .METADATA ∧ read_block (Record.block c.records) =
        [["CLAIMED_ID".toList, "0a1b-2c3d".toList, "NULL".toList], []] :=
  ⟨_, rfl, @claimed_id_read_back StreamHeader.tableOrder true (StreamHeader.tableOrder.cap .CLAIM)
    "0a1b-2c3d" none (by decide) (by simp) _ rfl⟩

/-! ## Dynamic configuration -/

/-- The `PLUGINSD_KEYWORD_*` macros the dynamic configuration lines start with; their texts
come from a header that is not in the source. -/
inductive Keyword where
  | DYNCFG_ENABLE | DYNCFG_REGISTER_MODULE | DYNCFG_REGISTER_JOB | DYNCFG_RESET
  | REPORT_JOB_STATUS | DELETE_JOB
  deriving DecidableEq, Repr

/-- `struct job`, the fields the messages read; `type` and `status` are the values of the enums
that `job_type2str` and `job_status2str` name, and `reason` is `none` for a NULL one. -/
structure job where
  name : String
  type : Nat
  flags : UInt32
  status : Nat
  state : Int
  reason : Option String
  dirty : Bool
  deriving DecidableEq, Repr

/-- `struct module`: its jobs in the order of its `jobs` dictionary. -/
structure module where
  name : String
  type : Nat
  jobs : List job
  deriving DecidableEq, Repr

/-- `struct configurable_plugin`: its modules in the order of its `modules` dictionary. -/
structure configurable_plugin where
  name : String
  modules : List module
  deriving DecidableEq, Repr

theorem flatMap_length_congr {α β : Type} : ∀ {l : List α} {f g : α → List β},
    (∀ x ∈ l, (f x).length = (g x).length) → (l.flatMap f).length = (l.flatMap g).length
  | [], _, _, _ => rfl
  | x :: l, f, g, h => by
    simp only [List.flatMap_cons, List.length_append, h x (List.mem_cons_self _ _),
      flatMap_length_congr fun y hy => h y (List.mem_cons_of_mem _ hy)]

/-- Two concatenations whose pieces have the same lengths are equal piece by piece. -/
theorem flatMap_eq_flatMap_iff {α β : Type} : ∀ {l : List α} {f g : α → List β},
    (∀ x ∈ l, (f x).length = (g x).length) → (l.flatMap f = l.flatMap g ↔ ∀ x ∈ l, f x = g x)
  | [], _, _, _ => by simp
  | x :: l, f, g, h => by
    rw [List.flatMap_cons, List.flatMap_cons, List.forall_mem_cons,
      ← flatMap_eq_flatMap_iff fun y hy => h y (List.mem_cons_of_mem _ hy)]
    exact ⟨fun he => List.append_inj he (h x (List.mem_cons_self _ _)),
      fun ⟨h1, h2⟩ => h1 ▸ h2 ▸ rfl⟩

theorem reason_filter_eq_iff (reason : Option String) :
    reason.filter (· != "") = reason ↔ reason ≠ some "" := by
  cases reason with
  | none => simp
  | some r => by_cases h : r = "" <;> simp [Option.filter, h]

/-- The records a function committed, none when it committed nothing. -/
def Commit.records_of (c : Option Commit) : List Record := (c.map Commit.records).getD []

section Dyncfg

variable (PLUGINSD_KEYWORD : Keyword → String) (module_type2str job_type2str job_status2str : Nat → String)
  (H : StreamHeader) (can_send_definitions : Bool) (capabilities : BitVec 32)

/-- `dyncfg_can_push(host)`. -/
def dyncfg_can_push : Bool := can_send_definitions && H.has capabilities .DYNCFG

def dyncfg_enable_record (plugin_name : String) : Record :=
  ⟨PLUGINSD_KEYWORD .DYNCFG_ENABLE, [.word plugin_name]⟩

def reg_module_record (plugin_name module_name : String) (type : Nat) : Record :=
  ⟨PLUGINSD_KEYWORD .DYNCFG_REGISTER_MODULE,
    [.word plugin_name, .word module_name, .word (module_type2str type)]⟩

def reg_job_record (plugin_name module_name job_name : String) (type : Nat) (flags : UInt32) :
    Record :=
  ⟨PLUGINSD_KEYWORD .DYNCFG_REGISTER_JOB, [.word plugin_name, .word module_name, .word job_name,
    .word (job_type2str type), .int flags.toNat]⟩

/-- The `REPORT_JOB_STATUS` line of a job, with the reason it is given, if any, between quotes. -/
def job_status_record (plugin_name module_name : String) (j : job) (reason : Option String) :
    Record :=
  ⟨PLUGINSD_KEYWORD .REPORT_JOB_STATUS, [.word plugin_name, .word module_name, .word j.name,
    .word (job_status2str j.status), .int j.state] ++ reason.toList.map .str⟩

/-- `rrdpush_send_job_status_update`: the status line, with the reason only when it is not
empty; the job is clean once the line is committed. -/
def rrdpush_send_job_status_update (plugin_name module_name : String) (j : job) :
    Option Commit × job :=
  if !dyncfg_can_push H can_send_definitions capabilities then (none, j)
  else (some ⟨[job_status_record PLUGINSD_KEYWORD job_status2str plugin_name module_name j
    (j.reason.filter (· != ""))], .DYNCFG⟩, { j with dirty := false })

def rrdpush_send_job_deleted (plugin_name module_name job_name : String) : Option Commit :=
  if !dyncfg_can_push H can_send_definitions capabilities then none
  else some ⟨[⟨PLUGINSD_KEYWORD .DELETE_JOB, [.word plugin_name, .word module_name, .word job_name]⟩],
    .DYNCFG⟩

def rrdpush_send_dyncfg_enable (plugin_name : String) : Option Commit :=
  if !dyncfg_can_push H can_send_definitions capabilities then none
  else some ⟨[dyncfg_enable_record PLUGINSD_KEYWORD plugin_name], .METADATA⟩

def rrdpush_send_dyncfg_reg_module (plugin_name module_name : String) (type : Nat) :
    Option Commit :=
  if !dyncfg_can_push H can_send_definitions capabilities then none
  else some ⟨[reg_module_record PLUGINSD_KEYWORD module_type2str plugin_name module_name type],
    .DYNCFG⟩

def rrdpush_send_dyncfg_reg_job (plugin_name module_name job_name : String) (type : Nat)
    (flags : UInt32) : Option Commit :=
  if !dyncfg_can_push H can_send_definitions capabilities then none
  else some ⟨[reg_job_record PLUGINSD_KEYWORD job_type2str plugin_name module_name job_name type
    flags], .DYNCFG⟩

def rrdpush_send_dyncfg_reset (plugin_name : String) : Option Commit :=
  if !dyncfg_can_push H can_send_definitions capabilities then none
  else some ⟨[⟨PLUGINSD_KEYWORD .DYNCFG_RESET, [.word plugin_name]⟩], .METADATA⟩

/-- The dump's lines for one job: its registration, then its status with the reason whenever it
is not NULL. -/
def dump_job (plugin_name module_name : String) (j : job) : List Record :=
  [reg_job_record PLUGINSD_KEYWORD job_type2str plugin_name module_name j.name j.type j.flags,
    job_status_record PLUGINSD_KEYWORD job_status2str plugin_name module_name j j.reason]

def dump_module (plugin_name : String) (mod : module) : List Record :=
  reg_module_record PLUGINSD_KEYWORD module_type2str plugin_name mod.name mod.type ::
    mod.jobs.flatMap fun j =>
      dump_job PLUGINSD_KEYWORD job_type2str job_status2str plugin_name mod.name j

def dump_plugin (plug : configurable_plugin) : List Record :=
  dyncfg_enable_record PLUGINSD_KEYWORD plug.name ::
    plug.modules.flatMap fun mod =>
      dump_module PLUGINSD_KEYWORD module_type2str job_type2str job_status2str plug.name mod

/-- A plugin with every job clean. -/
def configurable_plugin.clean (plug : configurable_plugin) : configurable_plugin :=
  { plug with modules := plug.modules.map fun mod =>
      { mod with jobs := mod.jobs.map fun j => { j with dirty := false } } }

/-- `rrdpush_send_dyncfg`: every plugin, module and job of the host's dictionaries, in their
order, in one commit; every job is clean afterwards. -/
def rrdpush_send_dyncfg (configurable_plugins : List configurable_plugin) :
    Option Commit × List configurable_plugin :=
  if !dyncfg_can_push H can_send_definitions capabilities then (none, configurable_plugins)
  else (some ⟨configurable_plugins.flatMap fun plug =>
      dump_plugin PLUGINSD_KEYWORD module_type2str job_type2str job_status2str plug, .DYNCFG⟩,
    configurable_plugins.map configurable_plugin.clean)

/-- Not in the source: the same configuration announced one change at a time, each plugin
enabled, then each of its modules and jobs registered and each job's status reported, in the
dictionaries' order. -/
def announce (configurable_plugins : List configurable_plugin) : List Record :=
  configurable_plugins.flatMap fun plug =>
    Commit.records_of (rrdpush_send_dyncfg_enable PLUGINSD_KEYWORD H can_send_definitions
      capabilities plug.name) ++
    plug.modules.flatMap fun mod =>
      Commit.records_of (rrdpush_send_dyncfg_reg_module PLUGINSD_KEYWORD module_type2str H
        can_send_definitions capabilities plug.name mod.name mod.type) ++
      mod.jobs.flatMap fun j =>
        Commit.records_of (rrdpush_send_dyncfg_reg_job PLUGINSD_KEYWORD job_type2str H
          can_send_definitions capabilities plug.name mod.name j.name j.type j.flags) ++
        Commit.records_of (rrdpush_send_job_status_update PLUGINSD_KEYWORD job_status2str H
          can_send_definitions capabilities plug.name mod.name j).1

theorem job_status_record_inj {plugin_name module_name : String} {j : job} {r r' : Option String} :
    job_status_record PLUGINSD_KEYWORD job_status2str plugin_name module_name j r =
      job_status_record PLUGINSD_KEYWORD job_status2str plugin_name module_name j r' ↔ r = r' := by
  cases r <;> cases r' <;> simp [job_status_record]

/-- With dynamic configuration pushed, the dump of `rrdpush_send_dyncfg` is the lines the
one-change functions write for the same dictionaries, in the same order, exactly when no job's
reason is the empty string: the dump writes such a reason as `""`, the status update leaves it
out. -/
theorem dyncfg_dump_agrees (configurable_plugins : List configurable_plugin)
    (hp : dyncfg_can_push H can_send_definitions capabilities = true) :
    Commit.records_of (rrdpush_send_dyncfg PLUGINSD_KEYWORD module_type2str job_type2str
        job_status2str H can_send_definitions capabilities configurable_plugins).1 =
      announce PLUGINSD_KEYWORD module_type2str job_type2str job_status2str H can_send_definitions
        capabilities configurable_plugins ↔
    ∀ plug ∈ configurable_plugins, ∀ mod ∈ plug.modules, ∀ j ∈ mod.jobs, j.reason ≠ some "" := by
  simp only [rrdpush_send_dyncfg, announce, Commit.records_of, rrdpush_send_dyncfg_enable,
    rrdpush_send_dyncfg_reg_module, rrdpush_send_dyncfg_reg_job, rrdpush_send_job_status_update,
    hp, Bool.not_true, Bool.false_eq_true, if_false, Option.map_some', Option.getD_some,
    List.singleton_append, dump_plugin, dump_module, dump_job]
  rw [flatMap_eq_flatMap_iff fun _ _ => by
    simp only [List.length_cons, Nat.add_right_cancel_iff]
    refine flatMap_length_congr fun _ _ => ?_
    simp only [List.length_cons, Nat.add_right_cancel_iff]
    refine flatMap_length_congr fun _ _ => ?_
    rfl]
  refine forall₂_congr fun plug _ => ?_
  rw [List.cons.injEq, flatMap_eq_flatMap_iff fun _ _ => by
    simp only [List.length_cons, Nat.add_right_cancel_iff]
    refine flatMap_length_congr fun _ _ => ?_
    rfl]
  refine (and_iff_right rfl).trans (forall₂_congr fun mod _ => ?_)
  rw [List.cons.injEq]
  refine (and_iff_right rfl).trans ((flatMap_eq_flatMap_iff fun _ _ => ?_).trans
    (forall₂_congr fun j _ => ?_))
  · rfl
  · rw [List.cons.injEq, List.cons.injEq, job_status_record_inj]
    exact ⟨fun h => (reason_filter_eq_iff _).1 h.2.1.symm,
      fun h => ⟨rfl, ((reason_filter_eq_iff _).2 h).symm, rfl⟩⟩

end Dyncfg

/-- A plugin with one module and one job whose reason is empty: the dump and the one-change
path differ. -/
def empty_reason_plugin : configurable_plugin :=
  ⟨"go.d", [⟨"nginx", 0, [⟨"local", 0, 0, 1, 0, some "", true⟩]⟩]⟩

theorem dyncfg_dump_agrees_empty_reason :
    dyncfg_can_push StreamHeader.tableOrder true (StreamHeader.tableOrder.cap .DYNCFG) = true ∧
    (Commit.records_of (rrdpush_send_dyncfg (fun _ => "DYNCFG") (fun _ => "job") (fun _ => "job")
        (fun _ => "running") StreamHeader.tableOrder true (StreamHeader.tableOrder.cap .DYNCFG)
        [empty_reason_plugin]).1 =
      announce (fun _ => "DYNCFG") (fun _ => "job") (fun _ => "job") (fun _ => "running")
        StreamHeader.tableOrder true (StreamHeader.tableOrder.cap .DYNCFG) [empty_reason_plugin] ↔
    ∀ plug ∈ [empty_reason_plugin], ∀ mod ∈ plug.modules, ∀ j ∈ mod.jobs, j.reason ≠ some "") :=
  ⟨by decide, dyncfg_dump_agrees _ _ _ _ _ _ _ _ (by decide)⟩

/-! ## What a parent with a legacy version is sent -/

/-- A child whose mask was negotiated from a parent's legacy version sends that parent no global
functions and never passes `dyncfg_can_push`, so it sends no dynamic configuration either; it
sends no claimed id below `STREAM_OLD_VERSION_CLAIM` and no host labels at version 1. -/
theorem legacy_parent_messages (H : StreamHeader) (g : BitVec 32) (host : Option HostCaps)
    (sender can_send_definitions : Bool) {version : BitVec 32}
    (hv : version.toInt ≤ H.STREAM_OLD_VERSION_LZ4) :
    (∀ functions, rrdpush_send_global_functions H can_send_definitions
        (H.convert_stream_version_to_capabilities g version host sender) functions = none) ∧
    dyncfg_can_push H can_send_definitions
        (H.convert_stream_version_to_capabilities g version host sender) = false ∧
    (version.toInt < H.STREAM_OLD_VERSION_CLAIM → ∀ machine_guid claimed_id,
      rrdpush_send_claimed_id H can_send_definitions
        (H.convert_stream_version_to_capabilities g version host sender) machine_guid claimed_id =
          none) ∧
    (version.toInt ≤ 1 → ∀ rrdlabels, rrdpush_send_host_labels H can_send_definitions
        (H.convert_stream_version_to_capabilities g version host sender) rrdlabels = none) := by
  have hnot : ∀ c, c ≠ .DATA_WITH_ML → H.has (H.version_capabilities version) c = false →
      H.has (H.convert_stream_version_to_capabilities g version host sender) c = false :=
    fun c hml h => Bool.eq_false_iff.2 fun hc =>
      absurd (StreamHeader.has_version_of_has_convert hml hc) (by simp [h])
  refine ⟨fun _ => by
      simp [rrdpush_send_global_functions,
        StreamHeader.has_convert_legacy hv (by decide : Cap.FUNCTIONS ∉ _)],
    by simp [dyncfg_can_push, StreamHeader.has_convert_legacy hv (by decide : Cap.DYNCFG ∉ _)],
    fun hlt _ _ => ?_, fun hle _ => ?_⟩
  · have hclaim := hnot .CLAIM (by decide) (by
      unfold StreamHeader.version_capabilities
      split_ifs <;> first | omega | simp)
    simp [rrdpush_send_claimed_id, hclaim]
  · have hlabels := hnot .HLABELS (by decide) (by
      rw [StreamHeader.version_capabilities, if_pos hle]
      simp)
    simp [rrdpush_send_host_labels, hlabels]

/-- A parent that answered version 1. -/
theorem version_one_parent_messages :
    (1#32).toInt ≤ StreamHeader.tableOrder.STREAM_OLD_VERSION_LZ4 ∧
    ((∀ functions, rrdpush_send_global_functions StreamHeader.tableOrder true
        (StreamHeader.tableOrder.convert_stream_version_to_capabilities 0 1#32 none true)
        functions = none) ∧
      dyncfg_can_push StreamHeader.tableOrder true
        (StreamHeader.tableOrder.convert_stream_version_to_capabilities 0 1#32 none true) = false ∧
      ((1#32).toInt < StreamHeader.tableOrder.STREAM_OLD_VERSION_CLAIM → ∀ machine_guid claimed_id,
        rrdpush_send_claimed_id StreamHeader.tableOrder true
          (StreamHeader.tableOrder.convert_stream_version_to_capabilities 0 1#32 none true)
          machine_guid claimed_id = none) ∧
      ((1#32).toInt ≤ 1 → ∀ rrdlabels, rrdpush_send_host_labels StreamHeader.tableOrder true
          (StreamHeader.tableOrder.convert_stream_version_to_capabilities 0 1#32 none true)
          rrdlabels = none)) :=
  ⟨by decide, legacy_parent_messages StreamHeader.tableOrder 0 none true true (by decide)⟩

end Netdata.Stream.Messages
