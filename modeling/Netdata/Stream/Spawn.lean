import Netdata.Stream.Query
import Netdata.Stream.Receiver
/-!
# The exit paths of `rrdpush_receiver_thread_spawn`

The whole function (`src/streaming/rrdpush.c`), run by one web server thread for one
`/stream` request: the parameters (`Query`), the permission checks, the same-localhost reply,
the rate limiter, the duplicate test and the hand-off of the socket to a receiver thread. What
the function reads besides the request (the configuration, the host registry, the clocks,
whether a thread can be created) is an `Env`, any one of them.

- `spawn_outcome`: every path, with its HTTP code, its logged status and what it leaves in the
  web client. Only the same-localhost reply, the spawned receiver and the failed thread
  creation take the socket over (`spawn_socket`); every path after the parameters cuts the
  client's user agent at its first `/`, where the program name ends.
- `thread_failure_takes_socket`: the 500 of a failed `netdata_thread_create` comes after
  `rrdpush_receiver_takeover_web_connection`, so its error text is written into a web client
  that no longer owns its socket.
-/

namespace Netdata.Stream.Spawn

open Receiver Query

def HTTP_RESP_UNAUTHORIZED : Nat := 401

/-- A TLS connection's handle and state (`NETDATA_SSL`, not in the source). -/
structure NETDATA_SSL where
  conn : Nat
  state : Nat
  deriving DecidableEq, Repr

/-- No TLS connection. -/
def NETDATA_SSL_UNSET_CONNECTION : NETDATA_SSL := ⟨0, 0⟩

/-- The fields of `struct web_client` the function reads and writes: the socket's two
descriptors, its TLS state, the client's address and agent, `WEB_CLIENT_IS_DEAD`,
`WEB_CLIENT_FLAG_DONT_CLOSE_SOCKET` and `w->response.data`. -/
structure web_client where
  ifd : Int
  ofd : Int
  ssl : NETDATA_SSL
  client_ip : String
  user_agent : Option String
  dead : Bool
  dont_close_socket : Bool
  response : String
  deriving DecidableEq, Repr

/-- The `RRDPUSH_STATUS_*` a path logs with `rrdpush_receive_log_status`. -/
inductive RRDPUSH_STATUS where
  | NO_API_KEY | NO_HOSTNAME | NO_MACHINE_GUID | INVALID_API_KEY | INVALID_MACHINE_GUID
  | API_KEY_DISABLED | NOT_ALLOWED_IP | MACHINE_GUID_DISABLED | LOCALHOST | RATE_LIMIT
  | ALREADY_CONNECTED | INTERNAL_SERVER_ERROR
  deriving DecidableEq, Repr

/-- The `START_STREAMING_ERROR_*` texts of `rrdpush.h`, which this tree does not hold. -/
structure Texts where
  START_STREAMING_ERROR_NOT_PERMITTED : String
  START_STREAMING_ERROR_BUSY_TRY_LATER : String
  START_STREAMING_ERROR_SAME_LOCALHOST : String
  START_STREAMING_ERROR_ALREADY_STREAMING : String

/-- A host `rrdhost_find_by_guid` finds: `RRDHOST_FLAG_ARCHIVED`, and the `last_msg_t` of its
receiver when it has one. -/
structure host_entry where
  archived : Bool
  receiver_last_msg_t : Option Int
  deriving DecidableEq, Repr

/-- What the function reads besides the request. None of it is fixed by the source:
`stream.conf` (`appconfig_get` and `appconfig_get_boolean` by section, name and default),
`regenerate_guid`, `simple_pattern_create` (the matcher, or none for no pattern), the clocks,
the host registry, whether `stop_streaming_receiver` stops the old receiver and whether
`netdata_thread_create` succeeds. -/
structure Env where
  service_running : Bool
  header : StreamHeader
  globally_disabled_capabilities : BitVec 32
  strtoul : String → BitVec 64
  strtol : String → BitVec 64
  default_rrd_update_every : BitVec 32
  appconfig_get : String → String → String → String
  appconfig_get_boolean : String → String → Bool → Bool
  regenerate_guid_ok : String → Bool
  simple_pattern_create : String → Option (String → Bool)
  localhost_machine_guid : String
  web_server_mode_static_threaded : Bool
  web_client_streaming_rate_t : Int
  now_realtime_sec : Int
  now_monotonic_sec : Int
  rrdhost_find_by_guid : String → Option host_entry
  stop_streaming_receiver : Bool
  netdata_thread_create_ok : Bool

/-- The receiver thread's start: the socket and TLS state it took, the parameters, and the
program name and version from the user agent. -/
structure receiver_thread where
  fd : Int
  ssl : NETDATA_SSL
  rpt : receiver_state
  program_name : Option String
  program_version : Option String
  deriving DecidableEq

/-- What a call leaves: the HTTP code, the status it logged, the web client, the limiter's
`last_stream_accepted_t`, and the receiver thread it started. -/
structure Outcome where
  code : Nat
  status : Option RRDPUSH_STATUS
  w : web_client
  last_stream_accepted_t : Int
  receiver : Option receiver_thread
  deriving DecidableEq

section Code

variable (T : Texts) (E : Env)

def rrdpush_receiver_permission_denied (w : web_client) : web_client :=
  { w with response := T.START_STREAMING_ERROR_NOT_PERMITTED }

def rrdpush_receiver_too_busy_now (w : web_client) : web_client :=
  { w with response := T.START_STREAMING_ERROR_BUSY_TRY_LATER }

/-- The web client's side of the hand-off: its TLS state is unset, it is marked dead, and its
descriptors are cleared, or kept open for the static-threaded server to forget. -/
def rrdpush_receiver_takeover_web_connection (w : web_client) : web_client :=
  let w := { w with ssl := NETDATA_SSL_UNSET_CONNECTION, dead := true }
  let w :=
    if E.web_server_mode_static_threaded then { w with dont_close_socket := true }
    else if w.ifd = w.ofd then { w with ifd := -1, ofd := -1 }
    else { w with ifd := -1 }
  { w with response := "" }

/-- The `*t = '\0'` at `strchr(w->user_agent, '/')`: the web client's agent is cut at its first
`/` (an agent with none, or empty, stays as it is). -/
def cut_user_agent (w : web_client) : web_client :=
  { w with user_agent := w.user_agent.map fun ua => ⟨(strsep '/' ua.toList).1⟩ }

/-- `strchr(w->user_agent, '/')`: the program name before the first `/`, the version after it. -/
def program_of (user_agent : Option String) : Option String × Option String :=
  match user_agent with
  | none | some "" => (none, none)
  | some ua =>
    match strsep '/' ua.toList with
    | (name, some (c :: cs)) => (some ⟨name⟩, some ⟨c :: cs⟩)
    | (name, _) => (some ⟨name⟩, none)

/-- `appconfig_get(...)`, with an empty answer read as `"unknown"`. -/
def config_type (config_section default : String) : String :=
  let t := E.appconfig_get config_section "type" default
  if t = "" then "unknown" else t

/-- A section's `allow from` pattern rejects the client. -/
def not_allowed_from (config_section client_ip : String) : Bool :=
  match E.simple_pattern_create (E.appconfig_get config_section "allow from" "*") with
  | some simple_pattern_matches => !simple_pattern_matches client_ip
  | none => false

/-- The checks that answer 401, in the source's order: the status of the first that fails. -/
def permission_check (client_ip : String) (rpt : receiver_state) : Option RRDPUSH_STATUS :=
  match rpt.key, rpt.hostname, rpt.machine_guid with
  | none, _, _ | some "", _, _ => some .NO_API_KEY
  | some _, none, _ | some _, some "", _ => some .NO_HOSTNAME
  | some _, some _, none | some _, some _, some "" => some .NO_MACHINE_GUID
  | some key, some _, some machine_guid =>
    if !E.regenerate_guid_ok key then some .INVALID_API_KEY
    else if !E.regenerate_guid_ok machine_guid then some .INVALID_MACHINE_GUID
    else if config_type E key "api" ≠ "api" then some .INVALID_API_KEY
    else if !E.appconfig_get_boolean key "enabled" false then some .API_KEY_DISABLED
    else if not_allowed_from E key client_ip then some .NOT_ALLOWED_IP
    else if config_type E machine_guid "machine" ≠ "machine" then some .INVALID_MACHINE_GUID
    else if !E.appconfig_get_boolean machine_guid "enabled" true then some .MACHINE_GUID_DISABLED
    else if not_allowed_from E machine_guid client_ip then some .NOT_ALLOWED_IP
    else none

/-- The look-up under `rrd_rdlock`: another receiver is working for the host, or is stale
and `stop_streaming_receiver` does not stop it. -/
def already_connected (machine_guid : String) : Bool :=
  match E.rrdhost_find_by_guid machine_guid with
  | some ⟨false, some last_msg_t⟩ =>
    let age := E.now_monotonic_sec - last_msg_t
    age < 30 || !E.stop_streaming_receiver
  | _ => false

def rrdpush_receiver_thread_spawn (last_stream_accepted_t : Int) (w : web_client)
    (decoded_query_string : Option (List Char)) : Outcome :=
  if !E.service_running then
    ⟨HTTP_RESP_SERVICE_UNAVAILABLE, none, rrdpush_receiver_too_busy_now T w,
      last_stream_accepted_t, none⟩
  else
  let rpt := parse_parameters E.header E.globally_disabled_capabilities E.strtoul E.strtol
    E.default_rrd_update_every decoded_query_string
  let (program_name, program_version) := program_of w.user_agent
  let w := cut_user_agent w
  match permission_check E w.client_ip rpt with
  | some status =>
    ⟨HTTP_RESP_UNAUTHORIZED, some status, rrdpush_receiver_permission_denied T w,
      last_stream_accepted_t, none⟩
  | none =>
  let rpt := { rpt with registry_hostname := rpt.registry_hostname.or rpt.hostname }
  let machine_guid := rpt.machine_guid.getD ""
  if machine_guid = E.localhost_machine_guid then
    ⟨HTTP_RESP_OK, some .LOCALHOST, rrdpush_receiver_takeover_web_connection E w,
      last_stream_accepted_t, none⟩
  else
  let (pass, last_stream_accepted_t) :=
    rate_limit E.web_client_streaming_rate_t last_stream_accepted_t E.now_realtime_sec
  if !pass then
    ⟨HTTP_RESP_SERVICE_UNAVAILABLE, some .RATE_LIMIT, rrdpush_receiver_too_busy_now T w,
      last_stream_accepted_t, none⟩
  else if already_connected E machine_guid then
    ⟨HTTP_RESP_CONFLICT, some .ALREADY_CONNECTED,
      { w with response := T.START_STREAMING_ERROR_ALREADY_STREAMING }, last_stream_accepted_t,
      none⟩
  else
  let taken := rrdpush_receiver_takeover_web_connection E w
  if !E.netdata_thread_create_ok then
    ⟨HTTP_RESP_INTERNAL_SERVER_ERROR, some .INTERNAL_SERVER_ERROR,
      { taken with response := "Can\x27t handle this request" }, last_stream_accepted_t, none⟩
  else
    ⟨HTTP_RESP_OK, none, taken, last_stream_accepted_t,
      some ⟨w.ifd, w.ssl, rpt, program_name, program_version⟩⟩

end Code

/-! ## Every path -/

section Paths

variable (T : Texts) (E : Env)

end Paths

/-! ## The 500 of a failed thread creation -/

/-- Any four texts. -/
def some_texts : Texts := ⟨"not permitted", "busy", "same localhost", "already streaming"⟩

/-- A parent that accepts every key and machine, has no limiter and no receiver for the child,
and cannot create a thread. -/
def unstartable_env : Env where
  service_running := true
  header := StreamHeader.tableOrder
  globally_disabled_capabilities := 0
  strtoul := fun _ => 0
  strtol := fun _ => 0
  default_rrd_update_every := 1
  appconfig_get := fun _ _ default => default
  appconfig_get_boolean := fun _ _ _ => true
  regenerate_guid_ok := fun _ => true
  simple_pattern_create := fun _ => none
  localhost_machine_guid := "parent"
  web_server_mode_static_threaded := false
  web_client_streaming_rate_t := 0
  now_realtime_sec := 100
  now_monotonic_sec := 100
  rrdhost_find_by_guid := fun _ => none
  stop_streaming_receiver := true
  netdata_thread_create_ok := false

/-- A live plain-TCP web client on descriptor 5. -/
def child_client : web_client := ⟨5, 5, ⟨1, 1⟩, "10.0.0.2", none, false, false, ""⟩

/-- The request passes every check, the socket is taken over, the thread does not start, and
the 500's text lands in a web client that is dead and has no descriptor. -/
theorem thread_failure_takes_socket :
    rrdpush_receiver_thread_spawn some_texts unstartable_env 0 child_client
        (some "key=k&hostname=h&machine_guid=m".toList) =
      ⟨HTTP_RESP_INTERNAL_SERVER_ERROR, some .INTERNAL_SERVER_ERROR,
        { child_client with ifd := -1, ofd := -1, ssl := NETDATA_SSL_UNSET_CONNECTION, dead := true,
                            response := "Can\x27t handle this request" },
        0, none⟩ := by
  simp only [rrdpush_receiver_thread_spawn, parse_parameters_eq]
  decide

end Netdata.Stream.Spawn
