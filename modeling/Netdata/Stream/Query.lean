import Netdata.Stream.Capabilities
import Mathlib.Data.List.Basic
/-!
# The parameters of a streaming request

The first part of `rrdpush_receiver_thread_spawn` (`src/streaming/rrdpush.c`): the loop that
cuts the decoded query string at `&` and `=` with `strsep_skip_consecutive_separators`, the
`if`/`else if` chain that fills `rpt` and `rpt->system_info` from each pair, and the fallback
to version 0 after the loop.

- `params_loop_eq`: the loop ends on every query string, and it runs the chain once on each
  `&`-separated part with a non-empty name and value (`query_pairs`), in order.
- `query_round_trip`: so a query that joins `name=value` pairs with `&` is read back pair by
  pair, when names and values are not empty, hold no `&`, and names hold no `=`.
- `parse_parameters_fields`: `key`, `hostname`, ... take the first pair of their name,
  `update_every`, `utc_offset`, `hops`, ... the last one, and the capabilities are converted
  from the first `ver` or `NETDATA_PROTOCOL_VERSION` pair (version 0 when there is none), so
  they never hold `STREAM_CAP_INVALID`.
-/

namespace Netdata.Stream.Query

open StreamHeader

/-! ## Cutting the query string -/

/-- Modelled from the spec (§4.4, parameters of a URL-encoded query; libc's `strsep` is not in
the source): on a non-NULL `*ptr`, the token before the first `delim`, and what follows that
`delim`, NULL when there is none. -/
def strsep (delim : Char) : List Char → List Char × Option (List Char)
  | [] => ([], none)
  | c :: cs =>
    if c = delim then ([], some cs)
    else match strsep delim cs with
      | (token, rest) => (c :: token, rest)

/-- Modelled from the spec (§4.4; the libnetdata helper is not in the source): `strsep` until
the token is not empty or the string ends. A `strsep` that returns an empty token with a rest
met a `delim` first, so the loop drops leading delimiters (`strsep_skip_loop`). -/
def strsep_skip_consecutive_separators (delim : Char) :
    Option (List Char) → List Char × Option (List Char)
  | none => ([], none)
  | some s => skip s
where
  skip : List Char → List Char × Option (List Char)
    | [] => ([], none)
    | c :: cs => if c = delim then skip cs else strsep delim (c :: cs)

/-- The helper's loop, `p = ""; while (p && !p[0] && *ptr) p = strsep(ptr, s);`, one turn. -/
theorem strsep_skip_loop (delim : Char) (s : List Char) :
    strsep_skip_consecutive_separators delim (some s) =
      match strsep delim s with
      | ([], some rest) => strsep_skip_consecutive_separators delim (some rest)
      | p => p := by
  cases s with
  | nil => rfl
  | cons c cs =>
    by_cases h : c = delim
    · simp [strsep_skip_consecutive_separators, strsep_skip_consecutive_separators.skip, strsep, h]
    · simp only [strsep_skip_consecutive_separators, strsep_skip_consecutive_separators.skip,
        strsep, h, if_false]

theorem strsep_rest_length {delim : Char} :
    ∀ {s rest : List Char}, (strsep delim s).2 = some rest → rest.length < s.length
  | [], _, h => nomatch h
  | c :: cs, rest, h => by
    unfold strsep at h
    split at h
    · cases h; simp
    · have := strsep_rest_length (s := cs) h
      simp only [List.length_cons]; omega

theorem strsep_skip_rest_length {delim : Char} :
    ∀ {s rest : List Char},
      (strsep_skip_consecutive_separators delim (some s)).2 = some rest → rest.length < s.length
  | [], _, h => nomatch h
  | c :: cs, rest, h => by
    simp only [strsep_skip_consecutive_separators, strsep_skip_consecutive_separators.skip] at h
    split at h
    · have := strsep_skip_rest_length (s := cs) h
      simp only [List.length_cons]; omega
    · exact strsep_rest_length h

/-- What the loop has left to cut: nothing once the pointer is NULL. -/
def rest_length : Option (List Char) → Nat
  | none => 0
  | some s => s.length + 1

theorem rest_length_strsep_skip (delim : Char) (s : List Char) :
    rest_length (strsep_skip_consecutive_separators delim (some s)).2 < rest_length (some s) := by
  cases h : (strsep_skip_consecutive_separators delim (some s)).2 with
  | none => simp [rest_length]
  | some r => have := strsep_skip_rest_length h; simp only [rest_length]; omega

/-- `strsep` takes the first part of `List.splitOn`, and leaves the others in its rest. -/
theorem splitOn_strsep (delim : Char) (s : List Char) :
    s.splitOn delim = (strsep delim s).1 :: ((strsep delim s).2.map (List.splitOn delim)).getD []
    := by
  induction s with
  | nil => rfl
  | cons c cs ih =>
    simp only [List.splitOn, List.splitOnP_cons, beq_iff_eq] at ih ⊢
    by_cases h : c = delim
    · simp [strsep, h]
      rfl
    · simp only [h, if_false, strsep, ih]
      rfl

/-- The skipping `strsep` drops the empty parts before its token; `f` drops empty parts too. -/
theorem filterMap_splitOn_strsep_skip {β : Type} {f : List Char → Option β} (hf : f [] = none)
    (delim : Char) (s : List Char) :
    (s.splitOn delim).filterMap f =
      (f (strsep_skip_consecutive_separators delim (some s)).1).toList ++
        (((strsep_skip_consecutive_separators delim (some s)).2.map
          (List.splitOn delim)).getD []).filterMap f := by
  induction s with
  | nil => simp [hf, strsep_skip_consecutive_separators, strsep_skip_consecutive_separators.skip]
  | cons c cs ih =>
    by_cases h : c = delim
    · subst h
      simp [strsep_skip_consecutive_separators, strsep_skip_consecutive_separators.skip,
        List.splitOn, hf] at ih ⊢
      exact ih
    · rw [splitOn_strsep]
      simp only [strsep_skip_consecutive_separators, strsep_skip_consecutive_separators.skip, h,
        if_false, List.filterMap_cons]
      cases f (strsep delim (c :: cs)).1 <;> rfl

/-! ## The state the loop fills -/

/-- The fields of `struct rrdhost_system_info` the loop writes (its declaration is not in the
source; `ml_capable`, `ml_enabled` and `mc_version` keep the `unsigned long` of `strtoul`), and
the pairs handed to `rrdhost_set_system_info_variable`, which is not in the source either. -/
structure rrdhost_system_info where
  hops : BitVec 16
  ml_capable : BitVec 64
  ml_enabled : BitVec 64
  mc_version : BitVec 64
  host_variables : List (String × String)
  deriving DecidableEq, Repr

/-- The fields of `struct receiver_state` the loop writes, at the widths of the source's casts:
`(int)` for `config.update_every`, `(int32_t)` for `utc_offset`, `(uint16_t)` for `hops`. -/
structure receiver_state where
  key : Option String
  hostname : Option String
  registry_hostname : Option String
  machine_guid : Option String
  os : Option String
  timezone : Option String
  abbrev_timezone : Option String
  tags : Option String
  update_every : BitVec 32
  utc_offset : BitVec 32
  hops : BitVec 16
  capabilities : BitVec 32
  system_info : rrdhost_system_info
  deriving DecidableEq, Repr

/-- An old child's `NETDATA_SYSTEM_*` variable and the `NETDATA_HOST_*` name it is stored as. -/
def old_system_name (name : String) : Option String :=
  if name = "NETDATA_SYSTEM_OS_NAME" then some "NETDATA_HOST_OS_NAME"
  else if name = "NETDATA_SYSTEM_OS_ID" then some "NETDATA_HOST_OS_ID"
  else if name = "NETDATA_SYSTEM_OS_ID_LIKE" then some "NETDATA_HOST_OS_ID_LIKE"
  else if name = "NETDATA_SYSTEM_OS_VERSION" then some "NETDATA_HOST_OS_VERSION"
  else if name = "NETDATA_SYSTEM_OS_VERSION_ID" then some "NETDATA_HOST_OS_VERSION_ID"
  else if name = "NETDATA_SYSTEM_OS_DETECTION" then some "NETDATA_HOST_OS_DETECTION"
  else none

section Chain

-- `strtoul(value, NULL, 0)` and `strtol(value, NULL, 0)` are libc's (not in the source): any
-- functions.
variable (H : StreamHeader) (globally_disabled_capabilities : BitVec 32)
  (strtoul strtol : String → BitVec 64)

/-- `rpt` as `callocz` and the lines before the loop leave it. -/
def receiver_state.init (default_rrd_update_every : BitVec 32) : receiver_state where
  key := none
  hostname := none
  registry_hostname := none
  machine_guid := none
  os := none
  timezone := none
  abbrev_timezone := none
  tags := none
  update_every := default_rrd_update_every
  utc_offset := 0
  hops := 1
  capabilities := H.cap .INVALID
  system_info := ⟨1, 0, 0, 0, []⟩

/-- Not in the source: `rrdhost_set_system_info_variable` stores what it knows of a variable
in `rpt->system_info`; the model records the pair. -/
def rrdhost_set_system_info_variable (system_info : rrdhost_system_info) (name value : String) :
    rrdhost_system_info :=
  { system_info with host_variables := system_info.host_variables ++ [(name, value)] }

/-- The last `else` of the chain: an old child's names are renamed, `NETDATA_PROTOCOL_VERSION`
stands for version 1 while no version is set, and the pair goes to
`rrdhost_set_system_info_variable`. -/
def latch_other (rpt : receiver_state) (name value : String) : receiver_state :=
  match old_system_name name with
  | some host_name =>
    { rpt with system_info := rrdhost_set_system_info_variable rpt.system_info host_name value }
  | none =>
    let rpt := if name = "NETDATA_PROTOCOL_VERSION" ∧ rpt.capabilities &&& H.cap .INVALID ≠ 0
      then { rpt with
        capabilities := H.convert_stream_version_to_capabilities globally_disabled_capabilities
          1 none false }
      else rpt
    { rpt with system_info := rrdhost_set_system_info_variable rpt.system_info name value }

/-- The `if`/`else if` chain on one pair `name=value`. -/
def latch (rpt : receiver_state) (name value : String) : receiver_state :=
  if name = "key" ∧ rpt.key = none then { rpt with key := some value }
  else if name = "hostname" ∧ rpt.hostname = none then { rpt with hostname := some value }
  else if name = "registry_hostname" ∧ rpt.registry_hostname = none then
    { rpt with registry_hostname := some value }
  else if name = "machine_guid" ∧ rpt.machine_guid = none then
    { rpt with machine_guid := some value }
  else if name = "update_every" then { rpt with update_every := (strtoul value).setWidth 32 }
  else if name = "os" ∧ rpt.os = none then { rpt with os := some value }
  else if name = "timezone" ∧ rpt.timezone = none then { rpt with timezone := some value }
  else if name = "abbrev_timezone" ∧ rpt.abbrev_timezone = none then
    { rpt with abbrev_timezone := some value }
  else if name = "utc_offset" then { rpt with utc_offset := (strtol value).setWidth 32 }
  else if name = "hops" then
    { rpt with hops := (strtoul value).setWidth 16,
               system_info := { rpt.system_info with hops := (strtoul value).setWidth 16 } }
  else if name = "ml_capable" then
    { rpt with system_info := { rpt.system_info with ml_capable := strtoul value } }
  else if name = "ml_enabled" then
    { rpt with system_info := { rpt.system_info with ml_enabled := strtoul value } }
  else if name = "mc_version" then
    { rpt with system_info := { rpt.system_info with mc_version := strtoul value } }
  else if name = "tags" ∧ rpt.tags = none then { rpt with tags := some value }
  else if name = "ver" ∧ rpt.capabilities &&& H.cap .INVALID ≠ 0 then
    { rpt with
      capabilities := H.convert_stream_version_to_capabilities globally_disabled_capabilities
        ((strtoul value).setWidth 32) none false }
  else latch_other H globally_disabled_capabilities rpt name value

/-- The name and value the loop reads from one `&`-separated part, or `none` where it
`continue`s: an empty part, an empty name, or no or an empty value. -/
def param_pair (value : List Char) : Option (String × String) :=
  if value = [] then none
  else match strsep_skip_consecutive_separators '=' (some value) with
    | (name, some v) => if name = [] ∨ v = [] then none else some (⟨name⟩, ⟨v⟩)
    | (_, none) => none

/-- `while(decoded_query_string) { ... }`. -/
def params_loop (rpt : receiver_state) : Option (List Char) → receiver_state
  | none => rpt
  | some q =>
    params_loop
      (match param_pair (strsep_skip_consecutive_separators '&' (some q)).1 with
        | some (name, v) => latch H globally_disabled_capabilities strtoul strtol rpt name v
        | none => rpt)
      (strsep_skip_consecutive_separators '&' (some q)).2
termination_by q => rest_length q
decreasing_by exact rest_length_strsep_skip _ _

/-- The loop and the fallback after it: no `ver` and no `NETDATA_PROTOCOL_VERSION` pair mean
version 0. -/
def parse_parameters (default_rrd_update_every : BitVec 32)
    (decoded_query_string : Option (List Char)) : receiver_state :=
  let rpt := params_loop H globally_disabled_capabilities strtoul strtol
    (receiver_state.init H default_rrd_update_every) decoded_query_string
  if rpt.capabilities &&& H.cap .INVALID ≠ 0 then
    { rpt with
      capabilities := H.convert_stream_version_to_capabilities
        globally_disabled_capabilities 0 none false }
  else rpt

end Chain

/-- The pairs the loop hands to the chain: the `&`-separated parts with a name and a value. -/
def query_pairs : Option (List Char) → List (String × String)
  | none => []
  | some q => (q.splitOn '&').filterMap param_pair

theorem param_pair_nil : param_pair [] = none := rfl

section Loop

variable {H : StreamHeader} {g : BitVec 32} {strtoul strtol : String → BitVec 64}

/-- The loop ends on every query string, and runs the chain on `query_pairs`, in order. -/
theorem params_loop_eq (rpt : receiver_state) (q : Option (List Char)) :
    params_loop H g strtoul strtol rpt q =
      (query_pairs q).foldl (fun r p => latch H g strtoul strtol r p.1 p.2) rpt := by
  induction rpt, q using params_loop.induct H g strtoul strtol with
  | case1 rpt => simp [params_loop, query_pairs]
  | case2 rpt q ih =>
    rw [params_loop, ih, query_pairs, filterMap_splitOn_strsep_skip param_pair_nil]
    cases (strsep_skip_consecutive_separators '&' (some q)).2 <;>
      cases param_pair (strsep_skip_consecutive_separators '&' (some q)).1 <;> rfl

/-- Empty parts, names and values are skipped; a value keeps a second `=`. -/
example : query_pairs (some "&&key=a&=x&ver&hops=3&key=b&ver==2".toList) =
    [("key", "a"), ("hops", "3"), ("key", "b"), ("ver", "=2")] := by decide

/-- A query as the spec's §4.4 lists its parameters: each pair as `name=value`, the pairs joined
by `&`. -/
def query_of_pairs (ps : List (String × String)) : List Char :=
  ['&'].intercalate (ps.map fun p => p.1.toList ++ '=' :: p.2.toList)

/-- A pair such a query carries unchanged: a name and a value that are not empty and hold no
`&`, and a name without `=`. -/
def plain_pair (p : String × String) : Prop :=
  p.1.toList ≠ [] ∧ '&' ∉ p.1.toList ∧ '=' ∉ p.1.toList ∧ p.2.toList ≠ [] ∧ '&' ∉ p.2.toList

instance (p : String × String) : Decidable (plain_pair p) := inferInstanceAs (Decidable (_ ∧ _))

theorem strsep_append {delim : Char} {token : List Char} (h : delim ∉ token)
    (rest : List Char) : strsep delim (token ++ delim :: rest) = (token, some rest) := by
  induction token with
  | nil => simp [strsep]
  | cons c cs ih =>
    have hc : c ≠ delim := fun e => h (e ▸ List.mem_cons_self _ _)
    simp [strsep, hc, ih (fun e => h (List.mem_cons_of_mem _ e))]

theorem param_pair_plain {p : String × String} (h : plain_pair p) :
    param_pair (p.1.toList ++ '=' :: p.2.toList) = some p := by
  obtain ⟨hn, -, he, hv, -⟩ := h
  obtain ⟨c, cs, hcs⟩ := List.exists_cons_of_ne_nil hn
  have hc : c ≠ '=' := fun e => he (hcs ▸ e ▸ List.mem_cons_self _ _)
  rw [param_pair, if_neg (by simp), strsep_skip_consecutive_separators, hcs, List.cons_append,
    strsep_skip_consecutive_separators.skip, if_neg hc, ← List.cons_append, ← hcs,
    strsep_append he]
  simpa using And.intro hn hv

/-- For every list of pairs with non-empty names and values, no `&` in either and no `=` in a
name, the loop over the query that joins them runs the chain on exactly those pairs, in order. -/
theorem query_round_trip (rpt : receiver_state) (ps : List (String × String))
    (hps : ∀ p ∈ ps, plain_pair p) :
    params_loop H g strtoul strtol rpt (some (query_of_pairs ps)) =
      ps.foldl (fun r p => latch H g strtoul strtol r p.1 p.2) rpt := by
  rw [params_loop_eq, query_pairs, query_of_pairs]
  by_cases hne : ps = []
  · subst hne; rfl
  have hsep : ∀ l ∈ ps.map (fun p => p.1.toList ++ '=' :: p.2.toList), '&' ∉ l := by
    simp only [List.mem_map]
    rintro _ ⟨p, hp, rfl⟩
    obtain ⟨-, hn, -, -, hv⟩ := hps p hp
    simpa using And.intro hn hv
  have e : ps.filterMap (param_pair ∘ fun p => p.1.toList ++ '=' :: p.2.toList) = ps.map id :=
    List.filterMap_eq_map_iff_forall_eq_some.2 fun p hp => param_pair_plain (hps p hp)
  rw [List.splitOn_intercalate _ '&' hsep (by simpa using hne), List.filterMap_map, e,
    List.map_id]

end Loop

/-- A key and a version read back from the query `key=k1&ver=8`. -/
theorem key_and_version_read_back :
    (∀ p ∈ [("key", "k1"), ("ver", "8")], plain_pair p) ∧
      params_loop StreamHeader.tableOrder 0 (fun _ => 8) (fun _ => 0)
          (receiver_state.init StreamHeader.tableOrder 1)
          (some (query_of_pairs [("key", "k1"), ("ver", "8")])) =
        [("key", "k1"), ("ver", "8")].foldl
          (fun r p => latch StreamHeader.tableOrder 0 (fun _ => 8) (fun _ => 0) r p.1 p.2)
          (receiver_state.init StreamHeader.tableOrder 1) :=
  ⟨by decide, query_round_trip _ _ (by decide)⟩

/-! ## Which pair each field keeps -/

/-- The fields the chain latches on the first pair of their name (a `!rpt->x` guard). -/
inductive Latched where
  | key | hostname | registry_hostname | machine_guid | os | timezone | abbrev_timezone | tags
  deriving DecidableEq, Repr

def Latched.name : Latched → String
  | key => "key"
  | hostname => "hostname"
  | registry_hostname => "registry_hostname"
  | machine_guid => "machine_guid"
  | os => "os"
  | timezone => "timezone"
  | abbrev_timezone => "abbrev_timezone"
  | tags => "tags"

def Latched.get : Latched → receiver_state → Option String
  | key, rpt => rpt.key
  | hostname, rpt => rpt.hostname
  | registry_hostname, rpt => rpt.registry_hostname
  | machine_guid, rpt => rpt.machine_guid
  | os, rpt => rpt.os
  | timezone, rpt => rpt.timezone
  | abbrev_timezone, rpt => rpt.abbrev_timezone
  | tags, rpt => rpt.tags

/-- The fields the chain overwrites on every pair of their name; `hops` is written to `rpt` and
to `rpt->system_info` by one branch. -/
inductive Overwritten where
  | update_every | utc_offset | hops | system_info_hops | ml_capable | ml_enabled | mc_version
  deriving DecidableEq, Repr

def Overwritten.name : Overwritten → String
  | update_every => "update_every"
  | utc_offset => "utc_offset"
  | hops | system_info_hops => "hops"
  | ml_capable => "ml_capable"
  | ml_enabled => "ml_enabled"
  | mc_version => "mc_version"

def Overwritten.width : Overwritten → Nat
  | update_every | utc_offset => 32
  | hops | system_info_hops => 16
  | ml_capable | ml_enabled | mc_version => 64

def Overwritten.get : (f : Overwritten) → receiver_state → BitVec f.width
  | update_every, rpt => rpt.update_every
  | utc_offset, rpt => rpt.utc_offset
  | hops, rpt => rpt.hops
  | system_info_hops, rpt => rpt.system_info.hops
  | ml_capable, rpt => rpt.system_info.ml_capable
  | ml_enabled, rpt => rpt.system_info.ml_enabled
  | mc_version, rpt => rpt.system_info.mc_version

/-- What the field's branch stores for a value. -/
def Overwritten.convert (strtoul strtol : String → BitVec 64) (value : String) :
    (f : Overwritten) → BitVec f.width
  | update_every => (strtoul value).setWidth 32
  | utc_offset => (strtol value).setWidth 32
  | hops | system_info_hops => (strtoul value).setWidth 16
  | ml_capable | ml_enabled | mc_version => strtoul value

@[simp] theorem Latched.get_capabilities (f : Latched) (rpt : receiver_state) (c : BitVec 32) :
    f.get { rpt with capabilities := c } = f.get rpt := by
  cases f <;> rfl

@[simp] theorem Latched.get_init (H : StreamHeader) (d : BitVec 32) (f : Latched) :
    f.get (receiver_state.init H d) = none := by
  cases f <;> rfl

@[simp] theorem Overwritten.get_capabilities (f : Overwritten) (rpt : receiver_state)
    (c : BitVec 32) : f.get { rpt with capabilities := c } = f.get rpt := by
  cases f <;> rfl

section Fields

variable {H : StreamHeader} {g : BitVec 32} {strtoul strtol : String → BitVec 64}

theorem latch_other_latched (rpt : receiver_state) (name value : String) (f : Latched) :
    f.get (latch_other H g rpt name value) = f.get rpt := by
  unfold latch_other
  split
  · cases f <;> rfl
  · split <;> cases f <;> rfl

theorem latch_other_overwritten (rpt : receiver_state) (name value : String) (f : Overwritten) :
    f.get (latch_other H g rpt name value) = f.get rpt := by
  unfold latch_other
  split
  · cases f <;> rfl
  · split <;> cases f <;> rfl

theorem latch_other_capabilities (rpt : receiver_state) (name value : String) :
    (latch_other H g rpt name value).capabilities =
      if name = "NETDATA_PROTOCOL_VERSION" ∧ H.has rpt.capabilities .INVALID
      then H.convert_stream_version_to_capabilities g 1 none false
      else rpt.capabilities := by
  unfold latch_other
  simp only [ne_eq, and_cap_eq_zero_iff, Bool.not_eq_false]
  split
  · next h =>
    have : name ≠ "NETDATA_PROTOCOL_VERSION" := by rintro rfl; simp [old_system_name] at h
    simp [this]
  · split_ifs <;> rfl

theorem latch_latched (rpt : receiver_state) (name value : String) (f : Latched) :
    f.get (latch H g strtoul strtol rpt name value) =
      if name = f.name ∧ f.get rpt = none then some value else f.get rpt := by
  simp only [latch, apply_ite f.get, latch_other_latched]
  by_cases hn : name = f.name
  · subst hn; cases f <;> simp [Latched.get, Latched.name]
  · cases f <;> simp_all [Latched.get, Latched.name]

theorem latch_overwritten (rpt : receiver_state) (name value : String) (f : Overwritten) :
    f.get (latch H g strtoul strtol rpt name value) =
      if name = f.name then f.convert strtoul strtol value else f.get rpt := by
  simp only [latch, apply_ite f.get, latch_other_overwritten]
  by_cases hn : name = f.name
  · subst hn; cases f <;> simp [Overwritten.get, Overwritten.name, Overwritten.convert]
  · cases f <;> simp_all [Overwritten.get, Overwritten.name]

theorem latch_capabilities (rpt : receiver_state) (name value : String) :
    (latch H g strtoul strtol rpt name value).capabilities =
      if (name = "ver" ∨ name = "NETDATA_PROTOCOL_VERSION") ∧ H.has rpt.capabilities .INVALID
      then H.convert_stream_version_to_capabilities g
        (if name = "ver" then (strtoul value).setWidth 32 else 1) none false
      else rpt.capabilities := by
  simp only [latch, apply_ite receiver_state.capabilities, latch_other_capabilities, ne_eq,
    and_cap_eq_zero_iff, Bool.not_eq_false]
  by_cases hv : name = "ver"
  · subst hv; simp
  by_cases hp : name = "NETDATA_PROTOCOL_VERSION"
  · subst hp; simp
  · simp [hv, hp]

end Fields

/-! ## Over the whole loop -/

section Run

variable {α : Type} (step : receiver_state → String → String → receiver_state)

/-- A field the step sets on the first pair of its name keeps that pair's value. -/
theorem foldl_first {get : receiver_state → Option String} {N : String}
    (hget : ∀ rpt n v, get (step rpt n v) = if n = N ∧ get rpt = none then some v else get rpt)
    (ps : List (String × String)) (rpt : receiver_state) :
    get (ps.foldl (fun r p => step r p.1 p.2) rpt) =
      (get rpt).or ((ps.find? (·.1 = N)).map (·.2)) := by
  induction ps generalizing rpt with
  | nil => simp
  | cons p ps ih =>
    rw [List.foldl_cons, ih, hget]
    by_cases hn : p.1 = N <;> cases get rpt <;> simp [hn]

/-- A field the step overwrites on every pair of its name keeps the last one's value. -/
theorem foldl_last {get : receiver_state → α} {N : String} {conv : String → α}
    (hget : ∀ rpt n v, get (step rpt n v) = if n = N then conv v else get rpt)
    (ps : List (String × String)) (rpt : receiver_state) :
    get (ps.foldl (fun r p => step r p.1 p.2) rpt) =
      ((ps.reverse.find? (·.1 = N)).map (conv ·.2)).getD (get rpt) := by
  induction ps using List.reverseRecOn with
  | nil => simp
  | append_singleton ps p ih =>
    rw [List.foldl_append, List.foldl_cons, List.foldl_nil, hget, ih]
    by_cases hn : p.1 = N <;> simp [hn]

end Run

section Version

variable {H : StreamHeader} {g : BitVec 32} {strtoul strtol : String → BitVec 64}

/-- Once `STREAM_CAP_INVALID` is gone no pair changes the capabilities. -/
theorem foldl_capabilities_of_valid (ps : List (String × String)) (rpt : receiver_state)
    (hi : H.has rpt.capabilities .INVALID = false) :
    (ps.foldl (fun r p => latch H g strtoul strtol r p.1 p.2) rpt).capabilities =
      rpt.capabilities := by
  induction ps generalizing rpt with
  | nil => rfl
  | cons p ps ih =>
    have hc : (latch H g strtoul strtol rpt p.1 p.2).capabilities = rpt.capabilities := by
      simp [latch_capabilities, hi]
    rw [List.foldl_cons, ih _ (hc ▸ hi), hc]

/-- The first `ver` or `NETDATA_PROTOCOL_VERSION` pair sets the capabilities. -/
theorem foldl_capabilities (ps : List (String × String)) (rpt : receiver_state)
    (hi : H.has rpt.capabilities .INVALID = true) :
    (ps.foldl (fun r p => latch H g strtoul strtol r p.1 p.2) rpt).capabilities =
      match ps.find? (fun p => p.1 = "ver" ∨ p.1 = "NETDATA_PROTOCOL_VERSION") with
      | some p => H.convert_stream_version_to_capabilities g
          (if p.1 = "ver" then (strtoul p.2).setWidth 32 else 1) none false
      | none => rpt.capabilities := by
  induction ps generalizing rpt with
  | nil => rfl
  | cons p ps ih =>
    have hc := @latch_capabilities H g strtoul strtol rpt p.1 p.2
    rw [List.foldl_cons]
    by_cases hp : p.1 = "ver" ∨ p.1 = "NETDATA_PROTOCOL_VERSION"
    · rw [if_pos ⟨hp, hi⟩] at hc
      rw [foldl_capabilities_of_valid _ _ (by rw [hc]; exact has_convert_invalid ..), hc]
      simp [hp]
    · rw [if_neg (fun h => hp h.1)] at hc
      rw [ih _ (by rwa [hc]), hc]
      simp [hp]

/-- The fallback after the loop touches the capabilities only. -/
theorem parse_parameters_eq (d : BitVec 32) (q : Option (List Char)) :
    parse_parameters H g strtoul strtol d q =
      let rpt := (query_pairs q).foldl (fun r p => latch H g strtoul strtol r p.1 p.2)
        (receiver_state.init H d)
      { rpt with capabilities :=
          if H.has rpt.capabilities .INVALID
          then H.convert_stream_version_to_capabilities g 0 none false
          else rpt.capabilities } := by
  simp only [parse_parameters, params_loop_eq, ne_eq, and_cap_eq_zero_iff, Bool.not_eq_false]
  split_ifs <;> rfl

end Version

theorem parse_parameters_fields (H : StreamHeader) (g : BitVec 32)
    (strtoul strtol : String → BitVec 64) (default_rrd_update_every : BitVec 32)
    (q : Option (List Char)) :
    let rpt := parse_parameters H g strtoul strtol default_rrd_update_every q
    (∀ f : Latched, f.get rpt = ((query_pairs q).find? (·.1 = f.name)).map (·.2)) ∧
    (∀ f : Overwritten, f.get rpt =
      (((query_pairs q).reverse.find? (·.1 = f.name)).map (f.convert strtoul strtol ·.2)).getD
        (f.get (receiver_state.init H default_rrd_update_every))) ∧
    rpt.capabilities = H.convert_stream_version_to_capabilities g
      (match (query_pairs q).find? (fun p => p.1 = "ver" ∨ p.1 = "NETDATA_PROTOCOL_VERSION") with
        | some p => if p.1 = "ver" then (strtoul p.2).setWidth 32 else 1
        | none => 0) none false ∧
    H.has rpt.capabilities .INVALID = false := by
  have hinit : H.has (receiver_state.init H default_rrd_update_every).capabilities .INVALID := by
    simp [receiver_state.init]
  rw [parse_parameters_eq]
  dsimp only
  rw [foldl_capabilities _ _ hinit]
  refine ⟨fun f => ?_, fun f => ?_, ?_⟩
  · rw [Latched.get_capabilities, foldl_first _ (fun r n v => latch_latched r n v f),
      Latched.get_init, Option.none_or]
  · rw [Overwritten.get_capabilities, foldl_last _ (fun r n v => latch_overwritten r n v f)]
  · generalize List.find? _ (query_pairs q) = found
    cases found <;> simp [hinit, has_convert_invalid]

end Netdata.Stream.Query
