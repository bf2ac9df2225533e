import Netdata.Stream.Publication
import Netdata.Stream.Messages
import Netdata.Stream.Values
/-!
# The lines on the wire refine the publication order

`Publication` orders the records of the sender buffer by the chart and dimension each names;
`Definition` and `Messages` write the lines themselves, from the same functions of
`src/streaming/rrdpush.c`. `abstract_line` reads a line back as a `Publication` record: its verb,
the chart it belongs to, and the dimension its first quoted field names; chart labels and chart
variables have no record there.

- `definition_refines`: the lines of `rrdpush_send_chart_definition`, its
  `CHART_DEFINITION_END` when replication is negotiated included, are the records of
  `Publication.definition`, and it returns whether replication is in progress as `Publication`
  has it.
- `chart_metrics_refines`: in a tick that updated every dimension, the lines of
  `rrdpush_send_chart_metrics` are the version 1 records of `Publication.value_group`.
- `tick_v2_refines`: in a version 2 tick of one stored point per dimension, all in one second
  past the first, the lines `rrdset_push_metrics_finished` commits are the version 2 records of
  `Publication.value_group`.
-/

namespace Netdata.Stream.Layers

open Definition

/-- The first quoted field of a line: the chart of `BEGIN`, the dimension of `SET` and, after
its slot, of `DIMENSION`. -/
def first_str : List Field → Option String
  | [] => none
  | .str s :: _ => some s
  | _ :: fs => first_str fs

/-- What `Publication` keeps of a line of chart `st`, with `index` numbering the chart's
dimensions by id. -/
def abstract_line (st : Nat) (index : String → Nat) (r : Record) : Option Publication.Record :=
  if r.verb = "CHART" then some (.CHART st)
  else if r.verb = "DIMENSION" then (first_str r.fields).map (.DIMENSION st ∘ index)
  else if r.verb = "BEGIN" then some (.BEGIN st)
  else if r.verb = "SET" then (first_str r.fields).map (.SET st ∘ index)
  else if r.verb = "END" then some .END
  else if r.verb = "CHART_DEFINITION_END" then some (.CHART_DEFINITION_END st)
  else none

theorem first_str_slot_field (H : StreamHeader) (capabilities : BitVec 32)
    (print_slot : Nat → String) (slot : Nat) (fs : List Field) :
    first_str (slot_field H capabilities print_slot slot ++ fs) = first_str fs := by
  unfold slot_field
  split <;> rfl

/-! ## Definitions -/

theorem abstract_chart_record (H : StreamHeader) (capabilities : BitVec 32)
    (print_slot : Nat → String) (stc : RRDSET) (st : Nat) (index : String → Nat) :
    abstract_line st index (chart_record H capabilities print_slot stc) = some (.CHART st) := rfl

theorem abstract_dimension_record (H : StreamHeader) (capabilities : BitVec 32)
    (print_slot : Nat → String) (rd : RRDDIM) (st : Nat) (index : String → Nat) :
    abstract_line st index (dimension_record H capabilities print_slot rd) =
      some (.DIMENSION st (index rd.id)) := by
  simp [abstract_line, dimension_record, first_str_slot_field, first_str]

theorem abstract_clabels (RRDLABEL_FLAG_INTERNAL : BitVec 32) (stc : RRDSET) (st : Nat)
    (index : String → Nat) :
    (rrdpush_send_clabels RRDLABEL_FLAG_INTERNAL stc).filterMap (abstract_line st index) = [] := by
  unfold rrdpush_send_clabels
  split
  · rfl
  · rw [List.filterMap_append, List.filterMap_map]
    split <;> simp [abstract_line, send_clabels_callback, Function.comp_def]

theorem abstract_if_nil (b : Bool) (rs : List Record) (st : Nat) (index : String → Nat)
    (h : ∀ r ∈ rs, abstract_line st index r = none) :
    (if b then rs else []).filterMap (abstract_line st index) = [] := by
  split
  · exact List.filterMap_eq_nil_iff.2 h
  · rfl

/-- Whatever the chart, its labels, functions and variables and the negotiated capabilities,
the definition lines of a chart whose dimensions `index` numbers as `Publication` does are the
records `Publication.definition` orders, on a host that replicates exactly when replication was
negotiated; and the definition returns that replication is in progress exactly then. -/
theorem definition_refines (H : StreamHeader) (capabilities RRDLABEL_FLAG_INTERNAL : BitVec 32)
    (print_slot : Nat → String) (stc : RRDSET) (dims : List RRDDIM)
    (functions chart_variables : List Record) (db_first_time_t db_last_time_t now : Nat)
    (h : Publication.RRDHOST) (st : Nat) (c : Publication.RRDSET) (index : String → Nat)
    (hdims : dims.map (fun rd => index rd.id) = c.dims.map Publication.RRDDIM.id)
    (hrep : h.REPLICATION = H.has capabilities .REPLICATION)
    (hfv : ∀ r ∈ functions ++ chart_variables, abstract_line st index r = none) :
    (rrdpush_send_chart_definition H capabilities RRDLABEL_FLAG_INTERNAL print_slot stc dims
        functions chart_variables db_first_time_t db_last_time_t now).1.filterMap
        (abstract_line st index) = Publication.definition h st c ∧
      (rrdpush_send_chart_definition H capabilities RRDLABEL_FLAG_INTERNAL print_slot stc dims
        functions chart_variables db_first_time_t db_last_time_t now).2 = h.REPLICATION := by
  have hd : dims.filterMap (abstract_line st index ∘ dimension_record H capabilities print_slot) =
      c.dims.map fun d => .DIMENSION st d.id := by
    have e : dims.filterMap (abstract_line st index ∘ dimension_record H capabilities print_slot) =
        dims.map fun rd => .DIMENSION st (index rd.id) :=
      List.filterMap_eq_map_iff_forall_eq_some.2 fun rd _ =>
        abstract_dimension_record H capabilities print_slot rd st index
    rw [e]
    simpa only [List.map_map, Function.comp_def] using
      congrArg (List.map (Publication.Record.DIMENSION st)) hdims
  have hl : (if H.has capabilities .CLABELS then
      rrdpush_send_clabels RRDLABEL_FLAG_INTERNAL stc else []).filterMap (abstract_line st index) =
        [] := by
    split
    · exact abstract_clabels RRDLABEL_FLAG_INTERNAL stc st index
    · rfl
  have hf := abstract_if_nil (H.has capabilities .FUNCTIONS) functions st index
    fun r hr => hfv r (List.mem_append_left _ hr)
  have hv := abstract_if_nil true chart_variables st index
    fun r hr => hfv r (List.mem_append_right _ hr)
  have he : (if H.has capabilities .REPLICATION then
      [chart_definition_end db_first_time_t db_last_time_t now] else []).filterMap
        (abstract_line st index) = if h.REPLICATION then [.CHART_DEFINITION_END st] else [] := by
    rw [hrep]
    split <;> rfl
  refine ⟨?_, hrep.symm⟩
  rw [rrdpush_send_chart_definition]
  simp only [List.filterMap_append, List.filterMap_map, hd, hl, hf, he,
    List.filterMap_cons, abstract_chart_record]
  rw [if_pos rfl] at hv
  rw [hv]
  simp [Publication.definition]

/-- The `cpu.user` definition, with slots and replication, against the one chart of
`Publication.one_chart` on a replicating host. -/
theorem cpu_user_definition_refines :
    [user_dim].map (fun rd => (fun _ => 0) rd.id) =
        ((Publication.RRDHOST.init Publication.one_chart).chart 0).dims.map Publication.RRDDIM.id ∧
      true = StreamHeader.tableOrder.has
        (StreamHeader.tableOrder.cap .SLOTS ||| StreamHeader.tableOrder.cap .REPLICATION)
        .REPLICATION ∧
      (∀ r ∈ ([] : List Record) ++ [], abstract_line 0 (fun _ => 0) r = none) ∧
      (rrdpush_send_chart_definition StreamHeader.tableOrder
          (StreamHeader.tableOrder.cap .SLOTS ||| StreamHeader.tableOrder.cap .REPLICATION) 0
          (fun _ => "0") cpu_user [user_dim] [] [] 10 20 30).1.filterMap
          (abstract_line 0 fun _ => 0) =
        Publication.definition { Publication.RRDHOST.init Publication.one_chart with REPLICATION := true }
          0 ((Publication.RRDHOST.init Publication.one_chart).chart 0) :=
  ⟨rfl, by decide, by simp, (definition_refines StreamHeader.tableOrder
    (StreamHeader.tableOrder.cap .SLOTS ||| StreamHeader.tableOrder.cap .REPLICATION) 0
    (fun _ => "0") cpu_user [user_dim] [] [] 10 20 30
    { Publication.RRDHOST.init Publication.one_chart with REPLICATION := true } 0
    ((Publication.RRDHOST.init Publication.one_chart).chart 0) (fun _ => 0) rfl (by decide)
    (by simp)).1⟩

/-! ## Values, version 1 -/

/-- In a tick that updated every dimension, with variables whose lines are none of `BEGIN`,
`SET` and `END`, the version 1 lines of a chart whose dimensions `index` numbers, and marks
exposed, as `Publication` does are the records of `Publication.value_group`. -/
theorem chart_metrics_refines (print_variables : Messages.RRDSET → List Record)
    (stm : Messages.RRDSET) (UPSTREAM_SEND_VARIABLES : Bool) (h : Publication.RRDHOST) (st : Nat)
    (c : Publication.RRDSET) (index : String → Nat) (hint : h.INTERPOLATED = false)
    (hdims : stm.dims.map (fun rd => (index rd.id, rd.exposed)) =
      c.dims.map fun d => (d.id, c.dim_exposed d))
    (hupdated : ∀ rd ∈ stm.dims, rd.updated = true)
    (hvars : ∀ r ∈ print_variables stm, abstract_line st index r = none) :
    (Messages.rrdpush_send_chart_metrics print_variables stm UPSTREAM_SEND_VARIABLES).1.filterMap
        (abstract_line st index) =
      Publication.value_group h st c := by
  have hsets : ((stm.dims.filter fun rd => rd.updated && rd.exposed).map
      Messages.set_record).filterMap
      (abstract_line st index) = (c.dims.filter c.dim_exposed).map fun d => .SET st d.id := by
    rw [List.filterMap_map, List.filter_congr fun rd hrd => by rw [hupdated rd hrd, Bool.true_and]]
    have e : (stm.dims.filter (·.exposed)).filterMap
        (abstract_line st index ∘ Messages.set_record) =
          (stm.dims.filter (·.exposed)).map fun rd => .SET st (index rd.id) :=
      List.filterMap_eq_map_iff_forall_eq_some.2 fun rd _ => by
        simp [abstract_line, Messages.set_record, first_str]
    rw [e]
    have := congrArg (fun l => (l.filter (·.2)).map (Publication.Record.SET st ∘ Prod.fst)) hdims
    simpa [List.filter_map, List.map_map, Function.comp_def] using this
  have hv : (if UPSTREAM_SEND_VARIABLES then print_variables stm else []).filterMap
      (abstract_line st index) = [] := by
    split
    · exact List.filterMap_eq_nil_iff.2 hvars
    · rfl
  simp only [Messages.rrdpush_send_chart_metrics, Messages.foldl_dim_step, List.nil_append,
    List.cons_append, List.filterMap_cons, List.filterMap_append, hsets, hv]
  simp [Publication.value_group, hint, abstract_line, Messages.begin_record]

/-- A tick of `cpu.user` with its one dimension updated and exposed. -/
def user_tick : Messages.RRDSET := ⟨"cpu.user", 100, 90, 1000000, [⟨"user", true, true, 7⟩]⟩

/-- The same chart as `Publication` keeps it: one dimension exposed at the chart's version. -/
def user_chart : Publication.RRDSET := ⟨default, [⟨0, 1⟩], 1, 1, true⟩

theorem user_tick_refines :
    (Publication.RRDHOST.init []).INTERPOLATED = false ∧
      user_tick.dims.map (fun rd => ((fun _ => 0) rd.id, rd.exposed)) =
        user_chart.dims.map (fun d => (d.id, user_chart.dim_exposed d)) ∧
      (∀ rd ∈ user_tick.dims, rd.updated = true) ∧
      (∀ r ∈ (fun _ => []) user_tick, abstract_line 0 (fun _ => 0) r = none) ∧
      (Messages.rrdpush_send_chart_metrics (fun _ => []) user_tick false).1.filterMap
          (abstract_line 0 fun _ => 0) =
        Publication.value_group (Publication.RRDHOST.init []) 0 user_chart :=
  ⟨rfl, rfl, by decide, by simp, chart_metrics_refines (fun _ => []) user_tick false
    (Publication.RRDHOST.init []) 0 user_chart (fun _ => 0) rfl rfl (by decide) (by simp)⟩

/-! ## Values, version 2 -/

/-- What `Publication` keeps of a version 2 line of chart `st`. -/
def abstract_v2 (st : Nat) (index : String → Nat) : Values.Line → Option Publication.Record
  | .BEGIN_V2 .. => some (.BEGIN_V2 st)
  | .SET_V2 _ id .. => some (.SET_V2 st (index id))
  | .VARIABLES _ => none
  | .END_V2 => some .END_V2

/-- What a tick commits in version 2 when all its points are stored and share one second past
the first: the groups of its rows. -/
theorem tick_commit (H : StreamHeader) {capabilities : BitVec 32}
    (hv2 : H.has capabilities .INTERPOLATED) (rrdset_flags : Values.RRDSET_FLAGS)
    (wall_clock_time : Nat) (stv : Values.RRDSET) {ps : List Values.Point}
    (hstored : ∀ p ∈ ps, Values.stored p)
    (hpos : ∀ p ∈ ps, Values.USEC_PER_SEC ≤ p.point_end_time_ut) :
    (Values.rrdset_push_metrics_finished (Values.push_points H
        (Values.rrdset_push_metric_initialize_buffer H capabilities rrdset_flags wall_clock_time)
        ps) stv).1 =
      some (Values.close_text rrdset_flags.UPSTREAM_SEND_VARIABLES stv.id (Values.v2_groups
        (ps.map (Values.Point.row H (Values.rrdset_push_metric_initialize_buffer H capabilities
          rrdset_flags wall_clock_time))))) := by
  set rsb := Values.rrdset_push_metric_initialize_buffer H capabilities rrdset_flags wall_clock_time
  have hv : rsb.v2 = true := hv2
  have hsec : ∀ r ∈ ps.map (Values.Point.row H rsb), (r.point_end_time_s == 0) = false := by
    simp only [List.mem_map, beq_eq_false_iff_ne]
    rintro r ⟨p, hp, rfl⟩
    exact Nat.pos_iff_ne_zero.1 (Nat.div_pos (hpos p hp) (by decide))
  have hnone : ∀ rs : List Values.Row, (∀ r ∈ rs, (r.point_end_time_s == 0) = false) →
      rs.takeWhile (·.point_end_time_s == 0) = [] ∧ rs.dropWhile (·.point_end_time_s == 0) = rs
    | [], _ => ⟨rfl, rfl⟩
    | r :: rs, h => by simp [List.takeWhile_cons, List.dropWhile_cons, h r (List.mem_cons_self _ _)]
  rw [show Values.push_points H rsb ps = Values.push_points H (rsb.framing ([], [])) ps from rfl,
    Values.push_points_framing H hv, List.filter_eq_self.2 hstored, Values.foldl_frame,
    Values.finished_framing hv, (hnone _ hsec).1, (hnone _ hsec).2]
  rfl

/-- In a version 2 tick whose points, one per dimension in the chart's order, are all stored
and share one end-time second past the first, the committed lines are the version 2 group of
`Publication.value_group`. -/
theorem tick_v2_refines (H : StreamHeader) (capabilities : BitVec 32)
    (hv2 : H.has capabilities .INTERPOLATED) (rrdset_flags : Values.RRDSET_FLAGS)
    (wall_clock_time : Nat) (stv : Values.RRDSET) (ps : List Values.Point)
    (h : Publication.RRDHOST) (st : Nat) (c : Publication.RRDSET) (index : String → Nat)
    (hint : h.INTERPOLATED = true)
    (hdims : ps.map (fun p => index p.rd.id) = c.dims.map Publication.RRDDIM.id)
    (hstored : ∀ p ∈ ps, Values.stored p)
    (hpos : ∀ p ∈ ps, Values.USEC_PER_SEC ≤ p.point_end_time_ut)
    (hsec : ∀ p ∈ ps, ∀ q ∈ ps,
      p.point_end_time_ut / Values.USEC_PER_SEC = q.point_end_time_ut / Values.USEC_PER_SEC) :
    ((Values.rrdset_push_metrics_finished (Values.push_points H
        (Values.rrdset_push_metric_initialize_buffer H capabilities rrdset_flags wall_clock_time)
        ps) stv).1.getD []).filterMap (abstract_v2 st index) =
      Publication.value_group h st c := by
  rw [tick_commit H hv2 rrdset_flags wall_clock_time stv hstored hpos, Option.getD_some]
  cases ps with
  | nil =>
    obtain hc : c.dims = [] := List.map_eq_nil_iff.1 hdims.symm
    simp [Values.close_text, Values.v2_groups, Publication.value_group, hint, hc]
  | cons p ps =>
    have hc : c.dims ≠ [] := fun hc => by simp [hc] at hdims
    rw [List.map_cons, Values.v2_groups_one_second _ _ fun r hr => by
      obtain ⟨q, hq, rfl⟩ := List.mem_map.1 hr
      exact hsec q (List.mem_cons_of_mem _ hq) p (List.mem_cons_self _ _)]
    have hsets := congrArg (List.map (Publication.Record.SET_V2 st)) hdims
    simp only [List.map_map, List.map_cons, Function.comp_def] at hsets
    simp only [Values.close_text, Values.open_text, Publication.value_group, hint, hc,
      List.isEmpty_cons, Bool.false_eq_true, if_false, if_true]
    split <;> simp [abstract_v2, Values.Point.row, Values.begin_v2_line, Values.set_v2_line,
      List.filterMap_map, Function.comp_def, ← hsets, List.filterMap_eq_map_iff_forall_eq_some]

/-- A point of `user` at 1.5 s, collected as 42. -/
def user_point : Values.Point := ⟨⟨"user", 0, 42, ⟨"cpu.user", 1, 0⟩⟩, 1500000, .number 42, ⟨1⟩⟩

/-- The buffer of that point, on a connection that negotiated only `INTERPOLATED`, commits the
version 2 group of `user_chart`. -/
theorem user_point_v2_refines :
    StreamHeader.tableOrder.has (StreamHeader.tableOrder.cap .INTERPOLATED) .INTERPOLATED ∧
      ({ Publication.RRDHOST.init [] with INTERPOLATED := true } :
        Publication.RRDHOST).INTERPOLATED = true ∧
      [user_point].map (fun p => (fun _ => 0) p.rd.id) =
        user_chart.dims.map Publication.RRDDIM.id ∧
      (∀ p ∈ [user_point], Values.stored p) ∧
      (∀ p ∈ [user_point], Values.USEC_PER_SEC ≤ p.point_end_time_ut) ∧
      (∀ p ∈ [user_point], ∀ q ∈ [user_point],
        p.point_end_time_ut / Values.USEC_PER_SEC = q.point_end_time_ut / Values.USEC_PER_SEC) ∧
      ((Values.rrdset_push_metrics_finished (Values.push_points StreamHeader.tableOrder
          (Values.rrdset_push_metric_initialize_buffer StreamHeader.tableOrder
            (StreamHeader.tableOrder.cap .INTERPOLATED) ⟨false⟩ 0) [user_point])
          ⟨"cpu.user", 1, 0⟩).1.getD []).filterMap (abstract_v2 0 fun _ => 0) =
        Publication.value_group { Publication.RRDHOST.init [] with INTERPOLATED := true } 0
          user_chart :=
  ⟨by decide, rfl, rfl, by decide, by decide, by decide,
    tick_v2_refines StreamHeader.tableOrder _ (by decide) ⟨false⟩ 0 ⟨"cpu.user", 1, 0⟩
      [user_point] _ 0 user_chart (fun _ => 0) rfl rfl (by decide) (by decide) (by decide)⟩

end Netdata.Stream.Layers
