import Mathlib.Data.List.Perm.Basic
import Mathlib.Algebra.BigOperators.Group.List
import Mathlib.Algebra.Order.Ring.Nat
/-!
# The destination list

`rrdpush_destinations_init`, `connect_to_one_of_destinations` and
`rrdpush_reset_destinations_postpone_time` (`src/streaming/rrdpush.c`) over the host's list of
parents. The loop of `connect_to_one_of_destinations` reads the clock once per destination it
visits and calls `connect_to_this` once per destination it tries; both are functions of the
visit's position here, so every clock and every pattern of connects is covered.

- `connect_loop_connected`, `connect_loop_failed`: the loop tries the destinations in order,
  skipping those postponed past the time read for them; it stops at the first that connects
  and moves it to the tail, or returns -1 with the order unchanged.
- `connect_loop_attempts`: `*reconnects_counter` grows by the attempts the call adds.
- `reachable_perm`: over any run, the list holds the configured entries, none lost or
  duplicated.
-/

namespace Netdata.Stream.Destinations

/-- `struct rrdpush_destinations`, the fields the three functions read and write. -/
structure rrdpush_destinations where
  destination : String
  ssl : Bool
  postpone_reconnection_until : Int
  since : Int
  attempts : Nat
  deriving DecidableEq, Repr

/-- `strstr(entry, ":SSL")` and the cut there: the entry up to the first `:SSL`, or `none`
when it holds none. -/
def cut_at_ssl : List Char → Option (List Char)
  | [] => none
  | c :: cs => if ":SSL".toList.isPrefixOf (c :: cs) then some [] else (cut_at_ssl cs).map (c :: ·)

/-- A new destination, zeroed by `callocz`. -/
def destinations_init_add_one (entry : String) : rrdpush_destinations :=
  match cut_at_ssl entry.toList with
  | some e => ⟨⟨e⟩, true, 0, 0, 0⟩
  | none => ⟨entry, false, 0, 0, 0⟩

/-- Modelled from the spec (§4.2; `foreach_entry_in_connection_string` is not in the source):
the destination string is split at whitespace. -/
def connection_string_entries (s : String) : List String :=
  (s.split Char.isWhitespace).filter (· ≠ "")

/-- What the three functions read and write of a host: the configured destination string,
the list, and the sender's `reconnect_delay` when the host has a sender. -/
structure Host where
  rrdpush_send_destination : Option String
  destinations : List rrdpush_destinations
  sender_reconnect_delay : Option Nat
  deriving DecidableEq, Repr

/-- `rrdpush_destinations_free`, then one destination per entry, in order. -/
def rrdpush_destinations_init (host : Host) : Host :=
  match host.rrdpush_send_destination with
  | none => host
  | some s => { host with destinations := (connection_string_entries s).map destinations_init_add_one }

/-- The loop of `connect_to_one_of_destinations` over the rest of the list; `now_realtime_sec`
and `connect_to_this` give what the clock and the connect return at each visit, counted from
this one. The loop's list (the visited destinations before it come first), the socket, the
destination connected to, and how many destinations it tried (`*reconnects_counter`). -/
def connect_loop (now_realtime_sec connect_to_this : Nat → Int) :
    List rrdpush_destinations →
      List rrdpush_destinations × Int × Option rrdpush_destinations × Nat
  | [] => ([], -1, none, 0)
  | d :: ds =>
    let now := now_realtime_sec 0
    if d.postpone_reconnection_until > now then
      let r := connect_loop (fun i => now_realtime_sec (i + 1)) (fun i => connect_to_this (i + 1)) ds
      (d :: r.1, r.2)
    else
      let d := { d with since := now, attempts := d.attempts + 1 }
      let sock := connect_to_this 0
      if sock ≠ -1 then (ds ++ [d], sock, some d, 1)
      else
        let r := connect_loop (fun i => now_realtime_sec (i + 1)) (fun i => connect_to_this (i + 1)) ds
        (d :: r.1, r.2.1, r.2.2.1, r.2.2.2 + 1)

/-- The host after the call, the socket, `*destination` when one connected, and the count. -/
def connect_to_one_of_destinations (now_realtime_sec connect_to_this : Nat → Int) (host : Host) :
    Host × Int × Option rrdpush_destinations × Nat :=
  let r := connect_loop now_realtime_sec connect_to_this host.destinations
  ({ host with destinations := r.1 }, r.2)

def rrdpush_reset_destinations_postpone_time (now : Int) (host : Host) : Host :=
  let wait : Nat := host.sender_reconnect_delay.getD 5
  { host with destinations := host.destinations.map ({ · with postpone_reconnection_until := now + wait }) }

/-! ## One call -/

/-- A destination the loop skips at time `now`. -/
def postponed (now : Int) (d : rrdpush_destinations) : Prop := now < d.postpone_reconnection_until

instance (now : Int) (d : rrdpush_destinations) : Decidable (postponed now d) :=
  inferInstanceAs (Decidable (_ < _))

/-- A destination after the loop visits it at time `now`: as it was when postponed, else
tried, with `since` set and one more attempt. -/
def visit (now : Int) (d : rrdpush_destinations) : rrdpush_destinations :=
  if postponed now d then d else { d with since := now, attempts := d.attempts + 1 }

/-- When the call returns a socket, it is the one of the first destination `j` not postponed
and connected: the destinations before it are visited, those after it untouched, and it is
tried and moved to the tail. -/
theorem connect_loop_connected : ∀ {now connect : Nat → Int} {L : List rrdpush_destinations},
    (connect_loop now connect L).2.1 ≠ -1 →
    ∃ j, ∃ hj : j < L.length, (¬postponed (now j) L[j] ∧ connect j ≠ -1) ∧
      (∀ k (hk : k < L.length), k < j → postponed (now k) L[k] ∨ connect k = -1) ∧
      connect_loop now connect L =
        ((L.take j).mapIdx (fun k => visit (now k)) ++ L.drop (j + 1) ++ [visit (now j) L[j]],
          connect j, some (visit (now j) L[j]), (connect_loop now connect L).2.2.2)
  | _, _, [], h => absurd rfl h
  | now, connect, d :: ds, h => by
    by_cases hp : postponed (now 0) d
    · have hp' : d.postpone_reconnection_until > now 0 := hp
      simp only [connect_loop, hp', if_true] at h ⊢
      obtain ⟨j, hj, ⟨hjp, hjc⟩, hbefore, heq⟩ := connect_loop_connected h
      refine ⟨j + 1, by simpa using hj, ⟨hjp, hjc⟩, fun k hk hkj => ?_, ?_⟩
      · cases k with
        | zero => exact .inl hp
        | succ k => exact hbefore k (by simpa using hk) (by omega)
      · rw [heq]
        simp [List.mapIdx_cons, visit, hp]
    · have hp' : ¬d.postpone_reconnection_until > now 0 := hp
      by_cases hc : connect 0 = -1
      · simp only [connect_loop, hp', hc, if_false, ne_eq, not_true_eq_false] at h ⊢
        obtain ⟨j, hj, ⟨hjp, hjc⟩, hbefore, heq⟩ := connect_loop_connected h
        refine ⟨j + 1, by simpa using hj, ⟨hjp, hjc⟩, fun k hk hkj => ?_, ?_⟩
        · cases k with
          | zero => exact .inr hc
          | succ k => exact hbefore k (by simpa using hk) (by omega)
        · rw [heq]
          simp [List.mapIdx_cons, visit, hp]
      · refine ⟨0, by simp, ⟨hp, hc⟩, fun k _ hk => absurd hk (Nat.not_lt_zero k), ?_⟩
        simp [connect_loop, hp', hc, visit, hp]

/-- When the call returns -1, no destination both was due and connected, and every one is
visited in place. -/
theorem connect_loop_failed : ∀ {now connect : Nat → Int} {L : List rrdpush_destinations},
    (connect_loop now connect L).2.1 = -1 →
    (∀ k (hk : k < L.length), postponed (now k) L[k] ∨ connect k = -1) ∧
      (connect_loop now connect L).1 = L.mapIdx (fun k => visit (now k)) ∧
      (connect_loop now connect L).2.2.1 = none
  | _, _, [], _ => ⟨fun k hk => absurd hk (Nat.not_lt_zero k), rfl, rfl⟩
  | now, connect, d :: ds, h => by
    by_cases hp : postponed (now 0) d
    · have hp' : d.postpone_reconnection_until > now 0 := hp
      simp only [connect_loop, hp', if_true] at h ⊢
      obtain ⟨hall, hl, hd⟩ := connect_loop_failed h
      refine ⟨fun k hk => ?_, by simp [hl, List.mapIdx_cons, visit, hp], hd⟩
      cases k with
      | zero => exact .inl hp
      | succ k => exact hall k (by simpa using hk)
    · have hp' : ¬d.postpone_reconnection_until > now 0 := hp
      by_cases hc : connect 0 = -1
      · simp only [connect_loop, hp', hc, if_false, ne_eq, not_true_eq_false] at h ⊢
        obtain ⟨hall, hl, hd⟩ := connect_loop_failed h
        refine ⟨fun k hk => ?_, by simp [hl, List.mapIdx_cons, visit, hp], hd⟩
        cases k with
        | zero => exact .inr hc
        | succ k => exact hall k (by simpa using hk)
      · simp [connect_loop, hp', hc] at h

/-- `*reconnects_counter` grows by the number of attempts the call adds to the list. -/
theorem connect_loop_attempts : ∀ (now connect : Nat → Int) (L : List rrdpush_destinations),
    ((connect_loop now connect L).1.map (·.attempts)).sum =
      (L.map (·.attempts)).sum + (connect_loop now connect L).2.2.2
  | _, _, [] => rfl
  | now, connect, d :: ds => by
    have ih := connect_loop_attempts (fun i => now (i + 1)) (fun i => connect (i + 1)) ds
    by_cases hp : d.postpone_reconnection_until > now 0
    · simp [connect_loop, hp, ih]
      omega
    by_cases hc : connect 0 = -1
    · simp [connect_loop, hp, hc, ih]
      omega
    · simp [connect_loop, hp, hc, List.sum_append]
      omega

/-! ## None lost or duplicated -/

/-- What identifies a configured entry. -/
def key (d : rrdpush_destinations) : String × Bool := (d.destination, d.ssl)

theorem connect_loop_perm : ∀ (now connect : Nat → Int) (L : List rrdpush_destinations),
    ((connect_loop now connect L).1.map key).Perm (L.map key)
  | _, _, [] => .nil
  | now, connect, d :: ds => by
    have ih := connect_loop_perm (fun i => now (i + 1)) (fun i => connect (i + 1)) ds
    by_cases hp : d.postpone_reconnection_until > now 0
    · simpa [connect_loop, hp] using ih.cons (key d)
    by_cases hc : connect 0 = -1
    · simpa [connect_loop, hp, hc, key] using ih.cons (key d)
    · simp [connect_loop, hp, hc, key]

inductive Event where
  | init
  | connect (now_realtime_sec connect_to_this : Nat → Int)
  | reset (now : Int)

def step (host : Host) : Event → Host
  | .init => rrdpush_destinations_init host
  | .connect now_realtime_sec connect_to_this =>
    (connect_to_one_of_destinations now_realtime_sec connect_to_this host).1
  | .reset now => rrdpush_reset_destinations_postpone_time now host

/-- Runs from the first `rrdpush_destinations_init` of a host with a destination string. -/
inductive Reachable : Host → Prop where
  | init {host : Host} {s : String} (hs : host.rrdpush_send_destination = some s) :
      Reachable (rrdpush_destinations_init host)
  | step {host : Host} (e : Event) : Reachable host → Reachable (step host e)

/-- The configured entries of a host with destination string `s`. -/
def configured (s : String) : List rrdpush_destinations :=
  (connection_string_entries s).map destinations_init_add_one

theorem step_perm {host : Host} {s : String} (hs : host.rrdpush_send_destination = some s)
    (hp : (host.destinations.map key).Perm ((configured s).map key)) (e : Event) :
    (step host e).rrdpush_send_destination = some s ∧
      ((step host e).destinations.map key).Perm ((configured s).map key) := by
  cases e with
  | init => simp [step, rrdpush_destinations_init, hs, configured]
  | connect now connect =>
    exact ⟨hs, (connect_loop_perm now connect _).trans hp⟩
  | reset now =>
    refine ⟨hs, ?_⟩
    simpa [step, rrdpush_reset_destinations_postpone_time, key, Function.comp_def] using hp

/-- In every run the list holds the configured entries, in some order, none lost or
duplicated. -/
theorem reachable_perm {host : Host} (hr : Reachable host) :
    ∃ s, host.rrdpush_send_destination = some s ∧
      (host.destinations.map key).Perm ((configured s).map key) := by
  induction hr with
  | @init host s hs =>
    exact ⟨s, by simp [rrdpush_destinations_init, hs], by simp [rrdpush_destinations_init, hs, configured]⟩
  | step e _ ih =>
    obtain ⟨s, hs, hp⟩ := ih
    exact ⟨s, step_perm hs hp e⟩

/-- For every host, whatever the postpone times of its destinations, the clock and the
outcomes of the connects: a call that returns a socket connected the first destination that was
due and connected, tried the due ones before it in order, left those after it untried, and
moved it to the tail; a call that returns -1 found none and kept the order. Each destination
tried gets its `since` and one more attempt, and `*reconnects_counter` grows by the attempts
added. In a run, the list holds the configured entries before and after the call. -/
theorem connect_to_one_of_destinations_rotates (now connect : Nat → Int) (host : Host) :
    ((connect_to_one_of_destinations now connect host).2.1 ≠ -1 →
      ∃ j, ∃ hj : j < host.destinations.length,
        (¬postponed (now j) host.destinations[j] ∧ connect j ≠ -1) ∧
        (∀ k (hk : k < host.destinations.length), k < j →
          postponed (now k) host.destinations[k] ∨ connect k = -1) ∧
        (connect_to_one_of_destinations now connect host).1.destinations =
          (host.destinations.take j).mapIdx (fun k => visit (now k)) ++
            host.destinations.drop (j + 1) ++ [visit (now j) host.destinations[j]] ∧
        (connect_to_one_of_destinations now connect host).2.1 = connect j ∧
        (connect_to_one_of_destinations now connect host).2.2.1 =
          some (visit (now j) host.destinations[j])) ∧
    ((connect_to_one_of_destinations now connect host).2.1 = -1 →
      (∀ k (hk : k < host.destinations.length),
        postponed (now k) host.destinations[k] ∨ connect k = -1) ∧
      (connect_to_one_of_destinations now connect host).1.destinations =
        host.destinations.mapIdx (fun k => visit (now k)) ∧
      (connect_to_one_of_destinations now connect host).2.2.1 = none) ∧
    ((connect_to_one_of_destinations now connect host).1.destinations.map (·.attempts)).sum =
      (host.destinations.map (·.attempts)).sum +
        (connect_to_one_of_destinations now connect host).2.2.2 ∧
    (Reachable host → ∃ s, host.rrdpush_send_destination = some s ∧
      (host.destinations.map key).Perm ((configured s).map key) ∧
      ((connect_to_one_of_destinations now connect host).1.destinations.map key).Perm
        ((configured s).map key)) := by
  refine ⟨fun h => ?_, connect_loop_failed, connect_loop_attempts now connect _, fun hr => ?_⟩
  · obtain ⟨j, hj, hfirst, hbefore, heq⟩ := connect_loop_connected h
    refine ⟨j, hj, hfirst, hbefore, ?_, ?_, ?_⟩ <;>
      simp only [connect_to_one_of_destinations] <;> rw [heq]
  · obtain ⟨s, hs, hp⟩ := reachable_perm hr
    exact ⟨s, hs, hp, (connect_loop_perm now connect _).trans hp⟩

/-- Two parents, the first postponed until 200 and the second, with `:SSL`, due at 100: the
call skips the first, connects the second, and moves it to the tail. -/
def two_parents : Host :=
  ⟨some "parent1 parent2:SSL", [⟨"parent1", false, 200, 0, 0⟩, ⟨"parent2", true, 0, 0, 0⟩], none⟩

theorem connect_to_one_of_destinations_rotates_on_two_parents :
    (connect_to_one_of_destinations (fun _ => 100) (fun _ => 7) two_parents).1.destinations =
      [⟨"parent1", false, 200, 0, 0⟩, ⟨"parent2", true, 0, 100, 1⟩] ∧
    ((connect_to_one_of_destinations (fun _ => 100) (fun _ => 7) two_parents).2.1 ≠ -1 →
      ∃ j, ∃ hj : j < two_parents.destinations.length,
        (¬postponed 100 two_parents.destinations[j] ∧ (7 : Int) ≠ -1) ∧
        (∀ k (hk : k < two_parents.destinations.length), k < j →
          postponed 100 two_parents.destinations[k] ∨ (7 : Int) = -1) ∧
        (connect_to_one_of_destinations (fun _ => 100) (fun _ => 7) two_parents).1.destinations =
          (two_parents.destinations.take j).mapIdx (fun _ => visit 100) ++
            two_parents.destinations.drop (j + 1) ++ [visit 100 two_parents.destinations[j]] ∧
        (connect_to_one_of_destinations (fun _ => 100) (fun _ => 7) two_parents).2.1 = 7 ∧
        (connect_to_one_of_destinations (fun _ => 100) (fun _ => 7) two_parents).2.2.1 =
          some (visit 100 two_parents.destinations[j])) :=
  ⟨by decide, (connect_to_one_of_destinations_rotates (fun _ => 100) (fun _ => 7) two_parents).1⟩

end Netdata.Stream.Destinations
