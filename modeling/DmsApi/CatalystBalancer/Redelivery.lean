import DmsApi.CatalystBalancer.Commute

/-! # Redelivered events

Serf delivers a user event at least once, so a node's update event can reach
`ReceiveUserEvent` again after an earlier delivery ran, whole or cut short. No handler call
reads what that delivery wrote: `UpdateNodes` overwrites the metrics, and each `UpdateStreams`
prunes the stale entries and writes its stream afresh. So once the later copy has run, with
the clock never going back, the node's metrics and stream keys are what that copy alone
leaves. `Equiv` relates balancers that agree on every lookup, as Go maps have no order.
-/

namespace DmsApi.CatalystBalancer

open Catabalancer (NodeMetrics NodeUpdateEvent Choices isStale isStale_mono)

/-- Balancers no reader tells apart, their Go maps compared by what every key looks up. -/
structure Equiv (c c' : CataBalancer) : Prop where
  nodeName : c.nodeName = c'.nodeName
  nodes : c.nodes = c'.nodes
  metricTimeout : c.metricTimeout = c'.metricTimeout
  streams : ∀ isIngest n id,
    ((c.streamsOf isIngest).index n).lookup id = ((c'.streamsOf isIngest).index n).lookup id
  nodeMetrics : ∀ n, c.nodeMetrics.lookup n = c'.nodeMetrics.lookup n

/-- What a stream key looks up once `UpdateStreams` has pruned node `nodeName`'s stale
entries. -/
theorem lookup_pruned (m : GoMap Streams) (now : Time) (stale : Duration) (nodeName n id : String) :
    ((m.adjust nodeName (removeOldStreams now · stale)).index n).lookup id =
      if n = nodeName then ((m.index n).lookup id).filter fun st => !isStale now st.timestamp stale
      else (m.index n).lookup id := by
  rw [GoMap.index_adjust rfl]
  split
  · next here => subst here; exact GoMap.lookup_filter _ _ id
  · rfl

namespace Equiv

variable {c c' c'' : CataBalancer}

theorem refl (c : CataBalancer) : Equiv c c :=
  ⟨rfl, rfl, rfl, fun _ _ _ => rfl, fun _ => rfl⟩

theorem trans (first : Equiv c c') (second : Equiv c' c'') : Equiv c c'' :=
  ⟨first.1.trans second.1, first.2.trans second.2, first.3.trans second.3,
    fun isIngest n id => (first.4 isIngest n id).trans (second.4 isIngest n id),
    fun n => (first.5 n).trans (second.5 n)⟩

/-- Balancers that agree on every key's inner map agree on every lookup in it. -/
theorem of_same (same : Same c c') : Equiv c c' :=
  ⟨same.nodeName, same.nodes, same.metricTimeout,
    fun isIngest n id => congrArg (fun m : Option Streams => (m.getD default).lookup id)
      ((same.agree n).streams isIngest),
    fun n => (same.agree n).nodeMetrics⟩

open CataBalancer in
/-- Every call keeps balancers no reader tells apart so. -/
theorem step_congr (same : Equiv c c') (call : Call) : Equiv (step c call) (step c' call) := by
  have name : (step c call).nodeName = (step c' call).nodeName := by
    simp only [nodeName_step, same.nodeName]
  cases call with
  | updateMembers members =>
    have registry : (c'.updateMembers members).nodes = (c.updateMembers members).nodes := rfl
    refine ⟨name, rfl, same.metricTimeout, fun isIngest n id => ?_, fun n => ?_⟩
    · simp only [step, streamsOf_updateMembers, registry]
      split
      · exact same.streams isIngest n id
      · rfl
    · simp only [step, updateMembers, GoMap.lookup_filter, same.nodeMetrics n]
  | updateNodes now id published =>
    refine ⟨name, by simp only [step, nodes_updateNodes, same.nodes],
      by simp only [step, metricTimeout_updateNodes, same.metricTimeout],
      fun isIngest n key => by simp only [step, streamsOf_updateNodes, same.streams], fun n => ?_⟩
    simp only [step, updateNodes, same.nodes]
    split
    · exact same.nodeMetrics n
    · by_cases here : n = id
      · subst here; simp only [AList.lookup_insert]
      · simp only [AList.lookup_insert_ne here, same.nodeMetrics n]
  | updateStreams now nodeName streamID isIngest' =>
    refine ⟨name, by simp only [step, nodes_updateStreams, same.nodes],
      by simp only [step, metricTimeout_updateStreams, same.metricTimeout], fun isIngest n id => ?_,
      fun n => by simp only [step, nodeMetrics_updateStreams, same.nodeMetrics n]⟩
    by_cases registered : (c.nodes.lookup nodeName).isSome
    · rw [step, step, lookup_updateStreams isIngest isIngest' registered,
        lookup_updateStreams isIngest isIngest' (same.nodes ▸ registered), lookup_pruned,
        lookup_pruned, same.streams, same.metricTimeout]
    · rw [step, step, updateStreams_unregistered registered,
        updateStreams_unregistered (same.nodes ▸ registered)]
      exact same.streams isIngest n id

/-- And so does every run of calls. -/
theorem foldl_congr (same : Equiv c c') (calls : List Call) :
    Equiv (calls.foldl step c) (calls.foldl step c') := by
  induction calls generalizing c c' with
  | nil => exact same
  | cons call rest ih => exact ih (same.step_congr call)

/-- `MistUtilLoadSource` reads nothing that tells such balancers apart. -/
theorem mistUtilLoadSource_eq (same : Equiv c c') (ch : Choices) (now : Time) (stream : String) :
    c.mistUtilLoadSource ch now stream = c'.mistUtilLoadSource ch now stream := by
  have ingest : ∀ name, (c.ingestStreams.index name).lookup stream =
      (c'.ingestStreams.index name).lookup stream := fun name => same.streams true name stream
  simp only [CataBalancer.mistUtilLoadSource, same.nodes, same.metricTimeout, ingest]

end Equiv

/-! ## What a run leaves under one key -/

section Overwrite

variable {α β : Type} (write : α → Option β) (keep : α → β → Bool)

/-- What a run leaves under one key when each step `x` writes `write x`, or else keeps the
value there if it passes `keep x`. -/
def overwrite (xs : List α) (v : Option β) : Option β :=
  xs.foldl (fun v x => (write x).or (v.filter (keep x))) v

theorem overwrite_append (xs ys : List α) (v : Option β) :
    overwrite write keep (xs ++ ys) v = overwrite write keep ys (overwrite write keep xs v) :=
  List.foldl_append ..

/-- A run that writes nothing keeps the value exactly when every step keeps it. -/
theorem overwrite_of_unwritten {xs : List α} (unwritten : ∀ x ∈ xs, write x = none)
    (v : Option β) : overwrite write keep xs v = v.filter fun b => xs.all (keep · b) := by
  induction xs generalizing v with
  | nil => cases v <;> rfl
  | cons x rest ih =>
    rw [overwrite, List.foldl_cons, ← overwrite, ih (fun y mem => unwritten y (.tail x mem)),
      unwritten x (.head rest), Option.none_or]
    cases v with
    | none => rfl
    | some b => by_cases kept : keep x b <;> simp [Option.filter, kept]

/-- After a write, what a run leaves no longer depends on the value it started from. -/
theorem overwrite_of_written {xs : List α} (written : ∃ x ∈ xs, (write x).isSome)
    (v v' : Option β) : overwrite write keep xs v = overwrite write keep xs v' := by
  induction xs generalizing v v' with
  | nil => obtain ⟨_, mem, _⟩ := written; cases mem
  | cons x rest ih =>
    unfold overwrite
    rw [List.foldl_cons, List.foldl_cons]
    cases wrote : write x with
    | some b => rfl
    | none =>
      obtain ⟨y, mem, wy⟩ := written
      rcases List.mem_cons.mp mem with rfl | later
      · rw [wrote] at wy; cases wy
      · exact ih ⟨y, later, wy⟩ _ _

/-- A later run absorbs an earlier one that wrote nowhere the later one does not write and
kept nothing the later one drops. -/
theorem overwrite_absorbed {first second : List α}
    (rewrites : (∃ x ∈ first, (write x).isSome) → ∃ y ∈ second, (write y).isSome)
    (prunes : ∀ b, (∀ y ∈ second, keep y b) → ∀ x ∈ first, keep x b) (v : Option β) :
    overwrite write keep (first ++ second) v = overwrite write keep second v := by
  rw [overwrite_append]
  by_cases again : ∃ y ∈ second, (write y).isSome
  · exact overwrite_of_written write keep again _ _
  · have unwritten : ∀ {xs : List α}, ¬(∃ x ∈ xs, (write x).isSome) →
        ∀ x ∈ xs, write x = none :=
      fun none_written x mem => Option.not_isSome_iff_eq_none.mp fun wrote =>
        none_written ⟨x, mem, wrote⟩
    rw [overwrite_of_unwritten write keep (unwritten (mt rewrites again)),
      overwrite_of_unwritten write keep (unwritten again),
      overwrite_of_unwritten write keep (unwritten again)]
    cases v with
    | none => rfl
    | some b =>
      by_cases kept : second.all (keep · b)
      · have earlier : first.all (keep · b) :=
          List.all_eq_true.mpr (prunes b (List.all_eq_true.mp kept))
        simp only [Option.filter, earlier, kept, if_true]
      · have dropped := Bool.eq_false_iff.mpr kept
        cases earlier : first.all (keep · b) <;> simp [Option.filter, earlier, dropped]

end Overwrite

/-! ## A call's effect on its own node's key -/

/-- The entry a call writes under stream `id` of the map `isIngest`, for its node. -/
def Call.written (isIngest : Bool) (id : String) : Call → Option Stream
  | .updateStreams now _ streamID isIngest' =>
    if isIngest = isIngest' ∧ id = streamID then some ⟨streamID, now⟩ else none
  | _ => none

/-- Whether the pruning a call does keeps the entry `st` of its node's streams. -/
def Call.spares (stale : Duration) (call : Call) (st : Stream) : Bool :=
  match call with
  | .updateStreams now .. => !isStale now st.timestamp stale
  | _ => true

/-- The metrics a call writes for its node. -/
def Call.published : Call → Option NodeMetrics
  | .updateNodes now _ nodeMetrics => some { nodeMetrics with timestamp := now }
  | _ => none

/-- `y` is the call `x` was, issued from the same request at a clock reading no earlier. -/
def Call.Redone (x y : Call) : Prop :=
  ∃ (r : Request) (t₁ t₂ : Time), t₁ ≤ t₂ ∧ x = r.call t₁ ∧ y = r.call t₂

namespace Call.Redone

variable {x y : Call}

theorem written (again : x.Redone y) {isIngest : Bool} {id : String}
    (wrote : (x.written isIngest id).isSome) : (y.written isIngest id).isSome := by
  obtain ⟨r, t₁, t₂, -, rfl, rfl⟩ := again
  cases r with
  | updateNodes => cases wrote
  | updateStreams =>
    simp only [Request.call, Call.written] at wrote ⊢
    split at wrote
    · next same => rw [if_pos same]; rfl
    · cases wrote

theorem published (again : x.Redone y) (wrote : x.published.isSome) : y.published.isSome := by
  obtain ⟨r, t₁, t₂, -, rfl, rfl⟩ := again
  cases r with
  | updateNodes => rfl
  | updateStreams => cases wrote

/-- The later copy prunes every entry the earlier one pruned: staleness only grows with the
clock. -/
theorem spares (again : x.Redone y) {stale : Duration} {st : Stream}
    (kept : y.spares stale st = true) : x.spares stale st = true := by
  obtain ⟨r, t₁, t₂, ordered, rfl, rfl⟩ := again
  cases r with
  | updateNodes => rfl
  | updateStreams =>
    simp only [Request.call, Call.spares, Bool.not_eq_true'] at kept ⊢
    cases stale₁ : isStale t₁ st.timestamp stale
    · rfl
    · rw [isStale_mono ordered stale₁] at kept; cases kept

end Call.Redone

namespace CataBalancer

variable {c : CataBalancer} {call : Call} {xs : List Call} {a n : String}

theorem nodes_foldl (onA : ∀ x ∈ xs, x.node? = some a) : (xs.foldl step c).nodes = c.nodes := by
  induction xs generalizing c with
  | nil => rfl
  | cons x rest ih =>
    rw [List.foldl_cons, ih (fun y mem => onA y (.tail x mem)), nodes_step (onA x (.head rest))]

/-- A run of calls for one node writes nothing under the keys of other nodes. -/
theorem foldl_frame (onA : ∀ x ∈ xs, x.node? = some a) (other : n ≠ a) :
    AgreeAt n (xs.foldl step c) c := by
  induction xs generalizing c with
  | nil => exact .refl n c
  | cons x rest ih =>
    exact (ih (fun y mem => onA y (.tail x mem))).trans (step_frame (onA x (.head rest)) other)

/-- A run of calls for a node missing from the registry changes nothing. -/
theorem foldl_unregistered (onA : ∀ x ∈ xs, x.node? = some a)
    (absent : ¬(c.nodes.lookup a).isSome) : xs.foldl step c = c := by
  induction xs with
  | nil => rfl
  | cons x rest ih =>
    have unchanged : step c x = c := by
      cases x with
      | updateMembers => cases onA _ (.head rest)
      | updateNodes now id published =>
        obtain rfl : id = a := Option.some.inj (onA _ (.head rest))
        simp [step, updateNodes, Option.not_isSome_iff_eq_none.mp absent]
      | updateStreams now nodeName =>
        obtain rfl : nodeName = a := Option.some.inj (onA _ (.head rest))
        exact updateStreams_unregistered absent ..
    rw [List.foldl_cons, unchanged, ih (fun y mem => onA y (.tail x mem))]

/-- Under its own node's key, a call for a registered node writes its entry, or else prunes
what was there. -/
theorem lookup_step (writes : call.node? = some a) (registered : (c.nodes.lookup a).isSome)
    (isIngest : Bool) (id : String) :
    (((step c call).streamsOf isIngest).index a).lookup id =
      (call.written isIngest id).or
        ((((c.streamsOf isIngest).index a).lookup id).filter (call.spares c.metricTimeout)) := by
  cases call with
  | updateMembers => cases writes
  | updateNodes =>
    rw [step, streamsOf_updateNodes]
    cases ((c.streamsOf isIngest).index a).lookup id <;> rfl
  | updateStreams now nodeName streamID isIngest' =>
    obtain rfl : nodeName = a := Option.some.inj writes
    rw [step, lookup_updateStreams isIngest isIngest' registered, lookup_pruned, if_pos rfl]
    simp only [Call.written, Call.spares, true_and]
    split <;> rfl

theorem lookup_nodeMetrics_step (writes : call.node? = some a)
    (registered : (c.nodes.lookup a).isSome) :
    (step c call).nodeMetrics.lookup a =
      call.published.or ((c.nodeMetrics.lookup a).filter fun _ => true) := by
  cases call with
  | updateMembers => cases writes
  | updateNodes now id published =>
    obtain rfl : id = a := Option.some.inj writes
    simp [step, updateNodes, Option.isSome_iff_ne_none.mp registered, Call.published]
  | updateStreams =>
    rw [step, nodeMetrics_updateStreams]
    cases c.nodeMetrics.lookup a <;> rfl

/-- What a run of calls for a registered node leaves under one of its stream keys. -/
theorem lookup_foldl (onA : ∀ x ∈ xs, x.node? = some a) (registered : (c.nodes.lookup a).isSome)
    (isIngest : Bool) (id : String) :
    (((xs.foldl step c).streamsOf isIngest).index a).lookup id =
      overwrite (Call.written isIngest id) (Call.spares c.metricTimeout) xs
        (((c.streamsOf isIngest).index a).lookup id) := by
  induction xs generalizing c with
  | nil => rfl
  | cons x rest ih =>
    have onX := onA x (.head rest)
    rw [List.foldl_cons, ih (fun y mem => onA y (.tail x mem)) (by rwa [nodes_step onX]),
      metricTimeout_step, lookup_step onX registered]
    rfl

/-- And under its metrics key. -/
theorem lookup_nodeMetrics_foldl (onA : ∀ x ∈ xs, x.node? = some a)
    (registered : (c.nodes.lookup a).isSome) :
    (xs.foldl step c).nodeMetrics.lookup a =
      overwrite Call.published (fun _ _ => true) xs (c.nodeMetrics.lookup a) := by
  induction xs generalizing c with
  | nil => rfl
  | cons x rest ih =>
    have onX := onA x (.head rest)
    rw [List.foldl_cons, ih (fun y mem => onA y (.tail x mem)) (by rwa [nodes_step onX]),
      lookup_nodeMetrics_step onX registered]
    rfl

end CataBalancer

open CataBalancer

/-! ## A redone run absorbs the first -/

/-- A run of calls for one node, followed by a run that redoes each of its calls at a clock
reading no earlier, leaves what the second run alone leaves. -/
theorem foldl_redone_absorbed {first second : List Call} {a : String}
    (onA : ∀ x ∈ first ++ second, x.node? = some a)
    (redone : ∀ x ∈ first, ∃ y ∈ second, x.Redone y) (c : CataBalancer) :
    Equiv ((first ++ second).foldl step c) (second.foldl step c) := by
  have onSecond : ∀ y ∈ second, y.node? = some a :=
    fun y mem => onA y (List.mem_append_right _ mem)
  by_cases registered : (c.nodes.lookup a).isSome
  · refine ⟨by rw [nodeName_foldl, nodeName_foldl],
      by rw [nodes_foldl onA, nodes_foldl onSecond], by rw [metricTimeout_foldl, metricTimeout_foldl],
      fun isIngest n id => ?_, fun n => ?_⟩
    · by_cases here : n = a
      · subst here
        rw [lookup_foldl onA registered, lookup_foldl onSecond registered]
        refine overwrite_absorbed _ _ ?_ ?_ _
        · rintro ⟨x, mem, wrote⟩
          obtain ⟨y, mem', again⟩ := redone x mem
          exact ⟨y, mem', again.written wrote⟩
        · intro st kept x mem
          obtain ⟨y, mem', again⟩ := redone x mem
          exact again.spares (kept y mem')
      · simp only [GoMap.index, ((foldl_frame onA here).streams isIngest),
          ((foldl_frame onSecond here).streams isIngest)]
    · by_cases here : n = a
      · subst here
        rw [lookup_nodeMetrics_foldl onA registered, lookup_nodeMetrics_foldl onSecond registered]
        refine overwrite_absorbed _ _ ?_ (fun _ _ _ _ => rfl) _
        rintro ⟨x, mem, wrote⟩
        obtain ⟨y, mem', again⟩ := redone x mem
        exact ⟨y, mem', again.published wrote⟩
      · rw [(foldl_frame onA here).nodeMetrics, (foldl_frame onSecond here).nodeMetrics]
  · rw [foldl_unregistered onA registered, foldl_unregistered onSecond registered]
    exact .refl c

/-- A run for one node moves past calls for other nodes. -/
theorem foldl_append_comm {xs ys : List Call} {a : String} (onA : ∀ x ∈ xs, x.node? = some a)
    (others : ∀ y ∈ ys, ∃ b, y.node? = some b ∧ b ≠ a) (c : CataBalancer) :
    Same ((xs ++ ys).foldl step c) ((ys ++ xs).foldl step c) := by
  induction ys generalizing c with
  | nil => rw [List.append_nil, List.nil_append]; exact .refl _
  | cons y rest ih =>
    obtain ⟨b, onB, apart⟩ := others y (.head rest)
    have moved := (foldl_step_comm onA onB apart.symm c).symm.foldl_congr rest
    rw [← List.foldl_append] at moved
    simp only [List.foldl_append, List.foldl_cons, List.cons_append] at moved ih ⊢
    exact moved.trans (ih (fun y' mem => others y' (.tail y mem)) (step c y))

/-- Each call the handler of a delivery made is redone by the handler of a later delivery of
the same event that ran to the end. -/
theorem handler_redone {reqs : List Request} {clock₁ clock₂ : List Time}
    (complete : reqs.length ≤ clock₂.length)
    (later : ∀ t₁ ∈ clock₁, ∀ t₂ ∈ clock₂, t₁ ≤ t₂) :
    ∀ x ∈ List.zipWith Request.call clock₁ reqs,
      ∃ y ∈ List.zipWith Request.call clock₂ reqs, x.Redone y := by
  intro x made
  obtain ⟨i, within, rfl⟩ := List.mem_iff_getElem.mp made
  rw [List.length_zipWith] at within
  have inClock₁ : i < clock₁.length := lt_of_lt_of_le within (min_le_left _ _)
  have inReqs : i < reqs.length := lt_of_lt_of_le within (min_le_right _ _)
  have inClock₂ : i < clock₂.length := lt_of_lt_of_le inReqs complete
  have inSecond : i < (List.zipWith Request.call clock₂ reqs).length := by
    rw [List.length_zipWith]; exact lt_min inClock₂ inReqs
  refine ⟨_, List.getElem_mem inSecond, reqs[i], clock₁[i], clock₂[i],
    later _ (List.getElem_mem inClock₁) _ (List.getElem_mem inClock₂), ?_, ?_⟩ <;>
    exact List.getElem_zipWith ..

/-- Once a redelivered copy of a node's update event has run, the balancer is one no reader tells
from what that copy alone leaves: the earlier delivery, whole or cut short, leaves no trace. -/
theorem receiveUserEvent_redelivery_absorbed (e : NodeUpdateEvent) {clock₁ clock₂ : List Time}
    (complete : (receiveUserEvent (.nodeUpdateEvent e)).2.length ≤ clock₂.length)
    (later : ∀ t₁ ∈ clock₁, ∀ t₂ ∈ clock₂, t₁ ≤ t₂) {mid : List Call}
    (others : ∀ y ∈ mid, ∃ b, y.node? = some b ∧ b ≠ e.nodeID) (c : CataBalancer)
    (after : List Call) :
    let first := List.zipWith Request.call clock₁ (receiveUserEvent (.nodeUpdateEvent e)).2
    let second := List.zipWith Request.call clock₂ (receiveUserEvent (.nodeUpdateEvent e)).2
    Equiv ((first ++ mid ++ second ++ after).foldl step c)
        ((mid ++ second ++ after).foldl step c) ∧
      ∀ ch now stream, ((first ++ mid ++ second ++ after).foldl step c).mistUtilLoadSource ch now
        stream = ((mid ++ second ++ after).foldl step c).mistUtilLoadSource ch now stream := by
  intro first second
  have onFirst : ∀ x ∈ first, x.node? = some e.nodeID := fun _ => node?_handler
  have onSecond : ∀ y ∈ second, y.node? = some e.nodeID := fun _ => node?_handler
  -- the first delivery's calls move past the other nodes' calls, then the second absorbs them
  have moved := (foldl_append_comm onFirst others c).foldl_congr (second ++ after)
  have absorbed := (foldl_redone_absorbed
    (fun x mem => (List.mem_append.mp mem).elim (onFirst x) (onSecond x))
    (handler_redone complete later) (mid.foldl step c)).foldl_congr after
  simp only [List.foldl_append] at moved absorbed ⊢
  have whole := (Equiv.of_same moved).trans absorbed
  exact ⟨whole, whole.mistUtilLoadSource_eq⟩

theorem receiveUserEvent_redelivery_absorbed_cut_short :
    let e : NodeUpdateEvent := ⟨"a", ⟨50, 20, 10, 0, 0, 0⟩, "s~"⟩
    let mid : List Call := [.updateNodes 2 "b" ⟨30, 20, 10, 0, 0, 0⟩]
    let c := run "self" [.updateMembers [⟨"a", ∅⟩, ⟨"b", ∅⟩]]
    let first := List.zipWith Request.call [1] (receiveUserEvent (.nodeUpdateEvent e)).2
    let second := List.zipWith Request.call [3, 4] (receiveUserEvent (.nodeUpdateEvent e)).2
    (receiveUserEvent (.nodeUpdateEvent e)).2.length ≤ [3, 4].length ∧
      (∀ t₁ ∈ [(1 : Time)], ∀ t₂ ∈ [(3 : Time), 4], t₁ ≤ t₂) ∧
      (∀ y ∈ mid, ∃ b, y.node? = some b ∧ b ≠ e.nodeID) ∧
      (Equiv ((first ++ mid ++ second ++ []).foldl step c) ((mid ++ second ++ []).foldl step c) ∧
        ∀ ch now stream, ((first ++ mid ++ second ++ []).foldl step c).mistUtilLoadSource ch now
          stream = ((mid ++ second ++ []).foldl step c).mistUtilLoadSource ch now stream) := by
  intro e mid c first second
  have complete : (receiveUserEvent (.nodeUpdateEvent e)).2.length ≤ [(3 : Time), 4].length := by
    decide
  have later : ∀ t₁ ∈ [(1 : Time)], ∀ t₂ ∈ [(3 : Time), 4], t₁ ≤ t₂ := by decide
  have others : ∀ y ∈ mid, ∃ b, y.node? = some b ∧ b ≠ e.nodeID :=
    fun y mem => ⟨"b", by rw [List.mem_singleton.mp mem]; rfl, by decide⟩
  exact ⟨complete, later, others,
    receiveUserEvent_redelivery_absorbed e complete later others c []⟩

end DmsApi.CatalystBalancer
