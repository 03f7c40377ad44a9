import DmsApi.CatalystBalancer.Balancer

/-! # Data of departed nodes

`UpdateMembers` deletes the streams and metrics of every node that left the cluster, and
`UpdateNodes` and `UpdateStreams` write only for registered nodes. So over any run of calls,
in any order and with any clock readings, the balancer holds data for registered nodes only,
and each entry it holds was written by an update for its node after the last membership change
that dropped the node: data a node published before it left never survives its return. Both
readers, `MistUtilLoadSource` and the candidates `GetBestNode` scores, read nothing else.
-/

namespace DmsApi.CatalystBalancer

open Catabalancer (Node NodeMetrics Member isStale Choices)

/-- A call keeps node `n` unless it is an `UpdateMembers` whose member list lacks `n`. -/
def Call.keeps (n : String) : Call → Prop
  | .updateMembers members => ∃ m ∈ members, m.name = n
  | _ => True

/-- No call of the run after position `i` dropped node `n`. -/
def StaysAfter (calls : List Call) (i : Nat) (n : String) : Prop :=
  ∀ j call, i < j → calls[j]? = some call → call.keeps n

/-- The stream map `UpdateStreams(_, _, isIngest)` writes. -/
def CataBalancer.streamsOf (isIngest : Bool) (c : CataBalancer) : GoMap Streams :=
  if isIngest then c.ingestStreams else c.streams

/-- Every entry `m[n][id]` is the stream `id` that an `UpdateStreams(n, id, isIngest)` of the
run wrote at the time it records, and no later call dropped `n`. -/
def StreamsWritten (calls : List Call) (isIngest : Bool) (m : GoMap Streams) : Prop :=
  ∀ n id s, (m.index n).lookup id = some s → s.id = id ∧
    ∃ i, calls[i]? = some (.updateStreams s.timestamp n id isIngest) ∧ StaysAfter calls i n

/-- Every entry `m[n]` holds the metrics an `UpdateNodes(n, _)` of the run published, stamped
at the time of that call, and no later call dropped `n`. -/
def MetricsWritten (calls : List Call) (m : GoMap NodeMetrics) : Prop :=
  ∀ n metrics, m.lookup n = some metrics → ∃ i published,
    calls[i]? = some (.updateNodes metrics.timestamp n published) ∧
      metrics = { published with timestamp := metrics.timestamp } ∧ StaysAfter calls i n

/-- What the state a run of `calls` reaches satisfies. -/
structure Invariant (calls : List Call) (c : CataBalancer) : Prop where
  /-- A registry entry is named by its key. -/
  nodes_named : ∀ k v, c.nodes.lookup k = some v → v.name = k
  /-- Stream data is kept for registered nodes only. -/
  streams_registered : ∀ isIngest, ∀ n ∈ c.streamsOf isIngest, n ∈ c.nodes
  /-- Metrics are kept for registered nodes only. -/
  nodeMetrics_registered : ∀ n ∈ c.nodeMetrics, n ∈ c.nodes
  /-- Every stream entry was written since its node last left. -/
  streams_written : ∀ isIngest, StreamsWritten calls isIngest (c.streamsOf isIngest)
  /-- Every metrics entry was written since its node last left. -/
  nodeMetrics_written : MetricsWritten calls c.nodeMetrics

/-! ## Extending a run by one call -/

section Runs

variable {calls : List Call} {call : Call} {i : Nat} {n : String}

private theorem getElem?_snoc {x : Call} (found : calls[i]? = some x) :
    (calls ++ [call])[i]? = some x := by
  rw [List.getElem?_append_left (List.getElem?_eq_some_iff.mp found).1, found]

/-- Nothing comes after the last call of a run. -/
theorem staysAfter_last : StaysAfter (calls ++ [call]) calls.length n := by
  intro j other after found
  rw [List.getElem?_eq_none (by simpa using after)] at found
  cases found

theorem StaysAfter.snoc (stays : StaysAfter calls i n) (keeps : call.keeps n) :
    StaysAfter (calls ++ [call]) i n := by
  intro j other after found
  rw [List.getElem?_append] at found
  split at found
  · exact stays j other after found
  · obtain ⟨_, same⟩ := List.getElem?_eq_some_iff.mp found
    rw [List.getElem_singleton] at same
    exact same ▸ keeps

/-- A stream map after one more call: each entry was there before, under a node the call
keeps, or is the one the call wrote. -/
theorem StreamsWritten.snoc {isIngest : Bool} {m m' : GoMap Streams}
    (written : StreamsWritten calls isIngest m)
    (source : ∀ n id s, (m'.index n).lookup id = some s →
      ((m.index n).lookup id = some s ∧ call.keeps n) ∨
        (call = .updateStreams s.timestamp n id isIngest ∧ s.id = id)) :
    StreamsWritten (calls ++ [call]) isIngest m' := by
  intro n id s found
  rcases source n id s found with ⟨old, keeps⟩ | ⟨rfl, named⟩
  · obtain ⟨named, i, wrote, stays⟩ := written n id s old
    exact ⟨named, i, getElem?_snoc wrote, stays.snoc keeps⟩
  · exact ⟨named, calls.length, List.getElem?_concat_length .., staysAfter_last⟩

/-- The metrics map after one more call: each entry was there before, under a node the call
keeps, or is the one the call wrote. -/
theorem MetricsWritten.snoc {m m' : GoMap NodeMetrics} (written : MetricsWritten calls m)
    (source : ∀ n metrics, m'.lookup n = some metrics →
      (m.lookup n = some metrics ∧ call.keeps n) ∨
        ∃ published, call = .updateNodes metrics.timestamp n published ∧
          metrics = { published with timestamp := metrics.timestamp }) :
    MetricsWritten (calls ++ [call]) m' := by
  intro n metrics found
  rcases source n metrics found with ⟨old, keeps⟩ | ⟨published, rfl, stamped⟩
  · obtain ⟨i, published, wrote, stamped, stays⟩ := written n metrics old
    exact ⟨i, published, getElem?_snoc wrote, stamped, stays.snoc keeps⟩
  · exact ⟨calls.length, published, List.getElem?_concat_length .., stamped, staysAfter_last⟩

end Runs

/-! ## What each call can write -/

namespace CataBalancer

section Calls

variable {c : CataBalancer} {n id : String} {s : Stream}

/-- The registry `UpdateMembers` builds: each member under its name. -/
theorem lookup_updateMembers {members : List Member} {v : Node}
    (found : (c.updateMembers members).nodes.lookup n = some v) :
    v.name = n ∧ ∃ m ∈ members, m.name = n := by
  rcases GoMap.lookup_foldl_insert _ _ _ _ found with ⟨m, member, rfl, rfl⟩ | absent
  · exact ⟨rfl, m, member, rfl⟩
  · cases absent

theorem mem_updateMembers {members : List Member} :
    n ∈ (c.updateMembers members).nodes ↔ ∃ m ∈ members, m.name = n := by
  simp only [updateMembers, GoMap.mem_foldl_insert, AList.not_mem_empty, false_or]

/-- `UpdateMembers` keeps a node's stream data whole if the node stays, and deletes it
otherwise. -/
theorem streamsOf_updateMembers (isIngest : Bool) (members : List Member) :
    ((c.updateMembers members).streamsOf isIngest).index n =
      if n ∈ (c.updateMembers members).nodes then (c.streamsOf isIngest).index n
      else default := by
  cases isIngest <;>
    simp only [streamsOf, updateMembers, GoMap.index_filter, AList.lookup_isSome, Bool.false_eq_true,
      if_false, if_true, decide_eq_true_eq]

theorem nodeMetrics_updateMembers {members : List Member} {metrics : NodeMetrics}
    (found : (c.updateMembers members).nodeMetrics.lookup n = some metrics) :
    c.nodeMetrics.lookup n = some metrics ∧ n ∈ (c.updateMembers members).nodes := by
  simp only [updateMembers, GoMap.lookup_filter, Option.filter_eq_some, AList.lookup_isSome] at found
  exact ⟨found.1, found.2⟩

theorem nodeMetrics_updateNodes {now : Time} {published metrics : NodeMetrics}
    (found : (c.updateNodes now id published).nodeMetrics.lookup n = some metrics) :
    c.nodeMetrics.lookup n = some metrics ∨
      (n = id ∧ id ∈ c.nodes ∧ metrics = { published with timestamp := now }) := by
  unfold updateNodes at found
  split at found
  · exact .inl found
  · next registered =>
    by_cases same : n = id
    · subst same
      rw [AList.lookup_insert] at found
      exact .inr ⟨rfl, AList.lookup_isSome.mp (Option.isSome_iff_ne_none.mpr (by simpa using registered)),
        (Option.some.inj found).symm⟩
    · exact .inl (by rwa [AList.lookup_insert_ne same] at found)

theorem streamsOf_updateNodes (isIngest : Bool) (now : Time) (published : NodeMetrics) :
    (c.updateNodes now id published).streamsOf isIngest = c.streamsOf isIngest := by
  unfold updateNodes; split <;> rfl

/-- Pruning a node's streams only deletes entries. -/
private theorem lookup_of_pruned {m : GoMap Streams} {now : Time} {stale : Duration}
    {nodeName : String}
    (found : ((m.adjust nodeName (removeOldStreams now · stale)).index n).lookup id = some s) :
    (m.index n).lookup id = some s := by
  rw [GoMap.index_adjust rfl] at found
  split at found
  · next same =>
    subst same
    simp only [removeOldStreams, GoMap.lookup_filter, Option.filter_eq_some] at found
    exact found.1
  · exact found

/-- Pruning a node's streams keeps an entry that is not stale. -/
theorem lookup_pruned_of_fresh {m : GoMap Streams} {now t : Time} {stale : Duration}
    {nodeName : String} (found : (m.index n).lookup id = some ⟨id, t⟩)
    (fresh : nodeName = n → isStale now t stale = false) :
    ((m.adjust nodeName (removeOldStreams now · stale)).index n).lookup id = some ⟨id, t⟩ := by
  rw [GoMap.index_adjust rfl]
  split
  · next same =>
    subst same
    simp [removeOldStreams, GoMap.lookup_filter, found, fresh rfl]
  · exact found

/-- The stream maps after `UpdateStreams(nodeName, streamID, isIngest)` for a registered node:
both pruned of the node's stale entries, and the one it writes given the new entry. -/
theorem streamsOf_updateStreams (isIngest isIngest' : Bool) {now : Time}
    {nodeName streamID : String} (registered : (c.nodes.lookup nodeName).isSome) :
    (c.updateStreams now nodeName streamID isIngest').streamsOf isIngest =
      let pruned := (c.streamsOf isIngest).adjust nodeName (removeOldStreams now · c.metricTimeout)
      if isIngest = isIngest' then
        pruned.insert nodeName ((pruned.index nodeName).insert streamID ⟨streamID, now⟩)
      else pruned := by
  have written : (c.nodes.lookup nodeName).isNone = false := by simpa using registered
  cases isIngest <;> cases isIngest' <;> simp only [updateStreams, streamsOf, written] <;> rfl

/-- A stream entry after `UpdateStreams(nodeName, streamID, isIngest)` for a registered node:
the one it writes, or what pruning the node's stale entries left. -/
theorem lookup_updateStreams (isIngest isIngest' : Bool) {now : Time}
    {nodeName streamID : String} (registered : (c.nodes.lookup nodeName).isSome) :
    (((c.updateStreams now nodeName streamID isIngest').streamsOf isIngest).index n).lookup id =
      if isIngest = isIngest' ∧ n = nodeName ∧ id = streamID then some ⟨streamID, now⟩
      else (((c.streamsOf isIngest).adjust nodeName
        (removeOldStreams now · c.metricTimeout)).index n).lookup id := by
  rw [streamsOf_updateStreams isIngest isIngest' registered]
  by_cases written : isIngest = isIngest' ∧ n = nodeName ∧ id = streamID
  · obtain ⟨rfl, rfl, rfl⟩ := written
    simp [GoMap.index_insert, AList.lookup_insert]
  · rw [if_neg written]
    by_cases sameMap : isIngest = isIngest' <;> by_cases sameNode : n = nodeName <;>
      simp_all [GoMap.index_insert, AList.lookup_insert_ne]

theorem source_updateStreams (isIngest isIngest' : Bool) {now : Time}
    {nodeName streamID : String}
    (found : (((c.updateStreams now nodeName streamID isIngest').streamsOf isIngest).index n).lookup
      id = some s) :
    ((c.streamsOf isIngest).index n).lookup id = some s ∨
      (isIngest = isIngest' ∧ n = nodeName ∧ id = streamID ∧ s = ⟨streamID, now⟩) := by
  by_cases registered : (c.nodes.lookup nodeName).isSome
  · rw [lookup_updateStreams isIngest isIngest' registered] at found
    split at found
    · next written => exact .inr ⟨written.1, written.2.1, written.2.2, (Option.some.inj found).symm⟩
    · exact .inl (lookup_of_pruned found)
  · rw [updateStreams_unregistered registered] at found
    exact .inl found

theorem mem_streamsOf_updateStreams (isIngest isIngest' : Bool) {now : Time}
    {nodeName streamID : String}
    (mem : n ∈ (c.updateStreams now nodeName streamID isIngest').streamsOf isIngest) :
    n ∈ c.streamsOf isIngest ∨ (n = nodeName ∧ nodeName ∈ c.nodes) := by
  by_cases registered : (c.nodes.lookup nodeName).isSome
  · rw [streamsOf_updateStreams isIngest isIngest' registered] at mem
    dsimp only at mem
    split at mem
    · rcases (AList.mem_insert _).mp mem with same | old
      · exact .inr ⟨same, AList.lookup_isSome.mp registered⟩
      · exact .inl (GoMap.mem_adjust.mp old)
    · exact .inl (GoMap.mem_adjust.mp mem)
  · rw [updateStreams_unregistered registered] at mem
    exact .inl mem

theorem mem_streamsOf_updateMembers (isIngest : Bool) {members : List Member}
    (mem : n ∈ (c.updateMembers members).streamsOf isIngest) :
    n ∈ (c.updateMembers members).nodes := by
  cases isIngest <;>
    simp only [streamsOf, updateMembers, Bool.false_eq_true, if_false, if_true,
      GoMap.mem_filter] at mem <;>
    (obtain ⟨_, -, kept⟩ := mem; exact AList.lookup_isSome.mp kept)

end Calls

/-! ## Runs -/

section Step

variable {c : CataBalancer} {call : Call} {n id : String}

/-- What one call can leave in a stream map: an entry that was there, under a node the call
keeps, or the entry it wrote. -/
theorem streamsOf_step_source {isIngest : Bool} {s : Stream}
    (found : (((step c call).streamsOf isIngest).index n).lookup id = some s) :
    (((c.streamsOf isIngest).index n).lookup id = some s ∧ call.keeps n) ∨
      (call = .updateStreams s.timestamp n id isIngest ∧ s.id = id) := by
  cases call with
  | updateMembers members =>
    rw [step, streamsOf_updateMembers] at found
    split at found
    · next stays => exact .inl ⟨found, mem_updateMembers.mp stays⟩
    · cases found
  | updateNodes now id' published =>
    rw [step, streamsOf_updateNodes] at found
    exact .inl ⟨found, trivial⟩
  | updateStreams now nodeName streamID isIngest' =>
    rcases source_updateStreams isIngest isIngest' found with old | ⟨rfl, rfl, rfl, rfl⟩
    · exact .inl ⟨old, trivial⟩
    · exact .inr ⟨rfl, rfl⟩

/-- What one call can leave in the metrics map: an entry that was there, under a node the
call keeps, or the entry it wrote. -/
theorem nodeMetrics_step_source {metrics : NodeMetrics}
    (found : (step c call).nodeMetrics.lookup n = some metrics) :
    (c.nodeMetrics.lookup n = some metrics ∧ call.keeps n) ∨
      ∃ published, call = .updateNodes metrics.timestamp n published ∧
        metrics = { published with timestamp := metrics.timestamp } := by
  cases call with
  | updateMembers members =>
    obtain ⟨old, stays⟩ := nodeMetrics_updateMembers found
    exact .inl ⟨old, mem_updateMembers.mp stays⟩
  | updateNodes now id published =>
    rcases nodeMetrics_updateNodes found with old | ⟨rfl, -, rfl⟩
    · exact .inl ⟨old, trivial⟩
    · exact .inr ⟨published, rfl, rfl⟩
  | updateStreams now nodeName streamID isIngest =>
    rw [step, nodeMetrics_updateStreams] at found
    exact .inl ⟨found, trivial⟩

end Step

end CataBalancer

open CataBalancer

theorem invariant_init (nodeName : String) : Invariant [] (newBalancer nodeName) where
  nodes_named _ _ found := nomatch found
  streams_registered isIngest _ mem := by cases isIngest <;> exact absurd mem (AList.not_mem_empty _)
  nodeMetrics_registered _ mem := absurd mem (AList.not_mem_empty _)
  streams_written isIngest _ _ _ found := by cases isIngest <;> cases found
  nodeMetrics_written _ _ found := nomatch found

/-- Every call keeps the invariant, extending the run it is stated over. -/
theorem invariant_step {calls : List Call} {c : CataBalancer} (inv : Invariant calls c)
    (call : Call) : Invariant (calls ++ [call]) (step c call) where
  nodes_named k v found := by
    cases call with
    | updateMembers members => exact (lookup_updateMembers found).1
    | updateNodes => exact inv.nodes_named k v (by simpa [step] using found)
    | updateStreams => exact inv.nodes_named k v (by simpa [step] using found)
  streams_registered isIngest n mem := by
    cases call with
    | updateMembers members => exact mem_streamsOf_updateMembers isIngest mem
    | updateNodes now id published =>
      rw [step, streamsOf_updateNodes] at mem
      simpa [step] using inv.streams_registered isIngest n mem
    | updateStreams now nodeName streamID isIngest' =>
      rw [step, nodes_updateStreams]
      rcases mem_streamsOf_updateStreams isIngest isIngest' mem with old | ⟨rfl, registered⟩
      · exact inv.streams_registered isIngest n old
      · exact registered
  nodeMetrics_registered n mem := by
    obtain ⟨metrics, found⟩ := Option.isSome_iff_exists.mp (AList.lookup_isSome.mpr mem)
    cases call with
    | updateMembers members => exact (nodeMetrics_updateMembers found).2
    | updateNodes now id published =>
      rw [step, nodes_updateNodes]
      rcases nodeMetrics_updateNodes found with old | ⟨rfl, registered, -⟩
      · exact inv.nodeMetrics_registered n (AList.lookup_isSome.mp (by simp [old]))
      · exact registered
    | updateStreams =>
      rw [step, nodes_updateStreams]
      exact inv.nodeMetrics_registered n (by simpa [step] using mem)
  streams_written isIngest :=
    (inv.streams_written isIngest).snoc fun _ _ _ found => streamsOf_step_source found
  nodeMetrics_written :=
    inv.nodeMetrics_written.snoc fun _ _ found => nodeMetrics_step_source found

/-- Every state a run reaches satisfies the invariant. -/
theorem invariant_run (nodeName : String) (calls : List Call) :
    Invariant calls (run nodeName calls) := by
  induction calls using List.reverseRecOn with
  | nil => exact invariant_init nodeName
  | append_singleton calls call reached =>
    rw [run, List.foldl_append, List.foldl_cons, List.foldl_nil]
    exact invariant_step reached call


/-! ## What the readers see -/

namespace CataBalancer

variable {c : CataBalancer} {ch : Choices} {now : Time}

/-- `MistUtilLoadSource` answers with the address of a registry node holding a fresh ingest
entry for the stream. -/
theorem mistUtilLoadSource_eq_ok {stream dtsc : String}
    (served : c.mistUtilLoadSource ch now stream = .ok dtsc) :
    ∃ k v s, c.nodes.lookup k = some v ∧ v.dtsc = dtsc ∧
      (c.ingestStreams.index v.name).lookup stream = some s ∧
      isStale now s.timestamp c.metricTimeout = false := by
  unfold mistUtilLoadSource at served
  split at served
  · next entry found =>
    have fresh := List.find?_some found
    have registered := AList.mem_lookup_iff.mpr
      ((ch.rangeNodes_perm _).mem_iff.mp (List.mem_of_find?_eq_some found))
    cases stored : (c.ingestStreams.index entry.2.name).lookup stream with
    | none => simp [stored] at fresh
    | some s =>
      simp only [stored, Option.any_some, Bool.not_eq_true'] at fresh
      exact ⟨entry.1, entry.2, s, registered, Except.ok.inj served, stored, fresh⟩
  · cases served

/-- A candidate is built from a registry node's fresh metrics and its stream map. -/
theorem mem_createScoredNodes {sn : ScoredNode} (mem : sn ∈ c.createScoredNodes ch now) :
    ∃ k, c.nodes.lookup k = some sn.node ∧ c.nodeMetrics.lookup k = some sn.nodeMetrics ∧
      sn.streams = c.streams.index k ∧
      isStale now sn.nodeMetrics.timestamp c.metricTimeout = false := by
  obtain ⟨entry, ranged, built⟩ := List.mem_filterMap.mp mem
  have registered := AList.mem_lookup_iff.mpr ((ch.rangeNodes_perm _).mem_iff.mp ranged)
  split at built
  · cases built
  · next metrics stored =>
    cases fresh : isStale now metrics.timestamp c.metricTimeout
    · rw [fresh, if_neg Bool.false_ne_true] at built
      cases built
      exact ⟨entry.1, registered, stored, rfl, fresh⟩
    · rw [fresh, if_pos rfl] at built
      cases built

end CataBalancer

/-- Over every run, the maps hold data for registered nodes only, written by an update for the
node since it last joined, and the answers of both lookups come from such entries. -/
theorem run_keeps_data_since_join (nodeName : String) (calls : List Call) :
    let c := run nodeName calls
    (∀ n ∈ c.streams, n ∈ c.nodes) ∧ (∀ n ∈ c.ingestStreams, n ∈ c.nodes) ∧
      (∀ n ∈ c.nodeMetrics, n ∈ c.nodes) ∧
      StreamsWritten calls false c.streams ∧ StreamsWritten calls true c.ingestStreams ∧
      MetricsWritten calls c.nodeMetrics ∧
      (∀ ch now stream dtsc, c.mistUtilLoadSource ch now stream = .ok dtsc →
        ∃ n v s, c.nodes.lookup n = some v ∧ v.dtsc = dtsc ∧
          (c.ingestStreams.index n).lookup stream = some s ∧
          ∃ i, calls[i]? = some (.updateStreams s.timestamp n stream true) ∧
            StaysAfter calls i n) ∧
      (∀ ch now, ∀ sn ∈ c.createScoredNodes ch now, ∃ n, c.nodes.lookup n = some sn.node ∧
        c.nodeMetrics.lookup n = some sn.nodeMetrics ∧ sn.streams = c.streams.index n) := by
  have inv := invariant_run nodeName calls
  refine ⟨inv.streams_registered false, inv.streams_registered true, inv.nodeMetrics_registered,
    inv.streams_written false, inv.streams_written true, inv.nodeMetrics_written,
    fun ch now stream dtsc served => ?_, fun ch now sn mem => ?_⟩
  · obtain ⟨k, v, s, registered, addressed, stored, -⟩ := mistUtilLoadSource_eq_ok served
    rw [inv.nodes_named k v registered] at stored
    obtain ⟨-, i, wrote, stays⟩ := inv.streams_written true k stream s stored
    exact ⟨k, v, s, registered, addressed, stored, i, wrote, stays⟩
  · obtain ⟨k, registered, stored, copied, -⟩ := CataBalancer.mem_createScoredNodes mem
    exact ⟨k, registered, stored, copied⟩

end DmsApi.CatalystBalancer
