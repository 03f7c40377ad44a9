import DmsApi.CatalystBalancer.Membership

/-! # Serf events and the lifetime of an announced stream

`ReceiveUserEvent` sends stream, nuke and stop-sessions events to the Mist API connector, and
turns a `NodeUpdateEvent` into one `UpdateNodes` and one `UpdateStreams` per stream, each
taking the lock and reading the clock on its own, so other calls can run in between. Whatever
runs, a stream a registered node announced at `t` is found by `MistUtilLoadSource` throughout
`[t, t + UpdateEvery)` while the node stays, and is invisible once stale. For metrics the last
`UpdateNodes` wins, and one made before the node is registered is lost.
-/

namespace DmsApi.CatalystBalancer

open Catabalancer (Node NodeMetrics NodeUpdateEvent isStale isStale_of_window Choices)

/-- The serf user events `ReceiveUserEvent` tells apart, as `events.Unmarshal` decodes them. -/
inductive UserEvent
  | streamEvent (playbackID : String)
  | nukeEvent (playbackID : String)
  | stopSessionsEvent (playbackID : String)
  | nodeUpdateEvent (event : NodeUpdateEvent)
  | unsupported

/-- A call on the Mist API connector. -/
inductive MapicCall
  | refreshStreamIfNeeded (playbackID : String)
  | nukeStream (playbackID : String)
  | stopSessions (playbackID : String)
deriving DecidableEq, Repr

/-- A balancer call as a handler issues it; the clock is read once the call holds the lock. -/
inductive Request
  | updateNodes (id : String) (nodeMetrics : NodeMetrics)
  | updateStreams (nodeName streamID : String) (isIngest : Bool)

/-- The call a request makes when it reads the clock at `now`. -/
def Request.call (now : Time) : Request → Call
  | .updateNodes id nodeMetrics => .updateNodes now id nodeMetrics
  | .updateStreams nodeName streamID isIngest => .updateStreams now nodeName streamID isIngest

/-- `ReceiveUserEvent` on a decoded event: its calls on the connector and its requests to the
balancer, in order. -/
def receiveUserEvent : UserEvent → List MapicCall × List Request
  | .streamEvent playbackID => ([.refreshStreamIfNeeded playbackID], [])
  | .nukeEvent playbackID => ([.nukeStream playbackID], [])
  | .stopSessionsEvent playbackID => ([.stopSessions playbackID], [])
  | .nodeUpdateEvent event =>
    ([], .updateNodes event.nodeID event.nodeMetrics ::
      (event.getStreams.map fun stream => .updateStreams event.nodeID stream false) ++
      event.getIngestStreams.map fun stream => .updateStreams event.nodeID stream true)
  | .unsupported => ([], [])

namespace CataBalancer

@[simp] theorem metricTimeout_step (c : CataBalancer) (call : Call) :
    (step c call).metricTimeout = c.metricTimeout := by
  cases call <;> simp [step]

theorem metricTimeout_foldl (c : CataBalancer) (calls : List Call) :
    (calls.foldl step c).metricTimeout = c.metricTimeout := by
  induction calls generalizing c with
  | nil => rfl
  | cons call rest ih => rw [List.foldl_cons, ih, metricTimeout_step]

section Window

variable {isIngest : Bool} {n id : String} {t : Time}

/-- Node `n` is registered and holds stream `id` in the map `UpdateStreams(_, _, isIngest)`
writes, stamped no earlier than `t`. -/
def HoldsSince (isIngest : Bool) (n id : String) (t : Time) (c : CataBalancer) : Prop :=
  n ∈ c.nodes ∧ ∃ t', t ≤ t' ∧ ((c.streamsOf isIngest).index n).lookup id = some ⟨id, t'⟩

/-- The announcement itself: `UpdateStreams(n, id, isIngest)` at `t` for a registered node. -/
theorem holdsSince_updateStreams {c : CataBalancer} (registered : n ∈ c.nodes) :
    HoldsSince isIngest n id t (c.updateStreams t n id isIngest) := by
  refine ⟨by rwa [nodes_updateStreams], t, le_rfl, ?_⟩
  rw [lookup_updateStreams isIngest isIngest (AList.lookup_isSome.mpr registered),
    if_pos ⟨rfl, rfl, rfl⟩]

/-- One more call keeps the stream held, if it keeps the node and, when it updates the node's
streams, reads the clock in `[t, t + metricTimeout)`. -/
theorem holdsSince_step {c : CataBalancer} {call : Call} (holds : HoldsSince isIngest n id t c)
    (keeps : call.keeps n) (positive : 0 < c.metricTimeout)
    (window : ∀ now id' isIngest', call = .updateStreams now n id' isIngest' →
      t ≤ now ∧ now < t + c.metricTimeout) :
    HoldsSince isIngest n id t (step c call) := by
  obtain ⟨registered, stamp, since, found⟩ := holds
  cases call with
  | updateMembers members =>
    have stays : n ∈ (c.updateMembers members).nodes := mem_updateMembers.mpr keeps
    refine ⟨stays, stamp, since, ?_⟩
    rw [step, streamsOf_updateMembers, if_pos stays]
    exact found
  | updateNodes now id' published =>
    exact ⟨by rwa [step, nodes_updateNodes], stamp, since, by rwa [step, streamsOf_updateNodes]⟩
  | updateStreams now nodeName streamID isIngest' =>
    refine ⟨by rwa [step, nodes_updateStreams], ?_⟩
    by_cases listed : (c.nodes.lookup nodeName).isSome
    · rw [step, lookup_updateStreams isIngest isIngest' listed]
      split
      · next written =>
        obtain ⟨-, rfl, rfl⟩ := written
        exact ⟨now, (window now id isIngest' rfl).1, rfl⟩
      · -- the node's pruning keeps the entry, which is younger than the timeout
        refine ⟨stamp, since, lookup_pruned_of_fresh found fun same => ?_⟩
        subst same
        exact isStale_of_window positive since (window now streamID isIngest' rfl).2
    · rw [step, updateStreams_unregistered listed]
      exact ⟨stamp, since, found⟩

/-- Over calls that all keep the node and update its streams only within the window, the
stream stays held. -/
theorem holdsSince_foldl {c : CataBalancer} {after : List Call}
    (holds : HoldsSince isIngest n id t c) (positive : 0 < c.metricTimeout)
    (stays : ∀ call ∈ after, call.keeps n)
    (window : ∀ now id' isIngest', Call.updateStreams now n id' isIngest' ∈ after →
      t ≤ now ∧ now < t + c.metricTimeout) :
    HoldsSince isIngest n id t (after.foldl step c) := by
  induction after generalizing c with
  | nil => exact holds
  | cons call rest ih =>
    have next := holdsSince_step holds (stays call (.head rest)) positive
      fun now id' isIngest' is => window now id' isIngest' (is ▸ .head rest)
    rw [List.foldl_cons]
    refine ih next (by rwa [metricTimeout_step]) (fun call mem => stays call (.tail _ mem)) ?_
    intro now id' isIngest' mem
    rw [metricTimeout_step]
    exact window now id' isIngest' (.tail _ mem)

end Window

section Metrics

variable {c : CataBalancer} {n : String}

/-- A call that keeps node `n` and is no `UpdateNodes` for it leaves `n`'s metrics alone. -/
theorem nodeMetrics_step_of_keeps {call : Call} (keeps : call.keeps n)
    (other : ∀ t published, call ≠ .updateNodes t n published) :
    (step c call).nodeMetrics.lookup n = c.nodeMetrics.lookup n := by
  cases call with
  | updateMembers members =>
    have stays : ((c.updateMembers members).nodes.lookup n).isSome :=
      AList.lookup_isSome.mpr (mem_updateMembers.mpr keeps)
    simp only [step, updateMembers, GoMap.lookup_filter] at stays ⊢
    cases c.nodeMetrics.lookup n <;> simp only [Option.filter, stays, if_true]
  | updateNodes now id published =>
    have apart : n ≠ id := fun same => other now published (same ▸ rfl)
    rw [step]
    unfold updateNodes
    split
    · rfl
    · exact AList.lookup_insert_ne apart
  | updateStreams => rw [step, nodeMetrics_updateStreams]

theorem nodeMetrics_foldl_of_keeps {after : List Call} (stays : ∀ call ∈ after, call.keeps n)
    (latest : ∀ t published, Call.updateNodes t n published ∉ after) :
    (after.foldl step c).nodeMetrics.lookup n = c.nodeMetrics.lookup n := by
  induction after generalizing c with
  | nil => rfl
  | cons call rest ih =>
    rw [List.foldl_cons, ih (fun call' mem => stays call' (.tail _ mem))
      (fun t published mem => latest t published (.tail _ mem))]
    exact nodeMetrics_step_of_keeps (stays call (.head rest))
      fun t published same => latest t published (same ▸ .head rest)

end Metrics

/-- `MistUtilLoadSource` succeeds when a registry node, filed under its own name, holds a fresh
ingest entry for the stream. -/
theorem mistUtilLoadSource_of_fresh {c : CataBalancer} (ch : Choices) {now : Time}
    {n stream : String} {s : Stream} (named : ∀ k v, c.nodes.lookup k = some v → v.name = k)
    (registered : n ∈ c.nodes) (found : (c.ingestStreams.index n).lookup stream = some s)
    (fresh : isStale now s.timestamp c.metricTimeout = false) :
    ∃ dtsc, c.mistUtilLoadSource ch now stream = .ok dtsc := by
  unfold mistUtilLoadSource
  split
  · exact ⟨_, rfl⟩
  · next missing =>
    obtain ⟨v, stored⟩ := Option.isSome_iff_exists.mp (AList.lookup_isSome.mpr registered)
    have ranged : (⟨n, v⟩ : Σ _ : String, Node) ∈ ch.rangeNodes c.nodes.entries :=
      (ch.rangeNodes_perm _).mem_iff.mpr (AList.mem_lookup_iff.mp stored)
    have skipped := List.find?_eq_none.mp missing _ ranged
    simp [named n v stored, found, fresh] at skipped

/-- Stale entries are invisible to `MistUtilLoadSource`: it answers the same once every node's
ingest streams are pruned as `UpdateStreams` prunes them, at the request's time; so a stream
that only stale entries list gets the error of a stream no node lists. -/
theorem mistUtilLoadSource_stale_as_absent (c : CataBalancer) (ch : Choices) (now : Time)
    (stream : String) :
    c.mistUtilLoadSource ch now stream =
      ({ c with ingestStreams :=
          GoMap.mapValues (removeOldStreams now · c.metricTimeout) c.ingestStreams } :
        CataBalancer).mistUtilLoadSource ch now stream ∧
    ((∀ n s, (c.ingestStreams.index n).lookup stream = some s →
        isStale now s.timestamp c.metricTimeout = true) →
      c.mistUtilLoadSource ch now stream = .error ("no node found for ingest stream: " ++ stream)) := by
  have pruned : ∀ k, (((GoMap.mapValues (removeOldStreams now · c.metricTimeout)
      c.ingestStreams).index k).lookup stream).any (fun s => !isStale now s.timestamp c.metricTimeout) =
      ((c.ingestStreams.index k).lookup stream).any fun s => !isStale now s.timestamp c.metricTimeout := by
    intro k
    have indexed : (GoMap.mapValues (removeOldStreams now · c.metricTimeout) c.ingestStreams).index k =
        removeOldStreams now (c.ingestStreams.index k) c.metricTimeout :=
      @GoMap.index_mapValues Streams _ Streams _ (removeOldStreams now · c.metricTimeout) rfl
        c.ingestStreams k
    rw [indexed, removeOldStreams, GoMap.lookup_filter]
    cases (c.ingestStreams.index k).lookup stream with
    | none => rfl
    | some s =>
      by_cases stale : isStale now s.timestamp c.metricTimeout <;> simp [Option.filter, stale]
  refine ⟨by simp only [mistUtilLoadSource, pruned], fun stale => ?_⟩
  unfold mistUtilLoadSource
  rw [List.find?_eq_none.mpr fun entry _ => ?_]
  cases listed : (c.ingestStreams.index entry.2.name).lookup stream with
  | none => simp only [Option.any_none, Bool.false_eq_true, not_false_eq_true]
  | some s => simp only [Option.any_some, stale _ s listed, Bool.not_true, Bool.false_eq_true,
      not_false_eq_true]

/-- A stream announced at time zero and asked for six seconds later gets the error of an
unknown stream. -/
theorem mistUtilLoadSource_stale_as_absent_single :
    let c : CataBalancer := ⟨"self", (∅ : GoMap Node).insert "a" ⟨"a", "dtsc://a"⟩, ∅,
      (∅ : GoMap Streams).insert "a" ((∅ : Streams).insert "s" ⟨"s", 0⟩), ∅, updateEvery⟩
    (∀ n s, (c.ingestStreams.index n).lookup "s" = some s →
        isStale 6000000000 s.timestamp c.metricTimeout = true) ∧
    c.mistUtilLoadSource .inOrder 6000000000 "s" =
      ({ c with ingestStreams :=
          GoMap.mapValues (removeOldStreams 6000000000 · c.metricTimeout) c.ingestStreams } :
        CataBalancer).mistUtilLoadSource .inOrder 6000000000 "s" ∧
    ((∀ n s, (c.ingestStreams.index n).lookup "s" = some s →
        isStale 6000000000 s.timestamp c.metricTimeout = true) →
      c.mistUtilLoadSource .inOrder 6000000000 "s" =
        .error ("no node found for ingest stream: " ++ "s")) := by
  intro c
  have stale : ∀ n s, (c.ingestStreams.index n).lookup "s" = some s →
      isStale 6000000000 s.timestamp c.metricTimeout = true := by
    intro n s found
    by_cases here : n = "a"
    · subst here
      simp only [c, GoMap.index, AList.lookup_insert, Option.getD_some,
        Option.some.injEq] at found
      subst found
      decide
    · simp only [c, GoMap.index, AList.lookup_insert_ne here, AList.lookup_empty,
        Option.getD_none] at found
      cases found
  exact ⟨stale, mistUtilLoadSource_stale_as_absent c .inOrder 6000000000 "s"⟩

end CataBalancer

open CataBalancer

/-- Once a registered node announced `stream` at `t`, `MistUtilLoadSource(stream)` succeeds
throughout `[t, t + UpdateEvery)`, while no later call drops the node or stamps it outside. -/
theorem mistUtilLoadSource_finds_announced (nodeName : String) (before after : List Call)
    {t : Time} {n stream : String} (registered : n ∈ (run nodeName before).nodes)
    (stays : ∀ call ∈ after, call.keeps n)
    (window : ∀ now id isIngest, Call.updateStreams now n id isIngest ∈ after →
      t ≤ now ∧ now < t + updateEvery)
    (ch : Choices) {now : Time} (recent : t ≤ now ∧ now < t + updateEvery) :
    ∃ dtsc, (run nodeName (before ++ .updateStreams t n stream true :: after)).mistUtilLoadSource
      ch now stream = .ok dtsc := by
  have timeout : (run nodeName before).metricTimeout = updateEvery :=
    metricTimeout_foldl (newBalancer nodeName) before
  have positive : 0 < (run nodeName before).metricTimeout := by rw [timeout]; decide
  have unfolded : run nodeName (before ++ .updateStreams t n stream true :: after) =
      after.foldl step ((run nodeName before).updateStreams t n stream true) := by
    rw [run, List.foldl_append, List.foldl_cons]; rfl
  have held : HoldsSince true n stream t
      (run nodeName (before ++ .updateStreams t n stream true :: after)) := by
    rw [unfolded]
    exact holdsSince_foldl (holdsSince_updateStreams registered)
      (by rwa [metricTimeout_updateStreams]) stays (by rwa [metricTimeout_updateStreams, timeout])
  obtain ⟨stillRegistered, stamp, since, found⟩ := held
  have lasts : (run nodeName (before ++ .updateStreams t n stream true :: after)).metricTimeout =
      updateEvery := metricTimeout_foldl (newBalancer nodeName) _
  exact mistUtilLoadSource_of_fresh ch (invariant_run nodeName _).nodes_named stillRegistered
    found (isStale_of_window (by rw [lasts]; decide) since (by rw [lasts]; exact recent.2))

theorem mistUtilLoadSource_finds_announced_rejoined :
    let members : List Catabalancer.Member := [⟨"a", (∅ : GoMap String).insert "dtsc" "dtsc://a"⟩]
    let after : List Call := [.updateStreams 2000000000 "a" "t" true, .updateMembers members]
    "a" ∈ (run "self" [.updateMembers members]).nodes ∧ (∀ call ∈ after, call.keeps "a") ∧
      (∀ now id isIngest, Call.updateStreams now "a" id isIngest ∈ after →
        0 ≤ now ∧ now < 0 + updateEvery) ∧
      ((0 : Time) ≤ 4000000000 ∧ 4000000000 < 0 + updateEvery) ∧
      ∃ dtsc, (run "self" ([.updateMembers members] ++ .updateStreams 0 "a" "s" true :: after)
        ).mistUtilLoadSource Choices.inOrder 4000000000 "s" = .ok dtsc := by
  intro members after
  have registered : "a" ∈ (run "self" [.updateMembers members]).nodes := by decide
  have stays : ∀ call ∈ after, call.keeps "a" := by
    intro call mem
    rcases (show call ∈ [_, _] from mem) with _ | ⟨_, _ | ⟨_, ⟨⟩⟩⟩
    · trivial
    · exact ⟨_, List.mem_singleton_self _, rfl⟩
  have window : ∀ now id isIngest, Call.updateStreams now "a" id isIngest ∈ after →
      0 ≤ now ∧ now < 0 + updateEvery := by
    intro now id isIngest mem
    rcases (show Call.updateStreams now "a" id isIngest ∈ [_, _] from mem) with
      _ | ⟨_, _ | ⟨_, ⟨⟩⟩⟩
    decide
  have recent : (0 : Time) ≤ 4000000000 ∧ 4000000000 < 0 + updateEvery := by decide
  exact ⟨registered, stays, window, recent, mistUtilLoadSource_finds_announced "self" _ after
    registered stays window Choices.inOrder recent⟩

/-- A registered node's metrics are those of its last `UpdateNodes` while it stays, whatever
else runs; an `UpdateNodes` for a node not yet registered is lost. -/
theorem nodeMetrics_last_write_wins (nodeName : String) (before after : List Call) {t : Time}
    {n : String} {published : NodeMetrics} (stays : ∀ call ∈ after, call.keeps n)
    (latest : ∀ t' published', Call.updateNodes t' n published' ∉ after) :
    (n ∈ (run nodeName before).nodes →
      (run nodeName (before ++ .updateNodes t n published :: after)).nodeMetrics.lookup n =
        some { published with timestamp := t }) ∧
    (n ∉ (run nodeName before).nodes →
      run nodeName (before ++ .updateNodes t n published :: after) = run nodeName (before ++ after)) := by
  have unfolded : ∀ call, run nodeName (before ++ call :: after) =
      after.foldl step (step (run nodeName before) call) := fun call => by
    rw [run, List.foldl_append, List.foldl_cons]; rfl
  refine ⟨fun registered => ?_, fun absent => ?_⟩
  · have listed : ((run nodeName before).nodes.lookup n).isNone = false := by
      simpa using AList.lookup_isSome.mpr registered
    rw [unfolded, nodeMetrics_foldl_of_keeps stays latest, step, updateNodes, if_neg (by simp [listed]),
      AList.lookup_insert]
  · have missing : ((run nodeName before).nodes.lookup n).isNone = true :=
      Option.isNone_iff_eq_none.mpr (AList.lookup_eq_none.mpr absent)
    rw [unfolded, step, updateNodes, if_pos missing]
    exact (List.foldl_append step (newBalancer nodeName) before after).symm

theorem nodeMetrics_last_write_wins_single :
    let before : List Call := [.updateMembers [⟨"a", ∅⟩]]
    let after : List Call := [.updateStreams 2 "a" "s" true, .updateMembers [⟨"a", ∅⟩, ⟨"b", ∅⟩],
      .updateNodes 3 "b" ⟨1, 1, 1, 0, 0, 0⟩]
    (∀ call ∈ after, call.keeps "a") ∧ (∀ t' published', Call.updateNodes t' "a" published' ∉ after) ∧
    ("a" ∈ (run "self" before).nodes →
      (run "self" (before ++ .updateNodes 1 "a" ⟨10, 20, 30, 0, 0, 0⟩ :: after)).nodeMetrics.lookup "a" =
        some { (⟨10, 20, 30, 0, 0, 0⟩ : NodeMetrics) with timestamp := 1 }) ∧
    ("a" ∉ (run "self" before).nodes →
      run "self" (before ++ .updateNodes 1 "a" ⟨10, 20, 30, 0, 0, 0⟩ :: after) =
        run "self" (before ++ after)) := by
  intro before after
  have stays : ∀ call ∈ after, call.keeps "a" := by
    intro call mem
    simp only [after, List.mem_cons, List.mem_singleton, List.not_mem_nil, or_false] at mem
    rcases mem with rfl | rfl | rfl
    · trivial
    · exact ⟨_, .head _, rfl⟩
    · trivial
  have latest : ∀ t' published', Call.updateNodes t' "a" published' ∉ after := by
    intro t' published' mem
    simp only [after, List.mem_cons, List.mem_singleton, List.not_mem_nil, or_false] at mem
    rcases mem with wrong | wrong | wrong
    · cases wrong
    · cases wrong
    · exact absurd (Call.updateNodes.inj wrong).2.1 (by decide)
  exact ⟨stays, latest, nodeMetrics_last_write_wins "self" before after stays latest⟩

end DmsApi.CatalystBalancer
