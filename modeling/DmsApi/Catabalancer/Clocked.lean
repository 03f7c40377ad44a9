import DmsApi.Catabalancer.Balancer

/-! # The store-backed calls under a moving clock

Every `time.Now()` and `time.Since` of a store-backed call reads the clock anew. Here the calls
take their readings from a `Clock` in the order the code makes them, and pass on how many they
have taken. At a stopped clock they are the calls of `Refresh` and `Balancer`. Under a moving
clock a stream is stamped when its row is read and tested when the candidates are scored, so it
is served only while that delay stays below `metricTimeout`; and the ingest check of
`MistUtilLoadSource` measures the same delay, never the age of the row.
-/

namespace DmsApi.Catabalancer

/-- What a store-backed call reads of the runtime beside `Choices`: the clock, and the order in
which `createScoredNodes` ranges over a node's streams. -/
structure CallRuntime where
  clock : Clock
  rangeStreams : List (Σ _ : String, Stream) → List (Σ _ : String, Stream)
  rangeStreams_perm : ∀ l, (rangeStreams l).Perm l

/-- A runtime that ranges over each map in its stored order. -/
def CallRuntime.inOrder (clock : Clock) : CallRuntime := ⟨clock, id, List.Perm.refl⟩

/-! ## Refreshing -/

/-- Line 356: a playback stream's entry, stamped at the reading it takes. -/
def recordPlayback (clock : Clock) (acc : Streams × Nat) (stream : String) : Streams × Nat :=
  (acc.1.insert (getPlaybackID stream) ⟨stream, getPlaybackID stream, clock.read acc.2⟩,
    acc.2 + 1)

/-- Lines 360-361: an ingest stream's playback entry and ingest entry, each stamped at a reading
of its own. -/
def recordIngest (clock : Clock) (acc : (Streams × Streams) × Nat) (stream : String) :
    (Streams × Streams) × Nat :=
  ((acc.1.1.insert (getPlaybackID stream) ⟨stream, getPlaybackID stream, clock.read acc.2⟩,
    acc.1.2.insert stream ⟨stream, getPlaybackID stream, clock.read (acc.2 + 1)⟩), acc.2 + 2)

/-- The stream loops on one fresh event from reading `i` on: the playback and ingest maps, and
the next reading. -/
def recordStreamsAt (clock : Clock) (e : NodeUpdateEvent) (i : Nat) :
    (Streams × Streams) × Nat :=
  let played := e.getStreams.foldl (recordPlayback clock) (∅, i)
  e.getIngestStreams.foldl (recordIngest clock) ((played.1, ∅), played.2)

/-- The loop body on a decoded event: the staleness test takes a reading, then the writes. -/
def refreshEventAt (metricTimeout : Duration) (clock : Clock) (acc : Stats × Nat)
    (e : NodeUpdateEvent) : Stats × Nat :=
  if isStale (clock.read acc.2) e.nodeMetrics.timestamp metricTimeout then (acc.1, acc.2 + 1)
  else
    let written := recordStreamsAt clock e (acc.2 + 1)
    (⟨acc.1.streams.insert e.nodeID written.1.1, acc.1.ingestStreams.insert e.nodeID written.1.2,
      acc.1.nodeMetrics.insert e.nodeID e.nodeMetrics⟩, written.2)

def refreshRowAt (metricTimeout : Duration) (clock : Clock) (acc : Stats × Nat) :
    Row → Except String (Stats × Nat)
  | .event e => .ok (refreshEventAt metricTimeout clock acc e)
  | .scanError err => .error ("failed to scan node stats row: " ++ err)
  | .unmarshalError err => .error ("failed to unmarshal node update event: " ++ err)

namespace CataBalancer

/-- `RefreshNodes` from the call's `i`-th reading on: the stats and the next reading. -/
def refreshNodesAt (c : CataBalancer) (clock : Clock) (i : Nat) : Except String (Stats × Nat) :=
  match c.nodeStatsDB with
  | none => .error "node stats DB was nil"
  | some db =>
    match db.query with
    | .failed err => .error ("failed to query node stats: " ++ err)
    | .rows rows rowsErr => do
      let acc ← rows.foldlM (refreshRowAt c.metricTimeout clock) (∅, i)
      match rowsErr with
      | some err => .error err
      | none => pure acc

/-! ## Scoring -/

/-- Lines 207-213: the streams a candidate copies, each tested at the reading its turn in the
`range` takes from `i` on, kept as `GoMap.filter` keeps a copying loop's. -/
def keptStreams (c : CataBalancer) (rt : CallRuntime) (streams : Streams) (i : Nat) : Streams :=
  GoMap.filter (fun streamID stream =>
    !isStale (rt.clock.read (i + ((rt.rangeStreams streams.entries).map (·.1)).indexOf streamID))
      stream.timestamp c.metricTimeout) streams

/-- The loop body of `createScoredNodes` on one registry entry from reading `i` on. -/
def scoreNodeAt (c : CataBalancer) (rt : CallRuntime) (s : Stats) (nodeName : String)
    (node : Node) (i : Nat) : Option ScoredNode × Nat :=
  match s.nodeMetrics.lookup nodeName with
  | none => (none, i)
  | some metrics =>
    if isStale (rt.clock.read i) metrics.timestamp c.metricTimeout then (none, i + 1)
    else (some ⟨0, 0, 0, node, c.keptStreams rt (s.streams.index nodeName) (i + 1), metrics⟩,
      i + 1 + (s.streams.index nodeName).entries.length)

/-- One turn of the loop over the registry: `nodesList = append(nodesList, ...)`. -/
def scoreEntryAt (c : CataBalancer) (rt : CallRuntime) (s : Stats)
    (acc : List ScoredNode × Nat) (entry : Σ _ : String, Node) : List ScoredNode × Nat :=
  let scored := c.scoreNodeAt rt s entry.1 entry.2 acc.2
  (acc.1 ++ scored.1.toList, scored.2)

def createScoredNodesAt (c : CataBalancer) (ch : Choices) (rt : CallRuntime) (s : Stats)
    (i : Nat) : List ScoredNode × Nat :=
  (ch.rangeNodes c.nodes.entries).foldl (c.scoreEntryAt rt s) ([], i)

/-- The part of `GetBestNode` that reads the clock: the refreshed stats, the candidates, and the
readings taken by then. -/
def candidatesAt (c : CataBalancer) (ch : Choices) (rt : CallRuntime) :
    Except String (Stats × List ScoredNode × Nat) :=
  (c.refreshNodesAt rt.clock 0).map fun refreshed =>
    (refreshed.1, c.createScoredNodesAt ch rt refreshed.1 refreshed.2)

def getBestNodeAt (c : CataBalancer) (ch : Choices) (g : GeoScorer)
    (parseFloat : String → Except String ℚ) (rt : CallRuntime) (redirectPrefixes : List String)
    (playbackID lat lon : String) : Except String (String × String) := do
  let refreshed ← (c.refreshNodesAt rt.clock 0).mapError ("error refreshing nodes: " ++ ·)
  let latf ← parseCoordinate parseFloat lat
  let lonf ← parseCoordinate parseFloat lon
  let scoredNodes := (c.createScoredNodesAt ch rt refreshed.1 refreshed.2).1
  let nodeName ← (if 0 < scoredNodes.length then
      (·.name) <$> selectNode ch g scoredNodes playbackID latf lonf
    else pure c.nodeName)
  pure (nodeName, redirectPrefixes.headD "video" ++ "+" ++ playbackID)

def mistUtilLoadSourceAt (c : CataBalancer) (ch : Choices) (clock : Clock) (streamID : String) :
    Except String String := do
  let refreshed ← (c.refreshNodesAt clock 0).mapError ("error refreshing nodes: " ++ ·)
  match c.findIngest ch refreshed.1 streamID with
  | none => .error ("catabalancer no node found for ingest stream: " ++ streamID ++ " stale: false")
  | some (nodeName, stream) =>
    if isStale (clock.read refreshed.2) stream.timestamp c.ingestStreamTimeout then
      .error ("catabalancer no node found for ingest stream: " ++ streamID ++ " stale: true")
    else pure ("dtsc://" ++ nodeName)

end CataBalancer

/-! ## At a stopped clock -/

section Stopped

variable (now : Time)

theorem recordStreamsAt_stopped (e : NodeUpdateEvent) (i : Nat) :
    (recordStreamsAt (.stopped now) e i).1 = (recordStreams now e, recordIngestStreams now e) := by
  have played := List.foldl_hom (fun acc : Streams × Nat => acc.1) (recordPlayback (.stopped now))
    (fun m stream => m.insert (getPlaybackID stream) ⟨stream, getPlaybackID stream, now⟩)
    e.getStreams (∅, i) (fun _ _ => rfl)
  have playback := List.foldl_hom (fun acc : (Streams × Streams) × Nat => acc.1.1)
    (recordIngest (.stopped now))
    (fun m stream => m.insert (getPlaybackID stream) ⟨stream, getPlaybackID stream, now⟩)
    e.getIngestStreams (((e.getStreams.foldl (recordPlayback (.stopped now)) (∅, i)).1, ∅),
      (e.getStreams.foldl (recordPlayback (.stopped now)) (∅, i)).2) (fun _ _ => rfl)
  have ingest := List.foldl_hom (fun acc : (Streams × Streams) × Nat => acc.1.2)
    (recordIngest (.stopped now))
    (fun m stream => m.insert stream ⟨stream, getPlaybackID stream, now⟩)
    e.getIngestStreams (((e.getStreams.foldl (recordPlayback (.stopped now)) (∅, i)).1, ∅),
      (e.getStreams.foldl (recordPlayback (.stopped now)) (∅, i)).2) (fun _ _ => rfl)
  rw [recordStreams, recordIngestStreams, List.foldl_append, played]
  exact Prod.ext playback.symm ingest.symm

theorem refreshEventAt_stopped (metricTimeout : Duration) (acc : Stats × Nat)
    (e : NodeUpdateEvent) :
    (refreshEventAt metricTimeout (.stopped now) acc e).1 = refreshEvent metricTimeout now acc.1 e := by
  by_cases stale : isStale now e.nodeMetrics.timestamp metricTimeout <;>
    simp [refreshEventAt, refreshEvent, stale, recordStreamsAt_stopped, Stats.record]

/-- At a stopped clock `RefreshNodes` is the refresh of `Refresh`. -/
theorem refreshNodesAt_stopped (c : CataBalancer) (i : Nat) :
    (c.refreshNodesAt (.stopped now) i).map (·.1) = c.refreshNodes now := by
  have loop : ∀ (rows : List Row) (acc : Stats × Nat),
      (rows.foldlM (refreshRowAt c.metricTimeout (.stopped now)) acc).map (·.1) =
        rows.foldlM (refreshRow c.metricTimeout now) acc.1 := by
    intro rows
    induction rows with
    | nil => intro acc; rfl
    | cons row rows ih =>
      intro acc
      cases row with
      | event e =>
        exact (ih _).trans (congrArg (fun s => rows.foldlM (refreshRow c.metricTimeout now) s)
          (refreshEventAt_stopped now c.metricTimeout acc e))
      | scanError err => rfl
      | unmarshalError err => rfl
  obtain ⟨_, _, _, _, _ | ⟨_ | ⟨rows, rowsErr⟩⟩⟩ := c
  · rfl
  · rfl
  · simp only [CataBalancer.refreshNodesAt, CataBalancer.refreshNodes]
    rw [← loop rows (∅, i)]
    cases rows.foldlM (refreshRowAt _ (.stopped now)) (∅, i) <;> cases rowsErr <;> rfl

theorem scoreNodeAt_stopped {rt : CallRuntime} (stopped : rt.clock = .stopped now)
    (c : CataBalancer) (s : Stats) (nodeName : String) (node : Node) (i : Nat) :
    (c.scoreNodeAt rt s nodeName node i).1 = c.scoreNode now s nodeName node := by
  unfold CataBalancer.scoreNodeAt CataBalancer.scoreNode CataBalancer.keptStreams
  rw [stopped]
  cases s.nodeMetrics.lookup nodeName with
  | none => rfl
  | some metrics =>
    by_cases stale : isStale now metrics.timestamp c.metricTimeout <;> simp [stale]

theorem createScoredNodesAt_stopped {rt : CallRuntime} (stopped : rt.clock = .stopped now)
    (c : CataBalancer) (ch : Choices) (s : Stats) (i : Nat) :
    (c.createScoredNodesAt ch rt s i).1 = c.createScoredNodes ch now s := by
  have loop : ∀ (entries : List (Σ _ : String, Node)) (acc : List ScoredNode × Nat),
      (entries.foldl (c.scoreEntryAt rt s) acc).1 =
        acc.1 ++ entries.filterMap fun entry => c.scoreNode now s entry.1 entry.2 := by
    intro entries
    induction entries with
    | nil => intro acc; exact (List.append_nil _).symm
    | cons entry entries ih =>
      intro acc
      rw [List.foldl_cons, ih, List.filterMap_cons]
      simp only [CataBalancer.scoreEntryAt, scoreNodeAt_stopped now stopped]
      cases c.scoreNode now s entry.1 entry.2 <;> simp
  exact loop _ ([], i)

/-- At a stopped clock `GetBestNode` is the `GetBestNode` of `Balancer`. -/
theorem getBestNodeAt_stopped {rt : CallRuntime} (stopped : rt.clock = .stopped now)
    (c : CataBalancer) (ch : Choices) (g : GeoScorer) (parseFloat : String → Except String ℚ)
    (redirectPrefixes : List String) (playbackID lat lon : String) :
    c.getBestNodeAt ch g parseFloat rt redirectPrefixes playbackID lat lon =
      c.getBestNode ch g parseFloat now redirectPrefixes playbackID lat lon := by
  unfold CataBalancer.getBestNodeAt CataBalancer.getBestNode
  rw [← refreshNodesAt_stopped now c 0, ← stopped]
  cases c.refreshNodesAt rt.clock 0 with
  | error err => rfl
  | ok refreshed =>
    simp only [Except.map, Except.mapError, bind, Except.bind,
      createScoredNodesAt_stopped now stopped]

/-- At a stopped clock `MistUtilLoadSource` is the `MistUtilLoadSource` of `Balancer`. -/
theorem mistUtilLoadSourceAt_stopped (c : CataBalancer) (ch : Choices) (streamID : String) :
    c.mistUtilLoadSourceAt ch (.stopped now) streamID = c.mistUtilLoadSource ch now streamID := by
  unfold CataBalancer.mistUtilLoadSourceAt CataBalancer.mistUtilLoadSource
  rw [← refreshNodesAt_stopped now c 0]
  cases c.refreshNodesAt (.stopped now) 0 <;> rfl

end Stopped

/-- A store whose rows all decode is read without error, event by event. -/
theorem refreshNodesAt_of_decoded {c : CataBalancer} {db : NodeStatsDB}
    {rows : List NodeUpdateEvent} (handle : c.nodeStatsDB = some db)
    (decoded : db.query = .rows (rows.map .event) none) (clock : Clock) (i : Nat) :
    c.refreshNodesAt clock i = .ok (rows.foldl (refreshEventAt c.metricTimeout clock) (∅, i)) := by
  have loop : ∀ (acc : Stats × Nat) (rest : List NodeUpdateEvent),
      (rest.map Row.event).foldlM (refreshRowAt c.metricTimeout clock) acc =
        .ok (rest.foldl (refreshEventAt c.metricTimeout clock) acc) := by
    intro acc rest
    induction rest generalizing acc with
    | nil => rfl
    | cons e rest ih => exact ih _
  simp only [CataBalancer.refreshNodesAt, handle, decoded, loop]
  rfl

/-! ## Readings and stamps -/

/-- Every entry of `m` was stamped at some reading of `clock`. -/
def StampedBy (clock : Clock) (m : Streams) : Prop :=
  ∀ k stream, m.lookup k = some stream → ∃ q, stream.timestamp = clock.read q

/-- A fresh test at a later reading was fresh at every earlier one. -/
theorem isStale_anti {earlier later stamp stale : Int} (ordered : earlier ≤ later)
    (fresh : isStale later stamp stale = false) : isStale earlier stamp stale = false :=
  Bool.eq_false_iff.mpr fun staleEarlier => by
    rw [isStale_mono ordered staleEarlier] at fresh
    cases fresh

/-- An entry stamped no earlier than `first` and tested between `first` and `last` is fresh when
`last` comes less than `stale` after `first`. -/
theorem isStale_of_within {first stamp now last stale : Int} (stamped : first ≤ stamp)
    (started : first ≤ now) (tested : now ≤ last) (brief : last < first + stale) :
    isStale now stamp stale = false :=
  isStale_of_lt (show (0 : Int) < stale by omega) (show now - stamp < stale by omega)

section Readings

variable (clock : Clock)

theorem foldl_recordPlayback_readings (xs : List String) (acc : Streams × Nat) :
    (xs.foldl (recordPlayback clock) acc).2 = acc.2 + xs.length := by
  induction xs generalizing acc with
  | nil => rfl
  | cons x xs ih => simp only [List.foldl_cons, ih, recordPlayback, List.length_cons]; omega

theorem foldl_recordIngest_readings (xs : List String) (acc : (Streams × Streams) × Nat) :
    (xs.foldl (recordIngest clock) acc).2 = acc.2 + 2 * xs.length := by
  induction xs generalizing acc with
  | nil => rfl
  | cons x xs ih => simp only [List.foldl_cons, ih, recordIngest, List.length_cons]; omega

/-- Each playback stream of an event takes one reading, each ingest stream two. -/
theorem recordStreamsAt_readings (e : NodeUpdateEvent) (i : Nat) :
    (recordStreamsAt clock e i).2 = i + e.getStreams.length + 2 * e.getIngestStreams.length := by
  rw [recordStreamsAt, foldl_recordIngest_readings, foldl_recordPlayback_readings]

/-- The maps the playback loop leaves, where the ingest loop starts. -/
private def played (clock : Clock) (e : NodeUpdateEvent) (i : Nat) : (Streams × Streams) × Nat :=
  (((e.getStreams.foldl (recordPlayback clock) (∅, i)).1, ∅),
    (e.getStreams.foldl (recordPlayback clock) (∅, i)).2)

theorem mem_recordStreamsAt (e : NodeUpdateEvent) (i : Nat) (k : String) :
    k ∈ (recordStreamsAt clock e i).1.1 ↔
      ∃ x ∈ e.getStreams ++ e.getIngestStreams, getPlaybackID x = k := by
  have playback := GoMap.mem_foldl_writes Prod.fst getPlaybackID (recordPlayback clock)
    (fun _ _ => ⟨_, rfl⟩) e.getStreams (∅, i) k
  have ingest := GoMap.mem_foldl_writes (fun acc : (Streams × Streams) × Nat => acc.1.1)
    getPlaybackID (recordIngest clock) (fun _ _ => ⟨_, rfl⟩) e.getIngestStreams
    (played clock e i) k
  simp only [played] at ingest
  simp only [recordStreamsAt, ingest, playback, AList.not_mem_empty, false_or, List.mem_append,
    or_and_right, exists_or]

theorem mem_recordIngestStreamsAt (e : NodeUpdateEvent) (i : Nat) (k : String) :
    k ∈ (recordStreamsAt clock e i).1.2 ↔ k ∈ e.getIngestStreams := by
  have ingest := GoMap.mem_foldl_writes (fun acc : (Streams × Streams) × Nat => acc.1.2)
    id (recordIngest clock) (fun _ _ => ⟨_, rfl⟩) e.getIngestStreams (played clock e i) k
  simp only [played] at ingest
  simp [recordStreamsAt, ingest]

theorem recordStreamsAt_stamped (e : NodeUpdateEvent) (i : Nat) :
    StampedBy clock (recordStreamsAt clock e i).1.1 ∧
      StampedBy clock (recordStreamsAt clock e i).1.2 := by
  let read : Stream → Prop := fun stream => ∃ q, stream.timestamp = clock.read q
  have playback := GoMap.lookup_foldl_inserts Prod.fst read (recordPlayback clock)
    (fun acc _ => .inr ⟨_, _, rfl, acc.2, rfl⟩) e.getStreams (∅, i) (fun _ _ absent => by
      simp at absent)
  exact ⟨GoMap.lookup_foldl_inserts (fun acc : (Streams × Streams) × Nat => acc.1.1) read (recordIngest clock)
      (fun acc _ => .inr ⟨_, _, rfl, acc.2, rfl⟩) e.getIngestStreams (played clock e i) playback,
    GoMap.lookup_foldl_inserts (fun acc : (Streams × Streams) × Nat => acc.1.2) read (recordIngest clock)
      (fun acc _ => .inr ⟨_, _, rfl, acc.2 + 1, rfl⟩) e.getIngestStreams (played clock e i)
      (fun _ _ absent => by simp [played] at absent)⟩

variable (metricTimeout : Duration)

/-- What the stats hold for one node. -/
def Stats.view (s : Stats) (n : String) : Option NodeMetrics × Option Streams × Option Streams :=
  (s.nodeMetrics.lookup n, s.streams.lookup n, s.ingestStreams.lookup n)

theorem refreshEventAt_readings (acc : Stats × Nat) (e : NodeUpdateEvent) :
    acc.2 < (refreshEventAt metricTimeout clock acc e).2 := by
  unfold refreshEventAt
  split
  · exact Nat.lt_succ_self _
  · simp only [recordStreamsAt_readings]
    omega

theorem foldl_refreshEventAt_readings (rows : List NodeUpdateEvent) (acc : Stats × Nat) :
    acc.2 ≤ (rows.foldl (refreshEventAt metricTimeout clock) acc).2 :=
  List.foldlRecOn (motive := fun b => acc.2 ≤ b.2) rows _ acc le_rfl
    fun _ held e _ => held.trans (refreshEventAt_readings clock metricTimeout _ e).le

/-- A row of another node leaves a node's stats as they were. -/
theorem foldl_refreshEventAt_view {rows : List NodeUpdateEvent} {n : String}
    (others : ∀ r ∈ rows, r.nodeID ≠ n) (acc : Stats × Nat) :
    (rows.foldl (refreshEventAt metricTimeout clock) acc).1.view n = acc.1.view n :=
  List.foldlRecOn (motive := fun b => b.1.view n = acc.1.view n) rows _ acc rfl
    fun b held e mem => by
      unfold refreshEventAt
      split
      · exact held
      · simp only [Stats.view, AList.lookup_insert_ne (Ne.symm (others e mem))]
        exact held

/-- The stats a refresh leaves for a node whose only row is `e`, when that row is fresh at the
refresh's last reading: what `e` writes from some reading on. -/
theorem refreshed_view_of_only {rows : List NodeUpdateEvent} {n : String} {e : NodeUpdateEvent}
    (only : rows.filter (fun r => r.nodeID = n) = [e]) (i : Nat)
    (fresh : isStale (clock.read (rows.foldl (refreshEventAt metricTimeout clock) (∅, i)).2)
      e.nodeMetrics.timestamp metricTimeout = false) :
    ∃ p, (rows.foldl (refreshEventAt metricTimeout clock) (∅, i)).1.view n =
      (some e.nodeMetrics, some (recordStreamsAt clock e (p + 1)).1.1,
        some (recordStreamsAt clock e (p + 1)).1.2) := by
  obtain ⟨pre, post, rfl, -, same, rest⟩ := List.filter_eq_cons_iff.mp only
  have others : ∀ r ∈ post, r.nodeID ≠ n := fun r mem named =>
    List.filter_eq_nil_iff.mp rest r mem (decide_eq_true named)
  obtain rfl : e.nodeID = n := of_decide_eq_true same
  rw [List.foldl_append, List.foldl_cons] at fresh ⊢
  set before := pre.foldl (refreshEventAt metricTimeout clock) (∅, i)
  have later := (refreshEventAt_readings clock metricTimeout before e).le.trans
    (foldl_refreshEventAt_readings clock metricTimeout post _)
  have freshThen := isStale_anti (clock.read_mono later) fresh
  refine ⟨before.2, (foldl_refreshEventAt_view clock metricTimeout others _).trans ?_⟩
  simp [refreshEventAt, freshThen, Stats.view, AList.lookup_insert]

/-- Every ingest entry a refresh leaves was stamped at one of the call's readings. -/
theorem refreshed_ingest_stamped (rows : List NodeUpdateEvent) (i : Nat) (n : String) :
    StampedBy clock ((rows.foldl (refreshEventAt metricTimeout clock) (∅, i)).1.ingestStreams.index n) := by
  have stamped := GoMap.lookup_foldl_inserts (fun acc : Stats × Nat => acc.1.ingestStreams)
    (StampedBy clock) (refreshEventAt metricTimeout clock)
    (fun acc e => by
      unfold refreshEventAt
      split
      · exact .inl rfl
      · exact .inr ⟨_, _, rfl, (recordStreamsAt_stamped clock e _).2⟩)
    rows (∅, i) (fun _ _ absent => nomatch absent)
  unfold GoMap.index
  cases found : (rows.foldl (refreshEventAt metricTimeout clock) (∅, i)).1.ingestStreams.lookup n with
  | none => exact fun _ _ absent => nomatch absent
  | some m => exact stamped n m found

end Readings

/-! ## Serving what a node publishes -/

section Scoring

variable (c : CataBalancer) (rt : CallRuntime) (s : Stats)

theorem scoreNodeAt_readings (nodeName : String) (node : Node) (i : Nat) :
    i ≤ (c.scoreNodeAt rt s nodeName node i).2 := by
  unfold CataBalancer.scoreNodeAt
  split
  · exact le_rfl
  · split
    · exact Nat.le_succ i
    · dsimp only
      omega

/-- The loop over the registry only appends candidates and takes readings. -/
theorem foldl_scoreEntryAt_grows (entries : List (Σ _ : String, Node))
    (acc : List ScoredNode × Nat) :
    acc.1 <+: (entries.foldl (c.scoreEntryAt rt s) acc).1 ∧
      acc.2 ≤ (entries.foldl (c.scoreEntryAt rt s) acc).2 :=
  List.foldlRecOn (motive := fun b => acc.1 <+: b.1 ∧ acc.2 ≤ b.2) entries _ acc
    ⟨List.prefix_refl _, le_rfl⟩ fun _ held _ _ =>
      ⟨held.1.trans (List.prefix_append _ _), held.2.trans (scoreNodeAt_readings c rt s _ _ _)⟩

/-- Each registry entry is scored at some reading, and its candidate and readings are among
those of the whole loop. -/
theorem scored_of_mem {entries : List (Σ _ : String, Node)} {entry : Σ _ : String, Node}
    (mem : entry ∈ entries) (acc : List ScoredNode × Nat) :
    ∃ j, (∀ sn, (c.scoreNodeAt rt s entry.1 entry.2 j).1 = some sn →
        sn ∈ (entries.foldl (c.scoreEntryAt rt s) acc).1) ∧
      (c.scoreNodeAt rt s entry.1 entry.2 j).2 ≤ (entries.foldl (c.scoreEntryAt rt s) acc).2 := by
  induction entries generalizing acc with
  | nil => cases mem
  | cons x entries ih =>
    rw [List.foldl_cons]
    rcases List.mem_cons.mp mem with rfl | later
    · have grown := foldl_scoreEntryAt_grows c rt s entries (c.scoreEntryAt rt s acc entry)
      refine ⟨acc.2, fun sn scored => grown.1.subset ?_, grown.2⟩
      simp [CataBalancer.scoreEntryAt, scored]
    · exact ih later _

/-- While the call's readings span less than `metricTimeout`, a candidate copies every stream
stamped at one of them. -/
theorem mem_keptStreams {m : Streams} {i : Nat} (stamped : StampedBy rt.clock m)
    (brief : rt.clock.read (i + m.entries.length) < rt.clock.read 0 + c.metricTimeout)
    (id : String) : id ∈ c.keptStreams rt m i ↔ id ∈ m := by
  rw [CataBalancer.keptStreams, GoMap.mem_filter]
  constructor
  · rintro ⟨stream, found, -⟩
    exact AList.lookup_isSome.mp (by simp [found])
  · intro mem
    obtain ⟨stream, found⟩ := Option.isSome_iff_exists.mp (AList.lookup_isSome.mpr mem)
    obtain ⟨q, stampedAt⟩ := stamped id stream found
    have keys : id ∈ (rt.rangeStreams m.entries).map (·.1) :=
      ((rt.rangeStreams_perm _).map _).mem_iff.mpr (AList.mem_keys.mp mem)
    have turn := List.indexOf_lt_length.mpr keys
    rw [List.length_map, (rt.rangeStreams_perm _).length_eq] at turn
    have tested := rt.clock.read_mono
      (show i + ((rt.rangeStreams m.entries).map (·.1)).indexOf id ≤ i + m.entries.length by omega)
    have first := rt.clock.read_mono (Nat.zero_le q)
    have started := rt.clock.read_mono (Nat.zero_le
      (i + ((rt.rangeStreams m.entries).map (·.1)).indexOf id))
    exact ⟨stream, found, by rw [isStale_of_within (stampedAt ▸ first) started tested brief]; rfl⟩

end Scoring

namespace CataBalancer

/-- For a node whose only row carries `SetStreams(a, b)` the refresh succeeds; a call spanning
less than `metricTimeout`, with the row fresh at its end, scores the node serving exactly the
playback IDs of `a ++ b` and ingesting exactly `b`. -/
theorem createScoredNodesAt_serves_published (c : CataBalancer) (ch : Choices) (rt : CallRuntime)
    {db : NodeStatsDB} {rows : List NodeUpdateEvent}
    (handle : c.nodeStatsDB = some db) (decoded : db.query = .rows (rows.map .event) none)
    {n : String} {v : Node} (registered : c.nodes.lookup n = some v)
    {e : NodeUpdateEvent} {a b : List String}
    (only : rows.filter (fun r => r.nodeID = n) = [e.setStreams a b])
    (named : ∀ x ∈ a ++ b, x ≠ "" ∧ ReservedFree x) :
    ∃ s candidates j, c.candidatesAt ch rt = .ok (s, candidates, j) ∧
      (rt.clock.read j < rt.clock.read 0 + c.metricTimeout →
        isStale (rt.clock.read j) e.nodeMetrics.timestamp c.metricTimeout = false →
        ∃ k sn, (c.scoreNodeAt rt s n v k).1 = some sn ∧ sn ∈ candidates ∧
          (∀ id, sn.hasStream id ↔ ∃ x ∈ a ++ b, getPlaybackID x = id) ∧
          (∀ p id, '+' ∉ p.toList → '+' ∉ id.toList → p ++ "+" ++ id ∈ a ++ b ∨ id ∈ a ++ b →
            sn.hasStream id) ∧
          ∀ id, id ∈ s.ingestStreams.index n ↔ id ∈ b) := by
  set refreshed := rows.foldl (refreshEventAt c.metricTimeout rt.clock) (∅, 0)
  set scored := c.createScoredNodesAt ch rt refreshed.1 refreshed.2
  have called : c.candidatesAt ch rt = .ok (refreshed.1, scored.1, scored.2) := by
    rw [candidatesAt, refreshNodesAt_of_decoded handle decoded]
    rfl
  refine ⟨_, _, _, called, fun brief fresh => ?_⟩
  have free : ∀ x ∈ a ++ b, ReservedFree x := fun x mem => (named x mem).2
  have playback : (e.setStreams a b).getStreams = a := by
    rw [getStreams_of_setStreams e free, if_neg fun blank => (named "" (by simp [blank])).1 rfl]
  have ingest : (e.setStreams a b).getIngestStreams = b := by
    rw [getIngestStreams_of_setStreams e free,
      if_neg fun blank => (named "" (by simp [blank])).1 rfl]
  -- the refresh writes the row of `n` from some reading `p` on
  have refreshedLe := (foldl_scoreEntryAt_grows c rt refreshed.1 (ch.rangeNodes c.nodes.entries)
    ([], refreshed.2)).2
  obtain ⟨p, view⟩ := refreshed_view_of_only rt.clock c.metricTimeout only 0
    (isStale_anti (rt.clock.read_mono refreshedLe) fresh)
  simp only [Stats.view, Prod.mk.injEq, NodeUpdateEvent.setStreams_nodeMetrics] at view
  obtain ⟨metrics, streams, ingestStreams⟩ := view
  set written := recordStreamsAt rt.clock (e.setStreams a b) (p + 1)
  -- and the loop over the registry scores `n` at some reading `k`
  obtain ⟨k, included, kLe⟩ := scored_of_mem c rt refreshed.1
    ((ch.rangeNodes_perm _).mem_iff.mpr (AList.mem_lookup_iff.mp registered)) ([], refreshed.2)
  have scoredFresh := isStale_anti
    (rt.clock.read_mono ((scoreNodeAt_readings c rt refreshed.1 n v k).trans kLe)) fresh
  have scoredAt : c.scoreNodeAt rt refreshed.1 n v k =
      (some ⟨0, 0, 0, v, c.keptStreams rt written.1.1 (k + 1), e.nodeMetrics⟩,
        k + 1 + written.1.1.entries.length) := by
    simp [scoreNodeAt, metrics, scoredFresh, GoMap.index, streams]
  rw [scoredAt] at kLe included
  have serves : ∀ id, (⟨0, 0, 0, v, c.keptStreams rt written.1.1 (k + 1), e.nodeMetrics⟩ :
      ScoredNode).hasStream id ↔ ∃ x ∈ a ++ b, getPlaybackID x = id := fun id => by
    rw [ScoredNode.hasStream_iff, mem_keptStreams c rt (recordStreamsAt_stamped ..).1
      (lt_of_le_of_lt (rt.clock.read_mono kLe) brief), mem_recordStreamsAt, playback, ingest]
  refine ⟨k, _, by rw [scoredAt], included _ rfl, serves, ?_, fun id => ?_⟩
  · rintro p id bareFirst bare (prefixed | plain)
    · exact (serves id).mpr ⟨_, prefixed, getPlaybackID_append bareFirst bare⟩
    · exact (serves id).mpr ⟨_, plain, getPlaybackID_of_not_mem bare⟩
  · rw [GoMap.index, ingestStreams, Option.getD_some, mem_recordIngestStreamsAt, ingest]

/-- A node publishing one prefixed playback stream and one ingest stream, its row five seconds
old, under a clock that moves a millisecond at each of the call's seven readings. -/
theorem createScoredNodesAt_serves_published_ticking :
    let e : NodeUpdateEvent := ⟨"a", ⟨0, 0, 0, 0, 0, 0⟩, ""⟩
    let rows := [e.setStreams ["video+abc"] ["def"]]
    let db : NodeStatsDB := ⟨.rows (rows.map .event) none⟩
    let c : CataBalancer :=
      ⟨"self", (∅ : GoMap Node).insert "a" ⟨"a", ""⟩, 10 * second, 10 * second, some db⟩
    let rt := CallRuntime.inOrder (.ticking (5 * second) 1000000)
    c.nodeStatsDB = some db ∧ db.query = .rows (rows.map .event) none ∧
    c.nodes.lookup "a" = some ⟨"a", ""⟩ ∧
    rows.filter (fun r => r.nodeID = "a") = [e.setStreams ["video+abc"] ["def"]] ∧
    (∀ x ∈ ["video+abc"] ++ ["def"], x ≠ "" ∧ ReservedFree x) ∧
    (c.candidatesAt Choices.inOrder rt).map (·.2.2) = .ok 7 ∧
    rt.clock.read 7 < rt.clock.read 0 + c.metricTimeout ∧
    isStale (rt.clock.read 7) e.nodeMetrics.timestamp c.metricTimeout = false ∧
    ∃ s candidates j, c.candidatesAt Choices.inOrder rt = .ok (s, candidates, j) ∧
      (rt.clock.read j < rt.clock.read 0 + c.metricTimeout →
        isStale (rt.clock.read j) e.nodeMetrics.timestamp c.metricTimeout = false →
        ∃ k sn, (c.scoreNodeAt rt s "a" ⟨"a", ""⟩ k).1 = some sn ∧ sn ∈ candidates ∧
          (∀ id, sn.hasStream id ↔ ∃ x ∈ ["video+abc"] ++ ["def"], getPlaybackID x = id) ∧
          (∀ p id, '+' ∉ p.toList → '+' ∉ id.toList →
            p ++ "+" ++ id ∈ ["video+abc"] ++ ["def"] ∨ id ∈ ["video+abc"] ++ ["def"] →
            sn.hasStream id) ∧
          ∀ id, id ∈ s.ingestStreams.index "a" ↔ id ∈ ["def"]) := by
  intro e rows db c rt
  have named : ∀ x ∈ ["video+abc"] ++ ["def"], x ≠ "" ∧ ReservedFree x := by decide
  have readings : (c.candidatesAt Choices.inOrder rt).map (·.2.2) = .ok 7 := by
    simp only [e, rows, db, c, rt]
    exact rfl
  exact ⟨rfl, rfl, rfl, rfl, named, readings, by decide, by decide,
    @createScoredNodesAt_serves_published c Choices.inOrder rt db rows rfl rfl "a" ⟨"a", ""⟩ rfl e
      ["video+abc"] ["def"] rfl named⟩

/-- Under a moving clock the two sides part: a row fresh at the refresh is stale at scoring,
and under a microsecond timeout a candidate stamped a second ahead serves none of its streams. -/
theorem createScoredNodesAt_drops_published :
    ((⟨"self", (∅ : GoMap Node).insert "a" ⟨"a", ""⟩, 10 * second, 10 * second,
        some ⟨.rows [.event ((⟨"a", ⟨0, 0, 0, 0, 0, 0⟩, ""⟩ : NodeUpdateEvent).setStreams ["abc"]
          [])] none⟩⟩ : CataBalancer).candidatesAt Choices.inOrder
        (.inOrder (.ticking (10 * second - 1000) 1000))).map (·.2.1) = .ok [] ∧
    ((⟨"self", (∅ : GoMap Node).insert "a" ⟨"a", ""⟩, 1000, 1000,
        some ⟨.rows [.event ((⟨"a", ⟨0, 0, 0, 0, 0, second⟩, ""⟩ : NodeUpdateEvent).setStreams
          ["abc"] [])] none⟩⟩ : CataBalancer).candidatesAt Choices.inOrder
        (.inOrder (.ticking 0 1000))).map (fun r => r.2.1.map fun sn => (sn.node, sn.hasStream "abc")) =
      .ok [(⟨"a", ""⟩, false)] :=
  ⟨rfl, rfl⟩

/-! ## Finding an ingest node -/

/-- `MistUtilLoadSource` tests the ingest entry's stamp, not its row's age: while the call spans
less than `ingestStreamTimeout`, it serves every stream a registry node lists. -/
theorem mistUtilLoadSourceAt_serves_listed (c : CataBalancer) (ch : Choices) (clock : Clock)
    (streamID : String) {db : NodeStatsDB} {rows : List NodeUpdateEvent}
    (handle : c.nodeStatsDB = some db) (decoded : db.query = .rows (rows.map .event) none) :
    ∃ s i, c.refreshNodesAt clock 0 = .ok (s, i) ∧
      ((∀ n, (c.nodes.lookup n).isSome → streamID ∉ s.ingestStreams.index n) →
        c.mistUtilLoadSourceAt ch clock streamID =
          .error ("catabalancer no node found for ingest stream: " ++ streamID ++ " stale: false")) ∧
      (clock.read i < clock.read 0 + c.ingestStreamTimeout →
        (∃ n, (c.nodes.lookup n).isSome ∧ streamID ∈ s.ingestStreams.index n) →
        ∃ n, (c.nodes.lookup n).isSome ∧ streamID ∈ s.ingestStreams.index n ∧
          c.mistUtilLoadSourceAt ch clock streamID = .ok ("dtsc://" ++ n)) := by
  set refreshed := rows.foldl (refreshEventAt c.metricTimeout clock) (∅, 0)
  refine ⟨refreshed.1, refreshed.2, refreshNodesAt_of_decoded handle decoded clock 0, ?_⟩
  simp only [mistUtilLoadSourceAt, refreshNodesAt_of_decoded handle decoded clock 0,
    Except.mapError, bind, Except.bind]
  rcases found : c.findIngest ch refreshed.1 streamID with _ | ⟨n, stream⟩ <;> dsimp only
  · -- no registry node's refreshed ingest map holds the stream
    exact ⟨fun _ => rfl, fun _ ⟨k, registered, listed⟩ =>
      absurd listed (findIngest_eq_none_iff.mp found k registered)⟩
  · -- the first registry node in range order that holds it, stamped at a reading of the call
    obtain ⟨registered, hit⟩ := findIngest_eq_some found
    have listed : streamID ∈ refreshed.1.ingestStreams.index n :=
      AList.lookup_isSome.mp (by simp [hit])
    obtain ⟨q, stamped⟩ := refreshed_ingest_stamped clock c.metricTimeout rows 0 n streamID stream hit
    refine ⟨fun nobody => absurd listed (nobody n registered), fun brief _ =>
      ⟨n, registered, listed, ?_⟩⟩
    rw [isStale_of_within (stamped ▸ clock.read_mono (Nat.zero_le q))
      (clock.read_mono (Nat.zero_le _)) le_rfl brief]
    rfl

/-- The refresh-time stamp defeats the ingest check: a five-second-old row is served under a
one-second timeout, a fresh one is stale under a sub-microsecond timeout, and a later row hides it. -/
theorem mistUtilLoadSourceAt_ingest_check_defeated :
    ((⟨"self", (∅ : GoMap Node).insert "a" ⟨"a", ""⟩, 10 * second, second,
        some ⟨.rows [.event ⟨"a", ⟨0, 0, 0, 0, 0, 0⟩, "~s"⟩] none⟩⟩ : CataBalancer).mistUtilLoadSourceAt
          Choices.inOrder (.ticking (5 * second) 1000) "s" = .ok "dtsc://a" ∧
      isStale ((Clock.ticking (5 * second) 1000).read 0) 0 second = true) ∧
    ((⟨"self", (∅ : GoMap Node).insert "a" ⟨"a", ""⟩, 10 * second, 1,
        some ⟨.rows [.event ⟨"a", ⟨0, 0, 0, 0, 0, 5 * second⟩, "~s"⟩] none⟩⟩ :
          CataBalancer).mistUtilLoadSourceAt Choices.inOrder (.ticking (5 * second) 1000) "s" =
        .error "catabalancer no node found for ingest stream: s stale: true" ∧
      isStale ((Clock.ticking (5 * second) 1000).read 0) (5 * second) 1 = false) ∧
    (⟨"self", (∅ : GoMap Node).insert "a" ⟨"a", ""⟩, 10 * second, 10 * second,
        some ⟨.rows [.event ⟨"a", ⟨0, 0, 0, 0, 0, second⟩, "~s"⟩,
          .event ⟨"a", ⟨0, 0, 0, 0, 0, 2 * second⟩, "~"⟩] none⟩⟩ :
        CataBalancer).mistUtilLoadSourceAt Choices.inOrder (.ticking (3 * second) 1000) "s" =
      .error "catabalancer no node found for ingest stream: s stale: false" :=
  ⟨⟨rfl, rfl⟩, ⟨rfl, rfl⟩, rfl⟩

end CataBalancer

end DmsApi.Catabalancer
