import DmsApi.Catabalancer.Codec

/-! # The stats store adapter

`RefreshNodes` reads every row of `node_stats`, decodes it, skips it when its metrics are
stale, and otherwise writes the row's metrics and streams under its node, replacing whatever
an earlier row of that node wrote. So a node's stats are those of its last fresh row in the
order the store returns the rows, whatever their timestamps. Stream entries are stamped with
the refresh's clock, not with the row's; here one reading `now` serves the whole call, the
stopped clock of `Clocked`. A row that fails to scan or decode aborts the whole refresh.
-/

namespace DmsApi.Catabalancer

/-- `Node`: a registry entry. -/
structure Node where
  name : String
  dtsc : String
deriving DecidableEq, Repr

/-- `Stream`: one stream a node serves. -/
structure Stream where
  id : String
  playbackID : String
  timestamp : Time
deriving DecidableEq, Repr

/-- `Streams`: stream ID to stream. -/
abbrev Streams := GoMap Stream

/-- `stats`: the per-node views one refresh builds, keyed by node name. -/
structure Stats where
  streams : GoMap Streams
  ingestStreams : GoMap Streams
  nodeMetrics : GoMap NodeMetrics
deriving DecidableEq

instance : EmptyCollection Stats := ⟨⟨∅, ∅, ∅⟩⟩

/-- A row of `node_stats` as the refresh loop reads it: the event `rows.Scan` and
`json.Unmarshal` decode, or the error one of them returns. -/
inductive Row
  | event (e : NodeUpdateEvent)
  | scanError (err : String)
  | unmarshalError (err : String)

/-- What `Query("SELECT stats FROM node_stats")` answers: its own error, or the rows and the
error `rows.Err()` reports once they run out. -/
inductive QueryResult
  | failed (err : String)
  | rows (rows : List Row) (err : Option String)

/-- The stats database handle, by the answer its query gives at the time of the call. -/
structure NodeStatsDB where
  query : QueryResult

/-- `CataBalancer`, the balancer backed by the stats store. -/
structure CataBalancer where
  nodeName : String
  nodes : GoMap Node
  metricTimeout : Duration
  ingestStreamTimeout : Duration
  nodeStatsDB : Option NodeStatsDB

def newBalancer (nodeName : String) (metricTimeout ingestStreamTimeout : Duration)
    (nodeStatsDB : Option NodeStatsDB) : CataBalancer :=
  ⟨nodeName, ∅, metricTimeout, ingestStreamTimeout, nodeStatsDB⟩

/-- `isStale(timestamp, stale)`, with the clock read at `now`. -/
def isStale (now timestamp : Time) (stale : Duration) : Bool :=
  decide (stale ≤ since now timestamp)

/-- An entry stamped by this very call is stale only under a timeout of at most zero. -/
theorem isStale_now (now : Time) (stale : Duration) :
    isStale now now stale = decide (stale ≤ 0) := by
  simp [isStale]

/-- An entry younger than a positive timeout is not stale. -/
theorem isStale_of_lt {now t : Time} {stale : Duration} (positive : 0 < stale)
    (recent : now - t < stale) : isStale now t stale = false := by
  simp only [isStale, since, sub, minDuration, maxDuration, decide_eq_false_iff_not, not_le,
    max_lt_iff, min_lt_iff]
  exact ⟨lt_trans (by decide) positive, .inr recent⟩

/-- An entry stamped no earlier than `t` is not stale before `t + stale`. -/
theorem isStale_of_window {t stamp now stale : Int} (positive : 0 < stale) (since : t ≤ stamp)
    (before : now < t + stale) : isStale now stamp stale = false :=
  isStale_of_lt positive (show now - stamp < stale by omega)

/-- An entry stale at one clock reading is stale at every later one. -/
theorem isStale_mono {earlier later stamp stale : Int} (ordered : earlier ≤ later)
    (stale₁ : isStale earlier stamp stale = true) : isStale later stamp stale = true := by
  simp only [isStale, since, sub, decide_eq_true_eq] at stale₁ ⊢
  exact le_trans stale₁
    (max_le_max le_rfl (min_le_min le_rfl (Int.sub_le_sub_right ordered stamp)))

/-- The playback map one event writes: each playback, then each ingest stream under its
playback ID, stamped `now`. -/
def recordStreams (now : Time) (e : NodeUpdateEvent) : Streams :=
  (e.getStreams ++ e.getIngestStreams).foldl
    (fun m stream => m.insert (getPlaybackID stream) ⟨stream, getPlaybackID stream, now⟩) ∅

/-- The ingest map one event writes: each ingest stream under its own name, stamped `now`. -/
def recordIngestStreams (now : Time) (e : NodeUpdateEvent) : Streams :=
  e.getIngestStreams.foldl
    (fun m stream => m.insert stream ⟨stream, getPlaybackID stream, now⟩) ∅

/-- Every stream one event writes is stamped with the refresh's clock. -/
theorem recordStreams_stamped {now : Time} {e : NodeUpdateEvent} {k : String} {stream : Stream}
    (found : (recordStreams now e).lookup k = some stream) : stream.timestamp = now := by
  rcases GoMap.lookup_foldl_insert _ _ _ _ found with ⟨x, -, -, rfl⟩ | absent
  · rfl
  · cases absent

theorem recordIngestStreams_stamped {now : Time} {e : NodeUpdateEvent} {k : String}
    {stream : Stream} (found : (recordIngestStreams now e).lookup k = some stream) :
    stream.timestamp = now := by
  rcases GoMap.lookup_foldl_insert _ _ _ _ found with ⟨x, -, -, rfl⟩ | absent
  · rfl
  · cases absent

/-- The playback map holds the playback ID of each stream the event lists. -/
theorem mem_recordStreams {now : Time} {e : NodeUpdateEvent} {k : String} :
    k ∈ recordStreams now e ↔ ∃ x ∈ e.getStreams ++ e.getIngestStreams, getPlaybackID x = k := by
  simp only [recordStreams, GoMap.mem_foldl_insert, AList.not_mem_empty, false_or]

/-- The ingest map holds exactly the ingest streams the event lists. -/
theorem mem_recordIngestStreams {now : Time} {e : NodeUpdateEvent} {k : String} :
    k ∈ recordIngestStreams now e ↔ k ∈ e.getIngestStreams := by
  simp [recordIngestStreams, GoMap.mem_foldl_insert]

/-- The writes of one fresh event, each replacing the node's previous entry. -/
def Stats.record (s : Stats) (now : Time) (e : NodeUpdateEvent) : Stats where
  streams := s.streams.insert e.nodeID (recordStreams now e)
  ingestStreams := s.ingestStreams.insert e.nodeID (recordIngestStreams now e)
  nodeMetrics := s.nodeMetrics.insert e.nodeID e.nodeMetrics

/-- The loop body on a decoded event. -/
def refreshEvent (metricTimeout : Duration) (now : Time) (s : Stats) (e : NodeUpdateEvent) :
    Stats :=
  if isStale now e.nodeMetrics.timestamp metricTimeout then s else s.record now e

/-- The loop body on a row. -/
def refreshRow (metricTimeout : Duration) (now : Time) (s : Stats) : Row → Except String Stats
  | .event e => .ok (refreshEvent metricTimeout now s e)
  | .scanError err => .error ("failed to scan node stats row: " ++ err)
  | .unmarshalError err => .error ("failed to unmarshal node update event: " ++ err)

def CataBalancer.refreshNodes (c : CataBalancer) (now : Time) : Except String Stats :=
  match c.nodeStatsDB with
  | none => .error "node stats DB was nil"
  | some db =>
    match db.query with
    | .failed err => .error ("failed to query node stats: " ++ err)
    | .rows rows rowsErr => do
      let s ← rows.foldlM (refreshRow c.metricTimeout now) ∅
      match rowsErr with
      | some err => .error err
      | none => pure s

/-- The last row of `n`, in store order, that is fresh at `now`. -/
def lastFreshRow (metricTimeout : Duration) (now : Time) (rows : List NodeUpdateEvent)
    (n : String) : Option NodeUpdateEvent :=
  (rows.filter fun e => !isStale now e.nodeMetrics.timestamp metricTimeout && e.nodeID = n).getLast?

/-- A fresh row that is the only row of its node is its last fresh row. -/
theorem lastFreshRow_of_only {metricTimeout : Duration} {now : Time}
    {rows : List NodeUpdateEvent} {n : String} {e : NodeUpdateEvent}
    (only : rows.filter (fun r => r.nodeID = n) = [e])
    (fresh : isStale now e.nodeMetrics.timestamp metricTimeout = false) :
    lastFreshRow metricTimeout now rows n = some e := by
  rw [lastFreshRow, ← List.filter_filter, only]
  simp [fresh]

/-- A store whose rows all decode is read without error, event by event. -/
theorem refreshNodes_of_decoded {c : CataBalancer} {db : NodeStatsDB}
    {rows : List NodeUpdateEvent} (handle : c.nodeStatsDB = some db)
    (decoded : db.query = .rows (rows.map .event) none) (now : Time) :
    c.refreshNodes now = .ok (rows.foldl (refreshEvent c.metricTimeout now) ∅) := by
  have loop : ∀ (s : Stats) (rest : List NodeUpdateEvent),
      (rest.map Row.event).foldlM (refreshRow c.metricTimeout now) s =
        .ok (rest.foldl (refreshEvent c.metricTimeout now) s) := by
    intro s rest
    induction rest generalizing s with
    | nil => rfl
    | cons e rest ih => exact ih _
  simp only [CataBalancer.refreshNodes, handle, decoded, loop]
  rfl

section Lookup

variable (metricTimeout : Duration) (now : Time) (rows : List NodeUpdateEvent) (n : String)

/-- A projection of the stats that each fresh event overwrites under its node. -/
private theorem lookup_refreshed {V : Type} (project : Stats → GoMap V)
    (write : NodeUpdateEvent → V)
    (empty : project ∅ = ∅)
    (written : ∀ s e, project (s.record now e) = (project s).insert e.nodeID (write e)) :
    (project (rows.foldl (refreshEvent metricTimeout now) ∅)).lookup n =
      (lastFreshRow metricTimeout now rows n).map write := by
  have commute := List.foldl_hom project (refreshEvent metricTimeout now)
    (fun m e => if !isStale now e.nodeMetrics.timestamp metricTimeout then
      m.insert e.nodeID (write e) else m) rows ∅ (fun s e => by
        unfold refreshEvent
        split <;> simp_all)
  rw [← commute, GoMap.lookup_foldl_insert_last, empty, AList.lookup_empty, Option.or_none]
  rfl

theorem refreshed_nodeMetrics :
    (rows.foldl (refreshEvent metricTimeout now) ∅).nodeMetrics.lookup n =
      (lastFreshRow metricTimeout now rows n).map (·.nodeMetrics) :=
  lookup_refreshed metricTimeout now rows n Stats.nodeMetrics (·.nodeMetrics)
    rfl (fun _ _ => rfl)

theorem refreshed_streams :
    (rows.foldl (refreshEvent metricTimeout now) ∅).streams.lookup n =
      (lastFreshRow metricTimeout now rows n).map (recordStreams now) :=
  lookup_refreshed metricTimeout now rows n Stats.streams (recordStreams now)
    rfl (fun _ _ => rfl)

theorem refreshed_ingestStreams :
    (rows.foldl (refreshEvent metricTimeout now) ∅).ingestStreams.lookup n =
      (lastFreshRow metricTimeout now rows n).map (recordIngestStreams now) :=
  lookup_refreshed metricTimeout now rows n Stats.ingestStreams
    (recordIngestStreams now) rfl (fun _ _ => rfl)

end Lookup

/-- A node's stats are those its last fresh row in store order writes, whatever the timestamps
of its other fresh rows; so they do not depend on the order of the rows when the node has at
most one fresh row. -/
theorem refreshNodes_last_fresh_row {c : CataBalancer} {db : NodeStatsDB}
    {rows : List NodeUpdateEvent} (handle : c.nodeStatsDB = some db)
    (decoded : db.query = .rows (rows.map .event) none) (now : Time) (n : String) :
    ∃ s, c.refreshNodes now = .ok s ∧
      s.nodeMetrics.lookup n = (lastFreshRow c.metricTimeout now rows n).map (·.nodeMetrics) ∧
      s.streams.lookup n = (lastFreshRow c.metricTimeout now rows n).map (recordStreams now) ∧
      s.ingestStreams.lookup n =
        (lastFreshRow c.metricTimeout now rows n).map (recordIngestStreams now) ∧
      ∀ rows' : List NodeUpdateEvent, rows'.Perm rows →
        (rows.filter fun e => !isStale now e.nodeMetrics.timestamp c.metricTimeout &&
          e.nodeID = n).length ≤ 1 →
        lastFreshRow c.metricTimeout now rows' n = lastFreshRow c.metricTimeout now rows n := by
  refine ⟨_, refreshNodes_of_decoded handle decoded now, refreshed_nodeMetrics .., refreshed_streams ..,
    refreshed_ingestStreams .., fun rows' permuted single => ?_⟩
  have same := permuted.filter fun e => !isStale now e.nodeMetrics.timestamp c.metricTimeout &&
    e.nodeID = n
  unfold lastFreshRow
  rcases fresh : rows.filter (fun e => !isStale now e.nodeMetrics.timestamp c.metricTimeout &&
    e.nodeID = n) with _ | ⟨x, _ | ⟨y, rest⟩⟩
  · rw [fresh, List.perm_nil] at same; rw [same, fresh]
  · rw [fresh, List.perm_singleton] at same; rw [same, fresh]
  · rw [fresh] at single; simp at single

/-- One fresh row in the store is read back under its node. -/
theorem refreshNodes_last_fresh_row_single :
    let row : NodeUpdateEvent := ⟨"a", ⟨0, 0, 0, 0, 0, 1⟩, "x~"⟩
    let c := newBalancer "self" 10 10 (some ⟨.rows [.event row] none⟩)
    c.nodeStatsDB = some ⟨.rows [.event row] none⟩ ∧
    (⟨.rows [.event row] none⟩ : NodeStatsDB).query = .rows ([row].map .event) none ∧
    ∃ s, c.refreshNodes 3 = .ok s ∧
      s.nodeMetrics.lookup "a" = (lastFreshRow c.metricTimeout 3 [row] "a").map (·.nodeMetrics) ∧
      s.streams.lookup "a" = (lastFreshRow c.metricTimeout 3 [row] "a").map (recordStreams 3) ∧
      s.ingestStreams.lookup "a" =
        (lastFreshRow c.metricTimeout 3 [row] "a").map (recordIngestStreams 3) ∧
      ∀ rows' : List NodeUpdateEvent, rows'.Perm [row] →
        ([row].filter fun e => !isStale 3 e.nodeMetrics.timestamp c.metricTimeout &&
          e.nodeID = "a").length ≤ 1 →
        lastFreshRow c.metricTimeout 3 rows' "a" = lastFreshRow c.metricTimeout 3 [row] "a" :=
  ⟨rfl, rfl, refreshNodes_last_fresh_row rfl rfl 3 "a"⟩

/-- Of two fresh rows of one node, the later in store order wins, here the one stamped a
second earlier. -/
theorem refreshNodes_later_row_wins :
    ((newBalancer "self" (10 * second) (10 * second)
      (some ⟨.rows [.event ⟨"a", ⟨0, 0, 0, 0, 0, 2 * second⟩, ""⟩,
        .event ⟨"a", ⟨0, 0, 0, 0, 0, second⟩, ""⟩] none⟩)).refreshNodes (3 * second)).map
        (·.nodeMetrics.lookup "a") = .ok (some ⟨0, 0, 0, 0, 0, second⟩) := by
  rfl

end DmsApi.Catabalancer
