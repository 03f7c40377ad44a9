import DmsApi.Catabalancer.Select

/-! # Requests to the balancer

`UpdateMembers` replaces the registry by the members tagged as media nodes. `GetBestNode`
refreshes the stats, scores the registry nodes whose metrics are fresh and picks one of them,
falling back to the balancer's own name when there is none; `MistUtilLoadSource` answers with
the first registry node whose refreshed ingest streams hold the stream. Both look the stats
up under registry names only, so rows that are stale or belong to other nodes never change
their answer.
-/

namespace DmsApi.Catabalancer

/-- A `cluster.Member`: its name and its tags. -/
structure Member where
  name : String
  tags : GoMap String

namespace CataBalancer

def updateMembers (c : CataBalancer) (members : List Member) : CataBalancer :=
  { c with
    nodes := members.foldl (fun latestNodes member =>
      if member.tags.index "node" ≠ "media" then latestNodes
      else latestNodes.insert member.name ⟨member.name, member.tags.index "dtsc"⟩) ∅ }

/-- The loop body of `createScoredNodes` on one registry entry. -/
def scoreNode (c : CataBalancer) (now : Time) (s : Stats) (nodeName : String) (node : Node) :
    Option ScoredNode :=
  match s.nodeMetrics.lookup nodeName with
  | none => none
  | some metrics =>
    if isStale now metrics.timestamp c.metricTimeout then none
    else some ⟨0, 0, 0, node,
      GoMap.filter (fun _ stream => !isStale now stream.timestamp c.metricTimeout)
        (s.streams.index nodeName), metrics⟩

def createScoredNodes (c : CataBalancer) (ch : Choices) (now : Time) (s : Stats) :
    List ScoredNode :=
  (ch.rangeNodes c.nodes.entries).filterMap fun entry => c.scoreNode now s entry.1 entry.2

/-- A request coordinate: zero when empty, else what `strconv.ParseFloat(_, 64)`, given as
`parseFloat`, makes of it. -/
def parseCoordinate (parseFloat : String → Except String ℚ) (coordinate : String) :
    Except String ℚ :=
  if coordinate ≠ "" then parseFloat coordinate else pure 0

/-- `GetBestNode`, with `strconv.ParseFloat(_, 64)` given as `parseFloat`. -/
def getBestNode (c : CataBalancer) (ch : Choices) (g : GeoScorer)
    (parseFloat : String → Except String ℚ) (now : Time) (redirectPrefixes : List String)
    (playbackID lat lon : String) : Except String (String × String) := do
  let s ← (c.refreshNodes now).mapError ("error refreshing nodes: " ++ ·)
  let latf ← parseCoordinate parseFloat lat
  let lonf ← parseCoordinate parseFloat lon
  let scoredNodes := c.createScoredNodes ch now s
  let nodeName ← (if 0 < scoredNodes.length then
      (·.name) <$> selectNode ch g scoredNodes playbackID latf lonf
    else pure c.nodeName)
  pure (nodeName, redirectPrefixes.headD "video" ++ "+" ++ playbackID)

/-- The first registry entry, in range order, whose ingest streams hold `streamID`. -/
def findIngest (c : CataBalancer) (ch : Choices) (s : Stats) (streamID : String) :
    Option (String × Stream) :=
  (ch.rangeNodes c.nodes.entries).findSome? fun entry =>
    ((s.ingestStreams.index entry.1).lookup streamID).map (entry.1, ·)

def mistUtilLoadSource (c : CataBalancer) (ch : Choices) (now : Time) (streamID : String) :
    Except String String := do
  let s ← (c.refreshNodes now).mapError ("error refreshing nodes: " ++ ·)
  match c.findIngest ch s streamID with
  | none => .error ("catabalancer no node found for ingest stream: " ++ streamID ++ " stale: false")
  | some (nodeName, stream) =>
    if isStale now stream.timestamp c.ingestStreamTimeout then
      .error ("catabalancer no node found for ingest stream: " ++ streamID ++ " stale: true")
    else pure ("dtsc://" ++ nodeName)

/-! ## The registry -/

/-- The registry entry under `k` is built from the last media member named `k`. -/
theorem lookup_updateMembers (c : CataBalancer) (members : List Member) (k : String) :
    (c.updateMembers members).nodes.lookup k =
      (members.filter fun m => m.tags.index "node" = "media" && m.name = k).getLast?.map
        fun m => ⟨m.name, m.tags.index "dtsc"⟩ := by
  have written := GoMap.lookup_foldl_insert_last (fun m : Member => m.tags.index "node" = "media")
    Member.name (fun m => (⟨m.name, m.tags.index "dtsc"⟩ : Node)) members ∅ k
  simpa only [updateMembers, ne_eq, ite_not, decide_eq_true_eq, AList.lookup_empty,
    Option.or_none] using written

/-- The registry holds exactly the media members' names. -/
theorem mem_updateMembers (c : CataBalancer) (members : List Member) (k : String) :
    ((c.updateMembers members).nodes.lookup k).isSome ↔
      ∃ m ∈ members, m.tags.index "node" = "media" ∧ m.name = k := by
  simp [lookup_updateMembers, List.filter_eq_nil_iff]

theorem scoreNode_eq_some_iff {c : CataBalancer} {now : Time} {s : Stats} {k : String} {v : Node}
    {sn : ScoredNode} : c.scoreNode now s k v = some sn ↔
      ∃ metrics, s.nodeMetrics.lookup k = some metrics ∧
        isStale now metrics.timestamp c.metricTimeout = false ∧
        sn = ⟨0, 0, 0, v, GoMap.filter (fun _ stream => !isStale now stream.timestamp c.metricTimeout)
          (s.streams.index k), metrics⟩ := by
  unfold scoreNode
  split
  · next absent => simp [absent]
  · next metrics found =>
    constructor
    · intro scored
      cases fresh : isStale now metrics.timestamp c.metricTimeout
      · rw [fresh, if_neg Bool.false_ne_true] at scored
        exact ⟨metrics, found, fresh, (Option.some.inj scored).symm⟩
      · rw [fresh, if_pos rfl] at scored
        cases scored
    · rintro ⟨metrics', found', fresh, rfl⟩
      obtain rfl := Option.some.inj (found.symm.trans found')
      rw [fresh, if_neg Bool.false_ne_true]

/-- A `range` over the registry visits registry entries only. -/
theorem registered_of_mem_rangeNodes {c : CataBalancer} {ch : Choices}
    {entry : (_ : String) × Node} (mem : entry ∈ ch.rangeNodes c.nodes.entries) :
    (c.nodes.lookup entry.1).isSome := by
  rw [AList.mem_lookup_iff.mpr ((ch.rangeNodes_perm _).mem_iff.mp mem)]
  rfl

theorem mem_createScoredNodes {c : CataBalancer} {ch : Choices} {now : Time} {s : Stats}
    {sn : ScoredNode} : sn ∈ c.createScoredNodes ch now s ↔
      ∃ k v, c.nodes.lookup k = some v ∧ c.scoreNode now s k v = some sn := by
  simp only [createScoredNodes, List.mem_filterMap, (ch.rangeNodes_perm _).mem_iff]
  constructor
  · rintro ⟨⟨k, v⟩, mem, scored⟩
    exact ⟨k, v, AList.mem_lookup_iff.mpr mem, scored⟩
  · rintro ⟨k, v, found, scored⟩
    exact ⟨⟨k, v⟩, AList.mem_lookup_iff.mp found, scored⟩

theorem createScoredNodes_zero (c : CataBalancer) (ch : Choices) (now : Time) (s : Stats) :
    ∀ sn ∈ c.createScoredNodes ch now s, sn.score = 0 ∧ sn.streamScore = 0 := by
  intro sn mem
  obtain ⟨k, v, -, scored⟩ := mem_createScoredNodes.mp mem
  obtain ⟨metrics, -, -, rfl⟩ := scoreNode_eq_some_iff.mp scored
  exact ⟨rfl, rfl⟩

theorem parseCoordinate_ok {parseFloat : String → Except String ℚ} {coordinate : String}
    (parses : coordinate = "" ∨ ∃ x, parseFloat coordinate = .ok x) :
    ∃ x, parseCoordinate parseFloat coordinate = .ok x := by
  unfold parseCoordinate
  rcases parses with rfl | ⟨x, parsed⟩
  · exact ⟨0, rfl⟩
  · split
    · exact ⟨x, parsed⟩
    · exact ⟨0, rfl⟩

theorem getBestNode_of_refreshed {c : CataBalancer} {ch : Choices} {g : GeoScorer}
    {parseFloat : String → Except String ℚ} {now : Time} {redirectPrefixes : List String}
    {playbackID lat lon : String} {s : Stats} {latf lonf : ℚ}
    (refreshed : c.refreshNodes now = .ok s)
    (latParsed : parseCoordinate parseFloat lat = .ok latf)
    (lonParsed : parseCoordinate parseFloat lon = .ok lonf) :
    c.getBestNode ch g parseFloat now redirectPrefixes playbackID lat lon =
      (if 0 < (c.createScoredNodes ch now s).length then
          (·.name) <$> selectNode ch g (c.createScoredNodes ch now s) playbackID latf lonf
        else pure c.nodeName) >>= fun nodeName =>
        pure (nodeName, redirectPrefixes.headD "video" ++ "+" ++ playbackID) := by
  simp only [getBestNode, refreshed, Except.mapError, latParsed, lonParsed]
  rfl

theorem parseCoordinate_eq_error_iff {parseFloat : String → Except String ℚ}
    {coordinate err : String} :
    parseCoordinate parseFloat coordinate = .error err ↔
      coordinate ≠ "" ∧ parseFloat coordinate = .error err := by
  unfold parseCoordinate
  split
  · next given => simp only [given, ne_eq, not_false_eq_true, true_and]
  · next empty => exact ⟨fun failed => (nomatch failed), fun given => absurd given.1 empty⟩

/-- Choosing among the candidates never fails: `SelectNode` returns one of them, and with none
the balancer names itself. -/
theorem chooseNode_ok (c : CataBalancer) (ch : Choices) (g : GeoScorer) (now : Time) (s : Stats)
    (playbackID : String) (latf lonf : ℚ) :
    ∃ name, (if 0 < (c.createScoredNodes ch now s).length then
        (·.name) <$> selectNode ch g (c.createScoredNodes ch now s) playbackID latf lonf
      else pure c.nodeName) = .ok name := by
  split
  · next found =>
    obtain ⟨x, _, selected⟩ := selectNode_mem ch g playbackID latf lonf
      (List.ne_nil_of_length_pos found) (createScoredNodes_zero _ _ _ _)
    exact ⟨x.node.name, by rw [selected]; rfl⟩
  · exact ⟨c.nodeName, rfl⟩

/-- The errors of `GetBestNode`: a failed refresh, reported whatever the coordinates are, or,
after a successful one, the parser's error on the latitude, else on the longitude. -/
theorem getBestNode_eq_error_iff (c : CataBalancer) (ch : Choices) (g : GeoScorer)
    (parseFloat : String → Except String ℚ) (now : Time) (redirectPrefixes : List String)
    (playbackID lat lon err : String) :
    c.getBestNode ch g parseFloat now redirectPrefixes playbackID lat lon = .error err ↔
      (∃ e, c.refreshNodes now = .error e ∧ err = "error refreshing nodes: " ++ e) ∨
      (∃ s, c.refreshNodes now = .ok s) ∧
        (parseCoordinate parseFloat lat = .error err ∨
          (∃ latf, parseCoordinate parseFloat lat = .ok latf) ∧
            parseCoordinate parseFloat lon = .error err) := by
  rcases refreshed : c.refreshNodes now with e | s
  · simp only [getBestNode, refreshed, Except.mapError, bind, Except.bind, Except.error.injEq,
      exists_eq_left', eq_comm, reduceCtorEq, exists_false, false_and, or_false]
  rcases latParsed : parseCoordinate parseFloat lat with el | latf
  · simp only [getBestNode, refreshed, latParsed, Except.mapError, bind, Except.bind,
      Except.error.injEq, Except.ok.injEq, reduceCtorEq, exists_false, false_and, false_or,
      exists_eq', true_and, or_false]
  rcases lonParsed : parseCoordinate parseFloat lon with eo | lonf
  · simp only [getBestNode, refreshed, latParsed, lonParsed, Except.mapError, bind, Except.bind,
      Except.error.injEq, Except.ok.injEq, reduceCtorEq, exists_false, false_and, false_or,
      exists_eq', true_and]
  · -- both coordinates parse, and choosing a node does not fail
    obtain ⟨name, chosen⟩ := chooseNode_ok c ch g now s playbackID latf lonf
    rw [getBestNode_of_refreshed refreshed latParsed lonParsed, chosen]
    simp only [bind, Except.bind, pure, Except.pure, reduceCtorEq, exists_false, false_and,
      or_self, and_false]

theorem findIngest_eq_none_iff {c : CataBalancer} {ch : Choices} {s : Stats} {streamID : String} :
    c.findIngest ch s streamID = none ↔
      ∀ k, (c.nodes.lookup k).isSome → streamID ∉ s.ingestStreams.index k := by
  simp only [findIngest, List.findSome?_eq_none_iff, Option.map_eq_none',
    (ch.rangeNodes_perm _).mem_iff, AList.lookup_eq_none]
  constructor
  · intro absent k registered
    obtain ⟨v, found⟩ := Option.isSome_iff_exists.mp registered
    exact absent ⟨k, v⟩ (AList.mem_lookup_iff.mp found)
  · rintro absent ⟨k, v⟩ mem
    exact absent k (by rw [AList.mem_lookup_iff.mpr mem]; rfl)

theorem findIngest_eq_some {c : CataBalancer} {ch : Choices} {s : Stats} {streamID n : String}
    {stream : Stream} (found : c.findIngest ch s streamID = some (n, stream)) :
    (c.nodes.lookup n).isSome ∧ (s.ingestStreams.index n).lookup streamID = some stream := by
  obtain ⟨entry, mem, hit⟩ := List.exists_of_findSome?_eq_some found
  obtain ⟨stream', hit', same⟩ := Option.map_eq_some'.mp hit
  obtain ⟨rfl, rfl⟩ := Prod.mk.inj same
  exact ⟨registered_of_mem_rangeNodes mem, hit'⟩

/-! ## What the store can change -/

/-- `MistUtilLoadSource` reads the store only through the ingest entry it finds. -/
theorem mistUtilLoadSource_congr {c₁ c₂ : CataBalancer} {ch : Choices} {now : Time}
    {streamID : String} {s₁ s₂ : Stats}
    (refreshed₁ : c₁.refreshNodes now = .ok s₁) (refreshed₂ : c₂.refreshNodes now = .ok s₂)
    (sameTimeout : c₁.ingestStreamTimeout = c₂.ingestStreamTimeout)
    (sameIngest : c₁.findIngest ch s₁ streamID = c₂.findIngest ch s₂ streamID) :
    c₁.mistUtilLoadSource ch now streamID = c₂.mistUtilLoadSource ch now streamID := by
  simp only [mistUtilLoadSource, refreshed₁, refreshed₂, Except.mapError, bind, Except.bind,
    sameTimeout, sameIngest]

section Congruence

variable {c : CataBalancer} {ch : Choices} {now : Time} {rows₁ rows₂ : List NodeUpdateEvent}

variable (same : ∀ k, (c.nodes.lookup k).isSome →
  lastFreshRow c.metricTimeout now rows₁ k = lastFreshRow c.metricTimeout now rows₂ k)
include same

/-- The candidates depend on the store only through the registry nodes' last fresh rows. -/
theorem createScoredNodes_congr :
    c.createScoredNodes ch now (rows₁.foldl (refreshEvent c.metricTimeout now) ∅) =
      c.createScoredNodes ch now (rows₂.foldl (refreshEvent c.metricTimeout now) ∅) := by
  refine List.filterMap_congr fun entry mem => ?_
  simp only [scoreNode, GoMap.index, refreshed_nodeMetrics, refreshed_streams,
    same _ (registered_of_mem_rangeNodes mem)]

end Congruence

end CataBalancer

end DmsApi.Catabalancer
