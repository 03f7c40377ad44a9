import DmsApi.CatalystBalancer.Commute
import DmsApi.Catabalancer.Balancer

/-! # Selection in the event-fed balancer

`GetBestNode` of `catalyst_balancer.go` ranks its candidates in the three tiers of the
store-backed balancer, with its own copies of `SelectNode` and `selectTopNodes`. They differ in
`HasStream` only, which here tests an entry's age against `UpdateEvery`, so a stale stream
counts as absent and the selection is the store-backed one on the pruned candidates. Over
every run it answers with a registered node whose fresh metrics came from its own
`UpdateNodes` since it last joined, or with its own name when there is none.
-/

namespace DmsApi.CatalystBalancer

open Catabalancer (Node NodeMetrics isStale Choices)
open Catabalancer.CataBalancer (parseCoordinate parseCoordinate_ok)

namespace ScoredNode

/-- `HasStream(streamID)`, with the clock read at `now`. -/
def hasStream (n : ScoredNode) (now : Time) (streamID : String) : Bool :=
  (n.streams.lookup streamID).any fun s => !isStale now s.timestamp updateEvery

/-- `GetLoadScore`, on the metrics the candidate embeds. -/
def getLoadScore (n : ScoredNode) : Int := n.nodeMetrics.loadScore

/-- The first tier's test: local, serving the stream, and not overloaded. -/
def localHasStreamNotOverloaded (now : Time) (streamID : String) (n : ScoredNode) : Bool :=
  n.geoScore = 2 && n.hasStream now streamID && n.getLoadScore = 2

/-- The second tier's test: local and not overloaded. -/
def localNotOverloaded (n : ScoredNode) : Bool := n.geoScore = 2 && n.getLoadScore = 2

/-- A stale entry counts as absent: `HasStream` answers as a presence test on the streams
`removeOldStreams` would leave at the same time. -/
theorem hasStream_eq_pruned (n : ScoredNode) (now : Time) (streamID : String) :
    n.hasStream now streamID =
      ((removeOldStreams now n.streams updateEvery).lookup streamID).isSome := by
  rw [hasStream, removeOldStreams, GoMap.lookup_filter]
  cases n.streams.lookup streamID with
  | none => rfl
  | some s => by_cases stale : isStale now s.timestamp updateEvery <;> simp [Option.filter, stale]

end ScoredNode

/-- Modelled from the spec, as for the store-backed balancer: `geoScores`, whose body is not in
the source, gives each candidate a `GeoScore` of 0, 1 or 2. -/
structure GeoScorer where
  score : ScoredNode → ℚ → ℚ → Fin 3

/-- Modelled from the spec: `geoScores(scoredNodes, requestLatitude, requestLongitude)`. -/
def geoScores (g : GeoScorer) (scoredNodes : List ScoredNode)
    (requestLatitude requestLongitude : ℚ) : List ScoredNode :=
  scoredNodes.map fun n => { n with geoScore := g.score n requestLatitude requestLongitude }

/-- The outcomes selection leaves to the runtime, as `Choices` gives them for the store-backed
candidates: the order `rand.Shuffle` leaves a tier in, the order `sort.Slice` by descending
score leaves ties in, and the index `rand.Intn` draws. -/
structure Selection where
  randShuffle : List ScoredNode → List ScoredNode
  randShuffle_perm : ∀ l, (randShuffle l).Perm l
  sortSlice : List ScoredNode → List ScoredNode
  sortSlice_perm : ∀ l, (sortSlice l).Perm l
  sortSlice_sorted : ∀ l, (sortSlice l).Pairwise fun a b => b.score ≤ a.score
  randIntn : Nat → Nat
  randIntn_lt : ∀ n, 0 < n → randIntn n < n

/-- The outcomes that keep every order the code builds, sort stably and draw the first entry. -/
def Selection.inOrder : Selection where
  randShuffle := id
  randShuffle_perm := List.Perm.refl
  sortSlice l := l.mergeSort fun a b => decide (b.score ≤ a.score)
  sortSlice_perm l := List.mergeSort_perm l _
  sortSlice_sorted l :=
    (List.sorted_mergeSort (fun _ _ _ ab bc => by simp only [decide_eq_true_eq] at *; omega)
      (fun a b => by simpa using le_total b.score a.score) l).imp (by simp)
  randIntn _ := 0
  randIntn_lt _ pos := pos

def shuffle (sel : Selection) (scoredNodes : List ScoredNode) : List ScoredNode :=
  sel.randShuffle scoredNodes

def truncateReturned (scoredNodes : List ScoredNode) (numNodes : Nat) : List ScoredNode :=
  if scoredNodes.length < numNodes then scoredNodes else scoredNodes.take numNodes

/-- The third tier's loop body: geo plus load score, and 2 more for serving the stream. -/
def weigh (now : Time) (streamID : String) (node : ScoredNode) : ScoredNode :=
  let node := { node with score := node.score + node.geoScore + node.getLoadScore }
  if node.hasStream now streamID then { node with streamScore := 2, score := node.score + 2 }
  else node

def selectTopNodes (sel : Selection) (g : GeoScorer) (now : Time) (scoredNodes : List ScoredNode)
    (streamID : String) (requestLatitude requestLongitude : ℚ) (numNodes : Nat) :
    List ScoredNode :=
  let scoredNodes := geoScores g scoredNodes requestLatitude requestLongitude
  let localHasStreamNotOverloaded :=
    (scoredNodes.filter (·.localHasStreamNotOverloaded now streamID)).map
      fun node => { node with streamScore := 2 }
  if 0 < localHasStreamNotOverloaded.length then
    truncateReturned (shuffle sel localHasStreamNotOverloaded) numNodes
  else
    let localNotOverloaded := scoredNodes.filter (·.localNotOverloaded)
    if 0 < localNotOverloaded.length then
      truncateReturned (shuffle sel localNotOverloaded) numNodes
    else truncateReturned (sel.sortSlice (scoredNodes.map (weigh now streamID))) numNodes

def selectNode (sel : Selection) (g : GeoScorer) (now : Time) (nodes : List ScoredNode)
    (streamID : String) (requestLatitude requestLongitude : ℚ) : Except String Node :=
  if nodes.length = 0 then .error "no nodes to select from"
  else
    let topNodes := selectTopNodes sel g now nodes streamID requestLatitude requestLongitude 3
    if empty : topNodes.length = 0 then .error "selectTopNodes returned no nodes"
    else
      .ok (topNodes.get ⟨sel.randIntn topNodes.length,
        sel.randIntn_lt _ (Nat.pos_of_ne_zero empty)⟩).node

/-- `GetBestNode`, with `strconv.ParseFloat(_, 64)` given as `parseFloat`; the prefixes it is
passed are unused. -/
def CataBalancer.getBestNode (c : CataBalancer) (ch : Choices) (sel : Selection) (g : GeoScorer)
    (parseFloat : String → Except String ℚ) (now : Time) (playbackID lat lon : String) :
    Except String (String × String) := do
  let latf ← parseCoordinate parseFloat lat
  let lonf ← parseCoordinate parseFloat lon
  let scoredNodes := c.createScoredNodes ch now
  let nodeName ← (if 0 < scoredNodes.length then
      (·.name) <$> selectNode sel g now scoredNodes playbackID latf lonf
    else pure c.nodeName)
  pure (nodeName, "video+" ++ playbackID)

/-! ## What selection returns -/

theorem weigh_eq (now : Time) (streamID : String) (x : ScoredNode) :
    weigh now streamID x = { x with
      score := x.score + x.geoScore + x.getLoadScore + if x.hasStream now streamID then 2 else 0
      streamScore := if x.hasStream now streamID then 2 else x.streamScore } := by
  unfold weigh
  cases serving : x.hasStream now streamID <;> simp_all [ScoredNode.hasStream, add_assoc]

@[simp] theorem node_weigh (now : Time) (streamID : String) (x : ScoredNode) :
    (weigh now streamID x).node = x.node := by
  rw [weigh_eq]

/-- `SelectNode` without its dependent index: the entry at the drawn position, if any. -/
theorem selectNode_eq (sel : Selection) (g : GeoScorer) (now : Time) (nodes : List ScoredNode)
    (streamID : String) (lat lon : ℚ) :
    selectNode sel g now nodes streamID lat lon =
      if nodes.length = 0 then .error "no nodes to select from"
      else
        let topNodes := selectTopNodes sel g now nodes streamID lat lon 3
        topNodes[sel.randIntn topNodes.length]?.elim (.error "selectTopNodes returned no nodes")
          fun y => .ok y.node := by
  unfold selectNode
  split
  · rfl
  · dsimp only
    split
    · next empty => rw [List.getElem?_eq_none (by omega)]; rfl
    · next nonempty =>
      rw [List.getElem?_eq_getElem (sel.randIntn_lt _ (Nat.pos_of_ne_zero nonempty))]; rfl

theorem truncateReturned_eq_take (scoredNodes : List ScoredNode) (numNodes : Nat) :
    truncateReturned scoredNodes numNodes = scoredNodes.take numNodes := by
  unfold truncateReturned
  split
  · next short => exact (List.take_of_length_le (Nat.le_of_lt short)).symm
  · rfl

section Select

variable (sel : Selection) (g : GeoScorer) (now : Time) {nodes : List ScoredNode}
  (streamID : String) (lat lon : ℚ)

/-- Every entry `selectTopNodes` returns carries the node of a candidate: scoring, filtering,
shuffling, sorting and truncating only set scores, drop and reorder entries. -/
theorem node_mem_selectTopNodes (k : Nat) {y : ScoredNode}
    (mem : y ∈ selectTopNodes sel g now nodes streamID lat lon k) : ∃ x ∈ nodes, y.node = x.node := by
  have scored : ∀ z ∈ geoScores g nodes lat lon, ∃ x ∈ nodes, z.node = x.node := by
    simp only [geoScores, List.mem_map]
    rintro _ ⟨x, member, rfl⟩
    exact ⟨x, member, rfl⟩
  simp only [selectTopNodes, truncateReturned_eq_take, shuffle] at mem
  split_ifs at mem
  · obtain ⟨z, kept, rfl⟩ :=
      List.mem_map.mp ((sel.randShuffle_perm _).mem_iff.mp (List.mem_of_mem_take mem))
    exact scored z (List.mem_filter.mp kept).1
  · exact scored y (List.mem_filter.mp
      ((sel.randShuffle_perm _).mem_iff.mp (List.mem_of_mem_take mem))).1
  · obtain ⟨z, member, rfl⟩ :=
      List.mem_map.mp ((sel.sortSlice_perm _).mem_iff.mp (List.mem_of_mem_take mem))
    rw [node_weigh]
    exact scored z member

/-- On candidates, `selectTopNodes` returns some: the third tier keeps everyone. -/
theorem selectTopNodes_ne_nil (nonempty : nodes ≠ []) {k : Nat} (positive : 0 < k) :
    selectTopNodes sel g now nodes streamID lat lon k ≠ [] := by
  simp only [selectTopNodes, truncateReturned_eq_take, shuffle]
  split_ifs with first second
  all_goals refine fun taken => absurd (List.take_eq_nil_iff.mp taken) (not_or.mpr ⟨by omega, ?_⟩)
  · exact List.ne_nil_of_length_pos (by rw [(sel.randShuffle_perm _).length_eq]; exact first)
  · exact List.ne_nil_of_length_pos (by rw [(sel.randShuffle_perm _).length_eq]; exact second)
  · intro empty
    have length := congrArg List.length empty
    rw [(sel.sortSlice_perm _).length_eq, List.length_map, geoScores, List.length_map] at length
    exact nonempty (List.eq_nil_of_length_eq_zero length)

/-- On candidates, `SelectNode` returns the node of an entry `selectTopNodes` ranked. -/
theorem selectNode_of_ne_nil (nonempty : nodes ≠ []) :
    ∃ y ∈ selectTopNodes sel g now nodes streamID lat lon 3,
      selectNode sel g now nodes streamID lat lon = .ok y.node := by
  have drawn := sel.randIntn_lt _ (List.length_pos.mpr
    (selectTopNodes_ne_nil sel g now streamID lat lon nonempty (by decide : 0 < 3)))
  refine ⟨_, List.getElem_mem drawn, ?_⟩
  rw [selectNode_eq, if_neg fun zero => nonempty (List.eq_nil_of_length_eq_zero zero)]
  dsimp only
  rw [List.getElem?_eq_getElem drawn]
  rfl

/-- `SelectNode` on candidates returns the node of one of them. -/
theorem selectNode_mem (nonempty : nodes ≠ []) :
    ∃ x ∈ nodes, selectNode sel g now nodes streamID lat lon = .ok x.node := by
  obtain ⟨y, top, selected⟩ := selectNode_of_ne_nil sel g now streamID lat lon nonempty
  obtain ⟨x, candidate, same⟩ := node_mem_selectTopNodes sel g now streamID lat lon 3 top
  exact ⟨x, candidate, same ▸ selected⟩

/-- When a candidate passes the first tier's test, every entry returned is one that passed it. -/
theorem selectTopNodes_first_tier
    (found : ∃ x ∈ geoScores g nodes lat lon, x.localHasStreamNotOverloaded now streamID)
    (k : Nat) {y : ScoredNode} (mem : y ∈ selectTopNodes sel g now nodes streamID lat lon k) :
    ∃ z ∈ geoScores g nodes lat lon, z.localHasStreamNotOverloaded now streamID ∧
      y.node = z.node := by
  obtain ⟨x, candidate, pass⟩ := found
  simp only [selectTopNodes, truncateReturned_eq_take, shuffle] at mem
  split_ifs at mem with first
  · obtain ⟨z, kept, rfl⟩ :=
      List.mem_map.mp ((sel.randShuffle_perm _).mem_iff.mp (List.mem_of_mem_take mem))
    exact ⟨z, (List.mem_filter.mp kept).1, (List.mem_filter.mp kept).2, rfl⟩
  all_goals exact absurd (List.length_pos.mpr (List.ne_nil_of_mem
    (List.mem_map_of_mem _ (List.mem_filter.mpr ⟨candidate, pass⟩)))) first

end Select

/-! ## The store-backed view

The two balancers' selection code is the same but for `HasStream`. Seen through the candidate
the store-backed balancer would build, with the streams stale at `now` dropped, the event-fed
selection is the store-backed one, under runtime choices that agree. -/

/-- A stream entry as the store-backed maps keep it. -/
def Stream.toStoreBacked (s : Stream) : Catabalancer.Stream := ⟨s.id, s.id, s.timestamp⟩

/-- A candidate as the store-backed balancer builds it: the same scores, node and metrics, and
only the streams fresh at `now`. -/
def ScoredNode.toStoreBacked (now : Time) (x : ScoredNode) : Catabalancer.ScoredNode :=
  ⟨x.score, x.geoScore, x.streamScore, x.node,
    GoMap.mapValues Stream.toStoreBacked (removeOldStreams now x.streams updateEvery), x.nodeMetrics⟩

/-- Runtime choices for the two balancers' candidates that agree: shuffling, sorting and
drawing act on the store-backed view as on the candidates. -/
structure Agrees (now : Time) (sel : Selection) (ch : Choices) : Prop where
  shuffle : ∀ l, (sel.randShuffle l).map (·.toStoreBacked now) =
    ch.randShuffle (l.map (·.toStoreBacked now))
  sort : ∀ l, (sel.sortSlice l).map (·.toStoreBacked now) =
    ch.sortSlice (l.map (·.toStoreBacked now))
  draw : sel.randIntn = ch.randIntn

theorem Agrees.inOrder (now : Time) : Agrees now .inOrder .inOrder where
  shuffle _ := rfl
  sort _ := List.map_mergeSort fun _ _ _ _ => rfl
  draw := rfl

section StoreBacked

variable {now : Time} {sel : Selection} {ch : Choices} {g : GeoScorer} {g' : Catabalancer.GeoScorer}

@[simp] theorem node_toStoreBacked (x : ScoredNode) : (x.toStoreBacked now).node = x.node := rfl

theorem hasStream_toStoreBacked (x : ScoredNode) (streamID : String) :
    (x.toStoreBacked now).hasStream streamID = x.hasStream now streamID := by
  rw [ScoredNode.hasStream_eq_pruned, Catabalancer.ScoredNode.hasStream, ScoredNode.toStoreBacked,
    GoMap.lookup_mapValues, Option.isSome_map']

theorem weigh_toStoreBacked (streamID : String) (x : ScoredNode) :
    (weigh now streamID x).toStoreBacked now =
      Catabalancer.weigh streamID (x.toStoreBacked now) := by
  rw [weigh_eq, Catabalancer.weigh_eq, hasStream_toStoreBacked]
  rfl

/-- The two geo scorers score a candidate alike. -/
def SameGeo (now : Time) (g : GeoScorer) (g' : Catabalancer.GeoScorer) : Prop :=
  ∀ x lat lon, g.score x lat lon = g'.score (x.toStoreBacked now) lat lon

theorem geoScores_toStoreBacked (geo : SameGeo now g g') (nodes : List ScoredNode) (lat lon : ℚ) :
    (geoScores g nodes lat lon).map (·.toStoreBacked now) =
      Catabalancer.geoScores g' (nodes.map (·.toStoreBacked now)) lat lon := by
  simp only [geoScores, Catabalancer.geoScores, List.map_map]
  exact List.map_congr_left fun x _ => by simp only [Function.comp_apply, geo x]; rfl

/-- The event-fed selection, seen through the store-backed view, is the store-backed one. -/
theorem selectTopNodes_toStoreBacked (agree : Agrees now sel ch) (geo : SameGeo now g g')
    (nodes : List ScoredNode) (streamID : String) (lat lon : ℚ) (k : Nat) :
    (selectTopNodes sel g now nodes streamID lat lon k).map (·.toStoreBacked now) =
      Catabalancer.selectTopNodes ch g' (nodes.map (·.toStoreBacked now)) streamID lat lon k := by
  have first : ∀ x : ScoredNode, (x.toStoreBacked now).localHasStreamNotOverloaded streamID =
      x.localHasStreamNotOverloaded now streamID := fun x => by
    simp only [Catabalancer.ScoredNode.localHasStreamNotOverloaded,
      ScoredNode.localHasStreamNotOverloaded, hasStream_toStoreBacked]; rfl
  have second : ∀ x : ScoredNode, (x.toStoreBacked now).localNotOverloaded = x.localNotOverloaded :=
    fun _ => rfl
  simp only [selectTopNodes, Catabalancer.selectTopNodes, truncateReturned_eq_take,
    Catabalancer.truncateReturned_eq_take, shuffle, Catabalancer.shuffle,
    ← geoScores_toStoreBacked geo, List.filter_map, Function.comp_def, first, second,
    List.length_map, List.map_map]
  split_ifs
  · rw [List.map_take, agree.shuffle, List.map_map]; rfl
  · rw [List.map_take, agree.shuffle]
  · rw [List.map_take, agree.sort]
    congr 2
    simp only [List.map_map]
    exact List.map_congr_left fun x _ => weigh_toStoreBacked streamID x

/-- So `SelectNode` draws the same node in both balancers. -/
theorem selectNode_toStoreBacked (agree : Agrees now sel ch) (geo : SameGeo now g g')
    (nodes : List ScoredNode) (streamID : String) (lat lon : ℚ) :
    selectNode sel g now nodes streamID lat lon =
      Catabalancer.selectNode ch g' (nodes.map (·.toStoreBacked now)) streamID lat lon := by
  rw [selectNode_eq, Catabalancer.selectNode_eq, ← selectTopNodes_toStoreBacked agree geo]
  simp only [List.length_map, List.getElem?_map, agree.draw]
  cases (selectTopNodes sel g now nodes streamID lat lon 3)[ch.randIntn _]? <;> rfl

end StoreBacked

/-! ## `GetBestNode` over runs -/

namespace CataBalancer

variable {c : CataBalancer} {ch : Choices} {now : Time}

/-- A registry node with fresh metrics is a candidate. -/
theorem createScoredNodes_ne_nil {k : String} {v : Node} {metrics : NodeMetrics}
    (registered : c.nodes.lookup k = some v) (stored : c.nodeMetrics.lookup k = some metrics)
    (fresh : isStale now metrics.timestamp c.metricTimeout = false) :
    c.createScoredNodes ch now ≠ [] := by
  have ranged : (⟨k, v⟩ : Σ _ : String, Node) ∈ ch.rangeNodes c.nodes.entries :=
    (ch.rangeNodes_perm _).mem_iff.mpr (AList.mem_lookup_iff.mp registered)
  have built : (⟨0, 0, 0, v, c.streams.index k, metrics⟩ : ScoredNode) ∈ c.createScoredNodes ch now :=
    List.mem_filterMap.mpr ⟨_, ranged, by simp only [stored, fresh, Bool.false_eq_true, if_false]⟩
  exact List.ne_nil_of_mem built

/-- `GetBestNode` with parsed coordinates: its own name when there is no candidate, and
otherwise the name of the node `SelectNode` draws. -/
theorem getBestNode_of_parsed (sel : Selection) (g : GeoScorer)
    {parseFloat : String → Except String ℚ} (playbackID : String) {lat lon : String}
    {latf lonf : ℚ} (latParsed : parseCoordinate parseFloat lat = .ok latf)
    (lonParsed : parseCoordinate parseFloat lon = .ok lonf) :
    c.getBestNode ch sel g parseFloat now playbackID lat lon =
      (if 0 < (c.createScoredNodes ch now).length then
          (·.name) <$> selectNode sel g now (c.createScoredNodes ch now) playbackID latf lonf
        else pure c.nodeName) >>= fun nodeName => pure (nodeName, "video+" ++ playbackID) := by
  simp only [getBestNode, latParsed, lonParsed]
  rfl

/-- The event-fed `GetBestNode` selects as the store-backed one does on its candidates with the
stale streams dropped, under runtime choices that act alike on both. -/
theorem getBestNode_selects_as_storeBacked {sel : Selection} {ch' : Choices} {g : GeoScorer}
    {g' : Catabalancer.GeoScorer} (agree : Agrees now sel ch') (geo : SameGeo now g g')
    (parseFloat : String → Except String ℚ) (playbackID lat lon : String) :
    c.getBestNode ch sel g parseFloat now playbackID lat lon = (do
      let latf ← parseCoordinate parseFloat lat
      let lonf ← parseCoordinate parseFloat lon
      let candidates := (c.createScoredNodes ch now).map (·.toStoreBacked now)
      let nodeName ← (if 0 < candidates.length then
          (·.name) <$> Catabalancer.selectNode ch' g' candidates playbackID latf lonf
        else pure c.nodeName)
      pure (nodeName, "video+" ++ playbackID)) := by
  simp only [getBestNode, List.length_map, selectNode_toStoreBacked agree geo]

/-- The in-order choices agree, and constant geo scorers score alike. -/
theorem getBestNode_selects_as_storeBacked_inOrder :
    let c := run "self" [.updateMembers [⟨"a", ∅⟩], .updateNodes 1 "a" ⟨10, 10, 10, 0, 0, 0⟩]
    Agrees 2 .inOrder .inOrder ∧ SameGeo 2 ⟨fun _ _ _ => 2⟩ ⟨fun _ _ _ => 2⟩ ∧
      c.getBestNode .inOrder .inOrder ⟨fun _ _ _ => 2⟩ (fun _ => pure 0) 2 "s" "" "" = (do
        let latf ← parseCoordinate (fun _ => pure 0) ""
        let lonf ← parseCoordinate (fun _ => pure 0) ""
        let candidates := (c.createScoredNodes .inOrder 2).map (·.toStoreBacked 2)
        let nodeName ← (if 0 < candidates.length then
            (·.name) <$> Catabalancer.selectNode .inOrder ⟨fun _ _ _ => 2⟩ candidates "s" latf lonf
          else pure c.nodeName)
        pure (nodeName, "video+" ++ "s")) :=
  have geo : SameGeo 2 ⟨fun _ _ _ => 2⟩ ⟨fun _ _ _ => 2⟩ := fun _ _ _ => rfl
  ⟨Agrees.inOrder 2, geo, getBestNode_selects_as_storeBacked (Agrees.inOrder 2) geo _ "s" "" ""⟩

/-- A node that is the only local, unloaded candidate serving the stream is the one
`GetBestNode` names, whatever the runtime chooses: the first tier holds it alone. -/
theorem getBestNode_sole_local_server (sel : Selection) (g : GeoScorer)
    {parseFloat : String → Except String ℚ} (playbackID : String) {lat lon : String}
    {latf lonf : ℚ} (latParsed : parseCoordinate parseFloat lat = .ok latf)
    (lonParsed : parseCoordinate parseFloat lon = .ok lonf) {b : Node}
    (present : ∃ x ∈ geoScores g (c.createScoredNodes ch now) latf lonf,
      x.localHasStreamNotOverloaded now playbackID)
    (sole : ∀ x ∈ geoScores g (c.createScoredNodes ch now) latf lonf,
      x.localHasStreamNotOverloaded now playbackID → x.node = b) :
    c.getBestNode ch sel g parseFloat now playbackID lat lon = .ok (b.name, "video+" ++ playbackID) := by
  have candidates : c.createScoredNodes ch now ≠ [] := by
    obtain ⟨x, scored, -⟩ := present
    obtain ⟨x', candidate, -⟩ := List.mem_map.mp scored
    exact List.ne_nil_of_mem candidate
  obtain ⟨y, top, selected⟩ := selectNode_of_ne_nil sel g now playbackID latf lonf candidates
  obtain ⟨z, scored, pass, same⟩ :=
    selectTopNodes_first_tier sel g now playbackID latf lonf present 3 top
  rw [getBestNode_of_parsed sel g playbackID latParsed lonParsed,
    if_pos (List.length_pos.mpr candidates), selected, same, sole z scored pass]
  rfl

/-- Of two members that published metrics, the one local to the request and serving the
stream is named. -/
theorem getBestNode_sole_local_server_single :
    let c := run "self" [.updateMembers [⟨"a", ∅⟩, ⟨"b", ∅⟩],
      .updateNodes 1 "a" ⟨10, 10, 10, 0, 0, 0⟩, .updateNodes 1 "b" ⟨10, 10, 10, 0, 0, 0⟩,
      .updateStreams 1 "a" "s" false]
    let g : GeoScorer := ⟨fun x _ _ => if x.node.name = "a" then 2 else 0⟩
    parseCoordinate (fun _ => pure 0) "" = .ok 0 ∧
    (∃ x ∈ geoScores g (c.createScoredNodes .inOrder 2) 0 0, x.localHasStreamNotOverloaded 2 "s") ∧
    (∀ x ∈ geoScores g (c.createScoredNodes .inOrder 2) 0 0,
      x.localHasStreamNotOverloaded 2 "s" → x.node = ⟨"a", ""⟩) ∧
    c.getBestNode .inOrder .inOrder g (fun _ => pure 0) 2 "s" "" "" = .ok ("a", "video+" ++ "s") := by
  intro c g
  have present : ∃ x ∈ geoScores g (c.createScoredNodes .inOrder 2) 0 0,
      x.localHasStreamNotOverloaded 2 "s" := by decide
  have sole : ∀ x ∈ geoScores g (c.createScoredNodes .inOrder 2) 0 0,
      x.localHasStreamNotOverloaded 2 "s" → x.node = ⟨"a", ""⟩ := by decide
  have parsed : parseCoordinate (fun _ => pure 0) "" = .ok (0 : ℚ) := rfl
  exact ⟨parsed, present, sole, getBestNode_sole_local_server .inOrder g "s" parsed parsed present sole⟩

end CataBalancer

open CataBalancer

/-- Over every run, `GetBestNode` answers without error: a registered node whose fresh metrics its
own `UpdateNodes` published since it joined, or its own name exactly when there is none. -/
theorem getBestNode_registered_or_self (nodeName : String) (calls : List Call) (ch : Choices)
    (sel : Selection) (g : GeoScorer) (parseFloat : String → Except String ℚ) (now : Time)
    (playbackID lat lon : String) (latParses : lat = "" ∨ ∃ x, parseFloat lat = .ok x)
    (lonParses : lon = "" ∨ ∃ x, parseFloat lon = .ok x) :
    let c := run nodeName calls
    ∃ name, c.getBestNode ch sel g parseFloat now playbackID lat lon =
        .ok (name, "video+" ++ playbackID) ∧
      ((∃ v metrics, c.nodes.lookup name = some v ∧ c.nodeMetrics.lookup name = some metrics ∧
          isStale now metrics.timestamp updateEvery = false ∧
          ∃ i published, calls[i]? = some (.updateNodes metrics.timestamp name published) ∧
            StaysAfter calls i name) ∨
        (name = nodeName ∧ ∀ k v metrics, c.nodes.lookup k = some v →
          c.nodeMetrics.lookup k = some metrics → isStale now metrics.timestamp updateEvery = true)) := by
  intro c
  have inv := invariant_run nodeName calls
  have timeout : c.metricTimeout = updateEvery := metricTimeout_foldl (newBalancer nodeName) calls
  obtain ⟨latf, latParsed⟩ := parseCoordinate_ok latParses
  obtain ⟨lonf, lonParsed⟩ := parseCoordinate_ok lonParses
  rw [getBestNode_of_parsed sel g playbackID latParsed lonParsed]
  by_cases found : 0 < (c.createScoredNodes ch now).length
  · -- a candidate exists, and `SelectNode` returns one of their nodes
    obtain ⟨x, mem, selected⟩ :=
      selectNode_mem sel g now playbackID latf lonf (List.ne_nil_of_length_pos found)
    obtain ⟨k, registered, stored, -, fresh⟩ := mem_createScoredNodes mem
    have named : x.node.name = k := inv.nodes_named k x.node registered
    obtain ⟨i, published, wrote, -, stays⟩ := inv.nodeMetrics_written k x.nodeMetrics stored
    refine ⟨k, by rw [if_pos found, selected, ← named]; rfl, .inl ⟨x.node, x.nodeMetrics,
      registered, stored, timeout ▸ fresh, i, published, wrote, stays⟩⟩
  · -- no candidate: the balancer names itself
    have named : c.nodeName = nodeName := nodeName_foldl (newBalancer nodeName) calls
    refine ⟨nodeName, by rw [if_neg found, named]; rfl,
      .inr ⟨rfl, fun k v metrics registered stored => ?_⟩⟩
    by_contra fresh
    exact found (List.length_pos.mpr (createScoredNodes_ne_nil registered stored
      (by rw [timeout]; simpa using fresh)))

/-- A request to a balancer whose one member has published its metrics. -/
theorem getBestNode_registered_or_self_single :
    let calls : List Call := [.updateMembers [⟨"a", (∅ : GoMap String).insert "dtsc" "dtsc://a"⟩],
      .updateNodes 1 "a" ⟨10, 10, 10, 0, 0, 0⟩]
    let c := run "self" calls
    ("" = "" ∨ ∃ x, (fun _ => pure 0 : String → Except String ℚ) "" = .ok x) ∧
    ∃ name, c.getBestNode .inOrder .inOrder ⟨fun _ _ _ => 2⟩ (fun _ => pure 0) 2 "x" "" "" =
        .ok (name, "video+" ++ "x") ∧
      ((∃ v metrics, c.nodes.lookup name = some v ∧ c.nodeMetrics.lookup name = some metrics ∧
          isStale 2 metrics.timestamp updateEvery = false ∧
          ∃ i published, calls[i]? = some (.updateNodes metrics.timestamp name published) ∧
            StaysAfter calls i name) ∨
        (name = "self" ∧ ∀ k v metrics, c.nodes.lookup k = some v →
          c.nodeMetrics.lookup k = some metrics → isStale 2 metrics.timestamp updateEvery = true)) :=
  ⟨.inl rfl, getBestNode_registered_or_self "self" _ .inOrder .inOrder ⟨fun _ _ _ => 2⟩
    (fun _ => pure 0) 2 "x" "" "" (.inl rfl) (.inl rfl)⟩

end DmsApi.CatalystBalancer
