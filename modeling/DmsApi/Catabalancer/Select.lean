import DmsApi.Catabalancer.Refresh

/-! # Scoring and selection

`selectTopNodes` ranks the candidates of one request in three tiers: local, unloaded nodes
already serving the stream; then local, unloaded nodes; then everyone by a summed score. The
first two tiers are shuffled and the third sorted by score, and at most `numNodes` entries are
kept; `SelectNode` draws one of them. The shuffle, the order of ties after the sort, the draw
and the order a `range` over the registry takes are not the request's to choose: a `Choices`
value fixes them, and carries what the runtime guarantees of each.
-/

namespace DmsApi.Catabalancer

/-- `ScoredNode`, with the fields a modelled function reads. -/
structure ScoredNode where
  score : Int
  geoScore : Int
  streamScore : Int
  node : Node
  streams : Streams
  nodeMetrics : NodeMetrics
deriving DecidableEq

namespace ScoredNode

def hasStream (n : ScoredNode) (streamID : String) : Bool := (n.streams.lookup streamID).isSome

theorem hasStream_iff (n : ScoredNode) (streamID : String) :
    n.hasStream streamID = true ↔ streamID ∈ n.streams := AList.lookup_isSome

/-- `GetLoadScore`, on the metrics the candidate embeds. -/
def getLoadScore (n : ScoredNode) : Int := n.nodeMetrics.loadScore

/-- The first tier's test: local, serving the stream, and not overloaded. -/
def localHasStreamNotOverloaded (streamID : String) (n : ScoredNode) : Bool :=
  n.geoScore = 2 && n.hasStream streamID && n.getLoadScore = 2

/-- The second tier's test: local and not overloaded. -/
def localNotOverloaded (n : ScoredNode) : Bool := n.geoScore = 2 && n.getLoadScore = 2

/-- The candidate an entry was built from, with the scores selection adds cleared. -/
def unscored (n : ScoredNode) : ScoredNode := { n with score := 0, streamScore := 0 }

end ScoredNode

/-- Modelled from the spec: `geoScores`, whose body is not in the source. Each candidate gets
a `GeoScore` of 0, 1 or 2 from its own data and the request's coordinates; nothing else of it
changes. -/
structure GeoScorer where
  score : ScoredNode → ℚ → ℚ → Fin 3

/-- Modelled from the spec: `geoScores(scoredNodes, requestLatitude, requestLongitude)`. -/
def geoScores (g : GeoScorer) (scoredNodes : List ScoredNode)
    (requestLatitude requestLongitude : ℚ) : List ScoredNode :=
  scoredNodes.map fun n => { n with geoScore := g.score n requestLatitude requestLongitude }

/-- The outcomes one request leaves to the runtime: the order a `range` over the registry
visits it in, the order `rand.Shuffle` leaves a tier in, the order `sort.Slice` by descending
score leaves ties in, and the index `rand.Intn` draws. -/
structure Choices where
  rangeNodes : List (Σ _ : String, Node) → List (Σ _ : String, Node)
  rangeNodes_perm : ∀ l, (rangeNodes l).Perm l
  randShuffle : List ScoredNode → List ScoredNode
  randShuffle_perm : ∀ l, (randShuffle l).Perm l
  sortSlice : List ScoredNode → List ScoredNode
  sortSlice_perm : ∀ l, (sortSlice l).Perm l
  sortSlice_sorted : ∀ l, (sortSlice l).Pairwise fun a b => b.score ≤ a.score
  randIntn : Nat → Nat
  randIntn_lt : ∀ n, 0 < n → randIntn n < n

/-- The choices that keep every order the code builds, sort stably and draw the first entry:
one of the outcomes the runtime allows. -/
def Choices.inOrder : Choices where
  rangeNodes := id
  rangeNodes_perm := List.Perm.refl
  randShuffle := id
  randShuffle_perm := List.Perm.refl
  sortSlice l := l.mergeSort fun a b => decide (b.score ≤ a.score)
  sortSlice_perm l := List.mergeSort_perm l _
  sortSlice_sorted l :=
    (List.sorted_mergeSort (fun _ _ _ ab bc => by simp only [decide_eq_true_eq] at *; omega)
      (fun a b => by simpa using le_total b.score a.score) l).imp (by simp)
  randIntn _ := 0
  randIntn_lt _ pos := pos

def shuffle (ch : Choices) (scoredNodes : List ScoredNode) : List ScoredNode :=
  ch.randShuffle scoredNodes

theorem shuffle_perm (ch : Choices) (scoredNodes : List ScoredNode) :
    (shuffle ch scoredNodes).Perm scoredNodes :=
  ch.randShuffle_perm scoredNodes

def truncateReturned (scoredNodes : List ScoredNode) (numNodes : Nat) : List ScoredNode :=
  if scoredNodes.length < numNodes then scoredNodes else scoredNodes.take numNodes

/-- The third tier's loop body: geo plus load score, and 2 more for serving the stream. -/
def weigh (streamID : String) (node : ScoredNode) : ScoredNode :=
  let node := { node with score := node.score + node.geoScore + node.getLoadScore }
  if node.hasStream streamID then { node with streamScore := 2, score := node.score + 2 }
  else node

def selectTopNodes (ch : Choices) (g : GeoScorer) (scoredNodes : List ScoredNode)
    (streamID : String) (requestLatitude requestLongitude : ℚ) (numNodes : Nat) :
    List ScoredNode :=
  let scoredNodes := geoScores g scoredNodes requestLatitude requestLongitude
  let localHasStreamNotOverloaded :=
    (scoredNodes.filter (·.localHasStreamNotOverloaded streamID)).map
      fun node => { node with streamScore := 2 }
  if 0 < localHasStreamNotOverloaded.length then
    truncateReturned (shuffle ch localHasStreamNotOverloaded) numNodes
  else
    let localNotOverloaded := scoredNodes.filter (·.localNotOverloaded)
    if 0 < localNotOverloaded.length then
      truncateReturned (shuffle ch localNotOverloaded) numNodes
    else truncateReturned (ch.sortSlice (scoredNodes.map (weigh streamID))) numNodes

def selectNode (ch : Choices) (g : GeoScorer) (nodes : List ScoredNode) (streamID : String)
    (requestLatitude requestLongitude : ℚ) : Except String Node :=
  if nodes.length = 0 then .error "no nodes to select from"
  else
    let topNodes := selectTopNodes ch g nodes streamID requestLatitude requestLongitude 3
    if empty : topNodes.length = 0 then .error "selectTopNodes returned no nodes"
    else
      .ok (topNodes.get ⟨ch.randIntn topNodes.length,
        ch.randIntn_lt _ (Nat.pos_of_ne_zero empty)⟩).node

/-- `SelectNode` without its dependent index: the entry at the drawn position, if any. -/
theorem selectNode_eq (ch : Choices) (g : GeoScorer) (nodes : List ScoredNode) (streamID : String)
    (lat lon : ℚ) :
    selectNode ch g nodes streamID lat lon =
      if nodes.length = 0 then .error "no nodes to select from"
      else
        let topNodes := selectTopNodes ch g nodes streamID lat lon 3
        topNodes[ch.randIntn topNodes.length]?.elim (.error "selectTopNodes returned no nodes")
          fun y => .ok y.node := by
  unfold selectNode
  split
  · rfl
  · dsimp only
    split
    · next empty => rw [List.getElem?_eq_none (by omega)]; rfl
    · next nonempty =>
      rw [List.getElem?_eq_getElem (ch.randIntn_lt _ (Nat.pos_of_ne_zero nonempty))]; rfl

theorem truncateReturned_eq_take (scoredNodes : List ScoredNode) (numNodes : Nat) :
    truncateReturned scoredNodes numNodes = scoredNodes.take numNodes := by
  unfold truncateReturned
  split
  · next short => exact (List.take_of_length_le (Nat.le_of_lt short)).symm
  · rfl

theorem weigh_eq (streamID : String) (x : ScoredNode) :
    weigh streamID x = { x with
      score := x.score + x.geoScore + x.getLoadScore + if x.hasStream streamID then 2 else 0
      streamScore := if x.hasStream streamID then 2 else x.streamScore } := by
  unfold weigh
  cases serving : x.hasStream streamID <;> simp_all [ScoredNode.hasStream, add_assoc]

@[simp] theorem unscored_weigh (streamID : String) (x : ScoredNode) :
    (weigh streamID x).unscored = x.unscored := by
  rw [weigh_eq]; rfl

theorem unscored_of_zero {x : ScoredNode} (zero : x.score = 0 ∧ x.streamScore = 0) :
    x.unscored = x := by
  obtain ⟨score, geo, stream, node, streams, metrics⟩ := x
  simp_all [ScoredNode.unscored]

/-- The candidates keep the zero scores `createScoredNodes` builds them with. -/
theorem geoScores_zero (g : GeoScorer) {nodes : List ScoredNode} (lat lon : ℚ)
    (zero : ∀ n ∈ nodes, n.score = 0 ∧ n.streamScore = 0) :
    ∀ x ∈ geoScores g nodes lat lon, x.score = 0 ∧ x.streamScore = 0 := by
  simp only [geoScores, List.mem_map]
  rintro _ ⟨n, mem, rfl⟩
  exact zero n mem

/-- A prefix of a reordering of entries taken from the candidates is itself taken from them. -/
private theorem take_of_perm {cands l L : List ScoredNode} (perm : l.Perm L)
    (taken : (L.map ScoredNode.unscored).Subperm cands) (k : Nat) :
    (l.take k).length = min k L.length ∧ ((l.take k).map ScoredNode.unscored).Subperm cands ∧
      ∀ y ∈ l.take k, y ∈ L := by
  have sub : (l.take k).Subperm L := (List.take_sublist k l).subperm.trans perm.subperm
  obtain ⟨middle, reordered, within⟩ := sub
  exact ⟨by rw [List.length_take, perm.length_eq],
    List.Subperm.trans ⟨_, reordered.map _, within.map _⟩ taken,
    fun y mem => within.subset (reordered.mem_iff.mpr mem)⟩

/-- A filter of zero-scored candidates is taken from them, whatever scores are then set. -/
private theorem filter_taken {cands : List ScoredNode}
    (zero : ∀ x ∈ cands, x.score = 0 ∧ x.streamScore = 0) (keep : ScoredNode → Bool)
    (f : ScoredNode → ScoredNode) (same : ∀ x, (f x).unscored = x.unscored) :
    (((cands.filter keep).map f).map ScoredNode.unscored).Subperm cands := by
  have back : ((cands.filter keep).map f).map ScoredNode.unscored = cands.filter keep := by
    rw [List.map_map]
    refine (List.map_congr_left fun x mem => ?_).trans (List.map_id _)
    simp only [Function.comp_apply, same, id]
    exact unscored_of_zero (zero x (List.mem_filter.mp mem).1)
  rw [back]
  exact (List.filter_sublist cands).subperm

/-- `SelectNode` returns the node of an entry of a nonempty top list. -/
theorem selectNode_of_ne_nil (ch : Choices) (g : GeoScorer) {nodes : List ScoredNode}
    (streamID : String) (lat lon : ℚ) (nonempty : nodes ≠ [])
    (found : selectTopNodes ch g nodes streamID lat lon 3 ≠ []) :
    ∃ y ∈ selectTopNodes ch g nodes streamID lat lon 3,
      selectNode ch g nodes streamID lat lon = .ok y.node := by
  have some : nodes.length ≠ 0 := fun zero => nonempty (List.eq_nil_of_length_eq_zero zero)
  have top : (selectTopNodes ch g nodes streamID lat lon 3).length ≠ 0 :=
    fun zero => found (List.eq_nil_of_length_eq_zero zero)
  refine ⟨_, List.get_mem _ (ch.randIntn (selectTopNodes ch g nodes streamID lat lon 3).length)
    (ch.randIntn_lt _ (Nat.pos_of_ne_zero top)), ?_⟩
  simp only [selectNode, some, top, dite_false, if_false]

section Tiers

variable (ch : Choices) (g : GeoScorer) (nodes : List ScoredNode) (streamID : String)
  (lat lon : ℚ) (k : Nat)

private theorem selectTopNodes_first
    (found : (geoScores g nodes lat lon).filter (·.localHasStreamNotOverloaded streamID) ≠ []) :
    selectTopNodes ch g nodes streamID lat lon k =
      (shuffle ch (((geoScores g nodes lat lon).filter
        (·.localHasStreamNotOverloaded streamID)).map fun node => { node with streamScore := 2 })).take k := by
  have pos := List.length_pos.mpr found
  rw [← List.length_map _ fun node => { node with streamScore := 2 }] at pos
  simp only [selectTopNodes, if_pos pos, truncateReturned_eq_take]

private theorem selectTopNodes_second
    (none : (geoScores g nodes lat lon).filter (·.localHasStreamNotOverloaded streamID) = [])
    (found : (geoScores g nodes lat lon).filter (·.localNotOverloaded) ≠ []) :
    selectTopNodes ch g nodes streamID lat lon k =
      (shuffle ch ((geoScores g nodes lat lon).filter (·.localNotOverloaded))).take k := by
  simp only [selectTopNodes, none, List.map_nil, List.length_nil, Nat.lt_irrefl, if_false,
    if_pos (List.length_pos.mpr found), truncateReturned_eq_take]

private theorem selectTopNodes_third
    (none : (geoScores g nodes lat lon).filter (·.localHasStreamNotOverloaded streamID) = [])
    (noneLocal : (geoScores g nodes lat lon).filter (·.localNotOverloaded) = []) :
    selectTopNodes ch g nodes streamID lat lon k =
      (ch.sortSlice ((geoScores g nodes lat lon).map (weigh streamID))).take k := by
  simp only [selectTopNodes, none, noneLocal, List.map_nil, List.length_nil, Nat.lt_irrefl,
    if_false, truncateReturned_eq_take]

end Tiers

private theorem filter_ne_nil {l : List ScoredNode} {p : ScoredNode → Bool}
    (found : ∃ x ∈ l, p x) : l.filter p ≠ [] := by
  obtain ⟨x, mem, pass⟩ := found
  exact List.ne_nil_of_mem (List.mem_filter.mpr ⟨mem, pass⟩)

/-- What `selectTopNodes(..., 3)` promises on one request: one to three candidates, without
repetition, from the first nonempty tier; in the third tier, scored, and with no candidate
left out scoring above one returned. -/
def TopNodesRanked (ch : Choices) (g : GeoScorer) (nodes : List ScoredNode) (streamID : String)
    (lat lon : ℚ) : Prop :=
  let cands := geoScores g nodes lat lon
  let top := selectTopNodes ch g nodes streamID lat lon 3
  top ≠ [] ∧ top.length ≤ 3 ∧ (top.map ScoredNode.unscored).Subperm cands ∧
  ((∃ x ∈ cands, x.localHasStreamNotOverloaded streamID) →
    (∀ y ∈ top, y.localHasStreamNotOverloaded streamID) ∧
    top.length = min 3 (cands.filter (·.localHasStreamNotOverloaded streamID)).length) ∧
  ((¬∃ x ∈ cands, x.localHasStreamNotOverloaded streamID) →
    (∃ x ∈ cands, x.localNotOverloaded) →
    (∀ y ∈ top, y.localNotOverloaded) ∧
    top.length = min 3 (cands.filter (·.localNotOverloaded)).length) ∧
  ((¬∃ x ∈ cands, x.localHasStreamNotOverloaded streamID) →
    (¬∃ x ∈ cands, x.localNotOverloaded) →
    top.length = min 3 cands.length ∧
    (∀ y ∈ top, y.score = y.geoScore + y.getLoadScore + if y.hasStream streamID then 2 else 0) ∧
    ∃ rest, (top ++ rest).Perm (cands.map (weigh streamID)) ∧
      ∀ y ∈ top, ∀ z ∈ rest, z.score ≤ y.score)

/-- The ranking promise, and that the node `SelectNode` returns is one of the ranked entries'. -/
def TopNodesSpec (ch : Choices) (g : GeoScorer) (nodes : List ScoredNode) (streamID : String)
    (lat lon : ℚ) : Prop :=
  TopNodesRanked ch g nodes streamID lat lon ∧
    ∃ y ∈ selectTopNodes ch g nodes streamID lat lon 3,
      selectNode ch g nodes streamID lat lon = .ok y.node

theorem selectTopNodes_ranked (ch : Choices) (g : GeoScorer) {nodes : List ScoredNode}
    (streamID : String) (lat lon : ℚ) (nonempty : nodes ≠ [])
    (zero : ∀ n ∈ nodes, n.score = 0 ∧ n.streamScore = 0) :
    TopNodesRanked ch g nodes streamID lat lon := by
  unfold TopNodesRanked
  intro cands top
  have zeroC := geoScores_zero g lat lon zero
  have candsNe : cands ≠ [] := by simpa [cands, geoScores] using nonempty
  have nonempty_of {L : List ScoredNode} (length : top.length = min 3 L.length) (found : L ≠ []) :
      top ≠ [] ∧ top.length ≤ 3 := by
    have pos := List.length_pos.mpr found
    exact ⟨List.ne_nil_of_length_pos (by omega), by omega⟩
  by_cases first : ∃ x ∈ cands, x.localHasStreamNotOverloaded streamID
  · -- tier 1: a shuffle of the local nodes serving the stream
    have shape : top = _ := selectTopNodes_first ch g nodes streamID lat lon 3 (filter_ne_nil first)
    have fromCands : (((cands.filter (·.localHasStreamNotOverloaded streamID)).map
        fun node => { node with streamScore := 2 }).map ScoredNode.unscored).Subperm cands :=
      filter_taken zeroC _ (fun node => { node with streamScore := 2 }) fun _ => rfl
    obtain ⟨length, taken, within⟩ := take_of_perm (shuffle_perm ch _) fromCands 3
    rw [← shape, List.length_map] at length
    rw [← shape] at taken within
    refine ⟨(nonempty_of length (filter_ne_nil first)).1, (nonempty_of length (filter_ne_nil first)).2,
      taken, fun _ => ⟨fun y mem => ?_, length⟩, fun no => absurd first no, fun no => absurd first no⟩
    obtain ⟨x, member, rfl⟩ := List.mem_map.mp (within y mem)
    exact (List.mem_filter.mp member).2
  by_cases second : ∃ x ∈ cands, x.localNotOverloaded
  · -- tier 2: a shuffle of the local nodes
    have none : cands.filter (·.localHasStreamNotOverloaded streamID) = [] :=
      List.filter_eq_nil_iff.mpr fun x mem pass => first ⟨x, mem, pass⟩
    have shape : top = _ :=
      selectTopNodes_second ch g nodes streamID lat lon 3 none (filter_ne_nil second)
    have fromCands : ((cands.filter (·.localNotOverloaded)).map ScoredNode.unscored).Subperm
        cands := by simpa using filter_taken zeroC (·.localNotOverloaded) id fun _ => rfl
    obtain ⟨length, taken, within⟩ := take_of_perm (shuffle_perm ch _) fromCands 3
    rw [← shape] at length taken within
    refine ⟨(nonempty_of length (filter_ne_nil second)).1,
      (nonempty_of length (filter_ne_nil second)).2, taken, fun found => absurd found first,
      fun _ _ => ⟨fun y mem => (List.mem_filter.mp (within y mem)).2, length⟩,
      fun _ no => absurd second no⟩
  · -- tier 3: everyone, weighed and sorted by score
    have none : cands.filter (·.localHasStreamNotOverloaded streamID) = [] :=
      List.filter_eq_nil_iff.mpr fun x mem pass => first ⟨x, mem, pass⟩
    have noneLocal : cands.filter (·.localNotOverloaded) = [] :=
      List.filter_eq_nil_iff.mpr fun x mem pass => second ⟨x, mem, pass⟩
    have shape : top = _ := selectTopNodes_third ch g nodes streamID lat lon 3 none noneLocal
    have fromCands : ((cands.map (weigh streamID)).map ScoredNode.unscored).Subperm cands := by
      simpa using filter_taken zeroC (fun _ => true) (weigh streamID) (unscored_weigh _)
    obtain ⟨length, taken, within⟩ := take_of_perm (ch.sortSlice_perm _) fromCands 3
    rw [← shape, List.length_map] at length
    rw [← shape] at taken within
    have sorted := ch.sortSlice_sorted (cands.map (weigh streamID))
    rw [← List.take_append_drop 3 (ch.sortSlice _), List.pairwise_append, ← shape] at sorted
    refine ⟨(nonempty_of length candsNe).1, (nonempty_of length candsNe).2, taken,
      fun found => absurd found first, fun _ found => absurd found second,
      fun _ _ => ⟨length, fun y mem => ?_, _, ?_, sorted.2.2⟩⟩
    · obtain ⟨x, member, rfl⟩ := List.mem_map.mp (within y mem)
      rw [weigh_eq, (zeroC x member).1]
      simp [ScoredNode.getLoadScore, ScoredNode.hasStream]
    · rw [shape, List.take_append_drop]
      exact ch.sortSlice_perm _

/-- `selectTopNodes(..., 3)` keeps its promise on every nonempty list of zero-scored
candidates, under every outcome of the runtime's choices, and `SelectNode` then returns the
node of one of the entries it ranked. -/
theorem selectTopNodes_spec (ch : Choices) (g : GeoScorer) {nodes : List ScoredNode}
    (streamID : String) (lat lon : ℚ) (nonempty : nodes ≠ [])
    (zero : ∀ n ∈ nodes, n.score = 0 ∧ n.streamScore = 0) :
    TopNodesSpec ch g nodes streamID lat lon :=
  have ranked := selectTopNodes_ranked ch g streamID lat lon nonempty zero
  ⟨ranked, selectNode_of_ne_nil ch g streamID lat lon nonempty ranked.1⟩

/-- `SelectNode` on a nonempty list of zero-scored candidates returns one of their nodes. -/
theorem selectNode_mem (ch : Choices) (g : GeoScorer) {nodes : List ScoredNode}
    (streamID : String) (lat lon : ℚ) (nonempty : nodes ≠ [])
    (zero : ∀ n ∈ nodes, n.score = 0 ∧ n.streamScore = 0) :
    ∃ x ∈ nodes, selectNode ch g nodes streamID lat lon = .ok x.node := by
  have ranked := selectTopNodes_ranked ch g streamID lat lon nonempty zero
  obtain ⟨y, top, selected⟩ := selectNode_of_ne_nil ch g streamID lat lon nonempty ranked.1
  obtain ⟨x, mem, same⟩ := List.mem_map.mp (ranked.2.2.1.subset (List.mem_map_of_mem _ top))
  exact ⟨x, mem, selected.trans (congrArg Except.ok (congrArg ScoredNode.node same).symm)⟩

/-- When the local, unloaded candidates serving the stream all carry one node, `SelectNode`
returns that node under every outcome of the shuffle and the draw. -/
theorem selectNode_sole_local_server (ch : Choices) (g : GeoScorer) {nodes : List ScoredNode}
    (streamID : String) (lat lon : ℚ) (zero : ∀ n ∈ nodes, n.score = 0 ∧ n.streamScore = 0)
    {b : Node}
    (present : ∃ x ∈ geoScores g nodes lat lon, x.localHasStreamNotOverloaded streamID)
    (sole : ∀ x ∈ geoScores g nodes lat lon, x.localHasStreamNotOverloaded streamID → x.node = b) :
    selectNode ch g nodes streamID lat lon = .ok b := by
  have nonempty : nodes ≠ [] := by
    rintro rfl
    obtain ⟨x, mem, -⟩ := present
    simp [geoScores] at mem
  have ranked := selectTopNodes_ranked ch g streamID lat lon nonempty zero
  obtain ⟨y, top, selected⟩ := selectNode_of_ne_nil ch g streamID lat lon nonempty ranked.1
  have candidate : y.unscored ∈ geoScores g nodes lat lon :=
    ranked.2.2.1.subset (List.mem_map_of_mem _ top)
  rw [selected, show y.node = y.unscored.node from rfl,
    sole _ candidate ((ranked.2.2.2.1 present).1 y top)]

/-- Of a local node serving the stream and a remote one that is not, the local one is chosen. -/
theorem selectNode_sole_local_server_single :
    let local_ : ScoredNode := ⟨0, 0, 0, ⟨"b", ""⟩, (∅ : Streams).insert "X" ⟨"X", "X", 0⟩,
      ⟨0, 0, 0, 0, 0, 0⟩⟩
    let remote : ScoredNode := ⟨0, 0, 0, ⟨"c", ""⟩, ∅, ⟨0, 0, 0, 0, 0, 0⟩⟩
    let g : GeoScorer := ⟨fun n _ _ => if n.node.name = "b" then 2 else 0⟩
    (∀ n ∈ [local_, remote], n.score = 0 ∧ n.streamScore = 0) ∧
    (∃ x ∈ geoScores g [local_, remote] 0 0, x.localHasStreamNotOverloaded "X") ∧
    (∀ x ∈ geoScores g [local_, remote] 0 0, x.localHasStreamNotOverloaded "X" →
      x.node = ⟨"b", ""⟩) ∧
    selectNode Choices.inOrder g [local_, remote] "X" 0 0 = .ok ⟨"b", ""⟩ := by
  intro local_ remote g
  have zero : ∀ n ∈ [local_, remote], n.score = 0 ∧ n.streamScore = 0 := by decide
  have present : ∃ x ∈ geoScores g [local_, remote] 0 0, x.localHasStreamNotOverloaded "X" := by
    decide
  have sole : ∀ x ∈ geoScores g [local_, remote] 0 0, x.localHasStreamNotOverloaded "X" →
      x.node = ⟨"b", ""⟩ := by decide
  exact ⟨zero, present, sole, selectNode_sole_local_server _ _ _ _ _ zero present sole⟩

/-- One local candidate serving the stream is the whole first tier. -/
theorem selectTopNodes_spec_single :
    [(⟨0, 0, 0, ⟨"a", ""⟩, ∅, ⟨0, 0, 0, 0, 0, 0⟩⟩ : ScoredNode)] ≠ [] ∧
      (∀ n ∈ [(⟨0, 0, 0, ⟨"a", ""⟩, ∅, ⟨0, 0, 0, 0, 0, 0⟩⟩ : ScoredNode)],
        n.score = 0 ∧ n.streamScore = 0) ∧
      TopNodesSpec Choices.inOrder ⟨fun _ _ _ => 2⟩
        [⟨0, 0, 0, ⟨"a", ""⟩, ∅, ⟨0, 0, 0, 0, 0, 0⟩⟩] "abc" 0 0 :=
  have nonempty : [(⟨0, 0, 0, ⟨"a", ""⟩, ∅, ⟨0, 0, 0, 0, 0, 0⟩⟩ : ScoredNode)] ≠ [] := by simp
  have zero : ∀ n ∈ [(⟨0, 0, 0, ⟨"a", ""⟩, ∅, ⟨0, 0, 0, 0, 0, 0⟩⟩ : ScoredNode)],
      n.score = 0 ∧ n.streamScore = 0 := by simp
  ⟨nonempty, zero, selectTopNodes_spec _ _ _ _ _ nonempty zero⟩

end DmsApi.Catabalancer
