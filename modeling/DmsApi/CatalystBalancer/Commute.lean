import DmsApi.CatalystBalancer.Events

/-! # Updates of different nodes commute

`UpdateNodes` and `UpdateStreams` read the registry, which neither of them changes, and write
only under the key of the node they name. So two such calls for different nodes leave states
that no reader can tell apart, whichever runs first; and when the handlers of two nodes' events
run concurrently, however their calls interleave, `MistUtilLoadSource` and `createScoredNodes`
answer as if one handler had run after the other, in either order.
-/

namespace DmsApi.CatalystBalancer

open Catabalancer (Member NodeUpdateEvent Choices)

/-- The node an `UpdateNodes` or `UpdateStreams` call writes for. -/
def Call.node? : Call → Option String
  | .updateMembers _ => none
  | .updateNodes _ id _ => some id
  | .updateStreams _ nodeName _ _ => some nodeName

/-- Every request a `NodeUpdateEvent` makes writes for the event's node. -/
theorem node?_receiveUserEvent {event : NodeUpdateEvent} {r : Request}
    (issued : r ∈ (receiveUserEvent (.nodeUpdateEvent event)).2) (now : Time) :
    (r.call now).node? = some event.nodeID := by
  simp only [receiveUserEvent, List.mem_cons, List.mem_append, List.mem_map] at issued
  rcases issued with (rfl | ⟨_, -, rfl⟩) | ⟨_, -, rfl⟩ <;> rfl

/-- So does every call its handler makes, whatever the clock reads. -/
theorem node?_handler {event : NodeUpdateEvent} {clock : List Time} {call : Call}
    (made : call ∈ List.zipWith Request.call clock (receiveUserEvent (.nodeUpdateEvent event)).2) :
    call.node? = some event.nodeID := by
  obtain ⟨i, within, rfl⟩ := List.mem_iff_getElem.mp made
  rw [List.getElem_zipWith]
  exact node?_receiveUserEvent (List.getElem_mem _) _

/-- `w` merges `xs` and `ys`, keeping the order of each. -/
inductive Interleave {α : Type} : List α → List α → List α → Prop
  | nil : Interleave [] [] []
  | left {x : α} {xs ys w : List α} : Interleave xs ys w → Interleave (x :: xs) ys (x :: w)
  | right {y : α} {xs ys w : List α} : Interleave xs ys w → Interleave xs (y :: ys) (y :: w)

theorem Interleave.swap {α : Type} {xs ys w : List α} (merge : Interleave xs ys w) :
    Interleave ys xs w := by
  induction merge with
  | nil => exact .nil
  | left _ ih => exact .right ih
  | right _ ih => exact .left ih

/-! ## Balancers no reader tells apart -/

/-- `c` and `c'` hold the same entries under node `n`'s key. -/
structure AgreeAt (n : String) (c c' : CataBalancer) : Prop where
  streams : ∀ isIngest, (c.streamsOf isIngest).lookup n = (c'.streamsOf isIngest).lookup n
  nodeMetrics : c.nodeMetrics.lookup n = c'.nodeMetrics.lookup n

namespace AgreeAt

variable {n : String} {c c' c'' : CataBalancer}

theorem refl (n : String) (c : CataBalancer) : AgreeAt n c c := ⟨fun _ => rfl, rfl⟩

theorem symm (agree : AgreeAt n c c') : AgreeAt n c' c :=
  ⟨fun isIngest => (agree.1 isIngest).symm, agree.2.symm⟩

theorem trans (first : AgreeAt n c c') (second : AgreeAt n c' c'') : AgreeAt n c c'' :=
  ⟨fun isIngest => (first.1 isIngest).trans (second.1 isIngest), first.2.trans second.2⟩

end AgreeAt

/-- Two balancers with the same registry and settings and the same entries under every key:
Go maps have no order, so nothing the code reads tells them apart. -/
structure Same (c c' : CataBalancer) : Prop where
  nodeName : c.nodeName = c'.nodeName
  nodes : c.nodes = c'.nodes
  metricTimeout : c.metricTimeout = c'.metricTimeout
  agree : ∀ n, AgreeAt n c c'

namespace Same

variable {c c' c'' : CataBalancer}

theorem refl (c : CataBalancer) : Same c c := ⟨rfl, rfl, rfl, fun n => .refl n c⟩

theorem symm (same : Same c c') : Same c' c :=
  ⟨same.1.symm, same.2.symm, same.3.symm, fun n => (same.4 n).symm⟩

theorem trans (first : Same c c') (second : Same c' c'') : Same c c'' :=
  ⟨first.1.trans second.1, first.2.trans second.2, first.3.trans second.3,
    fun n => (first.4 n).trans (second.4 n)⟩

theorem index_streams (same : Same c c') (n : String) : c.streams.index n = c'.streams.index n :=
  congrArg (·.getD default) ((same.agree n).streams false)

theorem index_ingestStreams (same : Same c c') (n : String) :
    c.ingestStreams.index n = c'.ingestStreams.index n :=
  congrArg (·.getD default) ((same.agree n).streams true)

end Same

namespace CataBalancer

variable {c c' : CataBalancer} {call : Call} {a n : String}

/-- `MistUtilLoadSource` reads nothing that tells balancers of `Same` apart. -/
theorem mistUtilLoadSource_congr (same : Same c c') (ch : Choices) (now : Time) (stream : String) :
    c.mistUtilLoadSource ch now stream = c'.mistUtilLoadSource ch now stream := by
  simp only [mistUtilLoadSource, same.nodes, same.metricTimeout, same.index_ingestStreams]

/-- Nor do the candidates `GetBestNode` scores. -/
theorem createScoredNodes_congr (same : Same c c') (ch : Choices) (now : Time) :
    c.createScoredNodes ch now = c'.createScoredNodes ch now := by
  simp only [createScoredNodes, same.nodes, same.metricTimeout, same.index_streams,
    (same.agree _).nodeMetrics]

/-! ## What one call writes -/

/-- `UpdateMembers` keeps a stream entry exactly when its node is in the new registry. -/
theorem lookup_streamsOf_updateMembers (isIngest : Bool) (members : List Member) (n : String) :
    ((c.updateMembers members).streamsOf isIngest).lookup n =
      ((c.streamsOf isIngest).lookup n).filter
        fun _ => ((c.updateMembers members).nodes.lookup n).isSome := by
  cases isIngest <;>
    exact GoMap.lookup_filter (fun k _ => ((c.updateMembers members).nodes.lookup k).isSome) _ n

@[simp] theorem nodeName_step (c : CataBalancer) (call : Call) :
    (step c call).nodeName = c.nodeName := by
  cases call <;> simp only [step, updateMembers, updateNodes, updateStreams] <;> split_ifs <;> rfl

theorem nodeName_foldl (c : CataBalancer) (calls : List Call) :
    (calls.foldl step c).nodeName = c.nodeName := by
  induction calls generalizing c with
  | nil => rfl
  | cons call rest ih => rw [List.foldl_cons, ih, nodeName_step]

theorem nodes_step (writes : call.node? = some a) : (step c call).nodes = c.nodes := by
  cases call with
  | updateMembers => cases writes
  | updateNodes => exact nodes_updateNodes ..
  | updateStreams => exact nodes_updateStreams ..

/-- A call writes nothing under the keys of other nodes. -/
theorem step_frame (writes : call.node? = some a) (other : n ≠ a) : AgreeAt n (step c call) c := by
  cases call with
  | updateMembers => cases writes
  | updateNodes now id published =>
    obtain rfl : id = a := Option.some.inj writes
    refine ⟨fun isIngest => by rw [step, streamsOf_updateNodes], ?_⟩
    rw [step]; unfold updateNodes
    split
    · rfl
    · exact AList.lookup_insert_ne other
  | updateStreams now nodeName streamID isIngest' =>
    obtain rfl : nodeName = a := Option.some.inj writes
    refine ⟨fun isIngest => ?_, by rw [step, nodeMetrics_updateStreams]⟩
    by_cases registered : (c.nodes.lookup nodeName).isSome
    · rw [step, streamsOf_updateStreams isIngest isIngest' registered]
      dsimp only
      split
      · rw [AList.lookup_insert_ne other, GoMap.lookup_adjust, if_neg other]
      · rw [GoMap.lookup_adjust, if_neg other]
    · rw [step, updateStreams_unregistered registered]

/-- What a call writes under its node's key depends only on what was there, the registry and
the timeout. -/
theorem step_local (writes : call.node? = some a) (nodes : c.nodes = c'.nodes)
    (timeout : c.metricTimeout = c'.metricTimeout) (agree : AgreeAt a c c') :
    AgreeAt a (step c call) (step c' call) := by
  cases call with
  | updateMembers => cases writes
  | updateNodes now id published =>
    obtain rfl : id = a := Option.some.inj writes
    refine ⟨fun isIngest => by simp only [step, streamsOf_updateNodes, agree.streams], ?_⟩
    simp only [step, updateNodes, nodes]
    split
    · exact agree.nodeMetrics
    · simp only [AList.lookup_insert]
  | updateStreams now nodeName streamID isIngest' =>
    obtain rfl : nodeName = a := Option.some.inj writes
    refine ⟨fun isIngest => ?_, by simp only [step, nodeMetrics_updateStreams, agree.nodeMetrics]⟩
    by_cases registered : (c.nodes.lookup nodeName).isSome
    · have index : (c.streamsOf isIngest).index nodeName = (c'.streamsOf isIngest).index nodeName :=
        congrArg (·.getD default) (agree.streams isIngest)
      rw [step, step, streamsOf_updateStreams isIngest isIngest' registered,
        streamsOf_updateStreams isIngest isIngest' (nodes ▸ registered)]
      dsimp only
      split
      · rw [AList.lookup_insert, AList.lookup_insert, GoMap.index_adjust rfl, GoMap.index_adjust rfl,
          if_pos rfl, if_pos rfl, index, timeout]
      · rw [GoMap.lookup_adjust, GoMap.lookup_adjust, if_pos rfl, if_pos rfl, agree.streams isIngest,
          timeout]
    · rw [step, step, updateStreams_unregistered registered,
        updateStreams_unregistered (nodes ▸ registered)]
      exact agree.streams isIngest

end CataBalancer

open CataBalancer

/-! ## Calls on different nodes commute -/

section Commute

variable {c c' : CataBalancer} {a b : String}

/-- A call for one node keeps balancers no reader tells apart so. -/
theorem Same.step_congr_of_writes {call : Call} (same : Same c c') (writes : call.node? = some a) :
    Same (step c call) (step c' call) := by
  refine ⟨by simp only [nodeName_step, same.nodeName],
    by rw [nodes_step writes, nodes_step writes, same.nodes],
    by simp only [metricTimeout_step, same.metricTimeout], fun n => ?_⟩
  by_cases here : n = a
  · subst here
    exact step_local writes same.nodes same.metricTimeout (same.agree n)
  · exact (step_frame writes here).trans ((same.agree n).trans (step_frame writes here).symm)

/-- Every call keeps balancers no reader tells apart so: `UpdateMembers` reads nothing but
whether each key is in the registry it builds. -/
theorem Same.step_congr (same : Same c c') (call : Call) : Same (step c call) (step c' call) := by
  cases call with
  | updateMembers members =>
    refine ⟨same.nodeName, rfl, same.metricTimeout, fun n => ⟨fun isIngest => ?_, ?_⟩⟩
    · rw [step, step, lookup_streamsOf_updateMembers, lookup_streamsOf_updateMembers,
        (same.agree n).streams]
      rfl
    · simp only [CatalystBalancer.step, updateMembers, GoMap.lookup_filter,
        (same.agree n).nodeMetrics]
  | updateNodes => exact same.step_congr_of_writes rfl
  | updateStreams => exact same.step_congr_of_writes rfl

/-- And so does every run of calls. -/
theorem Same.foldl_congr (same : Same c c') (calls : List Call) :
    Same (calls.foldl step c) (calls.foldl step c') := by
  induction calls generalizing c c' with
  | nil => exact same
  | cons call rest ih => exact ih (same.step_congr call)

/-- Two calls for different nodes commute. -/
theorem step_comm {x y : Call} (onA : x.node? = some a) (onB : y.node? = some b) (apart : a ≠ b)
    (c : CataBalancer) : Same (step (step c x) y) (step (step c y) x) := by
  refine ⟨by simp only [nodeName_step], by rw [nodes_step onB, nodes_step onA, nodes_step onA,
    nodes_step onB], by simp only [metricTimeout_step], fun n => ?_⟩
  -- under `a` only `x` writes, under `b` only `y`, and under any other key neither
  by_cases atA : n = a
  · subst atA
    exact (step_frame onB apart).trans (step_local onA (nodes_step onB).symm
      (metricTimeout_step c y).symm (step_frame onB apart).symm)
  · by_cases atB : n = b
    · subst atB
      exact (step_local onB (nodes_step onA) (metricTimeout_step c x)
        (step_frame onA atA)).trans (step_frame onA atA).symm
    · exact ((step_frame onB atB).trans (step_frame onA atA)).trans
        ((step_frame onA atA).trans (step_frame onB atB)).symm

/-- A call for node `b` moves past any run of calls for node `a`. -/
theorem foldl_step_comm {xs : List Call} {y : Call} (onA : ∀ x ∈ xs, x.node? = some a)
    (onB : y.node? = some b) (apart : a ≠ b) (c : CataBalancer) :
    Same (xs.foldl step (step c y)) (step (xs.foldl step c) y) := by
  induction xs generalizing c with
  | nil => exact .refl _
  | cons x rest ih =>
    exact ((step_comm (onA x (.head rest)) onB apart c).symm.foldl_congr rest).trans
      (ih (fun x' mem => onA x' (.tail x mem)) (step c x))

/-- However the calls of two runs for different nodes interleave, the balancer ends up as if
the first run had finished before the second began. -/
theorem Interleave.same {xs ys zs : List Call} (merge : Interleave xs ys zs)
    (onA : ∀ x ∈ xs, x.node? = some a) (onB : ∀ y ∈ ys, y.node? = some b) (apart : a ≠ b)
    (c : CataBalancer) : Same (zs.foldl step c) ((xs ++ ys).foldl step c) := by
  induction merge generalizing c with
  | nil => exact .refl c
  | @left x xs ys w _ ih => exact ih (fun x' mem => onA x' (.tail x mem)) onB (step c x)
  | @right y xs ys w _ ih =>
    have moved := foldl_step_comm onA (onB y (.head ys)) apart c
    have merged := ih onA (fun y' mem => onB y' (.tail y mem)) (step c y)
    simp only [List.foldl_append, List.foldl_cons] at merged ⊢
    exact merged.trans (moved.foldl_congr ys)

end Commute

/-- Interleaved in any way, the handlers of two nodes' update events leave `MistUtilLoadSource`
and `GetBestNode`'s candidates as if one had run to the end before the other began. -/
theorem receiveUserEvent_handlers_commute {e₁ e₂ : NodeUpdateEvent} (apart : e₁.nodeID ≠ e₂.nodeID)
    (clock₁ clock₂ : List Time) {zs : List Call}
    (merge : Interleave
      (List.zipWith Request.call clock₁ (receiveUserEvent (.nodeUpdateEvent e₁)).2)
      (List.zipWith Request.call clock₂ (receiveUserEvent (.nodeUpdateEvent e₂)).2) zs)
    (c : CataBalancer) (ch : Choices) (now : Time) :
    let first := List.zipWith Request.call clock₁ (receiveUserEvent (.nodeUpdateEvent e₁)).2
    let second := List.zipWith Request.call clock₂ (receiveUserEvent (.nodeUpdateEvent e₂)).2
    (∀ stream, (zs.foldl step c).mistUtilLoadSource ch now stream =
        ((first ++ second).foldl step c).mistUtilLoadSource ch now stream ∧
      (zs.foldl step c).mistUtilLoadSource ch now stream =
        ((second ++ first).foldl step c).mistUtilLoadSource ch now stream) ∧
    (zs.foldl step c).createScoredNodes ch now =
        ((first ++ second).foldl step c).createScoredNodes ch now ∧
      (zs.foldl step c).createScoredNodes ch now =
        ((second ++ first).foldl step c).createScoredNodes ch now := by
  intro first second
  have ordered := merge.same (fun _ => node?_handler) (fun _ => node?_handler) apart c
  have reversed := merge.swap.same (fun _ => node?_handler) (fun _ => node?_handler) apart.symm c
  exact ⟨fun stream => ⟨mistUtilLoadSource_congr ordered ch now stream,
    mistUtilLoadSource_congr reversed ch now stream⟩,
    createScoredNodes_congr ordered ch now, createScoredNodes_congr reversed ch now⟩

theorem receiveUserEvent_handlers_commute_single :
    let e₁ : NodeUpdateEvent := ⟨"a", ⟨50, 20, 10, 0, 0, 0⟩, "s~"⟩
    let e₂ : NodeUpdateEvent := ⟨"b", ⟨30, 20, 10, 0, 0, 0⟩, "~t"⟩
    let zs : List Call := [.updateNodes 1 "a" e₁.nodeMetrics, .updateNodes 2 "b" e₂.nodeMetrics,
      .updateStreams 3 "b" "t" true, .updateStreams 4 "a" "s" false]
    let c := run "self" [.updateMembers [⟨"a", ∅⟩, ⟨"b", ∅⟩]]
    let first := List.zipWith Request.call [1, 4] (receiveUserEvent (.nodeUpdateEvent e₁)).2
    let second := List.zipWith Request.call [2, 3] (receiveUserEvent (.nodeUpdateEvent e₂)).2
    e₁.nodeID ≠ e₂.nodeID ∧ Interleave first second zs ∧
      ((∀ stream, (zs.foldl step c).mistUtilLoadSource .inOrder 5 stream =
          ((first ++ second).foldl step c).mistUtilLoadSource .inOrder 5 stream ∧
        (zs.foldl step c).mistUtilLoadSource .inOrder 5 stream =
          ((second ++ first).foldl step c).mistUtilLoadSource .inOrder 5 stream) ∧
      (zs.foldl step c).createScoredNodes .inOrder 5 =
          ((first ++ second).foldl step c).createScoredNodes .inOrder 5 ∧
        (zs.foldl step c).createScoredNodes .inOrder 5 =
          ((second ++ first).foldl step c).createScoredNodes .inOrder 5) := by
  intro e₁ e₂ zs c first second
  have apart : e₁.nodeID ≠ e₂.nodeID := by decide
  have merge : Interleave first second zs := .left (.right (.right (.left .nil)))
  exact ⟨apart, merge, receiveUserEvent_handlers_commute apart [1, 4] [2, 3] merge c .inOrder 5⟩

end DmsApi.CatalystBalancer
