import DmsApi.Catabalancer.Balancer

/-! # The event-fed balancer

The balancer of `catalyst_balancer.go` keeps its own maps of node metrics and streams. Nodes
gossip `NodeUpdateEvent`s, which `ReceiveUserEvent` turns into one `UpdateNodes` call and one
`UpdateStreams` call per stream; `UpdateMembers` replaces the registry when the cluster's
membership changes and deletes the data of every node that left. Each call holds the
balancer's lock throughout, so a run is a sequence of whole calls, each reading the clock
once; calls from concurrent handlers interleave only between calls.
-/

namespace DmsApi.CatalystBalancer

open Catabalancer (Node NodeMetrics Member isStale NodeUpdateEvent Choices)

/-- `Stream`: a stream a node reported, stamped when the balancer received it. -/
structure Stream where
  id : String
  timestamp : Time
deriving DecidableEq, Repr

/-- `Streams`: stream ID to stream. -/
abbrev Streams := GoMap Stream

/-- `CataBalancer`, the event-fed balancer. -/
structure CataBalancer where
  nodeName : String
  nodes : GoMap Node
  streams : GoMap Streams
  ingestStreams : GoMap Streams
  nodeMetrics : GoMap NodeMetrics
  metricTimeout : Duration

/-- `UpdateEvery`: five seconds. -/
def updateEvery : Duration := 5000000000

def newBalancer (nodeName : String) : CataBalancer := ⟨nodeName, ∅, ∅, ∅, ∅, updateEvery⟩

/-- `removeOldStreams`, which deletes in place; it returns the map it leaves. -/
def removeOldStreams (now : Time) (streams : Streams) (stale : Duration) : Streams :=
  GoMap.filter (fun _ stream => !isStale now stream.timestamp stale) streams

/-- `ScoredNode`, with the fields `createScoredNodes` and the selection set. -/
structure ScoredNode where
  score : Int
  geoScore : Int
  streamScore : Int
  node : Node
  streams : Streams
  nodeMetrics : NodeMetrics

namespace CataBalancer

def updateMembers (c : CataBalancer) (members : List Member) : CataBalancer :=
  let latestNodes : GoMap Node := members.foldl (fun latestNodes member =>
    latestNodes.insert member.name ⟨member.name, member.tags.index "dtsc"⟩) ∅
  { c with
    streams := GoMap.filter (fun nodeName _ => (latestNodes.lookup nodeName).isSome) c.streams
    ingestStreams :=
      GoMap.filter (fun nodeName _ => (latestNodes.lookup nodeName).isSome) c.ingestStreams
    nodeMetrics :=
      GoMap.filter (fun nodeName _ => (latestNodes.lookup nodeName).isSome) c.nodeMetrics
    nodes := latestNodes }

def updateNodes (c : CataBalancer) (now : Time) (id : String) (nodeMetrics : NodeMetrics) :
    CataBalancer :=
  if (c.nodes.lookup id).isNone then c
  else { c with nodeMetrics := c.nodeMetrics.insert id { nodeMetrics with timestamp := now } }

def updateStreams (c : CataBalancer) (now : Time) (nodeName streamID : String)
    (isIngest : Bool) : CataBalancer :=
  if (c.nodes.lookup nodeName).isNone then c
  else
    let streams := c.streams.adjust nodeName (removeOldStreams now · c.metricTimeout)
    let ingestStreams := c.ingestStreams.adjust nodeName (removeOldStreams now · c.metricTimeout)
    if isIngest then
      { c with
        streams := streams
        ingestStreams :=
          ingestStreams.insert nodeName ((ingestStreams.index nodeName).insert streamID ⟨streamID, now⟩) }
    else
      { c with
        streams := streams.insert nodeName ((streams.index nodeName).insert streamID ⟨streamID, now⟩)
        ingestStreams := ingestStreams }

def createScoredNodes (c : CataBalancer) (ch : Choices) (now : Time) : List ScoredNode :=
  (ch.rangeNodes c.nodes.entries).filterMap fun entry =>
    match c.nodeMetrics.lookup entry.1 with
    | none => none
    | some metrics =>
      if isStale now metrics.timestamp c.metricTimeout then none
      else some ⟨0, 0, 0, entry.2, c.streams.index entry.1, metrics⟩

def mistUtilLoadSource (c : CataBalancer) (ch : Choices) (now : Time) (stream : String) :
    Except String String :=
  match (ch.rangeNodes c.nodes.entries).find? fun entry =>
      ((c.ingestStreams.index entry.2.name).lookup stream).any fun s =>
        !isStale now s.timestamp c.metricTimeout with
  | some entry => pure entry.2.dtsc
  | none => .error ("no node found for ingest stream: " ++ stream)

@[simp] theorem nodes_updateNodes (c : CataBalancer) (now : Time) (id : String)
    (nodeMetrics : NodeMetrics) : (c.updateNodes now id nodeMetrics).nodes = c.nodes := by
  unfold updateNodes; split <;> rfl

@[simp] theorem nodes_updateStreams (c : CataBalancer) (now : Time) (nodeName streamID : String)
    (isIngest : Bool) : (c.updateStreams now nodeName streamID isIngest).nodes = c.nodes := by
  unfold updateStreams; split
  · rfl
  · split <;> rfl

@[simp] theorem nodeMetrics_updateStreams (c : CataBalancer) (now : Time)
    (nodeName streamID : String) (isIngest : Bool) :
    (c.updateStreams now nodeName streamID isIngest).nodeMetrics = c.nodeMetrics := by
  unfold updateStreams; split
  · rfl
  · split <;> rfl

@[simp] theorem metricTimeout_updateMembers (c : CataBalancer) (members : List Member) :
    (c.updateMembers members).metricTimeout = c.metricTimeout := rfl

@[simp] theorem metricTimeout_updateNodes (c : CataBalancer) (now : Time) (id : String)
    (nodeMetrics : NodeMetrics) : (c.updateNodes now id nodeMetrics).metricTimeout = c.metricTimeout := by
  unfold updateNodes; split <;> rfl

@[simp] theorem metricTimeout_updateStreams (c : CataBalancer) (now : Time)
    (nodeName streamID : String) (isIngest : Bool) :
    (c.updateStreams now nodeName streamID isIngest).metricTimeout = c.metricTimeout := by
  unfold updateStreams; split
  · rfl
  · split <;> rfl

/-- `UpdateStreams` for a node missing from the registry changes nothing. -/
theorem updateStreams_unregistered {c : CataBalancer} {nodeName : String}
    (absent : ¬(c.nodes.lookup nodeName).isSome) (now : Time) (streamID : String)
    (isIngest : Bool) : c.updateStreams now nodeName streamID isIngest = c := by
  simp [updateStreams, Option.not_isSome_iff_eq_none.mp absent]

end CataBalancer

/-- One call of the balancer, with the clock reading it takes. -/
inductive Call
  | updateMembers (members : List Member)
  | updateNodes (now : Time) (id : String) (nodeMetrics : NodeMetrics)
  | updateStreams (now : Time) (nodeName streamID : String) (isIngest : Bool)

/-- The effect of one call. -/
def step (c : CataBalancer) : Call → CataBalancer
  | .updateMembers members => c.updateMembers members
  | .updateNodes now id nodeMetrics => c.updateNodes now id nodeMetrics
  | .updateStreams now nodeName streamID isIngest => c.updateStreams now nodeName streamID isIngest

/-- The balancer after a run of calls from `NewBalancer(nodeName)`. -/
def run (nodeName : String) (calls : List Call) : CataBalancer :=
  calls.foldl step (newBalancer nodeName)

end DmsApi.CatalystBalancer
