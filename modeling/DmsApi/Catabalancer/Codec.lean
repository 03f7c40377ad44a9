import DmsApi.Go.Strings
import DmsApi.Go.Runtime
import Mathlib.Algebra.Order.Ring.Unbundled.Rat

/-! # Node update events and their stream codec

A node publishes a `NodeUpdateEvent`: its metrics and one string holding both of its stream
lists, the playback streams joined by `|`, then `~`, then the ingest streams joined by `|`.
Decoding cuts at the first `~` and splits each side at `|`, reading an empty side as no
streams. Encoding is inverted exactly except on the list of one empty string, which encodes
like the empty list. A stream name may carry a `prefix+` before its playback ID, which
`getPlaybackID` strips.
-/

namespace DmsApi.Catabalancer

/-- `NodeMetrics`, with the fields a modelled function reads. A float64 decoded from JSON is
finite, so it is a rational number. -/
structure NodeMetrics where
  cpuUsagePercentage : ℚ
  ramUsagePercentage : ℚ
  bandwidthUsagePercentage : ℚ
  geoLatitude : ℚ
  geoLongitude : ℚ
  timestamp : Time
deriving DecidableEq, Repr

/-- The body both balancers' `GetLoadScore` share, on the metrics a candidate embeds: 0 when
CPU, bandwidth or RAM use is above 85%, 1 when one is above 50%, and 2 otherwise. -/
def NodeMetrics.loadScore (m : NodeMetrics) : Int :=
  if m.cpuUsagePercentage > 85 ∨ m.bandwidthUsagePercentage > 85 ∨ m.ramUsagePercentage > 85 then 0
  else if m.cpuUsagePercentage > 50 ∨ m.bandwidthUsagePercentage > 50 ∨
      m.ramUsagePercentage > 50 then 1
  else 2

/-- `NodeUpdateEvent`, the record a node publishes into the stats store. -/
structure NodeUpdateEvent where
  nodeID : String
  nodeMetrics : NodeMetrics
  streams : String
deriving DecidableEq, Repr

namespace NodeUpdateEvent

def setStreams (n : NodeUpdateEvent) (streamIDs ingestStreamIDs : List String) :
    NodeUpdateEvent :=
  { n with streams := Strings.join streamIDs '|' ++ "~" ++ Strings.join ingestStreamIDs '|' }

def getStreams (n : NodeUpdateEvent) : List String :=
  let (before, _, _) := Strings.cut n.streams '~'
  if 0 < before.length then Strings.split before '|' else []

def getIngestStreams (n : NodeUpdateEvent) : List String :=
  let (_, after, _) := Strings.cut n.streams '~'
  if 0 < after.length then Strings.split after '|' else []

@[simp] theorem setStreams_nodeID (n : NodeUpdateEvent) (a b : List String) :
    (n.setStreams a b).nodeID = n.nodeID := rfl

@[simp] theorem setStreams_nodeMetrics (n : NodeUpdateEvent) (a b : List String) :
    (n.setStreams a b).nodeMetrics = n.nodeMetrics := rfl

end NodeUpdateEvent

/-- A stream ID the codec can carry: it holds neither separator. -/
def ReservedFree (x : String) : Prop := '|' ∉ x.toList ∧ '~' ∉ x.toList

instance : DecidablePred ReservedFree := fun _ => inferInstanceAs (Decidable (_ ∧ _))

open Strings in
/-- Decoding one side of the encoding: the pieces, except that one empty piece reads as none. -/
private theorem split_side {elems : List String} (absent : ∀ x ∈ elems, '|' ∉ x.toList) :
    (if 0 < (join elems '|').length then split (join elems '|') '|' else []) =
      if elems = [""] then [] else elems := by
  have empty : (join elems '|').toList = [] ↔ elems = [] ∨ elems = [""] := join_eq_empty
  by_cases nil : elems = []
  · subst nil; rfl
  by_cases blank : elems = [""]
  · subst blank; rfl
  have long : 0 < (join elems '|').length := by
    rw [String.length, List.length_pos]
    exact fun isNil => (empty.mp isNil).elim nil blank
  rw [if_pos long, if_neg blank, split_join absent nil]

open Strings in
/-- The encoding cuts back at its own `~` when no playback stream holds one. -/
theorem cut_setStreams (n : NodeUpdateEvent) {a : List String} (b : List String)
    (free : ∀ x ∈ a, '~' ∉ x.toList) :
    cut (n.setStreams a b).streams '~' = (join a '|', join b '|', true) := by
  have noTilde : '~' ∉ (join a '|').toList := fun mem => by
    rcases mem_join mem with same | ⟨x, member, inX⟩
    · exact absurd same (by decide)
    · exact free x member inX
  exact cut_append noTilde (join b '|')

theorem getStreams_of_setStreams (n : NodeUpdateEvent) {a b : List String}
    (free : ∀ x ∈ a ++ b, ReservedFree x) :
    (n.setStreams a b).getStreams = if a = [""] then [] else a := by
  simp only [NodeUpdateEvent.getStreams,
    cut_setStreams n b fun x member => (free x (List.mem_append_left b member)).2]
  exact split_side fun x member => (free x (List.mem_append_left b member)).1

theorem getIngestStreams_of_setStreams (n : NodeUpdateEvent) {a b : List String}
    (free : ∀ x ∈ a ++ b, ReservedFree x) :
    (n.setStreams a b).getIngestStreams = if b = [""] then [] else b := by
  simp only [NodeUpdateEvent.getIngestStreams,
    cut_setStreams n b fun x member => (free x (List.mem_append_left b member)).2]
  exact split_side fun x member => (free x (List.mem_append_right a member)).1

/-- The codec inverts itself on separator-free stream IDs, except that a list holding only
the empty string comes back empty. -/
theorem getStreams_setStreams (n : NodeUpdateEvent) {a b : List String}
    (free : ∀ x ∈ a ++ b, ReservedFree x) :
    (n.setStreams a b).getStreams = (if a = [""] then [] else a) ∧
      (n.setStreams a b).getIngestStreams = (if b = [""] then [] else b) :=
  ⟨getStreams_of_setStreams n free, getIngestStreams_of_setStreams n free⟩

/-- The reading of the spec's round trip fails on one stream ID, the empty one, alone in
its list. -/
theorem setStreams_blank_stream_lost :
    ¬ ∀ (n : NodeUpdateEvent) (a b : List String), (∀ x ∈ a ++ b, ReservedFree x) →
      (n.setStreams a b).getStreams = a ∧ (n.setStreams a b).getIngestStreams = b :=
  fun roundTrip =>
    absurd (roundTrip ⟨"n", ⟨0, 0, 0, 0, 0, 0⟩, ""⟩ [""] [] (by simp [ReservedFree])).1
      (by decide)

/-- The round trip on one playback and one ingest stream. -/
theorem setStreams_round_trip_single :
    (∀ x ∈ ["video+abc"] ++ ["def"], ReservedFree x) ∧
      ((NodeUpdateEvent.mk "n" ⟨0, 0, 0, 0, 0, 0⟩ "").setStreams ["video+abc"] ["def"]).getStreams =
        (if ["video+abc"] = [""] then [] else ["video+abc"]) ∧
      ((NodeUpdateEvent.mk "n" ⟨0, 0, 0, 0, 0, 0⟩ "").setStreams ["video+abc"] ["def"]).getIngestStreams =
        (if ["def"] = [""] then [] else ["def"]) :=
  have free : ∀ x ∈ ["video+abc"] ++ ["def"], ReservedFree x := by decide
  ⟨free, getStreams_setStreams _ free⟩

/-- `getPlaybackID`: the part after the `+` when the name has exactly one. -/
def getPlaybackID (streamID : String) : String :=
  match Strings.split streamID '+' with
  | [_, playbackID] => playbackID
  | _ => streamID

/-- A playback ID without a prefix is its own playback ID. -/
theorem getPlaybackID_of_not_mem {id : String} (bare : '+' ∉ id.toList) :
    getPlaybackID id = id := by
  simp [getPlaybackID, Strings.split_of_not_mem bare]

/-- A `prefix+playbackID` name yields its playback ID. -/
theorem getPlaybackID_append {pfx id : String} (bareFirst : '+' ∉ pfx.toList)
    (bare : '+' ∉ id.toList) : getPlaybackID (pfx ++ "+" ++ id) = id := by
  rw [show ("+" : String) = ⟨['+']⟩ from rfl, getPlaybackID, Strings.split_append bareFirst,
    Strings.split_of_not_mem bare]

end DmsApi.Catabalancer
