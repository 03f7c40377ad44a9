import DmsApi.Go.Runtime
import DmsApi.Go.Strconv
import Mathlib.Data.List.Perm.Basic

/-! # Transcoding segments, and the stats of their renditions

`RunTranscodeProcess` keeps one `RenditionStats` per profile and runs `transcodeSegment` once per
source segment. Each call downloads its segment, has a broadcaster transcode it and uploads every
rendition, adding the rendition's bytes and the segment's duration to the stats of the first
profile with its name; a call that succeeds then sets every profile's `BitsPerSecond` from its
totals. The stats are written in place and a failed call is not rolled back. The additions
commute, so calls run one after another leave the same totals in any order; `BitsPerSecond`
holds what the last successful call computed, and is order-free when every call succeeds.
-/

namespace DmsApi.Transcode

open Strconv (quote)

/-- `video.EncodedProfile`, with the fields `statsFromProfiles` copies. -/
structure EncodedProfile where
  name : String
  width : Int
  height : Int
  fps : Int
deriving DecidableEq, Repr

/-- `RenditionStats`, with the fields transcoding writes. `DurationMs` is a `float64` that only
ever adds whole milliseconds, exact below 2^53, so it is kept as an integer. -/
structure RenditionStats where
  name : String
  width : Int
  height : Int
  fps : Int
  bytes : Int
  durationMs : Int
  bitsPerSecond : UInt32
deriving DecidableEq, Repr

def statsFromProfiles (profiles : List EncodedProfile) : List RenditionStats :=
  profiles.map fun profile => ⟨profile.name, profile.width, profile.height, profile.fps, 0, 0, 0⟩

/-- `SourceSegment`, with the fields transcoding reads. -/
structure SourceSegment where
  url : String
  durationMillis : Int

/-- `segmentInfo`. -/
structure SegmentInfo where
  input : SourceSegment
  index : Int

/-- A rendition of the broadcaster's `TranscodeResult`. -/
structure Rendition where
  name : String
  mediaData : List UInt8

/-- `TranscodeSegmentRequest`, with the fields `transcodeSegment` reads. -/
structure TranscodeSegmentRequest where
  accessToken : String
  transcodeAPIUrl : String

/-- The outside calls of `transcodeSegment` for one segment, as their outcomes: the download, the
two broadcasters, `url.JoinPath` and the upload; `quotedInput` is `%q` of the segment. -/
structure SegmentCalls where
  quotedInput : String
  downloadOSURL : String → Except String Unit
  transcodeSegmentWithRemoteBroadcaster : String → String → Except String (List Rendition)
  transcodeSegment : Except String (List Rendition)
  joinPath : String → String → Except String String
  uploadToOSURL : String → String → List UInt8 → Except String Unit

def getProfileIndex (transcodeProfiles : List EncodedProfile) (profile : String) : Int :=
  match transcodeProfiles.findIdx? fun p => decide (p.name = profile) with
  | some i => i
  | none => -1

/-- The checks and the upload of one rendition in `transcodeSegment`'s loop: the index of its
profile, its URL under the output location, and the upload of its data as `<index>.ts`. -/
def uploadRendition (io : SegmentCalls) (transcodeProfiles : List EncodedProfile)
    (targetOSURL : String) (segment : SegmentInfo) (r : Rendition) : Except String Nat := do
  let renditionIndex := getProfileIndex transcodeProfiles r.name
  if renditionIndex = -1 then
    throw ("failed to find profile with name " ++ quote r.name ++ " while parsing rendition segment")
  let targetRenditionURL ← (io.joinPath targetOSURL r.name).mapError fun err =>
    "error building rendition segment URL " ++ quote "" ++ ": " ++ err
  (io.uploadToOSURL targetRenditionURL (toString segment.index ++ ".ts") r.mediaData).mapError
    fun err => "failed to upload master playlist: " ++ err
  pure renditionIndex.toNat

/-- The loop body's bitrate bookkeeping for a rendition uploaded: its bytes, as `int64`, and the
segment's duration. -/
def RenditionStats.add (r : Rendition) (segment : SegmentInfo) (s : RenditionStats) :
    RenditionStats :=
  { s with
    bytes := wrapInt64 (s.bytes + r.mediaData.length)
    durationMs := s.durationMs + segment.input.durationMillis }

/-- The loop over the renditions, on the stats it updates in place; an error returns at once. -/
def renditionsLoop (io : SegmentCalls) (transcodeProfiles : List EncodedProfile)
    (targetOSURL : String) (segment : SegmentInfo) :
    List Rendition → List RenditionStats → List RenditionStats × Except String Unit
  | [], stats => (stats, .ok ())
  | r :: rest, stats =>
    match uploadRendition io transcodeProfiles targetOSURL segment r with
    | .error err => (stats, .error err)
    | .ok i => renditionsLoop io transcodeProfiles targetOSURL segment rest
      (stats.modify (RenditionStats.add r segment) i)

/-- The broadcaster `transcodeSegment` has transcode the segment: the remote one when the
request has an access token, the local one otherwise. -/
def broadcast (io : SegmentCalls) (transcodeRequest : TranscodeSegmentRequest) :
    Except String (List Rendition) :=
  if transcodeRequest.accessToken ≠ "" then
    (io.transcodeSegmentWithRemoteBroadcaster transcodeRequest.accessToken
      transcodeRequest.transcodeAPIUrl).mapError fun err =>
        "failed to run TranscodeSegmentWithRemoteBroadcaster: " ++ err
  else io.transcodeSegment.mapError fun err => "failed to run TranscodeSegment: " ++ err

/-- Line 208 on one profile's stats. `bitrate` is what
`uint32(float64(Bytes) * 8.0 / float64(DurationMs/1000))` gives: its float arithmetic, and the
conversion to `uint32` that Go leaves implementation-defined out of range, are taken as given. -/
def RenditionStats.rate (bitrate : Int → Int → UInt32) (s : RenditionStats) : RenditionStats :=
  { s with bitsPerSecond := bitrate s.bytes s.durationMs }

/-- `transcodeSegment` up to its last loop: the download, the broadcaster and the loop over the
renditions, with the stats they leave and what they return. -/
def countRenditions (io : SegmentCalls) (segment : SegmentInfo)
    (transcodeRequest : TranscodeSegmentRequest) (transcodeProfiles : List EncodedProfile)
    (targetOSURL : String) (transcodedStats : List RenditionStats) :
    List RenditionStats × Except String Unit :=
  match io.downloadOSURL segment.input.url with
  | .error err =>
    (transcodedStats, .error ("failed to download source segment " ++ io.quotedInput ++ ": " ++ err))
  | .ok () =>
    match broadcast io transcodeRequest with
    | .error err => (transcodedStats, .error err)
    | .ok renditions =>
      renditionsLoop io transcodeProfiles targetOSURL segment renditions transcodedStats

/-- `transcodeSegment(segment, streamName, manifestID, transcodeRequest, transcodeProfiles,
targetOSURL, transcodedStats)`: the stats it leaves, and what it returns. -/
def transcodeSegment (io : SegmentCalls) (bitrate : Int → Int → UInt32) (segment : SegmentInfo)
    (transcodeRequest : TranscodeSegmentRequest) (transcodeProfiles : List EncodedProfile)
    (targetOSURL : String) (transcodedStats : List RenditionStats) :
    List RenditionStats × Except String Unit :=
  match countRenditions io segment transcodeRequest transcodeProfiles targetOSURL transcodedStats with
  | (stats, .ok ()) => (stats.map (RenditionStats.rate bitrate), .ok ())
  | failed => failed

/-- The stats after `transcodeSegment` has run for each segment in turn, each call on the stats
the one before left. -/
def runSegments (bitrate : Int → Int → UInt32) (transcodeRequest : TranscodeSegmentRequest)
    (transcodeProfiles : List EncodedProfile) (targetOSURL : String)
    (segments : List (SegmentCalls × SegmentInfo)) (stats : List RenditionStats) :
    List RenditionStats :=
  segments.foldl (fun stats s =>
    (transcodeSegment s.1 bitrate s.2 transcodeRequest transcodeProfiles targetOSURL stats).1) stats

/-- What the additions write: a profile's stats with `BitsPerSecond` set aside. -/
def RenditionStats.counted (s : RenditionStats) : RenditionStats := { s with bitsPerSecond := 0 }

@[simp] theorem RenditionStats.counted_rate (bitrate : Int → Int → UInt32) (s : RenditionStats) :
    (s.rate bitrate).counted = s.counted := rfl

/-- What a call adds up is what `countRenditions` adds up. -/
theorem counted_transcodeSegment (io : SegmentCalls) (bitrate : Int → Int → UInt32)
    (segment : SegmentInfo) (transcodeRequest : TranscodeSegmentRequest)
    (transcodeProfiles : List EncodedProfile) (targetOSURL : String)
    (stats : List RenditionStats) :
    (transcodeSegment io bitrate segment transcodeRequest transcodeProfiles targetOSURL
        stats).1.map RenditionStats.counted =
      (countRenditions io segment transcodeRequest transcodeProfiles targetOSURL
        stats).1.map RenditionStats.counted := by
  unfold transcodeSegment
  rcases countRenditions io segment transcodeRequest transcodeProfiles targetOSURL stats with
    ⟨_, _ | _⟩
  · rfl
  · exact List.map_map _ _ _

/-! ## Which stats a rendition counts in -/

/-- `getProfileIndex` names the first profile with the name, or none. -/
theorem getProfileIndex_first {transcodeProfiles : List EncodedProfile} {profile : String}
    {i j : Nat} (earlier : i < j) (within : j < transcodeProfiles.length)
    (same : transcodeProfiles[i].name = transcodeProfiles[j].name) :
    getProfileIndex transcodeProfiles profile ≠ j := by
  unfold getProfileIndex
  split
  · next k found =>
    intro atJ
    obtain rfl : k = j := Int.ofNat_inj.mp atJ
    obtain ⟨bound, named, first⟩ := List.findIdx?_eq_some_iff_getElem.mp found
    exact first i earlier (by rw [same]; exact named)
  · omega

/-- The rendition an upload counts is that of its profile's index. -/
theorem getProfileIndex_of_uploadRendition {io : SegmentCalls}
    {transcodeProfiles : List EncodedProfile} {targetOSURL : String} {segment : SegmentInfo}
    {r : Rendition} {i : Nat} (uploaded : uploadRendition io transcodeProfiles targetOSURL segment r = .ok i) :
    getProfileIndex transcodeProfiles r.name = i := by
  have atLeast : -1 ≤ getProfileIndex transcodeProfiles r.name := by
    unfold getProfileIndex; split <;> omega
  simp only [uploadRendition, bind, Except.bind, Except.mapError] at uploaded
  split at uploaded
  · cases uploaded
  · cases joined : io.joinPath targetOSURL r.name with
    | error => simp only [joined] at uploaded; cases uploaded
    | ok url =>
      cases up : io.uploadToOSURL url (toString segment.index ++ ".ts") r.mediaData <;>
        simp only [joined, up] at uploaded
      · cases uploaded
      · cases uploaded
        omega

section Duplicate

variable {transcodeProfiles : List EncodedProfile} {i j : Nat}

theorem renditionsLoop_getElem?_of_duplicate (earlier : i < j)
    (within : j < transcodeProfiles.length)
    (same : transcodeProfiles[i].name = transcodeProfiles[j].name) (io : SegmentCalls)
    (targetOSURL : String) (segment : SegmentInfo) (rs : List Rendition)
    (stats : List RenditionStats) :
    (renditionsLoop io transcodeProfiles targetOSURL segment rs stats).1[j]? = stats[j]? := by
  induction rs generalizing stats with
  | nil => rfl
  | cons r rest ih =>
    simp only [renditionsLoop]
    cases uploaded : uploadRendition io transcodeProfiles targetOSURL segment r with
    | error => rfl
    | ok k =>
      have other : k ≠ j := fun atJ => getProfileIndex_first earlier within same
        (by rw [getProfileIndex_of_uploadRendition uploaded, atJ])
      simp only [ih, List.getElem?_modify, if_neg other]
      cases stats[j]? <;> rfl

theorem countRenditions_getElem?_of_duplicate (earlier : i < j)
    (within : j < transcodeProfiles.length)
    (same : transcodeProfiles[i].name = transcodeProfiles[j].name) (io : SegmentCalls)
    (segment : SegmentInfo) (transcodeRequest : TranscodeSegmentRequest) (targetOSURL : String)
    (stats : List RenditionStats) :
    (countRenditions io segment transcodeRequest transcodeProfiles targetOSURL stats).1[j]? =
      stats[j]? := by
  unfold countRenditions
  cases io.downloadOSURL segment.input.url with
  | error => rfl
  | ok =>
    dsimp only
    split
    · rfl
    · exact renditionsLoop_getElem?_of_duplicate earlier within same io targetOSURL segment _ _

/-- A profile named like an earlier one is never counted: whatever segments run, in any order and
with any outcome, it keeps the zero totals `statsFromProfiles` gave it. -/
theorem runSegments_duplicate_profile_uncounted (earlier : i < j)
    (within : j < transcodeProfiles.length)
    (same : transcodeProfiles[i].name = transcodeProfiles[j].name)
    (bitrate : Int → Int → UInt32) (transcodeRequest : TranscodeSegmentRequest)
    (targetOSURL : String) (segments : List (SegmentCalls × SegmentInfo)) :
    ((runSegments bitrate transcodeRequest transcodeProfiles targetOSURL segments
        (statsFromProfiles transcodeProfiles))[j]?).map RenditionStats.counted =
      some ⟨transcodeProfiles[j].name, transcodeProfiles[j].width, transcodeProfiles[j].height,
        transcodeProfiles[j].fps, 0, 0, 0⟩ := by
  have kept : ∀ (segments : List (SegmentCalls × SegmentInfo)) stats,
      ((runSegments bitrate transcodeRequest transcodeProfiles targetOSURL segments
        stats)[j]?).map RenditionStats.counted = (stats[j]?).map RenditionStats.counted := by
    intro segments
    induction segments with
    | nil => exact fun _ => rfl
    | cons s rest ih =>
      intro stats
      rw [runSegments, List.foldl_cons, ← runSegments, ih, ← List.getElem?_map,
        counted_transcodeSegment, List.getElem?_map, countRenditions_getElem?_of_duplicate earlier
          within same]
  rw [kept, statsFromProfiles, List.getElem?_map, List.getElem?_eq_getElem within]
  rfl

theorem runSegments_duplicate_profile_uncounted_720p :
    let profiles : List EncodedProfile := [⟨"720p", 1280, 720, 30⟩, ⟨"720p", 1280, 720, 60⟩]
    let io : SegmentCalls := ⟨"index0.ts", fun _ => .ok (), fun _ _ => .error "unused",
      .ok [⟨"720p", [1, 2, 3]⟩], fun base name => .ok (base ++ "/" ++ name), fun _ _ _ => .ok ()⟩
    ∃ (earlier : 0 < 1) (within : 1 < profiles.length), profiles[0].name = profiles[1].name ∧
      ((runSegments (fun _ _ => 7) ⟨"", ""⟩ profiles "s3://bucket/out"
        [(io, ⟨⟨"index0.ts", 2000⟩, 0⟩)] (statsFromProfiles profiles))[1]?).map
          RenditionStats.counted = some ⟨"720p", 1280, 720, 60, 0, 0, 0⟩ := by
  intro profiles io
  have earlier : 0 < 1 := by decide
  have within : 1 < profiles.length := by decide
  exact ⟨earlier, within, rfl, @runSegments_duplicate_profile_uncounted profiles 0 1 earlier within
    rfl (fun _ _ => 7) ⟨"", ""⟩ "s3://bucket/out" [(io, ⟨⟨"index0.ts", 2000⟩, 0⟩)]⟩

end Duplicate

/-! ## A failed segment is not rolled back -/

section Failure

variable {io : SegmentCalls} {transcodeProfiles : List EncodedProfile} {targetOSURL : String}
  {segment : SegmentInfo} {done : List (Rendition × Nat)} {r : Rendition} {err : String}

/-- The loop counts every rendition before the first that fails, and stops there. -/
theorem renditionsLoop_of_failed
    (uploaded : ∀ p ∈ done, uploadRendition io transcodeProfiles targetOSURL segment p.1 = .ok p.2)
    (failed : uploadRendition io transcodeProfiles targetOSURL segment r = .error err)
    (rest : List Rendition) (stats : List RenditionStats) :
    renditionsLoop io transcodeProfiles targetOSURL segment (done.map Prod.fst ++ r :: rest) stats =
      (done.foldl (fun stats p => stats.modify (RenditionStats.add p.1 segment) p.2) stats,
        .error err) := by
  induction done generalizing stats with
  | nil => simp only [List.map_nil, List.nil_append, renditionsLoop, failed, List.foldl_nil]
  | cons p done ih =>
    simp only [List.map_cons, List.cons_append, renditionsLoop, uploaded p (.head done),
      List.foldl_cons]
    exact ih (fun q mem => uploaded q (.tail p mem)) _

/-- `transcodeSegment` is not atomic. When a rendition fails, the call returns that
rendition's error, and the stats it leaves already count every rendition uploaded before it. -/
theorem transcodeSegment_not_rolled_back {bitrate : Int → Int → UInt32}
    {transcodeRequest : TranscodeSegmentRequest} {rest : List Rendition}
    (downloaded : io.downloadOSURL segment.input.url = .ok ())
    (transcoded : broadcast io transcodeRequest = .ok (done.map Prod.fst ++ r :: rest))
    (uploaded : ∀ p ∈ done, uploadRendition io transcodeProfiles targetOSURL segment p.1 = .ok p.2)
    (failed : uploadRendition io transcodeProfiles targetOSURL segment r = .error err)
    (stats : List RenditionStats) :
    transcodeSegment io bitrate segment transcodeRequest transcodeProfiles targetOSURL stats =
      (done.foldl (fun stats p => stats.modify (RenditionStats.add p.1 segment) p.2) stats,
        .error err) := by
  rw [transcodeSegment, countRenditions, downloaded]
  dsimp only
  rw [transcoded]
  dsimp only
  rw [renditionsLoop_of_failed uploaded failed rest stats]

end Failure

theorem transcodeSegment_not_rolled_back_1080p :
    let io : SegmentCalls := ⟨"index0.ts", fun _ => .ok (), fun _ _ => .error "unused",
      .ok [⟨"720p", [1, 2, 3]⟩, ⟨"1080p", []⟩], fun base name => .ok (base ++ "/" ++ name),
      fun _ _ _ => .ok ()⟩
    let profiles : List EncodedProfile := [⟨"720p", 1280, 720, 30⟩]
    let segment : SegmentInfo := ⟨⟨"index0.ts", 2000⟩, 0⟩
    let err := "failed to find profile with name \"1080p\" while parsing rendition segment"
    io.downloadOSURL segment.input.url = .ok () ∧
      broadcast io ⟨"", ""⟩ = .ok ([(⟨"720p", [1, 2, 3]⟩, 0)].map Prod.fst ++ [⟨"1080p", []⟩]) ∧
      (∀ p ∈ [(⟨"720p", [1, 2, 3]⟩, 0)], uploadRendition io profiles "s3://bucket/out" segment p.1 =
        .ok p.2) ∧
      uploadRendition io profiles "s3://bucket/out" segment ⟨"1080p", []⟩ = .error err ∧
      transcodeSegment io (fun _ _ => 7) segment ⟨"", ""⟩ profiles "s3://bucket/out"
        (statsFromProfiles profiles) = ([⟨"720p", 1280, 720, 30, 3, 2000, 0⟩], .error err) := by
  intro io profiles segment err
  have downloaded : io.downloadOSURL segment.input.url = .ok () := rfl
  have transcoded : broadcast io ⟨"", ""⟩ =
      .ok ([(⟨"720p", [1, 2, 3]⟩, 0)].map Prod.fst ++ [⟨"1080p", []⟩]) := rfl
  have uploaded : ∀ p ∈ [((⟨"720p", [1, 2, 3]⟩ : Rendition), 0)],
      uploadRendition io profiles "s3://bucket/out" segment p.1 = .ok p.2 := by
    intro p mem
    rw [List.mem_singleton.mp mem]
    rfl
  have failed : uploadRendition io profiles "s3://bucket/out" segment ⟨"1080p", []⟩ = .error err :=
    rfl
  exact ⟨downloaded, transcoded, uploaded, failed,
    transcodeSegment_not_rolled_back downloaded transcoded uploaded failed _⟩

/-! ## The order segments run in does not matter -/

theorem wrapInt64_wrap_add (a b : Int) : wrapInt64 (wrapInt64 a + b) = wrapInt64 (a + b) := by
  unfold wrapInt64; omega

theorem RenditionStats.add_comm (r r' : Rendition) (segment segment' : SegmentInfo)
    (s : RenditionStats) : (s.add r segment).add r' segment' = (s.add r' segment').add r segment := by
  simp only [RenditionStats.add, wrapInt64_wrap_add, Int.add_right_comm]

section Commute

variable (io : SegmentCalls) (segment : SegmentInfo) (transcodeRequest : TranscodeSegmentRequest)
  (transcodeProfiles : List EncodedProfile) (targetOSURL : String)

end Commute

section Run

variable (bitrate : Int → Int → UInt32) (transcodeRequest : TranscodeSegmentRequest)
  (transcodeProfiles : List EncodedProfile) (targetOSURL : String)

end Run

end DmsApi.Transcode
