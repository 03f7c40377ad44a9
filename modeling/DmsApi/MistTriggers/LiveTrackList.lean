import DmsApi.Go.Runtime
import DmsApi.Go.Strings
import Mathlib.Data.List.Sort
import Mathlib.Data.String.Basic

/-! # The master playlist of a transcode

`TriggerLiveTrackList` reads a stream name and a JSON track map from the two lines of the
trigger's body, starts a push for every video track Mist reports, keeps the tracks whose push
started, sorts them by `ByBitrate` in reverse and writes one `#EXT-X-STREAM-INF` entry per
track. The track fields are `int32`, and so is the arithmetic on them: the bandwidth
`ByteRate*8` and the area `Width*Height` that breaks ties between equal byte rates both wrap
around past `2^31 - 1`. A body of one line makes the handler index out of range. Once the
upload directory parses, joining a track's path to it and parsing the result are taken to
succeed.
-/

namespace DmsApi.MistTriggers

/-- `MistTrack`, with the fields the trigger reads and the path it sets. -/
structure MistTrack where
  byteRate : BitVec 32
  height : BitVec 32
  width : BitVec 32
  index : BitVec 32
  type : String
  manifestDestPath : String
deriving DecidableEq, Repr

/-- `ByBitrate.Less`: by byte rate, and between equal byte rates by area, compared as `int32`
values. -/
def ByBitrate.less (a b : MistTrack) : Bool :=
  if a.byteRate = b.byteRate then (a.width * a.height).slt (b.width * b.height)
  else a.byteRate.slt b.byteRate

/-- `ByBitrate.Less` on the mathematical values: by byte rate, then by area. -/
theorem ByBitrate.less_iff (a b : MistTrack) :
    ByBitrate.less a b = true ↔ a.byteRate.toInt < b.byteRate.toInt ∨
      (a.byteRate.toInt = b.byteRate.toInt ∧
        (a.width * a.height).toInt < (b.width * b.height).toInt) := by
  unfold ByBitrate.less
  by_cases same : a.byteRate = b.byteRate
  · simp [same, BitVec.slt]
  · have apart : a.byteRate.toInt ≠ b.byteRate.toInt := BitVec.toInt_ne.mpr same
    simp [same, BitVec.slt, apart]

/-- Not being `Less` is a total preorder, so a list sorted in reverse is sorted pairwise. -/
theorem ByBitrate.not_less_trans {a b c : MistTrack} (ab : ByBitrate.less a b = false)
    (bc : ByBitrate.less b c = false) : ByBitrate.less a c = false := by
  rw [← Bool.not_eq_true] at ab bc ⊢
  rw [ByBitrate.less_iff] at ab bc ⊢
  omega

theorem ByBitrate.not_less_total (a b : MistTrack) :
    ByBitrate.less a b = false ∨ ByBitrate.less b a = false := by
  by_contra both
  simp only [not_or, Bool.not_eq_false, ByBitrate.less_iff] at both
  omega

/-- What the runtime leaves open: the order a `range` visits the track map in, and the order the
reverse `ByBitrate` sort leaves equals in; the sort leaves no track `Less` than a later one. -/
structure TrackChoices where
  rangeTracks : List (Σ _ : String, MistTrack) → List (Σ _ : String, MistTrack)
  rangeTracks_perm : ∀ l, (rangeTracks l).Perm l
  sortReverse : List MistTrack → List MistTrack
  sortReverse_perm : ∀ l, (sortReverse l).Perm l
  sortReverse_sorted : ∀ l, (sortReverse l).Pairwise fun a b => ByBitrate.less a b = false

/-- The choices that keep the map's order and sort stably: one of the outcomes the runtime
allows. -/
def TrackChoices.inOrder : TrackChoices where
  rangeTracks := id
  rangeTracks_perm := List.Perm.refl
  sortReverse l := l.mergeSort fun a b => !ByBitrate.less a b
  sortReverse_perm l := List.mergeSort_perm l _
  sortReverse_sorted l :=
    (List.sorted_mergeSort
      (fun _ _ _ ab bc => by
        simp only [Bool.not_eq_true', Bool.eq_false_iff] at *
        simpa using ByBitrate.not_less_trans (Bool.eq_false_iff.mpr ab) (Bool.eq_false_iff.mpr bc))
      (fun a b => by
        rcases ByBitrate.not_less_total a b with ab | ba
        · simp [ab]
        · simp [ba]) l).imp
      (by simp)

/-- `fmt.Sprintf("%s_%dx%d/stream.m3u8", streamName, width, height)`. -/
def dirPath (streamName : String) (track : MistTrack) : String :=
  streamName ++ "_" ++ toString track.width.toInt ++ "x" ++ toString track.height.toInt ++
    "/stream.m3u8"

/-- The entry `createPlaylist` writes for one track. -/
def streamInf (track : MistTrack) : String :=
  "#EXT-X-STREAM-INF:BANDWIDTH=" ++ toString (track.byteRate * 8).toInt ++ ",RESOLUTION=" ++
    toString track.width.toInt ++ "x" ++ toString track.height.toInt ++ "\r\n" ++
    track.manifestDestPath ++ "\r\n"

def createPlaylist (multivariantPlaylist : String) (tracks : List MistTrack) : String :=
  tracks.foldl (fun playlist track => playlist ++ streamInf track) multivariantPlaylist

/-- The loop body of the trigger on one entry of the track map: a video track whose push started
joins the list, with its manifest path. `pushStart` tells, entry by entry, whether `PushStart`
to the destination built from the track succeeded. -/
def keepPushed (pushStart : (Σ _ : String, MistTrack) → Bool) (streamName : String)
    (trackList : List MistTrack) (entry : Σ _ : String, MistTrack) : List MistTrack :=
  if entry.2.type ≠ "video" then trackList
  else if pushStart entry then
    trackList ++ [{ entry.2 with manifestDestPath := dirPath streamName entry.2 }]
  else trackList

/-- `TriggerLiveTrackList` from the decoded track map on, with the manifest it uploads as its
result. -/
def triggerLiveTrackList (ch : TrackChoices) (pushStart : (Σ _ : String, MistTrack) → Bool)
    (streamName : String) (tracks : GoMap MistTrack) : String :=
  let trackList := (ch.rangeTracks tracks.entries).foldl (keepPushed pushStart streamName) []
  createPlaylist "#EXTM3U\r\n" (ch.sortReverse trackList)

/-- What the trigger takes from outside its body: `config.IsTranscodeStream`, the two prefixes,
the cached upload directory, the track decoding, `url.Parse` of an upload directory and the
outcome of the push for each entry of the track map. -/
structure TriggerEnv where
  isTranscodeStream : String → Bool
  renditionPrefix : String
  sourcePrefix : String
  uploadDir : String → Option String
  decodeTracks : String → Option (GoMap MistTrack)
  rootPathUrl : String → Option String
  pushStart : (Σ _ : String, MistTrack) → Bool

/-- How a trigger request ends. -/
inductive TriggerResponse
  /-- `errors.WriteHTTPBadRequest`, with its message. -/
  | badRequest (message : String)
  /-- `errors.WriteHTTPInternalServerError`, with its message. -/
  | internalServerError (message : String)
  /-- The renditions ended: the source stream deleted, and no playlist. -/
  | deleteStream (inputStream : String)
  /-- The master playlist, and the path it is uploaded to. -/
  | uploadPlaylist (uploadPath manifest : String)
  /-- `log.Fatal`: the process exits. -/
  | fatal
  /-- A run-time panic: an index out of range. -/
  | panic
deriving DecidableEq, Repr

/-- `TriggerLiveTrackList` once the stream name and the encoded tracks are read. -/
def respondLiveTrackList (ch : TrackChoices) (env : TriggerEnv) (streamName encodedTracks : String) :
    TriggerResponse :=
  if !env.isTranscodeStream streamName then
    .badRequest ("PUSH_END trigger invoked for something that isn't a transcode stream: " ++
      streamName)
  else match env.uploadDir streamName with
  | none => .internalServerError ("LIVE_TRACK_LIST unknown push source: " ++ streamName)
  | some uploadDir =>
    if encodedTracks = "null" then
      .deleteStream (env.sourcePrefix ++ Strings.trimPrefix streamName env.renditionPrefix)
    else match env.decodeTracks encodedTracks with
    | none => .internalServerError ("LiveTrackListTriggerJson json decode error: " ++ streamName)
    | some tracks =>
      match env.rootPathUrl uploadDir with
      | none => .fatal
      | some rootPath =>
        .uploadPlaylist (rootPath ++ "/" ++ streamName ++ "-master.m3u8")
          (triggerLiveTrackList ch env.pushStart streamName tracks)

/-- `TriggerLiveTrackList` on the trigger's body. -/
def handleLiveTrackList (ch : TrackChoices) (env : TriggerEnv) (payload : String) :
    TriggerResponse :=
  match Strings.split (Strings.trimSuffix payload "\n") '\n' with
  | streamName :: encodedTracks :: _ => respondLiveTrackList ch env streamName encodedTracks
  | _ => .panic

/-! ## The entries of the playlist -/

/-- A video track whose push started, with the manifest path the loop gives it. -/
def pushedTrack (pushStart : (Σ _ : String, MistTrack) → Bool) (streamName : String)
    (entry : Σ _ : String, MistTrack) : Option MistTrack :=
  if entry.2.type = "video" ∧ pushStart entry then
    some { entry.2 with manifestDestPath := dirPath streamName entry.2 }
  else none

theorem createPlaylist_eq (header : String) (tracks : List MistTrack) :
    createPlaylist header tracks = header ++ String.join (tracks.map streamInf) := by
  induction tracks generalizing header with
  | nil => simp [createPlaylist, String.join_eq, String.ext_iff]
  | cons track rest ih =>
    simp only [createPlaylist, List.foldl_cons] at ih ⊢
    rw [ih]
    simp [String.join_eq, String.ext_iff]

/-- The sort on two tracks, as `List.mergeSort` computes it. -/
theorem mergeSort_pair (le : MistTrack → MistTrack → Bool) (a b : MistTrack) :
    [a, b].mergeSort le = if le a b then [a, b] else [b, a] := by
  rw [List.mergeSort]
  simp only [List.splitInTwo_fst, List.splitInTwo_snd, List.length_cons, List.length_nil,
    List.take, List.drop, List.mergeSort_singleton, List.cons_merge_cons, List.nil_merge,
    List.merge_right]

/-- The loop keeps the pushed video tracks, in the order it visits them. -/
theorem foldl_keepPushed (pushStart : (Σ _ : String, MistTrack) → Bool) (streamName : String)
    (entries : List (Σ _ : String, MistTrack)) (trackList : List MistTrack) :
    entries.foldl (keepPushed pushStart streamName) trackList =
      trackList ++ entries.filterMap (pushedTrack pushStart streamName) := by
  induction entries generalizing trackList with
  | nil => simp
  | cons entry rest ih =>
    rw [List.foldl_cons, ih, List.filterMap_cons]
    unfold keepPushed pushedTrack
    by_cases video : entry.2.type = "video" <;> by_cases pushed : pushStart entry <;>
      simp [video, pushed]

/-- Whatever the order of the map, the outcomes of the pushes and the order the sort leaves
among equals, the manifest has one entry per video track whose push started, with its
manifest path, and no entry is `Less` than one after it. -/
theorem triggerLiveTrackList_entries (ch : TrackChoices)
    (pushStart : (Σ _ : String, MistTrack) → Bool) (streamName : String)
    (tracks : GoMap MistTrack) :
    ∃ sorted : List MistTrack,
      triggerLiveTrackList ch pushStart streamName tracks =
        "#EXTM3U\r\n" ++ String.join (sorted.map streamInf) ∧
      sorted.Perm (tracks.entries.filterMap (pushedTrack pushStart streamName)) ∧
      sorted.Pairwise fun a b => ByBitrate.less a b = false := by
  refine ⟨_, createPlaylist_eq _ _, ?_, ch.sortReverse_sorted _⟩
  rw [foldl_keepPushed, List.nil_append]
  exact (ch.sortReverse_perm _).trans ((ch.rangeTracks_perm _).filterMap _)

/-! ## Overflow -/

/-- An `int32` product is the mathematical one exactly when that fits in an `int32`. -/
theorem toInt_mul_eq_iff (x y : BitVec 32) :
    (x * y).toInt = x.toInt * y.toInt ↔
      -2147483648 ≤ x.toInt * y.toInt ∧ x.toInt * y.toInt < 2147483648 := by
  rw [BitVec.toInt_mul, Int.bmod_def]
  generalize x.toInt * y.toInt = p
  split <;> omega

/-- The bandwidth written is eight times the byte rate exactly when that fits in an
`int32`, that is for byte rates in `[-2^28, 2^28)`. -/
theorem bandwidth_eq_iff (track : MistTrack) :
    (track.byteRate * 8).toInt = track.byteRate.toInt * 8 ↔
      -268435456 ≤ track.byteRate.toInt ∧ track.byteRate.toInt < 268435456 := by
  have wraps := toInt_mul_eq_iff track.byteRate 8
  rw [show (8 : BitVec 32).toInt = 8 from rfl] at wraps
  rw [wraps]
  exact ⟨fun _ => by omega, fun _ => by omega⟩

/-- The `int32` arithmetic the trigger does on a track is exact: eight times its byte rate
and its area both fit in an `int32`. -/
def Int32Exact (track : MistTrack) : Prop :=
  (-268435456 ≤ track.byteRate.toInt ∧ track.byteRate.toInt < 268435456) ∧
    -2147483648 ≤ track.width.toInt * track.height.toInt ∧
    track.width.toInt * track.height.toInt < 2147483648

instance : DecidablePred Int32Exact := fun _ => inferInstanceAs (Decidable (_ ∧ _))

/-- Where the arithmetic on every video track is exact, the manifest is the one the
transcode describes: one entry per video track whose push started, with a bandwidth of
eight times its byte rate, ordered by byte rate and then by area, both non-increasing. -/
theorem triggerLiveTrackList_exact (ch : TrackChoices)
    (pushStart : (Σ _ : String, MistTrack) → Bool) (streamName : String)
    (tracks : GoMap MistTrack) (fits : ∀ e ∈ tracks.entries, e.2.type = "video" → Int32Exact e.2) :
    ∃ sorted : List MistTrack,
      triggerLiveTrackList ch pushStart streamName tracks =
        "#EXTM3U\r\n" ++ String.join (sorted.map streamInf) ∧
      sorted.Perm (tracks.entries.filterMap (pushedTrack pushStart streamName)) ∧
      (∀ t ∈ sorted, (t.byteRate * 8).toInt = t.byteRate.toInt * 8) ∧
      sorted.Pairwise fun a b => b.byteRate.toInt < a.byteRate.toInt ∨
        (b.byteRate.toInt = a.byteRate.toInt ∧
          b.width.toInt * b.height.toInt ≤ a.width.toInt * a.height.toInt) := by
  obtain ⟨sorted, written, perm, ordered⟩ :=
    triggerLiveTrackList_entries ch pushStart streamName tracks
  have exact : ∀ t ∈ sorted, (t.byteRate * 8).toInt = t.byteRate.toInt * 8 ∧
      (t.width * t.height).toInt = t.width.toInt * t.height.toInt := by
    intro t mem
    obtain ⟨e, entry, pushed⟩ := List.mem_filterMap.mp (perm.subset mem)
    unfold pushedTrack at pushed
    split at pushed
    · next video =>
      obtain rfl := Option.some.inj pushed
      obtain ⟨rate, area⟩ := fits e entry video.1
      exact ⟨(bandwidth_eq_iff _).mpr rate, (toInt_mul_eq_iff _ _).mpr area⟩
    · cases pushed
  refine ⟨sorted, written, perm, fun t mem => (exact t mem).1, ordered.imp_of_mem ?_⟩
  intro a b memA memB notLess
  rw [← Bool.not_eq_true, ByBitrate.less_iff, (exact a memA).2, (exact b memB).2] at notLess
  omega

theorem triggerLiveTrackList_exact_two_tracks :
    let tracks := (((∅ : GoMap MistTrack).insert "video_0" ⟨1000, 720, 1280, 0, "video", ""⟩).insert
      "video_1" ⟨500, 360, 640, 1, "video", ""⟩).insert "video_2" ⟨250, 180, 320, 2, "video", ""⟩
    let pushStart : (Σ _ : String, MistTrack) → Bool := fun e => e.1 ≠ "video_2"
    (∀ e ∈ tracks.entries, e.2.type = "video" → Int32Exact e.2) ∧
    triggerLiveTrackList TrackChoices.inOrder pushStart "s" tracks =
      "#EXTM3U\r\n#EXT-X-STREAM-INF:BANDWIDTH=8000,RESOLUTION=1280x720\r\n" ++
        "s_1280x720/stream.m3u8\r\n#EXT-X-STREAM-INF:BANDWIDTH=4000,RESOLUTION=640x360\r\n" ++
        "s_640x360/stream.m3u8\r\n" ∧
    ∃ sorted : List MistTrack,
      triggerLiveTrackList TrackChoices.inOrder pushStart "s" tracks =
        "#EXTM3U\r\n" ++ String.join (sorted.map streamInf) ∧
      sorted.Perm (tracks.entries.filterMap (pushedTrack pushStart "s")) ∧
      (∀ t ∈ sorted, (t.byteRate * 8).toInt = t.byteRate.toInt * 8) ∧
      sorted.Pairwise fun a b => b.byteRate.toInt < a.byteRate.toInt ∨
        (b.byteRate.toInt = a.byteRate.toInt ∧
          b.width.toInt * b.height.toInt ≤ a.width.toInt * a.height.toInt) := by
  intro tracks pushStart
  have fits : ∀ e ∈ tracks.entries, e.2.type = "video" → Int32Exact e.2 := by decide
  have pushed : [] ++ tracks.entries.filterMap (pushedTrack pushStart "s") =
      [⟨500, 360, 640, 1, "video", "s_640x360/stream.m3u8"⟩,
        ⟨1000, 720, 1280, 0, "video", "s_1280x720/stream.m3u8"⟩] := by decide
  refine ⟨fits, ?_, triggerLiveTrackList_exact _ _ _ _ fits⟩
  simp only [triggerLiveTrackList, TrackChoices.inOrder, id, foldl_keepPushed]
  rw [pushed, mergeSort_pair]
  decide

/-- A byte rate of `2^28` is written as a negative bandwidth, and an area of `2^31` sorts
below an area of `2`. -/
theorem triggerLiveTrackList_wraps_int32 :
    triggerLiveTrackList TrackChoices.inOrder (fun _ => true) "s"
        ((∅ : GoMap MistTrack).insert "video_0" ⟨268435456, 1, 1, 0, "video", ""⟩) =
      "#EXTM3U\r\n#EXT-X-STREAM-INF:BANDWIDTH=-2147483648,RESOLUTION=1x1\r\n" ++
        "s_1x1/stream.m3u8\r\n" ∧
    triggerLiveTrackList TrackChoices.inOrder (fun _ => true) "s"
        (((∅ : GoMap MistTrack).insert "video_0" ⟨1, 32768, 65536, 0, "video", ""⟩).insert
          "video_1" ⟨1, 1, 2, 1, "video", ""⟩) =
      "#EXTM3U\r\n#EXT-X-STREAM-INF:BANDWIDTH=8,RESOLUTION=2x1\r\ns_2x1/stream.m3u8\r\n" ++
        "#EXT-X-STREAM-INF:BANDWIDTH=8,RESOLUTION=65536x32768\r\n" ++
        "s_65536x32768/stream.m3u8\r\n" := by
  simp only [triggerLiveTrackList, TrackChoices.inOrder, id, foldl_keepPushed]
  simp [pushedTrack, dirPath]
  rw [List.mergeSort_of_sorted] <;> decide

/-! ## The request -/

/-- A body with no line break, once one trailing line break is trimmed, has no second line
to read. -/
theorem handleLiveTrackList_one_line (ch : TrackChoices) (env : TriggerEnv) (payload : String)
    (single : '\n' ∉ (Strings.trimSuffix payload "\n").toList) :
    handleLiveTrackList ch env payload = .panic := by
  rw [handleLiveTrackList, Strings.split_of_not_mem single]

theorem handleLiveTrackList_one_line_single :
    '\n' ∉ (Strings.trimSuffix "s\n" "\n").toList ∧
      handleLiveTrackList TrackChoices.inOrder
        ⟨fun _ => true, "", "", fun _ => none, fun _ => none, fun _ => none, fun _ => true⟩
        "s\n" = .panic :=
  have single : '\n' ∉ (Strings.trimSuffix "s\n" "\n").toList := by decide
  ⟨single, handleLiveTrackList_one_line _ _ _ single⟩

/-- A body of two lines, as Mist and the trigger workaround send it, is answered from its
stream name and its encoded tracks. -/
theorem handleLiveTrackList_two_lines (ch : TrackChoices) (env : TriggerEnv)
    {streamName encodedTracks : String} (name : '\n' ∉ streamName.toList)
    (tracksLine : '\n' ∉ encodedTracks.toList) (nonempty : encodedTracks ≠ "") :
    handleLiveTrackList ch env (streamName ++ "\n" ++ encodedTracks) =
      respondLiveTrackList ch env streamName encodedTracks := by
  have untrimmed : Strings.trimSuffix (streamName ++ "\n" ++ encodedTracks) "\n" =
      streamName ++ "\n" ++ encodedTracks := by
    refine Strings.trimSuffix_of_not_suffix ?_
    have chars : (streamName ++ "\n" ++ encodedTracks).toList =
        (streamName.toList ++ ['\n']) ++ encodedTracks.toList := by simp
    rw [chars]
    exact Strings.not_suffix_singleton (by simpa [String.ext_iff] using nonempty) tracksLine
  rw [handleLiveTrackList, untrimmed, show ("\n" : String) = ⟨['\n']⟩ from rfl,
    Strings.split_append name, Strings.split_of_not_mem tracksLine]

/-- Every error the trigger answers with ends with the stream name it was given. -/
theorem respondLiveTrackList_error_names_stream (ch : TrackChoices) (env : TriggerEnv)
    (streamName encodedTracks message : String)
    (failed : respondLiveTrackList ch env streamName encodedTracks = .badRequest message ∨
      respondLiveTrackList ch env streamName encodedTracks = .internalServerError message) :
    ∃ reason, message = reason ++ streamName := by
  unfold respondLiveTrackList at failed
  repeat' split at failed
  all_goals simp only [TriggerResponse.badRequest.injEq, TriggerResponse.internalServerError.injEq,
    reduceCtorEq, or_false, false_or] at failed
  all_goals exact ⟨_, failed.symm⟩

end DmsApi.MistTriggers
