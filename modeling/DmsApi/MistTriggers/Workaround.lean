import DmsApi.MistTriggers.LiveTrackList

/-! # Firing the track list trigger in Mist's place

`invokeTriggerWorkaround` stands in for Mist when `LIVE_TRACK_LIST` does not fire: it polls
`json_<stream>.js` up to twenty times while the response has no `meta`, and on the first with
metadata posts the trigger itself, the stream name and then the rebuilt tracks. Those copy
each track's type, size and index but not its `bps`, so the playlist the trigger writes gives
every rendition a bandwidth of zero and orders them by area alone. `MistTrack` and
`LiveTrackListTriggerJson` are taken to be the trigger's, as the package declares neither.
-/

namespace DmsApi.MistTriggers

/-- `MetadataTrackInfo`, with the fields the workaround copies, and `Bps`, which it does not. -/
structure MetadataTrackInfo where
  bps : Int
  width : BitVec 32
  height : BitVec 32
  idx : Int
  type : String
deriving DecidableEq, Repr

/-- The `MistTrack` the loop builds from a track of the metadata. `ByteRate` is not set, so it
keeps its zero value, and `Index` is `int32(info.Idx)`. -/
def MetadataTrackInfo.toMistTrack (info : MetadataTrackInfo) : MistTrack where
  byteRate := 0
  height := info.height
  width := info.width
  index := BitVec.ofInt 32 info.idx
  type := info.type
  manifestDestPath := ""

/-- The loop that builds the trigger's track map: each track of the metadata, under its own
key. -/
def triggerTracks (tracks : GoMap MetadataTrackInfo) : GoMap MistTrack :=
  GoMap.mapValues MetadataTrackInfo.toMistTrack tracks

/-- What one round of the loop gets from Mist's `json_<stream>.js`. -/
inductive Poll
  /-- Building or sending the request or reading the response failed, or the status was not
  200: the round prints why, and the workaround ends. -/
  | failed
  /-- A response with status 200, and the `meta` it decodes to. The decoding error is not
  looked at, so a payload that does not decode has no `meta`. -/
  | response (meta : Option (GoMap MetadataTrackInfo))

/-- A request the workaround makes: a poll of Mist, or the trigger posted with its body. -/
inductive Action
  | poll
  | postTrigger (body : String)
deriving DecidableEq, Repr

/-- The loop of `invokeTriggerWorkaround` from round `i`, with `rounds` rounds left. `polls i`
is what round `i` gets from Mist, and `marshal` is `json.Marshal` of a track map. -/
def workaroundLoop (polls : Nat → Poll) (marshal : GoMap MistTrack → Except String String)
    (renditionsStream : String) : Nat → Nat → List Action
  | 0, _ => []
  | rounds + 1, i =>
    match polls i with
    | .failed => [.poll]
    | .response none => .poll :: workaroundLoop polls marshal renditionsStream rounds (i + 1)
    | .response (some tracks) =>
      match marshal (triggerTracks tracks) with
      | .error _ => [.poll]
      | .ok tracksJson => [.poll, .postTrigger (renditionsStream ++ "\n" ++ tracksJson)]

/-- `invokeTriggerWorkaround(t)()`: the requests it makes for the rendition stream of `t`. -/
def invokeTriggerWorkaround (polls : Nat → Poll)
    (marshal : GoMap MistTrack → Except String String) (renditionsStream : String) :
    List Action :=
  workaroundLoop polls marshal renditionsStream 20 0

/-! ## A run of the loop -/

section Run

variable {polls : Nat → Poll} {marshal : GoMap MistTrack → Except String String}
  {renditionsStream : String}

/-- How a run of the loop goes: `n` rounds without metadata, and then the rounds run out, or a
last round fails or finds metadata it cannot encode, or it posts the trigger. -/
theorem workaroundLoop_run (rounds i : Nat) :
    ∃ n, (∀ k < n, polls (i + k) = .response none) ∧
      (n = rounds ∧
          workaroundLoop polls marshal renditionsStream rounds i = List.replicate n .poll ∨
        n < rounds ∧
          workaroundLoop polls marshal renditionsStream rounds i =
            List.replicate (n + 1) .poll ∧
          (polls (i + n) = .failed ∨ ∃ tracks err, polls (i + n) = .response (some tracks) ∧
            marshal (triggerTracks tracks) = .error err) ∨
        ∃ tracks tracksJson, n < rounds ∧ polls (i + n) = .response (some tracks) ∧
          marshal (triggerTracks tracks) = .ok tracksJson ∧
          workaroundLoop polls marshal renditionsStream rounds i =
            List.replicate (n + 1) .poll ++
              [.postTrigger (renditionsStream ++ "\n" ++ tracksJson)]) := by
  induction rounds generalizing i with
  | zero => exact ⟨0, nofun, .inl ⟨rfl, rfl⟩⟩
  | succ rounds ih =>
    rw [workaroundLoop]
    cases polled : polls i with
    | failed => exact ⟨0, nofun, .inr (.inl ⟨by omega, rfl, .inl polled⟩)⟩
    | response meta =>
      cases meta with
      | none =>
        obtain ⟨n, waited, ended⟩ := ih (i + 1)
        have shift : ∀ k, i + 1 + k = i + (k + 1) := fun k => by omega
        refine ⟨n + 1, fun k below => ?_, ?_⟩
        · cases k with
          | zero => exact polled
          | succ k => rw [← shift]; exact waited k (by omega)
        · rw [shift] at ended
          rcases ended with ⟨rfl, run⟩ | ⟨below, run, last⟩ |
            ⟨tracks, tracksJson, below, found, encoded, run⟩
          · exact .inl ⟨rfl, by rw [run]; rfl⟩
          · exact .inr (.inl ⟨by omega, by rw [run]; rfl, last⟩)
          · exact .inr (.inr ⟨tracks, tracksJson, by omega, found, encoded, by rw [run]; rfl⟩)
      | some tracks =>
        dsimp only
        cases encoded : marshal (triggerTracks tracks) with
        | error err =>
          exact ⟨0, nofun, .inr (.inl ⟨by omega, rfl, .inr ⟨tracks, err, polled, encoded⟩⟩)⟩
        | ok tracksJson =>
          exact ⟨0, nofun, .inr (.inr ⟨tracks, tracksJson, by omega, polled, encoded, rfl⟩)⟩

/-- The workaround polls Mist at most twenty times, goes on only through responses without
metadata, and posts the trigger at most once: right after the first response with metadata,
when its tracks encode. -/
theorem invokeTriggerWorkaround_run (polls : Nat → Poll)
    (marshal : GoMap MistTrack → Except String String) (renditionsStream : String) :
    ∃ n, (∀ k < n, polls k = .response none) ∧
      (n = 20 ∧ invokeTriggerWorkaround polls marshal renditionsStream = List.replicate 20 .poll ∨
        n < 20 ∧
          invokeTriggerWorkaround polls marshal renditionsStream = List.replicate (n + 1) .poll ∧
          (polls n = .failed ∨ ∃ tracks err, polls n = .response (some tracks) ∧
            marshal (triggerTracks tracks) = .error err) ∨
        ∃ tracks tracksJson, n < 20 ∧ polls n = .response (some tracks) ∧
          marshal (triggerTracks tracks) = .ok tracksJson ∧
          invokeTriggerWorkaround polls marshal renditionsStream =
            List.replicate (n + 1) .poll ++
              [.postTrigger (renditionsStream ++ "\n" ++ tracksJson)]) := by
  obtain ⟨n, waited, ended⟩ := @workaroundLoop_run polls marshal renditionsStream 20 0
  simp only [Nat.zero_add] at waited ended
  rcases ended with ⟨rfl, run⟩ | ended
  · exact ⟨20, waited, .inl ⟨rfl, run⟩⟩
  · exact ⟨n, waited, .inr ended⟩

/-- A trigger the workaround posts carries the stream name and, on the next line, the encoded
tracks of a response with metadata. -/
theorem postTrigger_mem_invokeTriggerWorkaround {body : String}
    (posted : .postTrigger body ∈ invokeTriggerWorkaround polls marshal renditionsStream) :
    ∃ j tracks tracksJson, polls j = .response (some tracks) ∧
      marshal (triggerTracks tracks) = .ok tracksJson ∧
      body = renditionsStream ++ "\n" ++ tracksJson := by
  have notPoll : ∀ n, .postTrigger body ∉ List.replicate n Action.poll := fun n mem =>
    nomatch List.eq_of_mem_replicate mem
  obtain ⟨n, -, ended⟩ := @workaroundLoop_run polls marshal renditionsStream 20 0
  rcases ended with ⟨-, run⟩ | ⟨-, run, -⟩ | ⟨tracks, tracksJson, -, polled, encoded, run⟩
  · exact absurd (run ▸ posted) (notPoll n)
  · exact absurd (run ▸ posted) (notPoll (n + 1))
  · rw [invokeTriggerWorkaround, run, List.mem_append, List.mem_singleton] at posted
    rcases posted with polled' | same
    · exact absurd polled' (notPoll (n + 1))
    · exact ⟨0 + n, tracks, tracksJson, polled, encoded, Action.postTrigger.inj same⟩

end Run

/-! ## The trigger on the workaround's body -/

/-- The trigger uploads a playlist only for tracks it decoded, and the playlist is the one
`triggerLiveTrackList` writes for them. -/
theorem respondLiveTrackList_eq_uploadPlaylist {ch : TrackChoices} {env : TriggerEnv}
    {streamName encodedTracks uploadPath manifest : String}
    (uploaded : respondLiveTrackList ch env streamName encodedTracks =
      .uploadPlaylist uploadPath manifest) :
    ∃ tracks, env.decodeTracks encodedTracks = some tracks ∧
      manifest = triggerLiveTrackList ch env.pushStart streamName tracks := by
  unfold respondLiveTrackList at uploaded
  repeat' split at uploaded
  all_goals cases uploaded
  exact ⟨_, by assumption, rfl⟩

theorem byteRate_of_mem_triggerTracks {tracks : GoMap MetadataTrackInfo}
    {e : Σ _ : String, MistTrack} (mem : e ∈ (triggerTracks tracks).entries) :
    e.2.byteRate = 0 := by
  obtain ⟨_, -, rfl⟩ := List.mem_map.mp mem
  rfl

theorem byteRate_of_pushedTrack {pushStart : (Σ _ : String, MistTrack) → Bool}
    {streamName : String} {e : Σ _ : String, MistTrack} {t : MistTrack}
    (pushed : pushedTrack pushStart streamName e = some t) : t.byteRate = e.2.byteRate := by
  unfold pushedTrack at pushed
  split at pushed
  · cases pushed; rfl
  · cases pushed

/-- The entry of a track with no byte rate has a bandwidth of zero. -/
theorem streamInf_of_zero {t : MistTrack} (zero : t.byteRate = 0) :
    streamInf t = "#EXT-X-STREAM-INF:BANDWIDTH=0,RESOLUTION=" ++ toString t.width.toInt ++ "x" ++
      toString t.height.toInt ++ "\r\n" ++ t.manifestDestPath ++ "\r\n" := by
  rw [streamInf, zero]
  rfl

/-- A playlist the trigger uploads from a body the workaround posted has one zero-bandwidth entry
per pushed video track, ordered by area, when decoding inverts the workaround's encoding. -/
theorem invokeTriggerWorkaround_zero_bandwidth (ch : TrackChoices) (env : TriggerEnv)
    {polls : Nat → Poll} {marshal : GoMap MistTrack → Except String String}
    {renditionsStream body uploadPath manifest : String}
    (posted : .postTrigger body ∈ invokeTriggerWorkaround polls marshal renditionsStream)
    (name : '\n' ∉ renditionsStream.toList)
    (encodes : ∀ m tracksJson, marshal m = .ok tracksJson →
      tracksJson ≠ "" ∧ '\n' ∉ tracksJson.toList ∧ env.decodeTracks tracksJson = some m)
    (uploaded : handleLiveTrackList ch env body = .uploadPlaylist uploadPath manifest) :
    ∃ (j : Nat) (tracks : GoMap MetadataTrackInfo) (sorted : List MistTrack),
      polls j = .response (some tracks) ∧
      manifest = "#EXTM3U\r\n" ++ String.join (sorted.map fun t =>
        "#EXT-X-STREAM-INF:BANDWIDTH=0,RESOLUTION=" ++ toString t.width.toInt ++ "x" ++
          toString t.height.toInt ++ "\r\n" ++ t.manifestDestPath ++ "\r\n") ∧
      sorted.Perm
        ((triggerTracks tracks).entries.filterMap (pushedTrack env.pushStart renditionsStream)) ∧
      sorted.Pairwise fun a b => (b.width * b.height).toInt ≤ (a.width * a.height).toInt := by
  obtain ⟨j, tracks, tracksJson, polled, marshalled, rfl⟩ :=
    postTrigger_mem_invokeTriggerWorkaround posted
  obtain ⟨nonempty, oneLine, decoded⟩ := encodes _ _ marshalled
  rw [handleLiveTrackList_two_lines ch env name oneLine nonempty] at uploaded
  obtain ⟨_, decodes, rfl⟩ := respondLiveTrackList_eq_uploadPlaylist uploaded
  obtain rfl := Option.some.inj (decodes.symm.trans decoded)
  obtain ⟨sorted, written, perm, ordered⟩ :=
    triggerLiveTrackList_entries ch env.pushStart renditionsStream (triggerTracks tracks)
  have zero : ∀ t ∈ sorted, t.byteRate = 0 := fun t mem => by
    obtain ⟨e, entry, pushed⟩ := List.mem_filterMap.mp (perm.subset mem)
    exact (byteRate_of_pushedTrack pushed).trans (byteRate_of_mem_triggerTracks entry)
  refine ⟨j, tracks, sorted, polled, ?_, perm, ordered.imp_of_mem fun memA memB notLess => ?_⟩
  · rw [written, List.map_congr_left fun t mem => streamInf_of_zero (zero t mem)]
  · rw [ByBitrate.less, if_pos ((zero _ memA).trans (zero _ memB).symm)] at notLess
    simpa [BitVec.slt] using notLess

theorem invokeTriggerWorkaround_zero_bandwidth_two_tracks :
    let tracks := ((∅ : GoMap MetadataTrackInfo).insert "0" ⟨2000000, 1280, 720, 0, "video"⟩).insert
      "1" ⟨500000, 640, 360, 1, "video"⟩
    let polls : Nat → Poll := fun i => .response (if i = 0 then none else some tracks)
    let marshal : GoMap MistTrack → Except String String := fun m =>
      if m.entries = (triggerTracks tracks).entries then .ok "T" else .error "unused"
    let env : TriggerEnv := ⟨fun _ => true, "", "", fun _ => some "s3://out",
      fun json => if json = "T" then some (triggerTracks tracks) else none, some, fun _ => true⟩
    let manifest := "#EXTM3U\r\n#EXT-X-STREAM-INF:BANDWIDTH=0,RESOLUTION=1280x720\r\n" ++
      "s_1280x720/stream.m3u8\r\n#EXT-X-STREAM-INF:BANDWIDTH=0,RESOLUTION=640x360\r\n" ++
      "s_640x360/stream.m3u8\r\n"
    .postTrigger "s\nT" ∈ invokeTriggerWorkaround polls marshal "s" ∧ '\n' ∉ "s".toList ∧
      (∀ m tracksJson, marshal m = .ok tracksJson →
        tracksJson ≠ "" ∧ '\n' ∉ tracksJson.toList ∧ env.decodeTracks tracksJson = some m) ∧
      handleLiveTrackList TrackChoices.inOrder env "s\nT" =
        .uploadPlaylist "s3://out/s-master.m3u8" manifest ∧
      ∃ (j : Nat) (tracks' : GoMap MetadataTrackInfo) (sorted : List MistTrack),
        polls j = .response (some tracks') ∧
        manifest = "#EXTM3U\r\n" ++ String.join (sorted.map fun t =>
          "#EXT-X-STREAM-INF:BANDWIDTH=0,RESOLUTION=" ++ toString t.width.toInt ++ "x" ++
            toString t.height.toInt ++ "\r\n" ++ t.manifestDestPath ++ "\r\n") ∧
        sorted.Perm ((triggerTracks tracks').entries.filterMap (pushedTrack env.pushStart "s")) ∧
        sorted.Pairwise fun a b => (b.width * b.height).toInt ≤ (a.width * a.height).toInt := by
  intro tracks polls marshal env manifest
  have posted : .postTrigger "s\nT" ∈ invokeTriggerWorkaround polls marshal "s" := by decide
  have name : '\n' ∉ "s".toList := by decide
  have encodes : ∀ m tracksJson, marshal m = .ok tracksJson →
      tracksJson ≠ "" ∧ '\n' ∉ tracksJson.toList ∧ env.decodeTracks tracksJson = some m := by
    intro m tracksJson marshalled
    by_cases same : m.entries = (triggerTracks tracks).entries
    · simp only [marshal, if_pos same, Except.ok.injEq] at marshalled
      subst marshalled
      exact ⟨by decide, by decide, congrArg some (AList.ext same).symm⟩
    · simp only [marshal, if_neg same, reduceCtorEq] at marshalled
  have uploaded : handleLiveTrackList TrackChoices.inOrder env "s\nT" =
      .uploadPlaylist "s3://out/s-master.m3u8" manifest := by
    rw [show ("s\nT" : String) = "s" ++ "\n" ++ "T" from rfl,
      handleLiveTrackList_two_lines _ _ name (by decide) (by decide)]
    simp only [respondLiveTrackList, env, triggerLiveTrackList, TrackChoices.inOrder, id,
      foldl_keepPushed, Bool.not_true, Bool.false_eq_true, if_false, if_true,
      if_neg (show "T" ≠ "null" by decide)]
    have pushed : ([] ++ (triggerTracks tracks).entries.filterMap
        (pushedTrack (fun _ => true) "s")) = [⟨0, 360, 640, 1, "video", "s_640x360/stream.m3u8"⟩,
          ⟨0, 720, 1280, 0, "video", "s_1280x720/stream.m3u8"⟩] := by
      decide
    rw [pushed, mergeSort_pair]
    decide
  exact ⟨posted, name, encodes, uploaded,
    invokeTriggerWorkaround_zero_bandwidth _ _ posted name encodes uploaded⟩

end DmsApi.MistTriggers
