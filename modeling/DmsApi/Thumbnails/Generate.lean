import DmsApi.Thumbnails.Vtt
import DmsApi.Go.Path

/-! # Generating a thumbnail, and the track that finds it

`GenerateThumb` runs once per segment. It writes the segment into a temporary directory, has
ffmpeg write the segment's first key frame to `path.Join(tempDir, thumbFilename(segmentURI))`,
and uploads that file to the thumbnails' storage location under its `path.Base`.
`GenerateThumbsVTT` later looks up `thumbFilename(segment.URI)` at the same location for each
segment of the playlist. The name `thumbFilename` gives is one path element, so the `Base` of
the joined path is that name whatever the temporary directory is. The track therefore looks up
exactly the files the thumbnails were uploaded as, and names them in its cues.
-/

namespace DmsApi.Thumbnails

/-- The outside calls of `GenerateThumb`, as the outcomes their retries end with: `os.MkdirTemp`,
`os.WriteFile`, ffmpeg (its stderr and error), `os.Open` and `clients.UploadToOSURL`. -/
structure ThumbIO where
  mkdirTemp : Except String String
  writeFile : String → Except String Unit
  ffmpeg : String → String → Except (String × String) Unit
  openFile : String → Except String Unit
  uploadToOSURL : String → String → Except String Unit

/-- `processSegment(input, thumbOut)`: ffmpeg writes the first key frame of `input` to
`thumbOut`. -/
def processSegment (io : ThumbIO) (input thumbOut : String) : Except String Unit :=
  match io.ffmpeg input thumbOut with
  | .error (ffmpegErr, err) =>
    .error ("error running ffmpeg for thumbnails " ++ input ++ " [" ++ ffmpegErr ++ "]: " ++ err)
  | .ok () => .ok ()

/-- `GenerateThumb(segmentURI, input, output)`, with `outputLocation` the storage URL
`output.JoinPath(outputDir)`. On Unix `filepath.Join` of two elements is `path.Join`. The
result is the name the thumbnail was uploaded under. -/
def generateThumb (io : ThumbIO) (outputLocation segmentURI : String) : Except String String := do
  let tempDir ← io.mkdirTemp.mapError fun err => "failed to make temp dir: " ++ err
  let inFilename := Path.join [tempDir, segmentURI]
  io.writeFile inFilename
  let filename ← thumbFilename segmentURI
  let thumbOut := Path.join [tempDir, filename]
  processSegment io inFilename thumbOut
  io.openFile thumbOut
  (io.uploadToOSURL outputLocation (Path.base thumbOut)).mapError fun err =>
    "failed to upload thumbnail " ++ thumbOut ++ ": " ++ err
  pure (Path.base thumbOut)

/-! ## The name a thumbnail is uploaded under -/

/-- A step of a successful run succeeded, and the rest ran from its result. -/
theorem ok_of_bind {ε α β : Type} {x : Except ε α} {f : α → Except ε β} {b : β}
    (ran : x >>= f = .ok b) : ∃ a, x = .ok a ∧ f a = .ok b := by
  cases x with
  | error => cases ran
  | ok a => exact ⟨a, rfl, ran⟩

/-- `%d` writes no slash: only digits, after a minus sign for a negative number. -/
theorem slash_not_mem_toString (i : Int) : '/' ∉ (toString i).toList := by
  have digits : ∀ n : Nat, '/' ∉ (toString n).toList := fun n mem =>
    absurd ((Strconv.toDigits_value n).2 '/' mem) (by decide)
  cases i with
  | ofNat n => exact digits n
  | negSucc n =>
    intro mem
    rcases List.mem_append.mp mem with minus | rest
    · exact absurd minus (by decide)
    · exact digits (n + 1) rest

/-- A name `thumbFilename` gives is one path element. -/
theorem thumbFilename_element {segmentURI name : String}
    (named : thumbFilename segmentURI = .ok name) : Path.Element name := by
  simp only [thumbFilename] at named
  split at named
  · cases named
  · next i _ =>
    cases named
    have chars : ("keyframes_" ++ toString i ++ ".jpg").toList =
        'k' :: ("eyframes_".toList ++ (toString i).toList ++ ".jpg".toList) := rfl
    refine ⟨by rw [chars]; exact List.cons_ne_nil _ _, fun mem => ?_, ?_, ?_⟩
    · simp only [String.toList, String.data_append, List.mem_append] at mem
      rcases mem with (keyframes | number) | jpg
      · exact absurd keyframes (by decide)
      · exact slash_not_mem_toString i number
      · exact absurd jpg (by decide)
    · rw [chars]; exact fun same => absurd (List.cons.inj same).1 (by decide)
    · rw [chars]; exact fun same => absurd (List.cons.inj same).1 (by decide)

/-- `GenerateThumb` uploads the thumbnail under the name `thumbFilename` gives the segment,
whatever temporary directory it ran in. -/
theorem generateThumb_uploads {io : ThumbIO} {outputLocation segmentURI name : String}
    (ran : generateThumb io outputLocation segmentURI = .ok name) :
    thumbFilename segmentURI = .ok name := by
  unfold generateThumb at ran
  obtain ⟨tempDir, -, ran⟩ := ok_of_bind ran
  obtain ⟨-, -, ran⟩ := ok_of_bind ran
  obtain ⟨filename, named, ran⟩ := ok_of_bind ran
  obtain ⟨-, -, ran⟩ := ok_of_bind ran
  obtain ⟨-, -, ran⟩ := ok_of_bind ran
  obtain ⟨-, -, ran⟩ := ok_of_bind ran
  cases ran
  rw [named, Path.base_join_element tempDir (thumbFilename_element named)]

/-! ## The track finds the thumbnails -/

/-- The names `GenerateThumb` uploaded, in one run per segment, are the names the track looks
up for the segments. -/
theorem thumbFilenames_of_generated {outputLocation : String} {segments : List MediaSegment}
    {uploads : List String}
    (generated : List.Forall₂ (fun segment name =>
      ∃ io, generateThumb io outputLocation segment.uri = .ok name) segments uploads) :
    segments.map (fun segment => thumbFilename segment.uri) = uploads.map .ok := by
  induction generated with
  | nil => rfl
  | cons ran _ ih =>
    obtain ⟨_, ran⟩ := ran
    rw [List.map_cons, List.map_cons, generateThumb_uploads ran, ih]

/-- Once `GenerateThumb` has run for every segment of a playlist and storage finds what it
uploaded, `GenerateThumbsVTT` finds every thumbnail: its track has one cue per segment, naming
the file uploaded for that segment. -/
theorem generateThumbsVTT_finds_generated (findThumb upload : String → Except String Unit)
    {outputLocation : String} {segments : List MediaSegment} {uploads : List String}
    (generated : List.Forall₂ (fun segment name =>
      ∃ io, generateThumb io outputLocation segment.uri = .ok name) segments uploads)
    (stored : ∀ name ∈ uploads, findThumb name = .ok ())
    (uploaded : upload ("WEBVTT\n" ++ clockCues 0 (uploads.zip (segments.map segmentStep))) =
      .ok ()) :
    generateThumbsVTT findThumb upload segments =
      .ok ("WEBVTT\n" ++ clockCues 0 (uploads.zip (segments.map segmentStep))) := by
  rw [generateThumbsVTT,
    writeCues_of_found findThumb (thumbFilenames_of_generated generated) stored 0]
  simp only [uploaded]
  rfl

theorem generateThumbsVTT_finds_generated_single :
    let segments : List MediaSegment := [⟨"index0.ts", 2⟩]
    let found : String → Except String Unit := fun name =>
      if name = "keyframes_0.jpg" then .ok () else .error "not found"
    List.Forall₂ (fun segment name => ∃ io, generateThumb io "output/thumbnails" segment.uri =
      .ok name) segments ["keyframes_0.jpg"] ∧
    (∀ name ∈ ["keyframes_0.jpg"], found name = .ok ()) ∧
    generateThumbsVTT found (fun _ => .ok ()) segments =
      .ok ("WEBVTT\n" ++ clockCues 0 (["keyframes_0.jpg"].zip (segments.map segmentStep))) := by
  intro segments found
  let io : ThumbIO :=
    ⟨.ok "/tmp/thumbs-1", fun _ => .ok (), fun _ _ => .ok (), fun _ => .ok (),
      fun _ _ => .ok ()⟩
  have generated : List.Forall₂ (fun segment name => ∃ io, generateThumb io "output/thumbnails"
      segment.uri = .ok name) segments ["keyframes_0.jpg"] := .cons ⟨io, rfl⟩ .nil
  have stored : ∀ name ∈ ["keyframes_0.jpg"], found name = .ok () := by simp [found]
  exact ⟨generated, stored, generateThumbsVTT_finds_generated found _ generated stored rfl⟩

end DmsApi.Thumbnails
