import DmsApi.Go.Path
import DmsApi.Handlers.Payload

/-! # Accepting an upload

`UploadVOD` answers the first failed check with an error response: the `Content-Type`, the
payload, the source URL, which `dStorageToHTTP` maps to a gateway when it is IPFS or Arweave,
and the target, the first output location asking for source segments. The target must be an
`.m3u8` manifest, and the segments go to a `source` directory beside it. An accepted request's
segmenting goroutine is outside this model. `mime.ParseMediaType`, the schema,
`json.Unmarshal` and `url.Parse` are inputs, the last one function for all three URLs.
-/

namespace DmsApi.Handlers

/-- `url.URL`, with the fields the handler reads; `string` is what `String()` prints. -/
structure URL where
  scheme : String
  host : String
  path : String
  string : String
deriving DecidableEq, Repr

/-- An output location of `UploadVODRequest`, with the fields the handler reads. -/
structure OutputLocation where
  url : String
  sourceSegments : Bool
deriving DecidableEq, Repr

/-- `UploadVODRequest`, with the fields the handler reads. -/
structure UploadVODRequest where
  url : String
  outputLocations : List OutputLocation
deriving DecidableEq, Repr

/-- The results the handler takes from outside: `mime.ParseMediaType`'s media type,
`io.ReadAll` of the body, the schema's verdict on a payload (an error, or the texts of what the
payload breaks), `json.Unmarshal`, `config.RandomTrailer(8)` and `url.Parse`. -/
structure UploadCalls where
  parseMediaType : String → Except String String
  readAll : Except String String
  validate : String → Except String (List String)
  unmarshal : String → Except String UploadVODRequest
  randomTrailer : String
  parse : String → Except String URL

/-- What the goroutine of an accepted request is started with. -/
structure Segmenting where
  requestID : String
  request : UploadVODRequest
  targetURL : URL
  targetDirPath : String
  sout : URL
deriving DecidableEq, Repr

/-- The loop of `HasContentType` over the header's comma-separated parts: a part whose media
type is `mimetype` matches, and the first part `mime.ParseMediaType` refuses ends the loop. -/
def hasMediaType (parseMediaType : String → Except String String) (mimetype : String) :
    List String → Bool
  | [] => false
  | v :: vs =>
    match parseMediaType v with
    | .error _ => false
    | .ok t => if t = mimetype then true else hasMediaType parseMediaType mimetype vs

/-- `HasContentType(r, mimetype)` for the request's `Content-Type` header; an empty header
stands for `application/octet-stream`. -/
def hasContentType (parseMediaType : String → Except String String)
    (contentType mimetype : String) : Bool :=
  if contentType = "" then mimetype = "application/octet-stream"
  else hasMediaType parseMediaType mimetype (Strings.split contentType ',')

def schemeIPFS : String := "ipfs"

def schemeArweave : String := "ar"

/-- `dStorageToHTTP(inputUrl)`: the URL and the error it returns. -/
def dStorageToHTTP (parse : String → Except String URL) (inputUrl : String) :
    String × Option String :=
  match parse inputUrl with
  | .error err => (inputUrl, some err)
  | .ok sourceUrl =>
    if sourceUrl.scheme = schemeIPFS then
      ("https://cloudflare-ipfs.com/ipfs/" ++ sourceUrl.host, none)
    else if sourceUrl.scheme = schemeArweave then ("https://arweave.net/" ++ sourceUrl.host, none)
    else (inputUrl, none)

/-- The loop that finds the source segment URL: the URL of the first output location that asks
for source segments, empty or not; `""` when none does. -/
def sourceSegmentURL : List OutputLocation → String
  | [] => ""
  | o :: os => if o.sourceSegments then o.url else sourceSegmentURL os

/-- A Go result and its error: the result when the error is `nil`. -/
def goResult {α : Type} : α × Option String → Except String α
  | (a, none) => .ok a
  | (_, some err) => .error err

/-- The handler `UploadVOD()` returns, up to the start of the segmenting goroutine: the error
response it writes, or what it starts the goroutine with. -/
def uploadVOD (calls : UploadCalls) (contentType : String) : Except ErrorResponse Segmenting := do
  if !hasContentType calls.parseMediaType contentType "application/json" then
    throw (.unsupportedMediaType "Requires application/json content type")
  let (_, uploadVODRequest) ←
    decodePayload calls.readAll calls.validate calls.unmarshal .internalServerError
  let requestID := calls.randomTrailer
  let httpURL ← (goResult (dStorageToHTTP calls.parse uploadVODRequest.url)).mapError
    (.badRequest "error in applyInputGateway()")
  let tURL := sourceSegmentURL uploadVODRequest.outputLocations
  if tURL = "" then
    throw (.badRequest "Invalid request payload" "no source segment URL in request")
  let targetURL ← (calls.parse tURL).mapError fun _ =>
    .badRequest "Invalid request payload" "target output file should end in .m3u8 extension"
  let targetDirPath := Path.dir targetURL.path
  let targetManifestFilename := Path.base targetURL.string
  if Path.ext targetManifestFilename ≠ ".m3u8" then
    throw (.badRequest "Invalid request payload"
      "target output file should end in .m3u8 extension")
  let targetSegmentedOutputPath := Path.join [targetDirPath, "source", targetManifestFilename]
  let sout ← (calls.parse targetSegmentedOutputPath).mapError
    (.internalServerError "Cannot parse targetSegmentedOutputPath")
  pure ⟨requestID, { uploadVODRequest with url := httpURL }, targetURL, targetDirPath, sout⟩

/-! ## Reading the handler back -/

theorem goResult_eq_ok {α : Type} {p : α × Option String} {a : α} :
    goResult p = .ok a ↔ p = (a, none) := by
  rcases p with ⟨b, _ | err⟩ <;> simp [goResult]

/-- Everything a request `UploadVOD` accepts passed, check by check, from the payload it read
and the request it decoded, and what the goroutine is started with. -/
structure Accepts (calls : UploadCalls) (contentType payload : String)
    (request : UploadVODRequest) (plan : Segmenting) : Prop where
  json : hasContentType calls.parseMediaType contentType "application/json" = true
  read : calls.readAll = .ok payload
  valid : calls.validate payload = .ok []
  unmarshalled : calls.unmarshal payload = .ok request
  gateway : dStorageToHTTP calls.parse request.url = (plan.request.url, none)
  locations : plan.request.outputLocations = request.outputLocations
  located : sourceSegmentURL request.outputLocations ≠ ""
  target : calls.parse (sourceSegmentURL request.outputLocations) = .ok plan.targetURL
  manifest : Path.ext (Path.base plan.targetURL.string) = ".m3u8"
  dirPath : plan.targetDirPath = Path.dir plan.targetURL.path
  segmented : calls.parse (Path.join [plan.targetDirPath, "source", Path.base plan.targetURL.string])
    = .ok plan.sout
  requestID : plan.requestID = calls.randomTrailer

/-- `UploadVOD` accepts exactly the requests that pass every check. -/
theorem uploadVOD_eq_ok_iff {calls : UploadCalls} {contentType : String} {plan : Segmenting} :
    uploadVOD calls contentType = .ok plan ↔
      ∃ payload request, Accepts calls contentType payload request plan := by
  simp only [uploadVOD, bind_eq_ok, mapError_eq_ok, ite_throw_bind_eq_ok, goResult_eq_ok]
  simp only [Bool.not_eq_true', Bool.not_eq_false, ne_eq, not_not, pure, Except.pure,
    Except.ok.injEq, Prod.exists, decodePayload_eq_ok]
  constructor
  · rintro ⟨json, payload, request, ⟨read, valid, unmarshalled⟩, _, gateway, located, _, target,
      manifest, _, segmented, rfl⟩
    exact ⟨payload, request, json, read, valid, unmarshalled, gateway, rfl, located, target,
      manifest, rfl, segmented, rfl⟩
  · rintro ⟨payload, request, accepts⟩
    refine ⟨accepts.json, payload, request, ⟨accepts.read, accepts.valid, accepts.unmarshalled⟩,
      plan.request.url, accepts.gateway, accepts.located, plan.targetURL, accepts.target,
      accepts.manifest, plan.sout, accepts.dirPath ▸ accepts.segmented, ?_⟩
    rw [← accepts.requestID, ← accepts.locations, ← accepts.dirPath]

/-! ## The checks -/

/-- A list splits around a first element with `Q` after elements with `P` when its head has
`Q`, or has `P` and its tail splits so. -/
theorem exists_split_cons {α : Type} {P Q : α → Prop} {v : α} {vs : List α} :
    (∃ pre w post, v :: vs = pre ++ w :: post ∧ (∀ u ∈ pre, P u) ∧ Q w) ↔
      Q v ∨ P v ∧ ∃ pre w post, vs = pre ++ w :: post ∧ (∀ u ∈ pre, P u) ∧ Q w := by
  constructor
  · rintro ⟨_ | ⟨u, pre⟩, w, post, split, before, found⟩
    · obtain ⟨rfl, -⟩ := List.cons.inj split
      exact .inl found
    · obtain ⟨rfl, rfl⟩ := List.cons.inj split
      exact .inr ⟨before _ (List.mem_cons_self _ _), pre, w, post, rfl,
        fun x mem => before x (List.mem_cons_of_mem _ mem), found⟩
  · rintro (found | ⟨first, pre, w, post, rfl, before, found⟩)
    · exact ⟨[], v, vs, rfl, nofun, found⟩
    · exact ⟨v :: pre, w, post, rfl, List.forall_mem_cons.mpr ⟨first, before⟩, found⟩

/-- The loop matches exactly when a part with the media type comes before every part the parser
refuses. -/
theorem hasMediaType_iff {parseMediaType : String → Except String String} {mimetype : String}
    {vs : List String} :
    hasMediaType parseMediaType mimetype vs = true ↔
      ∃ pre v post, vs = pre ++ v :: post ∧ (∀ u ∈ pre, ∃ t, parseMediaType u = .ok t) ∧
        parseMediaType v = .ok mimetype := by
  induction vs with
  | nil => simp [hasMediaType]
  | cons v vs ih =>
    rw [exists_split_cons, ← ih, hasMediaType]
    cases parseMediaType v with
    | error err => simp
    | ok t => by_cases same : t = mimetype <;> simp [same]

/-- `HasContentType` holds for an empty header only when `application/octet-stream` is asked
for, and otherwise exactly when a part of the header has the media type and every part before
it parses: a media type listed after one `mime.ParseMediaType` refuses is never seen. -/
theorem hasContentType_iff {parseMediaType : String → Except String String}
    {contentType mimetype : String} :
    hasContentType parseMediaType contentType mimetype = true ↔
      contentType = "" ∧ mimetype = "application/octet-stream" ∨
      contentType ≠ "" ∧ ∃ pre v post, Strings.split contentType ',' = pre ++ v :: post ∧
        (∀ u ∈ pre, ∃ t, parseMediaType u = .ok t) ∧ parseMediaType v = .ok mimetype := by
  unfold hasContentType
  by_cases empty : contentType = ""
  · simp [empty]
  · simp [empty, hasMediaType_iff]

/-- A source segment URL that is found is the URL of the first location that asks for source
segments. -/
theorem sourceSegmentURL_first {locations : List OutputLocation}
    (found : sourceSegmentURL locations ≠ "") :
    ∃ pre o post, locations = pre ++ o :: post ∧ (∀ p ∈ pre, p.sourceSegments = false) ∧
      o.sourceSegments = true ∧ sourceSegmentURL locations = o.url := by
  induction locations with
  | nil => exact absurd rfl found
  | cons o os ih =>
    rw [sourceSegmentURL] at found ⊢
    cases asks : o.sourceSegments
    · simp only [asks, Bool.false_eq_true, if_false] at found ⊢
      obtain ⟨pre, o', post, rfl, skipped, asks', named⟩ := ih found
      exact ⟨o :: pre, o', post, rfl, List.forall_mem_cons.mpr ⟨asks, skipped⟩, asks', named⟩
    · exact ⟨[], o, os, rfl, nofun, asks, if_pos rfl⟩

/-! ## What an accepted request is segmented to -/

/-- Every request `UploadVOD` accepts has its source segments written beside its manifest: the
path it joins and parses is `source/<name>` or ends in `/source/<name>`, for the manifest's
name, which ends in `.m3u8`. -/
theorem uploadVOD_segments_beside_manifest {calls : UploadCalls} {contentType : String}
    {plan : Segmenting} (accepted : uploadVOD calls contentType = .ok plan) :
    calls.parse (Path.join [plan.targetDirPath, "source", Path.base plan.targetURL.string]) =
        .ok plan.sout ∧
      (Path.join [plan.targetDirPath, "source", Path.base plan.targetURL.string] =
          "source/" ++ Path.base plan.targetURL.string ∨
        ∃ pre, Path.join [plan.targetDirPath, "source", Path.base plan.targetURL.string] =
          pre ++ "/source/" ++ Path.base plan.targetURL.string) ∧
      Path.base (Path.join [plan.targetDirPath, "source", Path.base plan.targetURL.string]) =
        Path.base plan.targetURL.string ∧
      Path.ext (Path.base plan.targetURL.string) = ".m3u8" := by
  obtain ⟨_, _, accepts⟩ := uploadVOD_eq_ok_iff.mp accepted
  have manifest := Path.element_base_of_ext accepts.manifest
  have source : Path.Element "source" := ⟨by decide, by decide, by decide, by decide⟩
  have nonempty : plan.targetDirPath ≠ "" := by
    rw [accepts.dirPath]; exact Path.clean_ne_empty _
  refine ⟨accepts.segmented, ?_, Path.base_join_elements nonempty source manifest,
    accepts.manifest⟩
  rcases Path.join_elements nonempty source manifest with joined | ⟨pre, joined⟩ <;> rw [joined]
  · exact .inl rfl
  · exact .inr ⟨pre, by simp only [String.append_assoc]; rfl⟩

theorem uploadVOD_segments_beside_manifest_relative :
    let calls : UploadCalls := ⟨fun v => .ok v, .ok "\x7b\x7d", fun _ => .ok [],
      fun _ => .ok ⟨"in.mp4", [⟨"", false⟩, ⟨"out/index.m3u8", true⟩, ⟨"x/y.m3u8", true⟩]⟩,
      "abc", fun s => .ok ⟨"", "", s, s⟩⟩
    let plan : Segmenting :=
      ⟨"abc", ⟨"in.mp4", [⟨"", false⟩, ⟨"out/index.m3u8", true⟩, ⟨"x/y.m3u8", true⟩]⟩,
        ⟨"", "", "out/index.m3u8", "out/index.m3u8"⟩, "out",
        ⟨"", "", "out/source/index.m3u8", "out/source/index.m3u8"⟩⟩
    uploadVOD calls "application/json" = .ok plan ∧
      calls.parse (Path.join [plan.targetDirPath, "source", Path.base plan.targetURL.string]) =
          .ok plan.sout ∧
        (Path.join [plan.targetDirPath, "source", Path.base plan.targetURL.string] =
            "source/" ++ Path.base plan.targetURL.string ∨
          ∃ pre, Path.join [plan.targetDirPath, "source", Path.base plan.targetURL.string] =
            pre ++ "/source/" ++ Path.base plan.targetURL.string) ∧
        Path.base (Path.join [plan.targetDirPath, "source", Path.base plan.targetURL.string]) =
          Path.base plan.targetURL.string ∧
        Path.ext (Path.base plan.targetURL.string) = ".m3u8" := by
  intro calls plan
  have accepted : uploadVOD calls "application/json" = .ok plan := rfl
  exact ⟨accepted, uploadVOD_segments_beside_manifest accepted⟩

/-- `UploadVOD` takes its target from the first output location that asks for source segments,
and only when that location has a URL: a later location is never used. -/
theorem uploadVOD_targets_first_source_location {calls : UploadCalls} {contentType : String}
    {plan : Segmenting} (accepted : uploadVOD calls contentType = .ok plan) :
    ∃ pre o post, plan.request.outputLocations = pre ++ o :: post ∧
      (∀ p ∈ pre, p.sourceSegments = false) ∧ o.sourceSegments = true ∧ o.url ≠ "" ∧
      calls.parse o.url = .ok plan.targetURL := by
  obtain ⟨_, _, accepts⟩ := uploadVOD_eq_ok_iff.mp accepted
  obtain ⟨pre, o, post, split, skipped, asks, named⟩ := sourceSegmentURL_first accepts.located
  exact ⟨pre, o, post, accepts.locations.trans split, skipped, asks, named ▸ accepts.located,
    named ▸ accepts.target⟩

theorem uploadVOD_targets_first_source_location_of_two :
    let calls : UploadCalls := ⟨fun v => .ok v, .ok "\x7b\x7d", fun _ => .ok [],
      fun _ => .ok ⟨"in.mp4", [⟨"", false⟩, ⟨"out/index.m3u8", true⟩, ⟨"x/y.m3u8", true⟩]⟩,
      "abc", fun s => .ok ⟨"", "", s, s⟩⟩
    let plan : Segmenting :=
      ⟨"abc", ⟨"in.mp4", [⟨"", false⟩, ⟨"out/index.m3u8", true⟩, ⟨"x/y.m3u8", true⟩]⟩,
        ⟨"", "", "out/index.m3u8", "out/index.m3u8"⟩, "out",
        ⟨"", "", "out/source/index.m3u8", "out/source/index.m3u8"⟩⟩
    uploadVOD calls "application/json" = .ok plan ∧
      ∃ pre o post, plan.request.outputLocations = pre ++ o :: post ∧
        (∀ p ∈ pre, p.sourceSegments = false) ∧ o.sourceSegments = true ∧ o.url ≠ "" ∧
        calls.parse o.url = .ok plan.targetURL := by
  intro calls plan
  have accepted : uploadVOD calls "application/json" = .ok plan := rfl
  exact ⟨accepted, uploadVOD_targets_first_source_location accepted⟩

/-! ## The gateway -/

/-- The calls of a request with `url` as its source URL and everything else alike. -/
def UploadCalls.withSource (calls : UploadCalls) (url : String) : UploadCalls :=
  { calls with unmarshal := fun payload =>
      (fun request => { request with url := url }) <$> calls.unmarshal payload }

/-- `UploadVOD` reads the source URL only through `dStorageToHTTP`. -/
theorem uploadVOD_withSource (calls : UploadCalls) (contentType : String) {u v : String}
    (same : dStorageToHTTP calls.parse u = dStorageToHTTP calls.parse v) :
    uploadVOD (calls.withSource u) contentType = uploadVOD (calls.withSource v) contentType := by
  simp only [uploadVOD, UploadCalls.withSource, decodePayload_map, bind_map_left, same]

theorem dStorageToHTTP_of_dstorage {parse : String → Except String URL} {u : String} {su : URL}
    (parsed : parse u = .ok su) (dstorage : su.scheme = schemeIPFS ∨ su.scheme = schemeArweave) :
    dStorageToHTTP parse u = ((if su.scheme = schemeIPFS then "https://cloudflare-ipfs.com/ipfs/"
      else "https://arweave.net/") ++ su.host, none) := by
  unfold dStorageToHTTP
  rw [parsed]
  dsimp only
  rcases dstorage with ipfs | arweave
  · simp only [ipfs, if_true]
  · have notIPFS : su.scheme ≠ schemeIPFS := by rw [arweave]; decide
    simp only [if_neg notIPFS, if_pos arweave]

/-- An IPFS or Arweave source URL reaches `UploadVOD` only through its scheme and host: two such
URLs with one scheme and one host pass the gateway without error, to one gateway URL, and the
handler answers the two requests alike, whatever their paths. -/
theorem uploadVOD_source_host_only {calls : UploadCalls} {contentType u v : String} {su sv : URL}
    (parsedU : calls.parse u = .ok su) (parsedV : calls.parse v = .ok sv)
    (scheme : su.scheme = sv.scheme) (host : su.host = sv.host)
    (dstorage : su.scheme = schemeIPFS ∨ su.scheme = schemeArweave) :
    (dStorageToHTTP calls.parse u).2 = none ∧
      dStorageToHTTP calls.parse u = dStorageToHTTP calls.parse v ∧
      uploadVOD (calls.withSource u) contentType = uploadVOD (calls.withSource v) contentType := by
  have same : dStorageToHTTP calls.parse u = dStorageToHTTP calls.parse v := by
    rw [dStorageToHTTP_of_dstorage parsedU dstorage,
      dStorageToHTTP_of_dstorage parsedV (scheme ▸ dstorage), scheme, host]
  exact ⟨by rw [dStorageToHTTP_of_dstorage parsedU dstorage], same,
    uploadVOD_withSource calls contentType same⟩

theorem uploadVOD_source_host_only_ipfs :
    let calls : UploadCalls := ⟨fun v => .ok v, .ok "\x7b\x7d", fun _ => .ok [],
      fun _ => .ok ⟨"", [⟨"out/index.m3u8", true⟩]⟩, "abc", fun s => .ok ⟨"ipfs", "cid", s, s⟩⟩
    let plan : Segmenting := ⟨"abc", ⟨"https://cloudflare-ipfs.com/ipfs/cid",
        [⟨"out/index.m3u8", true⟩]⟩, ⟨"ipfs", "cid", "out/index.m3u8", "out/index.m3u8"⟩, "out",
        ⟨"ipfs", "cid", "out/source/index.m3u8", "out/source/index.m3u8"⟩⟩
    uploadVOD (calls.withSource "ipfs://cid/a.mp4") "application/json" = .ok plan ∧
      (dStorageToHTTP calls.parse "ipfs://cid/a.mp4").2 = none ∧
      dStorageToHTTP calls.parse "ipfs://cid/a.mp4" = dStorageToHTTP calls.parse "ipfs://cid/b.mp4" ∧
      uploadVOD (calls.withSource "ipfs://cid/a.mp4") "application/json" =
        uploadVOD (calls.withSource "ipfs://cid/b.mp4") "application/json" := by
  intro calls plan
  exact ⟨rfl, uploadVOD_source_host_only rfl rfl rfl rfl (.inl rfl)⟩

end DmsApi.Handlers
