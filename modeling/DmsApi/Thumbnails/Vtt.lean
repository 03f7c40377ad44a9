import DmsApi.Go.Strings
import DmsApi.Go.Runtime
import DmsApi.Go.Strconv
import Mathlib.Data.Rat.Floor
import Mathlib.Algebra.Order.BigOperators.Group.List
import Mathlib.Tactic.Ring

/-! # The thumbnail track

`GenerateThumbsVTT` writes a WEBVTT track with one cue per segment of a media playlist,
naming the segment's thumbnail and spanning the segment's time. The cue boundaries run on a
`time.Time` from the zero time: each segment advances it by `time.Duration(d) * time.Second`,
which truncates the float64 duration `d` to whole seconds before it scales it, and each
boundary is printed with the layout `15:04:05.000`, a time of day. So the cues tile a
timeline of whole-second durations that starts again every 24 hours; it is the playlist's
own timeline only for whole-second durations adding up to less than a day.
-/

namespace DmsApi.Thumbnails

/-- A segment of a media playlist: its URI and its duration in seconds, a float64 and so a
rational number. -/
structure MediaSegment where
  uri : String
  duration : ℚ

def segmentPrefix : String := "index"

def thumbFilename (segmentURI : String) : Except String String :=
  let index := Strings.trimSuffix (Strings.trimPrefix segmentURI segmentPrefix) ".ts"
  match Strconv.parseInt index 32 with
  | .error err => .error ("thumbFilename failed for " ++ segmentURI ++ ": " ++ err.error)
  | .ok i => pure ("keyframes_" ++ toString i ++ ".jpg")

/-- `thumbFilename` on the URI of segment `n`: the thumbnail of the same number while it fits in
an `int32`, and a range error naming the URI beyond. -/
theorem thumbFilename_index (n : Nat) :
    thumbFilename ("index" ++ toString n ++ ".ts") =
      if n < 2147483648 then .ok ("keyframes_" ++ toString n ++ ".jpg")
      else .error ("thumbFilename failed for " ++ ("index" ++ toString n ++ ".ts") ++ ": " ++
        Strconv.NumError.error ⟨"ParseInt", toString n, .errRange⟩) := by
  have index : Strings.trimSuffix (Strings.trimPrefix ("index" ++ toString n ++ ".ts")
      segmentPrefix) ".ts" = toString n := by
    rw [segmentPrefix, String.append_assoc, Strings.trimPrefix_append, Strings.trimSuffix_append]
  simp only [thumbFilename, index, Strconv.parseInt_toString n (by decide : 0 < 32) (by decide)]
  by_cases fits : n < 2147483648
  · simp [fits]
    rfl
  · simp [fits]

/-- `time.Duration(f)` for a float64 `f`: truncation toward zero, and the least `int64` when
that does not fit, as the conversion instruction of amd64 gives. -/
def durationOfFloat (f : ℚ) : Duration :=
  let truncated := if 0 ≤ f then ⌊f⌋ else ⌈f⌉
  if minDuration ≤ truncated ∧ truncated ≤ maxDuration then truncated else minDuration

/-- `appendInt(b, n, width)` for `n ≥ 0`: its decimal digits, zero-padded on the left to
`width`. -/
def appendInt (n width : Nat) : String :=
  let digits := Nat.toDigits 10 n
  ⟨List.replicate (width - digits.length) '0' ++ digits⟩

/-- `t.Format("15:04:05.000")`: the time of day, to the millisecond. -/
def formatClock (t : Time) : String :=
  let daySec := (t / second % 86400).toNat
  let nsec := (t % second).toNat
  appendInt (daySec / 3600) 2 ++ ":" ++ appendInt (daySec % 3600 / 60) 2 ++ ":" ++
    appendInt (daySec % 60) 2 ++ "." ++ appendInt (nsec / 1000000) 3

/-- How far a segment moves the clock: `time.Duration(segment.Duration) * time.Second`. -/
def segmentStep (segment : MediaSegment) : Duration :=
  wrapInt64 (durationOfFloat segment.duration * second)

/-- The loop over the segments, from the clock `currentTime` and the text `builder` written so
far; `findThumb` is the lookup of a thumbnail on storage, retries included. -/
def writeCues (findThumb : String → Except String Unit) :
    List MediaSegment → Time → String → Except String String
  | [], _, builder => .ok builder
  | segment :: rest, currentTime, builder =>
    match thumbFilename segment.uri with
    | .error err => .error err
    | .ok filename =>
      match findThumb filename with
      | .error err => .error ("failed to find thumb " ++ filename ++ ": " ++ err)
      | .ok () =>
        let start := formatClock currentTime
        let currentTime := add currentTime (segmentStep segment)
        writeCues findThumb rest currentTime
          (builder ++ start ++ " --> " ++ formatClock currentTime ++ "\n" ++ filename ++ "\n\n")

/-- `GenerateThumbsVTT` from the decoded media playlist on: `findThumb` looks a thumbnail up
and `upload` stores the track. The track it uploads is its result. -/
def generateThumbsVTT (findThumb upload : String → Except String Unit)
    (segments : List MediaSegment) : Except String String :=
  match writeCues findThumb segments 0 "WEBVTT\n" with
  | .error err => .error err
  | .ok track =>
    match upload track with
    | .error err => .error ("failed to upload vtt: " ++ err)
    | .ok () => pure track

/-! ## The track the loop writes -/

/-- The cues written from the clock `t`, one per `(filename, step)`, each ending where the
next starts. -/
def clockCues (t : Time) : List (String × Duration) → String
  | [] => ""
  | (filename, step) :: rest =>
    formatClock t ++ " --> " ++ formatClock (add t step) ++ "\n" ++ filename ++ "\n\n" ++
      clockCues (add t step) rest

/-- When every thumbnail is named and found, the loop appends one cue per segment, stepping
the clock by each segment's truncated duration. -/
theorem writeCues_of_found (findThumb : String → Except String Unit)
    {segments : List MediaSegment} {names : List String}
    (named : segments.map (fun segment => thumbFilename segment.uri) = names.map .ok)
    (found : ∀ name ∈ names, findThumb name = .ok ()) (t : Time) (builder : String) :
    writeCues findThumb segments t builder =
      .ok (builder ++ clockCues t (names.zip (segments.map segmentStep))) := by
  induction segments generalizing names t builder with
  | nil =>
    cases names with
    | nil => simp [writeCues, clockCues]
    | cons => cases named
  | cons segment rest ih =>
    cases names with
    | nil => cases named
    | cons name names =>
      simp only [List.map_cons, List.cons.injEq] at named
      simp only [writeCues, named.1, found name (List.mem_cons_self name names), List.map_cons,
        List.zip_cons_cons, clockCues,
        ih named.2 (fun n mem => found n (List.mem_cons_of_mem name mem)), String.append_assoc]
      rfl

/-! ## The playlist's timeline -/

/-- A boundary as the playlist's timeline reads it: `D` seconds of elapsed time in hours,
minutes, seconds and milliseconds, truncated to the millisecond. -/
def elapsedText (D : ℚ) : String :=
  let ms := ⌊D * 1000⌋.toNat
  appendInt (ms / 3600000) 2 ++ ":" ++ appendInt (ms / 60000 % 60) 2 ++ ":" ++
    appendInt (ms / 1000 % 60) 2 ++ "." ++ appendInt (ms % 1000) 3

/-- The cues of the playlist's timeline after `start` seconds, one per `(filename, duration)`,
each from the sum of the durations before it to the sum including it. -/
def elapsedCues (start : ℚ) : List (String × ℚ) → String
  | [] => ""
  | (filename, d) :: rest =>
    elapsedText start ++ " --> " ++ elapsedText (start + d) ++ "\n" ++ filename ++ "\n\n" ++
      elapsedCues (start + d) rest

section WholeSeconds

/-- A whole number of seconds that fits is converted exactly. -/
theorem durationOfFloat_natCast {n : ℕ} (fits : n ≤ 9223372036854775807) :
    durationOfFloat n = n := by
  unfold durationOfFloat minDuration maxDuration Duration
  simp only [Nat.cast_nonneg, if_true, Int.floor_natCast]
  split_ifs with inRange
  · rfl
  · omega

theorem wrapInt64_of_fits {x : Int} (low : -9223372036854775808 ≤ x)
    (high : x < 9223372036854775808) : wrapInt64 x = x := by
  unfold wrapInt64
  omega

theorem add_of_fits {t d : Int} (low : 0 ≤ t + d) (high : t + d < 9223372036854775807) :
    add t d = t + d := by
  unfold add second Time Duration
  dsimp only
  split_ifs <;> omega

/-- A whole-second duration shorter than a day steps the clock by exactly its seconds. -/
theorem step_whole {n : ℕ} (short : n < 86400) :
    wrapInt64 (durationOfFloat n * second) = n * second := by
  rw [durationOfFloat_natCast (by omega), wrapInt64_of_fits] <;> simp only [second] <;> omega

/-- Within a day, the clock at a whole second prints as that much elapsed time. -/
theorem formatClock_whole {S : ℕ} (short : S < 86400) :
    formatClock ((S : Int) * second) = elapsedText S := by
  have floor : ⌊(S : ℚ) * 1000⌋.toNat = S * 1000 := by
    rw [show (S : ℚ) * 1000 = ((S * 1000 : ℕ) : ℚ) by push_cast; rfl, Int.floor_natCast,
      Int.toNat_natCast]
  have day : ((S : Int) * second / second % 86400).toNat = S := by
    simp only [second]
    omega
  have nano : ((S : Int) * second % second).toNat / 1000000 = S * 1000 % 1000 := by
    simp only [second]
    omega
  have hours : S / 3600 = S * 1000 / 3600000 := by omega
  have minutes : S % 3600 / 60 = S * 1000 / 60000 % 60 := by omega
  have seconds : S % 60 = S * 1000 / 1000 % 60 := by omega
  simp only [formatClock, elapsedText, floor, day, nano, hours, minutes, seconds]

theorem clockCues_whole (names : List String) (seconds : List ℕ) (S : ℕ)
    (short : S + seconds.sum < 86400) :
    clockCues ((S : Int) * second) (names.zip (seconds.map fun n : ℕ => (n : Int) * second)) =
      elapsedCues S (names.zip (seconds.map fun n : ℕ => (n : ℚ))) := by
  induction names generalizing seconds S with
  | nil => rfl
  | cons name names ih =>
    cases seconds with
    | nil => rfl
    | cons n seconds =>
      rw [List.sum_cons] at short
      have current : S < 86400 := by omega
      have next : S + n < 86400 := by omega
      have step : add ((S : Int) * second) ((n : Int) * second) = ((S + n : ℕ) : Int) * second := by
        rw [add_of_fits (by simp only [second_eq]; omega) (by simp only [second_eq]; omega)]
        push_cast
        ring
      have sum : (S : ℚ) + n = ((S + n : ℕ) : ℚ) := by push_cast; rfl
      rw [List.map_cons, List.map_cons, List.zip_cons_cons, List.zip_cons_cons, clockCues,
        elapsedCues, step, sum, formatClock_whole current, formatClock_whole next,
        ih seconds (S + n) (by omega)]

/-- For whole-second durations adding up to less than a day, the track uploaded is the
playlist's own timeline: one cue per segment, naming its thumbnail, from the elapsed time
before the segment to the elapsed time after it. -/
theorem generateThumbsVTT_whole_seconds (findThumb upload : String → Except String Unit)
    {segments : List MediaSegment} {names : List String} {seconds : List ℕ}
    (named : segments.map (fun segment => thumbFilename segment.uri) = names.map .ok)
    (found : ∀ name ∈ names, findThumb name = .ok ())
    (whole : segments.map (·.duration) = seconds.map fun n : ℕ => (n : ℚ))
    (short : seconds.sum < 86400)
    (uploaded : upload ("WEBVTT\n" ++ elapsedCues 0 (names.zip (segments.map (·.duration)))) =
      .ok ()) :
    generateThumbsVTT findThumb upload segments =
      .ok ("WEBVTT\n" ++ elapsedCues 0 (names.zip (segments.map (·.duration)))) := by
  have steps : segments.map segmentStep = seconds.map fun n : ℕ => (n : Int) * second := by
    calc segments.map segmentStep
        = (segments.map (·.duration)).map fun d => wrapInt64 (durationOfFloat d * second) := by
          rw [List.map_map]; rfl
      _ = seconds.map fun n : ℕ => (n : Int) * second := by
          rw [whole, List.map_map]
          exact List.map_congr_left fun n mem =>
            step_whole (lt_of_le_of_lt (List.le_sum_of_mem mem) short)
  have track := clockCues_whole names seconds 0 (by simpa using short)
  simp only [Nat.cast_zero, zero_mul] at track
  rw [generateThumbsVTT, writeCues_of_found findThumb named found 0, steps, track, ← whole]
  simp only [uploaded]
  rfl

theorem generateThumbsVTT_whole_seconds_single :
    let segments : List MediaSegment := [⟨"index0.ts", 2⟩, ⟨"index1.ts", 3⟩]
    let names := ["keyframes_0.jpg", "keyframes_1.jpg"]
    segments.map (fun segment => thumbFilename segment.uri) = names.map .ok ∧
    segments.map (·.duration) = [2, 3].map (fun n : ℕ => (n : ℚ)) ∧ [2, 3].sum < 86400 ∧
    generateThumbsVTT (fun _ => .ok ()) (fun _ => .ok ()) segments =
      .ok ("WEBVTT\n" ++ elapsedCues 0 (names.zip (segments.map (·.duration)))) :=
  have named : [(⟨"index0.ts", 2⟩ : MediaSegment), ⟨"index1.ts", 3⟩].map
      (fun segment => thumbFilename segment.uri) = ["keyframes_0.jpg", "keyframes_1.jpg"].map .ok :=
    rfl
  have whole : [(⟨"index0.ts", 2⟩ : MediaSegment), ⟨"index1.ts", 3⟩].map (·.duration) =
      [2, 3].map (fun n : ℕ => (n : ℚ)) := by simp
  ⟨named, whole, by decide,
    generateThumbsVTT_whole_seconds _ _ named (fun _ _ => rfl) whole (by decide) rfl⟩

end WholeSeconds

/-- A segment of two and a half seconds gets a cue of two, as the loop truncates the duration
that the playlist's timeline keeps; and a segment of a whole day ends its cue at midnight. -/
theorem generateThumbsVTT_drifts :
    (generateThumbsVTT (fun _ => .ok ()) (fun _ => .ok ()) [⟨"index0.ts", 5 / 2⟩] =
        .ok "WEBVTT\n00:00:00.000 --> 00:00:02.000\nkeyframes_0.jpg\n\n" ∧
      "WEBVTT\n" ++ elapsedCues 0 [("keyframes_0.jpg", 5 / 2)] =
        "WEBVTT\n00:00:00.000 --> 00:00:02.500\nkeyframes_0.jpg\n\n") ∧
    (generateThumbsVTT (fun _ => .ok ()) (fun _ => .ok ()) [⟨"index0.ts", 86400⟩] =
        .ok "WEBVTT\n00:00:00.000 --> 00:00:00.000\nkeyframes_0.jpg\n\n" ∧
      "WEBVTT\n" ++ elapsedCues 0 [("keyframes_0.jpg", 86400)] =
        "WEBVTT\n00:00:00.000 --> 24:00:00.000\nkeyframes_0.jpg\n\n") := by
  have truncated : durationOfFloat (5 / 2) = 2 := by
    norm_num [durationOfFloat, minDuration, maxDuration]
  have day : durationOfFloat 86400 = 86400 := by
    norm_num [durationOfFloat, minDuration, maxDuration]
  have millis : ⌊((0 : ℚ) + 5 / 2) * 1000⌋.toNat = 2500 := by norm_num; rfl
  have dayMillis : ⌊((0 : ℚ) + 86400) * 1000⌋.toNat = 86400000 := by norm_num; rfl
  have start : ⌊(0 : ℚ) * 1000⌋.toNat = 0 := by norm_num
  refine ⟨⟨?_, ?_⟩, ?_, ?_⟩
  · simp only [generateThumbsVTT, writeCues, segmentStep, truncated]
    rfl
  · simp only [elapsedCues, elapsedText, millis, start]
    rfl
  · simp only [generateThumbsVTT, writeCues, segmentStep, day]
    rfl
  · simp only [elapsedCues, elapsedText, dayMillis, start]
    rfl

end DmsApi.Thumbnails
