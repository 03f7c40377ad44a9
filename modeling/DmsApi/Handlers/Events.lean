import DmsApi.Handlers.UploadVOD

/-! # Broadcasting an event

`Events` takes an event Studio posts and checks its body as `UploadVOD` does. It then hands the
event to the cluster as a serf user event: named `<resource>-<playback_id>`, carrying the
payload as it was read, and marked for serf to coalesce with other events of the same name. A
failed broadcast is answered with an internal server error.

Two events whose resources have no `-` get one name only when they are equal, so serf never
coalesces different ones; `stream`/`a-b` and `stream-a`/`b` do share a name. On an error of the
schema validator itself the two handlers part: a bad request here, an internal server error in
`UploadVOD`.
-/

namespace DmsApi.Handlers

/-- `Event`. -/
structure Event where
  resource : String
  playbackID : String
deriving DecidableEq, Repr

/-- `serf.UserEvent`. -/
structure SerfUserEvent where
  name : String
  payload : String
  coalesce : Bool
deriving DecidableEq, Repr

/-- The results `Events` takes from outside: the body checks, as for `UploadVOD`, and
`cluster.BroadcastEvent`. -/
structure EventsCalls where
  readAll : Except String String
  validate : String → Except String (List String)
  unmarshal : String → Except String Event
  broadcastEvent : SerfUserEvent → Except String Unit

/-- What `Events()` does with a request: the user event it hands to `cluster.BroadcastEvent`,
when it gets that far, and the error response it writes, if any. -/
structure EventsOutcome where
  broadcast : Option SerfUserEvent
  response : Option ErrorResponse
deriving DecidableEq, Repr

def events (calls : EventsCalls) : EventsOutcome :=
  match decodePayload calls.readAll calls.validate calls.unmarshal .badRequest with
  | .error response => ⟨none, some response⟩
  | .ok (payload, event) =>
    let userEvent : SerfUserEvent := ⟨event.resource ++ "-" ++ event.playbackID, payload, true⟩
    match calls.broadcastEvent userEvent with
    | .error err => ⟨some userEvent, some (.internalServerError "Cannot process event" err)⟩
    | .ok () => ⟨some userEvent, none⟩

/-- Every user event `Events` hands on carries a payload that was read, validated and decoded, is
named after the decoded event, and is answered with an error exactly when the broadcast fails. -/
theorem events_broadcasts_checked_payload {calls : EventsCalls} {userEvent : SerfUserEvent}
    {response : Option ErrorResponse} (handled : events calls = ⟨some userEvent, response⟩) :
    ∃ event, calls.readAll = .ok userEvent.payload ∧ calls.validate userEvent.payload = .ok [] ∧
      calls.unmarshal userEvent.payload = .ok event ∧
      userEvent = ⟨event.resource ++ "-" ++ event.playbackID, userEvent.payload, true⟩ ∧
      (response = none ↔ calls.broadcastEvent userEvent = .ok ()) := by
  unfold events at handled
  split at handled
  · cases handled
  · next payload event decoded =>
    obtain ⟨read, valid, unmarshalled⟩ := decodePayload_eq_ok.mp decoded
    dsimp only at handled
    split at handled <;>
      obtain ⟨rfl, rfl⟩ := by simpa only [EventsOutcome.mk.injEq, Option.some.injEq] using handled
    · next err failed => exact ⟨event, read, valid, unmarshalled, rfl, by simp [failed]⟩
    · next broadcast => exact ⟨event, read, valid, unmarshalled, rfl, by simp [broadcast]⟩

/-- Serf coalesces user events by name. The names `Events` gives keep apart any two events whose
resources have no `-`: two such events are handed on under one name exactly when they are equal. -/
theorem events_same_name_iff {calls calls' : EventsCalls} {userEvent userEvent' : SerfUserEvent}
    {response response' : Option ErrorResponse} {event event' : Event}
    (handled : events calls = ⟨some userEvent, response⟩)
    (handled' : events calls' = ⟨some userEvent', response'⟩)
    (decoded : calls.unmarshal userEvent.payload = .ok event)
    (decoded' : calls'.unmarshal userEvent'.payload = .ok event')
    (plain : '-' ∉ event.resource.toList) (plain' : '-' ∉ event'.resource.toList) :
    userEvent.name = userEvent'.name ↔ event = event' := by
  obtain ⟨e, _, _, unmarshalled, named, _⟩ := events_broadcasts_checked_payload handled
  obtain ⟨e', _, _, unmarshalled', named', _⟩ := events_broadcasts_checked_payload handled'
  obtain rfl : e = event := Except.ok.inj (unmarshalled.symm.trans decoded)
  obtain rfl : e' = event' := Except.ok.inj (unmarshalled'.symm.trans decoded')
  cases e
  cases e'
  rw [named, named', Event.mk.injEq]
  exact Strings.append_sep_inj plain plain'

theorem events_same_name_iff_two_streams :
    let calls : EventsCalls := ⟨.ok "p", fun _ => .ok [], fun _ => .ok ⟨"stream", "abc"⟩,
      fun _ => .ok ()⟩
    let calls' : EventsCalls := ⟨.ok "q", fun _ => .ok [], fun _ => .ok ⟨"stream", "def"⟩,
      fun _ => .error "no members"⟩
    let userEvent : SerfUserEvent := ⟨"stream-abc", "p", true⟩
    let userEvent' : SerfUserEvent := ⟨"stream-def", "q", true⟩
    events calls = ⟨some userEvent, none⟩ ∧
      events calls' = ⟨some userEvent', some (.internalServerError "Cannot process event"
        "no members")⟩ ∧
      calls.unmarshal userEvent.payload = .ok ⟨"stream", "abc"⟩ ∧
      calls'.unmarshal userEvent'.payload = .ok ⟨"stream", "def"⟩ ∧
      '-' ∉ "stream".toList ∧
      (userEvent.name = userEvent'.name ↔ (⟨"stream", "abc"⟩ : Event) = ⟨"stream", "def"⟩) := by
  intro calls calls' userEvent userEvent'
  have handled : events calls = ⟨some userEvent, none⟩ := by decide
  have handled' : events calls' = ⟨some userEvent', some (.internalServerError
      "Cannot process event" "no members")⟩ := by decide
  have plain : '-' ∉ "stream".toList := by decide
  exact ⟨handled, handled', rfl, rfl, plain,
    events_same_name_iff handled handled' rfl rfl plain plain⟩

/-- Without that condition names collide: these two events are both named `stream-a-b`. -/
example : ("stream" : String) ++ "-" ++ "a-b" = "stream-a" ++ "-" ++ "b" ∧
    (⟨"stream", "a-b"⟩ : Event) ≠ ⟨"stream-a", "b"⟩ := by decide

/-- Where the two JSON handlers part: on a body the schema validator fails on, `Events` answers
a bad request and hands nothing to the cluster, and `UploadVOD`, past its content type, answers
an internal server error, both with the validator's error. -/
theorem validator_error_answers {eventsCalls : EventsCalls} {uploadCalls : UploadCalls}
    {contentType payload err : String} (readEvent : eventsCalls.readAll = .ok payload)
    (failedEvent : eventsCalls.validate payload = .error err)
    (json : hasContentType uploadCalls.parseMediaType contentType "application/json" = true)
    (readUpload : uploadCalls.readAll = .ok payload)
    (failedUpload : uploadCalls.validate payload = .error err) :
    events eventsCalls = ⟨none, some (.badRequest "Cannot validate payload" err)⟩ ∧
      uploadVOD uploadCalls contentType =
        .error (.internalServerError "Cannot validate payload" err) := by
  constructor
  · simp only [events, decodePayload_of_validator_error _ _ readEvent failedEvent]
  · simp [uploadVOD, json, decodePayload_of_validator_error _ _ readUpload failedUpload, bind,
      Except.bind, pure, Except.pure]

end DmsApi.Handlers
