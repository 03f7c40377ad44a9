import DmsApi.Go.Strings

/-! # Reading a JSON request body

`UploadVOD` and `Events` read a request's body, check it against the handler's JSON schema and
decode it, in that order and with the same messages, and answer the first failure with an error
response. They differ in one answer: an error of the schema validator itself is an internal
server error for `UploadVOD` and a bad request for `Events`.
-/

namespace DmsApi.Handlers

/-- The responses of the `errors` package the handler writes: the status, the message and the
error behind it. -/
inductive ErrorResponse where
  | unsupportedMediaType (msg : String)
  | internalServerError (msg err : String)
  | badRequest (msg err : String)
deriving DecidableEq, Repr

/-- How `%s` prints `result.Errors()`: the errors' texts, space separated, in brackets. -/
def errorsText (errors : List String) : String := "[" ++ Strings.join errors ' ' ++ "]"

/-- The body checks of a JSON handler: `io.ReadAll`, the schema's verdict and `json.Unmarshal`;
`validateError` is the response to an error of the validator itself. -/
def decodePayload {α : Type} (readAll : Except String String)
    (validate : String → Except String (List String)) (unmarshal : String → Except String α)
    (validateError : String → String → ErrorResponse) : Except ErrorResponse (String × α) := do
  let payload ← readAll.mapError (.internalServerError "Cannot read payload")
  let errors ← (validate payload).mapError (validateError "Cannot validate payload")
  if errors ≠ [] then
    throw (.badRequest "Invalid request payload" (errorsText errors))
  let request ← (unmarshal payload).mapError (.badRequest "Invalid request payload")
  pure (payload, request)

/-! ## Reading a handler back -/

theorem bind_eq_ok {ε α β : Type} {x : Except ε α} {f : α → Except ε β} {r : β} :
    x >>= f = .ok r ↔ ∃ a, x = .ok a ∧ f a = .ok r := by
  cases x <;> simp [bind, Except.bind]

theorem mapError_eq_ok {ε ε' α : Type} {x : Except ε α} {g : ε → ε'} {a : α} :
    x.mapError g = .ok a ↔ x = .ok a := by
  cases x <;> simp [Except.mapError]

theorem ite_throw_bind_eq_ok {ε β : Type} {c : Prop} [Decidable c] {e : ε}
    {f : PUnit → Except ε β} {r : β} :
    (if c then throw e >>= f else pure PUnit.unit >>= f) = .ok r ↔ ¬c ∧ f PUnit.unit = .ok r := by
  by_cases c <;> simp [*, throw, throwThe, MonadExceptOf.throw, bind, Except.bind, pure,
    Except.pure]

/-- The body checks pass exactly when the body is read, breaks nothing of the schema and
decodes. -/
theorem decodePayload_eq_ok {α : Type} {readAll : Except String String}
    {validate : String → Except String (List String)} {unmarshal : String → Except String α}
    {validateError : String → String → ErrorResponse} {payload : String} {request : α} :
    decodePayload readAll validate unmarshal validateError = .ok (payload, request) ↔
      readAll = .ok payload ∧ validate payload = .ok [] ∧ unmarshal payload = .ok request := by
  simp only [decodePayload, bind_eq_ok, mapError_eq_ok, ite_throw_bind_eq_ok]
  simp only [ne_eq, not_not, pure, Except.pure, Except.ok.injEq, Prod.mk.injEq]
  constructor
  · rintro ⟨_, read, _, valid, rfl, _, decoded, rfl, rfl⟩
    exact ⟨read, valid, decoded⟩
  · rintro ⟨read, valid, decoded⟩
    exact ⟨payload, read, [], valid, rfl, request, decoded, rfl, rfl⟩

/-- Decoding and then changing the request is decoding with the change made. -/
theorem decodePayload_map {α β : Type} (readAll : Except String String)
    (validate : String → Except String (List String)) (unmarshal : String → Except String α)
    (validateError : String → String → ErrorResponse) (f : α → β) :
    decodePayload readAll validate (fun payload => f <$> unmarshal payload) validateError =
      (fun decoded => (decoded.1, f decoded.2)) <$>
        decodePayload readAll validate unmarshal validateError := by
  unfold decodePayload
  rcases readAll with _ | payload
  · rfl
  simp only [Except.mapError, bind, Except.bind]
  rcases validate payload with _ | errors
  · rfl
  dsimp only
  by_cases found : errors ≠ []
  · rw [if_pos found, if_pos found]; rfl
  · rw [if_neg found, if_neg found]
    rcases unmarshal payload with _ | r <;> rfl

/-- A body the schema validator fails on is answered with `validateError` and the validator's
error. -/
theorem decodePayload_of_validator_error {α : Type} {readAll : Except String String}
    {validate : String → Except String (List String)} (unmarshal : String → Except String α)
    (validateError : String → String → ErrorResponse) {payload err : String}
    (read : readAll = .ok payload) (failed : validate payload = .error err) :
    decodePayload readAll validate unmarshal validateError =
      .error (validateError "Cannot validate payload" err) := by
  simp [decodePayload, read, failed, Except.mapError, bind, Except.bind]

end DmsApi.Handlers
