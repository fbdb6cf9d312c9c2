import FlowObservability.Control

/-!
The ingest route of the control plane, and what the uploader makes of a response.
-/

namespace FlowObservability

/-- The limit of axum's `Json` extractor on a request body, which `control_router` leaves as
it is. -/
def DEFAULT_BODY_LIMIT : Nat := 2097152

inductive StatusCode where
  | badRequest
  | conflict
  | payloadTooLarge
  | unsupportedMediaType
  | unprocessableEntity
  | internalServerError
  | insufficientStorage
  deriving DecidableEq, Repr

/-- The text of a failed response: one of the handler's own, or an error as it displays. -/
inductive FailureText where
  | text (message : String)
  | display (error : IngestError)
  deriving DecidableEq, Repr

inductive Response where
  | ack (ack : IngestAck)
  | failure (status : StatusCode) (text : FailureText)
  deriving DecidableEq, Repr

def isStorageFull (error : RusqliteError) : Bool := error == .sqliteFailure .diskFull

def ingestResponse (envelope : BatchEnvelope) : Except IngestError IngestStatus → Response
  | .ok status => .ack { batchId := envelope.batchId, status }
  | .error .schemaVersion => .failure .badRequest (.text "invalid batch")
  | .error .checksum => .failure .badRequest (.text "invalid batch")
  | .error .conflict => .failure .conflict (.text "batch identity conflict")
  | .error (.database error) =>
    if isStorageFull error then
      .failure .insufficientStorage (.text "control storage limit reached")
    else .failure .internalServerError (.display (.database error))
  | .error (.encoding error) => .failure .internalServerError (.display (.encoding error))

/-- The refusals of axum's `Json` extractor. -/
inductive JsonRejection where
  | missingJsonContentType
  | lengthLimit
  | failure (failure : JsonFailure)
  deriving DecidableEq, Repr

def JsonRejection.response : JsonRejection → Response
  | .missingJsonContentType =>
    .failure .unsupportedMediaType (.text "Expected request with `Content-Type: application/json`")
  | .lengthLimit =>
    .failure .payloadTooLarge (.text "Failed to buffer the request body: length limit exceeded")
  | .failure (.syntaxError error) =>
    .failure .badRequest (.text ("Failed to parse the request body as JSON: " ++ error))
  | .failure (.dataError error) =>
    .failure .unprocessableEntity
      (.text ("Failed to deserialize the JSON body into the target type: " ++ error))

/-- A request to `/v1/ingest` with the JSON content type: the extractor, then the handler. -/
def ingestRoute (external : External) (faults : ControlFaults) (limits : ControlLimits)
    (clock : Option UInt64) (request : String) (tables : ControlTables) :
    Response × ControlTables :=
  if DEFAULT_BODY_LIMIT < request.utf8ByteSize then
    (JsonRejection.lengthLimit.response, tables)
  else
    match external.fromSlice request with
    | none => ((JsonRejection.failure (external.sliceError request)).response, tables)
    | some envelope =>
      let outcome := ControlStore.ingest external faults limits envelope clock tables
      (ingestResponse envelope outcome.1, outcome.2)

theorem JsonRejection.response_ne_ack (rejection : JsonRejection) (ack : IngestAck) :
    rejection.response ≠ .ack ack := by
  cases rejection with
  | missingJsonContentType => simp [response]
  | lengthLimit => simp [response]
  | failure failure =>
      cases failure with
      | syntaxError error => simp [response]
      | dataError error => simp [response]

/-- What `upload_once` does with a response before it acknowledges the batch: `ureq` turns a
status of 400 or more into an error. -/
def readAck (envelope : BatchEnvelope) : Response → Except AnyhowError Unit
  | .failure _ _ => .error (.message ("upload batch " ++ envelope.batchId))
  | .ack ack =>
    if ack.batchId ≠ envelope.batchId then
      .error (.message "ingest ack batch id does not match request")
    else .ok ()

theorem ingestResponse_ack {envelope : BatchEnvelope}
    {answer : Except IngestError IngestStatus} {ack : IngestAck}
    (response : ingestResponse envelope answer = .ack ack) :
    answer = .ok ack.status ∧ ack.batchId = envelope.batchId := by
  unfold ingestResponse at response
  split at response
  · cases response
    exact ⟨rfl, rfl⟩
  · cases response
  · cases response
  · cases response
  · split at response
    · cases response
    · cases response
  · cases response

theorem readAck_ok {envelope : BatchEnvelope} {response : Response}
    (result : readAck envelope response = .ok ()) :
    ∃ ack, response = .ack ack ∧ ack.batchId = envelope.batchId := by
  cases response with
  | failure status text => simp [readAck] at result
  | ack ack =>
      by_cases same : ack.batchId = envelope.batchId
      · exact ⟨ack, rfl, same⟩
      · simp [readAck, same] at result

end FlowObservability
