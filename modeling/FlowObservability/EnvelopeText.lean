import FlowObservability.Envelope
import FlowObservability.Library.JsonFields

/-!
`Deserialize`, as the derive attributes of `model.rs` lay it out, and the round trip of an
envelope through the two texts it is sent as.
-/

namespace FlowObservability

open Json

def readUInt8 (document : Json) : Option UInt8 := (readBelow (2 ^ 8) document).map UInt8.ofNat

def readUInt16 (document : Json) : Option UInt16 := (readBelow (2 ^ 16) document).map UInt16.ofNat

def readUInt64 (document : Json) : Option UInt64 := (readBelow (2 ^ 64) document).map UInt64.ofNat

def Direction.fromJson : Json → Option Direction := readVariant [
  ("ingress", .ingress), ("egress", .egress), ("internal", .internal), ("unknown", .unknown)]

/-- A variant that has no content: its field is null or missing. -/
def TransportProtocol.unit (protocol : TransportProtocol) (fields : List (String × Json)) :
    Option TransportProtocol := do
  let _ ← Json.optional "number" readUnit fields
  return protocol

def TransportProtocol.variants :
    List (String × (List (String × Json) → Option TransportProtocol)) := [
  ("tcp", unit tcp), ("udp", unit udp), ("icmp", unit icmp),
  ("other", fun fields => (required "number" readUInt8 fields).map other)]

def TransportProtocol.fromJson : Json → Option TransportProtocol :=
  struct ["name", "number"] fun fields => do
    let variant ← required "name" (readVariant variants) fields
    variant fields

def readIpAddr (parseIp : String → Option IpAddr) (document : Json) : Option IpAddr :=
  (readText document).bind parseIp

def FlowKey.fromJson (parseIp : String → Option IpAddr) : Json → Option FlowKey :=
  struct ["capture_point", "direction", "protocol", "source_ip", "destination_ip", "source_port",
      "destination_port"] fun fields => do
    let capturePoint ← required "capture_point" readText fields
    let direction ← required "direction" Direction.fromJson fields
    let protocol ← required "protocol" TransportProtocol.fromJson fields
    let sourceIp ← required "source_ip" (readIpAddr parseIp) fields
    let destinationIp ← required "destination_ip" (readIpAddr parseIp) fields
    let sourcePort ← Json.optional "source_port" readUInt16 fields
    let destinationPort ← Json.optional "destination_port" readUInt16 fields
    return { capturePoint, direction, protocol, sourceIp, destinationIp, sourcePort, destinationPort }

def FlowBucket.fromJson (parseIp : String → Option IpAddr) : Json → Option FlowBucket :=
  struct ["bucket_start", "key", "packets", "bytes"] fun fields => do
    let bucketStart ← required "bucket_start" readUInt64 fields
    let key ← required "key" (FlowKey.fromJson parseIp) fields
    let packets ← required "packets" readUInt64 fields
    let bytes ← required "bytes" readUInt64 fields
    return { bucketStart, key, packets, bytes }

def CaptureDiagnostics.fromJson : Json → Option CaptureDiagnostics :=
  struct ["received", "dropped", "interface_dropped", "parse_errors"] fun fields => do
    let received ← required "received" readUInt64 fields
    let dropped ← required "dropped" readUInt64 fields
    let interfaceDropped ← required "interface_dropped" readUInt64 fields
    let parseErrors ← required "parse_errors" readUInt64 fields
    return { received, dropped, interfaceDropped, parseErrors }

def BatchBody.fromJson (parseIp : String → Option IpAddr) : Json → Option BatchBody :=
  struct ["schema_version", "node_id", "boot_id", "seq", "created_at", "buckets",
      "diagnostics"] fun fields => do
    let schemaVersion ← required "schema_version" readUInt16 fields
    let nodeId ← required "node_id" readText fields
    let bootId ← required "boot_id" readText fields
    let seq ← required "seq" readUInt64 fields
    let createdAt ← required "created_at" readUInt64 fields
    let buckets ← required "buckets" (readArray (FlowBucket.fromJson parseIp)) fields
    let diagnostics ← required "diagnostics" CaptureDiagnostics.fromJson fields
    return { schemaVersion, nodeId, bootId, seq, createdAt, buckets, diagnostics }

def BatchEnvelope.fromJson (parseIp : String → Option IpAddr) : Json → Option BatchEnvelope :=
  struct ["batch_id", "checksum", "body"] fun fields => do
    let batchId ← required "batch_id" readText fields
    let checksum ← required "checksum" readText fields
    let body ← required "body" (BatchBody.fromJson parseIp) fields
    return { batchId, checksum, body }

/-! The order of the fields does not matter to any of them. -/

section Order

variable {parseIp : String → Option IpAddr}

theorem readUInt8_ignoresOrder : IgnoresOrder readUInt8 := fun document =>
  congrArg (Option.map _) (readBelow_ignoresOrder _ document)

theorem readUInt16_ignoresOrder : IgnoresOrder readUInt16 := fun document =>
  congrArg (Option.map _) (readBelow_ignoresOrder _ document)

theorem readUInt64_ignoresOrder : IgnoresOrder readUInt64 := fun document =>
  congrArg (Option.map _) (readBelow_ignoresOrder _ document)

theorem readIpAddr_ignoresOrder : IgnoresOrder (readIpAddr parseIp) := fun document =>
  congrArg (Option.bind · parseIp) (readText_ignoresOrder document)

theorem Direction.fromJson_ignoresOrder : IgnoresOrder Direction.fromJson :=
  readVariant_ignoresOrder _

theorem TransportProtocol.unit_same {protocol : TransportProtocol}
    {sorted fields : List (String × Json)} (same : SameFields sorted fields) :
    protocol.unit sorted = protocol.unit fields := by
  simp only [unit, same.optional readUnit_ignoresOrder]

theorem TransportProtocol.variants_same {name : String}
    {variant : List (String × Json) → Option TransportProtocol}
    (found : (name, variant) ∈ variants) {sorted fields : List (String × Json)}
    (same : SameFields sorted fields) : variant sorted = variant fields := by
  simp only [variants, List.mem_cons, Prod.mk.injEq, List.not_mem_nil, or_false] at found
  rcases found with ⟨_, rfl⟩ | ⟨_, rfl⟩ | ⟨_, rfl⟩ | ⟨_, rfl⟩
  · exact unit_same same
  · exact unit_same same
  · exact unit_same same
  · exact congrArg (Option.map other) (same.required readUInt8_ignoresOrder)

theorem TransportProtocol.fromJson_ignoresOrder : IgnoresOrder TransportProtocol.fromJson := by
  apply struct_ignoresOrder
  intro sorted fields same
  rw [same.required (readVariant_ignoresOrder variants)]
  cases found : required "name" (readVariant variants) fields with
  | none => rfl
  | some variant =>
      obtain ⟨_, _, read⟩ := Option.bind_eq_some_iff.mp found
      obtain ⟨_, member⟩ := readVariant_mem read
      exact variants_same member same

theorem FlowKey.fromJson_ignoresOrder : IgnoresOrder (FlowKey.fromJson parseIp) := by
  apply struct_ignoresOrder
  intro sorted fields same
  simp only [same.required readText_ignoresOrder, same.required Direction.fromJson_ignoresOrder,
    same.required TransportProtocol.fromJson_ignoresOrder, same.required readIpAddr_ignoresOrder,
    same.optional readUInt16_ignoresOrder]

theorem FlowBucket.fromJson_ignoresOrder : IgnoresOrder (FlowBucket.fromJson parseIp) := by
  apply struct_ignoresOrder
  intro sorted fields same
  simp only [same.required readUInt64_ignoresOrder, same.required FlowKey.fromJson_ignoresOrder]

theorem CaptureDiagnostics.fromJson_ignoresOrder : IgnoresOrder CaptureDiagnostics.fromJson := by
  apply struct_ignoresOrder
  intro sorted fields same
  simp only [same.required readUInt64_ignoresOrder]

theorem BatchBody.fromJson_ignoresOrder : IgnoresOrder (BatchBody.fromJson parseIp) := by
  apply struct_ignoresOrder
  intro sorted fields same
  simp only [same.required readUInt16_ignoresOrder, same.required readText_ignoresOrder,
    same.required readUInt64_ignoresOrder, same.required CaptureDiagnostics.fromJson_ignoresOrder,
    same.required (readArray_ignoresOrder FlowBucket.fromJson_ignoresOrder)]

theorem BatchEnvelope.fromJson_ignoresOrder : IgnoresOrder (BatchEnvelope.fromJson parseIp) := by
  apply struct_ignoresOrder
  intro sorted fields same
  simp only [same.required readText_ignoresOrder, same.required BatchBody.fromJson_ignoresOrder]

end Order

/-! What is serialized is read back. -/

section RoundTrip

variable {parseIp : String → Option IpAddr}

theorem readUInt8_toNat (value : UInt8) : readUInt8 (.number value.toNat) = some value := by
  rw [readUInt8, readBelow, if_pos value.toNat_lt, Option.map_some, UInt8.ofNat_toNat]

theorem readUInt16_toNat (value : UInt16) : readUInt16 (.number value.toNat) = some value := by
  rw [readUInt16, readBelow, if_pos value.toNat_lt, Option.map_some, UInt16.ofNat_toNat]

theorem readUInt64_toNat (value : UInt64) : readUInt64 (.number value.toNat) = some value := by
  rw [readUInt64, readBelow, if_pos value.toNat_lt, Option.map_some, UInt64.ofNat_toNat]

theorem Direction.fromJson_toJson (direction : Direction) :
    Direction.fromJson direction.toJson = some direction := by
  cases direction <;> rfl

theorem TransportProtocol.fromJson_toJson (protocol : TransportProtocol) :
    TransportProtocol.fromJson protocol.toJson = some protocol := by
  cases protocol with
  | tcp => rfl
  | udp => rfl
  | icmp => rfl
  | other number => exact congrArg (Option.map other) (readUInt8_toNat number)

theorem portJson_read (port : Option UInt16) : nullable readUInt16 (portJson port) = some port := by
  cases port with
  | none => rfl
  | some port => exact congrArg (Option.map some) (readUInt16_toNat port)

def FlowKey.ReadsAddresses (key : FlowKey) (parseIp : String → Option IpAddr) : Prop :=
  parseIp key.sourceIp.toText = some key.sourceIp ∧
    parseIp key.destinationIp.toText = some key.destinationIp

theorem FlowKey.fromJson_toJson {key : FlowKey} (addresses : key.ReadsAddresses parseIp) :
    FlowKey.fromJson parseIp key.toJson = some key := by
  have source : readIpAddr parseIp (.string key.sourceIp.toText) = some key.sourceIp := addresses.1
  have destination : readIpAddr parseIp (.string key.destinationIp.toText) =
      some key.destinationIp := addresses.2
  rw [FlowKey.toJson, FlowKey.fromJson, struct_object]
  · simp only [required, Json.optional, List.lookup_cons, String.reduceBEq, Option.bind_some,
      readText, Direction.fromJson_toJson, TransportProtocol.fromJson_toJson, source, destination,
      portJson_read]
    rfl
  · rfl
  · decide

theorem FlowBucket.fromJson_toJson {bucket : FlowBucket}
    (addresses : bucket.key.ReadsAddresses parseIp) :
    FlowBucket.fromJson parseIp bucket.toJson = some bucket := by
  rw [FlowBucket.toJson, FlowBucket.fromJson, struct_object]
  · simp only [required, List.lookup_cons, String.reduceBEq, Option.bind_some, readUInt64_toNat,
      FlowKey.fromJson_toJson addresses]
    rfl
  · rfl
  · decide

theorem CaptureDiagnostics.fromJson_toJson (diagnostics : CaptureDiagnostics) :
    CaptureDiagnostics.fromJson diagnostics.toJson = some diagnostics := by
  rw [CaptureDiagnostics.toJson, CaptureDiagnostics.fromJson, struct_object]
  · simp only [required, List.lookup_cons, String.reduceBEq, Option.bind_some, readUInt64_toNat]
    rfl
  · rfl
  · decide

theorem buckets_read {buckets : List FlowBucket}
    (addresses : ∀ bucket ∈ buckets, bucket.key.ReadsAddresses parseIp) :
    readArray (FlowBucket.fromJson parseIp) (.array (buckets.map FlowBucket.toJson)) =
      some buckets := by
  rw [readArray]
  induction buckets with
  | nil => rfl
  | cons bucket rest ih =>
      obtain ⟨first, later⟩ := List.forall_mem_cons.mp addresses
      rw [List.map_cons, List.mapM_cons, FlowBucket.fromJson_toJson first, ih later]
      rfl

theorem BatchBody.fromJson_toJson {body : BatchBody}
    (addresses : ∀ bucket ∈ body.buckets, bucket.key.ReadsAddresses parseIp) :
    BatchBody.fromJson parseIp body.toJson = some body := by
  rw [BatchBody.toJson, BatchBody.fromJson, struct_object]
  · simp only [required, List.lookup_cons, String.reduceBEq, Option.bind_some, readText,
      readUInt16_toNat, readUInt64_toNat, CaptureDiagnostics.fromJson_toJson,
      buckets_read addresses]
    rfl
  · rfl
  · decide

theorem BatchEnvelope.fromJson_toJson {envelope : BatchEnvelope}
    (addresses : ∀ bucket ∈ envelope.body.buckets, bucket.key.ReadsAddresses parseIp) :
    BatchEnvelope.fromJson parseIp envelope.toJson = some envelope := by
  rw [BatchEnvelope.toJson, BatchEnvelope.fromJson, struct_object]
  · simp only [required, List.lookup_cons, String.reduceBEq, Option.bind_some, readText,
      BatchBody.fromJson_toJson addresses]
    rfl
  · rfl
  · decide

end RoundTrip

/-! The documents stay within the limits of `serde_json`: its recursion limit leaves room for 127
arrays and objects in each other. -/

section Limits

variable {depth : Nat}

theorem number_within {value bound : Nat} (below : value < bound) (small : bound ≤ 2 ^ 64) :
    (Json.number value).Within depth :=
  .number (below.trans_le small)

theorem uint64_within (value : UInt64) : (Json.number value.toNat).Within depth :=
  .number value.toNat_lt

theorem Direction.toJson_within (direction : Direction) : direction.toJson.Within depth := by
  cases direction <;> exact .string

theorem TransportProtocol.toJson_within (protocol : TransportProtocol) :
    protocol.toJson.Within (depth + 1) := by
  cases protocol with
  | tcp => exact .object (by decide) (by simpa using .string)
  | udp => exact .object (by decide) (by simpa using .string)
  | icmp => exact .object (by decide) (by simpa using .string)
  | other number =>
      refine .object (by simp) (List.forall_mem_cons.mpr ⟨.string, ?_⟩)
      simpa using number_within number.toNat_lt (by decide)

theorem portJson_within (port : Option UInt16) : (portJson port).Within depth := by
  cases port with
  | none => exact .null
  | some port => exact number_within port.toNat_lt (by decide)

theorem FlowKey.toJson_within (key : FlowKey) : key.toJson.Within (depth + 2) := by
  refine .object (by simp) ?_
  simp only [List.forall_mem_cons]
  exact ⟨.string, key.direction.toJson_within, key.protocol.toJson_within, .string, .string,
    portJson_within _, portJson_within _, by simp⟩

theorem FlowBucket.toJson_within (bucket : FlowBucket) : bucket.toJson.Within (depth + 3) := by
  refine .object (by simp) ?_
  simp only [List.forall_mem_cons]
  exact ⟨uint64_within _, bucket.key.toJson_within, uint64_within _, uint64_within _, by simp⟩

theorem CaptureDiagnostics.toJson_within (diagnostics : CaptureDiagnostics) :
    diagnostics.toJson.Within (depth + 1) := by
  refine .object (by simp) ?_
  simp only [List.forall_mem_cons]
  exact ⟨uint64_within _, uint64_within _, uint64_within _, uint64_within _, by simp⟩

theorem BatchBody.toJson_within (body : BatchBody) : body.toJson.Within (depth + 5) := by
  have buckets : (Json.array (body.buckets.map FlowBucket.toJson)).Within (depth + 4) := by
    apply Within.array
    intro item member
    obtain ⟨bucket, _, rfl⟩ := List.mem_map.mp member
    exact bucket.toJson_within
  refine .object (by simp) ?_
  simp only [List.forall_mem_cons]
  exact ⟨number_within body.schemaVersion.toNat_lt (by decide), .string, .string, uint64_within _,
    uint64_within _, buckets, body.diagnostics.toJson_within, by simp⟩

theorem BatchEnvelope.toJson_within (envelope : BatchEnvelope) :
    envelope.toJson.Within (depth + 6) := by
  refine .object (by simp) ?_
  simp only [List.forall_mem_cons]
  exact ⟨.string, .string, envelope.body.toJson_within, by simp⟩

end Limits

/-- The third-party functions, with `from_slice` made of the reader of JSON texts, of the
derived decoders and of `FromStr` for addresses. -/
def External.ofSerde (blake3 : String → Vector UInt8 32) (readJson : String → Option Json)
    (parseIp : String → Option IpAddr) (sliceError : String → JsonFailure) : External where
  blake3
  fromSlice text := (readJson text).bind (BatchEnvelope.fromJson parseIp)
  sliceError

section Routes

variable (blake3 : String → Vector UInt8 32) {readJson : String → Option Json}
  {parseIp : String → Option IpAddr} (sliceError : String → JsonFailure)
  {envelope : BatchEnvelope}

theorem fromSlice_toVec (reads : ReadsWritten 127 readJson)
    (addresses : ∀ bucket ∈ envelope.body.buckets, bucket.key.ReadsAddresses parseIp) :
    (External.ofSerde blake3 readJson parseIp sliceError).fromSlice (toVec envelope) =
      some envelope := by
  have text : readJson (toVec envelope) = some envelope.toJson := reads _ envelope.toJson_within
  simp only [External.ofSerde, text, Option.bind_some, BatchEnvelope.fromJson_toJson addresses]

theorem fromSlice_uploadBody (reads : ReadsWritten 127 readJson)
    (addresses : ∀ bucket ∈ envelope.body.buckets, bucket.key.ReadsAddresses parseIp) :
    (External.ofSerde blake3 readJson parseIp sliceError).fromSlice (uploadBody envelope) =
      some envelope := by
  have text : readJson (uploadBody envelope) = some envelope.toJson.sortFields :=
    reads _ envelope.toJson_within.sortFields
  have decoded : BatchEnvelope.fromJson parseIp envelope.toJson.sortFields =
      BatchEnvelope.fromJson parseIp envelope.toJson := BatchEnvelope.fromJson_ignoresOrder _
  simp only [External.ofSerde, text, Option.bind_some, decoded,
    BatchEnvelope.fromJson_toJson addresses]

end Routes

end FlowObservability
