import Mathlib.Data.List.Basic
import FlowObservability.Library.Json

/-!
The records that travel from the agent to the control plane, the JSON text they
are written as, and the sealed envelope built from a batch body.
-/

namespace FlowObservability

def SCHEMA_VERSION : UInt16 := 1

inductive Direction where
  | ingress
  | egress
  | internal
  | unknown
  deriving DecidableEq, Repr

inductive TransportProtocol where
  | tcp
  | udp
  | icmp
  | other (number : UInt8)
  deriving DecidableEq, Repr

def TransportProtocol.from (value : UInt8) : TransportProtocol :=
  if value = 6 then .tcp
  else if value = 17 then .udp
  else if value = 1 ∨ value = 58 then .icmp
  else .other value

inductive IpAddr where
  | v4 (first second third fourth : UInt8)
  | v6 (octets : Vector UInt8 16)
  deriving DecidableEq, Repr

structure FlowKey where
  capturePoint : String
  direction : Direction
  protocol : TransportProtocol
  sourceIp : IpAddr
  destinationIp : IpAddr
  sourcePort : Option UInt16
  destinationPort : Option UInt16
  deriving DecidableEq, Repr

structure FlowBucket where
  bucketStart : UInt64
  key : FlowKey
  packets : UInt64
  bytes : UInt64
  deriving DecidableEq, Repr

structure CaptureDiagnostics where
  received : UInt64 := 0
  dropped : UInt64 := 0
  interfaceDropped : UInt64 := 0
  parseErrors : UInt64 := 0
  deriving DecidableEq, Repr

structure BatchBody where
  schemaVersion : UInt16
  nodeId : String
  bootId : String
  seq : UInt64
  createdAt : UInt64
  buckets : List FlowBucket
  diagnostics : CaptureDiagnostics
  deriving DecidableEq, Repr

structure BatchEnvelope where
  batchId : String
  checksum : String
  body : BatchBody
  deriving DecidableEq, Repr

inductive IngestStatus where
  | inserted
  | duplicate
  deriving DecidableEq, Repr

structure IngestAck where
  batchId : String
  status : IngestStatus
  deriving DecidableEq, Repr

/-! The text of an address, as `Display` writes it. -/

def segments : List UInt8 → List Nat
  | high :: low :: rest => (high.toNat * 256 + low.toNat) :: segments rest
  | _ => []

def longestZeroes (groups : List Nat) : Nat × Nat :=
  let scan := groups.foldl
    (fun (state : Nat × (Nat × Nat) × (Nat × Nat)) group =>
      let (index, current, longest) := state
      if group = 0 then
        let current := if current.2 = 0 then (index, 1) else (current.1, current.2 + 1)
        (index + 1, current, if longest.2 < current.2 then current else longest)
      else (index + 1, (0, 0), longest))
    (0, (0, 0), (0, 0))
  scan.2.2

def hexGroups (groups : List Nat) : String :=
  ":".intercalate (groups.map fun group => String.ofList (Nat.toDigits 16 group))

def ipv4Text (first second third fourth : UInt8) : String :=
  ".".intercalate [toString first.toNat, toString second.toNat, toString third.toNat,
    toString fourth.toNat]

def IpAddr.toText : IpAddr → String
  | v4 first second third fourth => ipv4Text first second third fourth
  | v6 octets =>
    if octets.toList.take 12 = [0, 0, 0, 0, 0, 0, 0, 0, 0, 0, 255, 255] then
      "::ffff:" ++ ipv4Text octets[12] octets[13] octets[14] octets[15]
    else
      let groups := segments octets.toList
      let (start, length) := longestZeroes groups
      if 1 < length then
        hexGroups (groups.take start) ++ "::" ++ hexGroups (groups.drop (start + length))
      else hexGroups groups

/-! `Serialize`, as the derive attributes of `model.rs` lay it out. -/

def Direction.toJson : Direction → Json
  | ingress => .string "ingress"
  | egress => .string "egress"
  | internal => .string "internal"
  | unknown => .string "unknown"

def TransportProtocol.toJson : TransportProtocol → Json
  | tcp => .object [("name", .string "tcp")]
  | udp => .object [("name", .string "udp")]
  | icmp => .object [("name", .string "icmp")]
  | other number => .object [("name", .string "other"), ("number", .number number.toNat)]

def portJson : Option UInt16 → Json
  | none => .null
  | some port => .number port.toNat

def FlowKey.toJson (key : FlowKey) : Json := .object [
  ("capture_point", .string key.capturePoint),
  ("direction", key.direction.toJson),
  ("protocol", key.protocol.toJson),
  ("source_ip", .string key.sourceIp.toText),
  ("destination_ip", .string key.destinationIp.toText),
  ("source_port", portJson key.sourcePort),
  ("destination_port", portJson key.destinationPort)]

def FlowBucket.toJson (bucket : FlowBucket) : Json := .object [
  ("bucket_start", .number bucket.bucketStart.toNat),
  ("key", bucket.key.toJson),
  ("packets", .number bucket.packets.toNat),
  ("bytes", .number bucket.bytes.toNat)]

def CaptureDiagnostics.toJson (diagnostics : CaptureDiagnostics) : Json := .object [
  ("received", .number diagnostics.received.toNat),
  ("dropped", .number diagnostics.dropped.toNat),
  ("interface_dropped", .number diagnostics.interfaceDropped.toNat),
  ("parse_errors", .number diagnostics.parseErrors.toNat)]

def BatchBody.toJson (body : BatchBody) : Json := .object [
  ("schema_version", .number body.schemaVersion.toNat),
  ("node_id", .string body.nodeId),
  ("boot_id", .string body.bootId),
  ("seq", .number body.seq.toNat),
  ("created_at", .number body.createdAt.toNat),
  ("buckets", .array (body.buckets.map FlowBucket.toJson)),
  ("diagnostics", body.diagnostics.toJson)]

def BatchEnvelope.toJson (envelope : BatchEnvelope) : Json := .object [
  ("batch_id", .string envelope.batchId),
  ("checksum", .string envelope.checksum),
  ("body", envelope.body.toJson)]

/-- `serde_json::to_vec` of an envelope: the bytes of this text. -/
def toVec (envelope : BatchEnvelope) : String := envelope.toJson.render

/-- The request body `send_json` writes for `serde_json::to_value` of an envelope, whose
objects are maps in key order. -/
def uploadBody (envelope : BatchEnvelope) : String := envelope.toJson.sortFields.render

/-- Why a text is no envelope, in the two classes of errors of `serde_json` that axum's `Json`
extractor tells apart. -/
inductive JsonFailure where
  | syntaxError (error : String)
  | dataError (error : String)
  deriving DecidableEq, Repr

/-- The third-party functions the program rests on: the hash of the `blake3` crate,
and `serde_json::from_slice` at the envelope, with its error where it has no envelope. -/
structure External where
  blake3 : String → Vector UInt8 32
  fromSlice : String → Option BatchEnvelope
  sliceError : String → JsonFailure

/-- The third-party functions as far as finitely many known texts show them. -/
def External.ofTable (digests : List (String × Vector UInt8 32))
    (documents : List (String × BatchEnvelope)) : External where
  blake3 text := (digests.lookup text).getD (Vector.replicate 32 0)
  fromSlice text := documents.lookup text
  sliceError _ := .syntaxError "expected value at line 1 column 1"

def toHex (digest : Vector UInt8 32) : String :=
  String.ofList (digest.toList.flatMap fun byte =>
    [Json.hexDigit (byte.toNat / 16), Json.hexDigit (byte.toNat % 16)])

def bodyChecksum (external : External) (body : BatchBody) : String :=
  toHex (external.blake3 body.toJson.render)

def checksumPrefix (checksum : String) : String := String.ofList (checksum.toList.take 16)

def batchIdOf (body : BatchBody) (checksum : String) : String :=
  body.nodeId ++ ":" ++ body.bootId ++ ":" ++ toString body.seq.toNat ++ ":" ++
    checksumPrefix checksum

def BatchEnvelope.new (external : External) (nodeId bootId : String) (seq createdAt : UInt64)
    (buckets : List FlowBucket) (diagnostics : CaptureDiagnostics) : BatchEnvelope :=
  let body : BatchBody := {
    schemaVersion := SCHEMA_VERSION
    nodeId, bootId, seq, createdAt, buckets, diagnostics
  }
  let checksum := bodyChecksum external body
  { batchId := batchIdOf body checksum, checksum, body }

def BatchEnvelope.hasValidChecksum (external : External) (envelope : BatchEnvelope) : Bool :=
  bodyChecksum external envelope.body == envelope.checksum

end FlowObservability
