import FlowObservability.Admission
import FlowObservability.EnvelopeText
import FlowObservability.Library.JsonText
import FlowObservability.SpoolPending

/-!
The round trip through the spool: what is pending comes back as it was enqueued, and
acknowledging it deletes its row.
-/

namespace FlowObservability

open Json Table Transaction

section Acknowledging

variable {external : External} {enqueued : List BatchEnvelope} {acknowledged : List BatchRow}
  {tables : SpoolTables} {envelope : BatchEnvelope}

theorem Accounts.acknowledge_waiting (accounts : Accounts external enqueued acknowledged tables)
    (waits : envelope ∈ tables.waiting enqueued) :
    batchRow envelope ∈ tables.batches ∧
      Spool.acknowledge noFaults envelope.batchId envelope.checksum tables =
        (.ok (), { tables with
          batches := tables.batches.filter fun row => row != batchRow envelope }) := by
  obtain ⟨belongs, row, stored, same⟩ := mem_waiting.mp waits
  have rowEq := accounts.row_of_seq stored belongs same
  subst rowEq
  have matching : ∀ row ∈ tables.batches,
      matchesAck envelope.batchId envelope.checksum row = (row == batchRow envelope) := by
    intro row held
    rw [Bool.eq_iff_iff, accounts.matches_iff belongs held, beq_iff_eq]
    constructor
    · exact accounts.row_of_seq held belongs
    · rintro rfl
      rfl
  have distinct : tables.batches.Nodup := accounts.batches_nodup.of_map
  have single : (tables.batches.filter
      (matchesAck envelope.batchId envelope.checksum)).length = 1 := by
    rw [List.filter_congr matching, ← List.countP_eq_length_filter]
    exact List.count_eq_one_of_mem distinct stored
  have rest : tables.batches.filter (fun row =>
      !matchesAck envelope.batchId envelope.checksum row) =
        tables.batches.filter fun row => row != batchRow envelope := by
    apply List.filter_congr
    intro row held
    rw [matching row held]
    rfl
  refine ⟨stored, ?_⟩
  simp [Spool.acknowledge, single, rest]

end Acknowledging

structure BatchEnvelope.Recovered (external : External) (envelope : BatchEnvelope) : Prop
    extends envelope.RoundTrips external where
  valid : ∀ text copy, text = toVec envelope ∨ text = uploadBody envelope →
    external.fromSlice text = some copy → copy.hasValidChecksum external = true

theorem BatchEnvelope.Sealed.recovered {blake3 : String → Vector UInt8 32}
    {readJson : String → Option Json} {parseIp : String → Option IpAddr}
    {sliceError : String → JsonFailure} {envelope : BatchEnvelope}
    (isSealed : envelope.Sealed (External.ofSerde blake3 readJson parseIp sliceError))
    (reads : ReadsWritten 127 readJson)
    (addresses : ∀ bucket ∈ envelope.body.buckets, bucket.key.ReadsAddresses parseIp) :
    envelope.Recovered (External.ofSerde blake3 readJson parseIp sliceError) := by
  have payload := fromSlice_toVec blake3 sliceError reads addresses
  have upload := fromSlice_uploadBody blake3 sliceError reads addresses
  refine ⟨⟨payload, upload⟩, ?_⟩
  rintro text copy (rfl | rfl) decoded
  · rw [payload, Option.some.injEq] at decoded
    exact decoded ▸ isSealed.valid
  · rw [upload, Option.some.injEq] at decoded
    exact decoded ▸ isSealed.valid

/-- `pending` returns envelopes that were enqueued, those of the lowest numbers pending in their
order, and for each of them `acknowledge` succeeds and deletes its row only. -/
def SpoolHistory.Recovers (external : External) (history : SpoolHistory) (limit : Nat) : Prop :=
  ∃ queue, Spool.pending external noFaults limit history.tables = .ok queue ∧
    queue ⊆ history.enqueued ∧
    queue.map (fun envelope => (envelope.body.seq.toNat : Int)) =
      (orderBy id (history.tables.batches.map (·.seq))).take limit ∧
    ∀ envelope ∈ queue, batchRow envelope ∈ history.tables.batches ∧
      Spool.acknowledge noFaults envelope.batchId envelope.checksum history.tables =
        (.ok (), { history.tables with
          batches := history.tables.batches.filter fun row => row != batchRow envelope })

theorem SpoolHistory.Accounted.recovers {external : External} {history : SpoolHistory}
    (accounted : history.Accounted external)
    (payload : ∀ envelope ∈ history.enqueued, external.fromSlice (toVec envelope) = some envelope)
    {limit : Nat} (small : limit < 2 ^ 63) : history.Recovers external limit := by
  have accounts := accounted.accounts
  refine ⟨(history.tables.waiting history.enqueued).take limit, ?_, ?_, ?_, ?_⟩
  · rw [accounts.pending_eq payload noFaults limit small]
    rfl
  · exact fun envelope member => (mem_waiting.mp (List.mem_of_mem_take member)).1
  · have ordered : orderBy id (history.tables.batches.map (·.seq)) =
        history.tables.batches.map (·.seq) :=
      orderBy_eq (List.Perm.refl _) (List.pairwise_map.mpr accounts.ordered)
    have seqs : history.tables.batches.map (·.seq) =
        (history.tables.waiting history.enqueued).map
          fun envelope => (envelope.body.seq.toNat : Int) := by
      rw [accounts.batches_eq, List.map_map]
      rfl
    rw [ordered, seqs, List.map_take]
  · exact fun envelope member => accounts.acknowledge_waiting (List.mem_of_mem_take member)

/-- Given that JSON texts and the addresses in use are read back, an envelope survives both of its
texts, and so does every batch that a spool holds. -/
theorem envelope_round_trip (blake3 : String → Vector UInt8 32)
    (readJson : String → Option Json) (parseIp : String → Option IpAddr)
    (sliceError : String → JsonFailure) (reads : ReadsWritten 127 readJson) :
    (∀ nodeId bootId seq createdAt buckets diagnostics,
      (∀ bucket ∈ buckets, bucket.key.ReadsAddresses parseIp) →
        (BatchEnvelope.new (External.ofSerde blake3 readJson parseIp sliceError) nodeId bootId seq
          createdAt buckets diagnostics).Recovered
            (External.ofSerde blake3 readJson parseIp sliceError)) ∧
      ∀ calls, (∀ envelope ∈
          (SpoolHistory.run (External.ofSerde blake3 readJson parseIp sliceError) calls).enqueued,
            ∀ bucket ∈ envelope.body.buckets, bucket.key.ReadsAddresses parseIp) →
        ∀ limit < 2 ^ 63, (SpoolHistory.run (External.ofSerde blake3 readJson parseIp sliceError)
          calls).Recovers (External.ofSerde blake3 readJson parseIp sliceError) limit := by
  constructor
  · intro nodeId bootId seq createdAt buckets diagnostics addresses
    exact (BatchEnvelope.new_sealed _ _ _ _ _ _ _).recovered reads addresses
  · intro calls addresses limit small
    refine (SpoolHistory.run_accounted _ calls).recovers (fun envelope member => ?_) small
    exact fromSlice_toVec blake3 sliceError reads (addresses envelope member)

/-! One batch with an IPv4 and an IPv6 address, through the reader of `JsonText`. -/

def routedKey : FlowKey where
  capturePoint := "eth0"
  direction := .egress
  protocol := .other 47
  sourceIp := .v4 10 0 0 2
  destinationIp := .v6 ⟨#[0x20, 1, 0x0d, 0xb8, 0, 0, 0, 0, 0, 0, 0, 0, 0, 0, 0, 1], rfl⟩
  sourcePort := some 443
  destinationPort := none

def routedArgs : EnqueueArgs where
  nodeId := "j"
  bootId := "b"
  createdAt := 100
  buckets := [{ bucketStart := 60, key := routedKey, packets := 3, bytes := 180 }]
  diagnostics := {}

def routedAddresses (text : String) : Option IpAddr :=
  [("10.0.0.2", routedKey.sourceIp), ("2001:db8::1", routedKey.destinationIp)].lookup text

def routedBlake3 : String → Vector UInt8 32 := (External.ofTable
  [((routedArgs.envelope (External.ofTable [] []) 0).body.toJson.render,
    ⟨#[137, 237, 169, 52, 153, 235, 84, 38, 83, 149, 158, 106, 60, 204, 70, 175, 73,
      207, 54, 149, 53, 61, 48, 191, 165, 185, 212, 28, 177, 30, 102, 153], rfl⟩)] []).blake3

def routedExternal : External := External.ofSerde routedBlake3 Json.parse routedAddresses
  fun _ => .syntaxError "expected value at line 1 column 1"

def routedCalls : List SpoolCall := [
  .open noFaults { maxPayloadBytes := 10000, maxAgeSeconds := 1000 },
  .enqueue noFaults routedArgs]

theorem routedCalls_enqueued :
    (SpoolHistory.run routedExternal routedCalls).enqueued =
      [routedArgs.envelope routedExternal 0] := by
  decide +kernel

theorem envelope_round_trip_routed :
    (routedArgs.envelope routedExternal 0).Recovered routedExternal ∧
      (SpoolHistory.run routedExternal routedCalls).Recovers routedExternal 10 := by
  have addresses : ∀ bucket ∈ routedArgs.buckets, bucket.key.ReadsAddresses routedAddresses := by
    intro bucket member
    rw [List.mem_singleton.mp member]
    exact ⟨by decide +kernel, by decide +kernel⟩
  obtain ⟨trips, recovers⟩ := envelope_round_trip routedBlake3 Json.parse routedAddresses _
    fun document _ => parse_render document
  refine ⟨trips _ _ _ _ _ _ addresses, recovers routedCalls ?_ 10 (by decide)⟩
  intro envelope (member : envelope ∈ (SpoolHistory.run routedExternal routedCalls).enqueued)
  rw [routedCalls_enqueued] at member
  rw [List.mem_singleton.mp member]
  exact addresses

end FlowObservability
