import Mathlib.Tactic.IntervalCases
import FlowObservability.Library.Text
import FlowObservability.Model

/-!
Sealed envelopes: those `BatchEnvelope::new` builds. Their body determines them, and
their batch id determines the sequence number and the checksum digits it carries.
-/

namespace FlowObservability

open Text

/-- The envelope is what `BatchEnvelope::new` makes of its own body. -/
structure BatchEnvelope.Sealed (external : External) (envelope : BatchEnvelope) : Prop where
  schemaVersion : envelope.body.schemaVersion = SCHEMA_VERSION
  checksum : envelope.checksum = bodyChecksum external envelope.body
  batchId : envelope.batchId = batchIdOf envelope.body envelope.checksum

theorem BatchEnvelope.new_sealed (external : External) (nodeId bootId : String)
    (seq createdAt : UInt64) (buckets : List FlowBucket) (diagnostics : CaptureDiagnostics) :
    (BatchEnvelope.new external nodeId bootId seq createdAt buckets diagnostics).Sealed external :=
  ⟨rfl, rfl, rfl⟩

variable {external : External} {first second envelope : BatchEnvelope}

theorem BatchEnvelope.Sealed.eq_of_body (firstSealed : first.Sealed external)
    (secondSealed : second.Sealed external) (same : first.body = second.body) :
    first = second := by
  have checksum : first.checksum = second.checksum := by
    rw [firstSealed.checksum, secondSealed.checksum, same]
  have batchId : first.batchId = second.batchId := by
    rw [firstSealed.batchId, secondSealed.batchId, same, checksum]
  cases first
  cases second
  simp_all

theorem BatchEnvelope.Sealed.valid (isSealed : envelope.Sealed external) :
    envelope.hasValidChecksum external = true := by
  simp [BatchEnvelope.hasValidChecksum, isSealed.checksum]

theorem hexDigit_ne_colon {value : Nat} (bound : value < 16) : Json.hexDigit value ≠ ':' := by
  interval_cases value <;> decide

theorem toHex_free (digest : Vector UInt8 32) : ':' ∉ (toHex digest).toList := by
  simp only [toHex, String.toList_ofList, List.mem_flatMap, not_exists, not_and]
  intro byte _ member
  have small := byte.toNat_lt
  simp only [List.mem_cons, List.not_mem_nil, or_false] at member
  rcases member with high | low
  · exact hexDigit_ne_colon (by omega) high.symm
  · exact hexDigit_ne_colon (by omega) low.symm

theorem checksumPrefix_free (digest : Vector UInt8 32) :
    ':' ∉ (checksumPrefix (toHex digest)).toList := by
  simp only [checksumPrefix, String.toList_ofList]
  exact fun member => toHex_free digest (List.mem_of_mem_take member)

theorem batchIdOf_toList (body : BatchBody) (checksum : String) :
    (batchIdOf body checksum).toList =
      ((body.nodeId.toList ++ ':' :: body.bootId.toList) ++ ':' ::
        (toString body.seq.toNat).toList) ++ ':' :: (checksumPrefix checksum).toList := by
  simp [batchIdOf, String.toList_append]

/-- Two sealed envelopes with one batch id have the same sequence number and the same
checksum digits in it, whatever separators their node and boot ids hold. -/
theorem BatchEnvelope.Sealed.batchId_fields (firstSealed : first.Sealed external)
    (secondSealed : second.Sealed external) (same : first.batchId = second.batchId) :
    first.body.seq = second.body.seq ∧
      checksumPrefix first.checksum = checksumPrefix second.checksum := by
  rw [firstSealed.batchId, secondSealed.batchId, ← String.toList_inj, batchIdOf_toList,
    batchIdOf_toList] at same
  have firstFree : ':' ∉ (checksumPrefix first.checksum).toList := by
    rw [firstSealed.checksum]
    exact checksumPrefix_free _
  have secondFree : ':' ∉ (checksumPrefix second.checksum).toList := by
    rw [secondSealed.checksum]
    exact checksumPrefix_free _
  obtain ⟨identity, digits⟩ := last_field_inj same firstFree secondFree
  obtain ⟨_, number⟩ := last_field_inj identity (decimal_free rfl _) (decimal_free rfl _)
  exact ⟨UInt64.toNat_inj.mp (decimal_inj number), String.toList_inj.mp digits⟩

/-! A bucket for the batches of the runs that follow. -/

def webBucket (packets : UInt64) : FlowBucket where
  bucketStart := 90
  key := {
    capturePoint := "p"
    direction := .egress
    protocol := .tcp
    sourceIp := .v4 10 0 0 1
    destinationIp := .v4 1 1 1 1
    sourcePort := some 5
    destinationPort := some 443
  }
  packets
  bytes := 60

end FlowObservability
