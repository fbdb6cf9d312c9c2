import FlowObservability.Admission
import FlowObservability.ControlConflicts
import FlowObservability.DeliveryCompleteness
import FlowObservability.UploadOnce

/-!
Upload passes against the control plane: how far one gets, and what any number of them
delivers.
-/

namespace FlowObservability

open Runs Table Transaction

section Admission

variable {external : External} {limits : ControlLimits} {ledger : Ledger}
  {envelope : BatchEnvelope}

theorem BatchRow.Unsigned.spoolChecked (columns : (batchRow envelope).Unsigned) :
    envelope.SpoolChecked := by
  have seq : (envelope.body.seq.toNat : Int) < 2 ^ 63 := columns.seq.2
  have createdAt : (envelope.body.createdAt.toNat : Int) < 2 ^ 63 := columns.createdAt.2
  refine ⟨by omega, by omega, ?_⟩
  intro bucket member
  have start : bucket.bucketStart ∈ envelope.body.buckets.map (·.bucketStart) :=
    List.mem_map_of_mem member
  cases latest : (bucketRange envelope.body.buckets).2 with
  | none =>
      rw [List.max?_eq_none_iff.mp latest] at start
      simp at start
  | some last =>
      have column : (last.toNat : Int) < 2 ^ 63 :=
        (columns.maxBucket last.toNat (by simp [batchRow, latest])).2
      have below : bucket.bucketStart ≤ last := (List.max?_eq_some_iff.mp latest).2 _ start
      have bound := UInt64.le_iff_toNat_le.mp below
      omega

theorem Ledger.ingestAt_accepts_iff (valid : envelope.Valid external)
    (alone : ∀ stored ∈ ledger.stored,
      stored.batchId = envelope.batchId ∨ stored.sequence = envelope.sequence → stored = envelope)
    (now : UInt64) :
    (∃ status, (ledger.ingestAt external limits envelope now).1 = .ok status) ↔
      controlCutoff now limits.maxAgeSeconds < 2 ^ 63 ∧ envelope.InRange := by
  constructor
  · rintro ⟨status, answered⟩
    obtain ⟨_, bound, ingested⟩ := Ledger.ingestAt_ok (eq_of_fst answered)
    refine ⟨bound, ?_⟩
    generalize (ledger.ingestAt external limits envelope now).2 = next at ingested
    cases ingested with
    | duplicate stored same checksum =>
        rw [← alone _ (List.mem_filter.mp stored).1 (.inl same)]
        exact Ledger.inRange _ _ stored
    | inserted free inRange => exact inRange
  · rintro ⟨bound, inRange⟩
    rw [Ledger.ingestAt_of_valid valid]
    by_cases known : envelope.batchId ∈
        (ledger.prune (controlCutoff now limits.maxAgeSeconds)).stored.map (·.batchId)
    · obtain ⟨stored, member, same⟩ := List.mem_map.mp known
      have equal := alone stored (List.mem_filter.mp member).1 (.inl same)
      have duplicate := Ledger.ingest_known bound member same
      rw [if_pos (congrArg (·.checksum) equal)] at duplicate
      rw [transact_of_ok duplicate]
      exact ⟨.duplicate, rfl⟩
    · have unused : envelope.sequence ∉
          (ledger.prune (controlCutoff now limits.maxAgeSeconds)).stored.map (·.sequence) := by
        intro taken
        obtain ⟨stored, member, same⟩ := List.mem_map.mp taken
        have equal := alone stored (List.mem_filter.mp member).1 (.inr same)
        exact known (List.mem_map.mpr ⟨stored, member, congrArg (·.batchId) equal⟩)
      rw [transact_of_ok (Ledger.ingest_inserted bound ⟨known, unused⟩ inRange)]
      exact ⟨.inserted, rfl⟩

end Admission

structure Serving where
  faults : ControlFaults := noFaults
  limits : ControlLimits := {}
  clock : Option UInt64

/-- What the peer hears in the end: nothing, a body that is no ack, or one of the responses. -/
inductive Heard where
  | nothing
  | garbled
  | response (index : Nat)

/-- What becomes of one request: it is delivered any number of times, and one thing is heard. -/
structure Exchange where
  servings : List Serving
  heard : Heard

def serve (external : External) (request : String) :
    ControlTables → List Serving → List Response × ControlTables
  | tables, [] => ([], tables)
  | tables, serving :: rest =>
    let outcome :=
      ingestRoute external serving.faults serving.limits serving.clock request tables
    let later := serve external request outcome.2 rest
    (outcome.1 :: later.1, later.2)

def Heard.reply (responses : List Response) : Heard → Reply
  | .nothing => .lost
  | .garbled => .garbled
  | .response index => (responses[index]?).elim .lost .response

/-- The ingest route, behind a network that deals with each request in its way. -/
def ingestPeer (external : External) (exchanges : Nat → Exchange) : Peer (Nat × ControlTables) :=
  fun request state =>
    let served := serve external request state.2 (exchanges state.1).servings
    ((exchanges state.1).heard.reply served.1, state.1 + 1, served.2)

def Serving.Timely (serving : Serving) : Prop :=
  ∃ now, serving.clock = some now ∧ controlCutoff now serving.limits.maxAgeSeconds < 2 ^ 63

/-- The exchange is complete: the response of a timely delivery is heard. -/
def Exchange.Answers (exchange : Exchange) : Prop :=
  ∃ index serving, exchange.heard = .response index ∧ exchange.servings[index]? = some serving ∧
    serving.Timely

def Exchange.Faultless (exchange : Exchange) : Prop :=
  ∀ serving ∈ exchange.servings, serving.faults = noFaults

def Serving.Expires (serving : Serving) (envelope : BatchEnvelope) : Prop :=
  ∃ now, serving.clock = some now ∧
    envelope.body.createdAt.toNat < controlCutoff now serving.limits.maxAgeSeconds

def Exchange.Expires (exchange : Exchange) (envelope : BatchEnvelope) : Prop :=
  ∃ serving ∈ exchange.servings, serving.Expires envelope

def Exchange.failure (exchange : Exchange) (envelope : BatchEnvelope) : AnyhowError :=
  match exchange.heard with
  | .garbled => .message "decode ingest ack"
  | _ => .message ("upload batch " ++ envelope.batchId)

/-- The checks of the control plane on a batch, at any time, that the spool does not make. -/
structure BatchEnvelope.Deliverable (envelope : BatchEnvelope) : Prop where
  length : (uploadBody envelope).utf8ByteSize ≤ DEFAULT_BODY_LIMIT
  counts : ∀ bucket ∈ envelope.body.buckets,
    bucket.packets.toNat < 2 ^ 63 ∧ bucket.bytes.toNat < 2 ^ 63

section Exchanges

variable {external : External} {exchanges : Nat → Exchange} {ledger : Ledger}
  {envelope : BatchEnvelope}

/-- What the control plane relies on for an envelope: its text is read back, its checksum is its
own, the spool has checked it, and no other envelope of the ledger has its identities. -/
structure Ledger.Expects (external : External) (ledger : Ledger) (envelope : BatchEnvelope) :
    Prop where
  decodes : external.fromSlice (uploadBody envelope) = some envelope
  valid : envelope.Valid external
  checked : envelope.SpoolChecked
  alone : ∀ stored ∈ ledger.stored,
    stored.batchId = envelope.batchId ∨ stored.sequence = envelope.sequence → stored = envelope

theorem Ledger.Expects.ack_iff (expects : ledger.Expects external envelope) {serving : Serving}
    (faultless : serving.faults = noFaults) :
    (∃ ack, (ingestRoute external serving.faults serving.limits serving.clock (uploadBody envelope)
      ledger.tables).1 = .ack ack) ↔ serving.Timely ∧ envelope.Deliverable := by
  rw [ingestRoute_ack_iff expects.decodes, faultless]
  constructor
  · rintro ⟨length, now, status, present, answered⟩
    rw [ingestAt_noFaults] at answered
    obtain ⟨bound, inRange⟩ :=
      (Ledger.ingestAt_accepts_iff expects.valid expects.alone now).mp ⟨status, answered⟩
    exact ⟨⟨now, present, bound⟩, length, expects.checked.inRange_iff.mp inRange⟩
  · rintro ⟨⟨now, present, bound⟩, length, counts⟩
    obtain ⟨status, answered⟩ :=
      (Ledger.ingestAt_accepts_iff expects.valid expects.alone now).mpr
        ⟨bound, expects.checked.inRange_iff.mpr counts⟩
    refine ⟨length, now, status, present, ?_⟩
    rw [ingestAt_noFaults]
    exact answered

theorem Ledger.Expects.mem_of_ok (expects : ledger.Expects external envelope)
    {limits : ControlLimits} {now : UInt64} {status : IngestStatus} {next : Ledger}
    (ingested : ledger.ingestAt external limits envelope now = (.ok status, next)) :
    envelope ∈ next.stored := by
  obtain ⟨_, _, taken⟩ := Ledger.ingestAt_ok ingested
  cases taken with
  | duplicate stored same checksum =>
      rw [← expects.alone _ (List.mem_filter.mp stored).1 (.inl same)]
      exact stored
  | inserted free inRange =>
      rw [Ledger.add_stored free inRange]
      exact List.mem_append_right _ (List.mem_singleton_self _)

theorem Ledger.Expects.delivery (expects : ledger.Expects external envelope) (serving : Serving) :
    ∃ next : Ledger, (ingestRoute external serving.faults serving.limits serving.clock
        (uploadBody envelope) ledger.tables).2 = next.tables ∧
      (∀ stored ∈ next.stored, stored ∈ ledger.stored ∨ stored = envelope) ∧
      (∀ stored ∈ ledger.stored, stored ∈ next.stored ∨ serving.Expires stored) ∧
      ∀ ack, (ingestRoute external serving.faults serving.limits serving.clock
          (uploadBody envelope) ledger.tables).1 = .ack ack →
        ack.batchId = envelope.batchId ∧ envelope ∈ next.stored := by
  rcases ingestRoute_ledger expects.decodes serving.faults serving.limits serving.clock ledger with
    ⟨now, status, next, clock, ingested, routed⟩ | ⟨refused, unchanged⟩
  · obtain ⟨added, remaining, _⟩ := Ledger.ingestAt_members ingested
    rw [routed]
    refine ⟨next, rfl, fun stored held => (added stored held).imp_right And.left,
      fun stored held => (remaining stored held).imp_right fun old => ⟨now, clock, old⟩, ?_⟩
    rintro ack ⟨rfl⟩
    exact ⟨rfl, expects.mem_of_ok ingested⟩
  · exact ⟨ledger, unchanged, fun _ => .inl, fun _ => .inl,
      fun ack response => absurd response (refused ack)⟩

theorem Ledger.Expects.later (expects : ledger.Expects external envelope) {next : Ledger}
    (added : ∀ stored ∈ next.stored, stored ∈ ledger.stored ∨ stored = envelope) :
    next.Expects external envelope := by
  refine ⟨expects.decodes, expects.valid, expects.checked, fun stored held same => ?_⟩
  rcases added stored held with old | equal
  · exact expects.alone stored old same
  · exact equal

theorem Ledger.Expects.served (expects : ledger.Expects external envelope)
    (servings : List Serving) :
    ∃ next : Ledger, (serve external (uploadBody envelope) ledger.tables servings).2 =
        next.tables ∧
      (∀ stored ∈ next.stored, stored ∈ ledger.stored ∨ stored = envelope) ∧
      (∀ stored ∈ ledger.stored, stored ∈ next.stored ∨
        ∃ serving ∈ servings, serving.Expires stored) ∧
      ∀ ack, .ack ack ∈ (serve external (uploadBody envelope) ledger.tables servings).1 →
        ack.batchId = envelope.batchId ∧
          (envelope ∈ next.stored ∨ ∃ serving ∈ servings, serving.Expires envelope) := by
  induction servings generalizing ledger with
  | nil => exact ⟨ledger, rfl, fun _ => .inl, fun _ => .inl, by simp [serve]⟩
  | cons serving rest ih =>
      obtain ⟨middle, tables, added, remaining, acked⟩ := expects.delivery serving
      obtain ⟨next, last, addedLater, remainingLater, ackedLater⟩ := ih (expects.later added)
      simp only [serve, tables]
      have kept : ∀ stored ∈ middle.stored, stored ∈ next.stored ∨
          ∃ other ∈ serving :: rest, other.Expires stored := by
        intro stored held
        refine (remainingLater stored held).imp_right ?_
        rintro ⟨other, member, expires⟩
        exact ⟨other, List.mem_cons_of_mem _ member, expires⟩
      refine ⟨next, last, fun stored held => ?_, fun stored held => ?_, fun ack member => ?_⟩
      · rcases addedLater stored held with old | new
        · exact added stored old
        · exact .inr new
      · rcases remaining stored held with still | expires
        · exact kept stored still
        · exact .inr ⟨serving, List.mem_cons_self, expires⟩
      · rcases List.mem_cons.mp member with first | later
        · obtain ⟨same, here⟩ := acked ack first.symm
          exact ⟨same, kept envelope here⟩
        · obtain ⟨same, here | ⟨other, member, expires⟩⟩ := ackedLater ack later
          · exact ⟨same, .inl here⟩
          · exact ⟨same, .inr ⟨other, List.mem_cons_of_mem _ member, expires⟩⟩

variable (external) in
theorem serve_length (request : String) (tables : ControlTables) (servings : List Serving) :
    (serve external request tables servings).1.length = servings.length := by
  induction servings generalizing tables with
  | nil => rfl
  | cons serving rest ih => simp [serve, ih]

theorem Ledger.Expects.response_iff (expects : ledger.Expects external envelope)
    {servings : List Serving} (faultless : ∀ serving ∈ servings, serving.faults = noFaults)
    (index : Nat) :
    (∃ ack, (serve external (uploadBody envelope) ledger.tables servings).1[index]? =
        some (.ack ack)) ↔
      (∃ serving, servings[index]? = some serving ∧ serving.Timely) ∧ envelope.Deliverable := by
  induction servings generalizing ledger index with
  | nil => simp [serve]
  | cons serving rest ih =>
      obtain ⟨first, others⟩ := List.forall_mem_cons.mp faultless
      cases index with
      | zero => simpa [serve] using expects.ack_iff first
      | succ index =>
          obtain ⟨middle, tables, added, _⟩ := expects.delivery serving
          simpa [serve, tables] using ih (expects.later added) others index

theorem Ledger.Expects.answers_iff (expects : ledger.Expects external envelope) {index : Nat}
    (faultless : (exchanges index).Faultless) :
    readReply envelope
        (ingestPeer external exchanges (uploadBody envelope) (index, ledger.tables)).1 = .ok () ↔
      (exchanges index).Answers ∧ envelope.Deliverable := by
  unfold ingestPeer Exchange.Answers
  dsimp only
  obtain ⟨_, _, _, _, acked⟩ := expects.served (exchanges index).servings
  cases heard : (exchanges index).heard with
  | nothing => simp [Heard.reply, readReply]
  | garbled => simp [Heard.reply, readReply]
  | response place =>
      have answered := expects.response_iff faultless place
      have heardOk : readReply envelope (Heard.reply (serve external (uploadBody envelope)
            ledger.tables (exchanges index).servings).1 (.response place)) = .ok () ↔
          ∃ ack, (serve external (uploadBody envelope) ledger.tables
            (exchanges index).servings).1[place]? = some (.ack ack) := by
        cases found : (serve external (uploadBody envelope) ledger.tables
            (exchanges index).servings).1[place]? with
        | none => simp [Heard.reply, readReply, found]
        | some response =>
            cases response with
            | failure status text => simp [Heard.reply, readReply, readAck, found]
            | ack ack =>
                have same := (acked ack (List.mem_of_getElem? found)).1
                simp [Heard.reply, readReply, readAck, found, same]
      rw [heardOk, answered]
      constructor
      · rintro ⟨⟨serving, found, timely⟩, deliverable⟩
        exact ⟨⟨place, serving, rfl, found, timely⟩, deliverable⟩
      · rintro ⟨⟨_, serving, ⟨rfl⟩, found, timely⟩, deliverable⟩
        exact ⟨⟨serving, found, timely⟩, deliverable⟩

variable (exchanges) in
theorem Ledger.Expects.exchange (expects : ledger.Expects external envelope) (index : Nat) :
    ∃ reply, ∃ next : Ledger,
      ingestPeer external exchanges (uploadBody envelope) (index, ledger.tables) =
        (reply, index + 1, next.tables) ∧
      (∀ stored ∈ next.stored, stored ∈ ledger.stored ∨ stored = envelope) ∧
      (∀ stored ∈ ledger.stored, stored ∈ next.stored ∨ (exchanges index).Expires stored) ∧
      (readReply envelope reply = .ok () →
        envelope ∈ next.stored ∨ (exchanges index).Expires envelope) ∧
      ∀ error, readReply envelope reply = .error error →
        error = (exchanges index).failure envelope := by
  obtain ⟨next, tables, added, remaining, acked⟩ := expects.served (exchanges index).servings
  refine ⟨_, next, by rw [ingestPeer, tables], added, remaining, fun result => ?_,
    fun error failed => ?_⟩
  · cases heard : (exchanges index).heard with
    | nothing => simp [heard, Heard.reply, readReply] at result
    | garbled => simp [heard, Heard.reply, readReply] at result
    | response place =>
        cases found : (serve external (uploadBody envelope) ledger.tables
            (exchanges index).servings).1[place]? with
        | none => simp [heard, Heard.reply, readReply, found] at result
        | some response =>
            rw [heard, Heard.reply, found] at result
            obtain ⟨ack, rfl, _⟩ := readAck_ok result
            exact (acked ack (List.mem_of_getElem? found)).2
  · unfold Exchange.failure
    cases heard : (exchanges index).heard with
    | nothing => simpa [heard, Heard.reply, readReply, eq_comm] using failed
    | garbled => simpa [heard, Heard.reply, readReply, eq_comm] using failed
    | response place =>
        cases found : (serve external (uploadBody envelope) ledger.tables
            (exchanges index).servings).1[place]? with
        | none => simpa [heard, Heard.reply, readReply, found, eq_comm] using failed
        | some response =>
            cases response with
            | failure status text =>
                simpa [heard, Heard.reply, readReply, readAck, found, eq_comm] using failed
            | ack ack =>
                have same := (acked ack (List.mem_of_getElem? found)).1
                simp [heard, Heard.reply, readReply, readAck, found, same] at failed

end Exchanges

section Passes

variable {external : External} {exchanges : Nat → Exchange} {family : BatchEnvelope → Prop}
  {ledger : Ledger} {index : Nat} {queue sent rest : List BatchEnvelope}

/-- Envelopes the control plane can rely on, no two of them with one identity. -/
structure Reliable (external : External) (family : BatchEnvelope → Prop) : Prop where
  decodes : ∀ envelope, family envelope → external.fromSlice (uploadBody envelope) = some envelope
  valid : ∀ envelope, family envelope → envelope.Valid external
  apart : ∀ first second, family first → family second →
    first.batchId = second.batchId ∨ first.sequence = second.sequence → first = second

theorem Reliable.expects (reliable : Reliable external family) {envelope : BatchEnvelope}
    (within : ∀ stored ∈ ledger.stored, family stored) (member : family envelope)
    (checked : envelope.SpoolChecked) : ledger.Expects external envelope :=
  ⟨reliable.decodes envelope member, reliable.valid envelope member, checked,
    fun stored held => reliable.apart stored envelope (within stored held) member⟩

structure Delivered (exchanges : Nat → Exchange) (family : BatchEnvelope → Prop) (ledger : Ledger)
    (index : Nat) (sent : List BatchEnvelope) (final : Ledger) : Prop where
  within : ∀ stored ∈ final.stored, family stored
  held : ∀ envelope, envelope ∈ ledger.stored ∨ envelope ∈ sent →
    envelope ∈ final.stored ∨
      ∃ offset < sent.length, (exchanges (index + offset)).Expires envelope
  passed : ∀ offset envelope, sent[offset]? = some envelope →
    (exchanges (index + offset)).Answers ∧ envelope.Deliverable

theorem Acknowledges.delivered (reliable : Reliable external family)
    (faultless : ∀ index, (exchanges index).Faultless)
    (members : ∀ envelope ∈ sent, family envelope ∧ envelope.SpoolChecked)
    (within : ∀ stored ∈ ledger.stored, family stored) {last : Nat × ControlTables}
    (acknowledges : Acknowledges (ingestPeer external exchanges) (index, ledger.tables) sent last) :
    ∃ final : Ledger, last = (index + sent.length, final.tables) ∧
      Delivered exchanges family ledger index sent final := by
  induction sent generalizing index ledger with
  | nil =>
      cases acknowledges
      exact ⟨ledger, rfl, within, fun envelope held => .inl (by simpa using held), by simp⟩
  | cons envelope sent ih =>
      cases acknowledges with
      | cons acked later =>
          obtain ⟨⟨member, checked⟩, others⟩ := List.forall_mem_cons.mp members
          have expects := reliable.expects within member checked
          have passed := (expects.answers_iff (faultless index)).mp acked
          obtain ⟨reply, next, exchanged, added, remaining, taken, _⟩ :=
            expects.exchange exchanges index
          rw [exchanged] at acked later
          have stillWithin : ∀ stored ∈ next.stored, family stored := by
            intro stored held
            rcases added stored held with old | rfl
            · exact within stored old
            · exact member
          obtain ⟨final, ended, delivered⟩ := ih others stillWithin later
          refine ⟨final, ?_, delivered.within, ?_, ?_⟩
          · rw [ended, List.length_cons, Nat.add_right_comm, Nat.add_assoc]
          · intro source held
            have now : source ∈ next.stored ∨ source ∈ sent ∨ (exchanges index).Expires source := by
              rcases held with before | here
              · rcases remaining source before with still | expired
                · exact .inl still
                · exact .inr (.inr expired)
              · rcases List.mem_cons.mp here with rfl | after
                · exact (taken acked).imp_right .inr
                · exact .inr (.inl after)
            rcases now with still | after | expired
            · rcases delivered.held source (.inl still) with kept | ⟨offset, less, expired⟩
              · exact .inl kept
              · refine .inr ⟨offset + 1, by simpa using less, ?_⟩
                rwa [Nat.add_right_comm, Nat.add_assoc] at expired
            · rcases delivered.held source (.inr after) with kept | ⟨offset, less, expired⟩
              · exact .inl kept
              · refine .inr ⟨offset + 1, by simpa using less, ?_⟩
                rwa [Nat.add_right_comm, Nat.add_assoc] at expired
            · exact .inr ⟨0, by simp, expired⟩
          · intro offset source found
            cases offset with
            | zero =>
                cases found
                exact passed
            | succ offset =>
                have later := delivered.passed offset source found
                rwa [Nat.add_right_comm, Nat.add_assoc] at later

/-- How a pass over a queue ends: it has passed what was sent, it stops at the first envelope
of the rest, and what was sent is stored or has expired. -/
structure PassEnds (exchanges : Nat → Exchange) (ledger : Ledger) (index : Nat) (count : UInt64)
    (sent rest : List BatchEnvelope) (result : Except AnyhowError UploadReport) (final : Ledger) :
    Prop where
  passed : ∀ offset envelope, sent[offset]? = some envelope →
    (exchanges (index + offset)).Answers ∧ envelope.Deliverable
  stopped : ∀ envelope ∈ rest.head?,
    ¬((exchanges (index + sent.length)).Answers ∧ envelope.Deliverable)
  result : result = match rest.head? with
    | none => .ok { acknowledged := count + UInt64.ofNat sent.length }
    | some envelope => .error ((exchanges (index + sent.length)).failure envelope)
  held : ∀ envelope, envelope ∈ ledger.stored ∨ envelope ∈ sent →
    envelope ∈ final.stored ∨
      ∃ offset ≤ sent.length, (exchanges (index + offset)).Expires envelope

theorem Uploaded.ends {count : UInt64}
    {ended : Except AnyhowError UploadReport × Nat × ControlTables}
    (uploaded : Uploaded (ingestPeer external exchanges) (index, ledger.tables) count queue sent
      rest ended)
    (reliable : Reliable external family) (faultless : ∀ index, (exchanges index).Faultless)
    (members : ∀ envelope ∈ queue, family envelope ∧ envelope.SpoolChecked)
    (within : ∀ stored ∈ ledger.stored, family stored) :
    ∃ next, ∃ final : Ledger, ended.2 = (next, final.tables) ∧
      (∀ stored ∈ final.stored, family stored) ∧
      PassEnds exchanges ledger index count sent rest ended.1 final := by
  cases uploaded with
  | finished acknowledges =>
      obtain ⟨final, last, delivered⟩ := acknowledges.delivered reliable faultless members within
      refine ⟨_, final, last, delivered.within, delivered.passed, by simp, rfl, ?_⟩
      intro envelope held
      refine (delivered.held envelope held).imp_right ?_
      rintro ⟨offset, less, expired⟩
      exact ⟨offset, Nat.le_of_lt less, expired⟩
  | @stopped _ head tail last error split acknowledges refused =>
      have ahead : ∀ envelope ∈ sent, family envelope ∧ envelope.SpoolChecked :=
        fun envelope member => members envelope (split ▸ List.mem_append_left _ member)
      obtain ⟨middle, rfl, delivered⟩ := acknowledges.delivered reliable faultless ahead within
      obtain ⟨member, checked⟩ := members head (by simp [split])
      have expects := reliable.expects delivered.within member checked
      have blocked := expects.answers_iff (faultless (index + sent.length))
      obtain ⟨reply, next, exchanged, added, remaining, _, message⟩ :=
        expects.exchange exchanges (index + sent.length)
      rw [exchanged] at refused blocked ⊢
      refine ⟨_, next, rfl, ?_, delivered.passed, ?_, ?_, ?_⟩
      · intro stored held
        rcases added stored held with old | rfl
        · exact delivered.within stored old
        · exact member
      · rintro envelope ⟨rfl⟩ passes
        rw [blocked.mpr passes] at refused
        cases refused
      · rw [message error refused]
        rfl
      · intro envelope held
        rcases delivered.held envelope held with still | ⟨offset, less, expired⟩
        · exact (remaining envelope still).imp_right fun expired => ⟨sent.length, le_rfl, expired⟩
        · exact .inr ⟨offset, Nat.le_of_lt less, expired⟩

end Passes

section Systems

variable {Agent : Type} {external : External}

theorem System.Trusted.reliable [DecidableEq Agent] {system : System Agent}
    (trusted : system.Trusted external) (safe : system.Safe external)
    (distinguished : Distinguished system.Enqueued) : Reliable external system.Enqueued where
  decodes := trusted.upload
  valid envelope enqueued := by
    obtain ⟨agent, belongs⟩ := enqueued
    exact ((safe.accounted agent).accounts.isSealed envelope belongs).isValid
  apart first second firstMem secondMem same := by
    have batchId : first.batchId = second.batchId := by
      rcases same with equal | sequence
      · exact equal
      · exact distinguished.sequence first second firstMem secondMem sequence
    have checksum := distinguished.batchId first second firstMem secondMem batchId
    exact trusted.eq_of_checksum safe firstMem secondMem checksum

theorem SpoolHistory.Checked.envelope_checked {history : SpoolHistory}
    (checked : history.Checked external) {envelope : BatchEnvelope}
    (waits : envelope ∈ history.tables.waiting history.enqueued) : envelope.SpoolChecked := by
  have rows := checked.accounted.accounts.batches_eq
  exact (checked.columns (batchRow envelope) (rows ▸ List.mem_map_of_mem waits)).spoolChecked

end Systems

section Limits

variable {external : External} {exchanges : Nat → Exchange} {family : BatchEnvelope → Prop}
  {enqueued : List BatchEnvelope} {acknowledged : List BatchRow} {tables : SpoolTables}
  {ledger : Ledger}

structure Connected (external : External) (family : BatchEnvelope → Prop)
    (enqueued : List BatchEnvelope) (tables : SpoolTables) (ledger : Ledger) : Prop where
  accounts : ∃ acknowledged, Accounts external enqueued acknowledged tables
  members : ∀ envelope ∈ enqueued, family envelope
  checked : ∀ envelope ∈ tables.waiting enqueued, envelope.SpoolChecked
  within : ∀ stored ∈ ledger.stored, family stored
  payload : ∀ envelope ∈ enqueued, external.fromSlice (toVec envelope) = some envelope

theorem Connected.pass (connected : Connected external family enqueued tables ledger)
    (reliable : Reliable external family) (faultless : ∀ index, (exchanges index).Faultless)
    {limit : Nat} (small : limit < 2 ^ 63) (index : Nat) :
    ∃ sent rest result next, ∃ final : Ledger,
      (tables.waiting enqueued).take limit = sent ++ rest ∧
      uploadOnce external (ingestPeer external exchanges) noFaults limit (index, ledger.tables)
          tables =
        (result, (next, final.tables), { tables with
          batches := (rest ++ (tables.waiting enqueued).drop limit).map batchRow }) ∧
      PassEnds exchanges ledger index 0 sent rest result final ∧
      Connected external family enqueued { tables with
        batches := (rest ++ (tables.waiting enqueued).drop limit).map batchRow } final ∧
      ({ tables with batches := (rest ++ (tables.waiting enqueued).drop limit).map batchRow }
        : SpoolTables).waiting enqueued = rest ++ (tables.waiting enqueued).drop limit := by
  obtain ⟨acknowledged, accounts⟩ := connected.accounts
  obtain ⟨sent, rest, ended, uploaded, result, settled, remaining⟩ :=
    accounts.uploadOnce_waiting connected.payload (ingestPeer external exchanges) small
      (index, ledger.tables)
  have whole : tables.waiting enqueued = sent ++ (rest ++ (tables.waiting enqueued).drop limit) := by
    rw [← List.append_assoc, ← uploaded.split, List.take_append_drop]
  have waits : ∀ envelope ∈ rest ++ (tables.waiting enqueued).drop limit,
      envelope ∈ tables.waiting enqueued :=
    fun envelope member => whole ▸ List.mem_append_right _ member
  have taken : ∀ envelope ∈ (tables.waiting enqueued).take limit,
      family envelope ∧ envelope.SpoolChecked := by
    intro envelope member
    have here := List.mem_of_mem_take member
    exact ⟨connected.members envelope (mem_waiting.mp here).1, connected.checked envelope here⟩
  obtain ⟨next, final, after, within, ends⟩ :=
    uploaded.ends reliable faultless taken connected.within
  have left := remaining.waiting_eq rfl fun envelope member =>
    (mem_waiting.mp (waits envelope member)).1
  refine ⟨sent, rest, ended.1, next, final, uploaded.split, by rw [result, after], ends, ?_, left⟩
  refine ⟨⟨settled, remaining⟩, connected.members, ?_, within, connected.payload⟩
  intro envelope member
  rw [left] at member
  exact connected.checked envelope (waits envelope member)

end Limits

theorem System.run_connected {Agent : Type} [DecidableEq Agent] {external : External}
    {actions : List (Action Agent)} (trusted : (System.run external actions).Trusted external)
    (agent : Agent) :
    ∃ ledger : Ledger, (System.run external actions).control = ledger.tables ∧
      Connected external (System.run external actions).Enqueued
        ((System.run external actions).spools agent).enqueued
        ((System.run external actions).spools agent).tables ledger := by
  have complete := System.run_complete trusted
  obtain ⟨ledger, tables, committed, _⟩ := complete.ledger
  have checked := (complete.recorded agent).checked
  exact ⟨ledger, tables, ⟨_, checked.accounted.accounts⟩, fun envelope belongs => ⟨agent, belongs⟩,
    fun envelope waits => checked.envelope_checked waits,
    fun envelope held => complete.safe.committed envelope (committed envelope held),
    fun envelope belongs => trusted.payload envelope ⟨agent, belongs⟩⟩

/-- One pass over the spool of an agent in any reachable state of the protocol, with no faults of
the two engines: it sends the first batches pending, at most `limit` of them, up to the first one
whose exchange is not completed or which the control plane does not take, and deletes those. -/
theorem upload_pass_exact {Agent : Type} [DecidableEq Agent] (external : External)
    (actions : List (Action Agent)) (agent : Agent) (limit : Nat) (exchanges : Nat → Exchange)
    (trusted : (System.run external actions).Trusted external)
    (distinguished : Distinguished (System.run external actions).Enqueued)
    (small : limit < 2 ^ 63) (faultless : ∀ index, (exchanges index).Faultless) :
    ∃ sent rest result next, ∃ stored : List BatchEnvelope, ∃ control : ControlTables,
      (((System.run external actions).spools agent).tables.waiting
        ((System.run external actions).spools agent).enqueued).take limit = sent ++ rest ∧
      uploadOnce external (ingestPeer external exchanges) noFaults limit
          (0, (System.run external actions).control)
          ((System.run external actions).spools agent).tables =
        (result, (next, control), { ((System.run external actions).spools agent).tables with
          batches := ((System.run external actions).spools agent).tables.batches.drop
            sent.length }) ∧
      (∀ index envelope, sent[index]? = some envelope →
        (exchanges index).Answers ∧ envelope.Deliverable) ∧
      (∀ envelope ∈ rest.head?, ¬((exchanges sent.length).Answers ∧ envelope.Deliverable)) ∧
      result = (match rest.head? with
        | none => .ok { acknowledged := UInt64.ofNat sent.length }
        | some envelope => .error ((exchanges sent.length).failure envelope)) ∧
      control.flowBuckets = stored.flatMap flowRows ∧
      ∀ envelope ∈ sent, envelope ∈ stored ∨
        ∃ index ≤ sent.length, (exchanges index).Expires envelope := by
  obtain ⟨ledger, tables, connected⟩ := System.run_connected trusted agent
  obtain ⟨_, accounts⟩ := connected.accounts
  have reliable := trusted.reliable (System.run_safe trusted) distinguished
  obtain ⟨sent, rest, result, next, final, split, outcome, ends, _, _⟩ :=
    connected.pass reliable faultless small 0
  refine ⟨sent, rest, result, next, final.stored, final.tables, split, ?_, ?_, ?_, ?_, rfl, ?_⟩
  · have whole : ((System.run external actions).spools agent).tables.waiting
        ((System.run external actions).spools agent).enqueued = sent ++ (rest ++
          (((System.run external actions).spools agent).tables.waiting
            ((System.run external actions).spools agent).enqueued).drop limit) := by
      rw [← List.append_assoc, ← split, List.take_append_drop]
    have rows := congrArg (List.map batchRow) whole
    rw [← accounts.batches_eq, List.map_append] at rows
    rw [tables, outcome]
    congr 3
    rw [rows, ← List.length_map batchRow, List.drop_left]
  · intro index envelope found
    simpa using ends.passed index envelope found
  · intro envelope first
    simpa using ends.stopped envelope first
  · simpa using ends.result
  · intro envelope member
    simpa using ends.held envelope (.inr member)

/-! One agent with one batch pending, and a network that serves everything. -/

def pendingUpload : List (Action (Fin 1)) := [
  .openSpool (Fin.last 0) noFaults countedLimits,
  .enqueue (Fin.last 0) noFaults (countedBatch 1)]

def servedExchange : Exchange where
  servings := [{ clock := some 100 }, { clock := some 101 }]
  heard := .response 1

theorem pendingUpload_spools : ∀ agent : Fin 1,
    ((System.run oneExternal pendingUpload).spools agent).enqueued = [oneEnvelope] ∧
      ((System.run oneExternal pendingUpload).spools agent).tables.waiting [oneEnvelope] =
        [oneEnvelope] := by
  decide +kernel

theorem pendingUpload_enqueued {envelope : BatchEnvelope}
    (enqueued : (System.run oneExternal pendingUpload).Enqueued envelope) :
    envelope = oneEnvelope := by
  obtain ⟨agent, member⟩ := enqueued
  rw [(pendingUpload_spools agent).1] at member
  exact List.mem_singleton.mp member

theorem pendingUpload_trusted : (System.run oneExternal pendingUpload).Trusted oneExternal := by
  refine ⟨?_, ?_, ?_⟩
  · intro first second firstMem secondMem different
    rw [pendingUpload_enqueued firstMem, pendingUpload_enqueued secondMem] at different
    exact absurd rfl different
  · intro envelope member
    rw [pendingUpload_enqueued member]
    decide +kernel
  · intro envelope member
    rw [pendingUpload_enqueued member]
    decide +kernel

theorem pendingUpload_distinguished :
    Distinguished (System.run oneExternal pendingUpload).Enqueued := by
  refine ⟨?_, ?_⟩
  · intro first second firstMem secondMem _
    rw [pendingUpload_enqueued firstMem, pendingUpload_enqueued secondMem]
  · intro first second firstMem secondMem _
    rw [pendingUpload_enqueued firstMem, pendingUpload_enqueued secondMem]

theorem servedExchange_answers : servedExchange.Answers :=
  ⟨1, { clock := some 101 }, rfl, rfl, 101, rfl, by decide⟩

theorem servedExchange_faultless : servedExchange.Faultless := by
  simp [servedExchange, Exchange.Faultless]

theorem oneEnvelope_deliverable : oneEnvelope.Deliverable :=
  ⟨by decide +kernel, by decide +kernel⟩

theorem upload_pass_exact_pendingUpload :
    ∃ sent rest, [oneEnvelope].take 10 = sent ++ rest ∧
      (∀ envelope ∈ sent, envelope.Deliverable) ∧
      ∀ envelope ∈ rest.head?, ¬(servedExchange.Answers ∧ envelope.Deliverable) := by
  obtain ⟨sent, rest, _, _, _, _, split, _, passed, stopped, _⟩ :=
    upload_pass_exact oneExternal pendingUpload 0 10 (fun _ => servedExchange)
      pendingUpload_trusted pendingUpload_distinguished (by decide) fun _ => servedExchange_faultless
  rw [(pendingUpload_spools 0).1, (pendingUpload_spools 0).2] at split
  refine ⟨sent, rest, split, fun envelope member => ?_, stopped⟩
  obtain ⟨index, found⟩ := List.mem_iff_getElem?.mp member
  exact (passed index envelope found).2

def uploadPasses {σ : Type} (external : External) (peer : Peer σ) (faults : SpoolFaults)
    (limit : Nat) : Nat → σ × SpoolTables → σ × SpoolTables
  | 0, start => start
  | passes + 1, start =>
    let before := uploadPasses external peer faults limit passes start
    (uploadOnce external peer faults limit before.1 before.2).2

theorem drop_blocked {α : Type} {passes : α → Prop} {good blocked sent rest : List α} {limit : Nat}
    (deliverable : ∀ value ∈ good, passes value) (first : ∀ value ∈ blocked.head?, ¬passes value)
    (split : (good ++ blocked).take limit = sent ++ rest) (passed : ∀ value ∈ sent, passes value)
    (stopped : ∀ value ∈ rest.head?, ¬passes value) :
    rest ++ (good ++ blocked).drop limit = good.drop limit ++ blocked := by
  induction good generalizing limit sent with
  | nil =>
      rw [List.nil_append] at split
      have none : sent = [] := by
        cases sent with
        | nil => rfl
        | cons value sent =>
            cases limit with
            | zero => simp at split
            | succ limit =>
                cases blocked with
                | nil => simp at split
                | cons head tail =>
                    rw [List.take_succ_cons, List.cons_append, List.cons.injEq] at split
                    exact absurd (split.1 ▸ passed value List.mem_cons_self) (first head rfl)
      subst none
      rw [List.nil_append] at split
      rw [← split, List.nil_append, List.take_append_drop, List.drop_nil, List.nil_append]
  | cons value good ih =>
      obtain ⟨here, later⟩ := List.forall_mem_cons.mp deliverable
      cases limit with
      | zero =>
          have empty := congrArg List.length split
          rw [List.take_zero, List.length_nil, List.length_append] at empty
          have none : rest = [] := List.length_eq_zero_iff.mp (by omega)
          rw [none, List.nil_append, List.drop_zero, List.drop_zero]
      | succ limit =>
          rw [List.cons_append, List.take_succ_cons] at split
          rw [List.cons_append, List.drop_succ_cons, List.drop_succ_cons]
          cases sent with
          | nil =>
              rw [List.nil_append] at split
              exact absurd here (stopped value (by rw [← split]; rfl))
          | cons sentFirst sent =>
              rw [List.cons_append, List.cons.injEq] at split
              exact ih later split.2 fun other member =>
                passed other (List.mem_cons_of_mem _ member)

/-- Where every exchange is completed, any number of passes takes the batches pending that many
times `limit` further, and never past the first batch the control plane refuses. -/
theorem upload_passes_drain {Agent : Type} [DecidableEq Agent] (external : External)
    (actions : List (Action Agent)) (agent : Agent) (limit : Nat) (exchanges : Nat → Exchange)
    (trusted : (System.run external actions).Trusted external)
    (distinguished : Distinguished (System.run external actions).Enqueued)
    (small : limit < 2 ^ 63) (faultless : ∀ index, (exchanges index).Faultless)
    (answers : ∀ index, (exchanges index).Answers) (good blocked : List BatchEnvelope)
    (waiting : ((System.run external actions).spools agent).tables.waiting
      ((System.run external actions).spools agent).enqueued = good ++ blocked)
    (deliverable : ∀ envelope ∈ good, envelope.Deliverable)
    (first : ∀ envelope ∈ blocked.head?, ¬envelope.Deliverable) (passes : Nat) :
    (uploadPasses external (ingestPeer external exchanges) noFaults limit passes
        ((0, (System.run external actions).control),
          ((System.run external actions).spools agent).tables)).2 =
      { ((System.run external actions).spools agent).tables with
        batches := (good.drop (passes * limit) ++ blocked).map batchRow } := by
  obtain ⟨ledger, tables, connected⟩ := System.run_connected trusted agent
  have reliable := trusted.reliable (System.run_safe trusted) distinguished
  rw [tables]
  generalize ((System.run external actions).spools agent).enqueued = enqueued at waiting connected
  generalize ((System.run external actions).spools agent).tables = spool at waiting connected ⊢
  -- Every pass leaves a ledger of the family and the envelopes after those it has sent.
  suffices reached : ∃ index, ∃ final : Ledger,
      uploadPasses external (ingestPeer external exchanges) noFaults limit passes
          ((0, ledger.tables), spool) =
        ((index, final.tables), { spool with
          batches := (good.drop (passes * limit) ++ blocked).map batchRow }) ∧
      Connected external (System.run external actions).Enqueued enqueued { spool with
        batches := (good.drop (passes * limit) ++ blocked).map batchRow } final ∧
      ({ spool with batches := (good.drop (passes * limit) ++ blocked).map batchRow }
        : SpoolTables).waiting enqueued = good.drop (passes * limit) ++ blocked by
    obtain ⟨index, final, outcome, _⟩ := reached
    rw [outcome]
  induction passes with
  | zero =>
      obtain ⟨_, accounts⟩ := connected.accounts
      rw [Nat.zero_mul, List.drop_zero, ← waiting, ← accounts.batches_eq]
      exact ⟨0, ledger, rfl, connected, rfl⟩
  | succ passes ih =>
      obtain ⟨index, middle, before, still, left⟩ := ih
      obtain ⟨sent, rest, result, next, final, split, outcome, ends, later, remaining⟩ :=
        still.pass reliable faultless small index
      rw [left] at split outcome later remaining
      have onward := drop_blocked (fun envelope member =>
          deliverable envelope (List.mem_of_mem_drop member)) first split
        (fun envelope member => by
          obtain ⟨offset, found⟩ := List.mem_iff_getElem?.mp member
          exact (ends.passed offset envelope found).2)
        fun envelope head passes => ends.stopped envelope head ⟨answers _, passes⟩
      rw [List.drop_drop, ← Nat.succ_mul] at onward
      rw [onward] at outcome later remaining
      refine ⟨next, final, ?_, later, remaining⟩
      rw [uploadPasses, before]
      dsimp only
      rw [outcome]

theorem upload_passes_drain_pendingUpload :
    (uploadPasses oneExternal (ingestPeer oneExternal fun _ => servedExchange) noFaults 10 1
        ((0, (System.run oneExternal pendingUpload).control),
          ((System.run oneExternal pendingUpload).spools 0).tables)).2 =
      { ((System.run oneExternal pendingUpload).spools 0).tables with batches := [] } := by
  have waiting := (pendingUpload_spools 0).2
  rw [← (pendingUpload_spools 0).1] at waiting
  refine upload_passes_drain oneExternal pendingUpload 0 10 (fun _ => servedExchange)
    pendingUpload_trusted pendingUpload_distinguished (by decide) (fun _ => servedExchange_faultless)
    (fun _ => servedExchange_answers) [oneEnvelope] [] ?_ ?_ (by simp) 1
  · rw [waiting, (pendingUpload_spools 0).1, List.append_nil]
  · intro envelope member
    rw [List.mem_singleton.mp member]
    exact oneEnvelope_deliverable

end FlowObservability
