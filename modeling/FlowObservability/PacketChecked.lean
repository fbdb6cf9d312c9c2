import FlowObservability.PacketReads

/-!
The parser with its checks made: every offset is computed under a limit, a header length is a
checked product, the array conversion panics instead of failing, and each round of the walk asks
that its offset lies in the frame. With room for the longest header it is the parser.
-/

namespace FlowObservability

open Transaction

def checkedAdd (limit first second : Nat) : Except Abort Nat :=
  if first + second ≤ limit then .ok (first + second) else .error .panic

def checkedMul (limit first second : Nat) : Except Abort Nat :=
  if first * second ≤ limit then .ok (first * second) else .error .panic

def checkedByteAt (limit : Nat) (frame : Frame) (offset distance : Nat) : Except Abort UInt8 := do
  let index ← checkedAdd limit offset distance
  byteAt frame index

def checkedWordAt (limit : Nat) (frame : Frame) (offset distance : Nat) : Except Abort UInt16 := do
  let high ← checkedByteAt limit frame offset distance
  let low ← checkedByteAt limit frame offset (distance + 1)
  return fromBeBytes high low

def checkedRequire (limit : Nat) (frame : Frame) (offset length : Nat) (layer : String) :
    Except Abort Unit := do
  let stop ← checkedAdd limit offset length
  require frame stop layer

theorem toArray_sixteen {bytes : Frame} (sixteen : bytes.length = 16) :
    bytes.toArray.size = 16 := by
  rw [List.size_toArray, sixteen]

/-- `try_into` with its error branch a panic. -/
def checkedOctets (bytes : Frame) : Except Abort (Vector UInt8 16) :=
  if sixteen : bytes.length = 16 then .ok ⟨bytes.toArray, toArray_sixteen sixteen⟩
  else .error .panic

def checkedSlice (limit : Nat) (frame : Frame) (offset start stop : Nat) : Except Abort Frame := do
  let start ← checkedAdd limit offset start
  let stop ← checkedAdd limit offset stop
  slice frame start stop

def checkedSkipTags (limit : Nat) (frame : Frame) :
    Nat → Nat → UInt16 → Except Abort (Nat × UInt16)
  | 0, offset, etherType => .ok (offset, etherType)
  | rounds + 1, offset, etherType =>
    if etherType = 0x8100 ∨ etherType = 0x88a8 then do
      checkedRequire limit frame offset 4 "vlan"
      let etherType ← checkedWordAt limit frame offset 2
      let offset ← checkedAdd limit offset 4
      checkedSkipTags limit frame rounds offset etherType
    else .ok (offset, etherType)

def checkedIpOffset (limit : Nat) (frame : Frame) (linkType : Int32) :
    Except Abort (Nat × UInt16) :=
  if linkType = LINKTYPE_ETHERNET then do
    require frame 14 "ethernet"
    let etherType ← wordAt frame 12
    checkedSkipTags limit frame 2 14 etherType
  else ipOffset frame linkType

def checkedParsePorts (limit : Nat) (frame : Frame) (transportOffset : Nat) (protocol : UInt8) :
    Except Abort (Option (UInt16 × UInt16)) :=
  if TransportProtocol.from protocol = .tcp ∨ TransportProtocol.from protocol = .udp then do
    checkedRequire limit frame transportOffset 4 "transport"
    let source ← checkedWordAt limit frame transportOffset 0
    let destination ← checkedWordAt limit frame transportOffset 2
    return some (source, destination)
  else .ok none

def checkedIpv4At (limit : Nat) (frame : Frame) (offset distance : Nat) : Except Abort IpAddr := do
  let first ← checkedByteAt limit frame offset distance
  let second ← checkedByteAt limit frame offset (distance + 1)
  let third ← checkedByteAt limit frame offset (distance + 2)
  let fourth ← checkedByteAt limit frame offset (distance + 3)
  return .v4 first second third fourth

def checkedParseIpv4 (limit : Nat) (frame : Frame) (offset : Nat) : Except Abort IpPacket := do
  checkedRequire limit frame offset 20 "IPv4"
  let first ← byteAt frame offset
  if first >>> 4 ≠ 4 then
    .error (.error (.invalid "IPv4"))
  else
    let headerLen ← checkedMul limit (first &&& 0x0f).toNat 4
    if headerLen < 20 then
      .error (.error (.invalid "IPv4"))
    else
      checkedRequire limit frame offset headerLen "IPv4"
      let protocol ← checkedByteAt limit frame offset 9
      let source ← checkedIpv4At limit frame offset 12
      let destination ← checkedIpv4At limit frame offset 16
      let fragment ← checkedWordAt limit frame offset 6
      let ports ←
        if fragment &&& 0x1fff = 0 then do
          let transportOffset ← checkedAdd limit offset headerLen
          checkedParsePorts limit frame transportOffset protocol
        else .ok none
      return { source, destination, protocol, ports }

def checkedSkipExtension (limit : Nat) (frame : Frame) (walk : Walk) (layer : String)
    (more unit : Nat) : Except Abort Walk := do
  checkedRequire limit frame walk.transportOffset 2 layer
  let next ← byteAt frame walk.transportOffset
  let units ← checkedByteAt limit frame walk.transportOffset 1
  let units ← checkedAdd limit units.toNat more
  let length ← checkedMul limit units unit
  checkedRequire limit frame walk.transportOffset length layer
  let transportOffset ← checkedAdd limit walk.transportOffset length
  return { walk with protocol := next, transportOffset }

def checkedSkipFragment (limit : Nat) (frame : Frame) (walk : Walk) : Except Abort Walk := do
  checkedRequire limit frame walk.transportOffset 8 "IPv6 fragment"
  let next ← byteAt frame walk.transportOffset
  let fragment ← checkedWordAt limit frame walk.transportOffset 2
  let transportOffset ← checkedAdd limit walk.transportOffset 8
  return { protocol := next, transportOffset, firstFragment := fragment &&& 0xfff8 == 0 }

def insideFrame (frame : Frame) (walk : Walk) : Except Abort Unit :=
  if walk.transportOffset ≤ frame.length then .ok () else .error .panic

def checkedWalkExtensions (limit : Nat) (frame : Frame) : Nat → Walk → Except Abort Walk
  | 0, walk => do
    insideFrame frame walk
    return walk
  | rounds + 1, walk => do
    insideFrame frame walk
    if walk.protocol = 0 ∨ walk.protocol = 43 ∨ walk.protocol = 60 then
      let walk ← checkedSkipExtension limit frame walk "IPv6 extension" 1 8
      checkedWalkExtensions limit frame rounds walk
    else if walk.protocol = 44 then
      let walk ← checkedSkipFragment limit frame walk
      checkedWalkExtensions limit frame rounds walk
    else if walk.protocol = 51 then
      let walk ← checkedSkipExtension limit frame walk "IPv6 AH" 2 4
      checkedWalkExtensions limit frame rounds walk
    else
      return walk

def checkedParseIpv6 (limit : Nat) (frame : Frame) (offset : Nat) : Except Abort IpPacket := do
  checkedRequire limit frame offset 40 "IPv6"
  let first ← byteAt frame offset
  if first >>> 4 ≠ 6 then
    .error (.error (.invalid "IPv6"))
  else
    let source ← checkedSlice limit frame offset 8 24
    let source ← checkedOctets source
    let destination ← checkedSlice limit frame offset 24 40
    let destination ← checkedOctets destination
    let protocol ← checkedByteAt limit frame offset 6
    let transportOffset ← checkedAdd limit offset 40
    let walk ← checkedWalkExtensions limit frame 8
      { protocol, transportOffset, firstFragment := true }
    let ports ←
      if walk.firstFragment then checkedParsePorts limit frame walk.transportOffset walk.protocol
      else .ok none
    return { source := .v6 source, destination := .v6 destination, protocol := walk.protocol, ports }

def checkedParsePacket (limit : Nat) (frame : Frame) (linkType : Int32)
    (timestamp wireBytes : UInt64) (capturePoint : String) (localIps : List IpAddr) :
    Except Abort (Option PacketMeta) := do
  let (offset, etherType) ← checkedIpOffset limit frame linkType
  if etherType = 0x0800 then
    let packet ← checkedParseIpv4 limit frame offset
    return some (packetMeta packet timestamp wireBytes capturePoint localIps)
  else if etherType = 0x86dd then
    let packet ← checkedParseIpv6 limit frame offset
    return some (packetMeta packet timestamp wireBytes capturePoint localIps)
  else
    return none

/-- The checked computation does what the plain one does, without a panic, and a value it
returns has the property. -/
inductive Guarded {α : Type} (holds : α → Prop) : Except Abort α → Except Abort α → Prop
  | ok {value : α} (proof : holds value) : Guarded holds (.ok value) (.ok value)
  | error (error : PacketError) : Guarded holds (.error (.error error)) (.error (.error error))

section Guards

variable {α β : Type} {holds : α → Prop} {after : β → Prop}

theorem Guarded.bind {checked plain : Except Abort α} {next following : α → Except Abort β}
    (first : Guarded holds checked plain)
    (rest : ∀ value, holds value → Guarded after (next value) (following value)) :
    Guarded after (checked >>= next) (plain >>= following) := by
  cases first with
  | ok proof => exact rest _ proof
  | error error => exact .error error

theorem Guarded.same {checked plain : Except Abort α} (guarded : Guarded holds checked plain) :
    checked = plain ∧ plain ≠ .error .panic := by
  cases guarded with
  | ok proof => exact ⟨rfl, by simp⟩
  | error error => exact ⟨rfl, by simp⟩

end Guards

section Checks

variable {frame : Frame} {limit : Nat}

theorem checkedAdd_ok {first second : Nat} (room : first + second ≤ limit) :
    checkedAdd limit first second = .ok (first + second) := by
  simp [checkedAdd, room]

theorem checkedMul_ok {first second : Nat} (room : first * second ≤ limit) :
    checkedMul limit first second = .ok (first * second) := by
  simp [checkedMul, room]

theorem Guarded.require (length : Nat) (layer : String) :
    Guarded (fun _ => length ≤ frame.length) (require frame length layer)
      (require frame length layer) := by
  by_cases enough : length ≤ frame.length
  · rw [require_enough enough]
    exact .ok enough
  · rw [require_short (by omega)]
    exact .error _

theorem Guarded.requireFrom {offset length : Nat} (layer : String) (room : offset + length ≤ limit) :
    Guarded (fun _ => offset + length ≤ frame.length)
      (checkedRequire limit frame offset length layer)
      (FlowObservability.require frame (offset + length) layer) := by
  rw [checkedRequire, checkedAdd_ok room]
  exact .require _ layer

theorem Guarded.byteAt {index : Nat} (inside : index < frame.length) :
    Guarded (fun _ => True) (byteAt frame index) (byteAt frame index) := by
  rw [byteAt_inside inside]
  exact .ok trivial

theorem Guarded.wordAt {index : Nat} (inside : index + 1 < frame.length) :
    Guarded (fun _ => True) (wordAt frame index) (wordAt frame index) := by
  rw [wordAt_inside inside]
  exact .ok trivial

theorem checkedByteAt_inside (enough : frame.length ≤ limit) {offset distance : Nat}
    (inside : offset + distance < frame.length) :
    checkedByteAt limit frame offset distance =
      FlowObservability.byteAt frame (offset + distance) := by
  rw [checkedByteAt, checkedAdd_ok (by omega), ok_bind]

theorem Guarded.byteFrom (enough : frame.length ≤ limit) {offset distance : Nat}
    (inside : offset + distance < frame.length) :
    Guarded (fun _ => True) (checkedByteAt limit frame offset distance)
      (FlowObservability.byteAt frame (offset + distance)) := by
  rw [checkedByteAt_inside enough inside]
  exact .byteAt inside

theorem Guarded.wordFrom (enough : frame.length ≤ limit) {offset distance : Nat}
    (inside : offset + distance + 1 < frame.length) :
    Guarded (fun _ => True) (checkedWordAt limit frame offset distance)
      (FlowObservability.wordAt frame (offset + distance)) := by
  rw [checkedWordAt, checkedByteAt_inside enough (by omega), checkedByteAt_inside enough (by omega)]
  exact .wordAt inside

theorem Guarded.ipv4From (enough : frame.length ≤ limit) {offset distance : Nat}
    (inside : offset + distance + 3 < frame.length) :
    Guarded (fun _ => True) (checkedIpv4At limit frame offset distance)
      (ipv4At frame (offset + distance)) := by
  unfold checkedIpv4At ipv4At
  apply (Guarded.byteFrom enough (by omega)).bind
  intro first _
  apply (Guarded.byteFrom enough (by omega)).bind
  intro second _
  apply (Guarded.byteFrom enough (by omega)).bind
  intro third _
  apply (Guarded.byteFrom enough (by omega)).bind
  intro fourth _
  exact .ok trivial

theorem Guarded.octetsFrom (enough : frame.length ≤ limit) {offset start : Nat}
    (inside : offset + start + 16 ≤ frame.length) :
    Guarded (fun _ => True)
      (checkedSlice limit frame offset start (start + 16) >>= checkedOctets)
      (slice frame (offset + start) (offset + (start + 16)) >>= toOctets) := by
  have sixteen := octets_inside inside
  rw [checkedSlice, checkedAdd_ok (by omega), ok_bind, checkedAdd_ok (by omega), ok_bind,
    ← Nat.add_assoc, slice_inside (by omega) inside, ok_bind, ok_bind, checkedOctets, toOctets,
    dif_pos sixteen, dif_pos sixteen]
  exact .ok trivial

end Checks

section Parser

variable {frame : Frame} {limit : Nat} (room : frame.length + 2048 ≤ limit)
include room

theorem skipTags_guarded (rounds offset : Nat) (etherType : UInt16)
    (inside : offset ≤ frame.length) :
    Guarded (fun found => found.1 ≤ frame.length)
      (checkedSkipTags limit frame rounds offset etherType)
      (skipTags frame rounds offset etherType) := by
  induction rounds generalizing offset etherType with
  | zero => exact .ok inside
  | succ rounds ih =>
      simp only [checkedSkipTags, skipTags]
      split
      · apply (Guarded.requireFrom "vlan" (by omega)).bind
        intro _ covered
        apply (Guarded.wordFrom (by omega) (by omega)).bind
        intro inner _
        rw [checkedAdd_ok (by omega), ok_bind]
        exact ih (offset + 4) inner covered
      · exact .ok inside

theorem ipOffset_guarded (linkType : Int32) :
    Guarded (fun found => found.1 ≤ frame.length) (checkedIpOffset limit frame linkType)
      (ipOffset frame linkType) := by
  unfold checkedIpOffset ipOffset
  split
  · apply (Guarded.require 14 "ethernet").bind
    intro _ covered
    apply (Guarded.wordAt (by omega)).bind
    intro etherType _
    exact skipTags_guarded room 2 14 etherType covered
  · split
    · apply (Guarded.require 1 "raw IP").bind
      intro _ covered
      apply (Guarded.byteAt (by omega)).bind
      intro first _
      split
      · exact .ok (Nat.zero_le _)
      · split
        · exact .ok (Nat.zero_le _)
        · exact .error _
    · split
      · apply (Guarded.require 16 "linux cooked").bind
        intro _ covered
        apply (Guarded.wordAt (by omega)).bind
        intro etherType _
        exact .ok covered
      · split
        · apply (Guarded.require 20 "linux cooked v2").bind
          intro _ covered
          apply (Guarded.wordAt (by omega)).bind
          intro etherType _
          exact .ok covered
        · exact .error _

theorem parsePorts_guarded (transportOffset : Nat) (protocol : UInt8)
    (inside : transportOffset ≤ frame.length) :
    Guarded (fun _ => True) (checkedParsePorts limit frame transportOffset protocol)
      (parsePorts frame transportOffset protocol) := by
  unfold checkedParsePorts parsePorts
  split
  · apply (Guarded.requireFrom "transport" (by omega)).bind
    intro _ covered
    apply (Guarded.wordFrom (by omega) (by omega)).bind
    intro source _
    apply (Guarded.wordFrom (by omega) (by omega)).bind
    intro destination _
    exact .ok trivial
  · exact .ok trivial

theorem parseIpv4_guarded (offset : Nat) (inside : offset ≤ frame.length) :
    Guarded (fun _ => True) (checkedParseIpv4 limit frame offset) (parseIpv4 frame offset) := by
  unfold checkedParseIpv4 parseIpv4
  apply (Guarded.requireFrom "IPv4" (by omega)).bind
  intro _ covered
  apply (Guarded.byteAt (by omega)).bind
  intro first _
  split
  · exact .error _
  · have words : (first &&& 0x0f).toNat < 16 := by
      simp only [UInt8.toNat_and]
      exact Nat.lt_of_le_of_lt Nat.and_le_right (by decide)
    dsimp only
    rw [checkedMul_ok (by omega), ok_bind]
    split
    · exact .error _
    · apply (Guarded.requireFrom "IPv4" (by omega)).bind
      intro _ whole
      apply (Guarded.byteFrom (by omega) (by omega)).bind
      intro protocol _
      apply (Guarded.ipv4From (by omega) (by omega)).bind
      intro source _
      apply (Guarded.ipv4From (by omega) (by omega)).bind
      intro destination _
      apply (Guarded.wordFrom (by omega) (by omega)).bind
      intro fragment _
      split
      · rw [checkedAdd_ok (by omega), ok_bind]
        apply (parsePorts_guarded room _ protocol whole).bind
        intro ports _
        exact .ok trivial
      · exact .ok trivial

theorem skipExtension_guarded (walk : Walk) (layer : String) (more unit : Nat)
    (bounded : ∀ units : UInt8, units.toNat + more ≤ 2048 ∧ (units.toNat + more) * unit ≤ 2048)
    (inside : walk.transportOffset ≤ frame.length) :
    Guarded (fun next => next.transportOffset ≤ frame.length)
      (checkedSkipExtension limit frame walk layer more unit)
      (skipExtension frame walk layer more unit) := by
  unfold checkedSkipExtension skipExtension
  apply (Guarded.requireFrom layer (by omega)).bind
  intro _ started
  apply (Guarded.byteAt (by omega)).bind
  intro next _
  apply (Guarded.byteFrom (by omega) (by omega)).bind
  intro units _
  obtain ⟨sumBound, productBound⟩ := bounded units
  rw [checkedAdd_ok (by omega), ok_bind, checkedMul_ok (by omega), ok_bind]
  apply (Guarded.requireFrom layer (by omega)).bind
  intro _ covered
  rw [checkedAdd_ok (by omega), ok_bind]
  exact .ok covered

theorem skipFragment_guarded (walk : Walk) (inside : walk.transportOffset ≤ frame.length) :
    Guarded (fun next => next.transportOffset ≤ frame.length)
      (checkedSkipFragment limit frame walk) (skipFragment frame walk) := by
  unfold checkedSkipFragment skipFragment
  apply (Guarded.requireFrom "IPv6 fragment" (by omega)).bind
  intro _ covered
  apply (Guarded.byteAt (by omega)).bind
  intro next _
  apply (Guarded.wordFrom (by omega) (by omega)).bind
  intro fragment _
  rw [checkedAdd_ok (by omega), ok_bind]
  exact .ok covered

theorem walkExtensions_guarded (rounds : Nat) (walk : Walk)
    (inside : walk.transportOffset ≤ frame.length) :
    Guarded (fun final => final.transportOffset ≤ frame.length)
      (checkedWalkExtensions limit frame rounds walk) (walkExtensions frame rounds walk) := by
  have passes : insideFrame frame walk = .ok () := by simp [insideFrame, inside]
  induction rounds generalizing walk with
  | zero =>
      rw [checkedWalkExtensions, passes]
      exact .ok inside
  | succ rounds ih =>
      have further (next : Walk) (within : next.transportOffset ≤ frame.length) :=
        ih next within (by simp [insideFrame, within])
      rw [checkedWalkExtensions, passes, ok_bind, walkExtensions]
      split
      · exact (skipExtension_guarded room walk _ 1 8 (fun units => by
          have bound := units.toNat_lt
          omega) inside).bind further
      · split
        · exact (skipFragment_guarded room walk inside).bind further
        · split
          · exact (skipExtension_guarded room walk _ 2 4 (fun units => by
              have bound := units.toNat_lt
              omega) inside).bind further
          · exact .ok inside

theorem parseIpv6_guarded (offset : Nat) (inside : offset ≤ frame.length) :
    Guarded (fun _ => True) (checkedParseIpv6 limit frame offset) (parseIpv6 frame offset) := by
  unfold checkedParseIpv6 parseIpv6
  apply (Guarded.requireFrom "IPv6" (by omega)).bind
  intro _ covered
  apply (Guarded.byteAt (by omega)).bind
  intro first _
  split
  · exact .error _
  · simp only [← bind_assoc (checkedSlice limit frame offset _ _),
      ← bind_assoc (slice frame _ _)]
    apply (Guarded.octetsFrom (by omega) (by omega)).bind
    intro source _
    apply (Guarded.octetsFrom (by omega) (by omega)).bind
    intro destination _
    apply (Guarded.byteFrom (by omega) (by omega)).bind
    intro protocol _
    rw [checkedAdd_ok (by omega), ok_bind]
    apply (walkExtensions_guarded room 8 _ covered).bind
    intro walk within
    split
    · apply (parsePorts_guarded room _ walk.protocol within).bind
      intro ports _
      exact .ok trivial
    · exact .ok trivial

theorem parsePacket_guarded (linkType : Int32) (timestamp wireBytes : UInt64)
    (capturePoint : String) (localIps : List IpAddr) :
    Guarded (fun _ => True)
      (checkedParsePacket limit frame linkType timestamp wireBytes capturePoint localIps)
      (parsePacket frame linkType timestamp wireBytes capturePoint localIps) := by
  unfold checkedParsePacket parsePacket
  apply (ipOffset_guarded room linkType).bind
  rintro ⟨offset, etherType⟩ inside
  dsimp only at inside ⊢
  split
  · apply (parseIpv4_guarded room offset inside).bind
    intro packet _
    exact .ok trivial
  · split
    · apply (parseIpv6_guarded room offset inside).bind
      intro packet _
      exact .ok trivial
    · exact .ok trivial

end Parser

/-- The parser never panics: with offsets up to the frame's length and one longest header, no
check of the checked parser fails. -/
theorem parsePacket_never_panics (frame : Frame) (linkType : Int32) (timestamp wireBytes : UInt64)
    (capturePoint : String) (localIps : List IpAddr) :
    (∀ limit, frame.length + 2048 ≤ limit →
      checkedParsePacket limit frame linkType timestamp wireBytes capturePoint localIps =
        parsePacket frame linkType timestamp wireBytes capturePoint localIps) ∧
    parsePacket frame linkType timestamp wireBytes capturePoint localIps ≠ .error .panic := by
  constructor
  · intro limit room
    exact (parsePacket_guarded room linkType timestamp wireBytes capturePoint localIps).same.1
  · exact (parsePacket_guarded (Nat.le_refl _) linkType timestamp wireBytes capturePoint
      localIps).same.2

end FlowObservability
