import FlowObservability.Library.Transaction
import FlowObservability.Model

/-!
The packet parser: the link header, the IP header with its extension headers, and the ports,
read from the captured bytes of a frame.
-/

namespace FlowObservability

open Transaction

def LINKTYPE_ETHERNET : Int32 := 1

def LINKTYPE_RAW : Int32 := 101

def LINKTYPE_LINUX_SLL : Int32 := 113

def LINKTYPE_LINUX_SLL2 : Int32 := 276

structure PacketMeta where
  timestamp : UInt64
  wireBytes : UInt64
  key : FlowKey
  deriving DecidableEq, Repr

inductive PacketError where
  | unsupportedLinkType (linkType : Int32)
  | truncated (layer : String)
  | invalid (layer : String)
  deriving DecidableEq, Repr

/-- How the parser stops early: with an error of its own, or in a panic on an index out of
bounds. -/
inductive Abort where
  | error (error : PacketError)
  | panic
  deriving DecidableEq, Repr

structure IpPacket where
  source : IpAddr
  destination : IpAddr
  protocol : UInt8
  ports : Option (UInt16 × UInt16)
  deriving DecidableEq, Repr

abbrev Frame := List UInt8

def byteAt (frame : Frame) (index : Nat) : Except Abort UInt8 :=
  match frame[index]? with
  | some byte => .ok byte
  | none => .error .panic

def slice (frame : Frame) (start stop : Nat) : Except Abort Frame :=
  if stop < start ∨ frame.length < stop then .error .panic
  else .ok ((frame.take stop).drop start)

def fromBeBytes (high low : UInt8) : UInt16 := UInt16.ofNat (high.toNat * 256 + low.toNat)

def wordAt (frame : Frame) (index : Nat) : Except Abort UInt16 := do
  let high ← byteAt frame index
  let low ← byteAt frame (index + 1)
  return fromBeBytes high low

/-- `try_into` on a slice, into an array of sixteen bytes. -/
def toOctets (bytes : Frame) : Except Abort (Vector UInt8 16) :=
  if sixteen : bytes.length = 16 then .ok ⟨bytes.toArray, by simpa using sixteen⟩
  else .error (.error (.truncated "IPv6"))

def require (frame : Frame) (length : Nat) (layer : String) : Except Abort Unit :=
  if frame.length < length then .error (.error (.truncated layer)) else .ok ()

def skipTags (frame : Frame) : Nat → Nat → UInt16 → Except Abort (Nat × UInt16)
  | 0, offset, etherType => .ok (offset, etherType)
  | rounds + 1, offset, etherType =>
    if etherType = 0x8100 ∨ etherType = 0x88a8 then do
      require frame (offset + 4) "vlan"
      let etherType ← wordAt frame (offset + 2)
      skipTags frame rounds (offset + 4) etherType
    else .ok (offset, etherType)

def ipOffset (frame : Frame) (linkType : Int32) : Except Abort (Nat × UInt16) :=
  if linkType = LINKTYPE_ETHERNET then do
    require frame 14 "ethernet"
    let etherType ← wordAt frame 12
    skipTags frame 2 14 etherType
  else if linkType = LINKTYPE_RAW then do
    require frame 1 "raw IP"
    let first ← byteAt frame 0
    if first >>> 4 = 4 then .ok (0, 0x0800)
    else if first >>> 4 = 6 then .ok (0, 0x86dd)
    else .error (.error (.invalid "raw IP"))
  else if linkType = LINKTYPE_LINUX_SLL then do
    require frame 16 "linux cooked"
    let etherType ← wordAt frame 14
    return (16, etherType)
  else if linkType = LINKTYPE_LINUX_SLL2 then do
    require frame 20 "linux cooked v2"
    let etherType ← wordAt frame 0
    return (20, etherType)
  else .error (.error (.unsupportedLinkType linkType))

def parsePorts (frame : Frame) (transportOffset : Nat) (protocol : UInt8) :
    Except Abort (Option (UInt16 × UInt16)) :=
  if TransportProtocol.from protocol = .tcp ∨ TransportProtocol.from protocol = .udp then do
    require frame (transportOffset + 4) "transport"
    let source ← wordAt frame transportOffset
    let destination ← wordAt frame (transportOffset + 2)
    return some (source, destination)
  else .ok none

def ipv4At (frame : Frame) (offset : Nat) : Except Abort IpAddr := do
  let first ← byteAt frame offset
  let second ← byteAt frame (offset + 1)
  let third ← byteAt frame (offset + 2)
  let fourth ← byteAt frame (offset + 3)
  return .v4 first second third fourth

def parseIpv4 (frame : Frame) (offset : Nat) : Except Abort IpPacket := do
  require frame (offset + 20) "IPv4"
  let first ← byteAt frame offset
  if first >>> 4 ≠ 4 then
    .error (.error (.invalid "IPv4"))
  else
    let headerLen := (first &&& 0x0f).toNat * 4
    if headerLen < 20 then
      .error (.error (.invalid "IPv4"))
    else
      require frame (offset + headerLen) "IPv4"
      let protocol ← byteAt frame (offset + 9)
      let source ← ipv4At frame (offset + 12)
      let destination ← ipv4At frame (offset + 16)
      let fragment ← wordAt frame (offset + 6)
      let ports ←
        if fragment &&& 0x1fff = 0 then parsePorts frame (offset + headerLen) protocol
        else .ok none
      return { source, destination, protocol, ports }

structure Walk where
  protocol : UInt8
  transportOffset : Nat
  firstFragment : Bool
  deriving DecidableEq, Repr

/-- An extension header whose length field counts units after the first ones. -/
def skipExtension (frame : Frame) (walk : Walk) (layer : String) (more unit : Nat) :
    Except Abort Walk := do
  require frame (walk.transportOffset + 2) layer
  let next ← byteAt frame walk.transportOffset
  let units ← byteAt frame (walk.transportOffset + 1)
  let length := (units.toNat + more) * unit
  require frame (walk.transportOffset + length) layer
  return { walk with protocol := next, transportOffset := walk.transportOffset + length }

def skipFragment (frame : Frame) (walk : Walk) : Except Abort Walk := do
  require frame (walk.transportOffset + 8) "IPv6 fragment"
  let next ← byteAt frame walk.transportOffset
  let fragment ← wordAt frame (walk.transportOffset + 2)
  return {
    protocol := next
    transportOffset := walk.transportOffset + 8
    firstFragment := fragment &&& 0xfff8 == 0
  }

def walkExtensions (frame : Frame) : Nat → Walk → Except Abort Walk
  | 0, walk => .ok walk
  | rounds + 1, walk =>
    if walk.protocol = 0 ∨ walk.protocol = 43 ∨ walk.protocol = 60 then do
      let walk ← skipExtension frame walk "IPv6 extension" 1 8
      walkExtensions frame rounds walk
    else if walk.protocol = 44 then do
      let walk ← skipFragment frame walk
      walkExtensions frame rounds walk
    else if walk.protocol = 51 then do
      let walk ← skipExtension frame walk "IPv6 AH" 2 4
      walkExtensions frame rounds walk
    else .ok walk

def parseIpv6 (frame : Frame) (offset : Nat) : Except Abort IpPacket := do
  require frame (offset + 40) "IPv6"
  let first ← byteAt frame offset
  if first >>> 4 ≠ 6 then
    .error (.error (.invalid "IPv6"))
  else
    let source ← slice frame (offset + 8) (offset + 24)
    let source ← toOctets source
    let destination ← slice frame (offset + 24) (offset + 40)
    let destination ← toOctets destination
    let protocol ← byteAt frame (offset + 6)
    let walk ← walkExtensions frame 8
      { protocol, transportOffset := offset + 40, firstFragment := true }
    let ports ←
      if walk.firstFragment then parsePorts frame walk.transportOffset walk.protocol else .ok none
    return { source := .v6 source, destination := .v6 destination, protocol := walk.protocol, ports }

def direction (source destination : IpAddr) (localIps : List IpAddr) : Direction :=
  match localIps.contains source, localIps.contains destination with
  | true, false => .egress
  | false, true => .ingress
  | true, true => .internal
  | false, false => .unknown

def packetMeta (packet : IpPacket) (timestamp wireBytes : UInt64) (capturePoint : String)
    (localIps : List IpAddr) : PacketMeta where
  timestamp
  wireBytes
  key := {
    capturePoint
    direction := direction packet.source packet.destination localIps
    protocol := TransportProtocol.from packet.protocol
    sourceIp := packet.source
    destinationIp := packet.destination
    sourcePort := packet.ports.map (·.1)
    destinationPort := packet.ports.map (·.2)
  }

def parsePacket (frame : Frame) (linkType : Int32) (timestamp wireBytes : UInt64)
    (capturePoint : String) (localIps : List IpAddr) : Except Abort (Option PacketMeta) := do
  let (offset, etherType) ← ipOffset frame linkType
  if etherType = 0x0800 then
    let packet ← parseIpv4 frame offset
    return some (packetMeta packet timestamp wireBytes capturePoint localIps)
  else if etherType = 0x86dd then
    let packet ← parseIpv6 frame offset
    return some (packetMeta packet timestamp wireBytes capturePoint localIps)
  else
    return none

theorem parsePacket_accepted {frame : Frame} {linkType : Int32} {timestamp wireBytes : UInt64}
    {capturePoint : String} {localIps : List IpAddr} {packet : PacketMeta}
    (result : parsePacket frame linkType timestamp wireBytes capturePoint localIps =
      .ok (some packet)) :
    packet.timestamp = timestamp ∧ packet.wireBytes = wireBytes ∧
      packet.key.capturePoint = capturePoint := by
  obtain ⟨⟨offset, etherType⟩, _, result⟩ := bind_ok result
  dsimp only at result
  split at result
  · obtain ⟨ip, _, result⟩ := bind_ok result
    rw [← Option.some.inj (pure_ok result)]
    exact ⟨rfl, rfl, rfl⟩
  · split at result
    · obtain ⟨ip, _, result⟩ := bind_ok result
      rw [← Option.some.inj (pure_ok result)]
      exact ⟨rfl, rfl, rfl⟩
    · exact absurd (pure_ok result) (by simp)

end FlowObservability
