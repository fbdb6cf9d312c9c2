import FlowObservability.PacketLink

/-!
Well-formed frames, written out byte by byte from their headers, and what the parser makes of
every one of them.
-/

namespace FlowObservability

open Transaction

structure Ipv4Octets where
  first : UInt8
  second : UInt8
  third : UInt8
  fourth : UInt8

def Ipv4Octets.bytes (octets : Ipv4Octets) : Frame :=
  [octets.first, octets.second, octets.third, octets.fourth]

structure Ipv4Header where
  optionWords : Fin 11
  service : UInt8
  totalLength : UInt16
  identification : UInt16
  fragment : UInt16
  timeToLive : UInt8
  protocol : UInt8
  checksum : UInt16
  source : Ipv4Octets
  destination : Ipv4Octets
  options : Vector UInt8 (4 * optionWords.val)

def Ipv4Header.bytes (header : Ipv4Header) : Frame :=
  [UInt8.ofNat (0x45 + header.optionWords.val), header.service] ++ toBeBytes header.totalLength ++
    toBeBytes header.identification ++ toBeBytes header.fragment ++
    [header.timeToLive, header.protocol] ++ toBeBytes header.checksum ++ header.source.bytes ++
    header.destination.bytes ++ header.options.toList

structure Ipv6Header where
  traffic : Fin 16
  trafficAndFlow : UInt8
  flow : UInt16
  payloadLength : UInt16
  hopLimit : UInt8
  source : Vector UInt8 16
  destination : Vector UInt8 16

def Ipv6Header.bytes (header : Ipv6Header) (next : UInt8) : Frame :=
  [UInt8.ofNat (0x60 + header.traffic.val), header.trafficAndFlow] ++ toBeBytes header.flow ++
    toBeBytes header.payloadLength ++ [next, header.hopLimit] ++ header.source.toList ++
    header.destination.toList

inductive OptionsKind where
  | hopByHop
  | routing
  | destination

def OptionsKind.protocol : OptionsKind → UInt8
  | .hopByHop => 0
  | .routing => 43
  | .destination => 60

/-- An IPv6 extension header. The length field of the options counts units of eight bytes after
the first, that of the authentication header words after the first two. A fragment header here
is that of a first fragment. -/
inductive Extension where
  | options (kind : OptionsKind) (units : UInt8) (body : Vector UInt8 ((units.toNat + 1) * 8 - 2))
  | authentication (units : UInt8) (body : Vector UInt8 ((units.toNat + 2) * 4 - 2))
  | fragment (reserved : UInt8) (flags : Fin 8) (identification : Vector UInt8 4)

def Extension.protocol : Extension → UInt8
  | .options kind _ _ => kind.protocol
  | .authentication _ _ => 51
  | .fragment _ _ _ => 44

def Extension.bytes (extension : Extension) (next : UInt8) : Frame :=
  match extension with
  | .options _ units body => [next, units] ++ body.toList
  | .authentication units body => [next, units] ++ body.toList
  | .fragment reserved flags identification =>
    [next, reserved, 0, UInt8.ofNat flags.val] ++ identification.toList

def chainProtocol (extensions : List Extension) (terminal : UInt8) : UInt8 :=
  match extensions with
  | [] => terminal
  | extension :: _ => extension.protocol

def chainBytes (extensions : List Extension) (terminal : UInt8) : Frame :=
  match extensions with
  | [] => []
  | extension :: rest => extension.bytes (chainProtocol rest terminal) ++ chainBytes rest terminal

def hasPorts (protocol : UInt8) : Prop := protocol = 6 ∨ protocol = 17

instance hasPortsDecidable (protocol : UInt8) : Decidable (hasPorts protocol) :=
  inferInstanceAs (Decidable (_ ∨ _))

def portsOf : Frame → Option (UInt16 × UInt16)
  | first :: second :: third :: fourth :: _ =>
    some (fromBeBytes first second, fromBeBytes third fourth)
  | _ => none

/-- A well-formed IP datagram. The payload is the transport bytes and whatever trails them. -/
inductive Datagram where
  | ipv4 (header : Ipv4Header) (payload : Frame)
      (long : header.fragment &&& 0x1fff = 0 → hasPorts header.protocol → 4 ≤ payload.length)
  | ipv6 (header : Ipv6Header) (extensions : List Extension) (atMostEight : extensions.length ≤ 8)
      (terminal : UInt8) (ends : ¬isExtension terminal) (payload : Frame)
      (long : hasPorts terminal → 4 ≤ payload.length)

namespace Datagram

def version : Datagram → IpVersion
  | ipv4 _ _ _ => .four
  | ipv6 _ _ _ _ _ _ _ => .six

def bytes : Datagram → Frame
  | ipv4 header payload _ => header.bytes ++ payload
  | ipv6 header extensions _ terminal _ payload _ =>
    header.bytes (chainProtocol extensions terminal) ++ (chainBytes extensions terminal ++ payload)

def source : Datagram → IpAddr
  | ipv4 header _ _ =>
    .v4 header.source.first header.source.second header.source.third header.source.fourth
  | ipv6 header _ _ _ _ _ _ => .v6 header.source

def destination : Datagram → IpAddr
  | ipv4 header _ _ => .v4 header.destination.first header.destination.second
      header.destination.third header.destination.fourth
  | ipv6 header _ _ _ _ _ _ => .v6 header.destination

def protocol : Datagram → UInt8
  | ipv4 header _ _ => header.protocol
  | ipv6 _ _ _ terminal _ _ _ => terminal

def ports : Datagram → Option (UInt16 × UInt16)
  | ipv4 header payload _ =>
    if header.fragment &&& 0x1fff = 0 ∧ hasPorts header.protocol then portsOf payload else none
  | ipv6 _ _ _ terminal _ payload _ => if hasPorts terminal then portsOf payload else none

end Datagram

theorem hasPorts_iff (protocol : UInt8) :
    (TransportProtocol.from protocol = .tcp ∨ TransportProtocol.from protocol = .udp) ↔
      hasPorts protocol := by
  unfold hasPorts TransportProtocol.from
  by_cases tcp : protocol = 6
  · simp [tcp]
  · by_cases udp : protocol = 17
    · simp [udp]
    · simp only [tcp, udp, ↓reduceIte, or_self, iff_false, not_or]
      split
      · simp
      · simp

theorem fourOctets {payload : Frame} (long : 4 ≤ payload.length) :
    ∃ first second third fourth rest,
      payload = first :: second :: third :: fourth :: rest := by
  rcases payload with _ | ⟨first, _ | ⟨second, _ | ⟨third, _ | ⟨fourth, rest⟩⟩⟩⟩
  · simp at long
  · simp at long
  · simp at long
  · simp at long
  · exact ⟨first, second, third, fourth, rest, rfl⟩

theorem parsePorts_payload (before payload : Frame) (protocol : UInt8)
    (long : hasPorts protocol → 4 ≤ payload.length) :
    parsePorts (before ++ payload) before.length protocol =
      .ok (if hasPorts protocol then portsOf payload else none) := by
  have shifted := parsePorts_append before payload 0 protocol
  rw [Nat.add_zero] at shifted
  rw [shifted, parsePorts]
  simp only [hasPorts_iff]
  by_cases carries : hasPorts protocol
  · simp only [carries, ↓reduceIte]
    obtain ⟨first, second, third, fourth, rest, rfl⟩ := fourOctets (long carries)
    rw [require_enough (by simp)]
    rfl
  · simp only [carries, ↓reduceIte]

section Ipv4

theorem firstOctet (words : Fin 11) :
    UInt8.ofNat (0x45 + words.val) >>> 4 = 4 ∧
      (UInt8.ofNat (0x45 + words.val) &&& 0x0f).toNat * 4 = 20 + 4 * words.val := by
  revert words
  decide

theorem Ipv4Header.bytes_length (header : Ipv4Header) :
    header.bytes.length = 20 + 4 * header.optionWords.val := by
  simp only [Ipv4Header.bytes, toBeBytes, Ipv4Octets.bytes, List.length_append, List.length_cons,
    List.length_nil, Vector.length_toList]

theorem Ipv4Header.reads (header : Ipv4Header) (payload : Frame) :
    byteAt (header.bytes ++ payload) 0 = .ok (UInt8.ofNat (0x45 + header.optionWords.val)) ∧
    byteAt (header.bytes ++ payload) 9 = .ok header.protocol ∧
    ipv4At (header.bytes ++ payload) 12 = .ok (.v4 header.source.first header.source.second
      header.source.third header.source.fourth) ∧
    ipv4At (header.bytes ++ payload) 16 = .ok (.v4 header.destination.first
      header.destination.second header.destination.third header.destination.fourth) ∧
    wordAt (header.bytes ++ payload) 6 = .ok header.fragment := by
  refine ⟨rfl, rfl, rfl, rfl, ?_⟩
  exact congrArg Except.ok (fromBeBytes_toBeBytes header.fragment)

theorem parseIpv4_datagram (header : Ipv4Header) (payload : Frame)
    (long : header.fragment &&& 0x1fff = 0 → hasPorts header.protocol → 4 ≤ payload.length) :
    parseIpv4 (header.bytes ++ payload) 0 = .ok {
      source := .v4 header.source.first header.source.second header.source.third
        header.source.fourth
      destination := .v4 header.destination.first header.destination.second
        header.destination.third header.destination.fourth
      protocol := header.protocol
      ports := if header.fragment &&& 0x1fff = 0 ∧ hasPorts header.protocol then portsOf payload
        else none } := by
  obtain ⟨version, words⟩ := firstOctet header.optionWords
  obtain ⟨first, protocol, source, destination, fragment⟩ := header.reads payload
  have length := header.bytes_length
  have fixed : 0 + 20 ≤ (header.bytes ++ payload).length := by
    simp only [List.length_append, length]
    omega
  have whole : 0 + (20 + 4 * header.optionWords.val) ≤ (header.bytes ++ payload).length := by
    simp only [List.length_append, length]
    omega
  have behind : 0 + (20 + 4 * header.optionWords.val) = header.bytes.length := by omega
  have four : ¬UInt8.ofNat (0x45 + header.optionWords.val) >>> 4 ≠ 4 := not_not_intro version
  have notShort : ¬20 + 4 * header.optionWords.val < 20 := by omega
  rw [parseIpv4, require_enough fixed, ok_bind, first, ok_bind, if_neg four]
  dsimp only
  rw [words, if_neg notShort, require_enough whole, ok_bind, Nat.zero_add, protocol, ok_bind,
    Nat.zero_add, source, ok_bind, Nat.zero_add, destination, ok_bind, Nat.zero_add, fragment,
    ok_bind, behind]
  by_cases firstFragment : header.fragment &&& 0x1fff = 0
  · simp only [firstFragment, ↓reduceIte, true_and]
    rw [parsePorts_payload _ _ _ (long firstFragment)]
    rfl
  · simp only [firstFragment, ↓reduceIte, false_and]
    rfl

end Ipv4

section Ipv6

theorem skipExtension_bytes (protocol next units : UInt8) (body rest : Frame) (layer : String)
    (more unit : Nat) (length : (units.toNat + more) * unit = body.length + 2) :
    skipExtension (next :: units :: (body ++ rest))
        { protocol, transportOffset := 0, firstFragment := true } layer more unit =
      .ok {
        protocol := next
        transportOffset := body.length + 2
        firstFragment := true } := by
  rw [skipExtension, require_enough (by simp), ok_bind, byteAt_inside (by simp), ok_bind,
    byteAt_inside (by simp), ok_bind]
  dsimp only [List.getElem_cons_zero, List.getElem_cons_succ]
  rw [length, Nat.zero_add, require_enough (by simp)]
  rfl

theorem skipFragment_bytes (next reserved : UInt8) (flags : Fin 8) (rest : Frame)
    (identification : Vector UInt8 4) :
    skipFragment (next :: reserved :: 0 :: UInt8.ofNat flags.val :: (identification.toList ++ rest))
        { protocol := 44, transportOffset := 0, firstFragment := true } =
      .ok { protocol := next, transportOffset := 8, firstFragment := true } := by
  have unset : ∀ flags : Fin 8,
      (fromBeBytes 0 (UInt8.ofNat flags.val) &&& 0xfff8 == 0) = true := by decide
  rw [skipFragment, require_enough (by simp), ok_bind, byteAt_inside (by simp), ok_bind,
    wordAt_inside (by simp), ok_bind]
  simp only [Nat.zero_add, List.getElem_cons_succ, List.getElem_cons_zero, unset]
  rfl

theorem nextHeader_extension (extension : Extension) (next : UInt8) (rest : Frame) :
    nextHeader (extension.bytes next ++ rest)
        { protocol := extension.protocol, transportOffset := 0, firstFragment := true } =
      some (.ok {
        protocol := next
        transportOffset := (extension.bytes next).length
        firstFragment := true }) := by
  cases extension with
  | options kind units body =>
      have isOptions : kind.protocol = 0 ∨ kind.protocol = 43 ∨ kind.protocol = 60 := by
        cases kind <;> decide
      have length : (units.toNat + 1) * 8 = body.toList.length + 2 := by
        rw [Vector.length_toList]
        omega
      rw [nextHeader_options isOptions]
      exact congrArg some (skipExtension_bytes _ _ _ _ rest _ _ _ length)
  | authentication units body =>
      have length : (units.toNat + 2) * 4 = body.toList.length + 2 := by
        rw [Vector.length_toList]
        omega
      rw [nextHeader_authentication rfl]
      exact congrArg some (skipExtension_bytes _ _ _ _ rest _ _ _ length)
  | fragment reserved flags identification =>
      rw [nextHeader_fragment rfl]
      have length : ((Extension.fragment reserved flags identification).bytes next).length = 8 := by
        simp [Extension.bytes]
      rw [length]
      exact congrArg some (skipFragment_bytes next reserved flags rest identification)

/-- The walk over a whole chain ends at the transport bytes. The induction is on the headers that
are left, behind the bytes already passed. -/
theorem walkExtensions_chain (before : Frame) (extensions : List Extension) (terminal : UInt8)
    (ends : ¬isExtension terminal) (payload : Frame) (rounds : Nat)
    (enough : extensions.length ≤ rounds) :
    walkExtensions (before ++ (chainBytes extensions terminal ++ payload)) rounds
        { protocol := chainProtocol extensions terminal, transportOffset := before.length,
          firstFragment := true } =
      .ok {
        protocol := terminal
        transportOffset := (before ++ chainBytes extensions terminal).length
        firstFragment := true } := by
  induction extensions generalizing before rounds with
  | nil =>
      cases rounds with
      | zero => simp [walkExtensions, chainBytes, chainProtocol]
      | succ rounds =>
          rw [walkExtensions_succ, nextHeader_none (by exact ends)]
          simp [chainBytes, chainProtocol]
  | cons extension rest ih =>
      cases rounds with
      | zero => simp at enough
      | succ rounds =>
          have protocol : chainProtocol (extension :: rest) terminal = extension.protocol := rfl
          have bytes : chainBytes (extension :: rest) terminal =
            extension.bytes (chainProtocol rest terminal) ++ chainBytes rest terminal := rfl
          have header := nextHeader_extension extension (chainProtocol rest terminal)
            (chainBytes rest terminal ++ payload)
          have shifted := nextHeader_append before
            (extension.bytes (chainProtocol rest terminal) ++ (chainBytes rest terminal ++ payload))
            { protocol := extension.protocol, transportOffset := 0, firstFragment := true }
          rw [header] at shifted
          have further := ih (before ++ extension.bytes (chainProtocol rest terminal)) rounds
            (by simpa using enough)
          simp only [Walk.shift, Nat.add_zero, Option.map_some, Except.map] at shifted
          simp only [List.append_assoc, List.length_append] at further ⊢
          simp only [protocol, bytes, walkExtensions_succ, List.append_assoc, shifted, ok_bind,
            further, List.length_append]

theorem Ipv6Header.bytes_length (header : Ipv6Header) (next : UInt8) :
    (header.bytes next).length = 40 := by
  simp [Ipv6Header.bytes, toBeBytes]

theorem sixOctet (traffic : Fin 16) : UInt8.ofNat (0x60 + traffic.val) >>> 4 = 6 := by
  revert traffic
  decide

theorem octetsAt_between (before rest : Frame) (octets : Vector UInt8 16)
    (inside : before.length + 16 ≤ (before ++ (octets.toList ++ rest)).length) :
    octetsAt (before ++ (octets.toList ++ rest)) before.length inside = octets := by
  apply Vector.toList_inj.mp
  simp [octetsAt, List.take_append]

theorem Ipv6Header.octets (header : Ipv6Header) (next : UInt8) (rest : Frame)
    (sourceInside : 8 + 16 ≤ (header.bytes next ++ rest).length)
    (destinationInside : 24 + 16 ≤ (header.bytes next ++ rest).length) :
    octetsAt (header.bytes next ++ rest) 8 sourceInside = header.source ∧
      octetsAt (header.bytes next ++ rest) 24 destinationInside = header.destination := by
  let start := [UInt8.ofNat (0x60 + header.traffic.val), header.trafficAndFlow] ++
    toBeBytes header.flow ++ toBeBytes header.payloadLength ++ [next, header.hopLimit]
  have sourceSplit : header.bytes next ++ rest =
      start ++ (header.source.toList ++ (header.destination.toList ++ rest)) := by
    simp only [Ipv6Header.bytes, start, List.append_assoc]
  have destinationSplit : header.bytes next ++ rest =
      (start ++ header.source.toList) ++ (header.destination.toList ++ rest) := by
    simp only [Ipv6Header.bytes, start, List.append_assoc]
  have startLength : start.length = 8 := rfl
  have middleLength : (start ++ header.source.toList).length = 24 := by
    simp only [List.length_append, startLength, Vector.length_toList]
  constructor
  · simp only [sourceSplit]
    exact octetsAt_between start _ header.source (by simp)
  · simp only [destinationSplit]
    have between := octetsAt_between (start ++ header.source.toList) rest header.destination
      (by simp only [List.length_append, Vector.length_toList]; omega)
    simp only [middleLength] at between
    exact between

theorem parseIpv6_datagram (header : Ipv6Header) (extensions : List Extension)
    (atMostEight : extensions.length ≤ 8) (terminal : UInt8) (ends : ¬isExtension terminal)
    (payload : Frame) (long : hasPorts terminal → 4 ≤ payload.length) :
    parseIpv6 (header.bytes (chainProtocol extensions terminal) ++
        (chainBytes extensions terminal ++ payload)) 0 = .ok {
      source := .v6 header.source
      destination := .v6 header.destination
      protocol := terminal
      ports := if hasPorts terminal then portsOf payload else none } := by
  have length := header.bytes_length (chainProtocol extensions terminal)
  have covered : 0 + 40 ≤ (header.bytes (chainProtocol extensions terminal) ++
      (chainBytes extensions terminal ++ payload)).length := by
    simp only [List.length_append, length]
    omega
  have walked := walkExtensions_chain (header.bytes (chainProtocol extensions terminal)) extensions
    terminal ends payload 8 atMostEight
  have read := parsePorts_payload (header.bytes (chainProtocol extensions terminal) ++
    chainBytes extensions terminal) payload terminal long
  obtain ⟨source, destination⟩ := header.octets (chainProtocol extensions terminal)
    (chainBytes extensions terminal ++ payload) (by omega) (by omega)
  rw [length] at walked
  rw [List.append_assoc] at read
  rw [parseIpv6_fixed covered rfl (sixOctet header.traffic) rfl, Nat.zero_add, walked, ok_bind]
  simp only [↓reduceIte, read, ok_bind, Nat.zero_add, source, destination]
  rfl

end Ipv6

inductive Carrier where
  | link (header : LinkHeader)
  | raw

def Carrier.linkType : Carrier → Int32
  | .link header => header.linkType
  | .raw => LINKTYPE_RAW

def Carrier.bytes (carrier : Carrier) (version : IpVersion) : Frame :=
  match carrier with
  | .link header => header.bytes version.etherType
  | .raw => []

theorem Datagram.first (datagram : Datagram) :
    ∃ first rest, datagram.bytes = first :: rest ∧ first >>> 4 = datagram.version.nibble := by
  cases datagram with
  | ipv4 header payload long => exact ⟨_, _, rfl, (firstOctet header.optionWords).1⟩
  | ipv6 header extensions atMostEight terminal ends payload long =>
      exact ⟨_, _, rfl, sixOctet header.traffic⟩

theorem ipOffset_carrier (carrier : Carrier) (datagram : Datagram) :
    ipOffset (carrier.bytes datagram.version ++ datagram.bytes) carrier.linkType =
      .ok ((carrier.bytes datagram.version).length, datagram.version.etherType) := by
  cases carrier with
  | link header => exact ipOffset_link header datagram.version datagram.bytes
  | raw =>
      obtain ⟨first, rest, bytes, announced⟩ := datagram.first
      simp only [Carrier.bytes, Carrier.linkType, List.nil_append, bytes]
      exact ipOffset_raw datagram.version first rest announced

theorem direction_eq (source destination : IpAddr) (localIps : List IpAddr) :
    direction source destination localIps =
      if source ∈ localIps then if destination ∈ localIps then .internal else .egress
      else if destination ∈ localIps then .ingress else .unknown := by
  unfold direction
  by_cases fromLocal : source ∈ localIps
  · by_cases toLocal : destination ∈ localIps
    · simp [fromLocal, toLocal]
    · simp [fromLocal, toLocal]
  · by_cases toLocal : destination ∈ localIps
    · simp [fromLocal, toLocal]
    · simp [fromLocal, toLocal]

/-- A well-formed frame gives the addresses, the terminal protocol and the ports of its headers,
and the direction that follows from which of the two addresses is local. -/
theorem parsePacket_wellFormed (carrier : Carrier) (datagram : Datagram)
    (timestamp wireBytes : UInt64) (capturePoint : String) (localIps : List IpAddr) :
    parsePacket (carrier.bytes datagram.version ++ datagram.bytes) carrier.linkType timestamp
        wireBytes capturePoint localIps =
      .ok (some {
        timestamp
        wireBytes
        key := {
          capturePoint
          direction :=
            if datagram.source ∈ localIps then
              if datagram.destination ∈ localIps then .internal else .egress
            else if datagram.destination ∈ localIps then .ingress else .unknown
          protocol := TransportProtocol.from datagram.protocol
          sourceIp := datagram.source
          destinationIp := datagram.destination
          sourcePort := datagram.ports.map fun ports => ports.1
          destinationPort := datagram.ports.map fun ports => ports.2 } }) := by
  rw [← direction_eq, parsePacket_at _ _ _ _ _ _ _ _ (ipOffset_carrier carrier datagram)]
  have four := parseIpv4_append (carrier.bytes datagram.version) datagram.bytes 0
  have six := parseIpv6_append (carrier.bytes datagram.version) datagram.bytes 0
  rw [Nat.add_zero] at four six
  cases datagram with
  | ipv4 header payload long =>
      simp only [Datagram.version] at four ⊢
      rw [four, Datagram.bytes, parseIpv4_datagram header payload long]
      rfl
  | ipv6 header extensions atMostEight terminal ends payload long =>
      simp only [Datagram.version] at six ⊢
      rw [six, Datagram.bytes, parseIpv6_datagram header extensions atMostEight terminal ends
        payload long]
      rfl

end FlowObservability
