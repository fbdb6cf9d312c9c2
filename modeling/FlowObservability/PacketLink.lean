import FlowObservability.PacketReads

/-!
Link headers: every header the parser knows that announces an IP datagram, where the datagram
starts behind it, and that the datagram is read as it is without one.
-/

namespace FlowObservability

open Transaction

inductive IpVersion where
  | four
  | six
  deriving DecidableEq, Repr

def IpVersion.etherType : IpVersion → UInt16
  | .four => 0x0800
  | .six => 0x86dd

def IpVersion.nibble : IpVersion → UInt8
  | .four => 4
  | .six => 6

def toBeBytes (word : UInt16) : Frame := [(word >>> 8).toUInt8, word.toUInt8]

theorem fromBeBytes_toBeBytes (word : UInt16) :
    fromBeBytes (word >>> 8).toUInt8 word.toUInt8 = word := by
  have bound := word.toNat_lt
  apply UInt16.toNat_inj.mp
  simp only [fromBeBytes, UInt16.toNat_ofNat', UInt16.toNat_toUInt8, UInt16.toNat_shiftRight,
    Nat.shiftRight_eq_div_pow]
  have eight : 2 ^ (UInt16.toNat 8 % 16) = 256 := rfl
  rw [eight]
  omega

inductive TagProtocol where
  | customer
  | service
  deriving DecidableEq, Repr

def TagProtocol.code : TagProtocol → UInt16
  | .customer => 0x8100
  | .service => 0x88a8

structure Tag where
  protocol : TagProtocol
  control : Vector UInt8 2
  deriving DecidableEq, Repr

/-- A link header that announces an IP datagram. Ethernet carries at most two tags. -/
inductive LinkHeader where
  | ethernet (addresses : Vector UInt8 12) (tags : List Tag) (atMostTwo : tags.length ≤ 2)
  | linuxSll (fields : Vector UInt8 14)
  | linuxSll2 (fields : Vector UInt8 18)

def LinkHeader.linkType : LinkHeader → Int32
  | .ethernet .. => LINKTYPE_ETHERNET
  | .linuxSll _ => LINKTYPE_LINUX_SLL
  | .linuxSll2 _ => LINKTYPE_LINUX_SLL2

def typeField (tags : List Tag) (etherType : UInt16) : Frame :=
  match tags with
  | [] => toBeBytes etherType
  | tag :: rest => toBeBytes tag.protocol.code ++ (tag.control.toList ++ typeField rest etherType)

def LinkHeader.bytes (link : LinkHeader) (etherType : UInt16) : Frame :=
  match link with
  | .ethernet addresses tags _ => addresses.toList ++ typeField tags etherType
  | .linuxSll fields => fields.toList ++ toBeBytes etherType
  | .linuxSll2 fields => toBeBytes etherType ++ fields.toList

def firstType (tags : List Tag) (etherType : UInt16) : UInt16 :=
  match tags with
  | [] => etherType
  | tag :: _ => tag.protocol.code

theorem typeField_first (tags : List Tag) (etherType : UInt16) :
    ∃ rest, typeField tags etherType = toBeBytes (firstType tags etherType) ++ rest := by
  cases tags with
  | nil => exact ⟨[], by simp [typeField, firstType]⟩
  | cons tag rest => exact ⟨_, rfl⟩

theorem wordAt_toBeBytes (word : UInt16) (rest : Frame) :
    wordAt (toBeBytes word ++ rest) 0 = .ok word := by
  simp only [wordAt, byteAt, toBeBytes, List.cons_append, List.nil_append, Nat.zero_add,
    List.getElem?_cons_zero, List.getElem?_cons_succ]
  exact congrArg Except.ok (fromBeBytes_toBeBytes word)

theorem wordAt_typeField (before : Frame) (tags : List Tag) (etherType : UInt16) (rest : Frame) :
    wordAt (before ++ (typeField tags etherType ++ rest)) before.length =
      .ok (firstType tags etherType) := by
  obtain ⟨inner, first⟩ := typeField_first tags etherType
  have shifted := wordAt_append before (typeField tags etherType ++ rest) 0
  rw [Nat.add_zero] at shifted
  rw [shifted, first, List.append_assoc, wordAt_toBeBytes]

theorem typeField_length (tags : List Tag) (etherType : UInt16) :
    (typeField tags etherType).length = 4 * tags.length + 2 := by
  induction tags with
  | nil => rfl
  | cons tag rest ih =>
      simp only [typeField, toBeBytes, List.length_append, List.length_cons, List.length_nil,
        Vector.length_toList, ih]
      omega

theorem untagged (version : IpVersion) :
    ¬(version.etherType = 0x8100 ∨ version.etherType = 0x88a8) := by
  cases version <;> decide

theorem tagged (tag : Tag) : tag.protocol.code = 0x8100 ∨ tag.protocol.code = 0x88a8 := by
  cases tag.protocol with
  | customer => exact .inl rfl
  | service => exact .inr rfl

theorem skipTags_typeField (before : Frame) (tags : List Tag) (version : IpVersion) (rest : Frame)
    (rounds : Nat) (enough : tags.length ≤ rounds) :
    skipTags (before ++ (typeField tags version.etherType ++ rest)) rounds (before.length + 2)
        (firstType tags version.etherType) =
      .ok (before.length + (typeField tags version.etherType).length, version.etherType) := by
  induction tags generalizing before rounds with
  | nil =>
      cases rounds with
      | zero => rfl
      | succ rounds => simp [skipTags, firstType, untagged, typeField, toBeBytes]
  | cons tag others ih =>
      cases rounds with
      | zero => simp at enough
      | succ rounds =>
          let passed := before ++ (toBeBytes tag.protocol.code ++ tag.control.toList)
          have passedLength : passed.length = before.length + 4 := by
            simp [passed, toBeBytes]
          have split : before ++ (typeField (tag :: others) version.etherType ++ rest) =
              passed ++ (typeField others version.etherType ++ rest) := by
            simp [passed, typeField, List.append_assoc]
          have further := ih passed rounds (by simpa using enough)
          have next := wordAt_typeField passed others version.etherType rest
          rw [passedLength] at further next
          have covered : before.length + 2 + 4 ≤
              (passed ++ (typeField others version.etherType ++ rest)).length := by
            simp only [List.length_append, passedLength, typeField_length]
            omega
          rw [split]
          simp only [skipTags, firstType, tagged, ↓reduceIte]
          rw [require_enough covered, ok_bind,
            show before.length + 2 + 2 = before.length + 4 from rfl, next, ok_bind,
            show before.length + 2 + 4 = before.length + 4 + 2 from rfl, further]
          simp only [typeField, toBeBytes, List.length_append, List.length_cons, List.length_nil,
            Vector.length_toList]
          congr 2
          omega

theorem ipOffset_link (link : LinkHeader) (version : IpVersion) (datagram : Frame) :
    ipOffset (link.bytes version.etherType ++ datagram) link.linkType =
      .ok ((link.bytes version.etherType).length, version.etherType) := by
  cases link with
  | ethernet addresses tags atMostTwo =>
      have addressed : addresses.toList.length = 12 := by simp
      have covered : 14 ≤
          (addresses.toList ++ (typeField tags version.etherType ++ datagram)).length := by
        simp only [List.length_append, addressed, typeField_length]
        omega
      have first := wordAt_typeField addresses.toList tags version.etherType datagram
      have skipped := skipTags_typeField addresses.toList tags version datagram 2 atMostTwo
      rw [addressed] at first skipped
      simp only [ipOffset, LinkHeader.bytes, LinkHeader.linkType, ↓reduceIte, List.append_assoc,
        List.length_append, addressed]
      rw [require_enough covered, ok_bind, first, ok_bind, skipped]
  | linuxSll fields =>
      have length : fields.toList.length = 14 := by simp
      have first := wordAt_typeField fields.toList [] version.etherType datagram
      rw [length] at first
      have covered : 16 ≤
          (fields.toList ++ (toBeBytes version.etherType ++ datagram)).length := by
        simp only [List.length_append, length, toBeBytes, List.length_cons]
        omega
      have different : LINKTYPE_LINUX_SLL ≠ LINKTYPE_ETHERNET ∧
          LINKTYPE_LINUX_SLL ≠ LINKTYPE_RAW := by decide
      simp only [ipOffset, LinkHeader.bytes, LinkHeader.linkType, different, ↓reduceIte,
        List.append_assoc, List.length_append, length]
      rw [require_enough covered, ok_bind, show toBeBytes version.etherType ++ datagram =
        typeField [] version.etherType ++ datagram from rfl, first]
      rfl
  | linuxSll2 fields =>
      have length : fields.toList.length = 18 := by simp
      have covered : 20 ≤
          (toBeBytes version.etherType ++ (fields.toList ++ datagram)).length := by
        simp only [List.length_append, length, toBeBytes, List.length_cons, List.length_nil]
        omega
      have different : LINKTYPE_LINUX_SLL2 ≠ LINKTYPE_ETHERNET ∧
          LINKTYPE_LINUX_SLL2 ≠ LINKTYPE_RAW ∧ LINKTYPE_LINUX_SLL2 ≠ LINKTYPE_LINUX_SLL := by
        decide
      simp only [ipOffset, LinkHeader.bytes, LinkHeader.linkType, different, ↓reduceIte,
        List.append_assoc, List.length_append, length]
      rw [require_enough covered, ok_bind, wordAt_toBeBytes]
      rfl

theorem ipOffset_raw (version : IpVersion) (first : UInt8) (rest : Frame)
    (announced : first >>> 4 = version.nibble) :
    ipOffset (first :: rest) LINKTYPE_RAW = .ok (0, version.etherType) := by
  have different : LINKTYPE_RAW ≠ LINKTYPE_ETHERNET := by decide
  have covered : 1 ≤ (first :: rest).length := by simp
  simp only [ipOffset, different, ↓reduceIte]
  rw [require_enough covered, ok_bind, byteAt_inside covered, ok_bind]
  cases version with
  | four => simp [announced, IpVersion.nibble, IpVersion.etherType]
  | six => simp [announced, IpVersion.nibble, IpVersion.etherType]

section Shift

variable (header datagram : Frame)

theorem parsePorts_append (transportOffset : Nat) (protocol : UInt8) :
    parsePorts (header ++ datagram) (header.length + transportOffset) protocol =
      parsePorts datagram transportOffset protocol := by
  simp only [parsePorts, Nat.add_assoc, require_append, wordAt_append]

theorem parseIpv4_append (offset : Nat) :
    parseIpv4 (header ++ datagram) (header.length + offset) = parseIpv4 datagram offset := by
  simp only [parseIpv4, Nat.add_assoc, require_append, byteAt_append, wordAt_append, ipv4At_append,
    parsePorts_append]

def Walk.shift (walk : Walk) (distance : Nat) : Walk :=
  { walk with transportOffset := distance + walk.transportOffset }

theorem skipExtension_append (walk : Walk) (layer : String) (more unit : Nat) :
    skipExtension (header ++ datagram) (walk.shift header.length) layer more unit =
      (skipExtension datagram walk layer more unit).map (·.shift header.length) := by
  simp only [skipExtension, Walk.shift, Nat.add_assoc, require_append, byteAt_append]
  cases require datagram (walk.transportOffset + 2) layer with
  | error abort => rfl
  | ok covered =>
      cases byteAt datagram walk.transportOffset with
      | error abort => rfl
      | ok next =>
          cases byteAt datagram (walk.transportOffset + 1) with
          | error abort => rfl
          | ok units =>
              simp only [ok_bind]
              cases require datagram (walk.transportOffset + (units.toNat + more) * unit) layer with
              | error abort => rfl
              | ok enough => rfl

theorem skipFragment_append (walk : Walk) :
    skipFragment (header ++ datagram) (walk.shift header.length) =
      (skipFragment datagram walk).map (·.shift header.length) := by
  simp only [skipFragment, Walk.shift, Nat.add_assoc, require_append, byteAt_append, wordAt_append]
  cases require datagram (walk.transportOffset + 8) "IPv6 fragment" with
  | error abort => rfl
  | ok covered =>
      cases byteAt datagram walk.transportOffset with
      | error abort => rfl
      | ok next =>
          cases wordAt datagram (walk.transportOffset + 2) with
          | error abort => rfl
          | ok fragment => rfl

theorem nextHeader_append (walk : Walk) :
    nextHeader (header ++ datagram) (walk.shift header.length) =
      (nextHeader datagram walk).map (Except.map (·.shift header.length)) := by
  have same : (walk.shift header.length).protocol = walk.protocol := rfl
  simp only [nextHeader, same, skipExtension_append, skipFragment_append]
  split
  · rfl
  · split
    · rfl
    · split
      · rfl
      · rfl

theorem walkExtensions_append (rounds : Nat) (walk : Walk) :
    walkExtensions (header ++ datagram) rounds (walk.shift header.length) =
      (walkExtensions datagram rounds walk).map (·.shift header.length) := by
  induction rounds generalizing walk with
  | zero => rfl
  | succ rounds ih =>
      rw [walkExtensions_succ, walkExtensions_succ, nextHeader_append]
      cases nextHeader datagram walk with
      | none => rfl
      | some skipped =>
          simp only [Option.map_some, bind_of_map, map_of_bind]
          exact congrArg _ (funext ih)

theorem parseIpv6_append (offset : Nat) :
    parseIpv6 (header ++ datagram) (header.length + offset) = parseIpv6 datagram offset := by
  have walked (protocol : UInt8) := walkExtensions_append header datagram 8
    { protocol, transportOffset := offset + 40, firstFragment := true }
  simp only [Walk.shift] at walked
  simp only [parseIpv6, Nat.add_assoc, require_append, byteAt_append, slice_append, walked,
    bind_of_map,
    parsePorts_append]

end Shift

theorem parsePacket_at (frame : Frame) (linkType : Int32) (timestamp wireBytes : UInt64)
    (capturePoint : String) (localIps : List IpAddr) (offset : Nat) (version : IpVersion)
    (found : ipOffset frame linkType = .ok (offset, version.etherType)) :
    parsePacket frame linkType timestamp wireBytes capturePoint localIps =
      match version with
      | .four => do
        let packet ← parseIpv4 frame offset
        return some (packetMeta packet timestamp wireBytes capturePoint localIps)
      | .six => do
        let packet ← parseIpv6 frame offset
        return some (packetMeta packet timestamp wireBytes capturePoint localIps) := by
  cases version with
  | four => simp [parsePacket, found, IpVersion.etherType]
  | six => simp [parsePacket, found, IpVersion.etherType]

/-- A datagram behind a link header that announces it gives exactly what it gives without one,
success or error. -/
theorem parsePacket_encapsulated (link : LinkHeader) (version : IpVersion) (first : UInt8)
    (rest : Frame) (announced : first >>> 4 = version.nibble) (timestamp wireBytes : UInt64)
    (capturePoint : String) (localIps : List IpAddr) :
    parsePacket (link.bytes version.etherType ++ first :: rest) link.linkType timestamp wireBytes
        capturePoint localIps =
      parsePacket (first :: rest) LINKTYPE_RAW timestamp wireBytes capturePoint localIps := by
  rw [parsePacket_at _ _ _ _ _ _ _ _ (ipOffset_link link version (first :: rest)),
    parsePacket_at _ _ _ _ _ _ _ _ (ipOffset_raw version first rest announced)]
  have four := parseIpv4_append (link.bytes version.etherType) (first :: rest) 0
  have six := parseIpv6_append (link.bytes version.etherType) (first :: rest) 0
  rw [Nat.add_zero] at four six
  cases version with
  | four => simp only [four]
  | six => simp only [six]

def segment : Frame :=
  [0x45, 0, 0, 40, 0, 0, 0, 0, 64, 6, 0, 0, 10, 0, 0, 2, 1, 1, 1, 1] ++
    [0x9c, 0x40, 0x01, 0xbb] ++ List.replicate 8 0 ++ [0x50, 2, 0, 0, 0, 0, 0, 0]

theorem parsePacket_encapsulated_cooked : ∃ packet,
    parsePacket ((LinkHeader.linuxSll (Vector.replicate 14 0)).bytes IpVersion.four.etherType ++
        segment) LINKTYPE_LINUX_SLL 0 56 "tap" [.v4 10 0 0 2] = .ok (some packet) ∧
      packet.key.protocol = .tcp ∧ packet.key.destinationPort = some 443 := by
  have bare := parsePacket_encapsulated (.linuxSll (Vector.replicate 14 0)) .four 0x45 segment.tail
    (by decide) 0 56 "tap" [.v4 10 0 0 2]
  have read : ∃ packet, parsePacket segment LINKTYPE_RAW 0 56 "tap" [.v4 10 0 0 2] =
      .ok (some packet) ∧ packet.key.protocol = .tcp ∧ packet.key.destinationPort = some 443 :=
    ⟨_, rfl, by decide, by decide⟩
  obtain ⟨packet, parsed, fields⟩ := read
  exact ⟨packet, bare.trans parsed, fields⟩

end FlowObservability
