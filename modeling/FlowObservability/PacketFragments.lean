import FlowObservability.PacketTruncation

/-!
Fragments after the first in IPv6: when the bytes behind the fragment header, which are payload
there, are left unread.
-/

namespace FlowObservability

open Transaction

section Lengths

variable {frame shorter : Frame}

theorem require_ok {length : Nat} {layer : String} (passed : require frame length layer = .ok ()) :
    length ≤ frame.length := by
  unfold require at passed
  split at passed
  · simp at passed
  · omega

theorem skipExtension_ok {walk next : Walk} {layer : String} {more unit : Nat}
    (skipped : skipExtension frame walk layer more unit = .ok next) :
    ∃ protocol units, byteAt frame walk.transportOffset = .ok protocol ∧
      byteAt frame (walk.transportOffset + 1) = .ok units ∧
      walk.transportOffset + 2 ≤ frame.length ∧
      walk.transportOffset + (units.toNat + more) * unit ≤ frame.length ∧
      next = { walk with
        protocol
        transportOffset := walk.transportOffset + (units.toNat + more) * unit } := by
  obtain ⟨_, started, skipped⟩ := bind_ok skipped
  obtain ⟨protocol, protocolRead, skipped⟩ := bind_ok skipped
  obtain ⟨units, unitsRead, skipped⟩ := bind_ok skipped
  obtain ⟨_, covered, skipped⟩ := bind_ok skipped
  exact ⟨protocol, units, protocolRead, unitsRead, require_ok started, require_ok covered,
    (pure_ok skipped).symm⟩

theorem skipFragment_ok {walk next : Walk} (skipped : skipFragment frame walk = .ok next) :
    ∃ protocol fragment, byteAt frame walk.transportOffset = .ok protocol ∧
      wordAt frame (walk.transportOffset + 2) = .ok fragment ∧
      walk.transportOffset + 8 ≤ frame.length ∧
      next = {
        protocol
        transportOffset := walk.transportOffset + 8
        firstFragment := fragment &&& 0xfff8 == 0 } := by
  obtain ⟨_, covered, skipped⟩ := bind_ok skipped
  obtain ⟨protocol, protocolRead, skipped⟩ := bind_ok skipped
  obtain ⟨fragment, fragmentRead, skipped⟩ := bind_ok skipped
  exact ⟨protocol, fragment, protocolRead, fragmentRead, require_ok covered,
    (pure_ok skipped).symm⟩

theorem skipExtension_shorter (isPrefix : shorter <+: frame) {walk next : Walk} {layer : String}
    {more unit : Nat} (wide : ∀ units : UInt8, 2 ≤ (units.toNat + more) * unit)
    (skipped : skipExtension frame walk layer more unit = .ok next)
    (inside : next.transportOffset ≤ shorter.length) :
    skipExtension shorter walk layer more unit = .ok next ∧
      walk.transportOffset < next.transportOffset := by
  obtain ⟨protocol, units, protocolRead, unitsRead, _, _, rfl⟩ := skipExtension_ok skipped
  have long := wide units
  dsimp only at inside ⊢
  have started : walk.transportOffset + 2 ≤ shorter.length := by omega
  constructor
  · rw [skipExtension, require_enough started, ok_bind, byteAt_shorter isPrefix (by omega),
      protocolRead, ok_bind, byteAt_shorter isPrefix (by omega), unitsRead, ok_bind]
    dsimp only
    rw [require_enough inside]
    rfl
  · omega

theorem skipFragment_shorter (isPrefix : shorter <+: frame) {walk next : Walk}
    (skipped : skipFragment frame walk = .ok next)
    (inside : next.transportOffset ≤ shorter.length) :
    skipFragment shorter walk = .ok next ∧ walk.transportOffset < next.transportOffset := by
  obtain ⟨protocol, fragment, protocolRead, fragmentRead, _, rfl⟩ := skipFragment_ok skipped
  dsimp only at inside ⊢
  constructor
  · rw [skipFragment, require_enough inside, ok_bind, byteAt_shorter isPrefix (by omega),
      protocolRead, ok_bind, wordAt_shorter isPrefix (by omega), fragmentRead]
    rfl
  · omega

theorem nextHeader_shorter (isPrefix : shorter <+: frame) {walk next : Walk}
    (skipped : nextHeader frame walk = some (.ok next))
    (inside : next.transportOffset ≤ shorter.length) :
    nextHeader shorter walk = some (.ok next) ∧ walk.transportOffset < next.transportOffset := by
  unfold nextHeader at skipped ⊢
  split at skipped
  · rename_i extension
    obtain ⟨same, further⟩ := skipExtension_shorter isPrefix (fun units => by omega)
      (Option.some.inj skipped) inside
    exact ⟨by simp only [extension, ↓reduceIte, same], further⟩
  · rename_i extension
    split at skipped
    · rename_i fragment
      obtain ⟨same, further⟩ := skipFragment_shorter isPrefix (Option.some.inj skipped) inside
      exact ⟨by rw [if_neg extension, if_pos fragment, same], further⟩
    · rename_i fragment
      split at skipped
      · rename_i authentication
        obtain ⟨same, further⟩ := skipExtension_shorter isPrefix (fun units => by omega)
          (Option.some.inj skipped) inside
        exact ⟨by rw [if_neg extension, if_neg fragment, if_pos authentication, same], further⟩
      · simp at skipped

theorem skipTags_shorter (isPrefix : shorter <+: frame) {rounds offset final : Nat}
    {etherType lastType : UInt16} (skipped : skipTags frame rounds offset etherType =
      .ok (final, lastType)) (inside : final ≤ shorter.length) :
    skipTags shorter rounds offset etherType = .ok (final, lastType) ∧ offset ≤ final := by
  induction rounds generalizing offset etherType with
  | zero =>
      cases skipped
      exact ⟨rfl, Nat.le_refl _⟩
  | succ rounds ih =>
      simp only [skipTags] at skipped ⊢
      split at skipped
      · rename_i isTag
        obtain ⟨_, covered, skipped⟩ := bind_ok skipped
        obtain ⟨inner, innerRead, skipped⟩ := bind_ok skipped
        obtain ⟨same, further⟩ := ih skipped
        rw [if_pos isTag, require_enough (by omega), ok_bind, wordAt_shorter isPrefix (by omega),
          innerRead, ok_bind]
        exact ⟨same, by omega⟩
      · rename_i noTag
        rw [if_neg noTag]
        cases skipped
        exact ⟨rfl, Nat.le_refl _⟩

theorem ipOffset_shorter (isPrefix : shorter <+: frame) {linkType : Int32} {offset : Nat}
    {etherType : UInt16} (found : ipOffset frame linkType = .ok (offset, etherType))
    (inside : offset < shorter.length) :
    ipOffset shorter linkType = .ok (offset, etherType) := by
  unfold ipOffset at found ⊢
  by_cases ethernet : linkType = LINKTYPE_ETHERNET
  · rw [if_pos ethernet] at found ⊢
    obtain ⟨_, covered, found⟩ := bind_ok found
    obtain ⟨first, firstRead, found⟩ := bind_ok found
    obtain ⟨same, further⟩ := skipTags_shorter isPrefix found (by omega)
    rw [require_enough (by omega), ok_bind, wordAt_shorter isPrefix (by omega), firstRead, ok_bind,
      same]
  · rw [if_neg ethernet] at found ⊢
    by_cases raw : linkType = LINKTYPE_RAW
    · rw [if_pos raw] at found ⊢
      obtain ⟨_, covered, found⟩ := bind_ok found
      rw [require_enough (by omega), ok_bind, byteAt_shorter isPrefix (by omega)]
      exact found
    · rw [if_neg raw] at found ⊢
      by_cases cooked : linkType = LINKTYPE_LINUX_SLL
      · rw [if_pos cooked] at found ⊢
        obtain ⟨_, covered, found⟩ := bind_ok found
        obtain ⟨first, firstRead, found⟩ := bind_ok found
        have same := pure_ok found
        simp only [Prod.mk.injEq] at same
        rw [require_enough (by omega), ok_bind, wordAt_shorter isPrefix (by omega), firstRead]
        exact found
      · rw [if_neg cooked] at found ⊢
        by_cases second : linkType = LINKTYPE_LINUX_SLL2
        · rw [if_pos second] at found ⊢
          obtain ⟨_, covered, found⟩ := bind_ok found
          obtain ⟨first, firstRead, found⟩ := bind_ok found
          have same := pure_ok found
          simp only [Prod.mk.injEq] at same
          rw [require_enough (by omega), ok_bind, wordAt_shorter isPrefix (by omega), firstRead]
          exact found
        · rw [if_neg second] at found
          simp at found

end Lengths

/-- The walk after so many extension headers, none of them a fragment header with an offset. -/
inductive Chain (frame : Frame) (start : Walk) : Nat → Walk → Prop
  | start : Chain frame start 0 start
  | header {count : Nat} {walk next : Walk} (before : Chain frame start count walk)
      (skipped : nextHeader frame walk = some (.ok next)) (first : next.firstFragment = true) :
      Chain frame start (count + 1) next

theorem Chain.walked {frame : Frame} {start walk : Walk} {count : Nat}
    (chain : Chain frame start count walk) (rounds : Nat) :
    walkExtensions frame (count + rounds) start = walkExtensions frame rounds walk := by
  induction chain generalizing rounds with
  | start => rw [Nat.zero_add]
  | @header count walk next before skipped first ih =>
      rw [show count + 1 + rounds = count + (rounds + 1) by omega, ih, walkExtensions_succ, skipped]
      rfl

theorem Chain.shorter {frame shorter : Frame} (isPrefix : shorter <+: frame) {start walk : Walk}
    {count : Nat} (chain : Chain frame start count walk)
    (inside : walk.transportOffset ≤ shorter.length) :
    Chain shorter start count walk ∧ start.transportOffset ≤ walk.transportOffset := by
  induction chain with
  | start => exact ⟨.start, Nat.le_refl _⟩
  | header before skipped first ih =>
      obtain ⟨same, further⟩ := nextHeader_shorter isPrefix skipped inside
      obtain ⟨earlier, behind⟩ := ih (by omega)
      exact ⟨.header earlier same first, by omega⟩

/-- A frame whose IPv6 chain reaches a fragment header with an offset, within the headers the
parser walks. -/
structure LaterFragment (frame : Frame) (linkType : Int32) where
  offset : Nat
  first : UInt8
  protocol : UInt8
  count : Nat
  walk : Walk
  next : UInt8
  fragment : UInt16
  announced : ipOffset frame linkType = .ok (offset, 0x86dd)
  firstRead : byteAt frame offset = .ok first
  version : first >>> 4 = 6
  protocolRead : byteAt frame (offset + 6) = .ok protocol
  chain : Chain frame { protocol, transportOffset := offset + 40, firstFragment := true } count walk
  within : count < 8
  isFragment : walk.protocol = 44
  complete : walk.transportOffset + 8 ≤ frame.length
  nextRead : byteAt frame walk.transportOffset = .ok next
  fragmentRead : wordAt frame (walk.transportOffset + 2) = .ok fragment
  later : fragment &&& 0xfff8 ≠ 0

theorem nextHeader_truncated {frame : Frame} {walk : Walk} (more : isExtension walk.protocol)
    (ends : frame.length ≤ walk.transportOffset) :
    ∃ layer, nextHeader frame walk = some (.error (.error (.truncated layer))) := by
  have extension (layer : String) (more unit : Nat) :
      skipExtension frame walk layer more unit = .error (.error (.truncated layer)) := by
    rw [skipExtension, require_short (by omega), error_bind]
  have fragment : skipFragment frame walk = .error (.error (.truncated "IPv6 fragment")) := by
    rw [skipFragment, require_short (by omega), error_bind]
  simp only [nextHeader, extension, fragment]
  split
  · exact ⟨_, rfl⟩
  · split
    · exact ⟨_, rfl⟩
    · split
      · exact ⟨_, rfl⟩
      · unfold isExtension at more
        tauto

namespace LaterFragment

variable {frame : Frame} {linkType : Int32}

def stop (found : LaterFragment frame linkType) : Nat := found.walk.transportOffset + 8

def behind (found : LaterFragment frame linkType) : Walk where
  protocol := found.next
  transportOffset := found.stop
  firstFragment := false

theorem skipped (found : LaterFragment frame linkType) :
    nextHeader frame found.walk = some (.ok found.behind) := by
  have notFirst : (found.fragment &&& 0xfff8 == 0) = false := by
    simpa using found.later
  rw [nextHeader_fragment found.isFragment, skipFragment, require_enough found.complete, ok_bind,
    found.nextRead, ok_bind, found.fragmentRead, ok_bind, notFirst]
  rfl

theorem walked (found : LaterFragment frame linkType) :
    walkExtensions frame 8
        { protocol := found.protocol, transportOffset := found.offset + 40, firstFragment := true } =
      walkExtensions frame (7 - found.count) found.behind := by
  have within := found.within
  have rounds : 8 = found.count + ((7 - found.count) + 1) := by omega
  rw [rounds, found.chain.walked, walkExtensions_succ, found.skipped]
  rfl

def cut (found : LaterFragment frame linkType) : LaterFragment (frame.take found.stop) linkType :=
  have isPrefix : frame.take found.stop <+: frame := List.take_prefix _ _
  have length : (frame.take found.stop).length = found.stop := by
    simp only [List.length_take, stop, Nat.min_eq_left found.complete]
  have kept := found.chain.shorter isPrefix (by rw [length]; exact Nat.le_add_right _ 8)
  have behind : found.offset + 40 ≤ found.walk.transportOffset := kept.2
  have inside {index : Nat} (before : index < found.stop) :
      index < (frame.take found.stop).length := by rw [length]; exact before
  { found with
    announced := ipOffset_shorter isPrefix found.announced (inside (by simp only [stop]; omega))
    firstRead := by
      rw [byteAt_shorter isPrefix (inside (by simp only [stop]; omega)), found.firstRead]
    protocolRead := by
      rw [byteAt_shorter isPrefix (inside (by simp only [stop]; omega)), found.protocolRead]
    chain := kept.1
    complete := by rw [length]; exact Nat.le_refl _
    nextRead := by
      rw [byteAt_shorter isPrefix (inside (by simp only [stop]; omega)), found.nextRead]
    fragmentRead := by
      rw [wordAt_shorter isPrefix (inside (by simp only [stop]; omega)), found.fragmentRead] }

theorem inside (found : LaterFragment frame linkType) :
    found.offset + 40 ≤ found.walk.transportOffset := by
  have complete := found.complete
  exact (found.chain.shorter (List.prefix_refl frame) (by omega)).2

theorem parsePacket_eq (found : LaterFragment frame linkType) (timestamp wireBytes : UInt64)
    (capturePoint : String) (localIps : List IpAddr) :
    ∃ source destination,
      parsePacket frame linkType timestamp wireBytes capturePoint localIps = (do
        let walk ← walkExtensions frame (7 - found.count) found.behind
        let ports ← if walk.firstFragment
          then parsePorts frame walk.transportOffset walk.protocol else .ok none
        return some (packetMeta { source, destination, protocol := walk.protocol, ports }
          timestamp wireBytes capturePoint localIps)) := by
  have complete := found.complete
  have inside := found.inside
  refine ⟨.v6 (octetsAt frame (found.offset + 8) (by omega)),
    .v6 (octetsAt frame (found.offset + 24) (by omega)), ?_⟩
  rw [parsePacket, found.announced, ok_bind]
  dsimp only
  rw [if_neg (by decide), if_pos rfl, parseIpv6_fixed (by omega) found.firstRead found.version
    found.protocolRead, found.walked, bind_assoc]
  apply congrArg
  funext walk
  cases walk.firstFragment with
  | false => rfl
  | true => exact bind_assoc ..

/-- The payload behind the fragment header is not read: the packet has no ports, its protocol is
the one the fragment header names, and a frame that agrees up to there gives the same. -/
def Hidden (found : LaterFragment frame linkType) (timestamp wireBytes : UInt64)
    (capturePoint : String) (localIps : List IpAddr) : Prop :=
  (∃ packet, parsePacket frame linkType timestamp wireBytes capturePoint localIps =
      .ok (some packet) ∧ packet.key.protocol = TransportProtocol.from found.next ∧
    packet.key.sourcePort = none ∧ packet.key.destinationPort = none) ∧
  ∀ other : Frame, other.take found.stop = frame.take found.stop →
    parsePacket other linkType timestamp wireBytes capturePoint localIps =
      parsePacket frame linkType timestamp wireBytes capturePoint localIps

def Last (found : LaterFragment frame linkType) : Prop :=
  found.count = 7 ∨ ¬isExtension found.next

theorem Last.walk_ends {found : LaterFragment frame linkType} (last : found.Last) :
    walkExtensions frame (7 - found.count) found.behind = .ok found.behind := by
  rcases last with eighth | named
  · rw [eighth]
    rfl
  · cases 7 - found.count with
    | zero => rfl
    | succ rounds => rw [walkExtensions_succ, nextHeader_none named]

theorem Last.parsed {found : LaterFragment frame linkType} (last : found.Last)
    (timestamp wireBytes : UInt64) (capturePoint : String) (localIps : List IpAddr) :
    ∃ packet, parsePacket frame linkType timestamp wireBytes capturePoint localIps =
        .ok (some packet) ∧ packet.key.protocol = TransportProtocol.from found.next ∧
      packet.key.sourcePort = none ∧ packet.key.destinationPort = none := by
  obtain ⟨source, destination, result⟩ :=
    found.parsePacket_eq timestamp wireBytes capturePoint localIps
  rw [last.walk_ends] at result
  exact ⟨_, result, rfl, rfl, rfl⟩

theorem parsePacket_of_cut {found : LaterFragment frame linkType} {timestamp wireBytes : UInt64}
    {capturePoint : String} {localIps : List IpAddr} {packet : Option PacketMeta}
    (parsed : parsePacket (frame.take found.stop) linkType timestamp wireBytes capturePoint
      localIps = .ok packet) (other : Frame)
    (agree : other.take found.stop = frame.take found.stop) :
    parsePacket other linkType timestamp wireBytes capturePoint localIps = .ok packet := by
  have isPrefix : frame.take found.stop <+: other := by
    rw [← agree]
    exact List.take_prefix _ _
  have follows := parsePacket_truncates isPrefix linkType timestamp wireBytes capturePoint localIps
  rw [parsed] at follows
  generalize parsePacket other linkType timestamp wireBytes capturePoint localIps = whole
    at follows ⊢
  cases follows with
  | ok same => rw [same]

theorem cut_truncated (found : LaterFragment frame linkType) (goesOn : ¬found.Last)
    (timestamp wireBytes : UInt64) (capturePoint : String) (localIps : List IpAddr) :
    ∃ layer, parsePacket (frame.take found.stop) linkType timestamp wireBytes capturePoint
      localIps = .error (.error (.truncated layer)) := by
  simp only [Last, not_or, not_not] at goesOn
  obtain ⟨notEighth, named⟩ := goesOn
  have within := found.within
  obtain ⟨source, destination, result⟩ :=
    found.cut.parsePacket_eq timestamp wireBytes capturePoint localIps
  have ends : (frame.take found.stop).length ≤ found.cut.behind.transportOffset :=
    List.length_take_le _ _
  have more : isExtension found.cut.behind.protocol := named
  obtain ⟨layer, truncated⟩ := nextHeader_truncated more ends
  have rounds : 7 - found.cut.count = (6 - found.count) + 1 := by
    have same : found.cut.count = found.count := rfl
    omega
  rw [rounds, walkExtensions_succ, truncated] at result
  exact ⟨layer, result⟩

end LaterFragment

/-- The payload of a fragment after the first stays unread exactly where the walk stops at its
fragment header. -/
theorem later_fragment_hidden (frame : Frame) (linkType : Int32)
    (found : LaterFragment frame linkType) (timestamp wireBytes : UInt64) (capturePoint : String)
    (localIps : List IpAddr) :
    found.Hidden timestamp wireBytes capturePoint localIps ↔
      found.count = 7 ∨ ¬isExtension found.next := by
  constructor
  · rintro ⟨⟨packet, parsed, _⟩, same⟩
    by_contra goesOn
    obtain ⟨layer, truncated⟩ :=
      found.cut_truncated goesOn timestamp wireBytes capturePoint localIps
    have agree : (frame.take found.stop).take found.stop = frame.take found.stop := by
      rw [List.take_take, Nat.min_self]
    rw [same _ agree, parsed] at truncated
    cases truncated
  · intro last
    have stays : found.Last := last
    have cutStays : found.cut.Last := last
    obtain ⟨packet, parsed, _⟩ := cutStays.parsed timestamp wireBytes capturePoint localIps
    refine ⟨stays.parsed timestamp wireBytes capturePoint localIps, ?_⟩
    intro other agree
    rw [LaterFragment.parsePacket_of_cut parsed other agree,
      LaterFragment.parsePacket_of_cut parsed frame rfl]

def fragmentFrame (next : UInt8) (payload : Frame) : Frame :=
  [0x60, 0, 0, 0, 0, 24, 44, 64] ++ List.replicate 32 0 ++ [next, 0, 0, 8, 0, 0, 0, 1] ++ payload

def laterFragment (next : UInt8) (payload : Frame) :
    LaterFragment (fragmentFrame next payload) LINKTYPE_RAW where
  offset := 0
  first := 0x60
  protocol := 44
  count := 0
  walk := { protocol := 44, transportOffset := 40, firstFragment := true }
  next
  fragment := 8
  announced := rfl
  firstRead := rfl
  version := by decide
  protocolRead := rfl
  chain := .start
  within := by decide
  isFragment := rfl
  complete := by simp [fragmentFrame]
  nextRead := rfl
  fragmentRead := rfl
  later := by decide

/-- It looks like a first fragment of a TCP segment from port 443. -/
def forgedPayload : Frame := [6, 0, 0, 0, 0, 0, 0, 2] ++ [0x01, 0xbb, 0xc3, 0x50, 0, 0, 0, 0]

/-- The forged bytes are taken for headers: the fragment is reported as TCP from port 443. -/
theorem forged_fragment_read :
    (∃ packet, parsePacket (fragmentFrame 44 forgedPayload) LINKTYPE_RAW 0 0 "tap" [] =
        .ok (some packet) ∧
      packet.key.protocol = .tcp ∧ packet.key.sourcePort = some 443) ∧
    ¬(laterFragment 44 forgedPayload).Hidden 0 0 "tap" [] := by
  have read : ∃ packet, parsePacket (fragmentFrame 44 forgedPayload) LINKTYPE_RAW 0 0 "tap" [] =
      .ok (some packet) ∧ packet.key.protocol = .tcp ∧ packet.key.sourcePort = some 443 :=
    ⟨_, rfl, by decide, by decide⟩
  refine ⟨read, ?_⟩
  rintro ⟨⟨packet, parsed, _, portless, _⟩, _⟩
  obtain ⟨other, same, _, port⟩ := read
  rw [parsed] at same
  cases same
  rw [portless] at port
  cases port

/-- Behind a header that names TCP itself the same payload stays unread. -/
theorem later_fragment_hidden_plain : (laterFragment 6 forgedPayload).Hidden 0 0 "tap" [] := by
  apply (later_fragment_hidden _ LINKTYPE_RAW (laterFragment 6 forgedPayload) 0 0 "tap" []).mpr
  right
  simp [laterFragment, isExtension]

end FlowObservability
