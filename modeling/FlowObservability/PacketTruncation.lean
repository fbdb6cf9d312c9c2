import FlowObservability.PacketReads

/-!
Snap length: what the parser makes of a prefix of a frame. It stops at the first header the
prefix cuts off, or ends as it does on the whole frame.
-/

namespace FlowObservability

open Transaction

def IsTruncated (abort : Abort) : Prop := ∃ layer, abort = .error (.truncated layer)

abbrev Truncates {α : Type} (result whole : Except Abort α) : Prop :=
  Follows IsTruncated Eq result whole

theorem Truncates.refl {α : Type} (result : Except Abort α) : Truncates result result := by
  cases result with
  | ok value => exact .ok rfl
  | error abort => exact .error abort

section Steps

variable {α β : Type} {shorter frame : Frame}

theorem Truncates.andThen {first : Except Abort α} {next following : α → Except Abort β}
    (rest : ∀ value, Truncates (next value) (following value)) :
    Truncates (first >>= next) (first >>= following) := by
  apply Follows.bind (Truncates.refl first)
  rintro value _ rfl
  exact rest value

theorem Truncates.bind {result whole : Except Abort α} {next following : α → Except Abort β}
    (first : Truncates result whole) (rest : ∀ value, Truncates (next value) (following value)) :
    Truncates (result >>= next) (whole >>= following) := by
  apply Follows.bind first
  rintro value _ rfl
  exact rest value

theorem Truncates.require (isPrefix : shorter <+: frame) {length : Nat} {layer : String}
    {next following : Unit → Except Abort β}
    (rest : length ≤ shorter.length → Truncates (next ()) (following ())) :
    Truncates (require shorter length layer >>= next) (require frame length layer >>= following) := by
  by_cases enough : length ≤ shorter.length
  · have longer : length ≤ frame.length := Nat.le_trans enough isPrefix.length_le
    rw [require_enough enough, require_enough longer]
    exact rest enough
  · rw [require_short (by omega)]
    exact .failed ⟨layer, rfl⟩

end Steps

section Parser

variable {shorter frame : Frame}

theorem skipTags_truncates (isPrefix : shorter <+: frame) (rounds offset : Nat)
    (etherType : UInt16) :
    Truncates (skipTags shorter rounds offset etherType) (skipTags frame rounds offset etherType) := by
  induction rounds generalizing offset etherType with
  | zero => exact .refl _
  | succ rounds ih =>
      simp only [skipTags]
      by_cases tagged : etherType = 0x8100 ∨ etherType = 0x88a8
      · simp only [tagged, ↓reduceIte]
        apply Truncates.require isPrefix
        intro enough
        rw [wordAt_shorter isPrefix (by omega)]
        exact .andThen fun inner => ih (offset + 4) inner
      · simp only [tagged, ↓reduceIte]
        exact .refl _

theorem ipOffset_truncates (isPrefix : shorter <+: frame) (linkType : Int32) :
    Truncates (ipOffset shorter linkType) (ipOffset frame linkType) := by
  unfold ipOffset
  by_cases ethernet : linkType = LINKTYPE_ETHERNET
  · simp only [ethernet, ↓reduceIte]
    apply Truncates.require isPrefix
    intro enough
    rw [wordAt_shorter isPrefix (by omega)]
    exact .andThen fun etherType => skipTags_truncates isPrefix 2 14 etherType
  · simp only [ethernet, ↓reduceIte]
    by_cases raw : linkType = LINKTYPE_RAW
    · simp only [raw, ↓reduceIte]
      apply Truncates.require isPrefix
      intro enough
      rw [byteAt_shorter isPrefix (by omega)]
      exact .refl _
    · simp only [raw, ↓reduceIte]
      by_cases cooked : linkType = LINKTYPE_LINUX_SLL
      · simp only [cooked, ↓reduceIte]
        apply Truncates.require isPrefix
        intro enough
        rw [wordAt_shorter isPrefix (by omega)]
        exact .refl _
      · simp only [cooked, ↓reduceIte]
        by_cases second : linkType = LINKTYPE_LINUX_SLL2
        · simp only [second, ↓reduceIte]
          apply Truncates.require isPrefix
          intro enough
          rw [wordAt_shorter isPrefix (by omega)]
          exact .refl _
        · simp only [second, ↓reduceIte]
          exact .refl _

theorem parsePorts_truncates (isPrefix : shorter <+: frame) (transportOffset : Nat)
    (protocol : UInt8) :
    Truncates (parsePorts shorter transportOffset protocol)
      (parsePorts frame transportOffset protocol) := by
  unfold parsePorts
  split
  · apply Truncates.require isPrefix
    intro enough
    rw [wordAt_shorter isPrefix (by omega), wordAt_shorter isPrefix (by omega)]
    exact .refl _
  · exact .refl _

theorem parseIpv4_truncates (isPrefix : shorter <+: frame) (offset : Nat) :
    Truncates (parseIpv4 shorter offset) (parseIpv4 frame offset) := by
  unfold parseIpv4
  apply Truncates.require isPrefix
  intro enough
  rw [byteAt_shorter isPrefix (by omega)]
  apply Truncates.andThen
  intro first
  split
  · exact .refl _
  · dsimp only
    split
    · exact .refl _
    · apply Truncates.require isPrefix
      intro covered
      rw [byteAt_shorter isPrefix (by omega), ipv4At_shorter isPrefix (by omega),
        ipv4At_shorter isPrefix (by omega), wordAt_shorter isPrefix (by omega)]
      refine .andThen fun protocol => .andThen fun source => .andThen fun destination =>
        .andThen fun fragment => ?_
      split
      · exact (parsePorts_truncates isPrefix _ _).bind fun ports => .refl _
      · exact .refl _

theorem skipExtension_truncates (isPrefix : shorter <+: frame) (walk : Walk) (layer : String)
    (more unit : Nat) :
    Truncates (skipExtension shorter walk layer more unit)
      (skipExtension frame walk layer more unit) := by
  unfold skipExtension
  apply Truncates.require isPrefix
  intro enough
  rw [byteAt_shorter isPrefix (by omega), byteAt_shorter isPrefix (by omega)]
  refine .andThen fun next => .andThen fun units => ?_
  apply Truncates.require isPrefix
  intro covered
  exact .refl _

theorem skipFragment_truncates (isPrefix : shorter <+: frame) (walk : Walk) :
    Truncates (skipFragment shorter walk) (skipFragment frame walk) := by
  unfold skipFragment
  apply Truncates.require isPrefix
  intro enough
  rw [byteAt_shorter isPrefix (by omega), wordAt_shorter isPrefix (by omega)]
  exact .refl _

theorem walkExtensions_truncates (isPrefix : shorter <+: frame) (rounds : Nat) (walk : Walk) :
    Truncates (walkExtensions shorter rounds walk) (walkExtensions frame rounds walk) := by
  induction rounds generalizing walk with
  | zero => exact .refl _
  | succ rounds ih =>
      simp only [walkExtensions]
      split
      · exact (skipExtension_truncates isPrefix walk _ 1 8).bind ih
      · split
        · exact (skipFragment_truncates isPrefix walk).bind ih
        · split
          · exact (skipExtension_truncates isPrefix walk _ 2 4).bind ih
          · exact .refl _

theorem parseIpv6_truncates (isPrefix : shorter <+: frame) (offset : Nat) :
    Truncates (parseIpv6 shorter offset) (parseIpv6 frame offset) := by
  unfold parseIpv6
  apply Truncates.require isPrefix
  intro enough
  rw [byteAt_shorter isPrefix (by omega)]
  apply Truncates.andThen
  intro first
  split
  · exact .refl _
  · rw [slice_shorter isPrefix (by omega) (by omega), slice_shorter isPrefix (by omega) (by omega),
      byteAt_shorter isPrefix (by omega)]
    refine .andThen fun source => .andThen fun sourceOctets => .andThen fun destination =>
      .andThen fun destinationOctets => .andThen fun protocol => ?_
    apply (walkExtensions_truncates isPrefix 8 _).bind
    intro walk
    split
    · exact (parsePorts_truncates isPrefix _ _).bind fun ports => .refl _
    · exact .refl _

theorem parsePacket_truncates (isPrefix : shorter <+: frame) (linkType : Int32)
    (timestamp wireBytes : UInt64) (capturePoint : String) (localIps : List IpAddr) :
    Truncates (parsePacket shorter linkType timestamp wireBytes capturePoint localIps)
      (parsePacket frame linkType timestamp wireBytes capturePoint localIps) := by
  unfold parsePacket
  apply (ipOffset_truncates isPrefix linkType).bind
  rintro ⟨offset, etherType⟩
  dsimp only
  split
  · exact (parseIpv4_truncates isPrefix offset).bind fun packet => .refl _
  · split
    · exact (parseIpv6_truncates isPrefix offset).bind fun packet => .refl _
    · exact .refl _

end Parser

/-- A capture cut at the snap length is reported as truncated or gives the result of the whole
frame, never another flow key. -/
theorem parsePacket_shorter (frame shorter : Frame) (isPrefix : shorter <+: frame)
    (linkType : Int32) (timestamp wireBytes : UInt64) (capturePoint : String)
    (localIps : List IpAddr) :
    (∃ layer, parsePacket shorter linkType timestamp wireBytes capturePoint localIps =
        .error (.error (.truncated layer))) ∨
      parsePacket shorter linkType timestamp wireBytes capturePoint localIps =
        parsePacket frame linkType timestamp wireBytes capturePoint localIps := by
  have follows := parsePacket_truncates isPrefix linkType timestamp wireBytes capturePoint localIps
  generalize parsePacket shorter linkType timestamp wireBytes capturePoint localIps = result
    at follows ⊢
  generalize parsePacket frame linkType timestamp wireBytes capturePoint localIps = whole
    at follows ⊢
  cases follows with
  | ok same => exact .inr (congrArg Except.ok same)
  | error abort => exact .inr rfl
  | failed truncated =>
      obtain ⟨layer, rfl⟩ := truncated
      exact .inl ⟨layer, rfl⟩

def rawSegment : Frame :=
  [0x45, 0, 0, 24, 0, 0, 0, 0, 64, 6, 0, 0, 10, 0, 0, 1, 10, 0, 0, 2, 0x01, 0xbb, 0xc3, 0x50]

theorem parsePacket_shorter_segment :
    (∃ layer, parsePacket (rawSegment.take 22) LINKTYPE_RAW 0 0 "tap" [] =
        .error (.error (.truncated layer))) ∨
      parsePacket (rawSegment.take 22) LINKTYPE_RAW 0 0 "tap" [] =
        parsePacket rawSegment LINKTYPE_RAW 0 0 "tap" [] :=
  parsePacket_shorter rawSegment (rawSegment.take 22) (List.take_prefix 22 rawSegment) LINKTYPE_RAW
    0 0 "tap" []

end FlowObservability
