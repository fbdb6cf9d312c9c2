import FlowObservability.Packet

/-!
Reads of a frame: which of them are in bounds, and what they give in a prefix of the frame and
behind a header.
-/

namespace FlowObservability

open Transaction

section Bounds

variable {frame : Frame} {index length : Nat} {layer : String}

theorem require_enough (enough : length ≤ frame.length) : require frame length layer = .ok () := by
  simp [require, enough]

theorem require_short (short : frame.length < length) :
    require frame length layer = .error (.error (.truncated layer)) := by
  simp [require, short]

theorem byteAt_inside (inside : index < frame.length) :
    byteAt frame index = .ok (frame[index]) := by
  simp [byteAt, inside]

theorem wordAt_inside (inside : index + 1 < frame.length) :
    wordAt frame index = .ok (fromBeBytes (frame[index]) (frame[index + 1])) := by
  have first : index < frame.length := by omega
  rw [wordAt, byteAt_inside first, byteAt_inside inside]
  rfl

theorem slice_inside {start stop : Nat} (ordered : start ≤ stop) (inside : stop ≤ frame.length) :
    slice frame start stop = .ok ((frame.take stop).drop start) := by
  have fine : ¬(stop < start ∨ frame.length < stop) := by omega
  simp [slice, fine]

theorem octets_inside {start : Nat} (inside : start + 16 ≤ frame.length) :
    ((frame.take (start + 16)).drop start).length = 16 := by
  simp only [List.length_drop, List.length_take]
  omega

def octetsAt (frame : Frame) (start : Nat) (inside : start + 16 ≤ frame.length) :
    Vector UInt8 16 :=
  ⟨((frame.take (start + 16)).drop start).toArray, by simpa using octets_inside inside⟩

theorem toOctets_slice (start : Nat) (inside : start + 16 ≤ frame.length) :
    toOctets ((frame.take (start + 16)).drop start) = .ok (octetsAt frame start inside) := by
  rw [toOctets, dif_pos (octets_inside inside)]
  rfl

theorem parseIpv6_fixed {offset : Nat} {first protocol : UInt8} (fixed : offset + 40 ≤ frame.length)
    (firstRead : byteAt frame offset = .ok first) (version : first >>> 4 = 6)
    (protocolRead : byteAt frame (offset + 6) = .ok protocol) :
    parseIpv6 frame offset = (do
      let walk ← walkExtensions frame 8
        { protocol, transportOffset := offset + 40, firstFragment := true }
      let ports ←
        if walk.firstFragment then parsePorts frame walk.transportOffset walk.protocol else .ok none
      return {
        source := .v6 (octetsAt frame (offset + 8) (by omega))
        destination := .v6 (octetsAt frame (offset + 24) (by omega))
        protocol := walk.protocol
        ports }) := by
  have six : ¬first >>> 4 ≠ 6 := by simp [version]
  rw [parseIpv6, require_enough fixed, ok_bind, firstRead, ok_bind, if_neg six,
    slice_inside (by omega) (by omega), slice_inside (by omega) fixed, ok_bind,
    toOctets_slice (offset + 8) (by omega), ok_bind, ok_bind,
    toOctets_slice (offset + 24) fixed, ok_bind, protocolRead, ok_bind]

end Bounds

section Prefixes

variable {shorter frame : Frame}

theorem byteAt_shorter (isPrefix : shorter <+: frame) {index : Nat}
    (inside : index < shorter.length) : byteAt shorter index = byteAt frame index := by
  have longer : index < frame.length := Nat.lt_of_lt_of_le inside isPrefix.length_le
  rw [byteAt_inside inside, byteAt_inside longer, isPrefix.getElem inside]

theorem wordAt_shorter (isPrefix : shorter <+: frame) {index : Nat}
    (inside : index + 1 < shorter.length) : wordAt shorter index = wordAt frame index := by
  have first : index < shorter.length := by omega
  rw [wordAt, wordAt, byteAt_shorter isPrefix first, byteAt_shorter isPrefix inside]

theorem slice_shorter (isPrefix : shorter <+: frame) {start stop : Nat} (ordered : start ≤ stop)
    (inside : stop ≤ shorter.length) : slice shorter start stop = slice frame start stop := by
  have longer : stop ≤ frame.length := Nat.le_trans inside isPrefix.length_le
  obtain ⟨rest, rfl⟩ := isPrefix
  rw [slice_inside ordered inside, slice_inside ordered longer, List.take_append_of_le_length inside]

theorem ipv4At_shorter (isPrefix : shorter <+: frame) {index : Nat}
    (inside : index + 4 ≤ shorter.length) : ipv4At shorter index = ipv4At frame index := by
  have first : index < shorter.length := by omega
  have second : index + 1 < shorter.length := by omega
  have third : index + 2 < shorter.length := by omega
  have fourth : index + 3 < shorter.length := by omega
  rw [ipv4At, ipv4At, byteAt_shorter isPrefix first, byteAt_shorter isPrefix second,
    byteAt_shorter isPrefix third, byteAt_shorter isPrefix fourth]

end Prefixes

section Headers

def nextHeader (frame : Frame) (walk : Walk) : Option (Except Abort Walk) :=
  if walk.protocol = 0 ∨ walk.protocol = 43 ∨ walk.protocol = 60 then
    some (skipExtension frame walk "IPv6 extension" 1 8)
  else if walk.protocol = 44 then some (skipFragment frame walk)
  else if walk.protocol = 51 then some (skipExtension frame walk "IPv6 AH" 2 4)
  else none

theorem nextHeader_options {frame : Frame} {walk : Walk}
    (options : walk.protocol = 0 ∨ walk.protocol = 43 ∨ walk.protocol = 60) :
    nextHeader frame walk = some (skipExtension frame walk "IPv6 extension" 1 8) := if_pos options

theorem nextHeader_fragment {frame : Frame} {walk : Walk} (fragment : walk.protocol = 44) :
    nextHeader frame walk = some (skipFragment frame walk) := by
  rw [nextHeader, fragment, if_neg (by decide), if_pos rfl]

theorem nextHeader_authentication {frame : Frame} {walk : Walk}
    (authentication : walk.protocol = 51) :
    nextHeader frame walk = some (skipExtension frame walk "IPv6 AH" 2 4) := by
  rw [nextHeader, authentication, if_neg (by decide), if_neg (by decide), if_pos rfl]

theorem walkExtensions_succ (frame : Frame) (rounds : Nat) (walk : Walk) :
    walkExtensions frame (rounds + 1) walk =
      match nextHeader frame walk with
      | none => .ok walk
      | some skipped => skipped >>= walkExtensions frame rounds := by
  simp only [walkExtensions, nextHeader]
  split
  · rfl
  · split
    · rfl
    · split
      · rfl
      · rfl

def isExtension (protocol : UInt8) : Prop :=
  protocol = 0 ∨ protocol = 43 ∨ protocol = 60 ∨ protocol = 44 ∨ protocol = 51

theorem nextHeader_none {frame : Frame} {walk : Walk} (last : ¬isExtension walk.protocol) :
    nextHeader frame walk = none := by
  unfold isExtension at last
  have extension : ¬(walk.protocol = 0 ∨ walk.protocol = 43 ∨ walk.protocol = 60) := by tauto
  have fragment : walk.protocol ≠ 44 := by tauto
  have authentication : walk.protocol ≠ 51 := by tauto
  simp only [nextHeader, extension, fragment, authentication, ↓reduceIte]

end Headers

section Behind

variable (header datagram : Frame) (index : Nat)

@[simp] theorem require_append (length : Nat) (layer : String) :
    require (header ++ datagram) (header.length + length) layer = require datagram length layer := by
  simp [require]

@[simp] theorem byteAt_append :
    byteAt (header ++ datagram) (header.length + index) = byteAt datagram index := by
  simp [byteAt, List.getElem?_append_right]

@[simp] theorem wordAt_append :
    wordAt (header ++ datagram) (header.length + index) = wordAt datagram index := by
  simp [wordAt, Nat.add_assoc]

@[simp] theorem ipv4At_append :
    ipv4At (header ++ datagram) (header.length + index) = ipv4At datagram index := by
  simp [ipv4At, Nat.add_assoc]

@[simp] theorem slice_append (start stop : Nat) :
    slice (header ++ datagram) (header.length + start) (header.length + stop) =
      slice datagram start stop := by
  have passed : (header.take (header.length + stop)).drop (header.length + start) = [] := by
    apply List.drop_eq_nil_of_le
    simp only [List.length_take]
    omega
  simp [slice, List.take_append, List.drop_append, passed]

end Behind

end FlowObservability
