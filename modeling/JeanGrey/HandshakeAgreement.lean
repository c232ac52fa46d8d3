/-
Agreement of the handshake under an active adversary.

A world holds any number of handshake instances of any number of devices and
the log of what the devices have signed.  The adversary starts instances, makes
devices publish records and delivers any frame to any instance, except that a
signature which verifies under the key of a device was made by that device.
Whoever completes a handshake with a device then shares transcript and keys
with an instance of it.
-/

import JeanGrey.HandshakeDuplex
import JeanGrey.HandshakeInvariant
import JeanGrey.Signing
import Mathlib.Logic.Relation

namespace JeanGrey

open Crates

variable [Crates]

/-! ### Two instances with one transcript -/

namespace Handshake

/-- The payloads an instance holds as its own and as its peer's. -/
structure Holds (handshake : Handshake) (mine theirs : Payloads) : Prop where
  myHello : handshake.myHelloPayload = mine.hello
  myOffer : handshake.myOfferPayload = some mine.offer
  myResponse : handshake.myResponsePayload = some mine.response
  peerHello : handshake.peerHelloPayload = some theirs.hello
  peerOffer : handshake.peerOfferPayload = some theirs.offer
  peerResponse : handshake.peerResponsePayload = some theirs.response

variable {identity : DeviceIdentity} {handshake : Handshake} {peerId : PeerId}
  {mine theirs : Payloads} {ssToPeer ssFromPeer : Octets 32}

theorem Complete.holds (complete : Complete handshake peerId mine theirs ssToPeer ssFromPeer) :
    Holds handshake mine theirs :=
  ⟨complete.myHello, complete.myOffer, complete.myResponse, complete.peerHello,
    complete.peerOffer, complete.peerResponse⟩

/-- Where the fields of a complete instance come from. -/
structure Origin (identity : DeviceIdentity) (peerId : PeerId) (mine theirs : Payloads)
    (ssToPeer ssFromPeer : Octets 32) : Prop where
  myHello : mine.hello = encodeHello identity
  peerHello : ∃ hello, decodeHello theirs.hello = some hello ∧ peerId = peerIdOf hello.pubkey
  sent : ∃ random, Kem.encapsulate theirs.offer random = .ok (mine.response, ssToPeer)
  received : ∃ random, mine.offer = (Kem.generate random).1 ∧
    Kem.decapsulate (Kem.generate random).2 theirs.response = .ok ssFromPeer

theorem Complete.origin (consistent : Consistent identity handshake)
    (complete : Complete handshake peerId mine theirs ssToPeer ssFromPeer) :
    Origin identity peerId mine theirs ssToPeer ssFromPeer := by
  rcases consistent.hello with ⟨absent, -⟩ |
    ⟨payload, hello, random, hasHello, decoded, -, hasPeer, -, hasKey, hasOffer⟩
  · rw [complete.peerHello] at absent
    cases absent
  · rw [complete.peerHello] at hasHello
    rw [complete.peerId] at hasPeer
    rw [complete.myOffer] at hasOffer
    cases hasHello
    refine ⟨complete.myHello.symm.trans consistent.myHello,
      ⟨hello, decoded, Option.some.inj hasPeer⟩, ?_, ⟨random, Option.some.inj hasOffer, ?_⟩⟩
    · rcases consistent.offer with
        ⟨absent, -⟩ | ⟨offer, random, ct, ss, hasOffer, done, hasSs, hasCt⟩
      · rw [complete.peerOffer] at absent
        cases absent
      · rw [complete.peerOffer] at hasOffer
        rw [complete.ssToPeer] at hasSs
        rw [complete.myResponse] at hasCt
        cases hasOffer
        cases hasSs
        cases hasCt
        exact ⟨random, done⟩
    · rcases consistent.response with
        ⟨absent, -⟩ | ⟨response, dk, ss, hasResponse, hasDk, done, hasSs⟩
      · rw [complete.peerResponse] at absent
        cases absent
      · rw [complete.peerResponse] at hasResponse
        rw [hasKey] at hasDk
        rw [complete.ssFromPeer] at hasSs
        cases hasResponse
        cases hasDk
        cases hasSs
        exact done

theorem Origin.fits (origin : Origin identity peerId mine theirs ssToPeer ssFromPeer)
    (short : (encodeHello identity).length < 256 ^ 4) : mine.Fits ∧ theirs.Fits := by
  obtain ⟨hello, decoded, -⟩ := origin.peerHello
  obtain ⟨_, encapsulated⟩ := origin.sent
  obtain ⟨_, generated, decapsulated⟩ := origin.received
  have sizes := Kem.length_of_encapsulate_ok encapsulated
  have ctSize := Kem.length_of_decapsulate_ok decapsulated
  have ekLimit : Kem.ekLen < 256 ^ 4 := by decide
  have ctLimit : Kem.ctLen < 256 ^ 4 := by decide
  refine ⟨⟨?_, ?_, ?_⟩, ⟨length_of_decodeHello decoded, ?_, ?_⟩⟩
  · rw [origin.myHello]
    exact short
  · rw [generated, Kem.length_generate]
    exact ekLimit
  · rw [sizes.2]
    exact ctLimit
  · rw [sizes.1]
    exact ekLimit
  · rw [ctSize]
    exact ctLimit

theorem Origin.secret_eq {other : DeviceIdentity} {otherPeer : PeerId} {mine' theirs' : Payloads}
    {ssToPeer' ssFromPeer' : Octets 32} (correct : KemCorrect)
    (origin : Origin identity peerId mine theirs ssToPeer ssFromPeer)
    (origin' : Origin other otherPeer mine' theirs' ssToPeer' ssFromPeer')
    (offer : mine.offer = theirs'.offer) (response : theirs.response = mine'.response) :
    ssFromPeer = ssToPeer' := by
  obtain ⟨_, generated, decapsulated⟩ := origin.received
  obtain ⟨_, encapsulated⟩ := origin'.sent
  rw [← offer, generated] at encapsulated
  have same := Kem.decapsulate_of_encapsulate correct encapsulated
  rw [← response, decapsulated] at same
  exact Except.ok.inj same

theorem identified_of_hello (roundTrip : VerifyingKeyRoundTrip) {first : DeviceIdentity}
    (consistent : Consistent identity handshake)
    (greeted : handshake.peerHelloPayload = some (encodeHello first)) :
    handshake.peerId = some first.peerId := by
  rcases consistent.hello with ⟨absent, -⟩ | ⟨payload, hello, _, present, decoded, -, hasPeer, -⟩
  · rw [absent] at greeted
    cases greeted
  · rw [present] at greeted
    cases greeted
    rw [hasPeer, pubkey_of_decodeHello_encodeHello roundTrip decoded, first.peerId_eq]

/-- Two instances of different devices that hold one transcript hold each
other's payloads, if one of them has identified the other. -/
theorem crossed_of_transcript (hash : Sha256Injective) (roundTrip : VerifyingKeyRoundTrip)
    {first second : DeviceIdentity} {left right : Handshake} {peerId peerId' : PeerId}
    {mine theirs mine' theirs' : Payloads} {ssTo ssFrom ssTo' ssFrom' : Octets 32}
    (different : first.peerId ≠ second.peerId)
    (short : (encodeHello first).length < 256 ^ 4) (short' : (encodeHello second).length < 256 ^ 4)
    (consistent : Consistent first left) (consistent' : Consistent second right)
    (complete : Complete left peerId mine theirs ssTo ssFrom)
    (complete' : Complete right peerId' mine' theirs' ssTo' ssFrom')
    (same : buildTranscript left.myId peerId mine theirs =
      buildTranscript right.myId peerId' mine' theirs') :
    mine = theirs' ∧ theirs = mine' := by
  have origin := complete.origin consistent
  have origin' := complete'.origin consistent'
  rcases payloads_of_transcript hash (origin.fits short) (origin'.fits short') same with
    ⟨-, alike, -⟩ | ⟨-, crossed⟩
  · have sameHello : encodeHello first = encodeHello second := by
      rw [← origin.myHello, ← origin'.myHello, alike]
    have sameKey := verifyingKey_of_encodeHello roundTrip sameHello
    exact absurd (by rw [first.peerId_eq, second.peerId_eq, sameKey]) different
  · exact crossed

theorem agreement_of_transcript (hash : Sha256Injective) (roundTrip : VerifyingKeyRoundTrip)
    (kem : KemCorrect) {first second : DeviceIdentity} {left right : Handshake}
    {transcript : Bytes} (different : first.peerId ≠ second.peerId)
    (short : (encodeHello first).length < 256 ^ 4) (short' : (encodeHello second).length < 256 ^ 4)
    (consistent : Consistent first left) (consistent' : Consistent second right)
    (identified : left.peerId = some second.peerId)
    (hasTranscript : left.transcript = some transcript)
    (hasTranscript' : right.transcript = some transcript) :
    ∃ mine theirs, Holds left mine theirs ∧ Holds right theirs mine ∧ right.keys = left.keys ∧
      right.peerId = some first.peerId := by
  obtain ⟨peerId, mine, theirs, ssTo, ssFrom, keys, complete, same, hasKeys, sameKeys⟩ :=
    complete_of_transcript consistent hasTranscript
  obtain ⟨peerId', mine', theirs', ssTo', ssFrom', keys', complete', same', hasKeys', sameKeys'⟩ :=
    complete_of_transcript consistent' hasTranscript'
  have origin := complete.origin consistent
  have origin' := complete'.origin consistent'
  have samePeer : peerId = second.peerId :=
    Option.some.inj (complete.peerId.symm.trans identified)
  obtain ⟨crossed, crossed'⟩ := crossed_of_transcript hash roundTrip different short short'
    consistent consistent' complete complete' (same.symm.trans same')
  have greeted : right.peerHelloPayload = some (encodeHello first) := by
    rw [complete'.peerHello, ← crossed, origin.myHello]
  have identified' := identified_of_hello roundTrip consistent' greeted
  have samePeer' : peerId' = first.peerId :=
    Option.some.inj (complete'.peerId.symm.trans identified')
  have received : ssFrom = ssTo' :=
    origin.secret_eq kem origin' (by rw [crossed]) (by rw [crossed'])
  have received' : ssFrom' = ssTo :=
    origin'.secret_eq kem origin (by rw [crossed']) (by rw [crossed])
  refine ⟨mine, theirs, complete.holds, ?_, ?_, identified'⟩
  · rw [crossed, crossed']
    exact complete'.holds
  · rw [consistent.myId, samePeer] at sameKeys
    rw [consistent'.myId, samePeer'] at sameKeys'
    rw [hasKeys, hasKeys', sameKeys, sameKeys', received, received',
      combineSharedSecrets_comm different]

end Handshake

/-! ### Worlds -/

structure Instance (Device : Type) where
  owner : Device
  handshake : Handshake
  sent : List Frame
  returned : List HandshakeResult

/-- The instances started so far and the uses made of the device keys. -/
structure World (Device : Type) where
  instances : List (Instance Device)
  log : List (Device × Signing)

namespace Handshake

variable {identity : DeviceIdentity} {handshake : Handshake} {frame : Frame} {random : Bytes}
  {reply : Reply}

/-- A signature is made by an instance that holds the transcript and sends it. -/
theorem Transition.signed (transition : Transition identity handshake frame random reply)
    {signing : Signing} (used : signing ∈ reply.signed) :
    ∃ transcript sig, signing = .auth transcript ∧
      reply.handshake.transcript = some transcript ∧ Frame.handshake .auth sig ∈ reply.frames := by
  cases transition with
  | response typed known fresh hasKey decapsulated agrees =>
      exact ⟨_, _, List.mem_singleton.mp used, rfl, List.mem_singleton_self _⟩
  | _ => cases used

/-- An instance accepts its peer only on a signature over its transcript. -/
theorem Transition.authenticated (transition : Transition identity handshake frame random reply)
    (verified : reply.handshake.peerAuthOk = true) :
    handshake.peerAuthOk = true ∨
      ∃ transcript hello, reply.handshake.transcript = some transcript ∧
        reply.handshake.peerHello = some hello ∧
        Mldsa.verify hello.pubkey (authMessage transcript) frame.payload = true := by
  cases transition with
  | auth typed unverified hasTranscript hasHello hasKeys accepted =>
      exact .inr ⟨_, _, hasTranscript, hasHello, accepted⟩
  | _ => exact .inl verified

end Handshake

namespace World

variable {Device : Type}

def empty : World Device := { instances := [], log := [] }

def spawn (identity : Device → DeviceIdentity) (world : World Device) (device : Device)
    (expectedPeer : Option PeerId) (now : Nat) : World Device :=
  let (handshake, hello) := Handshake.new (identity device) expectedPeer now
  { world with
    instances := world.instances ++
      [{ owner := device, handshake := handshake, sent := [hello], returned := [] }] }

def publish (world : World Device) (device : Device) (addrs : List Multiaddr) (now : UInt64) :
    World Device :=
  { world with log := world.log ++ [(device, .addrRecord addrs now)] }

def deliver (identity : Device → DeviceIdentity) (world : World Device) (index : Nat)
    (receiver : Instance Device) (frame : Frame) (random : Bytes) : World Device :=
  let reply := receiver.handshake.onFrame (identity receiver.owner) frame random
  { instances := world.instances.set index
      { receiver with
        handshake := reply.handshake
        sent := receiver.sent ++ reply.frames
        returned := receiver.returned ++ reply.results }
    log := world.log ++ reply.signed.map (fun signing => (receiver.owner, signing)) }

inductive Step (identity : Device → DeviceIdentity) (world : World Device) :
    World Device → Prop where
  | spawn (device : Device) (expectedPeer : Option PeerId) (now : Nat) :
      Step identity world (world.spawn identity device expectedPeer now)
  | publish (device : Device) (addrs : List Multiaddr) (now : UInt64) :
      Step identity world (world.publish device addrs now)
  | deliver (index : Nat) (receiver : Instance Device) (frame : Frame) (random : Bytes) :
      world.instances[index]? = some receiver → Genuine identity world.log frame.payload →
      Step identity world (world.deliver identity index receiver frame random)

def Reachable (identity : Device → DeviceIdentity) (world : World Device) : Prop :=
  Relation.ReflTransGen (Step identity) empty world

structure Sound (identity : Device → DeviceIdentity) (log : List (Device × Signing))
    (one : Instance Device) : Prop where
  consistent : one.handshake.Consistent (identity one.owner)
  returned : ∀ result ∈ one.returned, one.handshake.ResultOf result
  authenticated : one.handshake.peerAuthOk = true → ∀ device hello transcript,
    one.handshake.peerHello = some hello → one.handshake.transcript = some transcript →
    hello.pubkey = (identity device).verifyingKey → (device, .auth transcript) ∈ log

def Signed (device : Device) (transcript : Bytes) (one : Instance Device) : Prop :=
  one.owner = device ∧ one.handshake.transcript = some transcript ∧
    ∃ sig, Frame.handshake .auth sig ∈ one.sent

structure Invariant (identity : Device → DeviceIdentity) (world : World Device) : Prop where
  sound : ∀ one ∈ world.instances, Sound identity world.log one
  logged : ∀ device transcript, (device, .auth transcript) ∈ world.log →
    ∃ one ∈ world.instances, Signed device transcript one

theorem Sound.mono {identity : Device → DeviceIdentity} {log log' : List (Device × Signing)}
    {one : Instance Device} (sound : Sound identity log one) (grown : log ⊆ log') :
    Sound identity log' one :=
  { sound with
    authenticated := by
      intro verified device hello transcript hasHello hasTranscript named
      exact grown (sound.authenticated verified device hello transcript hasHello hasTranscript
        named) }

theorem empty_invariant (identity : Device → DeviceIdentity) :
    Invariant identity (empty : World Device) := by
  refine ⟨List.forall_mem_nil _, ?_⟩
  intro device transcript member
  cases member

theorem spawn_invariant {identity : Device → DeviceIdentity} {world : World Device}
    (invariant : Invariant identity world) (device : Device) (expectedPeer : Option PeerId)
    (now : Nat) : Invariant identity (world.spawn identity device expectedPeer now) := by
  refine ⟨?_, ?_⟩
  · intro one member
    rcases List.mem_append.mp member with before | added
    · exact invariant.sound one before
    · rw [List.mem_singleton.mp added]
      refine ⟨Handshake.new_consistent _ _ _, List.forall_mem_nil _, ?_⟩
      intro impossible
      cases impossible
  · intro signer transcript member
    obtain ⟨one, present, signed⟩ := invariant.logged signer transcript member
    exact ⟨one, List.mem_append_left _ present, signed⟩

theorem publish_invariant {identity : Device → DeviceIdentity} {world : World Device}
    (invariant : Invariant identity world) (device : Device) (addrs : List Multiaddr)
    (now : UInt64) : Invariant identity (world.publish device addrs now) := by
  refine ⟨?_, ?_⟩
  · intro one member
    exact (invariant.sound one member).mono (List.subset_append_left _ _)
  · intro signer transcript member
    rcases List.mem_append.mp member with before | added
    · exact invariant.logged signer transcript before
    · cases List.mem_singleton.mp added

theorem deliver_sound {identity : Device → DeviceIdentity} {log : List (Device × Signing)}
    {receiver : Instance Device} {frame : Frame} {random : Bytes}
    {reply : Handshake.Reply} (sound : Sound identity log receiver)
    (genuine : Genuine identity log frame.payload)
    (transition : Handshake.Transition (identity receiver.owner) receiver.handshake frame random
      reply) :
    Sound identity log
      { receiver with
        handshake := reply.handshake
        sent := receiver.sent ++ reply.frames
        returned := receiver.returned ++ reply.results } := by
  refine ⟨transition.consistent sound.consistent, ?_, ?_⟩
  · intro result member
    rcases List.mem_append.mp member with before | added
    · exact transition.resultOf sound.consistent (sound.returned result before)
    · exact transition.results sound.consistent added
  · intro verified device hello transcript hasHello hasTranscript named
    rcases transition.authenticated verified with
      before | ⟨other, peerHello, same, sameHello, accepted⟩
    · obtain ⟨old, hadTranscript⟩ :=
        Handshake.transcript_of_authenticated sound.consistent before
      obtain ⟨kept, keptHello⟩ := transition.transcript_stable sound.consistent hadTranscript
      rw [keptHello] at hasHello
      rw [kept] at hasTranscript
      cases hasTranscript
      exact sound.authenticated before device hello _ hasHello hadTranscript named
    · rw [hasTranscript] at same
      rw [hasHello] at sameHello
      cases same
      cases sameHello
      rw [named] at accepted
      exact genuine.auth accepted

theorem mem_set_self {instances : List (Instance Device)} {index : Nat}
    {receiver : Instance Device} (found : instances[index]? = some receiver)
    (next : Instance Device) : next ∈ instances.set index next := by
  refine List.mem_iff_getElem?.mpr ⟨index, ?_⟩
  rw [List.getElem?_set_self', found]
  rfl

theorem exists_signed_set {instances : List (Instance Device)} {index : Nat}
    {receiver next : Instance Device} {device : Device} {transcript : Bytes}
    (found : instances[index]? = some receiver)
    (kept : Signed device transcript receiver → Signed device transcript next)
    (before : ∃ one ∈ instances, Signed device transcript one) :
    ∃ one ∈ instances.set index next, Signed device transcript one := by
  obtain ⟨one, member, signed⟩ := before
  obtain ⟨position, present⟩ := List.mem_iff_getElem?.mp member
  by_cases same : index = position
  · subst same
    rw [found] at present
    cases present
    exact ⟨next, mem_set_self found next, kept signed⟩
  · refine ⟨one, List.mem_iff_getElem?.mpr ⟨position, ?_⟩, signed⟩
    rw [List.getElem?_set_ne same, present]

theorem deliver_invariant {identity : Device → DeviceIdentity} {world : World Device}
    (invariant : Invariant identity world) {index : Nat} {receiver : Instance Device}
    {frame : Frame} (random : Bytes) (found : world.instances[index]? = some receiver)
    (genuine : Genuine identity world.log frame.payload) :
    Invariant identity (world.deliver identity index receiver frame random) := by
  have member := List.mem_iff_getElem?.mpr ⟨index, found⟩
  have sound := invariant.sound receiver member
  have transition : Handshake.Transition (identity receiver.owner) receiver.handshake frame random
      (receiver.handshake.onFrame (identity receiver.owner) frame random) :=
    Handshake.onFrame_transition sound.consistent
  refine ⟨?_, ?_⟩
  · intro one present
    rcases List.mem_or_eq_of_mem_set present with before | rfl
    · exact (invariant.sound one before).mono (List.subset_append_left _ _)
    · exact (deliver_sound sound genuine transition).mono (List.subset_append_left _ _)
  · intro device transcript logged
    rcases List.mem_append.mp logged with before | added
    · refine exists_signed_set found ?_ (invariant.logged device transcript before)
      rintro ⟨owner, hasTranscript, sig, sent⟩
      exact ⟨owner, (transition.transcript_stable sound.consistent hasTranscript).1, sig,
        List.mem_append_left _ sent⟩
    · obtain ⟨signing, used, same⟩ := List.mem_map.mp added
      obtain ⟨other, sig, named, hasTranscript, sent⟩ := transition.signed used
      rw [named] at same
      cases same
      have present := mem_set_self found
        { receiver with
          handshake := (receiver.handshake.onFrame (identity receiver.owner) frame random).handshake
          sent := receiver.sent ++
            (receiver.handshake.onFrame (identity receiver.owner) frame random).frames
          returned := receiver.returned ++
            (receiver.handshake.onFrame (identity receiver.owner) frame random).results }
      exact ⟨_, present, rfl, hasTranscript, sig, List.mem_append_right _ sent⟩

theorem invariant_of_reachable {identity : Device → DeviceIdentity} {world : World Device}
    (reachable : Reachable identity world) : Invariant identity world := by
  induction reachable with
  | refl => exact empty_invariant identity
  | tail _ step invariant =>
      cases step with
      | spawn device expectedPeer now => exact spawn_invariant invariant device expectedPeer now
      | publish device addrs now => exact publish_invariant invariant device addrs now
      | deliver index receiver frame random found genuine =>
          exact deliver_invariant invariant random found genuine

/-- A completed handshake with a device holds a transcript which that device has
signed. -/
theorem Sound.signed {identity : Device → DeviceIdentity} {log : List (Device × Signing)}
    {one : Instance Device} (hash : Sha256Injective) (peerIds : PeerIdBytes)
    (roundTrip : VerifyingKeyRoundTrip) (sound : Sound identity log one)
    {result : HandshakeResult} (known : one.handshake.ResultOf result) {peer : Device}
    (named : result.peerId = (identity peer).peerId) :
    ∃ transcript, one.handshake.transcript = some transcript ∧ (peer, .auth transcript) ∈ log := by
  obtain ⟨transcript, hasTranscript⟩ :=
    Handshake.transcript_of_authenticated sound.consistent known.authenticated
  have peerKey : result.peerHello.pubkey = (identity peer).verifyingKey := by
    rcases sound.consistent.hello with ⟨-, absent, -⟩ | ⟨_, hello, _, -, -, hasHello, hasPeer, -⟩
    · rw [known.peerHello] at absent
      cases absent
    · rw [known.peerHello] at hasHello
      cases hasHello
      refine peerIdOf_injective hash peerIds roundTrip ?_
      rw [← (identity peer).peerId_eq, ← named]
      exact Option.some.inj (hasPeer.symm.trans known.peerId)
  exact ⟨transcript, hasTranscript, sound.authenticated known.authenticated peer result.peerHello
    transcript known.peerHello hasTranscript peerKey⟩

/-- Whenever an instance returns `Established` with the Peer ID of another
device, an instance of that device has signed: it holds the same payloads
crosswise and the same keys, and if it is established too, the two results
complement each other. -/
theorem agreement (hash : Sha256Injective) (peerIds : PeerIdBytes)
    (roundTrip : VerifyingKeyRoundTrip) (kem : KemCorrect)
    (identity : Device → DeviceIdentity)
    (hellos : ∀ device, (encodeHello (identity device)).length < 2 ^ 32)
    (world : World Device) (reachable : Reachable identity world)
    (one : Instance Device) (member : one ∈ world.instances)
    (result : HandshakeResult) (established : result ∈ one.returned)
    (peer : Device) (named : result.peerId = (identity peer).peerId)
    (different : (identity one.owner).peerId ≠ (identity peer).peerId) :
    ∃ other ∈ world.instances, other.owner = peer ∧
      (∃ sig, Frame.handshake .auth sig ∈ other.sent) ∧
      (∃ mine theirs, one.handshake.Holds mine theirs ∧ other.handshake.Holds theirs mine) ∧
      other.handshake.keys = some result.keys ∧
      ∀ result' ∈ other.returned,
        result'.peerId = (identity one.owner).peerId ∧ result'.keys = result.keys ∧
        result'.sendKey = result.recvKey ∧ result'.recvKey = result.sendKey := by
  have invariant := invariant_of_reachable reachable
  have sound := invariant.sound one member
  have known := sound.returned result established
  have identified : one.handshake.peerId = some (identity peer).peerId := by
    rw [known.peerId, named]
  obtain ⟨transcript, hasTranscript, logged⟩ :=
    sound.signed hash peerIds roundTrip known named
  obtain ⟨other, present, owner, hasTranscript', sent⟩ := invariant.logged peer transcript logged
  have sound' := invariant.sound other present
  have consistent' := sound'.consistent
  rw [owner] at consistent'
  obtain ⟨mine, theirs, holds, holds', sameKeys, identified'⟩ :=
    Handshake.agreement_of_transcript hash roundTrip kem different (hellos _) (hellos _)
      sound.consistent consistent' identified hasTranscript hasTranscript'
  refine ⟨other, present, owner, sent, ⟨mine, theirs, holds, holds'⟩, sameKeys.trans known.keys, ?_⟩
  intro result' established'
  have known' := sound'.returned result' established'
  have samePeer : result'.peerId = (identity one.owner).peerId :=
    Option.some.inj (known'.peerId.symm.trans identified')
  have keysEq : result'.keys = result.keys :=
    Option.some.inj (known'.keys.symm.trans (sameKeys.trans known.keys))
  have selected := known.selected
  have selected' := known'.selected
  rw [sound.consistent.myId, named, selectKeys_comm different] at selected
  rw [consistent'.myId, samePeer, keysEq] at selected'
  rw [← selected'] at selected
  obtain ⟨sendKey, recvKey⟩ := Prod.mk.inj selected
  exact ⟨samePeer, keysEq, recvKey.symm, sendKey.symm⟩

/-! ### A run between two devices -/

section Exchange

open Runs Duplex

variable {pair : Pair}

def instanceAt (pair : Pair) (side : Side) (count : Nat) : Instance Side :=
  { owner := side
    handshake := pair.stateAt side count
    sent := (List.range' 0 (Duplex.sent count - 0)).map (pair.frameAt side)
    returned := if count < 5 then [] else [pair.result side] }

structure Exchange (pair : Pair) (counts : Side → Nat) (world : World Side) : Prop where
  reachable : Reachable pair.identity world
  instances : world.instances =
    [instanceAt pair .left (counts .left), instanceAt pair .right (counts .right)]
  signed : ∀ side, 3 ≤ counts side → (side, .auth (pair.transcript side)) ∈ world.log

/-- The frames of the pair are genuine once what they need is signed. -/
def GenuineFrames (pair : Pair) : Prop :=
  ∀ (log : List (Side × Signing)) side count, count < 5 →
    (count = 3 → (side, .auth (pair.transcript side)) ∈ log) →
    Genuine pair.identity log (pair.frameAt side count).payload

theorem exchange_start (pair : Pair) : ∃ world, Exchange pair (fun _ => 0) world := by
  have first : Reachable pair.identity
      ((empty : World Side).spawn pair.identity .left (pair.expected .left)
        (pair.startedAt .left)) :=
    .single (Step.spawn Side.left (pair.expected .left) (pair.startedAt .left))
  exact ⟨_, first.tail (Step.spawn Side.right (pair.expected .right) (pair.startedAt .right)), rfl,
    fun _ impossible => absurd impossible (by decide)⟩

theorem instanceAt_succ (pair : Pair) (side : Side) {count : Nat} (early : count < 5) :
    { instanceAt pair side count with
      handshake := (pair.replyAt side count).handshake
      sent := (instanceAt pair side count).sent ++ (pair.replyAt side count).frames
      returned := (instanceAt pair side count).returned ++ (pair.replyAt side count).results } =
    instanceAt pair side (count + 1) := by
  have sentMore : (List.range' 0 (Duplex.sent count - 0)).map (pair.frameAt side) ++
      (pair.replyAt side count).frames =
        (List.range' 0 (Duplex.sent (count + 1) - 0)).map (pair.frameAt side) :=
    channel_extend side early (Nat.zero_le _)
  have returned : (if count < 5 then [] else [pair.result side]) ++
      (pair.replyAt side count).results = if count + 1 < 5 then [] else [pair.result side] := by
    rw [if_pos early, List.nil_append]
    by_cases last : count < 4
    · have more : count + 1 < 5 := by omega
      simp only [Handshake.Reply.results, Pair.replyAt, if_pos last, if_pos more]
    · have more : ¬count + 1 < 5 := by omega
      simp only [Handshake.Reply.results, Pair.replyAt, if_neg last, if_neg more]
  simp only [instanceAt, sentMore, returned]
  rfl

variable (honest : pair.Honest) (roundTrip : VerifyingKeyRoundTrip) (kem : KemCorrect)
  (signatures : SignatureCorrect) (genuine : GenuineFrames pair)

include honest roundTrip kem signatures genuine

theorem exchange_deliver {counts : Side → Nat} {world : World Side} (side : Side)
    (exchange : Exchange pair counts world) (early : counts side < 5)
    (sent : counts side < Duplex.sent (counts side.other)) :
    ∃ world', Exchange pair (Function.update counts side (counts side + 1)) world' := by
  let index : Nat := match side with
    | .left => 0
    | .right => 1
  have found : world.instances[index]? = some (instanceAt pair side (counts side)) := by
    rw [exchange.instances]
    cases side <;> rfl
  have allowed := genuine world.log side.other (counts side) early (by
    intro third
    refine exchange.signed side.other ?_
    unfold Duplex.sent at sent
    omega)
  have accepted := Pair.onFrame_expected honest roundTrip kem signatures side early
  have next := instanceAt_succ pair side early
  have delivered : world.deliver pair.identity index (instanceAt pair side (counts side))
      (pair.frameAt side.other (counts side)) (pair.random side (counts side)) =
        { instances := world.instances.set index (instanceAt pair side (counts side + 1))
          log := world.log ++
            (pair.replyAt side (counts side)).signed.map (fun signing => (side, signing)) } := by
    rw [← next, ← accepted]
    rfl
  refine ⟨_, exchange.reachable.tail (.deliver index _ _ (pair.random side (counts side)) found
    allowed), ?_, ?_⟩
  · rw [delivered, exchange.instances]
    cases side <;> rfl
  · intro one signs
    rw [delivered]
    rcases Side.eq_or_eq_other side one with rfl | rfl
    · rw [Function.update_self] at signs
      by_cases now : counts one = 2
      · refine List.mem_append_right _ ?_
        simp only [Pair.replyAt, if_pos now]
        exact List.mem_singleton_self _
      · exact List.mem_append_left _ (exchange.signed one (by omega))
    · rw [Function.update_of_ne side.other_ne] at signs
      exact List.mem_append_left _ (exchange.signed side.other signs)

/-- In lockstep both sides reach every stage. -/
theorem exists_exchange (count : Nat) (within : count ≤ 5) :
    ∃ world, Exchange pair (fun _ => count) world := by
  induction count with
  | zero => exact exchange_start pair
  | succ count ih =>
      obtain ⟨world, exchange⟩ := ih (by omega)
      have reached : count < Duplex.sent count := by
        unfold Duplex.sent
        omega
      have ahead : count < Duplex.sent (count + 1) := by
        unfold Duplex.sent
        omega
      obtain ⟨middle, halfway⟩ := exchange_deliver honest roundTrip kem signatures genuine .left
        exchange within reached
      obtain ⟨final, done⟩ := exchange_deliver honest roundTrip kem signatures genuine .right
        halfway within ahead
      refine ⟨final, ?_⟩
      have both : Function.update (Function.update (fun _ : Side => count) .left (count + 1)) .right
          (count + 1) = fun _ => count + 1 := by
        funext side
        cases side <;> rfl
      rw [← both]
      exact done

end Exchange

omit [Crates] in
noncomputable def sampleTranscript : Bytes :=
  letI := symbolicCrates [] []
  transcriptBytes true ((Duplex.samplePair []).payloads .left).tagged
    ((Duplex.samplePair []).payloads .right).tagged

omit [Crates] in
theorem sample_peerId (side : Runs.Side) (seed : UInt8)
    (seeded : seed = match side with | .left => 5 | .right => 6) :
    letI := symbolicCrates sampleTranscript []
    ((Duplex.samplePair sampleTranscript).identity side).peerId =
      0x12 :: 0x20 :: 1 :: (Symbolic.fit 1952 (Symbolic.fit 32 [seed]).toList).toList := by
  have other : seed ≠ 1 := by
    rw [seeded]
    cases side <;> decide
  have marked : ¬(Symbolic.fit 1952 (Symbolic.fit 32 [seed]).toList).toList = sampleTranscript := by
    intro same
    exact other (Option.some.inj (congrArg List.head? same))
  have hashed : (if (Symbolic.fit 1952 (Symbolic.fit 32 [seed]).toList).toList = sampleTranscript
      then [0] else 1 :: (Symbolic.fit 1952 (Symbolic.fit 32 [seed]).toList).toList) =
        1 :: (Symbolic.fit 1952 (Symbolic.fit 32 [seed]).toList).toList := if_neg marked
  rw [← hashed, seeded]
  cases side <;> rfl

omit [Crates] in
theorem sample_lower :
    letI := symbolicCrates sampleTranscript []
    ((Duplex.samplePair sampleTranscript).identity .left).peerId <
      ((Duplex.samplePair sampleTranscript).identity .right).peerId := by
  rw [sample_peerId .left 5 rfl, sample_peerId .right 6 rfl]
  exact List.Lex.cons (List.Lex.cons (List.Lex.cons (List.Lex.rel (by decide))))

omit [Crates] in
theorem sample_answer (digest : Bytes) (side : Runs.Side) :
    letI := symbolicCrates digest []
    (Duplex.samplePair digest).answer side =
      ((Symbolic.fit 1088
        (Symbolic.fit 32 ((Duplex.samplePair digest).random side 1)).toList).toList,
        Symbolic.fit 32 ((Duplex.samplePair digest).random side 1)) := by
  let _ := symbolicCrates digest []
  unfold Pair.answer Pair.offer Kem.encapsulate
  rw [Kem.ofBytes?_generate]
  rfl

omit [Crates] in
theorem sample_payloads (digest : Bytes) (side : Runs.Side) :
    @Pair.payloads (symbolicCrates digest []) (Duplex.samplePair digest) side =
      @Pair.payloads (symbolicCrates [] []) (Duplex.samplePair []) side := by
  unfold Pair.payloads
  rw [sample_answer, sample_answer]
  cases side <;> rfl

omit [Crates] in
theorem sample_transcript (side : Runs.Side) :
    letI := symbolicCrates sampleTranscript []
    (Duplex.samplePair sampleTranscript).transcript side = [0] := by
  let _ := symbolicCrates sampleTranscript []
  have left : (Duplex.samplePair sampleTranscript).transcript .left = [0] := by
    have lower : decide (((Duplex.samplePair sampleTranscript).identity .left).peerId <
        ((Duplex.samplePair sampleTranscript).identity Runs.Side.left.other).peerId) = true :=
      decide_eq_true sample_lower
    have bytes : transcriptBytes true ((Duplex.samplePair sampleTranscript).payloads .left).tagged
        ((Duplex.samplePair sampleTranscript).payloads Runs.Side.left.other).tagged =
          sampleTranscript := by
      rw [show Runs.Side.left.other = .right from rfl, sample_payloads sampleTranscript .left,
        sample_payloads sampleTranscript .right, sampleTranscript]
    rw [Pair.transcript, buildTranscript, lower, bytes]
    exact if_pos rfl
  cases side with
  | left => exact left
  | right =>
      rw [← left]
      exact Pair.transcript_eq (Duplex.samplePair_honest sampleTranscript) .left

theorem genuine_of_length {identity : Device → DeviceIdentity} {log : List (Device × Signing)}
    {sig : Bytes} (sized : sig.length ≠ Mldsa.sigLen) : Genuine identity log sig := by
  intro device message verified
  have unsized : Octets.ofBytes? Mldsa.sigLen sig = none := dif_neg sized
  simp only [Mldsa.verify, unsized] at verified
  cases verified

omit [Crates] in
theorem sample_genuine :
    letI := symbolicCrates sampleTranscript []
    GenuineFrames (Duplex.samplePair sampleTranscript) := by
  let _ := symbolicCrates sampleTranscript []
  intro log side count within signed
  by_cases auth : count = 3
  · subst auth
    intro device message verified
    have short : (authMessage ((Duplex.samplePair sampleTranscript).transcript side)).length ≤
        3000 := by
      rw [sample_transcript]
      decide
    obtain ⟨sameKey, rfl⟩ := Symbolic.eq_of_verify_sign sampleTranscript []
      ((Duplex.samplePair sampleTranscript).random side 2) short verified
    have sameSide : device = side := by
      have heads := congrArg List.head? sameKey
      cases device <;> cases side <;> first | rfl | exact absurd (Option.some.inj heads) (by decide)
    rw [sameSide]
    exact ⟨_, signed rfl, rfl⟩
  · refine genuine_of_length (Pair.length_frameAt_ne (Symbolic.kemCorrect sampleTranscript [])
      (Duplex.samplePair sampleTranscript) side ?_ auth)
    exact (Duplex.samplePair_honest sampleTranscript).named side

omit [Crates] in
/-- Two devices complete a handshake; the theorem names the instance of the
second for the first. -/
theorem agreement_sample :
    letI := symbolicCrates sampleTranscript []
    ∃ (world : World Runs.Side) (one : Instance Runs.Side) (result : HandshakeResult),
      World.Reachable (Duplex.samplePair sampleTranscript).identity world ∧
      one ∈ world.instances ∧ result ∈ one.returned ∧
      ∃ other ∈ world.instances, other.owner = .right ∧
        other.handshake.keys = some result.keys := by
  let _ := symbolicCrates sampleTranscript []
  let pair := Duplex.samplePair sampleTranscript
  have roundTrip := Symbolic.verifyingKeyRoundTrip sampleTranscript []
  have kem := Symbolic.kemCorrect sampleTranscript []
  have honest : pair.Honest := Duplex.samplePair_honest sampleTranscript
  obtain ⟨world, exchange⟩ := exists_exchange honest roundTrip kem
    (Symbolic.signatureCorrect sampleTranscript []) sample_genuine 5 (by decide)
  have member : instanceAt pair .left 5 ∈ world.instances := by
    rw [exchange.instances]
    exact List.mem_cons_self
  have hellos (side : Runs.Side) : (encodeHello (pair.identity side)).length < 2 ^ 32 :=
    length_encodeHello_lt (honest.named side)
  obtain ⟨other, present, owner, -, -, keys, -⟩ :=
    agreement (Symbolic.sha256Injective sampleTranscript [])
      (Symbolic.peerIdBytes sampleTranscript [])
      roundTrip kem pair.identity hellos world exchange.reachable (instanceAt pair .left 5) member
      (pair.result .left) (List.mem_singleton_self _) .right rfl honest.distinct
  exact ⟨world, instanceAt pair .left 5, pair.result .left, exchange.reachable, member,
    List.mem_singleton_self _, other, present, owner, keys⟩

end World

end JeanGrey
