/-
The handshake between two honest devices.

The two sides exchange the frames their machines return over two reliable
in-order channels.  Each side answers the frame it has received with the next
frame of its own, so a side that has received `k` frames is in its `k`-th state
and has sent `k + 1` frames, five at most.  The counts of the two sides and the
channels between them determine each other; no interleaving can break that.
-/

import JeanGrey.HandshakeTranscript
import JeanGrey.Library.Runs
import JeanGrey.SymbolicCrates

namespace JeanGrey

open Crates Runs

variable [Crates]

/-- The two devices, and the random bytes each of their calls draws. -/
structure Pair where
  identity : Side → DeviceIdentity
  expected : Side → Option PeerId
  startedAt : Side → Nat
  random : Side → Nat → Bytes

namespace Pair

variable (pair : Pair)

/-- What is asked of the pair: distinct Peer IDs, acceptable names, and each
side expecting the other or nobody in particular. -/
structure Honest : Prop where
  distinct : (pair.identity .left).peerId ≠ (pair.identity .right).peerId
  named : ∀ side, (utf8Bytes (pair.identity side).user.userName).length ≤ maxUserName
  expected : ∀ side peer, pair.expected side = some peer →
    peer = (pair.identity side.other).peerId

/-! ### The frames and states of a side -/

def offer (side : Side) : Bytes := (Kem.generate (pair.random side 0)).1

def answer (side : Side) : Bytes × Octets 32 :=
  match Kem.encapsulate (pair.offer side.other) (pair.random side 1) with
  | .ok found => found
  | .error _ => ([], Octets.zero 32)

def payloads (side : Side) : Payloads :=
  { hello := encodeHello (pair.identity side)
    offer := pair.offer side
    response := (pair.answer side).1 }

def transcript (side : Side) : Bytes :=
  buildTranscript (pair.identity side).peerId (pair.identity side.other).peerId
    (pair.payloads side) (pair.payloads side.other)

def keys (side : Side) : SessionKeys :=
  Kdf.deriveSessionKeys
    (combineSharedSecrets (pair.answer side).2 (pair.answer side.other).2
      ((pair.identity side).peerId < (pair.identity side.other).peerId))
    (pair.transcript side)

def sig (side : Side) : Bytes :=
  (pair.identity side).secretKey.sign (authMessage (pair.transcript side)) (pair.random side 2)

def frameAt (side : Side) : Nat → Frame
  | 0 => .handshake .hello (encodeHello (pair.identity side))
  | 1 => .handshake .kemOffer (pair.offer side)
  | 2 => .handshake .kemResponse (pair.answer side).1
  | 3 => .handshake .auth (pair.sig side)
  | _ => .handshake .ready (pair.keys side).sessionId.toList

def helloOf (side : Side) : PeerHello :=
  { pubkey := (pair.identity side).verifyingKey
    deviceUuid := (pair.identity side).deviceUuid
    userName := (pair.identity side).user.userName }

def result (side : Side) : HandshakeResult :=
  let selected := selectKeys (pair.keys side) (pair.identity side).peerId
    (pair.identity side.other).peerId
  { myId := (pair.identity side).peerId
    peerId := (pair.identity side.other).peerId
    peerHello := pair.helloOf side.other
    keys := pair.keys side
    sendKey := selected.1
    recvKey := selected.2 }

def initial (side : Side) : Handshake :=
  (Handshake.new (pair.identity side) (pair.expected side) (pair.startedAt side)).1

def afterHello (side : Side) : Handshake :=
  { pair.initial side with
    peerId := some (pair.identity side.other).peerId
    peerHello := some (pair.helloOf side.other)
    peerHelloPayload := some (encodeHello (pair.identity side.other))
    kemDk := some (Kem.generate (pair.random side 0)).2
    myOfferPayload := some (pair.offer side) }

def afterOffer (side : Side) : Handshake :=
  { pair.afterHello side with
    peerOfferPayload := some (pair.offer side.other)
    ssToPeer := some (pair.answer side).2
    myResponsePayload := some (pair.answer side).1 }

def afterResponse (side : Side) : Handshake :=
  { pair.afterOffer side with
    peerResponsePayload := some (pair.answer side.other).1
    ssFromPeer := some (pair.answer side.other).2
    transcript := some (pair.transcript side)
    keys := some (pair.keys side)
    step := .waitAuth }

def afterAuth (side : Side) : Handshake :=
  { pair.afterResponse side with peerAuthOk := true, step := .waitReady }

def afterReady (side : Side) : Handshake :=
  { pair.afterAuth side with
    peerReady := some (pair.keys side).sessionId
    step := .established
    result := some (pair.result side) }

/-- The state of a side that has received so many frames. -/
def stateAt (side : Side) : Nat → Handshake
  | 0 => pair.initial side
  | 1 => pair.afterHello side
  | 2 => pair.afterOffer side
  | 3 => pair.afterResponse side
  | 4 => pair.afterAuth side
  | _ => pair.afterReady side

def replyAt (side : Side) (count : Nat) : Handshake.Reply :=
  { handshake := pair.stateAt side (count + 1)
    outcome :=
      if count < 4 then .ok (.frames [pair.frameAt side (count + 1)])
      else .ok (.established (pair.result side))
    signed := if count = 2 then [.auth (pair.transcript side)] else [] }

/-! ### Every expected frame is accepted -/

section Accepted

variable {pair} (honest : pair.Honest)

include honest in
theorem Honest.ids_ne (side : Side) :
    (pair.identity side).peerId ≠ (pair.identity side.other).peerId := by
  cases side with
  | left => exact honest.distinct
  | right => exact honest.distinct.symm

theorem answer_spec (pair : Pair) (kem : KemCorrect) (side : Side) :
    Kem.encapsulate (pair.offer side.other) (pair.random side 1) = .ok (pair.answer side) ∧
      Kem.decapsulate (Kem.generate (pair.random side.other 0)).2 (pair.answer side).1 =
        .ok (pair.answer side).2 := by
  obtain ⟨ciphertext, secret, encapsulated, decapsulated⟩ :=
    Kem.encapsulate_generate kem (pair.random side.other 0) (pair.random side 1)
  have found : pair.answer side = (ciphertext, secret) := by
    rw [answer, offer, encapsulated]
  rw [found]
  exact ⟨encapsulated, decapsulated⟩

include honest in
theorem transcript_eq (side : Side) : pair.transcript side.other = pair.transcript side := by
  unfold transcript
  rw [Side.other_other, buildTranscript_comm (honest.ids_ne side)]

include honest in
theorem keys_eq (side : Side) : pair.keys side.other = pair.keys side := by
  unfold keys
  rw [transcript_eq honest, Side.other_other, combineSharedSecrets_comm (honest.ids_ne side)]

include honest in
theorem Honest.sendKey_eq (side : Side) :
    (pair.result side).sendKey = (pair.result side.other).recvKey := by
  have selected := selectKeys_comm (honest.ids_ne side) (pair.keys side)
  change (selectKeys (pair.keys side) _ _).1 = (selectKeys (pair.keys side.other) _ _).2
  rw [keys_eq honest side, Side.other_other]
  exact congrArg Prod.fst selected

theorem onFrame_hello (roundTrip : VerifyingKeyRoundTrip) (side : Side)
    (named : (utf8Bytes (pair.identity side.other).user.userName).length ≤ maxUserName)
    (expected : ∀ peer, pair.expected side = some peer →
      peer = (pair.identity side.other).peerId) :
    (pair.initial side).onFrame (pair.identity side) (pair.frameAt side.other 0)
        (pair.random side 0) =
      (pair.afterHello side).send [pair.frameAt side 1] := by
  have decoded := decodeHello_encodeHello roundTrip (pair.identity side.other) named
  have unexpected : ((pair.initial side).expectedPeer.any fun expected =>
      expected ≠ (pair.identity side.other).peerId) = false := by
    change ((pair.expected side).any fun expected => _) = false
    cases expects : pair.expected side with
    | none => rfl
    | some peer =>
        rw [Option.any_some, expected peer expects]
        simp only [ne_eq, not_true, decide_false]
  simp only [Handshake.onFrame, frameAt, Frame.handshake, Handshake.onHello, decoded,
    ← (pair.identity side.other).peerId_eq, unexpected]
  rfl

theorem onFrame_offer (kem : KemCorrect) (side : Side) :
    (pair.afterHello side).onFrame (pair.identity side) (pair.frameAt side.other 1)
        (pair.random side 1) =
      (pair.afterOffer side).send [pair.frameAt side 2] := by
  have encapsulated := (answer_spec pair kem side).1
  simp only [Handshake.onFrame, frameAt, Frame.handshake, Handshake.onKemOffer, encapsulated]
  rfl

theorem onFrame_response (kem : KemCorrect) (side : Side) :
    (pair.afterOffer side).onFrame (pair.identity side) (pair.frameAt side.other 2)
        (pair.random side 2) =
      { handshake := pair.afterResponse side
        outcome := .ok (.frames [pair.frameAt side 3])
        signed := [.auth (pair.transcript side)] } := by
  have decapsulated := (answer_spec pair kem side.other).2
  rw [Side.other_other] at decapsulated
  have opened : (pair.afterOffer side).kemDk = some (Kem.generate (pair.random side 0)).2 := rfl
  have answered : (pair.afterOffer side).myResponsePayload.isSome = true := rfl
  simp only [Handshake.onFrame, frameAt, Frame.handshake, Handshake.onKemResponse, opened,
    decapsulated, answered, if_true, Handshake.finishKem]
  rfl

theorem onFrame_auth (side : Side) {sig : Bytes}
    (verified : Mldsa.verify (pair.helloOf side.other).pubkey
      (authMessage (pair.transcript side)) sig = true) :
    (pair.afterResponse side).onFrame (pair.identity side) (.handshake .auth sig)
        (pair.random side 3) =
      (pair.afterAuth side).send [pair.frameAt side 4] := by
  have hasTranscript : (pair.afterResponse side).transcript = some (pair.transcript side) := rfl
  have hasHello : (pair.afterResponse side).peerHello = some (pair.helloOf side.other) := rfl
  simp only [Handshake.onFrame, frameAt, Frame.handshake, Handshake.onAuth, hasTranscript,
    hasHello, verified]
  rfl

/-- A side accepts its own Ready as well. -/
theorem onFrame_ready (side : Side) :
    (pair.afterAuth side).onFrame (pair.identity side) (pair.frameAt side 4)
        (pair.random side 4) =
      { handshake := pair.afterReady side
        outcome := .ok (.established (pair.result side))
        signed := [] } := by
  have sized : Octets.ofBytes? 16 (pair.keys side).sessionId.toList =
      some (pair.keys side).sessionId := Octets.ofBytes?_toList _
  have hasKeys : (pair.afterAuth side).keys = some (pair.keys side) := rfl
  have hasPeer : (pair.afterAuth side).peerId = some (pair.identity side.other).peerId := rfl
  have hasHello : (pair.afterAuth side).peerHello = some (pair.helloOf side.other) := rfl
  simp only [Handshake.onFrame, frameAt, Frame.handshake, Handshake.onReady, sized, hasKeys,
    hasPeer, hasHello, ne_eq, not_true, if_false]
  rfl

theorem verify_sig (signatures : SignatureCorrect) (pair : Pair) (side : Side) :
    Mldsa.verify (pair.identity side).verifyingKey (authMessage (pair.transcript side))
      (pair.sig side) = true := by
  rw [(pair.identity side).verifyingKey_eq]
  exact SecretKey.verify_sign signatures _ _ _

include honest in
/-- In its `count`-th state a side accepts the `count`-th frame of the other,
moves on and sends its own next frame. -/
theorem onFrame_expected (roundTrip : VerifyingKeyRoundTrip) (kem : KemCorrect)
    (signatures : SignatureCorrect) (side : Side) {count : Nat} (early : count < 5) :
    (pair.stateAt side count).onFrame (pair.identity side) (pair.frameAt side.other count)
      (pair.random side count) = pair.replyAt side count := by
  match count, early with
  | 0, _ => exact onFrame_hello roundTrip side (honest.named side.other) (honest.expected side)
  | 1, _ => exact onFrame_offer kem side
  | 2, _ => exact onFrame_response kem side
  | 3, _ =>
      refine onFrame_auth side ?_
      rw [← transcript_eq honest side]
      exact verify_sig signatures pair side.other
  | 4, _ =>
      have sameReady : pair.frameAt side.other 4 = pair.frameAt side 4 := by
        change Frame.handshake .ready (pair.keys side.other).sessionId.toList = _
        rw [keys_eq honest side]
        rfl
      rw [sameReady]
      exact onFrame_ready side

theorem length_frameAt_ne (kem : KemCorrect) (pair : Pair) (side : Side)
    (named : (utf8Bytes (pair.identity side).user.userName).length ≤ maxUserName) {count : Nat}
    (other : count ≠ 3) : (pair.frameAt side count).payload.length ≠ Mldsa.sigLen := by
  match count with
  | 0 =>
      have limit : 18 + maxUserName + Mldsa.pubkeyLen < Mldsa.sigLen := by decide
      change (encodeHello _).length ≠ _
      rw [length_encodeHello]
      omega
  | 1 =>
      change (Kem.generate _).1.length ≠ _
      rw [Kem.length_generate]
      decide
  | 2 =>
      have encapsulated := (answer_spec pair kem side).1
      change (pair.answer side).1.length ≠ _
      generalize pair.answer side = found at encapsulated ⊢
      rw [(Kem.length_of_encapsulate_ok encapsulated).2]
      decide
  | 3 => exact absurd rfl other
  | _ + 4 =>
      change (List.Vector.toList _).length ≠ _
      rw [List.Vector.toList_length]
      decide

end Accepted

end Pair

/-! ### The two channels -/

/-- Both machines and the frames on their way to each side.  `rejected` and
`early` record what must not happen: frames `on_frame` did not accept, and
session frames that arrive before the handshake is complete. -/
structure Duplex where
  handshake : Side → Handshake
  calls : Side → Nat
  inbound : Side → List Frame
  rejected : List (Side × Frame)
  early : List (Side × Frame)

inductive DuplexAction where
  | deliver (side : Side)
  /-- An established side sends a session frame. -/
  | session (side : Side) (frame : Frame)

namespace Duplex

variable (pair : Pair)

def start : Duplex :=
  { handshake := pair.initial
    calls := fun _ => 0
    inbound := fun side => [pair.frameAt side.other 0]
    rejected := []
    early := [] }

def isOk : Outcome HandshakeError HandshakeAction → Bool
  | .ok _ => true
  | _ => false

def receive (duplex : Duplex) (side : Side) (frame : Frame) (later : List Frame) : Duplex :=
  let reply := (duplex.handshake side).onFrame (pair.identity side) frame
    (pair.random side (duplex.calls side))
  { handshake := Function.update duplex.handshake side reply.handshake
    calls := Function.update duplex.calls side (duplex.calls side + 1)
    inbound := fun one => if one = side then later else duplex.inbound one ++ reply.frames
    rejected :=
      if isOk reply.outcome then duplex.rejected else duplex.rejected ++ [(side, frame)]
    early := duplex.early }

def step (duplex : Duplex) : DuplexAction → Option Duplex
  | .deliver side =>
      match duplex.inbound side with
      | [] => none
      | frame :: later =>
          if frame.isSessionFrame then
            some
              { duplex with
                inbound := Function.update duplex.inbound side later
                early :=
                  if (duplex.handshake side).step = .established then duplex.early
                  else duplex.early ++ [(side, frame)] }
          else some (duplex.receive pair side frame later)
  | .session side frame =>
      if (duplex.handshake side).step = .established ∧ frame.isSessionFrame then
        some
          { duplex with
            inbound := Function.update duplex.inbound side.other
              (duplex.inbound side.other ++ [frame]) }
      else none

def sent (count : Nat) : Nat := min (count + 1) 5

structure Invariant (duplex : Duplex) : Prop where
  bounded : ∀ side, duplex.calls side ≤ sent (duplex.calls side.other)
  state : ∀ side, duplex.handshake side = pair.stateAt side (duplex.calls side)
  channel : ∀ side, ∃ session : List Frame,
    duplex.inbound side =
        (List.range' (duplex.calls side)
          (sent (duplex.calls side.other) - duplex.calls side)).map (pair.frameAt side.other) ++
        session ∧
      (∀ frame ∈ session, frame.isSessionFrame = true) ∧
      (session ≠ [] → duplex.calls side.other = 5)
  accepted : duplex.rejected = []
  punctual : duplex.early = []

variable {pair}

theorem start_invariant : Invariant pair (start pair) := by
  refine ⟨fun side => Nat.zero_le _, fun side => rfl, fun side => ⟨[], rfl, ?_, ?_⟩, rfl, rfl⟩
  · exact List.forall_mem_nil _
  · intro impossible
    exact absurd rfl impossible

theorem Invariant.calls_le {duplex : Duplex} (invariant : Invariant pair duplex) (side : Side) :
    duplex.calls side ≤ 5 :=
  Nat.le_trans (invariant.bounded side) (Nat.min_le_right _ _)

theorem established_iff (side : Side) {count : Nat} :
    (pair.stateAt side count).step = .established ↔ 5 ≤ count := by
  match count with
  | 0 => exact iff_of_false (fun impossible => nomatch impossible) (by decide)
  | 1 => exact iff_of_false (fun impossible => nomatch impossible) (by decide)
  | 2 => exact iff_of_false (fun impossible => nomatch impossible) (by decide)
  | 3 => exact iff_of_false (fun impossible => nomatch impossible) (by decide)
  | 4 => exact iff_of_false (fun impossible => nomatch impossible) (by decide)
  | count + 5 => exact iff_of_true rfl (Nat.le_add_left 5 count)

theorem frameAt_not_session (side : Side) (count : Nat) :
    (pair.frameAt side count).isSessionFrame = false := by
  match count with
  | 0 => rfl
  | 1 => rfl
  | 2 => rfl
  | 3 => rfl
  | count + 4 => rfl

theorem session_invariant {duplex : Duplex} (invariant : Invariant pair duplex) {side : Side}
    {frame : Frame} (established : (duplex.handshake side).step = .established)
    (typed : frame.isSessionFrame = true) :
    Invariant pair
      { duplex with
        inbound := Function.update duplex.inbound side.other
          (duplex.inbound side.other ++ [frame]) } := by
  have finished : duplex.calls side = 5 := by
    rw [invariant.state side, established_iff] at established
    have limit := invariant.calls_le side
    omega
  refine ⟨invariant.bounded, invariant.state, ?_, invariant.accepted, invariant.punctual⟩
  intro one
  obtain ⟨session, same, typedAll, done⟩ := invariant.channel one
  rcases Side.eq_or_eq_other side one with rfl | rfl
  · refine ⟨session, ?_, typedAll, done⟩
    simp only [Function.update_of_ne one.other_ne.symm]
    exact same
  · refine ⟨session ++ [frame], ?_, ?_, ?_⟩
    · simp only [Function.update_self]
      rw [same, List.append_assoc]
    · intro other member
      rcases List.mem_append.mp member with before | added
      · exact typedAll other before
      · rw [List.mem_singleton.mp added]
        exact typed
    · intro _
      rw [Side.other_other]
      exact finished

/-- What is in the channel to a side comes next from the other: its next
handshake frame, or a session frame once both sides are through. -/
theorem Invariant.head {duplex : Duplex} (invariant : Invariant pair duplex) {side : Side}
    {frame : Frame} {later : List Frame} (inbound : duplex.inbound side = frame :: later) :
    (frame = pair.frameAt side.other (duplex.calls side) ∧
      duplex.calls side < sent (duplex.calls side.other)) ∨
    (frame.isSessionFrame = true ∧ duplex.calls side = 5 ∧ duplex.calls side.other = 5) := by
  obtain ⟨session, same, typed, done⟩ := invariant.channel side
  rw [inbound] at same
  cases waiting : sent (duplex.calls side.other) - duplex.calls side with
  | zero =>
      rw [waiting, List.range'_zero, List.map_nil, List.nil_append] at same
      have finished := done (by rw [← same]; exact List.cons_ne_nil _ _)
      have bounded := invariant.bounded side
      rw [finished] at waiting bounded
      have five : sent 5 = 5 := rfl
      exact .inr ⟨typed frame (by rw [← same]; exact List.mem_cons_self), by omega, finished⟩
  | succ count =>
      rw [waiting, List.range'_succ, List.map_cons, List.cons_append] at same
      exact .inl ⟨(List.cons.inj same).1, by omega⟩

theorem deliver_session_invariant {duplex : Duplex} (invariant : Invariant pair duplex)
    {side : Side} {frame : Frame} {later : List Frame}
    (inbound : duplex.inbound side = frame :: later) (typed : frame.isSessionFrame = true) :
    Invariant pair
      { duplex with
        inbound := Function.update duplex.inbound side later
        early :=
          if (duplex.handshake side).step = .established then duplex.early
          else duplex.early ++ [(side, frame)] } := by
  rcases invariant.head inbound with ⟨handshake, -⟩ | ⟨-, finished, finished'⟩
  · rw [handshake, frameAt_not_session] at typed
    cases typed
  · have established : (duplex.handshake side).step = .established := by
      rw [invariant.state side, finished]
      rfl
    refine ⟨invariant.bounded, invariant.state, ?_, invariant.accepted, ?_⟩
    · intro one
      obtain ⟨session, same, typedAll, done⟩ := invariant.channel one
      rcases Side.eq_or_eq_other side one with rfl | rfl
      · rw [inbound, finished, finished'] at same
        have rest : frame :: later = session := same
        refine ⟨later, ?_, ?_, fun _ => finished'⟩
        · simp only [Function.update_self, finished, finished']
          rfl
        · intro other member
          exact typedAll other (by rw [← rest]; exact List.mem_cons_of_mem _ member)
      · refine ⟨session, ?_, typedAll, done⟩
        simp only [Function.update_of_ne side.other_ne]
        exact same
    · rw [if_pos established]
      exact invariant.punctual

omit [Crates] in
theorem sent_succ {count : Nat} (early : count < 5) :
    sent (count + 1) = sent count + (if count < 4 then 1 else 0) := by
  unfold sent
  split
  · omega
  · omega

theorem channel_extend (side : Side) {count other : Nat} (early : count < 5)
    (bounded : other ≤ sent count) :
    (List.range' other (sent count - other)).map (pair.frameAt side) ++
        (pair.replyAt side count).frames =
      (List.range' other (sent (count + 1) - other)).map (pair.frameAt side) := by
  have more := sent_succ early
  by_cases last : count < 4
  · have frames : (pair.replyAt side count).frames = [pair.frameAt side (count + 1)] := by
      simp only [Handshake.Reply.frames, Pair.replyAt, if_pos last]
    have position : other + (sent count - other) = count + 1 := by
      unfold sent at bounded ⊢
      omega
    have longer : sent (count + 1) - other = sent count - other + 1 := by
      rw [if_pos last] at more
      omega
    rw [frames, longer, List.range'_1_concat, List.map_append, List.map_singleton, position]
  · have frames : (pair.replyAt side count).frames = [] := by
      simp only [Handshake.Reply.frames, Pair.replyAt, if_neg last]
    rw [if_neg last] at more
    have same : sent (count + 1) = sent count := more
    rw [frames, List.append_nil, same]

theorem receive_invariant (honest : pair.Honest) (roundTrip : VerifyingKeyRoundTrip)
    (kem : KemCorrect) (signatures : SignatureCorrect) {duplex : Duplex}
    (invariant : Invariant pair duplex) {side : Side} {later : List Frame}
    (inbound : duplex.inbound side = pair.frameAt side.other (duplex.calls side) :: later)
    (waiting : duplex.calls side < sent (duplex.calls side.other)) :
    Invariant pair
      (duplex.receive pair side (pair.frameAt side.other (duplex.calls side)) later) := by
  have early : duplex.calls side < 5 := Nat.lt_of_lt_of_le waiting (Nat.min_le_right _ _)
  have reply := Pair.onFrame_expected honest roundTrip kem signatures side early
  unfold receive
  rw [invariant.state side, reply]
  have more := sent_succ early
  refine ⟨?_, ?_, ?_, ?_, invariant.punctual⟩
  · intro one
    rcases Side.eq_or_eq_other side one with rfl | rfl
    · simp only [Function.update_self, Function.update_of_ne one.other_ne]
      omega
    · have bounded := invariant.bounded side.other
      rw [Side.other_other] at bounded
      simp only [Side.other_other, Function.update_self, Function.update_of_ne side.other_ne]
      omega
  · intro one
    rcases Side.eq_or_eq_other side one with rfl | rfl
    · simp only [Function.update_self]
      rfl
    · simp only [Function.update_of_ne side.other_ne]
      exact invariant.state side.other
  · intro one
    obtain ⟨session, same, typed, done⟩ := invariant.channel one
    rcases Side.eq_or_eq_other side one with rfl | rfl
    · refine ⟨session, ?_, typed, ?_⟩
      · have count : sent (duplex.calls one.other) - duplex.calls one =
            sent (duplex.calls one.other) - (duplex.calls one + 1) + 1 := by omega
        rw [inbound, count, List.range'_succ, List.map_cons, List.cons_append] at same
        simp only [Function.update_self, Function.update_of_ne one.other_ne, if_true]
        exact (List.cons.inj same).2
      · simp only [Function.update_of_ne one.other_ne]
        exact done
    · rw [Side.other_other] at same done
      have none : session = [] := by
        by_contra some
        have finished := done some
        omega
      refine ⟨[], ?_, List.forall_mem_nil _, fun impossible => absurd rfl impossible⟩
      have bounded := invariant.bounded side.other
      rw [Side.other_other] at bounded
      simp only [Side.other_other, Function.update_self, Function.update_of_ne side.other_ne,
        if_neg side.other_ne, List.append_nil]
      rw [same, none, List.append_nil]
      exact channel_extend side early bounded
  · have accepted : isOk (pair.replyAt side (duplex.calls side)).outcome = true := by
      unfold Pair.replyAt
      simp only
      split
      · rfl
      · rfl
    simp only [accepted, if_true]
    exact invariant.accepted

theorem step_invariant (honest : pair.Honest) (roundTrip : VerifyingKeyRoundTrip)
    (kem : KemCorrect) (signatures : SignatureCorrect) (duplex : Duplex) (action : DuplexAction)
    (next : Duplex) (invariant : Invariant pair duplex)
    (stepped : duplex.step pair action = some next) : Invariant pair next := by
  cases action with
  | deliver side =>
      simp only [step] at stepped
      split at stepped
      · cases stepped
      · rename_i frame later inbound
        split at stepped
        · rename_i typed
          cases stepped
          exact deliver_session_invariant invariant inbound typed
        · rename_i notSession
          cases stepped
          rcases invariant.head inbound with ⟨same, waiting⟩ | ⟨typed, -⟩
          · rw [same] at inbound ⊢
            exact receive_invariant honest roundTrip kem signatures invariant inbound waiting
          · exact absurd typed notSession
  | session side frame =>
      simp only [step] at stepped
      split at stepped
      · rename_i allowed
        cases stepped
        exact session_invariant invariant allowed.1 allowed.2
      · cases stepped

/-- For every interleaving: `on_frame` accepts every frame, no session frame is
early, and when both channels are empty both sides are established with
complementary results. -/
theorem handshake_completes (roundTrip : VerifyingKeyRoundTrip) (kem : KemCorrect)
    (signatures : SignatureCorrect) (pair : Pair) (honest : pair.Honest)
    (actions : List DuplexAction) (duplex : Duplex)
    (reached : run (step pair) (start pair) actions = some duplex) :
    duplex.rejected = [] ∧ duplex.early = [] ∧
      ((∀ side, duplex.inbound side = []) →
        ∃ left right,
          (duplex.handshake .left).step = .established ∧
          (duplex.handshake .right).step = .established ∧
          (duplex.handshake .left).result = some left ∧
          (duplex.handshake .right).result = some right ∧
          left.keys.sessionId = right.keys.sessionId ∧
          left.sendKey = right.recvKey ∧ left.recvKey = right.sendKey) := by
  have invariant : Invariant pair duplex :=
    run_preserved (step_invariant honest roundTrip kem signatures) start_invariant reached
  refine ⟨invariant.accepted, invariant.punctual, ?_⟩
  intro silent
  have drained (side : Side) : sent (duplex.calls side.other) - duplex.calls side = 0 := by
    obtain ⟨session, same, -, -⟩ := invariant.channel side
    rw [silent side] at same
    have empty := (List.append_eq_nil_iff.mp same.symm).1
    have size := congrArg List.length empty
    rw [List.length_map, List.length_range'] at size
    exact size
  have left := drained .left
  have right := drained .right
  have leftBound := invariant.bounded .left
  have rightBound := invariant.bounded .right
  simp only [Side.other, sent] at left right leftBound rightBound
  have leftDone : duplex.calls .left = 5 := by omega
  have rightDone : duplex.calls .right = 5 := by omega
  have leftState := invariant.state .left
  have rightState := invariant.state .right
  rw [leftDone] at leftState
  rw [rightDone] at rightState
  rw [leftState, rightState]
  have sameKeys : pair.keys .right = pair.keys .left := Pair.keys_eq honest .left
  refine ⟨pair.result .left, pair.result .right, rfl, rfl, rfl, rfl, ?_, ?_, ?_⟩
  · exact congrArg SessionKeys.sessionId sameKeys.symm
  · exact honest.sendKey_eq .left
  · exact (honest.sendKey_eq .right).symm

def pending (duplex : Duplex) (side : Side) : Nat :=
  (duplex.inbound side).length + (5 - sent (duplex.calls side.other))

theorem length_frames_replyAt (side : Side) (count : Nat) :
    (pair.replyAt side count).frames.length = if count < 4 then 1 else 0 := by
  by_cases last : count < 4
  · simp only [Handshake.Reply.frames, Pair.replyAt, if_pos last, List.length_singleton]
  · simp only [Handshake.Reply.frames, Pair.replyAt, if_neg last, List.length_nil]

section Progress

variable (honest : pair.Honest) (roundTrip : VerifyingKeyRoundTrip) (kem : KemCorrect)
  (signatures : SignatureCorrect)

include honest roundTrip kem signatures

theorem exists_deliver {duplex : Duplex} (invariant : Invariant pair duplex) {side : Side}
    {frame : Frame} {later : List Frame} (inbound : duplex.inbound side = frame :: later) :
    ∃ next, duplex.step pair (.deliver side) = some next ∧
      next.pending side + next.pending side.other <
        duplex.pending side + duplex.pending side.other := by
  have size := congrArg List.length inbound
  rw [List.length_cons] at size
  cases typed : frame.isSessionFrame with
  | true =>
      refine ⟨_, by simp only [step, inbound, typed, if_true]; rfl, ?_⟩
      simp only [pending, Function.update_self, Function.update_of_ne side.other_ne]
      omega
  | false =>
      refine ⟨_, by simp only [step, inbound, typed, Bool.false_eq_true, if_false]; rfl, ?_⟩
      rcases invariant.head inbound with ⟨same, waiting⟩ | ⟨session, -⟩
      · have early : duplex.calls side < 5 := Nat.lt_of_lt_of_le waiting (Nat.min_le_right _ _)
        have reply := Pair.onFrame_expected honest roundTrip kem signatures side early
        have more := sent_succ early
        have limit : sent (duplex.calls side + 1) ≤ 5 := Nat.min_le_right _ _
        unfold receive
        rw [same, invariant.state side, reply]
        simp only [pending, Side.other_other, Function.update_self,
          Function.update_of_ne side.other_ne, if_true, if_neg side.other_ne, List.length_append,
          length_frames_replyAt]
        omega
      · rw [typed] at session
        cases session

/-- From every reachable state the handshake can be brought to its end. -/
theorem exists_completion {duplex : Duplex} (invariant : Invariant pair duplex) :
    ∃ actions final, run (step pair) duplex actions = some final ∧
      ∀ side, final.inbound side = [] := by
  induction counted : duplex.pending .left + duplex.pending .right using Nat.strong_induction_on
    generalizing duplex with
  | _ size ih =>
      by_cases silent : ∀ side, duplex.inbound side = []
      · exact ⟨[], duplex, rfl, silent⟩
      · obtain ⟨side, some⟩ := not_forall.mp silent
        obtain ⟨frame, later, inbound⟩ := List.exists_cons_of_ne_nil some
        obtain ⟨next, stepped, fewer⟩ :=
          exists_deliver honest roundTrip kem signatures invariant inbound
        have smaller : next.pending .left + next.pending .right < size := by
          cases side with
          | left =>
              simp only [Side.other] at fewer
              omega
          | right =>
              simp only [Side.other] at fewer
              omega
        obtain ⟨actions, final, reached, done⟩ := ih _ smaller
          (step_invariant honest roundTrip kem signatures duplex _ next invariant stepped) rfl
        exact ⟨.deliver side :: actions, final, by rw [run_cons_of_step stepped]; exact reached,
          done⟩

end Progress

noncomputable def samplePair (digest : Bytes) : @Pair (symbolicCrates digest []) :=
  letI := symbolicCrates digest []
  let identity : Side → DeviceIdentity
    | .left => Symbolic.device digest [] 5 "alice"
    | .right => Symbolic.device digest [] 6 "bob"
  { identity := identity
    expected := fun
      | .left => some (identity .right).peerId
      | .right => none
    startedAt := fun _ => 0
    random := fun side count =>
      match side with
      | .left => [1, UInt8.ofNat count]
      | .right => [2, UInt8.ofNat count] }

omit [Crates] in
theorem samplePair_honest (digest : Bytes) :
    @Pair.Honest (symbolicCrates digest []) (samplePair digest) := by
  let _ := symbolicCrates digest []
  refine ⟨Symbolic.device_peerId_ne digest [] (by decide) _ _, ?_, ?_⟩
  · intro side
    cases side with
    | left =>
        change (utf8Bytes "alice").length ≤ maxUserName
        decide
    | right =>
        change (utf8Bytes "bob").length ≤ maxUserName
        decide
  · intro side peer expects
    cases side with
    | left => exact (Option.some.inj expects).symm
    | right => cases expects

omit [Crates] in
theorem handshake_completes_sample :
    letI := symbolicCrates [] []
    ∃ actions duplex, run (step (samplePair [])) (start (samplePair [])) actions = some duplex ∧
      duplex.rejected = [] ∧ (duplex.handshake .left).step = .established := by
  let _ := symbolicCrates [] []
  have roundTrip := Symbolic.verifyingKeyRoundTrip [] []
  have kem := Symbolic.kemCorrect [] []
  have signatures := Symbolic.signatureCorrect [] []
  have honest := samplePair_honest []
  obtain ⟨actions, duplex, reached, silent⟩ :=
    exists_completion honest roundTrip kem signatures start_invariant
  have completes := handshake_completes roundTrip kem signatures (samplePair []) honest actions
    duplex reached
  obtain ⟨_, _, established, -⟩ := completes.2.2 silent
  exact ⟨actions, duplex, reached, completes.1, established⟩

end Duplex

end JeanGrey
