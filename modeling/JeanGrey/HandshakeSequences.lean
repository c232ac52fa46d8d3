/-
What a handshake instance does with whatever frames it is fed.

`feed` is the instance after any sequence of frames, errors included, and
`replies` is what it answered.  An instance never panics, a rejected frame
leaves it as it was, and it returns one result at most.

The two halves of the key exchange are not interchangeable: an instance that
takes the response before the offer records both and then stops.  Nor does an
instance tell its own frames from those of a peer.
-/

import JeanGrey.HandshakeDuplex
import JeanGrey.HandshakeInvariant

namespace JeanGrey

open Crates Runs

variable [Crates]

namespace Handshake

/-- The replies of one instance to the frames it receives, with the random bytes
it draws. -/
def replies (identity : DeviceIdentity) : Handshake → List (Frame × Bytes) → List Reply
  | _, [] => []
  | handshake, (frame, random) :: later =>
      let reply := handshake.onFrame identity frame random
      reply :: replies identity reply.handshake later

def feed (identity : DeviceIdentity) : Handshake → List (Frame × Bytes) → Handshake
  | handshake, [] => handshake
  | handshake, (frame, random) :: later =>
      feed identity (handshake.onFrame identity frame random).handshake later

variable {identity : DeviceIdentity} {handshake : Handshake} {frame : Frame} {random : Bytes}
  {reply : Reply}

/-! ### One frame more -/

theorem feed_append (identity : DeviceIdentity) (handshake : Handshake)
    (frames more : List (Frame × Bytes)) :
    handshake.feed identity (frames ++ more) =
      (handshake.feed identity frames).feed identity more := by
  induction frames generalizing handshake with
  | nil => rfl
  | cons head later ih => exact ih _

theorem replies_append (identity : DeviceIdentity) (handshake : Handshake)
    (frames more : List (Frame × Bytes)) :
    handshake.replies identity (frames ++ more) =
      handshake.replies identity frames ++
        (handshake.feed identity frames).replies identity more := by
  induction frames generalizing handshake with
  | nil => rfl
  | cons head later ih => exact congrArg (List.cons _) (ih _)

theorem feed_consistent (consistent : Consistent identity handshake)
    (frames : List (Frame × Bytes)) : Consistent identity (handshake.feed identity frames) := by
  induction frames generalizing handshake with
  | nil => exact consistent
  | cons head later ih => exact ih ((onFrame_transition consistent).consistent consistent)

/-- Every reply is the reply to one of the frames, in the state the frames
before it lead to. -/
theorem exists_of_mem_replies {frames : List (Frame × Bytes)}
    (member : reply ∈ handshake.replies identity frames) :
    ∃ before fed after, frames = before ++ fed :: after ∧
      reply = (handshake.feed identity before).onFrame identity fed.1 fed.2 := by
  induction frames generalizing handshake with
  | nil => cases member
  | cons head later ih =>
      rcases List.mem_cons.mp member with rfl | among
      · exact ⟨[], head, later, rfl, rfl⟩
      · obtain ⟨before, fed, after, rfl, replied⟩ := ih among
        exact ⟨head :: before, fed, after, rfl, replied⟩

/-- An instance of a pair that accepts a sequence of frames as its script says
goes through the states of the script. -/
theorem feed_script {pair : Pair} {side : Side} {frames : Nat → Frame} {count : Nat}
    (accepts : ∀ index < count, (pair.stateAt side index).onFrame (pair.identity side)
      (frames index) (pair.random side index) = pair.replyAt side index) :
    (pair.initial side).feed (pair.identity side)
        ((List.range count).map fun index => (frames index, pair.random side index)) =
      pair.stateAt side count ∧
    (pair.initial side).replies (pair.identity side)
        ((List.range count).map fun index => (frames index, pair.random side index)) =
      (List.range count).map (pair.replyAt side) := by
  induction count with
  | zero => exact ⟨rfl, rfl⟩
  | succ count ih =>
      obtain ⟨reached, replied⟩ := ih fun index early => accepts index (Nat.lt_succ_of_lt early)
      have next := accepts count (Nat.lt_succ_self count)
      rw [List.range_succ, List.map_append, List.map_append, feed_append, replies_append, reached,
        replied]
      simp only [List.map_cons, List.map_nil, feed, replies, next]
      exact ⟨rfl, trivial⟩

/-! ### Failed frames -/

/-- A reply that is an error leaves the instance alone, and there is no panic. -/
theorem Transition.atomic (transition : Transition identity handshake frame random reply) :
    reply.outcome ≠ .panic ∧
      ∀ error, reply.outcome = .err error → reply.handshake = handshake := by
  cases transition with
  | rejected error => exact ⟨nofun, fun _ _ => rfl⟩
  | hello => exact ⟨nofun, nofun⟩
  | offer => exact ⟨nofun, nofun⟩
  | earlyResponse => exact ⟨nofun, nofun⟩
  | response => exact ⟨nofun, nofun⟩
  | auth => exact ⟨nofun, nofun⟩
  | ready => exact ⟨nofun, nofun⟩

/-- Whatever an instance has been fed, the next frame makes no `unwrap` fail,
and if it is rejected, every field stays as it was. -/
theorem onFrame_failure_atomic (identity : DeviceIdentity) (expectedPeer : Option PeerId)
    (now : Nat) (frames : List (Frame × Bytes)) (frame : Frame) (random : Bytes) :
    let reached := (new identity expectedPeer now).1.feed identity frames
    (reached.onFrame identity frame random).outcome ≠ .panic ∧
      ∀ error, (reached.onFrame identity frame random).outcome = .err error →
        (reached.onFrame identity frame random).handshake = reached := by
  intro reached
  have consistent : Consistent identity reached :=
    feed_consistent (new_consistent identity expectedPeer now) frames
  exact (onFrame_transition consistent).atomic

/-! ### The order of the key exchange -/

/-- No offer comes after a response. -/
def OfferFirst (types : List MessageType) : Prop :=
  types.Pairwise fun earlier later => ¬(earlier = .kemResponse ∧ later = .kemOffer)

/-- Once both secrets are recorded, the transcript and the keys are computed and
the Auth is out. -/
def Settled (handshake : Handshake) (sent : List Frame) : Prop :=
  handshake.ssToPeer.isSome → handshake.ssFromPeer.isSome →
    handshake.transcript.isSome ∧ handshake.keys.isSome ∧ ∃ sig, .handshake .auth sig ∈ sent

/-- Both secrets are recorded and nothing comes of them. -/
structure Stalled (handshake : Handshake) : Prop where
  toPeer : handshake.ssToPeer.isSome
  fromPeer : handshake.ssFromPeer.isSome
  transcript : handshake.transcript = none

theorem Stalled.not_settled {sent : List Frame} (stalled : Stalled handshake) :
    ¬Settled handshake sent := by
  intro settled
  have computed := (settled stalled.toPeer stalled.fromPeer).1
  rw [stalled.transcript] at computed
  cases computed

/-- What an instance that has accepted frames of these types has recorded. -/
structure Ordered (types : List MessageType) (handshake : Handshake) (sent : List Frame) :
    Prop where
  offered : handshake.ssToPeer.isSome ↔ .kemOffer ∈ types
  answered : handshake.ssFromPeer.isSome ↔ .kemResponse ∈ types
  settled : OfferFirst types → Settled handshake sent
  stalled : ¬OfferFirst types → Stalled handshake

variable {types : List MessageType} {last : MessageType} {sent : List Frame}

omit [Crates] in
theorem offerFirst_concat :
    OfferFirst (types ++ [last]) ↔
      OfferFirst types ∧ (last = .kemOffer → .kemResponse ∉ types) := by
  unfold OfferFirst
  rw [List.pairwise_append]
  constructor
  · rintro ⟨before, -, across⟩
    refine ⟨before, ?_⟩
    intro isOffer member
    exact across _ member _ (List.mem_singleton_self _) ⟨rfl, isOffer⟩
  · rintro ⟨before, fresh⟩
    refine ⟨before, List.pairwise_singleton _ _, ?_⟩
    rintro earlier member later isLast ⟨rfl, rfl⟩
    exact fresh (List.mem_singleton.mp isLast).symm member

omit [Crates] in
theorem mem_concat_of_ne {wanted : MessageType} (other : last ≠ wanted) :
    wanted ∈ types ++ [last] ↔ wanted ∈ types := by
  rw [List.mem_append, List.mem_singleton]
  exact or_iff_left fun same => other same.symm

theorem Ordered.stalled_before_response (ordered : Ordered types handshake sent)
    (wrong : ¬OfferFirst (types ++ [.kemResponse])) : Stalled handshake := by
  apply ordered.stalled
  intro first
  apply wrong
  refine offerFirst_concat.mpr ⟨first, ?_⟩
  intro impossible
  cases impossible

theorem Ordered.keep (ordered : Ordered types handshake sent) {next : Handshake}
    {more : List Frame} (notOffer : last ≠ .kemOffer) (notResponse : last ≠ .kemResponse)
    (toPeer : next.ssToPeer = handshake.ssToPeer)
    (fromPeer : next.ssFromPeer = handshake.ssFromPeer)
    (transcript : next.transcript = handshake.transcript) (keys : next.keys = handshake.keys) :
    Ordered (types ++ [last]) next (sent ++ more) := by
  have same : OfferFirst (types ++ [last]) ↔ OfferFirst types := by
    rw [offerFirst_concat]
    exact and_iff_left fun isOffer => absurd isOffer notOffer
  refine ⟨?_, ?_, fun first => ?_, fun wrong => ?_⟩
  · rw [toPeer, mem_concat_of_ne notOffer]
    exact ordered.offered
  · rw [fromPeer, mem_concat_of_ne notResponse]
    exact ordered.answered
  · intro hasTo hasFrom
    rw [toPeer] at hasTo
    rw [fromPeer] at hasFrom
    obtain ⟨hasTranscript, hasKeys, sig, member⟩ := ordered.settled (same.mp first) hasTo hasFrom
    rw [transcript, keys]
    exact ⟨hasTranscript, hasKeys, sig, List.mem_append_left more member⟩
  · obtain ⟨hasTo, hasFrom, nothing⟩ := ordered.stalled (mt same.mpr wrong)
    exact ⟨toPeer ▸ hasTo, fromPeer ▸ hasFrom, transcript.trans nothing⟩

theorem ssToPeer_none (consistent : Consistent identity handshake)
    (missing : handshake.peerOfferPayload = none ∨ handshake.myResponsePayload = none) :
    handshake.ssToPeer = none := by
  rcases consistent.offer with ⟨-, absent, -⟩ | ⟨_, _, _, _, offered, -, -, answered⟩
  · exact absent
  · rw [offered, answered] at missing
    exact missing.elim nofun nofun

theorem ssFromPeer_none (consistent : Consistent identity handshake)
    (missing : handshake.peerResponsePayload = none) : handshake.ssFromPeer = none := by
  rcases consistent.response with ⟨-, absent⟩ | ⟨_, _, _, responded, -, -, -⟩
  · exact absent
  · rw [responded] at missing
    cases missing

theorem Ordered.advance (ordered : Ordered types handshake sent)
    (consistent : Consistent identity handshake)
    (transition : Transition identity handshake frame random reply)
    (accepted : reply.outcome.isOk = true) :
    Ordered (types ++ [frame.msgType]) reply.handshake (sent ++ reply.frames) := by
  cases transition with
  | rejected error => cases accepted
  | hello typed fresh decoded expected =>
      refine ordered.keep ?_ ?_ rfl rfl rfl rfl
      · rw [typed]
        exact nofun
      · rw [typed]
        exact nofun
  | offer typed hasHello fresh encapsulated =>
      have notYet := ssToPeer_none consistent (.inl fresh)
      have ordering : OfferFirst types := by
        by_contra wrong
        have recorded := (ordered.stalled wrong).toPeer
        rw [notYet] at recorded
        cases recorded
      rw [typed]
      refine ⟨iff_of_true rfl (List.mem_append_right _ (List.mem_singleton_self _)), ?_,
        fun first => ?_, fun wrong => ?_⟩
      · rw [mem_concat_of_ne (show MessageType.kemOffer ≠ .kemResponse from nofun)]
        exact ordered.answered
      · intro _ hasFrom
        exact absurd (ordered.answered.mp hasFrom) ((offerFirst_concat.mp first).2 rfl)
      · have responded : .kemResponse ∈ types := by
          by_contra absent
          exact wrong (offerFirst_concat.mpr ⟨ordering, fun _ => absent⟩)
        exact ⟨rfl, ordered.answered.mpr responded,
          (transcript_none consistent (.inr (.inl fresh))).1⟩
  | earlyResponse typed hasHello fresh hasKey decapsulated unanswered =>
      have notYet := ssToPeer_none consistent (.inr unanswered)
      rw [typed]
      refine ⟨?_, iff_of_true rfl (List.mem_append_right _ (List.mem_singleton_self _)),
        fun first => ?_, fun wrong => ?_⟩
      · rw [mem_concat_of_ne (show MessageType.kemResponse ≠ .kemOffer from nofun)]
        exact ordered.offered
      · intro hasTo _
        change handshake.ssToPeer.isSome at hasTo
        rw [notYet] at hasTo
        cases hasTo
      · have recorded := (ordered.stalled_before_response wrong).toPeer
        rw [notYet] at recorded
        cases recorded
  | response typed hasHello fresh hasKey decapsulated agreed =>
      rw [typed]
      refine ⟨?_, iff_of_true rfl (List.mem_append_right _ (List.mem_singleton_self _)),
        fun _ _ _ => ?_, fun wrong => ?_⟩
      · rw [mem_concat_of_ne (show MessageType.kemResponse ≠ .kemOffer from nofun)]
        exact ordered.offered
      · exact ⟨rfl, rfl, _, List.mem_append_right _ (List.mem_singleton_self _)⟩
      · have recorded := (ordered.stalled_before_response wrong).fromPeer
        rw [ssFromPeer_none consistent fresh] at recorded
        cases recorded
  | auth typed unverified hasTranscript hasHello hasKeys verified =>
      refine ordered.keep ?_ ?_ rfl rfl rfl rfl
      · rw [typed]
        exact nofun
      · rw [typed]
        exact nofun
  | ready typed fresh authenticated hasPeer hasHello hasKeys sent =>
      refine ordered.keep ?_ ?_ rfl rfl rfl rfl
      · rw [typed]
        exact nofun
      · rw [typed]
        exact nofun

theorem feed_ordered (ordered : Ordered types handshake sent)
    (consistent : Consistent identity handshake) (frames : List (Frame × Bytes))
    (accepted : ∀ reply ∈ handshake.replies identity frames, reply.outcome.isOk = true) :
    Ordered (types ++ frames.map fun fed => fed.1.msgType) (handshake.feed identity frames)
      (sent ++ (handshake.replies identity frames).flatMap Reply.frames) := by
  induction frames generalizing handshake types sent with
  | nil =>
      rw [List.map_nil, List.append_nil]
      change Ordered types handshake (sent ++ [])
      rw [List.append_nil]
      exact ordered
  | cons head later ih =>
      have transition : Transition identity handshake head.1 head.2
          (handshake.onFrame identity head.1 head.2) := onFrame_transition consistent
      obtain ⟨first, rest⟩ := List.forall_mem_cons.mp accepted
      have after := ih (ordered.advance consistent transition first)
        (transition.consistent consistent) rest
      rw [List.append_assoc, List.append_assoc] at after
      exact after

/-- The order of the key exchange decides whether an instance goes on: when it
has accepted all it was fed, it is settled exactly if no offer came after a
response. -/
theorem settled_iff_offerFirst (identity : DeviceIdentity) (expectedPeer : Option PeerId)
    (now : Nat) (frames : List (Frame × Bytes))
    (accepted : ∀ reply ∈ (new identity expectedPeer now).1.replies identity frames,
      reply.outcome.isOk = true) :
    Settled ((new identity expectedPeer now).1.feed identity frames)
        (((new identity expectedPeer now).1.replies identity frames).flatMap Reply.frames) ↔
      OfferFirst (frames.map fun fed => fed.1.msgType) := by
  have start : Ordered [] (new identity expectedPeer now).1 [] := by
    refine ⟨iff_of_false nofun List.not_mem_nil, iff_of_false nofun List.not_mem_nil, ?_, ?_⟩
    · intro _ impossible
      cases impossible
    · intro wrong
      exact absurd List.Pairwise.nil wrong
  have ordered := feed_ordered start (new_consistent identity expectedPeer now) frames accepted
  rw [List.nil_append, List.nil_append] at ordered
  constructor
  · intro settled
    by_contra wrong
    exact (ordered.stalled wrong).not_settled settled
  · exact ordered.settled

omit [Crates] in
/-- An honest pair keeps to that order. -/
theorem settled_iff_offerFirst_sample :
    letI := symbolicCrates [] []
    letI pair := Duplex.samplePair []
    letI frames := (List.range 3).map fun index =>
      (pair.frameAt .right index, pair.random .left index)
    letI reached := (pair.initial .left).feed (pair.identity .left) frames
    reached.ssToPeer.isSome ∧ reached.ssFromPeer.isSome ∧
      Settled reached
        (((pair.initial .left).replies (pair.identity .left) frames).flatMap Reply.frames) := by
  let _ := symbolicCrates [] []
  let pair := Duplex.samplePair []
  let frames := (List.range 3).map fun index =>
    (pair.frameAt .right index, pair.random .left index)
  have honest : pair.Honest := Duplex.samplePair_honest []
  have accepts : ∀ index < 3, (pair.stateAt .left index).onFrame (pair.identity .left)
      (pair.frameAt .right index) (pair.random .left index) = pair.replyAt .left index := by
    intro index early
    exact Pair.onFrame_expected honest (Symbolic.verifyingKeyRoundTrip [] [])
      (Symbolic.kemCorrect [] []) (Symbolic.signatureCorrect [] []) .left (by omega)
  obtain ⟨reached, replied⟩ := feed_script accepts
  have accepted : ∀ reply ∈ (pair.initial .left).replies (pair.identity .left) frames,
      reply.outcome.isOk = true := by
    intro reply member
    rw [replied] at member
    obtain ⟨index, among, rfl⟩ := List.mem_map.mp member
    have early : index < 4 := Nat.lt_succ_of_lt (List.mem_range.mp among)
    rw [Pair.replyAt, if_pos early]
    rfl
  have types : (frames.map fun fed => fed.1.msgType) = [.hello, .kemOffer, .kemResponse] := rfl
  have settled := (settled_iff_offerFirst (pair.identity .left) (pair.expected .left)
    (pair.startedAt .left) frames accepted).mpr (by
      rw [types]
      unfold OfferFirst
      decide)
  refine ⟨?_, ?_, settled⟩
  · rw [reached]
    rfl
  · rw [reached]
    rfl

/-- No frame moves a stalled instance. -/
theorem Stalled.rejects (stalled : Stalled handshake) (consistent : Consistent identity handshake)
    (frame : Frame) (random : Bytes) :
    ∃ error, handshake.onFrame identity frame random = handshake.fail error := by
  obtain ⟨hasTo, hasFrom, nothing⟩ := stalled
  have offered : handshake.peerOfferPayload ≠ none := by
    intro fresh
    rw [ssToPeer_none consistent (.inl fresh)] at hasTo
    cases hasTo
  have responded : handshake.peerResponsePayload ≠ none := by
    intro fresh
    rw [ssFromPeer_none consistent fresh] at hasFrom
    cases hasFrom
  have greeted : handshake.peerHelloPayload ≠ none := by
    intro fresh
    rcases consistent.response with ⟨absent, -⟩ | ⟨_, _, _, -, opened, -⟩
    · exact responded absent
    · rcases consistent.hello with ⟨-, -, -, closed, -⟩ | ⟨_, _, _, present, -⟩
      · rw [opened] at closed
        cases closed
      · rw [present] at fresh
        cases fresh
  generalize replied : handshake.onFrame identity frame random = reply
  have transition : Transition identity handshake frame random reply :=
    replied ▸ onFrame_transition consistent
  cases transition with
  | rejected error => exact ⟨error, rfl⟩
  | hello typed fresh decoded expected => exact absurd fresh greeted
  | offer typed hasHello fresh encapsulated => exact absurd fresh offered
  | earlyResponse typed hasHello fresh hasKey decapsulated unanswered =>
      exact absurd fresh responded
  | response typed hasHello fresh hasKey decapsulated agreed => exact absurd fresh responded
  | auth typed unverified hasTranscript hasHello hasKeys verified =>
      rw [nothing] at hasTranscript
      cases hasTranscript
  | ready typed fresh authenticated hasPeer hasHello hasKeys sent =>
      obtain ⟨transcript, present⟩ := transcript_of_authenticated consistent authenticated
      rw [nothing] at present
      cases present

def afterResponseFirst (pair : Pair) (side : Side) : Handshake :=
  { pair.afterHello side with
    peerResponsePayload := some (pair.answer side.other).1
    ssFromPeer := some (pair.answer side.other).2 }

def afterOfferLast (pair : Pair) (side : Side) : Handshake :=
  { afterResponseFirst pair side with
    peerOfferPayload := some (pair.offer side.other)
    ssToPeer := some (pair.answer side).2
    myResponsePayload := some (pair.answer side).1 }

theorem onFrame_responseFirst (kem : KemCorrect) (pair : Pair) (side : Side) :
    (pair.afterHello side).onFrame (pair.identity side) (pair.frameAt side.other 2)
        (pair.random side 2) =
      (afterResponseFirst pair side).send [] := by
  have decapsulated := (Pair.answer_spec pair kem side.other).2
  rw [Side.other_other] at decapsulated
  have opened : (pair.afterHello side).kemDk = some (Kem.generate (pair.random side 0)).2 := rfl
  simp only [onFrame, Pair.frameAt, Frame.handshake, onKemResponse, opened, decapsulated]
  rfl

theorem onFrame_offerLast (kem : KemCorrect) (pair : Pair) (side : Side) :
    (afterResponseFirst pair side).onFrame (pair.identity side) (pair.frameAt side.other 1)
        (pair.random side 1) =
      (afterOfferLast pair side).send [pair.frameAt side 2] := by
  have encapsulated := (Pair.answer_spec pair kem side).1
  simp only [onFrame, Pair.frameAt, Frame.handshake, onKemOffer, encapsulated]
  rfl

def responseFirst (pair : Pair) (side : Side) : List (Frame × Bytes) :=
  [(pair.frameAt side.other 0, pair.random side 0), (pair.frameAt side.other 2, pair.random side 2),
    (pair.frameAt side.other 1, pair.random side 1)]

theorem feed_responseFirst (roundTrip : VerifyingKeyRoundTrip) (kem : KemCorrect) {pair : Pair}
    (honest : pair.Honest) (side : Side) :
    (pair.initial side).feed (pair.identity side) (responseFirst pair side) =
      afterOfferLast pair side ∧
    ∀ reply ∈ (pair.initial side).replies (pair.identity side) (responseFirst pair side),
      reply.outcome.isOk = true := by
  have first := Pair.onFrame_hello roundTrip side (honest.named side.other) (honest.expected side)
  have second := onFrame_responseFirst kem pair side
  have third := onFrame_offerLast kem pair side
  constructor
  · simp only [responseFirst, feed, first, send, second, third]
  · simp only [responseFirst, replies, first, send, second, third, List.forall_mem_cons]
    exact ⟨rfl, rfl, rfl, fun _ impossible => (nomatch impossible)⟩

theorem stalled_afterOfferLast (pair : Pair) (side : Side) : Stalled (afterOfferLast pair side) :=
  ⟨rfl, rfl, rfl⟩

omit [Crates] in
/-- A device that is sent the frames of an honest peer with the response before
the offer accepts them all and is stuck for good. -/
theorem response_first_stalls :
    letI := symbolicCrates [] []
    ∃ (identity : DeviceIdentity) (expectedPeer : Option PeerId) (now : Nat)
        (frames : List (Frame × Bytes)),
      (frames.map fun fed => fed.1.msgType) = [.hello, .kemResponse, .kemOffer] ∧
      (∀ reply ∈ (new identity expectedPeer now).1.replies identity frames,
        reply.outcome.isOk = true) ∧
      ¬Settled ((new identity expectedPeer now).1.feed identity frames)
        (((new identity expectedPeer now).1.replies identity frames).flatMap Reply.frames) ∧
      ∀ frame random, ∃ error,
        ((new identity expectedPeer now).1.feed identity frames).onFrame identity frame random =
          ((new identity expectedPeer now).1.feed identity frames).fail error := by
  let _ := symbolicCrates [] []
  let pair := Duplex.samplePair []
  obtain ⟨reached, accepted⟩ := feed_responseFirst (Symbolic.verifyingKeyRoundTrip [] [])
    (Symbolic.kemCorrect [] []) (Duplex.samplePair_honest []) .left
  have stalled : Stalled ((pair.initial .left).feed (pair.identity .left)
      (responseFirst pair .left)) := by
    rw [reached]
    exact stalled_afterOfferLast pair .left
  have consistent : Consistent (pair.identity .left)
      ((pair.initial .left).feed (pair.identity .left) (responseFirst pair .left)) :=
    feed_consistent (new_consistent _ _ _) _
  refine ⟨pair.identity .left, pair.expected .left, pair.startedAt .left,
    responseFirst pair .left, rfl, accepted, stalled.not_settled, stalled.rejects consistent⟩

/-! ### Reflection -/

/-- The instance takes a Hello with the Peer ID: it has none yet and expects nobody else. -/
def Awaits (handshake : Handshake) (peer : PeerId) : Prop :=
  handshake.peerHelloPayload = none ∧
    ∀ expected, handshake.expectedPeer = some expected → expected = peer

/-- The frame is not a Hello of the instance itself that it would take. -/
def NotOwnHello (identity : DeviceIdentity) (handshake : Handshake) (frame : Frame) : Prop :=
  handshake.Awaits identity.peerId → frame.msgType = .hello →
    ∀ hello, decodeHello frame.payload = some hello → peerIdOf hello.pubkey ≠ identity.peerId

/-- None of the frames is one when its turn comes. -/
def Unreflected (identity : DeviceIdentity) : Handshake → List (Frame × Bytes) → Prop
  | _, [] => True
  | handshake, (frame, random) :: later =>
      NotOwnHello identity handshake frame ∧
        Unreflected identity (handshake.onFrame identity frame random).handshake later

theorem notOwnHello_frameAt (roundTrip : VerifyingKeyRoundTrip) {pair : Pair} (honest : pair.Honest)
    (side : Side) (count : Nat) :
    NotOwnHello (pair.identity side) handshake (pair.frameAt side.other count) := by
  intro _ typed hello decoded
  match count with
  | 0 =>
      rw [pubkey_of_decodeHello_encodeHello roundTrip decoded,
        ← (pair.identity side.other).peerId_eq]
      exact (honest.ids_ne side).symm
  | 1 | 2 | 3 | _ + 4 => cases typed

theorem unreflected_append {frames more : List (Frame × Bytes)} :
    Unreflected identity handshake (frames ++ more) ↔
      Unreflected identity handshake frames ∧
        Unreflected identity (handshake.feed identity frames) more := by
  induction frames generalizing handshake with
  | nil => exact (iff_of_eq (true_and _)).symm
  | cons head later ih => exact (and_congr_right fun _ => ih).trans and_assoc.symm

theorem Transition.peerId_ne (transition : Transition identity handshake frame random reply)
    (foreign : NotOwnHello identity handshake frame)
    (other : handshake.peerId ≠ some identity.peerId) :
    reply.handshake.peerId ≠ some identity.peerId := by
  cases transition with
  | hello typed fresh decoded expected =>
      intro known
      have same := Option.some.inj known
      refine foreign ⟨fresh, fun peer wanted => ?_⟩ typed _ decoded same
      rw [← same]
      exact expected peer wanted
  | _ => exact other

theorem feed_peerId_ne (consistent : Consistent identity handshake)
    (other : handshake.peerId ≠ some identity.peerId) {frames : List (Frame × Bytes)}
    (foreign : Unreflected identity handshake frames) :
    (handshake.feed identity frames).peerId ≠ some identity.peerId := by
  induction frames generalizing handshake with
  | nil => exact other
  | cons head later ih =>
      obtain ⟨first, rest⟩ := foreign
      have transition : Transition identity handshake head.1 head.2
          (handshake.onFrame identity head.1 head.2) := onFrame_transition consistent
      exact ih (transition.consistent consistent) (transition.peerId_ne first other) rest

/-- An instance that never takes its own Hello never completes a handshake with
itself, whatever else it is sent. -/
theorem reflection_resisted (identity : DeviceIdentity) (now : Nat)
    (frames : List (Frame × Bytes))
    (foreign : Unreflected identity (new identity none now).1 frames) :
    (∀ result, ((new identity none now).1.feed identity frames).result = some result →
      result.peerId ≠ ((new identity none now).1.feed identity frames).myId) ∧
    ∀ reply ∈ (new identity none now).1.replies identity frames,
      ∀ result ∈ reply.results, result.peerId ≠ result.myId := by
  have consistent := new_consistent identity none now
  have unknown : (new identity none now).1.peerId ≠ some identity.peerId := nofun
  constructor
  · intro result returned same
    have after := feed_consistent consistent frames
    apply feed_peerId_ne consistent unknown foreign
    rw [(after.result result returned).peerId, same, after.myId]
  · intro reply member result returned same
    obtain ⟨before, fed, after, rfl, rfl⟩ := exists_of_mem_replies member
    have reached := feed_consistent consistent before
    obtain ⟨earlier, others⟩ := unreflected_append.mp foreign
    have transition : Transition identity _ fed.1 fed.2 _ := onFrame_transition reached
    have known := transition.results reached returned
    apply transition.peerId_ne others.1 (feed_peerId_ne consistent unknown earlier)
    rw [known.peerId, same, known.myId, (transition.consistent reached).myId]

omit [Crates] in
/-- A device that completes the handshake with another one turns its own Hello away. -/
theorem reflection_resisted_sample :
    letI := symbolicCrates [] []
    letI pair := Duplex.samplePair []
    letI frames := ((List.range 5).map fun index =>
      (pair.frameAt .left index, pair.random .right index)) ++ [(pair.frameAt .right 0, [])]
    letI reached := (new (pair.identity .right) none 0).1.feed (pair.identity .right) frames
    ∃ result, reached.result = some result ∧ result.peerId ≠ reached.myId := by
  let _ := symbolicCrates [] []
  let pair := Duplex.samplePair []
  let frames := (List.range 5).map fun index =>
    (pair.frameAt .left index, pair.random .right index)
  have honest : pair.Honest := Duplex.samplePair_honest []
  have roundTrip := Symbolic.verifyingKeyRoundTrip [] []
  have accepts : ∀ index < 5, (pair.stateAt .right index).onFrame (pair.identity .right)
      (pair.frameAt .left index) (pair.random .right index) = pair.replyAt .right index := by
    intro index early
    exact Pair.onFrame_expected honest roundTrip (Symbolic.kemCorrect [] [])
      (Symbolic.signatureCorrect [] []) .right early
  have foreign (handshake : Handshake) {listed : List (Frame × Bytes)}
      (honestly : ∀ fed ∈ listed, ∃ index, fed.1 = pair.frameAt .left index) :
      Unreflected (pair.identity .right) handshake listed := by
    induction listed generalizing handshake with
    | nil => exact trivial
    | cons head later ih =>
        obtain ⟨⟨index, first⟩, rest⟩ := List.forall_mem_cons.mp honestly
        refine ⟨?_, ih _ rest⟩
        rw [first]
        exact notOwnHello_frameAt roundTrip honest .right index
  have first : (new (pair.identity .right) none 0).1.feed (pair.identity .right) frames =
      pair.stateAt .right 5 := (feed_script accepts).1
  have reached : (new (pair.identity .right) none 0).1.feed (pair.identity .right)
      (frames ++ [(pair.frameAt .right 0, [])]) = pair.stateAt .right 5 := by
    rw [feed_append, first]
    rfl
  have unreflected : Unreflected (pair.identity .right) (new (pair.identity .right) none 0).1
      (frames ++ [(pair.frameAt .right 0, [])]) := by
    refine unreflected_append.mpr ⟨foreign _ fun fed member => ?_, ?_, trivial⟩
    · obtain ⟨index, -, rfl⟩ := List.mem_map.mp member
      exact ⟨index, rfl⟩
    · rw [first]
      exact fun awaits => (nomatch awaits.1)
  have returned : ((new (pair.identity .right) none 0).1.feed (pair.identity .right)
      (frames ++ [(pair.frameAt .right 0, [])])).result = some (pair.result .right) := by
    rw [reached]
    rfl
  exact ⟨_, returned, (reflection_resisted (pair.identity .right) 0 _ unreflected).1 _ returned⟩

/-- Somebody without any key, who sends a device its own frames. -/
def echo (identity : DeviceIdentity) (random : Nat → Bytes) : Pair :=
  { identity := fun _ => identity
    expected := fun _ => none
    startedAt := fun _ => 0
    random := fun _ => random }

theorem onFrame_echo (roundTrip : VerifyingKeyRoundTrip) (kem : KemCorrect)
    (signatures : SignatureCorrect) (identity : DeviceIdentity) (random : Nat → Bytes)
    (named : (utf8Bytes identity.user.userName).length ≤ maxUserName) {count : Nat}
    (early : count < 5) :
    ((echo identity random).stateAt .left count).onFrame identity
      ((echo identity random).frameAt .left count) (random count) =
        (echo identity random).replyAt .left count := by
  match count, early with
  | 0, _ =>
      exact Pair.onFrame_hello roundTrip .left named
        fun _ impossible => (nomatch impossible)
  | 1, _ => exact Pair.onFrame_offer kem .left
  | 2, _ => exact Pair.onFrame_response kem .left
  | 3, _ =>
      exact Pair.onFrame_auth .left
        (Pair.verify_sig signatures (echo identity random) .left)
  | 4, _ => exact Pair.onFrame_ready .left

/-- Every frame fed is a copy of one the instance has sent before. -/
def Echoed (identity : DeviceIdentity) (now : Nat) (frames : List (Frame × Bytes)) : Prop :=
  ∀ index fed, frames[index]? = some fed →
    fed.1 ∈ (new identity none now).2 ::
      ((new identity none now).1.replies identity (frames.take index)).flatMap Reply.frames

/-- A device that is sent its own frames completes the handshake with itself. -/
theorem exists_echoed (roundTrip : VerifyingKeyRoundTrip) (kem : KemCorrect)
    (signatures : SignatureCorrect) (identity : DeviceIdentity) (random : Nat → Bytes)
    (named : (utf8Bytes identity.user.userName).length ≤ maxUserName) :
    ∃ frames, Echoed identity 0 frames ∧
      ((new identity none 0).1.feed identity frames).step = .established ∧
      ∃ result, ((new identity none 0).1.feed identity frames).result = some result ∧
        result.peerId = ((new identity none 0).1.feed identity frames).myId := by
  let pair := echo identity random
  let frames (count : Nat) := (List.range count).map fun index =>
    (pair.frameAt .left index, random index)
  have script {count : Nat} (within : count ≤ 5) := feed_script fun index (early : index < count) =>
    onFrame_echo roundTrip kem signatures identity random named (Nat.lt_of_lt_of_le early within)
  refine ⟨frames 5, ?_, ?_⟩
  · intro index fed found
    rw [List.getElem?_map] at found
    obtain ⟨position, inRange, rfl⟩ := Option.map_eq_some_iff.mp found
    obtain ⟨early, rfl⟩ := List.getElem?_eq_some_iff.mp inRange
    rw [List.length_range] at early
    rw [List.getElem_range]
    have front : (frames 5).take index = frames index := by
      rw [← List.map_take, List.take_range, Nat.min_eq_left (Nat.le_of_lt early)]
    rw [front]
    have replied : (new identity none 0).1.replies identity (frames index) =
        (List.range index).map (pair.replyAt .left) := (script (Nat.le_of_lt early)).2
    rw [replied]
    cases index with
    | zero => exact List.mem_cons_self
    | succ before =>
        refine List.mem_cons_of_mem _ (List.mem_flatMap.mpr ⟨pair.replyAt .left before, ?_, ?_⟩)
        · exact List.mem_map_of_mem (List.mem_range.mpr (Nat.lt_succ_self before))
        · have asked : before < 4 := Nat.lt_of_succ_lt_succ early
          rw [Reply.frames, Pair.replyAt, if_pos asked]
          exact List.mem_singleton_self _
  · have reached : (new identity none 0).1.feed identity (frames 5) = pair.stateAt .left 5 :=
      (script (Nat.le_refl 5)).1
    rw [reached]
    exact ⟨rfl, pair.result .left, rfl, rfl⟩

omit [Crates] in
/-- So does a symbolic device, to which nobody has proved anything. -/
theorem reflection_accepted :
    letI := symbolicCrates [] []
    ∃ (identity : DeviceIdentity) (now : Nat) (frames : List (Frame × Bytes)),
      Echoed identity now frames ∧
      ((new identity none now).1.feed identity frames).step = .established ∧
      ∃ result, ((new identity none now).1.feed identity frames).result = some result ∧
        result.peerId = ((new identity none now).1.feed identity frames).myId := by
  let _ := symbolicCrates [] []
  obtain ⟨frames, echoed⟩ := exists_echoed (Symbolic.verifyingKeyRoundTrip [] [])
    (Symbolic.kemCorrect [] []) (Symbolic.signatureCorrect [] [])
    (Symbolic.device [] [] 5 "alice") (fun count => [1, UInt8.ofNat count])
    (show (utf8Bytes "alice").length ≤ maxUserName by decide)
  exact ⟨_, 0, frames, echoed⟩

/-! ### A handshake returns one result -/

theorem results_replies (identity : DeviceIdentity) (handshake : Handshake)
    (head : Frame × Bytes) (later : List (Frame × Bytes)) :
    (handshake.replies identity (head :: later)).flatMap Reply.results =
      (handshake.onFrame identity head.1 head.2).results ++
        ((handshake.onFrame identity head.1 head.2).handshake.replies identity later).flatMap
          Reply.results :=
  List.flatMap_cons

/-- Only the first Ready is answered with a result. -/
theorem Transition.results_of_ready (transition : Transition identity handshake frame random reply)
    (done : handshake.peerReady.isSome) :
    reply.results = [] ∧ reply.handshake.peerReady.isSome := by
  cases transition with
  | ready typed fresh authenticated hasPeer hasHello hasKeys sent =>
      rw [fresh] at done
      cases done
  | _ => exact ⟨rfl, done⟩

theorem Transition.results_first (transition : Transition identity handshake frame random reply) :
    reply.results = [] ∨ (reply.results.length = 1 ∧ reply.handshake.peerReady.isSome) := by
  cases transition with
  | ready typed fresh authenticated hasPeer hasHello hasKeys sent => exact .inr ⟨rfl, rfl⟩
  | _ => exact .inl rfl

theorem results_after_ready (consistent : Consistent identity handshake)
    (done : handshake.peerReady.isSome) (frames : List (Frame × Bytes)) :
    (handshake.replies identity frames).flatMap Reply.results = [] := by
  induction frames generalizing handshake with
  | nil => rfl
  | cons head later ih =>
      have transition : Transition identity handshake head.1 head.2
          (handshake.onFrame identity head.1 head.2) := onFrame_transition consistent
      obtain ⟨nothing, still⟩ := transition.results_of_ready done
      have rest := ih (transition.consistent consistent) still
      rw [results_replies, nothing, rest]
      rfl

theorem length_results_le (consistent : Consistent identity handshake)
    (frames : List (Frame × Bytes)) :
    ((handshake.replies identity frames).flatMap Reply.results).length ≤ 1 := by
  induction frames generalizing handshake with
  | nil => exact Nat.zero_le 1
  | cons head later ih =>
      have transition : Transition identity handshake head.1 head.2
          (handshake.onFrame identity head.1 head.2) := onFrame_transition consistent
      have after := transition.consistent consistent
      rw [results_replies]
      rcases transition.results_first with nothing | ⟨one, done⟩
      · rw [nothing]
        exact ih after
      · rw [results_after_ready after done, List.append_nil]
        exact Nat.le_of_eq one

end Handshake

end JeanGrey
