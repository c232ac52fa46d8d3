/-
What an acknowledgement tells its reader.

A device acknowledges what it has just reported, so the acknowledgements that a
session reads are for the messages which this very session has sealed, in their
order and without gaps, and the other device has reported every one of them.
-/

import JeanGrey.BehaviourMessages

namespace JeanGrey

open Crates Runs Delivery

variable [Crates]

def Inbound.acked : Inbound → Option UInt64
  | .ack msgId _ => some msgId
  | _ => none

def Outbound.acked : Outbound → Option UInt64
  | .ack ackMsgId .. => some ackMsgId
  | _ => none

namespace SessionMove

def confirmed (device : PeerId) : SessionMove → Option UInt64 := readAs Inbound.acked device

def confirms (device : PeerId) : SessionMove → Option UInt64 := sealedAs Outbound.acked device

end SessionMove

def BehaviourEvent.acked (device : PeerId) : BehaviourEvent → Option UInt64
  | .ackReceived other msgId _ => if other = device then some msgId else none
  | _ => none

def ToSwarm.acked (device : PeerId) : ToSwarm → Option UInt64 :=
  reported (BehaviourEvent.acked device)

theorem reporting_acked (device : PeerId) :
    Reporting (BehaviourEvent.acked device) Inbound.acked device := by
  constructor
  · intro other event
    cases event with
    | ack msgId ackSeq => rfl
    | _ =>
        by_cases same : other = device
        · rw [if_pos same]
          rfl
        · rw [if_neg same]
          rfl
  · intro event unsent
    cases event with
    | ackReceived _ _ _ => cases unsent
    | _ => rfl

theorem faithfully_acked : Faithfully Inbound.acked Outbound.acked := by
  intro reader op event parsed
  have others (control : op.msgType = .control) : event.acked = none := by
    obtain ⟨-, noAck⟩ := control_of_parsePlaintext control parsed
    cases event with
    | ack msgId ackSeq => exact absurd rfl (noAck _ _)
    | _ => rfl
  cases op with
  | message text msgId now =>
      have read := (Outbound.parseMessage_messagePlaintext reader text msgId now).symm.trans parsed
      cases read
      rfl
  | ack ackMsgId ackSeq now random =>
      have read := (Outbound.parseAck_ackPlaintext ackMsgId ackSeq now).symm.trans parsed
      cases read
      rfl
  | observedAddr ip sourcePort random => exact others rfl
  | dialBackReq addr random => exact others rfl
  | dialBackRes addr reachable random => exact others rfl

/-! ### Acknowledging histories -/

namespace SessionMove

variable {moves front later : List SessionMove} {move : SessionMove}

theorem Aside.unheard (aside : move.Aside) (device : PeerId) : move.heard device = none := by
  cases move with
  | reads other frame event =>
      cases event with
      | message seq msgId createdTsMs body => cases aside
      | _ => exact ite_self _
  | _ => rfl

theorem Aside.unconfirmed (aside : move.Aside) (device : PeerId) : move.confirms device = none := by
  cases move with
  | seals other conn op frame =>
      cases op with
      | ack ackMsgId ackSeq now random => cases aside
      | _ => exact ite_self _
  | _ => rfl

section Pair

variable (device peer : PeerId) (conn : Connection) (frame ack : Frame) (seq : UInt32)
  (msgId createdTsMs now random : UInt64) (body : String) (rest : List SessionMove)

theorem confirms_answered :
    (.reads peer frame (.message seq msgId createdTsMs body) ::
        .seals peer conn (.ack msgId seq now random) ack :: rest).filterMap
        (SessionMove.confirms device) =
      (if peer = device then [msgId] else []) ++ rest.filterMap (SessionMove.confirms device) := by
  by_cases same : peer = device
  · rw [if_pos same]
    refine (List.filterMap_cons_none rfl).trans (List.filterMap_cons_some ?_)
    exact if_pos same
  · rw [if_neg same]
    refine (List.filterMap_cons_none rfl).trans (List.filterMap_cons_none ?_)
    exact if_neg same

theorem heard_answered :
    ((.reads peer frame (.message seq msgId createdTsMs body) ::
        .seals peer conn (.ack msgId seq now random) ack :: rest).filterMap
        (SessionMove.heard device)).map Prod.fst =
      (if peer = device then [msgId] else []) ++
        (rest.filterMap (SessionMove.heard device)).map Prod.fst := by
  by_cases same : peer = device
  · have first : (SessionMove.reads peer frame (.message seq msgId createdTsMs body)).heard device =
        some (msgId, body) := if_pos same
    rw [if_pos same, List.filterMap_cons_some first, List.filterMap_cons_none rfl]
    rfl
  · have first : (SessionMove.reads peer frame (.message seq msgId createdTsMs body)).heard device =
        none := if_neg same
    rw [if_neg same, List.filterMap_cons_none first, List.filterMap_cons_none rfl]
    rfl

end Pair

/-- Just the messages that were read have been confirmed. -/
theorem Acknowledging.confirms_eq (acknowledging : Acknowledging moves) (device : PeerId) :
    moves.filterMap (SessionMove.confirms device) =
      (moves.filterMap (SessionMove.heard device)).map Prod.fst := by
  induction acknowledging with
  | nil => rfl
  | message _ ih => rw [confirms_answered, heard_answered, ih]
  | other aside _ ih =>
      rw [List.filterMap_cons_none (aside.unconfirmed device),
        List.filterMap_cons_none (aside.unheard device), ih]

theorem Acknowledging.confirms_prefix (acknowledging : Acknowledging moves) (device : PeerId)
    (starts : front <+: moves) :
    front.filterMap (SessionMove.confirms device) <+:
      (front.filterMap (SessionMove.heard device)).map Prod.fst := by
  induction acknowledging generalizing front with
  | nil =>
      rw [List.prefix_nil.mp starts]
      exact List.nil_prefix
  | message rest ih =>
      cases front with
      | nil => exact List.nil_prefix
      | cons first front =>
          obtain ⟨same, following⟩ := List.cons_prefix_cons.mp starts
          subst same
          cases front with
          | nil => exact List.nil_prefix
          | cons second front =>
              obtain ⟨same, others⟩ := List.cons_prefix_cons.mp following
              subst same
              rw [confirms_answered, heard_answered]
              exact (List.prefix_append_right_inj _).mpr (ih others)
  | other aside rest ih =>
      cases front with
      | nil => exact List.nil_prefix
      | cons first front =>
          obtain ⟨same, following⟩ := List.cons_prefix_cons.mp starts
          subst same
          rw [List.filterMap_cons_none (aside.unconfirmed device),
            List.filterMap_cons_none (aside.unheard device)]
          exact ih following

/-- No session begins between a message and its acknowledgement. -/
theorem Acknowledging.since {peer : PeerId} {conn : Connection} {handshake : Handshake}
    {result : HandshakeResult}
    (acknowledging : Acknowledging (front ++ .begins peer conn handshake result :: later)) :
    Acknowledging later := by
  generalize whole : front ++ .begins peer conn handshake result :: later = moves at acknowledging
  induction acknowledging generalizing front with
  | nil =>
      have lengths := congrArg List.length whole
      rw [List.length_append, List.length_cons, List.length_nil] at lengths
      omega
  | message rest ih =>
      cases front with
      | nil => cases (List.cons.inj whole).1
      | cons first front =>
          cases front with
          | nil => cases (List.cons.inj (List.cons.inj whole).2).1
          | cons second front => exact ih (List.cons.inj (List.cons.inj whole).2).2
  | other aside rest ih =>
      cases front with
      | nil =>
          obtain ⟨-, rfl⟩ := List.cons.inj whole
          exact rest
      | cons first front => exact ih (List.cons.inj whole).2

end SessionMove

namespace Network

variable {Device : Type} {identity : Device → DeviceIdentity} {network : Network Device}
  {device author : Device} {profile : Profile}

theorem confirms_prefix_of_spans {life : Life} {since : List SessionMove}
    (acknowledged : network.Acknowledged) (spans : Life.Spans (network.history device) life since) :
    since.filterMap (SessionMove.confirms life.device) <+:
      (since.filterMap (SessionMove.heard life.device)).map Prod.fst := by
  obtain ⟨before, rest, split, -, -⟩ := spans
  have acknowledging := acknowledged device
  rw [split] at acknowledging
  exact acknowledging.since.confirms_prefix life.device (List.prefix_append since rest)

section Delivery

variable (hash : Sha256Injective) (roundTrip : VerifyingKeyRoundTrip) (aead : AeadCorrect)
  (hellos : ∀ device, (encodeHello (identity device)).length < 2 ^ 32)
  (distinct : Function.Injective fun device => (identity device).peerId)

include hash roundTrip aead hellos distinct

/-- The acknowledgements a session reads are for the messages that it seals. -/
theorem Sound.confirmed_in_order (sound : Sound profile identity network)
    (inTurn : ReadInTurn identity network) (apart : network.KeysApart)
    (fresh : network.Fresh identity) (acknowledged : network.Acknowledged)
    (different : device ≠ author) {life : Life} {since : List SessionMove}
    (spans : Life.Spans (network.history device) life since)
    (named : life.device = (identity author).peerId) :
    ∃ session whole, Life.Spans (network.history device) session whole ∧
      session.handshake = life.handshake ∧ since <+: whole ∧
      since.filterMap (SessionMove.confirmed life.device) <+:
        (whole.filterMap (SessionMove.tells life.device)).map Prod.fst := by
  by_cases some : since.filterMap (SessionMove.confirmed life.device) = []
  · refine ⟨life, since, spans, rfl, List.prefix_refl since, ?_⟩
    rw [some]
    exact List.nil_prefix
  · obtain ⟨other, otherSince, opposite, ordered⟩ := sound.said_in_order hash roundTrip aead hellos
      distinct inTurn apart fresh faithfully_acked different spans named some
    have heard := ordered.trans (confirms_prefix_of_spans acknowledged opposite.spans)
    by_cases any : otherSince.filterMap (SessionMove.heard other.device) = []
    · rw [any] at heard
      exact absurd (List.prefix_nil.mp heard) some
    · obtain ⟨session, whole, back, told⟩ := sound.said_in_order hash roundTrip aead hellos
        distinct inTurn apart fresh faithfully_told different.symm opposite.spans
          opposite.device any
      obtain ⟨transcript, holds, has⟩ := opposite.transcript
      obtain ⟨transcript', holds', has'⟩ := back.transcript
      have same : transcript' = transcript := Option.some.inj (has'.symm.trans holds)
      subst same
      have elsewhere := sound.history.elsewhere distinct different spans.lived named
      have elsewhere' := sound.history.elsewhere distinct different back.spans.lived back.device
      obtain ⟨⟨sameDevice, sameHandshake, -⟩, comparable⟩ :=
        spans.comparable (fresh device) back.spans elsewhere elsewhere' has holds'
      have confirmed := heard.trans (told.map Prod.fst)
      change _ <+: (whole.filterMap (SessionMove.tells session.device)).map Prod.fst at confirmed
      rw [sameDevice] at confirmed
      rcases comparable with shorter | longer
      · exact ⟨session, whole, back.spans, sameHandshake, shorter, confirmed⟩
      · exact ⟨life, since, spans, rfl, List.prefix_refl since,
          confirmed.trans ((longer.filterMap _).map Prod.fst)⟩

end Delivery

/-- A device is told of a message no more often than another device has reported it,
and every session reads the acknowledgements of the messages it has itself sealed, from
the first one on. -/
theorem acknowledgements_in_order [DecidableEq Device] (hash : Sha256Injective)
    (peerIds : PeerIdBytes) (roundTrip : VerifyingKeyRoundTrip) (aead : AeadCorrect)
    (profile : Profile) (identity : Device → DeviceIdentity)
    (hellos : ∀ device, (encodeHello (identity device)).length < 2 ^ 32)
    (distinct : Function.Injective fun device => (identity device).peerId)
    (network : Network Device) (reachable : Reachable profile identity (fun _ _ _ => True) network)
    (apart : network.KeysApart) (offers : network.FreshOffers) (acknowledged : network.Acknowledged)
    (device author : Device) (different : device ≠ author) :
    ((network.observed device).items.filterMap
        (ToSwarm.acked (identity author).peerId)).Subperm
      (((network.observed author).items.filterMap
        (ToSwarm.told (identity device).peerId)).map Prod.fst) ∧
    ∀ life since, Life.Spans (network.history device) life since →
      life.device = (identity author).peerId →
      ∃ session whole, Life.Spans (network.history device) session whole ∧
        session.handshake = life.handshake ∧ since <+: whole ∧
        since.filterMap (SessionMove.confirmed life.device) <+:
          (whole.filterMap (SessionMove.tells life.device)).map Prod.fst := by
  have sound := reachable.sound hash peerIds roundTrip hellos
  have inTurn := reachable.readInTurn hash peerIds roundTrip hellos
  have fresh := offers.fresh hash roundTrip hellos sound.history
  constructor
  · have told := (sound.history device).reported (reporting_acked (identity author).peerId)
    have heard := (sound.history author).reported (reporting_told (identity device).peerId)
    have confirms := (acknowledged author).confirms_eq (identity device).peerId
    unfold ToSwarm.acked ToSwarm.told
    rw [told, heard]
    unfold SessionMove.heard at confirms
    rw [← confirms]
    exact sound.said_subperm hash roundTrip aead hellos distinct inTurn apart fresh faithfully_acked
      different
  · intro life since spans named
    exact sound.confirmed_in_order hash roundTrip aead hellos distinct inTurn apart fresh
      acknowledged different spans named

omit [Crates] in
/-- The first sample device is told that its message has arrived, and of no other. -/
theorem acknowledgements_in_order_sample :
    letI := symbolicCrates World.sampleTranscript []
    ∃ (identity : Side → DeviceIdentity) (network : Network Side),
      Reachable .release identity (fun _ _ _ => True) network ∧
      0 ∈ (network.observed .left).items.filterMap (ToSwarm.acked (identity .right).peerId) ∧
      ((network.observed .left).items.filterMap
        (ToSwarm.acked (identity .right).peerId)).Subperm
          (((network.observed .right).items.filterMap
            (ToSwarm.told (identity .left).peerId)).map Prod.fst) := by
  let _ := symbolicCrates World.sampleTranscript []
  obtain ⟨pair, honest, hellos, network, reachable, tame, -, confirmed⟩ := exists_sample_exchange
  refine ⟨pair.identity, network, reachable, List.mem_filterMap.mpr ⟨_, confirmed, if_pos rfl⟩, ?_⟩
  exact (acknowledgements_in_order (Symbolic.sha256Injective World.sampleTranscript [])
    (Symbolic.peerIdBytes World.sampleTranscript [])
    (Symbolic.verifyingKeyRoundTrip World.sampleTranscript [])
    (Symbolic.aeadCorrect World.sampleTranscript []) .release pair.identity hellos
    (distinct_sides honest) network reachable (tame.keysApart honest) tame.freshOffers
    tame.acknowledged .left .right (by decide)).1

end Network

end JeanGrey
