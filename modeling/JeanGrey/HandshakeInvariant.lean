/-
What a handshake instance can do, and what holds in all of its states.

`Transition` lists every reply of `on_frame` from a consistent state.  The
invariant ties each field to the frames that filled it: the shared secrets to
the payloads they come from, the transcript and the keys to all six payloads.
Neither a panic nor a half-filled stage is among the cases.
-/

import JeanGrey.HandshakeTranscript

namespace JeanGrey

open Crates

variable [Crates]

namespace Handshake

variable {identity : DeviceIdentity} {handshake : Handshake} {frame : Frame} {random : Bytes}

/-! ### The invariant -/

/-- Nothing is known of the peer, or its Hello has been accepted and answered
with a fresh key. -/
def HelloStage (handshake : Handshake) : Prop :=
  (handshake.peerHelloPayload = none ∧ handshake.peerHello = none ∧ handshake.peerId = none ∧
    handshake.kemDk = none ∧ handshake.myOfferPayload = none) ∨
  ∃ payload hello random,
    handshake.peerHelloPayload = some payload ∧ decodeHello payload = some hello ∧
    handshake.peerHello = some hello ∧ handshake.peerId = some (peerIdOf hello.pubkey) ∧
    (∀ expected, handshake.expectedPeer = some expected → expected = peerIdOf hello.pubkey) ∧
    handshake.kemDk = some (Kem.generate random).2 ∧
    handshake.myOfferPayload = some (Kem.generate random).1

def OfferStage (handshake : Handshake) : Prop :=
  (handshake.peerOfferPayload = none ∧ handshake.ssToPeer = none ∧
    handshake.myResponsePayload = none) ∨
  ∃ payload random ct ss,
    handshake.peerOfferPayload = some payload ∧ Kem.encapsulate payload random = .ok (ct, ss) ∧
    handshake.ssToPeer = some ss ∧ handshake.myResponsePayload = some ct

def ResponseStage (handshake : Handshake) : Prop :=
  (handshake.peerResponsePayload = none ∧ handshake.ssFromPeer = none) ∨
  ∃ payload dk ss,
    handshake.peerResponsePayload = some payload ∧ handshake.kemDk = some dk ∧
    Kem.decapsulate dk payload = .ok ss ∧ handshake.ssFromPeer = some ss

/-- The transcript and the keys are those of the payloads, and nothing is
authenticated before they exist. -/
def AgreedStage (handshake : Handshake) : Prop :=
  (handshake.transcript = none ∧ handshake.keys = none ∧ handshake.peerAuthOk = false) ∨
  ∃ transcript keys,
    handshake.transcript = some transcript ∧ handshake.keys = some keys ∧
    handshake.agree = .ok (transcript, keys)

structure ResultOf (handshake : Handshake) (result : HandshakeResult) : Prop where
  authenticated : handshake.peerAuthOk = true
  myId : result.myId = handshake.myId
  peerId : handshake.peerId = some result.peerId
  peerHello : handshake.peerHello = some result.peerHello
  keys : handshake.keys = some result.keys
  selected : (result.sendKey, result.recvKey) = selectKeys result.keys handshake.myId result.peerId

/-- A handshake returns one result at most. -/
theorem ResultOf.unique {result other : HandshakeResult} (known : ResultOf handshake result)
    (known' : ResultOf handshake other) : result = other := by
  obtain ⟨-, myId, peerId, peerHello, keys, selected⟩ := known
  obtain ⟨-, myId', peerId', peerHello', keys', selected'⟩ := known'
  have samePeer := Option.some.inj (peerId.symm.trans peerId')
  have sameKeys := Option.some.inj (keys.symm.trans keys')
  rw [samePeer, sameKeys, ← selected'] at selected
  obtain ⟨sameSend, sameRecv⟩ := Prod.mk.inj selected
  cases result
  cases other
  rw [HandshakeResult.mk.injEq]
  exact ⟨myId.trans myId'.symm, samePeer, Option.some.inj (peerHello.symm.trans peerHello'),
    sameKeys, sameSend, sameRecv⟩

structure Consistent (identity : DeviceIdentity) (handshake : Handshake) : Prop where
  myId : handshake.myId = identity.peerId
  myHello : handshake.myHelloPayload = encodeHello identity
  hello : HelloStage handshake
  offer : OfferStage handshake
  response : ResponseStage handshake
  agreed : AgreedStage handshake
  result : ∀ result, handshake.result = some result → ResultOf handshake result

theorem new_consistent (identity : DeviceIdentity) (expectedPeer : Option PeerId) (now : Nat) :
    Consistent identity (new identity expectedPeer now).1 :=
  { myId := rfl
    myHello := rfl
    hello := .inl ⟨rfl, rfl, rfl, rfl, rfl⟩
    offer := .inl ⟨rfl, rfl, rfl⟩
    response := .inl ⟨rfl, rfl⟩
    agreed := .inl ⟨rfl, rfl, rfl⟩
    result := by
      intro result impossible
      cases impossible }

/-! ### Agreement on transcript and keys -/

/-- The fields `finish_kem` reads, all present. -/
structure Complete (handshake : Handshake) (peerId : PeerId) (mine theirs : Payloads)
    (ssToPeer ssFromPeer : Octets 32) : Prop where
  peerId : handshake.peerId = some peerId
  myHello : handshake.myHelloPayload = mine.hello
  myOffer : handshake.myOfferPayload = some mine.offer
  myResponse : handshake.myResponsePayload = some mine.response
  peerHello : handshake.peerHelloPayload = some theirs.hello
  peerOffer : handshake.peerOfferPayload = some theirs.offer
  peerResponse : handshake.peerResponsePayload = some theirs.response
  ssToPeer : handshake.ssToPeer = some ssToPeer
  ssFromPeer : handshake.ssFromPeer = some ssFromPeer

theorem agree_eq_ok_iff {transcript : Bytes} {keys : SessionKeys} :
    handshake.agree = .ok (transcript, keys) ↔
      ∃ peerId mine theirs ssToPeer ssFromPeer,
        Complete handshake peerId mine theirs ssToPeer ssFromPeer ∧
        transcript = buildTranscript handshake.myId peerId mine theirs ∧
        keys = Kdf.deriveSessionKeys
          (combineSharedSecrets ssToPeer ssFromPeer (handshake.myId < peerId)) transcript := by
  constructor
  · intro agreed
    simp only [agree, Outcome.bind_eq_ok_iff, Outcome.okOr_eq_ok_iff,
      Outcome.unwrap_eq_ok_iff] at agreed
    obtain ⟨peerId, hasPeer, myOffer, hasMyOffer, myResponse, hasMyResponse, peerHello,
      hasPeerHello, peerOffer, hasPeerOffer, peerResponse, hasPeerResponse, ssToPeer, hasSsTo,
      ssFromPeer, hasSsFrom, same⟩ := agreed
    cases same
    exact ⟨peerId, ⟨_, myOffer, myResponse⟩, ⟨peerHello, peerOffer, peerResponse⟩, ssToPeer,
      ssFromPeer, ⟨hasPeer, rfl, hasMyOffer, hasMyResponse, hasPeerHello, hasPeerOffer,
        hasPeerResponse, hasSsTo, hasSsFrom⟩, rfl, rfl⟩
  · rintro ⟨peerId, mine, theirs, ssToPeer, ssFromPeer, complete, rfl, rfl⟩
    simp only [agree, complete.peerId, complete.myOffer, complete.myResponse, complete.peerHello,
      complete.peerOffer, complete.peerResponse, complete.ssToPeer, complete.ssFromPeer,
      complete.myHello, Outcome.okOr, Outcome.unwrap, Outcome.ok_bind, Outcome.pure_eq]

/-! ### Transitions -/

/-- Every reply of `on_frame` from a consistent state. -/
inductive Transition (identity : DeviceIdentity) (handshake : Handshake) (frame : Frame)
    (random : Bytes) : Reply → Prop where
  | rejected (error : HandshakeError) :
      Transition identity handshake frame random (handshake.fail error)
  | hello {hello : PeerHello} :
      frame.msgType = .hello → handshake.peerHelloPayload = none →
      decodeHello frame.payload = some hello →
      (∀ expected, handshake.expectedPeer = some expected → expected = peerIdOf hello.pubkey) →
      Transition identity handshake frame random
        ({ handshake with
            peerId := some (peerIdOf hello.pubkey)
            peerHello := some hello
            peerHelloPayload := some frame.payload
            kemDk := some (Kem.generate random).2
            myOfferPayload := some (Kem.generate random).1 }.send
          [.handshake .kemOffer (Kem.generate random).1])
  | offer {ct : Bytes} {ss : Octets 32} :
      frame.msgType = .kemOffer → handshake.peerHello.isSome →
      handshake.peerOfferPayload = none → Kem.encapsulate frame.payload random = .ok (ct, ss) →
      Transition identity handshake frame random
        ({ handshake with
            peerOfferPayload := some frame.payload
            ssToPeer := some ss
            myResponsePayload := some ct }.send [.handshake .kemResponse ct])
  | earlyResponse {dk : DecapsulationKey} {ss : Octets 32} :
      frame.msgType = .kemResponse → handshake.peerHello.isSome →
      handshake.peerResponsePayload = none → handshake.kemDk = some dk →
      Kem.decapsulate dk frame.payload = .ok ss → handshake.myResponsePayload = none →
      Transition identity handshake frame random
        ({ handshake with
            peerResponsePayload := some frame.payload
            ssFromPeer := some ss }.send [])
  | response {dk : DecapsulationKey} {ss : Octets 32} {transcript : Bytes} {keys : SessionKeys} :
      frame.msgType = .kemResponse → handshake.peerHello.isSome →
      handshake.peerResponsePayload = none → handshake.kemDk = some dk →
      Kem.decapsulate dk frame.payload = .ok ss →
      { handshake with
        peerResponsePayload := some frame.payload
        ssFromPeer := some ss }.agree = .ok (transcript, keys) →
      Transition identity handshake frame random
        { handshake :=
            { handshake with
              peerResponsePayload := some frame.payload
              ssFromPeer := some ss
              transcript := some transcript
              keys := some keys
              step := .waitAuth }
          outcome := .ok (.frames
            [.handshake .auth (identity.secretKey.sign (authMessage transcript) random)])
          signed := [.auth transcript] }
  | auth {transcript : Bytes} {hello : PeerHello} {keys : SessionKeys} :
      frame.msgType = .auth → handshake.peerAuthOk = false →
      handshake.transcript = some transcript → handshake.peerHello = some hello →
      handshake.keys = some keys →
      Mldsa.verify hello.pubkey (authMessage transcript) frame.payload = true →
      Transition identity handshake frame random
        ({ handshake with peerAuthOk := true, step := .waitReady }.send
          [.handshake .ready keys.sessionId.toList])
  | ready {peerId : PeerId} {hello : PeerHello} {keys : SessionKeys} :
      frame.msgType = .ready → handshake.peerReady = none → handshake.peerAuthOk = true →
      handshake.peerId = some peerId → handshake.peerHello = some hello →
      handshake.keys = some keys → frame.payload = keys.sessionId.toList →
      Transition identity handshake frame random
        (let result : HandshakeResult :=
          { myId := handshake.myId
            peerId := peerId
            peerHello := hello
            keys := keys
            sendKey := (selectKeys keys handshake.myId peerId).1
            recvKey := (selectKeys keys handshake.myId peerId).2 }
        { handshake :=
            { handshake with
              peerReady := some keys.sessionId
              step := .established
              result := some result }
          outcome := .ok (.established result)
          signed := [] })

theorem onHello_transition (typed : frame.msgType = .hello) :
    Transition identity handshake frame random (handshake.onHello frame random) := by
  unfold onHello
  split
  · exact .rejected _
  · rename_i fresh
    split
    · exact .rejected _
    · rename_i hello decoded
      simp only
      split
      · exact .rejected _
      · rename_i expected
        refine .hello typed (Option.not_isSome_iff_eq_none.mp fresh) decoded ?_
        intro peer expects
        rw [expects, Option.any_some, decide_eq_true_iff] at expected
        exact not_not.mp expected

theorem onKemOffer_transition (typed : frame.msgType = .kemOffer) :
    Transition identity handshake frame random (handshake.onKemOffer frame random) := by
  unfold onKemOffer
  split
  · exact .rejected _
  · rename_i known
    split
    · exact .rejected _
    · rename_i fresh
      split
      · exact .rejected _
      · rename_i ct ss encapsulated
        refine .offer typed ?_ (Option.not_isSome_iff_eq_none.mp fresh) encapsulated
        exact Option.isSome_iff_ne_none.mpr (fun absent => known (by rw [absent]; rfl))

theorem exists_agree (consistent : Consistent identity handshake) (payload : Bytes)
    (ss : Octets 32) (known : handshake.peerHello.isSome)
    (answered : handshake.myResponsePayload.isSome) :
    ∃ transcript keys,
      { handshake with peerResponsePayload := some payload, ssFromPeer := some ss }.agree =
        .ok (transcript, keys) := by
  rcases consistent.hello with ⟨-, absent, -⟩ |
    ⟨helloPayload, hello, random, hasHello, -, -, hasPeer, -, -, hasOffer⟩
  · rw [absent] at known
    cases known
  · rcases consistent.offer with ⟨-, -, absent⟩ | ⟨offer, random', ct, ss', hasPeerOffer, -, hasSs,
      hasResponse⟩
    · rw [absent] at answered
      cases answered
    · refine ⟨_, _, agree_eq_ok_iff.mpr ⟨_, ⟨_, _, _⟩, ⟨_, _, _⟩, _, _, ⟨hasPeer, rfl, hasOffer,
        hasResponse, hasHello, hasPeerOffer, rfl, hasSs, rfl⟩, rfl, rfl⟩⟩

theorem onKemResponse_transition (consistent : Consistent identity handshake)
    (typed : frame.msgType = .kemResponse) :
    Transition identity handshake frame random
      (handshake.onKemResponse identity frame random) := by
  unfold onKemResponse
  split
  · exact .rejected _
  · rename_i known
    have hasHello : handshake.peerHello.isSome :=
      Option.isSome_iff_ne_none.mpr (fun absent => known (by rw [absent]; rfl))
    split
    · exact .rejected _
    · rename_i fresh
      have first := Option.not_isSome_iff_eq_none.mp fresh
      split
      · exact .rejected _
      · rename_i dk hasKey
        split
        · exact .rejected _
        · rename_i ss decapsulated
          simp only
          split
          · rename_i answered
            obtain ⟨transcript, keys, agreed⟩ := exists_agree consistent frame.payload ss
              hasHello answered
            rw [finishKem, agreed]
            exact .response typed hasHello first hasKey decapsulated agreed
          · rename_i unanswered
            exact .earlyResponse typed hasHello first hasKey decapsulated
              (Option.not_isSome_iff_eq_none.mp unanswered)

theorem onAuth_transition (consistent : Consistent identity handshake)
    (typed : frame.msgType = .auth) :
    Transition identity handshake frame random (handshake.onAuth frame) := by
  unfold onAuth
  split
  · exact .rejected _
  · rename_i unverified
    split
    · rename_i transcript hello hasTranscript hasHello
      split
      · exact .rejected _
      · rename_i verified
        rcases consistent.agreed with ⟨absent, -, -⟩ | ⟨_, agreedKeys, -, present, -⟩
        · rw [absent] at hasTranscript
          cases hasTranscript
        · simp only
          split
          · rename_i absent
            rw [present] at absent
            cases absent
          · rename_i keys hasKeys
            refine .auth typed (Bool.eq_false_iff.mpr unverified) hasTranscript hasHello hasKeys ?_
            rwa [Bool.not_eq_true', Bool.not_eq_false] at verified
    · exact .rejected _

theorem onReady_transition (consistent : Consistent identity handshake)
    (typed : frame.msgType = .ready) :
    Transition identity handshake frame random (handshake.onReady frame) := by
  unfold onReady
  split
  · exact .rejected _
  · rename_i fresh
    split
    · exact .rejected _
    · rename_i verified
      have authenticated : handshake.peerAuthOk = true := by
        rwa [Bool.not_eq_true', Bool.not_eq_false] at verified
      split
      · exact .rejected _
      · rename_i sid sized
        rcases consistent.agreed with ⟨-, -, unauthenticated⟩ |
          ⟨transcript, agreedKeys, -, present, agreed⟩
        · rw [authenticated] at unauthenticated
          cases unauthenticated
        · obtain ⟨_, _, _, _, _, complete, -, -⟩ := agree_eq_ok_iff.mp agreed
          split
          · rename_i absent
            rw [present] at absent
            cases absent
          · rename_i keys hasKeys
            split
            · exact .rejected _
            · rename_i sameId
              have same := not_not.mp sameId
              have sent : frame.payload = keys.sessionId.toList := by
                rw [← same, Octets.ofBytes?_eq_some_iff.mp sized]
              simp only
              split
              · rename_i peerId hello hasPeer hasHello
                rw [same]
                exact .ready typed (Option.not_isSome_iff_eq_none.mp fresh) authenticated hasPeer
                  hasHello hasKeys sent
              · rename_i missing
                rcases consistent.hello with ⟨absent, -⟩ |
                  ⟨_, hello, _, -, -, hasHello, hasPeer, -⟩
                · rw [complete.peerHello] at absent
                  cases absent
                · exact (missing _ _ hasPeer hasHello).elim

/-- From a consistent state `on_frame` does one of the listed things; it never
panics. -/
theorem onFrame_transition (consistent : Consistent identity handshake) :
    Transition identity handshake frame random (handshake.onFrame identity frame random) := by
  unfold onFrame
  split
  · exact .rejected _
  · split
    · rename_i typed
      exact onHello_transition typed
    · rename_i typed
      exact onKemOffer_transition typed
    · rename_i typed
      exact onKemResponse_transition consistent typed
    · rename_i typed
      exact onAuth_transition consistent typed
    · rename_i typed
      exact onReady_transition consistent typed
    · exact .rejected _

/-! ### Preservation -/

theorem complete_of_transcript (consistent : Consistent identity handshake) {transcript : Bytes}
    (hasTranscript : handshake.transcript = some transcript) :
    ∃ peerId mine theirs ssToPeer ssFromPeer keys,
      Complete handshake peerId mine theirs ssToPeer ssFromPeer ∧
      transcript = buildTranscript handshake.myId peerId mine theirs ∧
      handshake.keys = some keys ∧
      keys = Kdf.deriveSessionKeys
        (combineSharedSecrets ssToPeer ssFromPeer (handshake.myId < peerId)) transcript := by
  rcases consistent.agreed with ⟨absent, -, -⟩ | ⟨other, keys, present, hasKeys, agreed⟩
  · rw [absent] at hasTranscript
    cases hasTranscript
  · rw [hasTranscript] at present
    cases present
    obtain ⟨peerId, mine, theirs, ssToPeer, ssFromPeer, complete, same, sameKeys⟩ :=
      agree_eq_ok_iff.mp agreed
    exact ⟨peerId, mine, theirs, ssToPeer, ssFromPeer, keys, complete, same, hasKeys, sameKeys⟩

theorem transcript_of_authenticated (consistent : Consistent identity handshake)
    (authenticated : handshake.peerAuthOk = true) :
    ∃ transcript, handshake.transcript = some transcript := by
  rcases consistent.agreed with ⟨-, -, unauthenticated⟩ | ⟨transcript, -, present, -⟩
  · rw [authenticated] at unauthenticated
    cases unauthenticated
  · exact ⟨transcript, present⟩

theorem transcript_none (consistent : Consistent identity handshake)
    (missing : handshake.peerHelloPayload = none ∨ handshake.peerOfferPayload = none ∨
      handshake.peerResponsePayload = none) :
    handshake.transcript = none ∧ handshake.keys = none ∧ handshake.peerAuthOk = false ∧
      handshake.result = none := by
  rcases consistent.agreed with ⟨noTranscript, noKeys, unauthenticated⟩ |
    ⟨transcript, keys, present, hasKeys, agreed⟩
  · refine ⟨noTranscript, noKeys, unauthenticated, ?_⟩
    cases found : handshake.result with
    | none => rfl
    | some result =>
        have authenticated := (consistent.result result found).authenticated
        rw [unauthenticated] at authenticated
        cases authenticated
  · obtain ⟨_, _, _, _, _, complete, -, -⟩ := agree_eq_ok_iff.mp agreed
    rcases missing with absent | absent | absent
    · rw [complete.peerHello] at absent
      cases absent
    · rw [complete.peerOffer] at absent
      cases absent
    · rw [complete.peerResponse] at absent
      cases absent

theorem Transition.consistent {reply : Reply} (consistent : Consistent identity handshake)
    (transition : Transition identity handshake frame random reply) :
    Consistent identity reply.handshake := by
  obtain ⟨myId, myHello, hello, offer, response, agreed, result⟩ := id consistent
  cases transition with
  | rejected error => exact consistent
  | hello typed fresh decoded expected =>
      obtain ⟨noTranscript, noKeys, unauthenticated, noResult⟩ :=
        transcript_none consistent (.inl fresh)
      have noResponse : handshake.peerResponsePayload = none ∧ handshake.ssFromPeer = none := by
        rcases response with none | ⟨_, dk, _, -, hasKey, -⟩
        · exact none
        · rcases hello with ⟨-, -, -, noKey, -⟩ | ⟨_, _, _, present, -⟩
          · rw [noKey] at hasKey
            cases hasKey
          · rw [fresh] at present
            cases present
      exact
        { myId := myId
          myHello := myHello
          hello := .inr ⟨_, _, random, rfl, decoded, rfl, rfl, expected, rfl, rfl⟩
          offer := offer
          response := .inl noResponse
          agreed := .inl ⟨noTranscript, noKeys, unauthenticated⟩
          result := fun other present =>
            absurd (present.symm.trans noResult) (Option.some_ne_none other) }
  | offer typed known fresh encapsulated =>
      obtain ⟨noTranscript, noKeys, unauthenticated, noResult⟩ :=
        transcript_none consistent (.inr (.inl fresh))
      exact
        { myId := myId
          myHello := myHello
          hello := hello
          offer := .inr ⟨_, random, _, _, rfl, encapsulated, rfl, rfl⟩
          response := response
          agreed := .inl ⟨noTranscript, noKeys, unauthenticated⟩
          result := fun other present =>
            absurd (present.symm.trans noResult) (Option.some_ne_none other) }
  | earlyResponse typed known fresh hasKey decapsulated unanswered =>
      obtain ⟨noTranscript, noKeys, unauthenticated, noResult⟩ :=
        transcript_none consistent (.inr (.inr fresh))
      exact
        { myId := myId
          myHello := myHello
          hello := hello
          offer := offer
          response := .inr ⟨_, _, _, rfl, hasKey, decapsulated, rfl⟩
          agreed := .inl ⟨noTranscript, noKeys, unauthenticated⟩
          result := fun other present =>
            absurd (present.symm.trans noResult) (Option.some_ne_none other) }
  | response typed known fresh hasKey decapsulated agrees =>
      obtain ⟨-, -, -, noResult⟩ := transcript_none consistent (.inr (.inr fresh))
      exact
        { myId := myId
          myHello := myHello
          hello := hello
          offer := offer
          response := .inr ⟨_, _, _, rfl, hasKey, decapsulated, rfl⟩
          agreed := .inr ⟨_, _, rfl, rfl, agrees⟩
          result := fun other present =>
            absurd (present.symm.trans noResult) (Option.some_ne_none other) }
  | auth typed unverified hasTranscript hasHello hasKeys verified =>
      have noResult : handshake.result = none := by
        cases found : handshake.result with
        | none => rfl
        | some other =>
            have authenticated := (result other found).authenticated
            rw [unverified] at authenticated
            cases authenticated
      exact
        { myId := myId
          myHello := myHello
          hello := hello
          offer := offer
          response := response
          agreed := by
            rcases agreed with ⟨absent, -, -⟩ | found
            · rw [hasTranscript] at absent
              cases absent
            · exact .inr found
          result := fun other present =>
            absurd (present.symm.trans noResult) (Option.some_ne_none other) }
  | ready typed fresh authenticated hasPeer hasHello hasKeys sent =>
      exact
        { myId := myId
          myHello := myHello
          hello := hello
          offer := offer
          response := response
          agreed := agreed
          result := by
            intro other present
            cases present
            exact ⟨authenticated, rfl, hasPeer, hasHello, hasKeys, rfl⟩ }

theorem Transition.resultOf {reply : Reply} {result : HandshakeResult}
    (consistent : Consistent identity handshake)
    (transition : Transition identity handshake frame random reply)
    (known : ResultOf handshake result) : ResultOf reply.handshake result := by
  have final (missing : handshake.peerHelloPayload = none ∨ handshake.peerOfferPayload = none ∨
      handshake.peerResponsePayload = none) : False := by
    have unauthenticated := (transcript_none consistent missing).2.2.1
    rw [known.authenticated] at unauthenticated
    cases unauthenticated
  obtain ⟨authenticated, myId, peerId, peerHello, keys, selected⟩ := id known
  cases transition with
  | rejected error => exact known
  | hello typed fresh decoded expected => exact (final (.inl fresh)).elim
  | offer typed hasHello fresh encapsulated => exact (final (.inr (.inl fresh))).elim
  | earlyResponse typed hasHello fresh hasKey decapsulated unanswered =>
      exact (final (.inr (.inr fresh))).elim
  | response typed hasHello fresh hasKey decapsulated agrees =>
      exact (final (.inr (.inr fresh))).elim
  | auth typed unverified hasTranscript hasHello hasKeys verified =>
      exact ⟨rfl, myId, peerId, peerHello, keys, selected⟩
  | ready typed fresh verified hasPeer hasHello hasKeys sent =>
      exact ⟨authenticated, myId, peerId, peerHello, keys, selected⟩

/-- A transcript is never replaced, and the peer it names stays. -/
theorem Transition.transcript_stable {reply : Reply} {transcript : Bytes}
    (consistent : Consistent identity handshake)
    (transition : Transition identity handshake frame random reply)
    (hasTranscript : handshake.transcript = some transcript) :
    reply.handshake.transcript = some transcript ∧
      reply.handshake.peerHello = handshake.peerHello := by
  have final (missing : handshake.peerHelloPayload = none ∨ handshake.peerOfferPayload = none ∨
      handshake.peerResponsePayload = none) : False := by
    rw [(transcript_none consistent missing).1] at hasTranscript
    cases hasTranscript
  cases transition with
  | rejected error => exact ⟨hasTranscript, rfl⟩
  | hello typed fresh decoded expected => exact (final (.inl fresh)).elim
  | offer typed known fresh encapsulated => exact (final (.inr (.inl fresh))).elim
  | earlyResponse typed known fresh hasKey decapsulated unanswered =>
      exact (final (.inr (.inr fresh))).elim
  | response typed known fresh hasKey decapsulated agrees =>
      exact (final (.inr (.inr fresh))).elim
  | auth typed unverified _ hasHello hasKeys verified => exact ⟨hasTranscript, rfl⟩
  | ready typed fresh authenticated hasPeer hasHello hasKeys sent => exact ⟨hasTranscript, rfl⟩

theorem Transition.results {reply : Reply} (consistent : Consistent identity handshake)
    (transition : Transition identity handshake frame random reply) {result : HandshakeResult}
    (returned : result ∈ reply.results) : ResultOf reply.handshake result := by
  have after := transition.consistent consistent
  cases transition with
  | ready typed fresh authenticated hasPeer hasHello hasKeys sent =>
      rw [List.mem_singleton.mp returned]
      exact after.result _ rfl
  | _ => cases returned

end Handshake

end JeanGrey
