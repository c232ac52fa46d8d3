/-
Integrity of a session.

Two sessions of one handshake seal frames in any order while an adversary hands
either of them frames of its own making.  It may replay, reorder, reflect and
alter what it has seen; the ideal cipher only denies it ciphertexts that open
without having been sealed.  The frames a session accepts are then frames of
its peer, in the order in which they were sealed, and up to the first error
none is missing.
-/

import JeanGrey.SessionChannel
import JeanGrey.SymbolicCrates
import Mathlib.Data.List.Infix
import Mathlib.Data.List.TakeWhile
import Mathlib.Logic.Relation

namespace JeanGrey

open Crates Runs

variable [Crates]

namespace Session

omit [Crates] in
theorem lowerDir_ne_higherDir : lowerDir ≠ higherDir := by decide

/-- The two directions of a session never mix. -/
theorem myDir_ne_peerDir (result : HandshakeResult) :
    (new result).myDir ≠ (new result).peerDir := by
  change (if result.myId < result.peerId then lowerDir else higherDir) ≠
    if result.myId < result.peerId then higherDir else lowerDir
  split
  · exact lowerDir_ne_higherDir
  · exact lowerDir_ne_higherDir.symm

/-! ### The nonce and the header determine the frame -/

omit [Crates] in
theorem nonce_inj {dir dir' : Octets 2} {seq seq' : UInt32}
    (same : nonce dir seq = nonce dir' seq') : dir = dir' ∧ seq = seq' := by
  have bytes := congrArg List.Vector.toList same
  simp only [nonce, Octets.toList_mk, List.append_assoc] at bytes
  obtain ⟨dirs, rest⟩ := List.append_inj bytes (dir.toList_length.trans dir'.toList_length.symm)
  have counts := (List.append_inj (List.append_cancel_left rest)
    ((length_u32ToBe seq).trans (length_u32ToBe seq').symm)).1
  exact ⟨Octets.toList_injective dirs, u32ToBe_injective counts⟩

omit [Crates] in
/-- The first byte of the header still tells the message types apart. -/
theorem tagged_inj {left right : MessageType}
    (same : Framing.version ||| left.toU8 <<< 4 = Framing.version ||| right.toU8 <<< 4) :
    left = right := by
  cases left <;> cases right <;> first | rfl | exact absurd same (by decide)

omit [Crates] in
theorem aad_inj {session session' : Session} {msgType msgType' : MessageType} {seq seq' : UInt32}
    {msgId msgId' : UInt64}
    (same : session.aad msgType seq msgId = session'.aad msgType' seq' msgId') :
    msgType = msgType' ∧ session.sessionId = session'.sessionId ∧ seq = seq' ∧ msgId = msgId' := by
  simp only [aad, List.append_assoc, List.cons_append, List.nil_append] at same
  obtain ⟨tagged, rest⟩ := List.cons.inj same
  obtain ⟨sessionIds, rest⟩ := List.append_inj rest
    (session.sessionId.toList_length.trans session'.sessionId.toList_length.symm)
  obtain ⟨counts, msgIds⟩ := List.append_inj rest
    ((length_u32ToBe seq).trans (length_u32ToBe seq').symm)
  exact ⟨tagged_inj tagged, Octets.toList_injective sessionIds, u32ToBe_injective counts,
    u64ToBe_injective msgIds⟩

end Session

/-! ### The ideal cipher -/

structure AeadCall where
  key : Octets 32
  nonce : Octets 12
  aad : Bytes
  plaintext : Bytes

def AeadCall.ciphertext (call : AeadCall) : Bytes :=
  aeadSeal call.key call.nonce call.aad call.plaintext

def Sealed.call (entry : Sealed) (sender : Session) : AeadCall :=
  { key := sender.sendKey
    nonce := Session.nonce sender.myDir entry.frame.seq
    aad := sender.aad entry.frame.msgType entry.frame.seq entry.frame.msgId
    plaintext := entry.op.plaintext }

namespace Channel

/-- The call of `aead::open` with which `side` reads the frame succeeds only if
one of the two sessions has sealed the payload under the same key, nonce and
header. -/
def Unforged (channel : Channel) (side : Side) (frame : Frame) : Prop :=
  ∀ plaintext,
    aeadOpen (channel.session side).recvKey
        (Session.nonce (channel.session side).peerDir frame.seq)
        ((channel.session side).aad frame.msgType frame.seq frame.msgId) frame.payload =
      some plaintext →
    ∃ sealer, ∃ entry ∈ channel.sealed sealer,
      (entry.call (channel.session sealer)).key = (channel.session side).recvKey ∧
      (entry.call (channel.session sealer)).nonce =
        Session.nonce (channel.session side).peerDir frame.seq ∧
      (entry.call (channel.session sealer)).aad =
        (channel.session side).aad frame.msgType frame.seq frame.msgId ∧
      (entry.call (channel.session sealer)).ciphertext = frame.payload

/-- One move: a sealing operation on either side, or any unforged frame handed
to either side. -/
inductive Step (profile : Profile) : Channel → Channel → Prop
  | send {channel next : Channel} (side : Side) (op : Outbound)
      (sent : channel.send profile side op = some next) : Step profile channel next
  | receive {channel next : Channel} (side : Side) (frame : Frame)
      (unforged : channel.Unforged side frame)
      (received : channel.receive profile side frame = some next) : Step profile channel next

def Reachable (profile : Profile) (pairing : Pairing) (channel : Channel) : Prop :=
  Relation.ReflTransGen (Step profile) (start pairing) channel

/-- The frame and the answer, without the flags, which no header covers. -/
def view (answer : Frame × Outcome SessionError Inbound) :
    Frame × Outcome SessionError Inbound :=
  ({ answer.1 with flags := 0 }, answer.2)

/-- The calls of `handle_frame` on `side` that returned an event. -/
def accepted (channel : Channel) (side : Side) : List (Frame × Outcome SessionError Inbound) :=
  (channel.handled side).filter fun answer => answer.2.isOk

/-- The answers of `side` before its first error. -/
def untroubled (channel : Channel) (side : Side) : List (Frame × Outcome SessionError Inbound) :=
  (channel.handled side).takeWhile fun answer => answer.2.isOk

/-! ### An accepted frame is the one that is due -/

/-- A frame that opens is, up to its flags, the entry of the other side with its
count, and it opens to the plaintext of that entry. -/
theorem entry_of_open (aead : AeadCorrect) {pairing : Pairing} {channel : Channel} {side : Side}
    {frame : Frame} {plaintext : Bytes} (booked : Booked pairing channel)
    (unforged : channel.Unforged side frame)
    (sameSession : frame.sessionId = (channel.session side).sessionId)
    (opened : aeadOpen (channel.session side).recvKey
      (Session.nonce (channel.session side).peerDir frame.seq)
      ((channel.session side).aad frame.msgType frame.seq frame.msgId) frame.payload =
        some plaintext) :
    ∃ entry, (channel.sealed side.other)[frame.seq.toNat]? = some entry ∧
      { frame with flags := 0 } = entry.frame ∧ plaintext = entry.op.plaintext := by
  obtain ⟨sealer, entry, member, key, nonce, aad, ciphertext⟩ := unforged _ opened
  obtain ⟨sameDir, sameSeq⟩ := Session.nonce_inj nonce
  obtain ⟨sameType, -, -, sameId⟩ := Session.aad_inj aad
  have isPeer : sealer = side.other := by
    rcases Side.eq_or_eq_other side sealer with reflected | peer
    · rw [reflected, (booked side).myDir, (booked side).peerDir] at sameDir
      exact absurd sameDir (Session.myDir_ne_peerDir _)
    · exact peer
  subst isPeer
  have sameKeys : (channel.session side.other).sessionId = (channel.session side).sessionId := by
    rw [(booked side.other).sessionId, (booked side).sessionId,
      (pairing.complementary_at side).keys]
  obtain ⟨index, found⟩ := List.mem_iff_getElem?.mp member
  have position := (booked side.other).seq_eq found
  refine ⟨entry, ?_, ?_, ?_⟩
  · rw [← sameSeq, position]
    exact found
  · have sealedAs := ((booked side.other).frames index entry found).1
    have flags : entry.frame.flags = 0 := by
      rw [sealedAs]
      rfl
    have session : entry.frame.sessionId = frame.sessionId := by
      rw [sameSession, ← sameKeys, (booked side.other).sessionId, sealedAs]
      rfl
    have payload : entry.frame.payload = frame.payload := by
      rw [← ciphertext, AeadCall.ciphertext, Sealed.call, (booked side.other).sendKey,
        (booked side.other).myDir, sealedAs]
      unfold Session.aad
      rw [(booked side.other).sessionId]
      rfl
    rw [← flags, ← session, ← sameType, ← sameSeq, ← sameId, ← payload]
  · rw [← key, ← nonce, ← aad, ← ciphertext] at opened
    have undone := aead.decrypt (entry.call (channel.session side.other)).key
      (entry.call (channel.session side.other)).nonce
      (entry.call (channel.session side.other)).aad entry.op.plaintext
    exact Option.some.inj (opened.symm.trans undone)

/-! ### The invariant -/

def entryView (pairing : Pairing) (side : Side) (entry : Sealed) :
    Frame × Outcome SessionError Inbound :=
  (entry.frame, entry.reading (Session.new (pairing.result side)))

structure Intact (pairing : Pairing) (channel : Channel) (side : Side) : Prop where
  accepted : ((channel.accepted side).map view).Sublist
    (((channel.sealed side.other).map (entryView pairing side)).take
      (channel.session side).inSeq.toNat)
  untroubled : (channel.untroubled side).map view <+:
    (channel.sealed side.other).map (entryView pairing side)
  counted : (∀ answer ∈ channel.handled side, answer.2.isOk = true) →
    (channel.handled side).length = (channel.session side).inSeq.toNat

/-- The answer to a counted frame is the reading of the entry that is due, if it
is not an error. -/
theorem view_of_counted (aead : AeadCorrect) {pairing : Pairing} {channel : Channel} {side : Side}
    {frame : Frame} {next : Session} {event : Inbound} (booked : Booked pairing channel)
    (unforged : channel.Unforged side frame) (same : Session.SameSender (channel.session side) next)
    (sameSession : frame.sessionId = (channel.session side).sessionId)
    (due : frame.seq = (channel.session side).inSeq)
    (counted : next.inSeq = (channel.session side).inSeq + 1)
    (answered : (next.openFrame frame >>= next.parsePlaintext frame.msgType frame.msgId) =
      .ok event) :
    ((channel.sealed side.other).map
      (entryView pairing side))[(channel.session side).inSeq.toNat]? =
      some (view (frame, .ok event)) := by
  obtain ⟨plaintext, opened, parsed⟩ := Outcome.bind_eq_ok_iff.mp answered
  obtain ⟨-, opened⟩ := Session.openFrame_eq_ok_iff.mp opened
  unfold Session.aad at opened
  rw [same.recvKey, same.peerDir, same.sessionId] at opened
  obtain ⟨entry, found, sameFrame, rfl⟩ := entry_of_open aead booked unforged sameSession opened
  rw [List.getElem?_map, ← due, found, Option.map_some]
  refine congrArg some (Prod.ext sameFrame.symm ?_)
  have sealedAs := ((booked side.other).frames _ entry found).1
  have sameType : frame.msgType = entry.op.msgType := by
    have types := congrArg Frame.msgType sameFrame
    rwa [sealedAs] at types
  have sameId : frame.msgId = entry.op.msgId := by
    have ids := congrArg Frame.msgId sameFrame
    rwa [sealedAs] at ids
  have sameSeq : entry.frame.seq = frame.seq := (congrArg Frame.seq sameFrame).symm
  change entry.reading (Session.new (pairing.result side)) = .ok event
  rw [← parsed, sameType, sameId]
  apply Session.parsePlaintext_congr
  rw [counted, ← due, ← sameSeq]

/-! ### Steps keep the invariant -/

variable {profile : Profile} {pairing : Pairing} {channel next : Channel} {side : Side}

theorem Intact.refuse (intact : Intact pairing channel side) {session : Session} {frame : Frame}
    {outcome : Outcome SessionError Inbound}
    (later : (channel.session side).inSeq.toNat ≤ session.inSeq.toNat)
    (refused : outcome.isOk = false) :
    Intact pairing
      { channel with
        session := Function.update channel.session side session
        handled := Function.update channel.handled side
          (channel.handled side ++ [(frame, outcome)]) } side := by
  constructor
  · unfold Channel.accepted
    simp only [Function.update_self, List.filter_append, List.filter_singleton, refused,
      cond_false, List.append_nil]
    exact intact.accepted.trans (List.take_sublist_take_left later)
  · unfold Channel.untroubled
    simp only [Function.update_self, List.takeWhile_append, List.takeWhile_cons, refused,
      Bool.false_eq_true, if_false, List.append_nil]
    split
    · rename_i all
      have whole : (channel.handled side).takeWhile (fun answer => answer.2.isOk) =
          channel.handled side :=
        (List.takeWhile_prefix _).eq_of_length all
      rw [← whole]
      exact intact.untroubled
    · exact intact.untroubled
  · intro allOk
    simp only [Function.update_self] at allOk
    have last := allOk (frame, outcome) (List.mem_append_right _ (List.mem_singleton_self _))
    rw [refused] at last
    cases last

theorem Intact.accept (intact : Intact pairing channel side) {session : Session} {frame : Frame}
    {event : Inbound} (small : (channel.session side).inSeq.toNat + 1 < 2 ^ 32)
    (counted : session.inSeq = (channel.session side).inSeq + 1)
    (due : ((channel.sealed side.other).map
        (entryView pairing side))[(channel.session side).inSeq.toNat]? =
      some (view (frame, .ok event))) :
    Intact pairing
      { channel with
        session := Function.update channel.session side session
        handled := Function.update channel.handled side
          (channel.handled side ++ [(frame, .ok event)]) } side := by
  have isOk : (Outcome.ok event : Outcome SessionError Inbound).isOk = true := rfl
  have count : session.inSeq.toNat = (channel.session side).inSeq.toNat + 1 := by
    rw [counted, toNat_succ small]
  constructor
  · unfold Channel.accepted
    simp only [Function.update_self, List.filter_append, List.filter_singleton, isOk, cond_true,
      List.map_append, List.map_singleton]
    rw [count, List.take_add_one, due, Option.toList_some]
    exact List.Sublist.append intact.accepted (List.Sublist.refl _)
  · unfold Channel.untroubled
    simp only [Function.update_self, List.takeWhile_append, List.takeWhile_cons,
      List.takeWhile_nil, isOk, if_true]
    split
    · rename_i all
      have whole : (channel.handled side).takeWhile (fun answer => answer.2.isOk) =
          channel.handled side :=
        (List.takeWhile_prefix _).eq_of_length all
      have allOk : ∀ answer ∈ channel.handled side, answer.2.isOk = true :=
        List.takeWhile_eq_self_iff.mp whole
      have untroubled := intact.untroubled
      unfold Channel.untroubled at untroubled
      rw [whole] at untroubled
      rw [List.map_append, List.map_singleton]
      apply isPrefix_concat untroubled
      rw [List.length_map, intact.counted allOk]
      exact due
    · exact intact.untroubled
  · intro allOk
    simp only [Function.update_self] at allOk ⊢
    rw [List.length_append, List.length_singleton, count, intact.counted]
    intro answer member
    exact allOk answer (List.mem_append_left _ member)

theorem intact_start : Intact pairing (start pairing) side :=
  ⟨List.Sublist.refl _, List.nil_prefix, fun _ => rfl⟩

/-- Sealing on the own side changes nothing here; sealing on the other side
appends an entry. -/
theorem Intact.send (intact : Intact pairing channel side) {one : Side} {op : Outbound}
    (sent : channel.send profile one op = some next) : Intact pairing next side := by
  rcases send_inv sent with rfl | ⟨session, frame, encrypted, rfl⟩
  · exact intact
  · rcases Side.eq_or_eq_other side one with rfl | rfl
    · obtain ⟨-, rfl, -, -⟩ := Outbound.encrypt_ok encrypted
      constructor
      · simp only [Function.update_self, Function.update_of_ne one.other_ne]
        exact intact.accepted
      · simp only [Function.update_of_ne one.other_ne]
        exact intact.untroubled
      · intro allOk
        simp only [Function.update_self]
        exact intact.counted allOk
    · constructor
      · simp only [Function.update_self, Function.update_of_ne side.other_ne.symm]
        rw [List.map_append]
        apply intact.accepted.trans
        exact (List.prefix_append _ _).take _ |>.sublist
      · simp only [Function.update_self]
        rw [List.map_append]
        exact intact.untroubled.trans (List.prefix_append _ _)
      · intro allOk
        simp only [Function.update_of_ne side.other_ne.symm]
        exact intact.counted allOk

theorem Intact.receive (aead : AeadCorrect) (booked : Booked pairing channel)
    (intact : Intact pairing channel side) {one : Side} {frame : Frame}
    (unforged : channel.Unforged one frame)
    (received : channel.receive profile one frame = some next) : Intact pairing next side := by
  obtain ⟨session, outcome, answered, rfl⟩ := receive_inv received
  rcases Side.eq_or_eq_other side one with rfl | rfl
  · obtain ⟨same, turnedAway | ⟨sameSession, due, small, counted, answer⟩⟩ :=
      Session.handleFrame_inv answered
    · apply intact.refuse (Nat.le_of_eq (by rw [turnedAway.1]))
      cases outcome with
      | ok event => exact absurd rfl (turnedAway.2 event)
      | err error => rfl
      | panic => rfl
    · cases outcome with
      | ok event =>
          exact intact.accept small counted
            (view_of_counted aead booked unforged same sameSession due counted answer.symm)
      | err error => exact intact.refuse (by rw [counted, toNat_succ small]; omega) rfl
      | panic => exact intact.refuse (by rw [counted, toNat_succ small]; omega) rfl
  · constructor
    · unfold Channel.accepted
      simp only [Function.update_of_ne side.other_ne.symm]
      exact intact.accepted
    · unfold Channel.untroubled
      simp only [Function.update_of_ne side.other_ne.symm]
      exact intact.untroubled
    · simp only [Function.update_of_ne side.other_ne.symm]
      exact intact.counted

theorem invariant_of_reachable (aead : AeadCorrect)
    (reachable : Reachable profile pairing channel) :
    Booked pairing channel ∧ ∀ side, Intact pairing channel side := by
  induction reachable with
  | refl => exact ⟨booked_start, fun _ => intact_start⟩
  | tail _ step ih =>
      obtain ⟨booked, intact⟩ := ih
      cases step with
      | send one op sent => exact ⟨booked.send sent, fun side => (intact side).send sent⟩
      | receive one frame unforged received =>
          exact ⟨booked.receive received,
            fun side => (intact side).receive aead booked unforged received⟩

/-- The counts of sealed frames increase. -/
theorem sealed_increasing (booked : Booked pairing channel) :
    (channel.sealed side).Pairwise fun left right => left.frame.seq < right.frame.seq := by
  rw [List.pairwise_iff_getElem]
  intro first second firstIn secondIn earlier
  have firstSeq := (booked side).seq_eq (List.getElem?_eq_getElem firstIn)
  have secondSeq := (booked side).seq_eq (List.getElem?_eq_getElem secondIn)
  rw [UInt32.lt_iff_toNat_lt, firstSeq, secondSeq]
  exact earlier

/-! ### Integrity -/

/-- Whatever frames `side` is handed: those it accepts are, up to their flags,
frames its peer sealed, in increasing order and read as sealed; and those
before its first error are the first that its peer sealed. -/
theorem integrity (aead : AeadCorrect) (profile : Profile) (pairing : Pairing) (channel : Channel)
    (reachable : Reachable profile pairing channel) (side : Side) :
    ((channel.accepted side).map view).Sublist
      ((channel.sealed side.other).map (entryView pairing side)) ∧
    ((channel.accepted side).Pairwise fun left right => left.1.seq < right.1.seq) ∧
    (∃ count ≤ (channel.sealed side.other).length,
      (channel.untroubled side).map view =
        ((channel.sealed side.other).take count).map (entryView pairing side)) ∧
    ∀ entry ∈ channel.sealed side.other, entry.op.Transmittable →
      (entryView pairing side entry).2 = .ok (entry.op.event entry.frame.seq) := by
  obtain ⟨booked, intact⟩ := invariant_of_reachable aead reachable
  have carried := (intact side).accepted.trans (List.take_sublist _ _)
  refine ⟨carried, ?_, ?_, ?_⟩
  · have increasing : ((channel.sealed side.other).map (entryView pairing side)).Pairwise
        fun left right => left.1.seq < right.1.seq :=
      List.pairwise_map.mpr (sealed_increasing booked)
    have accepted : ((channel.accepted side).map view).Pairwise
        fun left right => left.1.seq < right.1.seq := increasing.sublist carried
    rw [List.pairwise_map] at accepted
    exact accepted
  · have starts := (intact side).untroubled
    refine ⟨(channel.untroubled side).length, ?_, ?_⟩
    · have short := starts.length_le
      rwa [List.length_map, List.length_map] at short
    · rw [List.map_take, List.prefix_iff_eq_take.mp starts, List.length_map]
  · intro entry member transmittable
    change entry.reading _ = _
    rw [Sealed.reading, Outbound.parsePlaintext_plaintext transmittable]
    exact congrArg (fun seq => Outcome.ok (entry.op.event seq)) (UInt32.add_sub_cancel _ _)

/-! ### A frame delivered as it was sealed -/

theorem unforged_entry (booked : Booked pairing channel) {entry : Sealed}
    (member : entry ∈ channel.sealed side.other) : channel.Unforged side entry.frame := by
  intro plaintext opened
  have complementary := pairing.complementary_at side
  obtain ⟨index, found⟩ := List.mem_iff_getElem?.mp member
  have sealedAs := ((booked side.other).frames index entry found).1
  refine ⟨side.other, entry, member, ?_, ?_, ?_, ?_⟩
  · change (channel.session side.other).sendKey = _
    rw [(booked side.other).sendKey, (booked side).recvKey, complementary.send]
  · change Session.nonce (channel.session side.other).myDir _ = _
    rw [(booked side.other).myDir, (booked side).peerDir, complementary.peerDir_eq]
  · change (channel.session side.other).aad _ _ _ = _
    unfold Session.aad
    rw [(booked side.other).sessionId, (booked side).sessionId, complementary.keys]
  · rw [AeadCall.ciphertext, Sealed.call, (booked side.other).sendKey, (booked side.other).myDir,
      sealedAs]
    unfold Session.aad
    rw [(booked side.other).sessionId]
    rfl

theorem exists_delivery (aead : AeadCorrect) (profile : Profile)
    (booked : Booked pairing channel) (side : Side) {entry : Sealed}
    (due : (channel.sealed side.other)[(channel.session side).inSeq.toNat]? = some entry)
    (transmittable : entry.op.Transmittable) :
    ∃ next, Step profile channel next ∧
      next.handled side =
        channel.handled side ++ [(entry.frame, .ok (entry.op.event entry.frame.seq))] := by
  obtain ⟨session, -, -, answered⟩ := handleFrame_entry aead profile booked side due transmittable
  have unforged := unforged_entry booked (List.mem_of_getElem? due)
  exact ⟨_, .receive side entry.frame unforged (receive_of_ok answered), Function.update_self _ _ _⟩

omit [Crates] in
/-- The left side seals a message, the right side is handed the frame and
accepts it. -/
theorem integrity_sample :
    letI := symbolicCrates [] []
    ∃ channel, Reachable .release Symbolic.samplePairing channel ∧
      (channel.accepted .right).length = 1 ∧
      ((channel.accepted .right).map view).Sublist
        ((channel.sealed .left).map (entryView Symbolic.samplePairing .right)) := by
  let _ := symbolicCrates [] []
  have aead := Symbolic.aeadCorrect [] []
  have transmittable : (Outbound.message "hi" 9 1000).Transmittable := by
    change (utf8Bytes "hi").length ≤ Session.maxMessageBytes
    decide
  obtain ⟨⟨sender, frame⟩, encrypted⟩ := Outbound.encrypt_of_transmittable transmittable .release
    ((start Symbolic.samplePairing).session .left) (by decide)
  have sent : ∃ first, (start Symbolic.samplePairing).send .release .left (.message "hi" 9 1000) =
      some first ∧ first.sealed .left = [⟨.message "hi" 9 1000, frame⟩] ∧
      first.handled .right = [] ∧ (first.session .right).inSeq = 0 := by
    rw [send, encrypted]
    exact ⟨_, rfl, rfl, rfl, rfl⟩
  obtain ⟨first, sent, sealed, unhandled, uncounted⟩ := sent
  have due : (first.sealed .left)[(first.session .right).inSeq.toNat]? =
      some ⟨.message "hi" 9 1000, frame⟩ := by
    rw [sealed, uncounted]
    rfl
  obtain ⟨second, delivered, handled⟩ := exists_delivery aead .release
    (booked_start.send sent) .right due transmittable
  have reachable : Reachable .release Symbolic.samplePairing second :=
    .tail (.tail .refl (.send .left _ sent)) delivered
  refine ⟨second, reachable, ?_, (integrity aead .release Symbolic.samplePairing second reachable
    .right).1⟩
  rw [accepted, handled, unhandled]
  rfl

end Channel

end JeanGrey
