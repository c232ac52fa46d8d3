/-
Two sessions and what passes between them.

A channel holds the two sessions of one handshake, the operations each side has
carried out with the frames they sealed, and the frames each side was handed
with the answers it gave.  The ledger of a side says how its session, its
handshake result and its sealed frames fit together; sealing and receiving keep
it.
-/

import JeanGrey.Library.Runs
import JeanGrey.HandshakeDuplex
import JeanGrey.SessionPlaintext
import JeanGrey.SymbolicCrates

namespace JeanGrey

open Crates Runs

variable [Crates]

structure Complementary (left right : HandshakeResult) : Prop where
  distinct : left.myId ≠ left.peerId
  peer : left.peerId = right.myId
  peer' : right.peerId = left.myId
  keys : left.keys = right.keys
  send : left.sendKey = right.recvKey
  receive : left.recvKey = right.sendKey

namespace Complementary

theorem symm {left right : HandshakeResult} (complementary : Complementary left right) :
    Complementary right left := by
  constructor
  · rw [complementary.peer', ← complementary.peer]
    exact complementary.distinct.symm
  · exact complementary.peer'
  · exact complementary.peer
  · exact complementary.keys.symm
  · exact complementary.receive.symm
  · exact complementary.send.symm

theorem peerDir_eq {left right : HandshakeResult} (complementary : Complementary left right) :
    (Session.new right).peerDir = (Session.new left).myDir := by
  change (if right.myId < right.peerId then Session.higherDir else Session.lowerDir) =
    if left.myId < left.peerId then Session.lowerDir else Session.higherDir
  rw [complementary.peer', ← complementary.peer]
  rcases lt_or_gt_of_ne complementary.distinct with lower | higher
  · rw [if_neg (not_lt_of_gt lower), if_pos lower]
  · rw [if_pos higher, if_neg (not_lt_of_gt higher)]

end Complementary

theorem Pair.Honest.complementary {pair : Pair} (honest : pair.Honest) :
    Complementary (pair.result .left) (pair.result .right) := by
  constructor
  · exact honest.distinct
  · rfl
  · rfl
  · exact (Pair.keys_eq honest .left).symm
  · exact honest.sendKey_eq .left
  · exact (honest.sendKey_eq .right).symm

structure Pairing where
  result : Side → HandshakeResult
  complementary : Complementary (result .left) (result .right)

theorem Pairing.complementary_at (pairing : Pairing) (side : Side) :
    Complementary (pairing.result side.other) (pairing.result side) := by
  cases side with
  | left => exact pairing.complementary.symm
  | right => exact pairing.complementary

/-! ### What receiving a frame changes -/

namespace Session

/-- The parts of a session that receiving a frame leaves alone. -/
structure SameSender (before after : Session) : Prop where
  sessionId : after.sessionId = before.sessionId
  sendKey : after.sendKey = before.sendKey
  recvKey : after.recvKey = before.recvKey
  myDir : after.myDir = before.myDir
  peerDir : after.peerDir = before.peerDir
  outSeq : after.outSeq = before.outSeq

omit [Crates] in
theorem SameSender.refl (session : Session) : SameSender session session :=
  ⟨rfl, rfl, rfl, rfl, rfl, rfl⟩

theorem SameSender.sealFrame_eq {before after : Session} (same : SameSender before after)
    (msgType : MessageType) (msgId : UInt64) (plaintext : Bytes) :
    after.sealFrame msgType after.outSeq msgId plaintext =
      before.sealFrame msgType before.outSeq msgId plaintext := by
  simp only [sealFrame, aad, same.sessionId, same.sendKey, same.myDir, same.outSeq]

/-- Either a frame is turned away before it is counted, or it carries the count
that is due, is counted, and is read. -/
theorem handleFrame_inv {profile : Profile} {session next : Session} {frame : Frame}
    {outcome : Outcome SessionError Inbound}
    (answered : session.handleFrame profile frame = (next, outcome)) :
    SameSender session next ∧
      ((next.inSeq = session.inSeq ∧ ∀ event, outcome ≠ .ok event) ∨
        (frame.sessionId = session.sessionId ∧ frame.seq = session.inSeq ∧
          session.inSeq.toNat + 1 < 2 ^ 32 ∧ next.inSeq = session.inSeq + 1 ∧
          outcome = next.openFrame frame >>= next.parsePlaintext frame.msgType frame.msgId)) := by
  unfold handleFrame at answered
  split at answered
  · cases answered
    exact ⟨.refl session, .inl ⟨rfl, nofun⟩⟩
  · rename_i sameSession
    split at answered
    · split at answered
      · cases answered
        exact ⟨.refl session, .inl ⟨rfl, nofun⟩⟩
      · dsimp only at answered
        split at answered
        · cases answered
          exact ⟨⟨rfl, rfl, rfl, rfl, rfl, rfl⟩, .inl ⟨rfl, nofun⟩⟩
        · cases answered
          exact ⟨⟨rfl, rfl, rfl, rfl, rfl, rfl⟩, .inl ⟨rfl, nofun⟩⟩
    · rename_i due
      split at answered
      · cases answered
        exact ⟨.refl session, .inl ⟨rfl, nofun⟩⟩
      · rename_i count counted
        obtain ⟨small, rfl⟩ := checkedSucc_eq_some_iff.mp counted
        cases answered
        exact ⟨⟨rfl, rfl, rfl, rfl, rfl, rfl⟩,
          .inr ⟨not_ne_iff.mp sameSession, not_ne_iff.mp due, small, rfl, rfl⟩⟩

theorem handleFrame_due (profile : Profile) {session : Session} {frame : Frame}
    (sameSession : frame.sessionId = session.sessionId) (due : frame.seq = session.inSeq)
    (small : session.inSeq.toNat + 1 < 2 ^ 32) :
    ∃ next, next.inSeq = session.inSeq + 1 ∧ SameSender session next ∧
      session.handleFrame profile frame =
        (next, next.openFrame frame >>= next.parsePlaintext frame.msgType frame.msgId) := by
  refine ⟨remember { session with inSeq := session.inSeq + 1 } frame.seq frame.msgId, rfl,
    ⟨rfl, rfl, rfl, rfl, rfl, rfl⟩, ?_⟩
  have counted : checkedSucc session.inSeq = some (session.inSeq + 1) :=
    checkedSucc_eq_some_iff.mpr ⟨small, rfl⟩
  unfold handleFrame
  rw [if_neg (not_not.mpr sameSession), if_neg (not_not.mpr due), counted]

theorem openFrame_eq_ok_iff {session : Session} {frame : Frame} {plaintext : Bytes} :
    session.openFrame frame = .ok plaintext ↔
      frame.isSessionFrame = true ∧
      aeadOpen session.recvKey (nonce session.peerDir frame.seq)
        (session.aad frame.msgType frame.seq frame.msgId) frame.payload = some plaintext := by
  unfold openFrame Frame.isSessionFrame
  cases frame.msgType <;>
    simp only [Outcome.okOr_eq_ok_iff, true_and, false_and, reduceCtorEq, Bool.false_eq_true]

theorem parsePlaintext_congr {left right : Session} (same : left.inSeq = right.inSeq)
    (msgType : MessageType) (msgId : UInt64) (plaintext : Bytes) :
    left.parsePlaintext msgType msgId plaintext = right.parsePlaintext msgType msgId plaintext := by
  unfold parsePlaintext parseMessage parseObservedAddr parseDialBackReq parseDialBackRes
  rw [same]

theorem openFrame_congr {session next : Session} (same : SameSender session next) (frame : Frame) :
    next.openFrame frame = session.openFrame frame := by
  unfold openFrame aad
  rw [same.recvKey, same.peerDir, same.sessionId]

/-- The session accepts a frame: it is the one that is due, opens, parses, and is
remembered. -/
structure Admits (session : Session) (frame : Frame) (next : Session) (event : Inbound) :
    Prop where
  facing : frame.sessionId = session.sessionId
  due : frame.seq = session.inSeq
  small : session.inSeq.toNat + 1 < 2 ^ 32
  moved : next = remember { session with inSeq := session.inSeq + 1 } frame.seq frame.msgId
  read : ∃ plaintext, session.openFrame frame = .ok plaintext ∧
    next.parsePlaintext frame.msgType frame.msgId plaintext = .ok event

theorem admits_of_handleFrame {profile : Profile} {session next : Session} {frame : Frame}
    {event : Inbound} (answered : session.handleFrame profile frame = (next, .ok event)) :
    session.Admits frame next event := by
  obtain ⟨same, ⟨-, refused⟩ | ⟨facing, due, small, -, read⟩⟩ := handleFrame_inv answered
  · exact absurd rfl (refused event)
  · have counted : checkedSucc session.inSeq = some (session.inSeq + 1) :=
      checkedSucc_eq_some_iff.mpr ⟨small, rfl⟩
    obtain ⟨plaintext, opened, parsed⟩ := Outcome.bind_eq_ok_iff.mp read.symm
    rw [openFrame_congr same] at opened
    unfold handleFrame at answered
    rw [if_neg (not_not.mpr facing), if_neg (not_not.mpr due), counted] at answered
    exact ⟨facing, due, small, (Prod.mk.inj answered).1.symm, plaintext, opened, parsed⟩

/-- A frame that is due and opens is counted, and its plaintext is parsed. -/
theorem handleFrame_opened (profile : Profile) {session : Session} {frame : Frame}
    {plaintext : Bytes} (facing : frame.sessionId = session.sessionId)
    (due : frame.seq = session.inSeq) (small : session.inSeq.toNat + 1 < 2 ^ 32)
    (opened : session.openFrame frame = .ok plaintext) :
    ∃ next, next.inSeq = session.inSeq + 1 ∧ SameSender session next ∧
      session.handleFrame profile frame =
        (next, next.parsePlaintext frame.msgType frame.msgId plaintext) := by
  obtain ⟨next, counted, same, answered⟩ := handleFrame_due profile facing due small
  refine ⟨next, counted, same, ?_⟩
  rw [answered, openFrame_congr same, opened, Outcome.ok_bind]

/-- The session at the other end, as far as it seals. -/
def facing (session : Session) : Session :=
  { session with sendKey := session.recvKey, myDir := session.peerDir }

/-- Whoever holds the keys of a session can make it read any operation. -/
theorem handleFrame_facing (aead : AeadCorrect) (profile : Profile) (session : Session)
    (small : session.inSeq.toNat + 1 < 2 ^ 32) {op : Outbound} (transmittable : op.Transmittable) :
    ∃ next, next.inSeq = session.inSeq + 1 ∧ SameSender session next ∧
      session.handleFrame profile
          (session.facing.sealFrame op.msgType session.inSeq op.msgId op.plaintext) =
        (next, .ok (op.event session.inSeq)) := by
  have sameSession : (session.facing.sealFrame op.msgType session.inSeq op.msgId
      op.plaintext).sessionId = session.sessionId := rfl
  have opened : session.openFrame (session.facing.sealFrame op.msgType session.inSeq op.msgId
      op.plaintext) = .ok op.plaintext := by
    rw [openFrame_eq_ok_iff]
    constructor
    · cases op <;> rfl
    · exact aead.decrypt _ _ _ _
  obtain ⟨next, counted, same, answered⟩ :=
    handleFrame_opened profile sameSession rfl small opened
  refine ⟨next, counted, same, ?_⟩
  rw [answered]
  change (next, next.parsePlaintext op.msgType op.msgId op.plaintext) = _
  rw [Outbound.parsePlaintext_plaintext transmittable, counted, UInt32.add_sub_cancel]

theorem sealFrame_facing {left right : HandshakeResult} (complementary : Complementary left right)
    (msgType : MessageType) (seq : UInt32) (msgId : UInt64) (plaintext : Bytes) :
    (new right).facing.sealFrame msgType seq msgId plaintext =
      (new left).sealFrame msgType seq msgId plaintext := by
  have sameId : (new right).facing.sessionId = (new left).sessionId := by
    change right.keys.sessionId = left.keys.sessionId
    rw [complementary.keys]
  have sameKey : (new right).facing.sendKey = (new left).sendKey := complementary.send.symm
  have sameDir : (new right).facing.myDir = (new left).myDir := complementary.peerDir_eq
  unfold sealFrame aad
  rw [sameId, sameKey, sameDir]

theorem small_new (result : HandshakeResult) :
    (Session.new result).inSeq.toNat + 1 < 2 ^ 32 ∧
      (Session.new result).outSeq.toNat + 1 < 2 ^ 32 := by
  change 0 + 1 < 2 ^ 32 ∧ 0 + 1 < 2 ^ 32
  omega

theorem exists_due (aead : AeadCorrect) (profile : Profile) (session : Session)
    (small : session.inSeq.toNat + 1 < 2 ^ 32) {op : Outbound} (transmittable : op.Transmittable) :
    ∃ frame next, frame.isSessionFrame = true ∧ next.inSeq = session.inSeq + 1 ∧
      SameSender session next ∧
      session.handleFrame profile frame = (next, .ok (op.event session.inSeq)) := by
  obtain ⟨next, counted, same, answered⟩ := handleFrame_facing aead profile session small
    transmittable
  have typed : (session.facing.sealFrame op.msgType session.inSeq op.msgId
      op.plaintext).isSessionFrame = true := by
    cases op <;> rfl
  exact ⟨_, next, typed, counted, same, answered⟩

end Session

/-! ### Channels -/

structure Sealed where
  op : Outbound
  frame : Frame

def Sealed.reading (entry : Sealed) (reader : Session) : Outcome SessionError Inbound :=
  { reader with inSeq := entry.frame.seq + 1 }.parsePlaintext entry.op.msgType entry.op.msgId
    entry.op.plaintext

structure Channel where
  session : Side → Session
  sealed : Side → List Sealed
  handled : Side → List (Frame × Outcome SessionError Inbound)

namespace Channel

def start (pairing : Pairing) : Channel :=
  { session := fun side => Session.new (pairing.result side)
    sealed := fun _ => []
    handled := fun _ => [] }

/-- `side` carries out a sealing operation; an error changes nothing, a panic
ends the run. -/
def send (profile : Profile) (channel : Channel) (side : Side) (op : Outbound) : Option Channel :=
  match op.encrypt profile (channel.session side) with
  | .ok (next, frame) =>
      some
        { channel with
          session := Function.update channel.session side next
          sealed := Function.update channel.sealed side (channel.sealed side ++ [⟨op, frame⟩]) }
  | .err _ => some channel
  | .panic => none

def receive (profile : Profile) (channel : Channel) (side : Side) (frame : Frame) :
    Option Channel :=
  match (channel.session side).handleFrame profile frame with
  | (_, .panic) => none
  | (next, outcome) =>
      some
        { channel with
          session := Function.update channel.session side next
          handled := Function.update channel.handled side
            (channel.handled side ++ [(frame, outcome)]) }

theorem send_inv {profile : Profile} {channel next : Channel} {side : Side} {op : Outbound}
    (sent : channel.send profile side op = some next) :
    next = channel ∨ ∃ session frame,
      op.encrypt profile (channel.session side) = .ok (session, frame) ∧
      next = { channel with
        session := Function.update channel.session side session
        sealed := Function.update channel.sealed side (channel.sealed side ++ [⟨op, frame⟩]) } := by
  unfold send at sent
  split at sent
  · rename_i session frame encrypted
    exact .inr ⟨session, frame, encrypted, (Option.some.inj sent).symm⟩
  · exact .inl (Option.some.inj sent).symm
  · cases sent

theorem receive_inv {profile : Profile} {channel next : Channel} {side : Side} {frame : Frame}
    (received : channel.receive profile side frame = some next) :
    ∃ session outcome, (channel.session side).handleFrame profile frame = (session, outcome) ∧
      next = { channel with
        session := Function.update channel.session side session
        handled := Function.update channel.handled side
          (channel.handled side ++ [(frame, outcome)]) } := by
  unfold receive at received
  split at received
  · cases received
  · rename_i session outcome _ answered
    exact ⟨session, outcome, answered, (Option.some.inj received).symm⟩

theorem receive_of_ok {profile : Profile} {channel : Channel} {side : Side} {frame : Frame}
    {session : Session} {event : Inbound}
    (answered : (channel.session side).handleFrame profile frame = (session, .ok event)) :
    channel.receive profile side frame = some
      { channel with
        session := Function.update channel.session side session
        handled := Function.update channel.handled side
          (channel.handled side ++ [(frame, .ok event)]) } := by
  rw [receive, answered]

end Channel

/-! ### The ledger of a side -/

/-- The session of a side still has the keys of its result, and its frames are
the sealed plaintexts of its operations, counted from zero. -/
structure Ledger (result : HandshakeResult) (session : Session) (entries : List Sealed) : Prop where
  sessionId : session.sessionId = result.keys.sessionId
  sendKey : session.sendKey = result.sendKey
  recvKey : session.recvKey = result.recvKey
  myDir : session.myDir = (Session.new result).myDir
  peerDir : session.peerDir = (Session.new result).peerDir
  count : session.outSeq.toNat = entries.length
  frames : ∀ index entry, entries[index]? = some entry →
    entry.frame = (Session.new result).sealFrame entry.op.msgType (UInt32.ofNat index)
        entry.op.msgId entry.op.plaintext ∧
      entry.op.plaintext.length ≤ Outbound.maxPlaintext

namespace Ledger

variable {profile : Profile} {result : HandshakeResult} {session next : Session}
  {entries : List Sealed}

theorem initial (result : HandshakeResult) : Ledger result (Session.new result) [] :=
  ⟨rfl, rfl, rfl, rfl, rfl, rfl, fun _ _ found => nomatch found⟩

theorem receive (ledger : Ledger result session entries)
    (same : Session.SameSender session next) : Ledger result next entries :=
  ⟨same.sessionId.trans ledger.sessionId, same.sendKey.trans ledger.sendKey,
    same.recvKey.trans ledger.recvKey, same.myDir.trans ledger.myDir,
    same.peerDir.trans ledger.peerDir, by rw [same.outSeq, ledger.count], ledger.frames⟩

theorem send (ledger : Ledger result session entries) {op : Outbound} {frame : Frame}
    (encrypted : op.encrypt profile session = .ok (next, frame)) :
    Ledger result next (entries ++ [⟨op, frame⟩]) := by
  obtain ⟨small, rfl, sealed, short⟩ := Outbound.encrypt_ok encrypted
  have seq : session.outSeq = UInt32.ofNat entries.length := by
    rw [← ledger.count, UInt32.ofNat_toNat]
  have sealedAs : frame = (Session.new result).sealFrame op.msgType (UInt32.ofNat entries.length)
      op.msgId op.plaintext := by
    rw [sealed, ← seq]
    unfold Session.sealFrame Session.aad
    rw [ledger.sessionId, ledger.sendKey, ledger.myDir]
    rfl
  refine ⟨ledger.sessionId, ledger.sendKey, ledger.recvKey, ledger.myDir, ledger.peerDir, ?_, ?_⟩
  · rw [List.length_append, List.length_singleton, ← ledger.count]
    exact toNat_succ small
  · intro index entry found
    by_cases old : index < entries.length
    · rw [List.getElem?_append_left old] at found
      exact ledger.frames index entry found
    · rw [List.getElem?_append_right (Nat.le_of_not_lt old)] at found
      obtain ⟨isLast, same⟩ := List.getElem?_eq_some_iff.mp found
      have position : index = entries.length := by
        rw [List.length_singleton] at isLast
        omega
      rw [List.getElem_singleton] at same
      rw [← same, position]
      exact ⟨sealedAs, short⟩

theorem length_lt (ledger : Ledger result session entries) : entries.length < 2 ^ 32 := by
  rw [← ledger.count]
  exact session.outSeq.toNat_lt

theorem seq_eq (ledger : Ledger result session entries) {index : Nat} {entry : Sealed}
    (found : entries[index]? = some entry) : entry.frame.seq.toNat = index := by
  have bound : index < entries.length := (List.getElem?_eq_some_iff.mp found).1
  rw [(ledger.frames index entry found).1]
  change (UInt32.ofNat index).toNat = index
  rw [UInt32.toNat_ofNat']
  exact Nat.mod_eq_of_lt (Nat.lt_trans bound ledger.length_lt)

end Ledger

namespace Channel

variable {profile : Profile} {pairing : Pairing} {channel next : Channel} {side : Side}

def Booked (pairing : Pairing) (channel : Channel) : Prop :=
  ∀ side, Ledger (pairing.result side) (channel.session side) (channel.sealed side)

theorem booked_start : Booked pairing (start pairing) :=
  fun side => Ledger.initial (pairing.result side)

theorem Booked.send (booked : Booked pairing channel) {one : Side} {op : Outbound}
    (sent : channel.send profile one op = some next) : Booked pairing next := by
  rcases send_inv sent with rfl | ⟨session, frame, encrypted, rfl⟩
  · exact booked
  · intro side
    by_cases same : side = one
    · subst same
      simp only [Function.update_self]
      exact (booked side).send encrypted
    · simp only [Function.update_of_ne same]
      exact booked side

theorem Booked.receive (booked : Booked pairing channel) {one : Side} {frame : Frame}
    (received : channel.receive profile one frame = some next) : Booked pairing next := by
  obtain ⟨session, outcome, answered, rfl⟩ := receive_inv received
  intro side
  by_cases same : side = one
  · subst same
    simp only [Function.update_self]
    exact (booked side).receive (Session.handleFrame_inv answered).1
  · simp only [Function.update_of_ne same]
    exact booked side

/-- The entry of the peer that is due is accepted, and read as the event of its
operation. -/
theorem handleFrame_entry (aead : AeadCorrect) (profile : Profile)
    (booked : Booked pairing channel) (side : Side) {entry : Sealed}
    (due : (channel.sealed side.other)[(channel.session side).inSeq.toNat]? = some entry)
    (transmittable : entry.op.Transmittable) :
    ∃ session, session.inSeq = (channel.session side).inSeq + 1 ∧
      (channel.session side).inSeq.toNat + 1 < 2 ^ 32 ∧
      (channel.session side).handleFrame profile entry.frame =
        (session, .ok (entry.op.event entry.frame.seq)) := by
  have sealedAs := ((booked side.other).frames _ entry due).1
  have complementary := pairing.complementary_at side
  have within : (channel.session side).inSeq.toNat < (channel.sealed side.other).length :=
    (List.getElem?_eq_some_iff.mp due).1
  have small : (channel.session side).inSeq.toNat + 1 < 2 ^ 32 :=
    Nat.lt_of_le_of_lt within (booked side.other).length_lt
  have sameSession : entry.frame.sessionId = (channel.session side).sessionId := by
    rw [sealedAs, (booked side).sessionId, ← complementary.keys]
    rfl
  have sameSeq : entry.frame.seq = (channel.session side).inSeq :=
    UInt32.toNat_inj.mp ((booked side.other).seq_eq due)
  have opened : (channel.session side).openFrame entry.frame = .ok entry.op.plaintext := by
    rw [Session.openFrame_eq_ok_iff]
    constructor
    · rw [sealedAs]
      cases entry.op <;> rfl
    · unfold Session.aad
      rw [(booked side).recvKey, (booked side).peerDir, (booked side).sessionId,
        complementary.peerDir_eq, ← complementary.send, ← complementary.keys, sealedAs]
      exact aead.decrypt _ _ _ _
  obtain ⟨session, counted, -, answered⟩ :=
    Session.handleFrame_opened profile sameSession sameSeq small opened
  have types : entry.frame.msgType = entry.op.msgType ∧ entry.frame.msgId = entry.op.msgId := by
    rw [sealedAs]
    exact ⟨rfl, rfl⟩
  refine ⟨session, counted, small, ?_⟩
  rw [answered, types.1, types.2, Outbound.parsePlaintext_plaintext transmittable, counted, sameSeq,
    UInt32.add_sub_cancel]

end Channel

/-! ### Two sample sessions -/

namespace Symbolic

omit [Crates]

def sampleKeys : SessionKeys :=
  { sessionId := fit 16 [7]
    aToB := fit 32 [1]
    bToA := fit 32 [2] }

noncomputable def sampleResult (side : Side) : @HandshakeResult (symbolicCrates [] []) :=
  letI := symbolicCrates [] []
  let peerHello : PeerHello := { pubkey := fit 1952 [], deviceUuid := fit 16 [], userName := "ada" }
  match side with
  | .left =>
      { myId := ([1] : Bytes)
        peerId := ([2] : Bytes)
        peerHello := peerHello
        keys := sampleKeys
        sendKey := sampleKeys.aToB
        recvKey := sampleKeys.bToA }
  | .right =>
      { myId := ([2] : Bytes)
        peerId := ([1] : Bytes)
        peerHello := peerHello
        keys := sampleKeys
        sendKey := sampleKeys.bToA
        recvKey := sampleKeys.aToB }

noncomputable def samplePairing : @Pairing (symbolicCrates [] []) :=
  letI := symbolicCrates [] []
  { result := sampleResult
    complementary := ⟨by decide, rfl, rfl, rfl, rfl, rfl⟩ }

end Symbolic

end JeanGrey
