/-
Completeness of a session.

Two sessions of one handshake seal frames in any order, and each side's frames
reach the other in order, encoded and decoded on the way.  Every frame is then
accepted and read as the event of the operation that sealed it.
-/

import JeanGrey.SessionChannel

namespace JeanGrey

open Crates Runs

variable [Crates]

inductive ChannelAction where
  | send (side : Side) (op : Outbound)
  | deliver (side : Side)

namespace Channel

def deliver (profile : Profile) (channel : Channel) (side : Side) : Option Channel :=
  match (channel.sealed side.other)[(channel.handled side).length]? with
  | none => none
  | some entry =>
      match Framing.decode (Framing.encode entry.frame) with
      | .error _ => none
      | .ok frame => channel.receive profile side frame

def step (profile : Profile) (channel : Channel) : ChannelAction → Option Channel
  | .send side op => channel.send profile side op
  | .deliver side => channel.deliver profile side

/-- What the environment promises of an action. -/
def Promised : ChannelAction → Prop
  | .send _ op => op.Transmittable
  | .deliver _ => True

def answerTo (entry : Sealed) : Frame × Outcome SessionError Inbound :=
  (entry.frame, .ok (entry.op.event entry.frame.seq))

/-- Each side has read the first entries of the other, all of them as sealed. -/
structure Lossless (pairing : Pairing) (channel : Channel) : Prop where
  booked : Booked pairing channel
  transmittable : ∀ side, ∀ entry ∈ channel.sealed side, entry.op.Transmittable
  counted : ∀ side, (channel.session side).inSeq.toNat = (channel.handled side).length
  handled : ∀ side, channel.handled side <+: (channel.sealed side.other).map answerTo

variable {profile : Profile} {pairing : Pairing} {channel next : Channel} {side : Side}

theorem lossless_start : Lossless pairing (start pairing) :=
  ⟨booked_start, fun _ => List.forall_mem_nil _, fun _ => rfl, fun _ => List.nil_prefix⟩

/-! ### The wire -/

theorem valid_entry (aead : AeadCorrect)
    (nonzero : (pairing.result side).keys.sessionId ≠ Octets.zero 16)
    (booked : Booked pairing channel) {entry : Sealed} (member : entry ∈ channel.sealed side) :
    entry.frame.Valid := by
  obtain ⟨index, found⟩ := List.mem_iff_getElem?.mp member
  obtain ⟨sealedAs, short⟩ := (booked side).frames index entry found
  have limit : Outbound.maxPlaintext + 16 ≤ Framing.maxPayload := by decide
  rw [sealedAs]
  constructor
  · rfl
  · change (aeadSeal _ _ _ entry.op.plaintext).length ≤ Framing.maxPayload
    rw [aeadSeal, aead.length]
    omega
  · have session : entry.op.msgType.isHandshake = false := by cases entry.op <;> rfl
    change if entry.op.msgType.isHandshake then _ else _
    rw [session]
    exact nonzero

theorem deliver_inv (aead : AeadCorrect)
    (nonzero : ∀ side, (pairing.result side).keys.sessionId ≠ Octets.zero 16)
    (booked : Booked pairing channel) (delivered : channel.deliver profile side = some next) :
    ∃ entry, (channel.sealed side.other)[(channel.handled side).length]? = some entry ∧
      channel.receive profile side entry.frame = some next := by
  unfold deliver at delivered
  split at delivered
  · cases delivered
  · rename_i entry found
    have valid := valid_entry aead (nonzero side.other) booked (List.mem_of_getElem? found)
    rw [Framing.decode_encode entry.frame valid] at delivered
    exact ⟨entry, found, delivered⟩

/-! ### Steps keep the invariant -/

theorem Lossless.send (lossless : Lossless pairing channel) {one : Side} {op : Outbound}
    (transmittable : op.Transmittable) (sent : channel.send profile one op = some next) :
    Lossless pairing next := by
  have booked := lossless.booked.send sent
  rcases send_inv sent with rfl | ⟨session, frame, encrypted, rfl⟩
  · exact lossless
  · refine ⟨booked, ?_, ?_, ?_⟩
    · intro side entry member
      by_cases same : side = one
      · subst same
        simp only [Function.update_self] at member
        rcases List.mem_append.mp member with old | last
        · exact lossless.transmittable side entry old
        · rw [List.mem_singleton.mp last]
          exact transmittable
      · simp only [Function.update_of_ne same] at member
        exact lossless.transmittable side entry member
    · intro side
      by_cases same : side = one
      · subst same
        obtain ⟨-, rfl, -, -⟩ := Outbound.encrypt_ok encrypted
        simp only [Function.update_self]
        exact lossless.counted side
      · simp only [Function.update_of_ne same]
        exact lossless.counted side
    · intro side
      by_cases same : side.other = one
      · subst same
        simp only [Function.update_self]
        rw [List.map_append]
        exact (lossless.handled side).trans (List.prefix_append _ _)
      · simp only [Function.update_of_ne same]
        exact lossless.handled side

/-- The next frame is answered as it deserves. -/
theorem Lossless.answered (lossless : Lossless pairing channel) (aead : AeadCorrect)
    (profile : Profile) (side : Side) {entry : Sealed}
    (found : (channel.sealed side.other)[(channel.handled side).length]? = some entry) :
    ∃ session, session.inSeq.toNat = (channel.session side).inSeq.toNat + 1 ∧
      (channel.session side).handleFrame profile entry.frame =
        (session, .ok (entry.op.event entry.frame.seq)) := by
  have due : (channel.sealed side.other)[(channel.session side).inSeq.toNat]? = some entry := by
    rw [lossless.counted side]
    exact found
  obtain ⟨session, counted, small, answered⟩ := handleFrame_entry aead profile lossless.booked side
    due (lossless.transmittable side.other entry (List.mem_of_getElem? found))
  exact ⟨session, by rw [counted, toNat_succ small], answered⟩

theorem Lossless.deliver (lossless : Lossless pairing channel) (aead : AeadCorrect)
    (nonzero : ∀ side, (pairing.result side).keys.sessionId ≠ Octets.zero 16) {one : Side}
    (delivered : channel.deliver profile one = some next) : Lossless pairing next := by
  obtain ⟨entry, found, received⟩ := deliver_inv aead nonzero lossless.booked delivered
  obtain ⟨session, counted, answered⟩ := lossless.answered aead profile one found
  have booked := lossless.booked.receive received
  rw [receive_of_ok answered] at received
  cases received
  refine ⟨booked, lossless.transmittable, ?_, ?_⟩
  · intro side
    by_cases same : side = one
    · subst same
      simp only [Function.update_self]
      rw [counted, lossless.counted side, List.length_append, List.length_singleton]
    · simp only [Function.update_of_ne same]
      exact lossless.counted side
  · intro side
    by_cases same : side = one
    · subst same
      simp only [Function.update_self]
      apply isPrefix_concat (lossless.handled side)
      rw [List.getElem?_map, found]
      rfl
    · simp only [Function.update_of_ne same]
      exact lossless.handled side

/-! ### Completeness -/

/-- However sealing and in-order delivery interleave: the answers of each side
are the events of the first frames of the other, every frame that is delivered
next is decoded and accepted too, and an operation fails only when the counter
of its direction is exhausted. -/
theorem completeness (aead : AeadCorrect) (profile : Profile) (pairing : Pairing)
    (nonzero : (pairing.result .left).keys.sessionId ≠ Octets.zero 16)
    (actions : List ChannelAction) (channel : Channel)
    (promised : ∀ action ∈ actions, Promised action)
    (reached : run (step profile) (start pairing) actions = some channel) (side : Side) :
    channel.handled side <+: (channel.sealed side.other).map answerTo ∧
    (∀ index (entry : Sealed), (channel.sealed side)[index]? = some entry →
      entry.frame.seq.toNat = index) ∧
    (∀ entry : Sealed, (channel.sealed side.other)[(channel.handled side).length]? = some entry →
      Framing.decode (Framing.encode entry.frame) = .ok entry.frame ∧
      ∃ next, channel.deliver profile side = some next ∧
        next.handled side = channel.handled side ++ [answerTo entry]) ∧
    ∀ op : Outbound, op.Transmittable → (channel.sealed side).length < 2 ^ 32 - 1 →
      ∃ frame next, channel.send profile side op = some next ∧
        next.sealed side = channel.sealed side ++ [⟨op, frame⟩] := by
  have sameId : (pairing.result .right).keys = (pairing.result .left).keys :=
    pairing.complementary.keys.symm
  have nonzero : ∀ side, (pairing.result side).keys.sessionId ≠ Octets.zero 16 := by
    intro side
    cases side with
    | left => exact nonzero
    | right =>
        rw [sameId]
        exact nonzero
  have lossless : Lossless pairing channel := by
    refine run_invariant ?_ lossless_start promised reached
    intro state action next promise holds stepped
    cases action with
    | send one op => exact holds.send promise stepped
    | deliver one => exact holds.deliver aead nonzero stepped
  refine ⟨lossless.handled side, ?_, ?_, ?_⟩
  · intro index entry found
    exact (lossless.booked side).seq_eq found
  · intro entry found
    have valid := valid_entry aead (nonzero side.other) lossless.booked (List.mem_of_getElem? found)
    have decoded := Framing.decode_encode entry.frame valid
    obtain ⟨session, -, answered⟩ := lossless.answered aead profile side found
    have delivered : channel.deliver profile side = channel.receive profile side entry.frame := by
      rw [deliver, found]
      simp only [decoded]
    exact ⟨decoded, _, delivered.trans (receive_of_ok answered), Function.update_self _ _ _⟩
  · intro op transmittable room
    have small : (channel.session side).outSeq.toNat + 1 < 2 ^ 32 := by
      rw [(lossless.booked side).count]
      omega
    obtain ⟨⟨session, frame⟩, encrypted⟩ :=
      Outbound.encrypt_of_transmittable transmittable profile (channel.session side) small
    refine ⟨frame, _, by rw [send, encrypted], Function.update_self _ _ _⟩

omit [Crates] in
/-- The left side seals an address report, and the right side reads it. -/
theorem completeness_sample :
    letI := symbolicCrates [] []
    ∃ channel entry,
      run (step .debug) (start Symbolic.samplePairing)
        [.send .left (.observedAddr (.v4 (.zero 4)) 4001 9), .deliver .right] = some channel ∧
      channel.handled .right = [answerTo entry] ∧
      channel.handled .right <+: (channel.sealed .left).map answerTo := by
  let _ := symbolicCrates [] []
  have aead := Symbolic.aeadCorrect [] []
  have nonzero : (Symbolic.samplePairing.result .left).keys.sessionId ≠ Octets.zero 16 := by decide
  let op : Outbound := .observedAddr (.v4 (.zero 4)) 4001 9
  have promise : ∀ action ∈ [ChannelAction.send .left op, .deliver .right], Promised action :=
    List.forall_mem_cons.mpr ⟨trivial, List.forall_mem_singleton.mpr trivial⟩
  obtain ⟨-, -, -, sends⟩ := completeness aead .debug Symbolic.samplePairing nonzero [] _
    (List.forall_mem_nil _) (run_nil _ _) .left
  obtain ⟨frame, first, sent, sealed⟩ := sends op trivial (by decide)
  have stepped : step .debug (start Symbolic.samplePairing) (.send .left op) = some first := sent
  have reached :
      run (step .debug) (start Symbolic.samplePairing) [.send .left op] = some first := by
    rw [run_cons_of_step stepped, run_nil]
  obtain ⟨-, -, delivers, -⟩ := completeness aead .debug Symbolic.samplePairing nonzero
    [.send .left op] first (List.forall_mem_singleton.mpr trivial) reached .right
  have unhandled : first.handled .right = [] := by
    rcases send_inv sent with rfl | ⟨_, _, _, rfl⟩
    · rfl
    · rfl
  obtain ⟨-, second, delivered, handled⟩ := delivers ⟨op, frame⟩ (by
    rw [unhandled]
    change (first.sealed .left)[0]? = _
    rw [sealed]
    rfl)
  have delivery : step .debug first (.deliver .right) = some second := delivered
  have reached :
      run (step .debug) (start Symbolic.samplePairing) [.send .left op, .deliver .right] =
      some second := by
    rw [run_cons_of_step stepped, run_cons_of_step delivery, run_nil]
  refine ⟨second, ⟨op, frame⟩, reached, ?_, ?_⟩
  · rw [handled, unhandled]
    rfl
  · exact (completeness aead .debug Symbolic.samplePairing nonzero _ second promise reached
      .right).1

end Channel

end JeanGrey
