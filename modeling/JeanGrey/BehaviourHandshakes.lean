/-
The handshakes of two honest devices, run by their session behaviours.

A behaviour that holds the `count`-th state of a handshake answers the next
frame of the other side as the handshake does: it sends the next frame, and
after the fifth it holds the session.
-/

import JeanGrey.Behaviour
import JeanGrey.HandshakeDuplex

namespace JeanGrey

open Crates Runs

variable [Crates]

namespace SessionBehaviour

structure HandshakeLaws : Prop where
  keys : VerifyingKeyRoundTrip
  kem : KemCorrect
  signatures : SignatureCorrect

variable {pair : Pair} {side : Side} {behaviour : SessionBehaviour} {conn : Connection}
  {expected : Option PeerId} {moment : Moment}

theorem onHandlerEvent_ready (profile : Profile)
    (identity : behaviour.identity = pair.identity side)
    (unstarted : behaviour.handshakes.lookup conn = none)
    (expects : behaviour.deviceOf conn.1 = pair.expected side)
    (starts : moment.instant = pair.startedAt side) :
    behaviour.onHandlerEvent profile conn.1 conn.2 .substreamReady moment =
      some ({ behaviour with
          handshakes :=
            behaviour.handshakes.insert conn (pair.stateAt side 0, pair.expected side)
        }.notifyConn conn.1 conn.2 [pair.frameAt side 0]) := by
  unfold onHandlerEvent
  dsimp only
  rw [unstarted, expects, identity, starts]
  rfl

/-- The answer to a frame to which the handshake of the connection replies as one
of the pair does. -/
theorem onFrame_of_reply (profile : Profile) (identity : behaviour.identity = pair.identity side)
    {count : Nat} {frame : Frame} (typed : frame.isSessionFrame = false)
    (found : behaviour.handshakes.lookup conn = some (pair.stateAt side count, expected))
    (reply : (pair.stateAt side count).onFrame (pair.identity side) frame moment.random =
      pair.replyAt side count) :
    behaviour.onFrame profile conn.1 conn.2 frame moment =
      if count < 4 then
        some ({ behaviour with
            handshakes :=
              behaviour.handshakes.insert conn (pair.stateAt side (count + 1), expected)
          }.notifyConn conn.1 conn.2 [pair.frameAt side (count + 1)])
      else behaviour.onEstablished conn.1 conn.2 (pair.result side) moment := by
  unfold onFrame
  rw [typed, if_neg Bool.false_ne_true, found]
  dsimp only
  rw [identity, reply]
  by_cases more : count < 4
  · simp only [Pair.replyAt, if_pos more]
  · simp only [Pair.replyAt, if_neg more]

theorem onFrame_due (laws : HandshakeLaws) (honest : pair.Honest) (profile : Profile)
    (identity : behaviour.identity = pair.identity side) {count : Nat} (early : count < 5)
    (found : behaviour.handshakes.lookup conn = some (pair.stateAt side count, expected))
    (random : moment.random = pair.random side count) :
    behaviour.onFrame profile conn.1 conn.2 (pair.frameAt side.other count) moment =
      if count < 4 then
        some ({ behaviour with
            handshakes :=
              behaviour.handshakes.insert conn (pair.stateAt side (count + 1), expected)
          }.notifyConn conn.1 conn.2 [pair.frameAt side (count + 1)])
      else behaviour.onEstablished conn.1 conn.2 (pair.result side) moment := by
  refine onFrame_of_reply profile identity (Duplex.frameAt_not_session _ _) found ?_
  rw [random]
  exact Pair.onFrame_expected honest laws.keys laws.kem laws.signatures side early

theorem onEstablished_quiet {result : HandshakeResult}
    (idle : behaviour.pendingSends.lookup result.peerId = none)
    (unobserved : behaviour.observedAddrs.lookup conn = none) :
    behaviour.onEstablished conn.1 conn.2 result moment =
      some ((behaviour.entered conn.1 conn.2 result).push
        (.generateEvent (.sessionEstablished result.peerId conn.2 result))) := by
  have waits : (behaviour.entered conn.1 conn.2 result).pendingSends.lookup result.peerId = none :=
    idle
  have unseen : (behaviour.entered conn.1 conn.2 result).observedAddrs.lookup (conn.1, conn.2) =
      none := unobserved
  rw [onEstablished_eq]
  simp only [flushPendingSends, waits, tellObserved, unseen, Option.map_some]

/-! ### Polling -/

theorem expired_zero (behaviour : SessionBehaviour) : behaviour.expired 0 = [] := by
  have none : (behaviour.handshakes.entries.filter fun entry => entry.2.1.timedOut 0) = [] := by
    apply List.filter_eq_nil_iff.mpr
    intro entry _
    unfold Handshake.timedOut
    rw [Nat.zero_sub]
    exact of_decide_eq_true rfl
  rw [expired, none]
  rfl

theorem poll_cons {item : ToSwarm} {later : List ToSwarm} {now : Nat}
    (punctual : behaviour.expired now = []) (queue : behaviour.queue = item :: later) :
    behaviour.poll now = ({ behaviour with queue := later }, some item) := by
  unfold poll expireHandshakes
  rw [punctual, List.foldl_nil]
  dsimp only
  rw [queue]

/-! ### A whole handshake -/

def converse (profile : Profile) (conn : Connection) :
    SessionBehaviour → List (HandlerToBehaviour × Moment) → Option SessionBehaviour :=
  run fun behaviour call => behaviour.onHandlerEvent profile conn.1 conn.2 call.1 call.2

theorem converse_frame {profile : Profile} {middle next : SessionBehaviour} {frame : Frame}
    {calls : List (HandlerToBehaviour × Moment)}
    (conversed : converse profile conn behaviour calls = some middle)
    (answered : middle.onFrame profile conn.1 conn.2 frame moment = some next) :
    converse profile conn behaviour (calls ++ [(.frameReceived frame, moment)]) = some next := by
  have handled : middle.onHandlerEvent profile conn.1 conn.2 (.frameReceived frame) moment =
      some next := answered
  exact run_concat conversed handled

def momentOf (pair : Pair) (side : Side) (count : Nat) : Moment :=
  { instant := pair.startedAt side
    nowMs := fun _ => 0
    msgIds := fun _ => 0
    random := pair.random side count }

def conversation (pair : Pair) (side : Side) (count : Nat) : List (HandlerToBehaviour × Moment) :=
  (.substreamReady, momentOf pair side 0) ::
    (List.range count).map fun index =>
      (.frameReceived (pair.frameAt side.other index), momentOf pair side index)

theorem conversation_succ (pair : Pair) (side : Side) (count : Nat) :
    conversation pair side (count + 1) = conversation pair side count ++
      [(.frameReceived (pair.frameAt side.other count), momentOf pair side count)] := by
  unfold conversation
  rw [List.range_succ, List.map_append]
  rfl

def sentFrames (pair : Pair) (side : Side) (conn : Connection) (count : Nat) : List ToSwarm :=
  (List.range (count + 1)).map fun index =>
    .notifyHandler conn.1 conn.2 [pair.frameAt side index]

theorem sentFrames_succ (pair : Pair) (side : Side) (conn : Connection) (count : Nat) :
    sentFrames pair side conn (count + 1) = sentFrames pair side conn count ++
      [.notifyHandler conn.1 conn.2 [pair.frameAt side (count + 1)]] := by
  unfold sentFrames
  rw [List.range_succ, List.map_append]
  rfl

/-- The handshake of the connection is in its `count`-th state, and nothing else
has changed. -/
structure Shaking (pair : Pair) (side : Side) (conn : Connection) (count : Nat)
    (behaviour next : SessionBehaviour) : Prop where
  same : next = { behaviour with
    handshakes := next.handshakes
    queue := behaviour.queue ++ sentFrames pair side conn count }
  found : next.handshakes.lookup conn = some (pair.stateAt side count, pair.expected side)
  others : ∀ other, other ≠ conn →
    next.handshakes.lookup other = behaviour.handshakes.lookup other

structure Joined (pair : Pair) (side : Side) (conn : Connection)
    (behaviour next : SessionBehaviour) : Prop where
  same : next = { behaviour with
    handshakes := next.handshakes
    transportDevices :=
      behaviour.transportDevices.insert conn.1 (pair.identity side.other).peerId
    deviceTransports :=
      behaviour.deviceTransports.insert (pair.identity side.other).peerId conn.1
    peerNames := behaviour.peerNames.insert (pair.identity side.other).peerId
      (pair.identity side.other).user.userName
    sessions := behaviour.sessions.insert (pair.identity side.other).peerId
      { transport := conn.1, connId := conn.2, session := Session.new (pair.result side) }
    queue := behaviour.queue ++ sentFrames pair side conn 4 ++
      [.generateEvent (.sessionEstablished (pair.identity side.other).peerId conn.2
        (pair.result side))] }
  handshakes : ∀ other, next.handshakes.lookup other =
    if other = conn then none else behaviour.handshakes.lookup other

structure Unstarted (pair : Pair) (side : Side) (conn : Connection)
    (behaviour : SessionBehaviour) : Prop where
  identity : behaviour.identity = pair.identity side
  handshake : behaviour.handshakes.lookup conn = none
  expects : behaviour.deviceOf conn.1 = pair.expected side

section Stages

variable {next : SessionBehaviour} {frame : Frame} {count : Nat}

theorem Unstarted.shaking (profile : Profile) (unstarted : Unstarted pair side conn behaviour)
    (starts : moment.instant = pair.startedAt side) :
    ∃ next, behaviour.onHandlerEvent profile conn.1 conn.2 .substreamReady moment = some next ∧
      Shaking pair side conn 0 behaviour next := by
  have started := onHandlerEvent_ready profile unstarted.identity unstarted.handshake
    unstarted.expects starts
  refine ⟨_, started, rfl, AList.lookup_insert _, ?_⟩
  intro other different
  exact AList.lookup_insert_ne different

theorem Shaking.identity (shaking : Shaking pair side conn count behaviour next)
    (unstarted : Unstarted pair side conn behaviour) : next.identity = pair.identity side := by
  rw [shaking.same]
  exact unstarted.identity

theorem Shaking.advance (profile : Profile) (moment : Moment)
    (shaking : Shaking pair side conn count behaviour next)
    (unstarted : Unstarted pair side conn behaviour) (more : count < 4)
    (typed : frame.isSessionFrame = false)
    (reply : (pair.stateAt side count).onFrame (pair.identity side) frame moment.random =
      pair.replyAt side count) :
    ∃ later, next.onFrame profile conn.1 conn.2 frame moment = some later ∧
      Shaking pair side conn (count + 1) behaviour later := by
  have answered := onFrame_of_reply profile (shaking.identity unstarted) typed shaking.found reply
  rw [if_pos more] at answered
  refine ⟨_, answered, ?_, AList.lookup_insert _, ?_⟩
  · have queue : next.queue ++ [.notifyHandler conn.1 conn.2 [pair.frameAt side (count + 1)]] =
        behaviour.queue ++ sentFrames pair side conn (count + 1) := by
      rw [sentFrames_succ, ← List.append_assoc, shaking.same]
    rw [← queue, shaking.same]
    rfl
  · intro other different
    exact (AList.lookup_insert_ne different).trans (shaking.others other different)

theorem Shaking.join (profile : Profile) (moment : Moment)
    (shaking : Shaking pair side conn 4 behaviour next)
    (unstarted : Unstarted pair side conn behaviour)
    (idle : behaviour.pendingSends.lookup (pair.identity side.other).peerId = none)
    (unobserved : behaviour.observedAddrs.lookup conn = none)
    (typed : frame.isSessionFrame = false)
    (reply : (pair.stateAt side 4).onFrame (pair.identity side) frame moment.random =
      pair.replyAt side 4) :
    ∃ later, next.onFrame profile conn.1 conn.2 frame moment = some later ∧
      Joined pair side conn behaviour later := by
  have answered := onFrame_of_reply profile (shaking.identity unstarted) typed shaking.found reply
  rw [if_neg (by omega)] at answered
  have quiet : next.pendingSends.lookup (pair.result side).peerId = none := by
    rw [shaking.same]
    exact idle
  have unseen : next.observedAddrs.lookup conn = none := by
    rw [shaking.same]
    exact unobserved
  rw [onEstablished_quiet quiet unseen] at answered
  refine ⟨_, answered, ?_, ?_⟩
  · rw [shaking.same]
    rfl
  · intro other
    change (next.handshakes.erase conn).lookup other = _
    by_cases same : other = conn
    · rw [same, if_pos rfl, AList.lookup_erase]
    · rw [if_neg same, AList.lookup_erase_ne same, shaking.others other same]

end Stages

theorem exists_shaking (laws : HandshakeLaws) (honest : pair.Honest) (profile : Profile)
    (unstarted : Unstarted pair side conn behaviour) {count : Nat} (within : count ≤ 4) :
    ∃ next, converse profile conn behaviour (conversation pair side count) = some next ∧
      Shaking pair side conn count behaviour next := by
  induction count with
  | zero =>
      have starts : (momentOf pair side 0).instant = pair.startedAt side := rfl
      obtain ⟨next, started, shaking⟩ := unstarted.shaking profile starts
      exact ⟨next, run_cons_of_step started [], shaking⟩
  | succ count ih =>
      obtain ⟨next, conversed, shaking⟩ := ih (by omega)
      have reply := Pair.onFrame_expected honest laws.keys laws.kem laws.signatures side
        (show count < 5 by omega)
      obtain ⟨later, answered, shaking'⟩ := shaking.advance profile (momentOf pair side count)
        unstarted (by omega) (Duplex.frameAt_not_session _ _) reply
      have conversed' := converse_frame conversed answered
      rw [← conversation_succ] at conversed'
      exact ⟨later, conversed', shaking'⟩

/-- Two honest devices complete their handshake, and each holds the session. -/
theorem exists_joined (laws : HandshakeLaws) (honest : pair.Honest) (profile : Profile)
    (unstarted : Unstarted pair side conn behaviour)
    (idle : behaviour.pendingSends.lookup (pair.identity side.other).peerId = none)
    (unobserved : behaviour.observedAddrs.lookup conn = none) :
    ∃ next, converse profile conn behaviour (conversation pair side 5) = some next ∧
      Joined pair side conn behaviour next := by
  obtain ⟨next, conversed, shaking⟩ :=
    exists_shaking laws honest profile unstarted (Nat.le_refl 4)
  have reply := Pair.onFrame_expected honest laws.keys laws.kem laws.signatures side
    (show 4 < 5 by omega)
  obtain ⟨later, answered, joined⟩ := shaking.join profile (momentOf pair side 4) unstarted idle
    unobserved (Duplex.frameAt_not_session _ _) reply
  have conversed' := converse_frame conversed answered
  rw [← conversation_succ] at conversed'
  exact ⟨later, conversed', joined⟩

omit [Crates] in
theorem sampleLaws : @HandshakeLaws (symbolicCrates [] []) :=
  @HandshakeLaws.mk (symbolicCrates [] []) (Symbolic.verifyingKeyRoundTrip [] [])
    (Symbolic.kemCorrect [] []) (Symbolic.signatureCorrect [] [])

end SessionBehaviour

end JeanGrey
