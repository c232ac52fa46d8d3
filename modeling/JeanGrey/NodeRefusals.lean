/-
Messages that are too large to be sent.

A text is refused in two places.  With a session `send_message` turns the refusal
into a `HandshakeFailed` event, and the node answers that event by disconnecting
the peer.  Without one the text waits, and when the session is established the
flush leaves it out and writes a line to the log.  Both leave the session and the
other messages as they would be without the refused text; the first does not keep
the connection, and the second tells nobody.
-/

import JeanGrey.BehaviourRuns
import JeanGrey.NodeIsolation

namespace JeanGrey

open Crates Runs

def Frame.tag (frame : Frame) : MessageType × UInt32 × UInt64 :=
  (frame.msgType, frame.seq, frame.msgId)

variable [Crates]

/-! ### Sessions -/

namespace Session

def Admissible (text : String) : Prop := (utf8Bytes text).length ≤ maxMessageBytes

instance (text : String) : Decidable (Admissible text) := inferInstanceAs (Decidable (_ ≤ _))

/-- What waits, without the texts that will be refused. -/
def admissible (waiting : List (UInt64 × String)) : List (UInt64 × String) :=
  waiting.filter fun message => decide (Admissible message.2)

variable (session : Session) {text : String}

theorem encryptMessage_refused (refused : ¬Admissible text) (msgId now : UInt64) :
    session.encryptMessage text msgId now = .err (.messageTooLarge (utf8Bytes text).length) := by
  have large : ¬¬(utf8Bytes text).length > maxMessageBytes := fun small =>
    refused (Nat.not_lt.mp small)
  simp only [encryptMessage, Outcome.ensure, if_neg large, Outcome.err_bind]

/-- The clock decides on the payload only. -/
theorem encryptMessage_clock (text : String) (msgId now later : UInt64) :
    (∃ next frame frame', session.encryptMessage text msgId now = .ok (next, frame) ∧
      session.encryptMessage text msgId later = .ok (next, frame') ∧ frame.tag = frame'.tag) ∨
    ∃ error, session.encryptMessage text msgId now = .err error ∧
      session.encryptMessage text msgId later = .err error := by
  by_cases admissible : Admissible text
  · have small : ¬(utf8Bytes text).length > maxMessageBytes := Nat.not_lt.mpr admissible
    cases numbered : checkedSucc session.outSeq with
    | some seq =>
        left
        refine ⟨{ session with outSeq := seq },
          session.sealFrame .message session.outSeq msgId (messagePlaintext text now),
          session.sealFrame .message session.outSeq msgId (messagePlaintext text later), ?_,
          ?_, rfl⟩
        all_goals simp [encryptMessage, Outcome.ensure, small, numbered, Outcome.okOr]
    | none =>
        right
        refine ⟨.hostile, ?_, ?_⟩
        all_goals simp [encryptMessage, Outcome.ensure, small, numbered, Outcome.okOr]
  · right
    exact ⟨_, session.encryptMessage_refused admissible msgId now,
      session.encryptMessage_refused admissible msgId later⟩

end Session

/-! ### The waiting messages -/

namespace SessionBehaviour

/-- The flush leaves the session, and numbers the other messages, as if the
refused ones had not been waiting. -/
theorem encryptAll_admissible (session : Session) (nowMs : Nat → UInt64) (reading reading' : Nat)
    (waiting : List (UInt64 × String)) :
    (encryptAll session nowMs reading waiting).1 =
        (encryptAll session nowMs reading' (Session.admissible waiting)).1 ∧
      (encryptAll session nowMs reading waiting).2.map Frame.tag =
        (encryptAll session nowMs reading' (Session.admissible waiting)).2.map Frame.tag := by
  induction waiting generalizing session reading reading' with
  | nil => exact ⟨rfl, rfl⟩
  | cons head later ih =>
      obtain ⟨msgId, text⟩ := head
      by_cases admissible : Session.Admissible text
      · have kept : Session.admissible ((msgId, text) :: later) =
            (msgId, text) :: Session.admissible later :=
          List.filter_cons_of_pos (decide_eq_true admissible)
        rw [kept]
        rcases session.encryptMessage_clock text msgId (nowMs reading) (nowMs reading')
          with ⟨next, frame, frame', sealed, sealed', same⟩ | ⟨error, failed, failed'⟩
        · obtain ⟨session_eq, tags_eq⟩ := ih next (reading + 1) (reading' + 1)
          simp only [encryptAll, sealed, sealed', List.map_cons]
          exact ⟨session_eq, congrArg₂ List.cons same tags_eq⟩
        · simp only [encryptAll, failed, failed']
          exact ih session (reading + 1) (reading' + 1)
      · have left_out : Session.admissible ((msgId, text) :: later) = Session.admissible later :=
          List.filter_cons_of_neg (fun kept => admissible (of_decide_eq_true kept))
        rw [left_out]
        simp only [encryptAll, session.encryptMessage_refused admissible]
        exact ih session (reading + 1) reading'

end SessionBehaviour

def ToSwarm.tags : ToSwarm → List (Connection × MessageType × UInt32 × UInt64)
  | notifyHandler peer connId frames => frames.map fun frame => ((peer, connId), frame.tag)
  | _ => []

def ToSwarm.event? : ToSwarm → Option BehaviourEvent
  | generateEvent event => some event
  | _ => none

namespace SessionBehaviour

/-! ### A call with and without the refused text -/

/-- The sessions with their counters, the waiting messages and the frames for
the connections are those of `kept`. -/
structure Undisturbed (kept next : SessionBehaviour) : Prop where
  sessions : next.sessions = kept.sessions
  waiting : next.pendingSends.lookup = kept.pendingSends.lookup
  observed : next.observedAddrs = kept.observedAddrs
  frames : next.queue.flatMap ToSwarm.tags = kept.queue.flatMap ToSwarm.tags

namespace Undisturbed

variable {kept next sent : SessionBehaviour}

theorem push (undisturbed : Undisturbed kept next) (item : ToSwarm) :
    Undisturbed (kept.push item) (next.push item) := by
  refine ⟨undisturbed.sessions, undisturbed.waiting, undisturbed.observed, ?_⟩
  simp only [SessionBehaviour.push, List.flatMap_append, undisturbed.frames]

theorem store (undisturbed : Undisturbed kept next) (sessions : Map PeerId BoundSession) :
    Undisturbed { kept with sessions := sessions } { next with sessions := sessions } :=
  ⟨rfl, undisturbed.waiting, undisturbed.observed, undisturbed.frames⟩

theorem forget (undisturbed : Undisturbed kept next) (conn : Connection) :
    Undisturbed { kept with observedAddrs := kept.observedAddrs.erase conn }
      { next with observedAddrs := next.observedAddrs.erase conn } :=
  ⟨undisturbed.sessions, undisturbed.waiting,
    congrArg (AList.erase conn) undisturbed.observed, undisturbed.frames⟩

/-- A control message has no clock reading in it, so it is the same frame. -/
theorem sendControl (undisturbed : Undisturbed kept next) {peer : PeerId}
    {encrypt : Session → Outcome SessionError (Session × Frame)}
    (sends : next.sendControl peer encrypt = some sent) :
    ∃ sent', kept.sendControl peer encrypt = some sent' ∧ Undisturbed sent' sent := by
  unfold SessionBehaviour.sendControl at sends ⊢
  rw [undisturbed.sessions] at sends
  cases found : kept.sessions.lookup peer with
  | none =>
      rw [found] at sends
      cases sends
      exact ⟨kept, rfl, undisturbed⟩
  | some bound =>
      rw [found] at sends
      dsimp only at sends ⊢
      cases sealed : encrypt bound.session with
      | ok result =>
          obtain ⟨session, frame⟩ := result
          rw [sealed] at sends
          cases sends
          exact ⟨_, rfl, (undisturbed.store _).push _⟩
      | err error =>
          rw [sealed] at sends
          cases sends
      | panic =>
          rw [sealed] at sends
          cases sends

end Undisturbed

variable {behaviour next : SessionBehaviour} {device transport : PeerId} {connId : ConnectionId}
  {waiting : List (UInt64 × String)} {moment : Moment}

/-- The behaviour as it would be had the refused texts not been queued. -/
def withoutRefused (behaviour : SessionBehaviour) (device : PeerId)
    (waiting : List (UInt64 × String)) : SessionBehaviour :=
  { behaviour with
    pendingSends := behaviour.pendingSends.insert device (Session.admissible waiting) }

theorem undisturbed_flushPendingSends (behaviour : SessionBehaviour) (transport : PeerId)
    (connId : ConnectionId) (moment : Moment)
    (waits : behaviour.pendingSends.lookup device = some waiting)
    {bound : BoundSession} (found : behaviour.sessions.lookup device = some bound) :
    Undisturbed
      ((behaviour.withoutRefused device waiting).flushPendingSends device transport connId moment)
      (behaviour.flushPendingSends device transport connId moment) := by
  have waits' : (behaviour.withoutRefused device waiting).pendingSends.lookup device =
      some (Session.admissible waiting) := AList.lookup_insert _
  have found' : (behaviour.withoutRefused device waiting).sessions.lookup device = some bound :=
    found
  obtain ⟨session_eq, tags_eq⟩ :=
    encryptAll_admissible bound.session moment.nowMs 0 0 waiting
  simp only [flushPendingSends, waits, waits', found, found', session_eq]
  refine ⟨rfl, ?_, rfl, ?_⟩
  · change (behaviour.pendingSends.erase device).lookup =
      ((behaviour.pendingSends.insert device _).erase device).lookup
    rw [lookup_erase_eq, lookup_erase_eq, lookup_insert_eq, Function.update_idem]
  · have tagged := congrArg (List.map fun tag => ((transport, connId), tag)) tags_eq
    simp only [notifyConn, SessionBehaviour.push, List.flatMap_append, List.flatMap_singleton,
      ToSwarm.tags]
    rw [List.map_map, List.map_map] at tagged
    exact congrArg _ tagged

theorem Undisturbed.tellObserved {kept told : SessionBehaviour}
    (undisturbed : Undisturbed kept next)
    {conn : Connection} {msgId : UInt64} (tells : next.tellObserved conn device msgId = some told) :
    ∃ told', kept.tellObserved conn device msgId = some told' ∧ Undisturbed told' told := by
  unfold SessionBehaviour.tellObserved at tells ⊢
  rw [undisturbed.observed] at tells
  cases seen : kept.observedAddrs.lookup conn with
  | none =>
      rw [seen] at tells
      cases tells
      exact ⟨kept, rfl, undisturbed⟩
  | some address =>
      rw [seen] at tells
      have forgotten := undisturbed.forget conn
      rw [undisturbed.observed] at forgotten
      exact forgotten.sendControl tells

theorem undisturbed_onEstablished {result : HandshakeResult}
    (waits : behaviour.pendingSends.lookup result.peerId = some waiting)
    (begun : behaviour.onEstablished transport connId result moment = some next) :
    ∃ kept, (behaviour.withoutRefused result.peerId waiting).onEstablished transport connId result
        moment = some kept ∧ Undisturbed kept next := by
  rw [onEstablished_eq] at begun
  obtain ⟨told, tells, rfl⟩ := Option.map_eq_some_iff.mp begun
  have flushed : Undisturbed
      (((behaviour.withoutRefused result.peerId waiting).entered transport connId
        result).flushPendingSends result.peerId transport connId moment)
      ((behaviour.entered transport connId result).flushPendingSends result.peerId transport connId
        moment) :=
    undisturbed_flushPendingSends (behaviour.entered transport connId result) transport connId
      moment waits (lookup_entered behaviour transport connId result)
  obtain ⟨told', tells', undisturbed⟩ := flushed.tellObserved tells
  refine ⟨_, ?_, undisturbed.push _⟩
  rw [onEstablished_eq, tells']
  rfl

theorem exists_onEstablished
    (unobserved : behaviour.observedAddrs.lookup (transport, connId) = none)
    (result : HandshakeResult) (moment : Moment) :
    ∃ next, behaviour.onEstablished transport connId result moment = some next := by
  have only := onlyTable_flushPendingSends (behaviour.entered transport connId result)
    result.peerId transport connId moment
  rw [onEstablished_eq]
  unfold tellObserved
  rw [only.observedAddrs]
  have unseen : (behaviour.entered transport connId result).observedAddrs.lookup
      (transport, connId) = none := unobserved
  rw [unseen]
  exact ⟨_, rfl⟩

def raised (behaviour next : SessionBehaviour) : List BehaviourEvent :=
  (next.queue.drop behaviour.queue.length).filterMap ToSwarm.event?

theorem raised_of_queues {report : BehaviourEvent} (queues : Queues behaviour next (some report)) :
    behaviour.raised next = [report] := by
  obtain ⟨sent, notifies, queue⟩ := queues
  have quiet : sent.filterMap ToSwarm.event? = [] := by
    refine List.filterMap_eq_nil_iff.mpr ?_
    intro item member
    have notify := notifies item member
    cases item with
    | notifyHandler peer connId frames => rfl
    | generateEvent event => exact notify.elim
    | dial opts => rfl
  unfold raised
  rw [queue, List.append_assoc, List.drop_left, List.filterMap_append, quiet]
  rfl

/-! ### Refusals -/

/-- How a message comes to be refused: the session is there when it is sent, or
is established while it waits. -/
inductive SendPath where
  | established
  | buffered

/-- The call that refuses a text: the behaviour before it and after it, and what
the call would have left without the refused texts.  `send_message` returns the
id of a refused message like that of any other. -/
inductive Refusal (moment : Moment) (text : String) : SendPath → PeerId → SessionBehaviour →
    SessionBehaviour → Option SessionBehaviour → Prop
  | established {peer : PeerId} {behaviour : SessionBehaviour} {bound : BoundSession}
      (found : behaviour.sessions.lookup peer = some bound) :
      Refusal moment text .established peer behaviour (behaviour.sendMessage peer text moment).1
        (some behaviour)
  | buffered {transport : PeerId} {connId : ConnectionId} {result : HandshakeResult}
      {behaviour next : SessionBehaviour} {waiting : List (UInt64 × String)} {msgId : UInt64}
      (waits : behaviour.pendingSends.lookup result.peerId = some waiting)
      (member : (msgId, text) ∈ waiting)
      (begun : behaviour.onEstablished transport connId result moment = some next) :
      Refusal moment text .buffered result.peerId behaviour next
        ((behaviour.withoutRefused result.peerId waiting).onEstablished transport connId result
          moment)

def Reports (events : List BehaviourEvent) (peer : PeerId) : Prop :=
  ∃ error, .handshakeFailed peer error ∈ events

end SessionBehaviour

namespace Node

/-- None of the events makes the node disconnect the peer. -/
def KeepsConnection (profile : Profile) (node : Node) (reading : Surroundings)
    (events : List BehaviourEvent) (peer : PeerId) : Prop :=
  ∀ event ∈ events, ∀ next, node.onSessionEvent profile event reading = some next →
    ∃ added, next.effects = node.effects ++ added ∧
      Effect.disconnectPeerId ((node.session.transportOf peer).getD peer) ∉ added

/-- The refusal of a message is a local failure: it leaves everything else as it
would be without the message, keeps the connection, and is reported. -/
structure LocalFailure (profile : Profile) (node : Node) (reading : Surroundings) (peer : PeerId)
    (behaviour next : SessionBehaviour) (kept : Option SessionBehaviour) : Prop where
  undisturbed : ∃ without, kept = some without ∧ SessionBehaviour.Undisturbed without next
  connection : node.KeepsConnection profile reading (behaviour.raised next) peer
  reported : SessionBehaviour.Reports (behaviour.raised next) peer

variable (profile : Profile) (node : Node) (reading : Surroundings)

theorem not_keepsConnection (peer : PeerId) (error : String) :
    ¬node.KeepsConnection profile reading [.handshakeFailed peer error] peer := by
  intro keeps
  obtain ⟨added, effects, spared⟩ := keeps _ (List.mem_singleton_self _) _ rfl
  rw [← List.append_cancel_left effects] at spared
  exact spared (List.mem_singleton_self _)

theorem keepsConnection_sessionEstablished (peer : PeerId) (connId : ConnectionId)
    (result : HandshakeResult) :
    node.KeepsConnection profile reading [.sessionEstablished peer connId result] peer := by
  intro event member next handled
  rw [List.mem_singleton.mp member] at handled
  unfold onSessionEvent at handled
  obtain ⟨reported, reports, rfl⟩ := Option.map_eq_some_iff.mp handled
  refine ⟨[.appendHistory (.sent (peerIdToBase58 peer) 0 "session-established")], ?_, ?_⟩
  · have same : reported.effects = node.effects := by
      split at reports
      · cases reports
        rfl
      · obtain ⟨session, -, rfl⟩ := Option.map_eq_some_iff.mp reports
        rfl
    change reported.effects ++ _ = _
    rw [same]
  · simp

section Refusals

variable {moment : Moment} {text : String} {path : SessionBehaviour.SendPath} {peer : PeerId}
  {behaviour next : SessionBehaviour} {kept : Option SessionBehaviour}
  (refused : ¬Session.Admissible text)
  (refusal : SessionBehaviour.Refusal moment text path peer behaviour next kept)

include refused refusal

/-- With a session the refusal is reported and costs the connection; without one
it keeps the connection and is not reported. -/
theorem refusal_outcome :
    (∃ without, kept = some without ∧ SessionBehaviour.Undisturbed without next) ∧
      (node.KeepsConnection profile reading (behaviour.raised next) peer ↔ path = .buffered) ∧
      (SessionBehaviour.Reports (behaviour.raised next) peer ↔ path = .established) := by
  cases refusal with
  | @established peer behaviour bound found =>
      have sent : (behaviour.sendMessage peer text moment).1 = behaviour.push (.generateEvent
          (.handshakeFailed peer ("session error: " ++
            (SessionError.messageTooLarge (utf8Bytes text).length).text))) := by
        simp only [SessionBehaviour.sendMessage, found,
          bound.session.encryptMessage_refused refused]
      rw [sent, SessionBehaviour.raised_of_queues (SessionBehaviour.queues_report rfl)]
      refine ⟨⟨_, rfl, rfl, rfl, rfl, ?_⟩, ?_, ?_⟩
      · simp [SessionBehaviour.push, ToSwarm.tags]
      · simp [not_keepsConnection]
      · simp [SessionBehaviour.Reports]
  | buffered waits member begun =>
      rw [SessionBehaviour.raised_of_queues (SessionBehaviour.onEstablished_inv begun).2]
      refine ⟨SessionBehaviour.undisturbed_onEstablished waits begun, ?_, ?_⟩
      · simp [keepsConnection_sessionEstablished]
      · simp [SessionBehaviour.Reports]

theorem not_localFailure :
    ¬node.LocalFailure profile reading peer behaviour next kept := by
  obtain ⟨-, keeps, reports⟩ := refusal_outcome profile node reading refused refusal
  intro localFailure
  have buffered := keeps.mp localFailure.connection
  have established := reports.mp localFailure.reported
  rw [buffered] at established
  cases established

/-- No refusal is a local failure, whichever way the message takes: one way
loses the connection, and on the other nothing is reported. -/
theorem refused_never_local :
    ¬node.LocalFailure profile reading peer behaviour next kept ∧
      (∃ without, kept = some without ∧ SessionBehaviour.Undisturbed without next) ∧
      (node.KeepsConnection profile reading (behaviour.raised next) peer ↔ path = .buffered) ∧
      (SessionBehaviour.Reports (behaviour.raised next) peer ↔ path = .established) := by
  obtain ⟨undisturbed, keeps, reports⟩ := refusal_outcome profile node reading refused refusal
  exact ⟨not_localFailure profile node reading refused refusal, undisturbed, keeps, reports⟩

end Refusals

/-! ### A text that is one byte too long -/

section Samples

omit [Crates] in
theorem length_utf8Bytes_replicate (count : Nat) :
    (utf8Bytes (String.ofList (List.replicate count 'a'))).length = count := by
  have ascii : 'a'.utf8Size = 1 := by decide
  unfold utf8Bytes
  rw [String.toByteArray_ofList, List.utf8Encode]
  simp [ascii]

def longText : String := String.ofList (List.replicate (Session.maxMessageBytes + 1) 'a')

omit [Crates] in
theorem longText_refused : ¬Session.Admissible longText := by
  unfold Session.Admissible longText
  rw [length_utf8Bytes_replicate]
  omega

theorem exists_established_refusal (laws : SessionBehaviour.HandshakeLaws) {pair : Pair}
    (honest : pair.Honest) (side : Side) (unexpected : pair.expected side = none)
    (conn : Connection) (text : String) (moment : Moment) :
    ∃ observed next kept,
      Observed.Reachable profile (fun _ _ _ => True) (pair.identity side) observed ∧
      SessionBehaviour.Refusal moment text .established (pair.identity side.other).peerId
        observed.behaviour next kept := by
  obtain ⟨joined, reachable, isJoined⟩ := Observed.exists_joined (fun _ _ _ => True) laws honest
    profile unexpected conn fun _ _ _ => trivial
  exact ⟨_, _, _, reachable, .established (Observed.lookup_joined isJoined)⟩

/-- A device queues a text for a peer, and then the last frame of a handshake
with the peer arrives. -/
theorem exists_buffered_refusal (laws : SessionBehaviour.HandshakeLaws) {pair : Pair}
    (honest : pair.Honest) (side : Side) (unexpected : pair.expected side = none)
    (conn : Connection) (text : String) :
    ∃ observed next kept,
      Observed.Reachable profile (fun _ _ _ => True) (pair.identity side) observed ∧
      observed.behaviour.onFrame profile conn.1 conn.2 (pair.frameAt side.other 4)
        (SessionBehaviour.momentOf pair side 4) = some next ∧
      SessionBehaviour.Refusal (SessionBehaviour.momentOf pair side 4) text .buffered
        (pair.identity side.other).peerId observed.behaviour next kept := by
  let peer := (pair.identity side.other).peerId
  let moment := SessionBehaviour.momentOf pair side 4
  have unstarted : SessionBehaviour.Unstarted pair side conn
      ((SessionBehaviour.new (pair.identity side)).sendMessage peer text moment).1 :=
    ⟨rfl, rfl, unexpected.symm⟩
  obtain ⟨shaken, conversed, shaking⟩ :=
    SessionBehaviour.exists_shaking laws honest profile unstarted (Nat.le_refl 4)
  have queued : Observed.Reachable profile (fun _ _ _ => True) (pair.identity side) _ :=
    Relation.ReflTransGen.refl.tail (.act moment (.sendMessage peer text) trivial rfl)
  have reached := queued.converse (fun _ _ _ => trivial) conversed
  have waits : shaken.pendingSends.lookup (pair.result side).peerId =
      some [(moment.msgIds 0, text)] := by
    rw [shaking.same]
    exact AList.lookup_insert _
  have unobserved : shaken.observedAddrs.lookup (conn.1, conn.2) = none := by
    rw [shaking.same]
    rfl
  have random : moment.random = pair.random side 4 := rfl
  have answered := SessionBehaviour.onFrame_due laws honest profile (shaking.identity unstarted)
    (by omega) shaking.found random
  rw [if_neg (by omega)] at answered
  obtain ⟨next, begun⟩ := SessionBehaviour.exists_onEstablished unobserved (pair.result side) moment
  exact ⟨_, next, _, reached, answered.trans begun,
    .buffered waits (List.mem_singleton_self _) begun⟩

/-- There is a run in which the text is refused on `path`, and not as a local
failure. -/
def RefusedBadly (identity : DeviceIdentity) (text : String) (path : SessionBehaviour.SendPath) :
    Prop :=
  ∃ moment peer observed next kept,
    Observed.Reachable .release (fun _ _ _ => True) identity observed ∧
    SessionBehaviour.Refusal moment text path peer observed.behaviour next kept ∧
    ∀ (node : Node) reading,
      ¬node.LocalFailure .release reading peer observed.behaviour next kept

omit [Crates] in
/-- On both paths a text of one byte too many is refused, and not as a local
failure. -/
theorem refusal_not_local :
    letI := symbolicCrates [] []
    RefusedBadly ((Duplex.samplePair []).identity .right) longText .established ∧
      RefusedBadly ((Duplex.samplePair []).identity .right) longText .buffered := by
  let _ := symbolicCrates [] []
  constructor
  · obtain ⟨observed, next, kept, reachable, refusal⟩ := exists_established_refusal .release
      SessionBehaviour.sampleLaws (Duplex.samplePair_honest []) .right rfl (([9] : Bytes), 1)
      longText { instant := 0, nowMs := fun _ => 0, msgIds := fun _ => 0, random := [] }
    exact ⟨_, _, observed, next, kept, reachable, refusal, fun node reading =>
      not_localFailure .release node reading longText_refused refusal⟩
  · obtain ⟨observed, next, kept, reachable, -, refusal⟩ := exists_buffered_refusal .release
      SessionBehaviour.sampleLaws (Duplex.samplePair_honest []) .right rfl (([9] : Bytes), 1)
      longText
    exact ⟨_, _, observed, next, kept, reachable, refusal, fun node reading =>
      not_localFailure .release node reading longText_refused refusal⟩

omit [Crates] in
/-- The text that waited for the session is gone, and no event says so. -/
theorem refused_never_local_sample :
    letI := symbolicCrates [] []
    ∃ (observed : Observed) (next : SessionBehaviour) (kept : Option SessionBehaviour),
      ∀ (node : Node) reading,
        observed.behaviour.onFrame .release ([9] : Bytes) 1
          ((Duplex.samplePair []).frameAt .left 4)
          (SessionBehaviour.momentOf (Duplex.samplePair []) .right 4) = some next ∧
        ¬node.LocalFailure .release reading ((Duplex.samplePair []).identity .left).peerId
          observed.behaviour next kept ∧
        ¬SessionBehaviour.Reports (observed.behaviour.raised next)
          ((Duplex.samplePair []).identity .left).peerId := by
  let _ := symbolicCrates [] []
  obtain ⟨observed, next, kept, -, answered, refusal⟩ := exists_buffered_refusal .release
    SessionBehaviour.sampleLaws (Duplex.samplePair_honest []) .right rfl (([9] : Bytes), 1) longText
  refine ⟨observed, next, kept, ?_⟩
  intro node reading
  obtain ⟨disturbed, -, -, reports⟩ :=
    refused_never_local .release node reading longText_refused refusal
  exact ⟨answered, disturbed, fun reported => by cases reports.mp reported⟩

end Samples

end Node

end JeanGrey
