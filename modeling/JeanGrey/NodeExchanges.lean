/-
What a peer can make a node do.

A peer that holds a session with a node chooses the frames the node reads.  Here
a node goes through the handshake with a peer, and is then told whatever the
peer likes.
-/

import JeanGrey.NodeIsolation
import JeanGrey.NodeMoves

namespace JeanGrey

open Crates Runs

variable [Crates]

def HandlerToBehaviour.isSessionFrame : HandlerToBehaviour → Bool
  | .frameReceived frame => frame.isSessionFrame
  | _ => false

namespace Node

def Shakes (profile : Profile) (conn : Connection) (node next : Node) : Prop :=
  ∃ reading event, event.isSessionFrame = false ∧
    node.act profile reading (.handlerEvent conn.1 conn.2 event) = some next

def Hears (profile : Profile) (conn : Connection) (node next : Node) : Prop :=
  ∃ reading event, event.isSessionFrame = true ∧
    node.act profile reading (.handlerEvent conn.1 conn.2 event) = some next

/-- The session behaviour is polled, and the node makes nothing special of it. -/
def Idles (profile : Profile) (node next : Node) : Prop :=
  ∃ reading, node.deed reading .poll = .routine ∧ node.act profile reading .poll = some next

inductive Quiet (profile : Profile) : Node → Node → Prop
  | shakes {node next : Node} {conn : Connection} (shakes : Shakes profile conn node next) :
      Quiet profile node next
  | hears {node next : Node} {conn : Connection} (hears : Hears profile conn node next) :
      Quiet profile node next
  | idles {node next : Node} (idles : Idles profile node next) : Quiet profile node next

def Prompt (profile : Profile) (node next : Node) : Prop :=
  ∃ reading action, reading.instant = 0 ∧ node.act profile reading action = some next

def readingAt (moment : Moment) : Surroundings :=
  { drawing [] with toMoment := moment }

variable {profile : Profile} {node : Node}

theorem Quiet.exists_act {next : Node} (quiet : Quiet profile node next) :
    ∃ reading action, node.deed reading action = .routine ∧
      node.act profile reading action = some next := by
  cases quiet with
  | shakes shakes =>
      obtain ⟨reading, event, -, acted⟩ := shakes
      exact ⟨reading, _, rfl, acted⟩
  | hears hears =>
      obtain ⟨reading, event, -, acted⟩ := hears
      exact ⟨reading, _, rfl, acted⟩
  | idles idles =>
      obtain ⟨reading, silent, acted⟩ := idles
      exact ⟨reading, _, silent, acted⟩

theorem quiet_of_shakes {conn : Connection} {next : Node}
    (shakes : Relation.ReflTransGen (Shakes profile conn) node next) :
    Relation.ReflTransGen (Quiet profile) node next :=
  Relation.ReflTransGen.mono (fun _ _ step => Quiet.shakes step) _ _ shakes

theorem quiet_of_idles {next : Node} (idles : Relation.ReflTransGen (Idles profile) node next) :
    Relation.ReflTransGen (Quiet profile) node next :=
  Relation.ReflTransGen.mono (fun _ _ step => Quiet.idles step) _ _ idles

/-! ### Polling -/

theorem act_poll {event : BehaviourEvent} {later : List ToSwarm} {session : SessionBehaviour}
    (queue : session.queue = .generateEvent event :: later) :
    ({ node with session := session } : Node).act profile (drawing []) .poll =
      ({ node with session := { session with queue := later } } : Node).onSessionEvent profile event
        (drawing []) :=
  pollSession_of_punctual profile node (SessionBehaviour.expired_zero session) queue

theorem handles_poll {event : BehaviourEvent} {later : List ToSwarm}
    (queue : node.session.queue = .generateEvent event :: later) :
    node.handles (drawing []) .poll = some event := by
  have polled := SessionBehaviour.poll_cons (SessionBehaviour.expired_zero node.session) queue
  unfold handles
  dsimp only [drawing]
  rw [polled]

theorem polls_notifies {polls : Node → Node → Prop}
    (single : ∀ {node next : Node}, node.deed (drawing []) .poll = .routine →
      node.act profile (drawing []) .poll = some next → polls node next)
    {session : SessionBehaviour} {sent later : List ToSwarm}
    (notifies : ∀ item ∈ sent, item.IsNotify) (queue : session.queue = sent ++ later) :
    Relation.ReflTransGen polls { node with session := session }
      { node with session := { session with queue := later } } := by
  induction sent generalizing session with
  | nil =>
      change session.queue = later at queue
      subst queue
      exact Relation.ReflTransGen.refl
  | cons item rest ih =>
      obtain ⟨first, others⟩ := List.forall_mem_cons.mp notifies
      cases item with
      | generateEvent event => exact first.elim
      | dial opts => exact first.elim
      | notifyHandler peer connId frames =>
          have polled := SessionBehaviour.poll_cons (SessionBehaviour.expired_zero session) queue
          have acted : ({ node with session := session } : Node).act profile (drawing []) .poll =
              some { node with session := { session with queue := rest ++ later } } :=
            pollSession_of_punctual profile node (SessionBehaviour.expired_zero session) queue
          have routine : ({ node with session := session } : Node).deed (drawing []) .poll =
              .routine := by
            unfold deed handles
            dsimp only [drawing]
            rw [polled]
          exact Relation.ReflTransGen.head (single routine acted) (ih others rfl)

theorem idles_notifies {session : SessionBehaviour} {sent later : List ToSwarm}
    (notifies : ∀ item ∈ sent, item.IsNotify) (queue : session.queue = sent ++ later) :
    Relation.ReflTransGen (Idles profile) { node with session := session }
      { node with session := { session with queue := later } } :=
  polls_notifies (fun routine acted => ⟨_, routine, acted⟩) notifies queue

/-! ### The handshake -/

theorem acts_converse {acts : Node → Node → Prop} {conn : Connection}
    {calls : List (HandlerToBehaviour × Moment)} {session joined : SessionBehaviour}
    (single : ∀ call ∈ calls, ∀ {node next : Node},
      node.act profile (readingAt call.2) (.handlerEvent conn.1 conn.2 call.1) = some next →
      acts node next)
    (conversed : session.converse profile conn calls = some joined) :
    Relation.ReflTransGen acts { node with session := session }
      { node with session := joined } := by
  have preserved (middle : SessionBehaviour) (call : HandlerToBehaviour × Moment)
      (after : SessionBehaviour) (member : call ∈ calls)
      (reached : Relation.ReflTransGen acts { node with session := session }
        { node with session := middle })
      (handled : middle.onHandlerEvent profile conn.1 conn.2 call.1 call.2 = some after) :
      Relation.ReflTransGen acts { node with session := session }
        { node with session := after } := by
    have acted : ({ node with session := middle } : Node).act profile (readingAt call.2)
        (.handlerEvent conn.1 conn.2 call.1) = some { node with session := after } :=
      Option.map_eq_some_iff.mpr ⟨after, handled, rfl⟩
    exact reached.tail (single call member acted)
  exact run_invariant preserved Relation.ReflTransGen.refl (fun _ member => member) conversed

theorem shakes_converse {conn : Connection} {calls : List (HandlerToBehaviour × Moment)}
    {session joined : SessionBehaviour}
    (untyped : ∀ call ∈ calls, call.1.isSessionFrame = false)
    (conversed : session.converse profile conn calls = some joined) :
    Relation.ReflTransGen (Shakes profile conn) { node with session := session }
      { node with session := joined } :=
  acts_converse (fun call member _ _ acted => ⟨_, _, untyped call member, acted⟩) conversed

theorem conversation_instant (pair : Pair) (side : Side) (count : Nat) :
    ∀ call ∈ SessionBehaviour.conversation pair side count,
      call.2.instant = pair.startedAt side := by
  intro call member
  rcases List.mem_cons.mp member with rfl | tail
  · rfl
  · obtain ⟨index, -, rfl⟩ := List.mem_map.mp tail
    rfl

theorem conversation_untyped (pair : Pair) (side : Side) (count : Nat) :
    ∀ call ∈ SessionBehaviour.conversation pair side count, call.1.isSessionFrame = false := by
  intro call member
  rcases List.mem_cons.mp member with rfl | tail
  · rfl
  · obtain ⟨index, -, rfl⟩ := List.mem_map.mp tail
    exact Duplex.frameAt_not_session side.other index

/-- The node has a session with the device, and nothing to do. -/
structure Attuned (conn : Connection) (device : PeerId) (session : Session) (node : Node) :
    Prop where
  known : node.session.deviceOf conn.1 = some device
  found : node.session.sessions.lookup device = some
    { transport := conn.1, connId := conn.2, session := session }
  drained : node.session.queue = []

theorem notifies_sentFrames (pair : Pair) (side : Side) (conn : Connection) (count : Nat) :
    ∀ item ∈ SessionBehaviour.sentFrames pair side conn count, item.IsNotify := by
  intro item member
  obtain ⟨index, -, rfl⟩ := List.mem_map.mp member
  trivial

section Establish

variable (laws : SessionBehaviour.HandshakeLaws) {pair : Pair} (honest : pair.Honest)
  (profile : Profile) {side : Side}

include laws honest

/-- A node with nothing to do goes through the handshake, and is about to handle
that the session is there. -/
theorem exists_joined (node : Node) (conn : Connection)
    (unstarted : SessionBehaviour.Unstarted pair side conn node.session)
    (drained : node.session.queue = [])
    (idle : node.session.pendingSends.lookup (pair.identity side.other).peerId = none)
    (unobserved : node.session.observedAddrs.lookup conn = none) :
    ∃ joined middle, Relation.ReflTransGen (Shakes profile conn) node middle ∧
      Relation.ReflTransGen (Idles profile) middle { node with session := joined } ∧
      Attuned conn (pair.identity side.other).peerId (Session.new (pair.result side))
        { node with session := { joined with queue := [] } } ∧
      joined.queue = [.generateEvent (.sessionEstablished (pair.identity side.other).peerId conn.2
        (pair.result side))] ∧
      joined.identity = node.session.identity ∧
      joined.pendingSends = node.session.pendingSends ∧
      joined.observedAddrs = node.session.observedAddrs ∧
      (∀ other, other ≠ conn →
        joined.handshakes.lookup other = node.session.handshakes.lookup other) ∧
      (pair.startedAt side = 0 →
        Relation.ReflTransGen (Prompt profile) node { node with session := joined }) := by
  obtain ⟨joined, conversed, isJoined⟩ :=
    SessionBehaviour.exists_joined laws honest profile unstarted idle unobserved
  have queue : joined.queue = SessionBehaviour.sentFrames pair side conn 4 ++
      [.generateEvent (.sessionEstablished (pair.identity side.other).peerId conn.2
        (pair.result side))] := by
    rw [isJoined.same, drained]
    rfl
  refine ⟨{ joined with queue := [_] }, { node with session := joined },
    shakes_converse (conversation_untyped pair side 5) conversed,
    idles_notifies (notifies_sentFrames pair side conn 4) queue, ⟨?_, ?_, rfl⟩, rfl, ?_, ?_, ?_, ?_,
    ?_⟩
  · change joined.transportDevices.lookup conn.1 = _
    rw [isJoined.same]
    exact AList.lookup_insert _
  · change joined.sessions.lookup (pair.identity side.other).peerId = _
    rw [isJoined.same]
    exact AList.lookup_insert _
  · change joined.identity = _
    rw [isJoined.same]
  · change joined.pendingSends = _
    rw [isJoined.same]
  · change joined.observedAddrs = _
    rw [isJoined.same]
  · intro other different
    change joined.handshakes.lookup other = _
    rw [isJoined.handshakes, if_neg different]
  · intro prompt
    have polls {node next : Node} (_ : node.deed (drawing []) .poll = .routine)
        (acted : node.act profile (drawing []) .poll = some next) : Prompt profile node next :=
      ⟨drawing [], .poll, rfl, acted⟩
    refine (acts_converse ?_ conversed).trans
      (polls_notifies polls (notifies_sentFrames pair side conn 4) queue)
    intro call member _ _ acted
    exact ⟨_, _, (conversation_instant pair side 5 call member).trans prompt, acted⟩

theorem exists_attuned {identity : DeviceIdentity} (own : identity = pair.identity side)
    (options : NodeOptions) (conn : Connection) (unexpecting : pair.expected side = none) :
    ∃ node middle,
      Relation.ReflTransGen (Shakes profile conn) (new identity options (drawing [])) middle ∧
      Relation.ReflTransGen (Idles profile) middle node ∧
      Attuned conn (pair.identity side.other).peerId (Session.new (pair.result side)) node ∧
      node = { new identity options (drawing []) with
        session := node.session
        hadSession := node.hadSession
        dialing := node.dialing
        effects := node.effects } ∧
      node.session.identity = identity ∧ node.session.pendingSends = ∅ ∧
      node.session.observedAddrs = ∅ ∧
      (∀ other, other ≠ conn → node.session.handshakes.lookup other = none) ∧
      node.hadSession = {(pair.identity side.other).peerId} ∧
      (pair.startedAt side = 0 →
        Relation.ReflTransGen (Prompt profile) (new identity options (drawing [])) node) := by
  let start := new identity options (drawing [])
  obtain
    ⟨joined, middle, shakes, idles, attuned, queue, owner, waiting, observed, others, prompt⟩ :=
    exists_joined laws honest profile start conn ⟨own, rfl, unexpecting.symm⟩ rfl rfl rfl
  let final : Node := { start with
    session := { joined with queue := [] }
    hadSession := insert (pair.identity side.other).peerId start.hadSession
    dialing := start.dialing.erase (pair.identity side.other).peerId
    effects := start.effects ++ [.appendHistory
      (.sent (peerIdToBase58 (pair.identity side.other).peerId) 0 "session-established")] }
  have acted : ({ start with session := joined } : Node).act profile (drawing []) .poll =
      some final := act_poll queue
  have handled : ({ start with session := joined } : Node).handles (drawing []) .poll = _ :=
    handles_poll queue
  have routine : ({ start with session := joined } : Node).deed (drawing []) .poll = .routine := by
    rw [deed, handled]
    rfl
  exact ⟨final, middle, shakes, idles.tail ⟨_, routine, acted⟩,
    ⟨attuned.known, attuned.found, rfl⟩, rfl, owner, waiting, observed, others, rfl,
    fun starts => (prompt starts).tail ⟨drawing [], .poll, rfl, acted⟩⟩

end Establish

/-! ### Telling -/

def holding (node : Node) (conn : Connection) (device : PeerId) (session : Session) : Node :=
  { node with
    session := { node.session with
      sessions := node.session.sessions.insert device
        { transport := conn.1, connId := conn.2, session := session } } }

theorem Attuned.holding {conn : Connection} {device : PeerId} {session : Session}
    (attuned : Attuned conn device session node) (next : Session) :
    Attuned conn device next (node.holding conn device next) :=
  ⟨attuned.known, AList.lookup_insert _, attuned.drained⟩

theorem exists_told (aead : AeadCorrect) (profile : Profile) {conn : Connection} {device : PeerId}
    {session : Session} (attuned : Attuned conn device session node)
    (small : session.inSeq.toNat + 1 < 2 ^ 32) {op : Outbound}
    (transmittable : op.Transmittable) (unanswered : op.msgType ≠ .message) :
    ∃ next middle, next.inSeq = session.inSeq + 1 ∧ Session.SameSender session next ∧
      Hears profile conn node middle ∧ middle.book = { node.book with session := middle.session } ∧
      middle.act profile (drawing []) .poll = (node.holding conn device next).onSessionEvent profile
        ((op.event session.inSeq).report device) (drawing []) ∧
      middle.deed (drawing []) .poll = (node.holding conn device next).answer (drawing [])
        ((op.event session.inSeq).report device) ∧
      middle.handles (drawing []) .poll = some ((op.event session.inSeq).report device) ∧
      ∃ frame, session.handleFrame profile frame = (next, .ok (op.event session.inSeq)) ∧
        node.act profile (drawing []) (.handlerEvent conn.1 conn.2 (.frameReceived frame)) =
          some middle := by
  obtain ⟨frame, next, typed, counted, same, accepted⟩ :=
    Session.exists_due aead profile session small transmittable
  let told : SessionBehaviour := (node.holding conn device next).session.push
    (.generateEvent ((op.event session.inSeq).report device))
  have received : node.session.onHandlerEvent profile conn.1 conn.2 (.frameReceived frame)
      (drawing []).toMoment = some told := by
    unfold SessionBehaviour.onHandlerEvent SessionBehaviour.onFrame SessionBehaviour.onSessionFrame
    dsimp only
    rw [if_pos typed, attuned.known]
    dsimp only
    rw [attuned.found]
    dsimp only
    rw [accepted]
    cases op with
    | message text msgId now => exact absurd rfl unanswered
    | ack ackMsgId ackSeq now random => rfl
    | observedAddr ip sourcePort random => rfl
    | dialBackReq addr random => rfl
    | dialBackRes addr reachable random => rfl
  have acted : node.act profile (drawing []) (.handlerEvent conn.1 conn.2 (.frameReceived frame)) =
      some { node with session := told } := Option.map_eq_some_iff.mpr ⟨told, received, rfl⟩
  have queue : told.queue = [.generateEvent ((op.event session.inSeq).report device)] := by
    change node.session.queue ++ _ = _
    rw [attuned.drained]
    rfl
  have empty : ({ told with queue := [] } : SessionBehaviour) =
      (node.holding conn device next).session := by
    rw [← attuned.drained]
    rfl
  have polled : ({ node with session := told } : Node).act profile (drawing []) .poll = _ :=
    act_poll queue
  rw [empty] at polled
  have handled : ({ node with session := told } : Node).handles (drawing []) .poll = _ :=
    handles_poll queue
  refine ⟨next, { node with session := told }, counted, same,
    ⟨_, .frameReceived frame, typed, acted⟩, rfl, polled, ?_, handled,
    frame, accepted, acted⟩
  rw [deed, handled]
  cases (op.event session.inSeq).report device <;> rfl

end Node

/-! ### A sample pair -/

namespace Symbolic

omit [Crates]

def publicAddr : MultiaddrOf Bytes := [.ip4 (fit 4 [203, 0, 113, 7]), .tcp 4001]

@[reducible] noncomputable def publicCrates : Crates := symbolicCrates [] [publicAddr]

noncomputable def seenAddr : @Multiaddr publicCrates := publicAddr

theorem publicLaws : @SessionBehaviour.HandshakeLaws publicCrates :=
  @SessionBehaviour.HandshakeLaws.mk publicCrates (verifyingKeyRoundTrip _ _) (kemCorrect _ _)
    (signatureCorrect _ _)

theorem publicCrates_roundTrip : @MultiaddrRoundTrip publicCrates := by
  apply multiaddrRoundTrip
  exact List.nodup_singleton _

theorem carriable_seenAddr : @Outbound.Carriable publicCrates seenAddr := by
  have written : writeAddr [publicAddr] publicAddr = addrText publicAddr :=
    if_pos (List.mem_singleton_self _)
  refine @Outbound.Carriable.mk publicCrates seenAddr ?_ ?_ (publicCrates_roundTrip seenAddr)
  · change writeAddr [publicAddr] publicAddr ≠ ""
    rw [written]
    decide +kernel
  · change (utf8Bytes (writeAddr [publicAddr] publicAddr)).length ≤ _
    rw [written]
    decide +kernel

noncomputable def publicPair (expecting : Bool) : @Pair publicCrates :=
  letI := publicCrates
  let identity : Side → DeviceIdentity
    | .left => device [] [publicAddr] 5 "alice"
    | .right => device [] [publicAddr] 6 "bob"
  { identity := identity
    expected := fun side => if expecting then some (identity side.other).peerId else none
    startedAt := fun _ => 0
    random := fun _ _ => [] }

theorem publicPair_honest (expecting : Bool) :
    @Pair.Honest publicCrates (publicPair expecting) := by
  let _ := publicCrates
  refine ⟨device_peerId_ne [] [publicAddr] (by decide) _ _, ?_, ?_⟩
  · intro side
    cases side with
    | left =>
        change (utf8Bytes "alice").length ≤ maxUserName
        decide
    | right =>
        change (utf8Bytes "bob").length ≤ maxUserName
        decide
  · intro side peer expects
    cases expecting with
    | true => exact (Option.some.inj expects).symm
    | false => cases expects

end Symbolic

end JeanGrey
