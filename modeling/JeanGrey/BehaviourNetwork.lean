/-
Networks of session behaviours.

The maps between transports and devices are written from records that nobody
has checked, so they say nothing about who sends a frame.  A session does: it is
stored under the Peer ID its handshake has authenticated, and an event that
names a device reports a frame which the session of that device has accepted.

A network holds the behaviours of any number of devices.  The adversary calls
them in any order and hands them any frame, except that it makes no signatures
of theirs, and that what opens under the keys of a session whose KEM key came
from one of them was sealed by one of them.
-/

import JeanGrey.BehaviourNonces

namespace JeanGrey

open Crates Runs

variable [Crates]

/-! ### Sessions and their events -/

def BehaviourEvent.sender : BehaviourEvent → Option PeerId
  | .messageReceived peer .. | .ackReceived peer .. | .observedAddrReported peer ..
  | .dialBackRequested peer .. | .dialBackResolved peer .. => some peer
  | _ => none

theorem Inbound.sender_report (peer : PeerId) (event : Inbound) :
    (event.report peer).sender = some peer := by
  cases event <;> rfl

theorem BehaviourEvent.ofSession_of_sender {event : BehaviourEvent} {peer : PeerId}
    (sender : event.sender = some peer) : event.ofSession = true := by
  cases event <;> first | rfl | cases sender

def BuiltFor (moves : List SessionMove) (peer : PeerId) (session : Session) : Prop :=
  ∃ life, Life.Current moves life ∧ life.device = peer ∧ life.result.peerId = peer ∧
    Ledger life.result session life.sealed

def AcceptedFrom (profile : Profile) (start : Table) (moves : List SessionMove) (peer : PeerId)
    (frame : Frame) (event : Inbound) : Prop :=
  ∃ before later table bound session,
    moves = before ++ .reads peer frame event :: later ∧
    Trace (Table.Move profile) start before table ∧ table.sessions peer = some bound ∧
    BuiltFor before peer bound.session ∧
    bound.session.handleFrame profile frame = (session, .ok event)

section Sessions

variable {profile : Profile} {start table : Table} {moves : List SessionMove} {peer : PeerId}
  (unheld : ∀ device, start.sessions device = none)

include unheld

theorem builtFor_of_trace (trace : Trace (Table.Move profile) start moves table)
    {bound : BoundSession} (found : table.sessions peer = some bound) :
    BuiltFor moves peer bound.session := by
  have accounts := Life.accounts_of_trace unheld trace
  obtain ⟨life, current, rfl⟩ := accounts.held peer bound found
  obtain ⟨named, session, ledger, stored⟩ := accounts.faithful life current
  rw [← (stored bound found).1] at ledger
  exact ⟨life, current, rfl, named, ledger⟩

theorem acceptedFrom_of_reads (trace : Trace (Table.Move profile) start moves table)
    {frame : Frame} {event : Inbound} (member : .reads peer frame event ∈ moves) :
    AcceptedFrom profile start moves peer frame event := by
  obtain ⟨before, later, rfl⟩ := List.append_of_mem member
  obtain ⟨middle, front, rest⟩ := trace.split
  cases rest with
  | cons first _ =>
      cases first with
      | reads found accepted =>
          exact ⟨before, later, middle, _, _, rfl, front, found,
            builtFor_of_trace unheld front found, accepted⟩

end Sessions

namespace Observed

variable {profile : Profile} {identity : DeviceIdentity} {observed : Observed}
  {moves : List SessionMove}

theorem History.reads_of_event (history : History profile identity observed moves)
    {event : BehaviourEvent} {peer : PeerId} (sender : event.sender = some peer)
    (reported : .generateEvent event ∈ observed.items) :
    ∃ frame inbound, .reads peer frame inbound ∈ moves ∧ event = inbound.report peer := by
  have listed : event ∈ observed.items.flatMap ToSwarm.sessionEvents := by
    refine List.mem_flatMap.mpr ⟨_, reported, ?_⟩
    rw [ToSwarm.sessionEvents, BehaviourEvent.ofSession_of_sender sender, if_pos rfl]
    exact List.mem_singleton_self _
  rw [history.events] at listed
  obtain ⟨move, member, among⟩ := List.mem_flatMap.mp listed
  cases move with
  | begins device conn handshake result =>
      rw [List.mem_singleton.mp among] at sender
      cases sender
  | reads device frame inbound =>
      have same := List.mem_singleton.mp among
      rw [same, inbound.sender_report] at sender
      cases sender
      exact ⟨frame, inbound, member, same⟩
  | _ => cases among

end Observed

/-! ### Networks -/

/-- The behaviours of the devices with their histories, the KEM keys they have
offered and the uses they have made of their signing keys. -/
structure Network (Device : Type) where
  observed : Device → Observed
  history : Device → List SessionMove
  offered : List Bytes
  log : List (Device × Signing)

def SessionBehaviour.reply (behaviour : SessionBehaviour) (moment : Moment) :
    BehaviourAction → Option Handshake.Reply
  | .handlerEvent transport connId (.frameReceived frame) =>
      if frame.isSessionFrame then none
      else (behaviour.handshakes.lookup (transport, connId)).map fun entry =>
        entry.1.onFrame behaviour.identity frame moment.random
  | _ => none

/-- The call of `aead::seal` answers the call of `aead::open` with which the session
reads the frame. -/
structure AeadCall.Opens (call : AeadCall) (session : Session) (frame : Frame) : Prop where
  key : call.key = session.recvKey
  nonce : call.nonce = Session.nonce session.peerDir frame.seq
  aad : call.aad = session.aad frame.msgType frame.seq frame.msgId
  ciphertext : call.ciphertext = frame.payload

namespace Network

variable {Device : Type}

def start (identity : Device → DeviceIdentity) : Network Device :=
  { observed := fun device => .start (identity device)
    history := fun _ => []
    offered := []
    log := [] }

def act [DecidableEq Device] (network : Network Device) (device : Device) (moment : Moment)
    (action : BehaviourAction) (next : SessionBehaviour) (moves : List SessionMove) :
    Network Device :=
  let replies := ((network.observed device).behaviour.reply moment action).toList
  { observed := Function.update network.observed device
      ((network.observed device).after moment action next)
    history := Function.update network.history device (network.history device ++ moves)
    offered := network.offered ++
      replies.flatMap fun reply => reply.handshake.myOfferPayload.toList
    log := network.log ++
      replies.flatMap fun reply => reply.signed.map fun signing => (device, signing) }

/-- Some session of the network has sealed what the session is to open. -/
def SealedFor (network : Network Device) (session : Session) (frame : Frame) : Prop :=
  ∃ sealer life entry, Life.Lived (network.history sealer) life ∧ entry ∈ life.sealed ∧
    (entry.call (Session.new life.result)).Opens session frame

/-- The ideal cipher: where the other KEM key of a session was generated by a device of
the network, the session opens only what a session of the network has sealed. -/
def Unforged (network : Network Device) (device : Device) (transport : PeerId) (frame : Frame) :
    Prop :=
  ∀ life offer plaintext, Life.Current (network.history device) life →
    (network.observed device).behaviour.deviceOf transport = some life.device →
    life.handshake.peerOfferPayload = some offer → offer ∈ network.offered →
    aeadOpen life.result.recvKey (Session.nonce (Session.new life.result).peerDir frame.seq)
      ((Session.new life.result).aad frame.msgType frame.seq frame.msgId) frame.payload =
        some plaintext →
    network.SealedFor (Session.new life.result) frame

/-- What the adversary can have a device do: it forges neither signatures nor
ciphertexts. -/
def Possible (identity : Device → DeviceIdentity) (network : Network Device) (device : Device)
    (action : BehaviourAction) : Prop :=
  ∀ transport connId frame, action = .handlerEvent transport connId (.frameReceived frame) →
    if frame.isSessionFrame then network.Unforged device transport frame
    else Genuine identity network.log frame.payload

inductive Step [DecidableEq Device] (profile : Profile) (identity : Device → DeviceIdentity)
    (allowed : Device → SessionBehaviour → BehaviourAction → Prop) (network : Network Device) :
    Network Device → Prop
  | act {next : SessionBehaviour} {moves : List SessionMove} (device : Device) (moment : Moment)
      (action : BehaviourAction)
      (allows : allowed device (network.observed device).behaviour action)
      (possible : network.Possible identity device action)
      (acted : (network.observed device).behaviour.act profile moment action = some next)
      (call : SessionBehaviour.Call profile (network.observed device).behaviour next moment action
        moves) :
      Step profile identity allowed network (network.act device moment action next moves)
  | publish (device : Device) (addrs : List Multiaddr) (now : UInt64) :
      Step profile identity allowed network
        { network with log := network.log ++ [(device, .addrRecord addrs now)] }
  | rehash {next : SessionBehaviour} (device : Device)
      (rehashed : (network.observed device).behaviour.Rehashed next) :
      Step profile identity allowed network
        { network with
          observed := Function.update network.observed device
            { network.observed device with behaviour := next } }

def Reachable [DecidableEq Device] (profile : Profile) (identity : Device → DeviceIdentity)
    (allowed : Device → SessionBehaviour → BehaviourAction → Prop)
    (network : Network Device) : Prop :=
  Relation.ReflTransGen (Step profile identity allowed) (start identity) network

/-- No handshake of the device is sent a Hello of the device that it would take. -/
def Foreign (identity : Device → DeviceIdentity) (device : Device) (behaviour : SessionBehaviour)
    (action : BehaviourAction) : Prop :=
  ∀ transport connId frame entry,
    action = .handlerEvent transport connId (.frameReceived frame) →
    behaviour.handshakes.lookup (transport, connId) = some entry →
    Handshake.NotOwnHello (identity device) entry.1 frame

/-- The sessions of different handshakes have different keys. -/
def KeysApart (network : Network Device) : Prop :=
  ∀ one other left right, Life.Lived (network.history one) left →
    Life.Lived (network.history other) right → left.result.sendKey = right.result.recvKey →
    left.handshake.transcript = right.handshake.transcript

/-- A device with the Peer ID `author` has encrypted the message in a session with
`reader`. -/
def Encrypted (identity : Device → DeviceIdentity) (network : Network Device)
    (author reader : PeerId) (msgId createdTsMs : UInt64) (body : String) : Prop :=
  ∃ sender life frame, (identity sender).peerId = author ∧
    Life.Lived (network.history sender) life ∧ life.result.peerId = reader ∧
    ⟨.message body msgId createdTsMs, frame⟩ ∈ life.sealed

/-! ### The histories of a network -/

def Recorded (profile : Profile) (identity : Device → DeviceIdentity)
    (network : Network Device) : Prop :=
  ∀ device, Observed.History profile (identity device) (network.observed device)
    (network.history device)

theorem recorded_start (profile : Profile) (identity : Device → DeviceIdentity) :
    Recorded profile identity (start identity) :=
  fun device => .start profile (identity device)

section Recorded

variable [DecidableEq Device] {profile : Profile} {identity : Device → DeviceIdentity}
  {network : Network Device} {device : Device} {moment : Moment} {action : BehaviourAction}
  {acted : SessionBehaviour} {moves : List SessionMove}

theorem observed_act_self (network : Network Device) :
    (network.act device moment action acted moves).observed device =
      (network.observed device).after moment action acted :=
  Function.update_self _ _ _

theorem observed_act_ne {other : Device} (different : other ≠ device) :
    (network.act device moment action acted moves).observed other = network.observed other :=
  Function.update_of_ne different _ _

theorem history_act_self (network : Network Device) :
    (network.act device moment action acted moves).history device =
      network.history device ++ moves :=
  Function.update_self _ _ _

theorem history_act_ne {other : Device} (different : other ≠ device) :
    (network.act device moment action acted moves).history other = network.history other :=
  Function.update_of_ne different _ _

theorem Recorded.act (recorded : Recorded profile identity network)
    (done : (network.observed device).behaviour.act profile moment action = some acted)
    (call : SessionBehaviour.Call profile (network.observed device).behaviour acted moment action
      moves) : Recorded profile identity (network.act device moment action acted moves) := by
  intro other
  by_cases same : other = device
  · subst same
    rw [observed_act_self, history_act_self]
    exact (recorded other).call done call
  · rw [observed_act_ne same, history_act_ne same]
    exact recorded other

theorem Recorded.rehash (recorded : Recorded profile identity network)
    (rehashed : (network.observed device).behaviour.Rehashed acted) :
    Recorded profile identity
      { network with
        observed := Function.update network.observed device
          { network.observed device with behaviour := acted } } := by
  intro other
  dsimp only
  by_cases same : other = device
  · subst same
    rw [Function.update_self]
    exact (recorded other).rehash rehashed
  · rw [Function.update_of_ne same]
    exact recorded other

theorem Reachable.recorded {allowed : Device → SessionBehaviour → BehaviourAction → Prop}
    (reachable : Reachable profile identity allowed network) :
    Recorded profile identity network := by
  induction reachable with
  | refl => exact recorded_start profile identity
  | tail _ step recorded =>
      cases step with
      | act device moment action allows possible done call => exact recorded.act done call
      | publish device addrs now => exact recorded
      | rehash device rehashed => exact recorded.rehash rehashed

end Recorded

/-! ### Handshakes of a network -/

/-- A handshake that accepts only what its peer has signed. -/
def Trusted (identity : Device → DeviceIdentity) (log : List (Device × Signing))
    (device : Device) (handshake : Handshake) : Prop :=
  World.Sound identity log { owner := device, handshake := handshake, sent := [], returned := [] }

variable {identity : Device → DeviceIdentity} {log : List (Device × Signing)} {device : Device}
  {handshake : Handshake} {frame : Frame}

theorem trusted_new (identity : Device → DeviceIdentity) (log : List (Device × Signing))
    (device : Device) (expected : Option PeerId) (now : Nat) :
    Trusted identity log device (Handshake.new (identity device) expected now).1 :=
  ⟨Handshake.new_consistent _ _ _, List.forall_mem_nil _, nofun⟩

theorem Trusted.onFrame (trusted : Trusted identity log device handshake) (random : Bytes)
    (genuine : Genuine identity log frame.payload) :
    Trusted identity log device (handshake.onFrame (identity device) frame random).handshake := by
  have transition : Handshake.Transition (identity device) handshake frame random
      (handshake.onFrame (identity device) frame random) :=
    Handshake.onFrame_transition trusted.consistent
  have delivered := World.deliver_sound trusted genuine transition
  exact ⟨delivered.consistent, List.forall_mem_nil _, delivered.authenticated⟩

/-- All handshakes that the devices have under way, or have completed, meet the
condition. -/
structure Handshakes (network : Network Device) (meets : Device → Handshake → Prop) : Prop where
  stored : ∀ device conn entry,
    (network.observed device).behaviour.handshakes.lookup conn = some entry → meets device entry.1
  begun : ∀ device peer conn handshake result,
    .begins peer conn handshake result ∈ network.history device → meets device handshake

/-! ### The invariant of a network -/

/-- The device has read the frame in a session of its history; if the session names
another device of the network, the frame was sealed there. -/
def Answered (identity : Device → DeviceIdentity) (network : Network Device) (device : Device)
    (peer : PeerId) (frame : Frame) (event : Inbound) : Prop :=
  ∃ (life : Life) (plaintext : Bytes) (reader : Session),
    Life.Lived (network.history device) life ∧ life.device = peer ∧
    aeadOpen life.result.recvKey (Session.nonce (Session.new life.result).peerDir frame.seq)
      ((Session.new life.result).aad frame.msgType frame.seq frame.msgId) frame.payload =
        some plaintext ∧
    reader.parsePlaintext frame.msgType frame.msgId plaintext = .ok event ∧
    (life.handshake.peerId ≠ some (identity device).peerId →
      ∀ author, (identity author).peerId = peer →
        network.SealedFor (Session.new life.result) frame)

/-- The current session with the peer opens the frame and reads the event; if the peer
is another device of the network, the frame was sealed there. -/
def ReadIn (identity : Device → DeviceIdentity) (network : Network Device) (device : Device)
    (moves : List SessionMove) (peer : PeerId) (frame : Frame) (event : Inbound) : Prop :=
  ∃ (life : Life) (plaintext : Bytes) (reader : Session),
    Life.Current moves life ∧ life.device = peer ∧
    aeadOpen life.result.recvKey (Session.nonce (Session.new life.result).peerDir frame.seq)
      ((Session.new life.result).aad frame.msgType frame.seq frame.msgId) frame.payload =
        some plaintext ∧
    reader.parsePlaintext frame.msgType frame.msgId plaintext = .ok event ∧
    (life.handshake.peerId ≠ some (identity device).peerId →
      ∀ author, (identity author).peerId = peer →
        network.SealedFor (Session.new life.result) frame)

structure Sound (profile : Profile) (identity : Device → DeviceIdentity)
    (network : Network Device) : Prop where
  history : Recorded profile identity network
  trusted : network.Handshakes (Trusted identity network.log)
  logged : ∀ device transcript, (device, .auth transcript) ∈ network.log →
    ∃ handshake : Handshake, handshake.Consistent (identity device) ∧
      handshake.transcript = some transcript ∧
      ∀ offer, handshake.myOfferPayload = some offer → offer ∈ network.offered
  answered : ∀ device peer frame event,
    .reads peer frame event ∈ network.history device →
    Answered identity network device peer frame event

theorem handshakes_start (identity : Device → DeviceIdentity) (meets : Device → Handshake → Prop) :
    (start identity).Handshakes meets :=
  { stored := fun _ _ _ found => (nomatch found)
    begun := fun _ _ _ _ _ member => (nomatch member) }

theorem sound_start (profile : Profile) (identity : Device → DeviceIdentity) :
    Sound profile identity (start identity) :=
  { history := recorded_start profile identity
    trusted := handshakes_start identity _
    logged := fun _ _ member => (nomatch member)
    answered := fun _ _ _ _ member => (nomatch member) }

variable {network next : Network Device}

theorem SealedFor.mono {session : Session}
    (grown : ∀ device, ∃ later, next.history device = network.history device ++ later)
    (sealed : network.SealedFor session frame) : next.SealedFor session frame := by
  obtain ⟨sealer, life, entry, lived, member, opens⟩ := sealed
  obtain ⟨later, same⟩ := grown sealer
  refine ⟨sealer, life, entry, ?_, member, opens⟩
  rw [same]
  exact lived.append later

theorem Answered.mono {peer : PeerId} {event : Inbound}
    (grown : ∀ device, ∃ later, next.history device = network.history device ++ later)
    (answered : Answered identity network device peer frame event) :
    Answered identity next device peer frame event := by
  obtain ⟨life, plaintext, reader, lived, named, opened, parsed, sealed⟩ := answered
  obtain ⟨later, same⟩ := grown device
  refine ⟨life, plaintext, reader, ?_, named, opened, parsed, ?_⟩
  · rw [same]
    exact lived.append later
  · intro foreign author isAuthor
    exact (sealed foreign author isAuthor).mono grown

section Laws

variable (hash : Sha256Injective) (peerIds : PeerIdBytes) (roundTrip : VerifyingKeyRoundTrip)
  (hellos : ∀ device, (encodeHello (identity device)).length < 2 ^ 32)

include hash peerIds roundTrip hellos

/-- A session that names another device of the network has a KEM key of that device:
the device has signed the transcript with its own key in it. -/
theorem Sound.offered_of_author {profile : Profile} (sound : Sound profile identity network)
    {life : Life} (lived : Life.Lived (network.history device) life) {author : Device}
    (foreign : life.handshake.peerId ≠ some (identity device).peerId)
    (named : life.result.peerId = (identity author).peerId) :
    ∃ offer, life.handshake.peerOfferPayload = some offer ∧ offer ∈ network.offered := by
  have begun := lived.begins_mem
  obtain ⟨consistent, known⟩ := (sound.history device).begun _ _ _ _ begun
  have trusted := sound.trusted.begun device _ _ _ _ begun
  obtain ⟨transcript, has, logged⟩ := trusted.signed hash peerIds roundTrip known named
  obtain ⟨signer, consistent', has', offers⟩ := sound.logged author transcript logged
  have different : (identity device).peerId ≠ (identity author).peerId := by
    intro same
    apply foreign
    rw [known.peerId, named, same]
  obtain ⟨_, mine, theirs, _, _, _, complete, same, -⟩ :=
    Handshake.complete_of_transcript consistent has
  obtain ⟨_, mine', theirs', _, _, _, complete', same', -⟩ :=
    Handshake.complete_of_transcript consistent' has'
  obtain ⟨-, crossed⟩ := Handshake.crossed_of_transcript hash roundTrip different (hellos device)
    (hellos author) consistent consistent' complete complete' (same.symm.trans same')
  refine ⟨theirs.offer, complete.peerOffer, offers theirs.offer ?_⟩
  rw [complete'.myOffer, crossed]

/-- What a device reads in a call is read by its current session with the sender. -/
theorem Sound.readIn {profile : Profile} (sound : Sound profile identity network)
    {action : BehaviourAction} {moves : List SessionMove} {peer : PeerId} {event : Inbound}
    (possible : network.Possible identity device action)
    (reads : SessionBehaviour.Reads profile (network.observed device).behaviour action moves)
    (member : .reads peer frame event ∈ moves) :
    ReadIn identity network device (network.history device) peer frame event := by
  obtain ⟨conn, bound, session, received, typed, known, found, accepted⟩ := reads _ _ _ member
  have unforged := possible conn.1 conn.2 frame received
  rw [if_pos typed] at unforged
  obtain ⟨life, current, rfl, named, ledger⟩ := builtFor_of_trace
    (Observed.unheld_new (identity device)) (sound.history device).table found
  obtain ⟨plaintext, opened, parsed⟩ := (Session.admits_of_handleFrame accepted).read
  have opens := (Session.openFrame_eq_ok_iff.mp opened).2
  unfold Session.aad at opens
  rw [ledger.recvKey, ledger.peerDir, ledger.sessionId] at opens
  refine ⟨life, plaintext, session, current, rfl, opens, parsed, ?_⟩
  intro foreign author isAuthor
  obtain ⟨offer, has, offered⟩ := sound.offered_of_author hash peerIds roundTrip hellos
    current.lived foreign (named.trans isAuthor.symm)
  exact unforged life offer plaintext current known has offered opens

/-- What a device reads in a call was sealed before the call. -/
theorem Sound.answer {profile : Profile} (sound : Sound profile identity network)
    {action : BehaviourAction} {moves : List SessionMove} {peer : PeerId} {event : Inbound}
    (possible : network.Possible identity device action)
    (reads : SessionBehaviour.Reads profile (network.observed device).behaviour action moves)
    (member : .reads peer frame event ∈ moves) :
    Answered identity network device peer frame event := by
  obtain ⟨life, plaintext, reader, current, named, opened, parsed, sealed⟩ :=
    sound.readIn hash peerIds roundTrip hellos possible reads member
  exact ⟨life, plaintext, reader, current.lived, named, opened, parsed, sealed⟩

end Laws

theorem reply_inv {behaviour : SessionBehaviour} {moment : Moment} {action : BehaviourAction}
    {reply : Handshake.Reply} (replied : behaviour.reply moment action = some reply) :
    ∃ conn entry frame, action = .handlerEvent conn.1 conn.2 (.frameReceived frame) ∧
      behaviour.handshakes.lookup conn = some entry ∧
      reply = entry.1.onFrame behaviour.identity frame moment.random := by
  unfold SessionBehaviour.reply at replied
  split at replied
  · rename_i transport connId frame
    split at replied
    · cases replied
    · obtain ⟨entry, found, same⟩ := Option.map_eq_some_iff.mp replied
      exact ⟨(transport, connId), entry, frame, rfl, found, same.symm⟩
  · cases replied

section Act

variable [DecidableEq Device] {profile : Profile} {moment : Moment} {action : BehaviourAction}
  {acted : SessionBehaviour} {moves : List SessionMove}

theorem history_act_grows (network : Network Device) (device : Device) (moment : Moment)
    (action : BehaviourAction) (acted : SessionBehaviour) (moves : List SessionMove)
    (other : Device) :
    ∃ later, (network.act device moment action acted moves).history other =
      network.history other ++ later := by
  by_cases same : other = device
  · subst same
    exact ⟨moves, history_act_self network⟩
  · refine ⟨[], ?_⟩
    rw [history_act_ne same, List.append_nil]

theorem mem_history_act {other : Device} {move : SessionMove}
    (member : move ∈ (network.act device moment action acted moves).history other) :
    move ∈ network.history other ∨ (other = device ∧ move ∈ moves) := by
  by_cases same : other = device
  · subst same
    rw [history_act_self] at member
    exact (List.mem_append.mp member).imp_right fun new => ⟨rfl, new⟩
  · rw [history_act_ne same] at member
    exact .inl member

omit [DecidableEq Device] in
theorem Handshakes.imp {meets meets' : Device → Handshake → Prop}
    (handshakes : network.Handshakes meets) (observed : next.observed = network.observed)
    (history : next.history = network.history)
    (weaker : ∀ device handshake, meets device handshake → meets' device handshake) :
    next.Handshakes meets' := by
  constructor
  · intro device conn entry found
    rw [observed] at found
    exact weaker _ _ (handshakes.stored device conn entry found)
  · intro device peer conn handshake result member
    rw [history] at member
    exact weaker _ _ (handshakes.begun device peer conn handshake result member)

theorem Handshakes.act {meets : Device → Handshake → Prop} (handshakes : network.Handshakes meets)
    (fresh : ∀ expected now,
      meets device (Handshake.new (network.observed device).behaviour.identity expected now).1)
    (answers : ∀ conn entry frame,
      action = .handlerEvent conn.1 conn.2 (.frameReceived frame) → frame.isSessionFrame = false →
      (network.observed device).behaviour.handshakes.lookup conn = some entry →
      meets device
        (entry.1.onFrame (network.observed device).behaviour.identity frame
          moment.random).handshake)
    (done : (network.observed device).behaviour.act profile moment action = some acted)
    (births : SessionBehaviour.Births (network.observed device).behaviour acted moment action
      moves) : (network.act device moment action acted moves).Handshakes meets := by
  constructor
  · intro other conn entry found
    by_cases same : other = device
    · subst same
      rw [observed_act_self] at found
      cases SessionBehaviour.act_descends done found with
      | kept before => exact handshakes.stored other conn entry before
      | new expected now ready absent => exact fresh expected now
      | replied received typed before => exact answers conn _ _ received typed before
    · rw [observed_act_ne same] at found
      exact handshakes.stored other conn entry found
  · intro other peer conn handshake result member
    rcases mem_history_act member with before | ⟨rfl, new⟩
    · exact handshakes.begun other peer conn handshake result before
    · cases births with
      | none undelivered unbegun => cases unbegun _ new
      | one received typed found established forgotten unbegun =>
          rcases List.mem_cons.mp new with same | later
          · cases same
            exact answers conn _ _ received typed found
          · cases unbegun _ later

theorem Handshakes.rehash {meets : Device → Handshake → Prop}
    (handshakes : network.Handshakes meets)
    (rehashed : (network.observed device).behaviour.Rehashed acted) :
    Handshakes
      { network with
        observed := Function.update network.observed device
          { network.observed device with behaviour := acted } } meets := by
  refine ⟨?_, handshakes.begun⟩
  intro other conn entry found
  dsimp only at found
  by_cases same : other = device
  · subst same
    rw [Function.update_self] at found
    exact handshakes.stored other conn entry
      ((AList.perm_lookup rehashed.handshakes).symm.trans found)
  · rw [Function.update_of_ne same] at found
    exact handshakes.stored other conn entry found

theorem Sound.act_trusted (sound : Sound profile identity network)
    (possible : network.Possible identity device action)
    (done : (network.observed device).behaviour.act profile moment action = some acted)
    (births : SessionBehaviour.Births (network.observed device).behaviour acted moment action
      moves) :
    (network.act device moment action acted moves).Handshakes (Trusted identity network.log) := by
  apply sound.trusted.act _ _ done births
  · intro expected now
    rw [(sound.history device).owner]
    exact trusted_new identity network.log device expected now
  · intro conn entry frame received typed found
    have genuine := possible conn.1 conn.2 frame received
    rw [typed, if_neg Bool.false_ne_true] at genuine
    rw [(sound.history device).owner]
    exact (sound.trusted.stored device conn entry found).onFrame _ genuine

theorem Sound.act_logged (sound : Sound profile identity network) {other : Device}
    {transcript : Bytes}
    (member : (other, .auth transcript) ∈ (network.act device moment action acted moves).log) :
    ∃ handshake : Handshake, handshake.Consistent (identity other) ∧
      handshake.transcript = some transcript ∧
      ∀ offer, handshake.myOfferPayload = some offer →
        offer ∈ (network.act device moment action acted moves).offered := by
  rcases List.mem_append.mp member with before | new
  · obtain ⟨handshake, consistent, has, offers⟩ := sound.logged other transcript before
    exact ⟨handshake, consistent, has, fun offer made =>
      List.mem_append_left _ (offers offer made)⟩
  · obtain ⟨reply, replied, signed⟩ := List.mem_flatMap.mp new
    obtain ⟨signing, used, same⟩ := List.mem_map.mp signed
    obtain ⟨conn, entry, frame, -, found, made⟩ := reply_inv (Option.mem_toList.mp replied)
    have consistent := World.Sound.consistent (sound.trusted.stored device conn entry found)
    have transition : Handshake.Transition (identity device) entry.1 frame moment.random reply := by
      rw [made, (sound.history device).owner]
      exact Handshake.onFrame_transition consistent
    obtain ⟨signedAs, _, named, has, -⟩ := transition.signed used
    rw [named] at same
    cases same
    refine ⟨reply.handshake, transition.consistent consistent, has, ?_⟩
    intro offer mine
    refine List.mem_append_right _ (List.mem_flatMap.mpr ⟨reply, replied, ?_⟩)
    rw [mine]
    exact List.mem_singleton_self _

omit [DecidableEq Device] in
theorem Sound.publish (sound : Sound profile identity network) (device : Device)
    (addrs : List Multiaddr) (now : UInt64) :
    Sound profile identity
      { network with log := network.log ++ [(device, .addrRecord addrs now)] } := by
  have grown := List.subset_append_left network.log [(device, Signing.addrRecord addrs now)]
  refine ⟨sound.history, sound.trusted.imp rfl rfl fun _ _ trusted => trusted.mono grown, ?_,
    ?_⟩
  · intro other transcript member
    rcases List.mem_append.mp member with before | new
    · exact sound.logged other transcript before
    · cases List.mem_singleton.mp new
  · intro other peer frame event member
    exact (sound.answered other peer frame event member).mono fun one =>
      ⟨[], (List.append_nil _).symm⟩

theorem Sound.rehash (sound : Sound profile identity network)
    (rehashed : (network.observed device).behaviour.Rehashed acted) :
    Sound profile identity
      { network with
        observed := Function.update network.observed device
          { network.observed device with behaviour := acted } } := by
  refine ⟨sound.history.rehash rehashed, sound.trusted.rehash rehashed, sound.logged, ?_⟩
  intro other peer frame event member
  exact (sound.answered other peer frame event member).mono fun one =>
    ⟨[], (List.append_nil _).symm⟩

variable (hash : Sha256Injective) (peerIds : PeerIdBytes) (roundTrip : VerifyingKeyRoundTrip)
  (hellos : ∀ device, (encodeHello (identity device)).length < 2 ^ 32)

include hash peerIds roundTrip hellos

theorem Sound.act (sound : Sound profile identity network)
    (possible : network.Possible identity device action)
    (done : (network.observed device).behaviour.act profile moment action = some acted)
    (call : SessionBehaviour.Call profile (network.observed device).behaviour acted moment action
      moves) :
    Sound profile identity (network.act device moment action acted moves) := by
  have signed : network.log ⊆ (network.act device moment action acted moves).log :=
    List.subset_append_left _ _
  have grown := history_act_grows network device moment action acted moves
  refine ⟨sound.history.act done call, (sound.act_trusted possible done call.births).imp rfl rfl
    fun _ _ trusted => trusted.mono signed,
    fun other transcript member => sound.act_logged member, ?_⟩
  intro other peer frame event member
  rcases mem_history_act member with before | ⟨rfl, new⟩
  · exact (sound.answered other peer frame event before).mono grown
  · exact (sound.answer hash peerIds roundTrip hellos possible call.reads new).mono grown

theorem Reachable.sound {allowed : Device → SessionBehaviour → BehaviourAction → Prop}
    (reachable : Reachable profile identity allowed network) : Sound profile identity network := by
  induction reachable with
  | refl => exact sound_start profile identity
  | tail _ step sound =>
      cases step with
      | act device moment action allows possible done call =>
          exact sound.act hash peerIds roundTrip hellos possible done call
      | publish device addrs now => exact sound.publish device addrs now
      | rehash device rehashed => exact sound.rehash rehashed

/-! ### Sessions with others -/

/-- The handshake has not identified its peer as the device itself. -/
def Elsewhere (identity : Device → DeviceIdentity) (device : Device) (handshake : Handshake) :
    Prop :=
  handshake.peerId ≠ some (identity device).peerId

omit hash peerIds roundTrip hellos in
/-- While no device takes its own Hello, no handshake identifies the device itself. -/
theorem Reachable.elsewhere (reachable : Reachable profile identity (Foreign identity) network) :
    network.Handshakes (Elsewhere identity) := by
  induction reachable with
  | refl => exact handshakes_start identity _
  | tail reached step ih =>
      have recorded := Reachable.recorded reached
      cases step with
      | act device moment action allows possible done call =>
          apply ih.act _ _ done call.births
          · intro expected now
            exact nofun
          · intro conn entry frame received typed found
            rw [(recorded device).owner]
            have consistent := (recorded device).regular.consistent conn entry found
            rw [(recorded device).owner] at consistent
            exact (Handshake.onFrame_transition consistent).peerId_ne
              (allows conn.1 conn.2 frame entry received found) (ih.stored device conn entry found)
      | publish device addrs now => exact ih.imp rfl rfl fun _ _ elsewhere => elsewhere
      | rehash device rehashed => exact ih.rehash rehashed

end Act

end Network

end JeanGrey
