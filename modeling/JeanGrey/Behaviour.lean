/-
The session behaviour of `transport.rs`.

One handshake per connection, one session per device, and four maps between
them.  A `HashMap` is an association list, whose order stands for the order in
which the map happens to iterate; a `VecDeque` is a list.

Every operation takes what it reads from the clocks and the random number
generator as a `Moment`.  Operations that can panic return an `Option`, and
`none` is the panic.
-/

import JeanGrey.Handler
import JeanGrey.Session
import Mathlib.Data.List.AList
import Mathlib.Data.Finset.Insert

namespace JeanGrey

open Crates

variable [Crates]

abbrev ConnectionId := Nat

abbrev Connection := PeerId × ConnectionId

abbrev Map (Key Value : Type) := AList fun _ : Key => Value

/-- What a call reads from its surroundings. -/
structure Moment where
  /-- `Instant::now()` -/
  instant : Nat
  /-- The successive values of `now_ms()`. -/
  nowMs : Nat → UInt64
  /-- The successive values of `rand::random::<u64>()`. -/
  msgIds : Nat → UInt64
  /-- The random bytes of the cryptographic primitives. -/
  random : Bytes

inductive BehaviourEvent where
  | sessionEstablished (peerId : PeerId) (connectionId : ConnectionId) (result : HandshakeResult)
  | handshakeFailed (peerId : PeerId) (error : String)
  | messageReceived (peerId : PeerId) (msgId : UInt64) (body : String) (tsMs : UInt64)
  | ackReceived (peerId : PeerId) (msgId : UInt64) (ackSeq : UInt32)
  | observedAddrReported (peerId : PeerId) (ip : IpAddr) (sourcePort : UInt16)
  | dialBackRequested (peerId : PeerId) (addr : Multiaddr)
  | dialBackResolved (peerId : PeerId) (addr : Multiaddr) (reachable : Bool)
  | peerConnected (peerId : PeerId)
  | peerDisconnected (peerId : PeerId)

/-- The dials of the behaviour: to a transport Peer ID, or to an address whose
Peer ID is not known. -/
inductive DialOpts where
  | peerId (transport : PeerId) (addrs : List Multiaddr)
  | unknownPeerId (addr : Multiaddr)

inductive ToSwarm where
  | generateEvent (event : BehaviourEvent)
  | dial (opts : DialOpts)
  | notifyHandler (peerId : PeerId) (connId : ConnectionId) (frames : List Frame)

inductive ConnectedPoint where
  | dialer (address : Multiaddr)
  | listener (localAddr sendBackAddr : Multiaddr)

inductive FromSwarm where
  | connectionEstablished (peerId : PeerId) (connectionId : ConnectionId)
      (endpoint : ConnectedPoint)
  | connectionClosed (peerId : PeerId) (connectionId : ConnectionId) (remainingEstablished : Nat)

structure BoundSession where
  transport : PeerId
  connId : ConnectionId
  session : Session

structure SessionBehaviour where
  identity : DeviceIdentity
  handshakes : Map Connection (Handshake × Option PeerId)
  sessions : Map PeerId BoundSession
  peerNames : Map PeerId String
  pendingSends : Map PeerId (List (UInt64 × String))
  connected : Finset PeerId
  transportDevices : Map PeerId PeerId
  deviceTransports : Map PeerId PeerId
  observedAddrs : Map Connection (IpAddr × UInt16)
  queue : List ToSwarm

def Protocol.ip? {PeerId : Type} : Protocol PeerId → Option IpAddr
  | .ip4 octets => some (.v4 octets)
  | .ip6 octets => some (.v6 octets)
  | _ => none

def Protocol.tcp? {PeerId : Type} : Protocol PeerId → Option UInt16
  | .tcp port => some port
  | _ => none

namespace SessionBehaviour

def new (identity : DeviceIdentity) : SessionBehaviour :=
  { identity := identity
    handshakes := ∅
    sessions := ∅
    peerNames := ∅
    pendingSends := ∅
    connected := ∅
    transportDevices := ∅
    deviceTransports := ∅
    observedAddrs := ∅
    queue := [] }

def hasSession (behaviour : SessionBehaviour) (peer : PeerId) : Bool :=
  (behaviour.sessions.lookup peer).isSome

def peerName (behaviour : SessionBehaviour) (peer : PeerId) : Option String :=
  behaviour.peerNames.lookup peer

def transportOf (behaviour : SessionBehaviour) (device : PeerId) : Option PeerId :=
  behaviour.deviceTransports.lookup device

def deviceOf (behaviour : SessionBehaviour) (transport : PeerId) : Option PeerId :=
  behaviour.transportDevices.lookup transport

def sessionPeers (behaviour : SessionBehaviour) : List PeerId := behaviour.sessions.keys

def push (behaviour : SessionBehaviour) (item : ToSwarm) : SessionBehaviour :=
  { behaviour with queue := behaviour.queue ++ [item] }

def notifyConn (behaviour : SessionBehaviour) (peer : PeerId) (connId : ConnectionId)
    (frames : List Frame) : SessionBehaviour :=
  behaviour.push (.notifyHandler peer connId frames)

/-! ### Sending -/

def sendMessage (behaviour : SessionBehaviour) (peer : PeerId) (text : String) (moment : Moment) :
    SessionBehaviour × UInt64 :=
  let msgId := moment.msgIds 0
  match behaviour.sessions.lookup peer with
  | some bound =>
      match bound.session.encryptMessage text msgId (moment.nowMs 0) with
      | .ok (session, frame) =>
          ({ behaviour with
              sessions := behaviour.sessions.insert peer { bound with session := session }
            }.notifyConn bound.transport bound.connId [frame], msgId)
      | .err error =>
          (behaviour.push (.generateEvent
            (.handshakeFailed peer ("session error: " ++ error.text))), msgId)
      | .panic => (behaviour, msgId)
  | none =>
      let waiting := (behaviour.pendingSends.lookup peer).getD []
      ({ behaviour with
          pendingSends := behaviour.pendingSends.insert peer (waiting ++ [(msgId, text)]) }, msgId)

/-- The common part of the three control messages. -/
def sendControl (behaviour : SessionBehaviour) (peer : PeerId)
    (encrypt : Session → Outcome SessionError (Session × Frame)) : Option SessionBehaviour :=
  match behaviour.sessions.lookup peer with
  | none => some behaviour
  | some bound =>
      match encrypt bound.session with
      | .ok (session, frame) =>
          some ({ behaviour with
              sessions := behaviour.sessions.insert peer { bound with session := session }
            }.notifyConn bound.transport bound.connId [frame])
      | _ => none

def sendObservedAddr (behaviour : SessionBehaviour) (peer : PeerId) (ip : IpAddr)
    (sourcePort : UInt16) (msgId : UInt64) : Option SessionBehaviour :=
  behaviour.sendControl peer fun session => session.encryptObservedAddr ip sourcePort msgId

def sendDialBackReq (profile : Profile) (behaviour : SessionBehaviour) (peer : PeerId)
    (addr : Multiaddr) (msgId : UInt64) : Option SessionBehaviour :=
  behaviour.sendControl peer fun session => session.encryptDialBackReq profile addr msgId

def sendDialBackRes (profile : Profile) (behaviour : SessionBehaviour) (peer : PeerId)
    (addr : Multiaddr) (reachable : Bool) (msgId : UInt64) : Option SessionBehaviour :=
  behaviour.sendControl peer fun session => session.encryptDialBackRes profile addr reachable msgId

/-! ### Dialing -/

def mapTransport (behaviour : SessionBehaviour) (device transport : PeerId) : SessionBehaviour :=
  { behaviour with
    transportDevices := behaviour.transportDevices.insert transport device
    deviceTransports := behaviour.deviceTransports.insert device transport }

def connect (behaviour : SessionBehaviour) (device transport : PeerId) (addrs : List Multiaddr) :
    SessionBehaviour :=
  if addrs = [] then behaviour
  else (behaviour.mapTransport device transport).push (.dial (.peerId transport addrs))

def connectUnknown (behaviour : SessionBehaviour) (addrs : List Multiaddr) : SessionBehaviour :=
  match addrs with
  | [] => behaviour
  | addr :: _ => behaviour.push (.dial (.unknownPeerId addr))

def connectProbe (behaviour : SessionBehaviour) (addr : Multiaddr) : SessionBehaviour :=
  behaviour.push (.dial (.unknownPeerId addr))

/-! ### Frames -/

/-- The loop of `flush_pending_sends`; a message that does not encrypt is
dropped. -/
def encryptAll (session : Session) (nowMs : Nat → UInt64) :
    Nat → List (UInt64 × String) → Session × List Frame
  | _, [] => (session, [])
  | reading, (msgId, text) :: later =>
      match session.encryptMessage text msgId (nowMs reading) with
      | .ok (next, frame) =>
          let (final, frames) := encryptAll next nowMs (reading + 1) later
          (final, frame :: frames)
      | _ => encryptAll session nowMs (reading + 1) later

def flushPendingSends (behaviour : SessionBehaviour) (device transport : PeerId)
    (connId : ConnectionId) (moment : Moment) : SessionBehaviour :=
  match behaviour.pendingSends.lookup device with
  | none => behaviour
  | some waiting =>
      let behaviour := { behaviour with pendingSends := behaviour.pendingSends.erase device }
      match behaviour.sessions.lookup device with
      | none => behaviour
      | some bound =>
          let (session, frames) := encryptAll bound.session moment.nowMs 0 waiting
          { behaviour with
              sessions := behaviour.sessions.insert device { bound with session := session }
            }.notifyConn transport connId frames

/-- The `Established` arm of `on_frame`. -/
def onEstablished (behaviour : SessionBehaviour) (transport : PeerId) (connId : ConnectionId)
    (result : HandshakeResult) (moment : Moment) : Option SessionBehaviour :=
  let device := result.peerId
  let behaviour :=
    { behaviour with
      handshakes := behaviour.handshakes.erase (transport, connId)
      transportDevices := behaviour.transportDevices.insert transport device
      deviceTransports := behaviour.deviceTransports.insert device transport
      peerNames := behaviour.peerNames.insert device result.peerHello.userName
      sessions := behaviour.sessions.insert device
        { transport := transport, connId := connId, session := Session.new result } }
  let behaviour := behaviour.flushPendingSends device transport connId moment
  let reported :=
    match behaviour.observedAddrs.lookup (transport, connId) with
    | none => some behaviour
    | some (ip, sourcePort) =>
        { behaviour with
          observedAddrs := behaviour.observedAddrs.erase (transport, connId)
        }.sendObservedAddr device ip sourcePort (moment.msgIds 0)
  reported.map fun behaviour =>
    behaviour.push (.generateEvent (.sessionEstablished device connId result))

def onSessionFrame (profile : Profile) (behaviour : SessionBehaviour) (transport : PeerId)
    (connId : ConnectionId) (frame : Frame) (moment : Moment) : Option SessionBehaviour :=
  match behaviour.deviceOf transport with
  | none => some behaviour
  | some device =>
      match behaviour.sessions.lookup device with
      | none => some behaviour
      | some bound =>
          let (session, outcome) := bound.session.handleFrame profile frame
          let store (session : Session) : SessionBehaviour :=
            { behaviour with
              sessions := behaviour.sessions.insert device { bound with session := session } }
          let report (event : BehaviourEvent) : Option SessionBehaviour :=
            some ((store session).push (.generateEvent event))
          match outcome with
          | .panic => none
          | .ok (.message seq msgId createdTsMs body) =>
              match session.encryptAck msgId seq (moment.nowMs 0) (moment.msgIds 0) with
              | .ok (session, ack) =>
                  some (((store session).notifyConn transport connId [ack]).push
                    (.generateEvent (.messageReceived device msgId body createdTsMs)))
              | _ => none
          | .ok (.ack msgId ackSeq) => report (.ackReceived device msgId ackSeq)
          | .ok (.observedAddr _ ip sourcePort) =>
              report (.observedAddrReported device ip sourcePort)
          | .ok (.dialBackReq _ addr) => report (.dialBackRequested device addr)
          | .ok (.dialBackRes _ addr reachable) => report (.dialBackResolved device addr reachable)
          | .err error =>
              some ({ behaviour with sessions := behaviour.sessions.erase device }.push
                (.generateEvent (.handshakeFailed device ("session error: " ++ error.text))))

/-- The connection's handshake has failed: forget it and report the device, or
the transport where the device is not known. -/
def failHandshake (behaviour : SessionBehaviour) (transport : PeerId) (connId : ConnectionId)
    (error : String) : SessionBehaviour :=
  { behaviour with handshakes := behaviour.handshakes.erase (transport, connId) }.push
    (.generateEvent (.handshakeFailed ((behaviour.deviceOf transport).getD transport) error))

def onFrame (profile : Profile) (behaviour : SessionBehaviour) (transport : PeerId)
    (connId : ConnectionId) (frame : Frame) (moment : Moment) : Option SessionBehaviour :=
  if frame.isSessionFrame then behaviour.onSessionFrame profile transport connId frame moment
  else
    match behaviour.handshakes.lookup (transport, connId) with
    | none => some behaviour
    | some (handshake, expected) =>
        let reply := handshake.onFrame behaviour.identity frame moment.random
        match reply.outcome with
        | .panic => none
        | .ok (.frames frames) =>
            some ({ behaviour with
                handshakes :=
                  behaviour.handshakes.insert (transport, connId) (reply.handshake, expected)
              }.notifyConn transport connId frames)
        | .ok (.established result) => behaviour.onEstablished transport connId result moment
        | .err error => some (behaviour.failHandshake transport connId error.text)

def onHandlerEvent (profile : Profile) (behaviour : SessionBehaviour) (transport : PeerId)
    (connId : ConnectionId) (event : HandlerToBehaviour) (moment : Moment) :
    Option SessionBehaviour :=
  match event with
  | .substreamReady =>
      if (behaviour.handshakes.lookup (transport, connId)).isSome then some behaviour
      else
        let expected := behaviour.deviceOf transport
        let (handshake, hello) := Handshake.new behaviour.identity expected moment.instant
        some ({ behaviour with
            handshakes := behaviour.handshakes.insert (transport, connId) (handshake, expected)
          }.notifyConn transport connId [hello])
  | .frameReceived frame => behaviour.onFrame profile transport connId frame moment
  | .streamClosed =>
      some { behaviour with handshakes := behaviour.handshakes.erase (transport, connId) }

/-! ### Connections -/

def observedSource (addr : Multiaddr) : Option (IpAddr × UInt16) :=
  (addr.findSome? Protocol.ip?).map fun ip => (ip, (addr.findSome? Protocol.tcp?).getD 0)

def onConnectionEstablished (behaviour : SessionBehaviour) (peer : PeerId)
    (connId : ConnectionId) (endpoint : ConnectedPoint) : SessionBehaviour :=
  let behaviour := { behaviour with connected := insert peer behaviour.connected }
  let behaviour :=
    match endpoint with
    | .dialer _ => behaviour
    | .listener _ sendBackAddr =>
        match observedSource sendBackAddr with
        | none => behaviour
        | some source =>
            { behaviour with
              observedAddrs := behaviour.observedAddrs.insert (peer, connId) source }
  behaviour.push (.generateEvent (.peerConnected ((behaviour.deviceOf peer).getD peer)))

def onConnectionClosed (behaviour : SessionBehaviour) (transport : PeerId)
    (connId : ConnectionId) (remainingEstablished : Nat) : SessionBehaviour :=
  let device := behaviour.deviceOf transport
  let key := device.getD transport
  let behaviour :=
    { behaviour with
      observedAddrs := behaviour.observedAddrs.erase (transport, connId)
      connected := behaviour.connected.erase transport
      handshakes := behaviour.handshakes.erase (transport, connId) }
  let behaviour :=
    match behaviour.sessions.lookup key with
    | none => behaviour
    | some bound =>
        if bound.connId = connId ∧ bound.transport = transport then
          { behaviour with
            sessions := behaviour.sessions.erase key
            peerNames :=
              match device with
              | none => behaviour.peerNames
              | some device => behaviour.peerNames.erase device }
        else behaviour
  if remainingEstablished = 0 then
    behaviour.push (.generateEvent (.peerDisconnected key))
  else behaviour

def onSwarmEvent (behaviour : SessionBehaviour) : FromSwarm → SessionBehaviour
  | .connectionEstablished peer connId endpoint =>
      behaviour.onConnectionEstablished peer connId endpoint
  | .connectionClosed peer connId remaining => behaviour.onConnectionClosed peer connId remaining

/-! ### Polling -/

def expired (behaviour : SessionBehaviour) (now : Nat) : List Connection :=
  (behaviour.handshakes.entries.filter fun entry => entry.2.1.timedOut now).map Sigma.fst

def expireHandshakes (behaviour : SessionBehaviour) (now : Nat) : SessionBehaviour :=
  (behaviour.expired now).foldl
    (fun behaviour conn => behaviour.failHandshake conn.1 conn.2 "handshake timed out") behaviour

def poll (behaviour : SessionBehaviour) (now : Nat) : SessionBehaviour × Option ToSwarm :=
  let behaviour := behaviour.expireHandshakes now
  match behaviour.queue with
  | [] => (behaviour, none)
  | item :: queue => ({ behaviour with queue := queue }, some item)

/-! ### The two halves of `onEstablished` -/

/-- The first half of `onEstablished`: the session is stored. -/
def entered (behaviour : SessionBehaviour) (transport : PeerId) (connId : ConnectionId)
    (result : HandshakeResult) : SessionBehaviour :=
  { behaviour with
    handshakes := behaviour.handshakes.erase (transport, connId)
    transportDevices := behaviour.transportDevices.insert transport result.peerId
    deviceTransports := behaviour.deviceTransports.insert result.peerId transport
    peerNames := behaviour.peerNames.insert result.peerId result.peerHello.userName
    sessions := behaviour.sessions.insert result.peerId
      { transport := transport, connId := connId, session := Session.new result } }

/-- The second half of `onEstablished`: the peer is told its address. -/
def tellObserved (behaviour : SessionBehaviour) (conn : Connection) (device : PeerId)
    (msgId : UInt64) : Option SessionBehaviour :=
  match behaviour.observedAddrs.lookup conn with
  | none => some behaviour
  | some (ip, sourcePort) =>
      { behaviour with
        observedAddrs := behaviour.observedAddrs.erase conn
      }.sendObservedAddr device ip sourcePort msgId

theorem onEstablished_eq (behaviour : SessionBehaviour) (transport : PeerId) (connId : ConnectionId)
    (result : HandshakeResult) (moment : Moment) :
    behaviour.onEstablished transport connId result moment =
      (((behaviour.entered transport connId result).flushPendingSends result.peerId transport connId
        moment).tellObserved (transport, connId) result.peerId (moment.msgIds 0)).map
          fun behaviour =>
            behaviour.push (.generateEvent (.sessionEstablished result.peerId connId result)) :=
  rfl

theorem lookup_entered (behaviour : SessionBehaviour) (transport : PeerId) (connId : ConnectionId)
    (result : HandshakeResult) :
    (behaviour.entered transport connId result).sessions.lookup result.peerId =
      some { transport := transport, connId := connId, session := Session.new result } :=
  AList.lookup_insert _

end SessionBehaviour

end JeanGrey
