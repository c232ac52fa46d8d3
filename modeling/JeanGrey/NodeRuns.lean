/-
Runs of a node.

The swarm calls the session behaviour and the node in any order: connection
handlers report frames, connections come and go, the queue of the behaviour is
polled, other events and the periodic tick arrive, and the user sends messages
and looks up peers.  Between any two calls the hash maps may change the order in
which they iterate.
-/

import JeanGrey.NodeFrames
import Mathlib.Logic.Relation

namespace JeanGrey

open Crates

variable [Crates]

inductive NodeAction where
  | handlerEvent (transport : PeerId) (connId : ConnectionId) (event : HandlerToBehaviour)
  | fromSwarm (event : FromSwarm)
  | poll
  | swarmEvent (event : SwarmEvent)
  | maintenance
  | sendMessage (peer : PeerId) (text : String)
  | lookup (peer : PeerId)

namespace Node

def pollSession (profile : Profile) (node : Node) (reading : Surroundings) : Option Node :=
  let (session, item) := node.session.poll reading.instant
  let node := { node with session := session }
  match item with
  | some (.generateEvent event) => node.handleEvent profile (.session event) reading
  | _ => some node

/-- One call.  Session events reach the node through its queue only. -/
def act (profile : Profile) (node : Node) (reading : Surroundings) : NodeAction → Option Node
  | .handlerEvent transport connId event =>
      (node.session.onHandlerEvent profile transport connId event reading.toMoment).map
        fun session => { node with session := session }
  | .fromSwarm event => some { node with session := node.session.onSwarmEvent event }
  | .poll => node.pollSession profile reading
  | .swarmEvent (.session _) => none
  | .swarmEvent event => node.handleEvent profile event reading
  | .maintenance => node.maintenance profile reading
  | .sendMessage peer text => some (node.sendMessage peer text reading).1
  | .lookup peer => some (node.lookup peer (reading.queryIds 0))

theorem act_swarmEvent {profile : Profile} {node next : Node} {reading : Surroundings}
    {event : SwarmEvent} (acted : node.act profile reading (.swarmEvent event) = some next) :
    (∀ inner, event ≠ .session inner) ∧ node.handleEvent profile event reading = some next := by
  cases event with
  | session inner => cases acted
  | _ => exact ⟨nofun, acted⟩

/-- The same node with its maps in another order. -/
structure Rehashed (node next : Node) : Prop where
  same : next = { node with
    session := { node.session with
      handshakes := next.session.handshakes
      sessions := next.session.sessions }
    pendingLookups := next.pendingLookups
    records := next.records
    candidates := next.candidates
    pendingProbes := next.pendingProbes }
  handshakes : next.session.handshakes.entries.Perm node.session.handshakes.entries
  sessions : next.session.sessions.entries.Perm node.session.sessions.entries
  pendingLookups : next.pendingLookups.entries.Perm node.pendingLookups.entries
  records : next.records.entries.Perm node.records.entries
  candidates : next.candidates.entries.Perm node.candidates.entries
  pendingProbes : next.pendingProbes.entries.Perm node.pendingProbes.entries

inductive Step (profile : Profile) (allowed : NodeAction → Surroundings → Prop) :
    Node → Node → Prop
  | act {node next : Node} (action : NodeAction) (reading : Surroundings)
      (allows : allowed action reading) (acted : node.act profile reading action = some next) :
      Step profile allowed node next
  | rehash {node next : Node} (rehashed : Rehashed node next) : Step profile allowed node next

def Reachable (profile : Profile) (allowed : NodeAction → Surroundings → Prop)
    (identity : DeviceIdentity) (options : NodeOptions) (node : Node) : Prop :=
  ∃ reading, Relation.ReflTransGen (Step profile allowed) (new identity options reading) node

/-- The invariant rule for runs of a node. -/
theorem Reachable.invariant {profile : Profile} {allowed : NodeAction → Surroundings → Prop}
    {identity : DeviceIdentity} {options : NodeOptions} {node : Node} {invariant : Node → Prop}
    (reachable : Reachable profile allowed identity options node)
    (initially : ∀ reading, invariant (new identity options reading))
    (acts : ∀ node next action reading, allowed action reading → invariant node →
      node.act profile reading action = some next → invariant next)
    (rehashes : ∀ node next, invariant node → Rehashed node next → invariant next) :
    invariant node := by
  obtain ⟨reading, run⟩ := reachable
  induction run with
  | refl => exact initially reading
  | tail _ step ih =>
      cases step with
      | act action reading allows acted => exact acts _ _ action reading allows ih acted
      | rehash rehashed => exact rehashes _ _ ih rehashed

end Node

end JeanGrey
