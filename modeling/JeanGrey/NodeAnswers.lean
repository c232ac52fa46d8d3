/-
The dial-back requests that a node gets, and its answers.

A request is accepted unless a probe for its device is in flight.  A probe ends
when the device connects, when its dial fails, when it takes too long, or when
the device disconnects; the first three answer the request.  The desk of a node
is what takes part in this.  Everything else a call does to the session
behaviour answers nobody.
-/

import JeanGrey.NodeProbes

namespace JeanGrey

open Crates Runs

variable [Crates]

/-! ### The desk -/

structure Desk where
  session : SessionBehaviour
  probes : PeerId → Option PendingProbe

inductive Trial where
  | accepts (peer : PeerId) (addr : Multiaddr)
  /-- A probe for the device is in flight. -/
  | ignores (peer : PeerId) (addr : Multiaddr)
  | answers (peer : PeerId) (addr : Multiaddr) (reachable : Bool)
  | drops (peer : PeerId)

namespace Desk

def dropProbe (desk : Desk) (peer : PeerId) : Desk :=
  { desk with probes := Function.update desk.probes peer none }

/-- A call of the session behaviour that answers nobody. -/
inductive Serves (profile : Profile) : Desk → Desk → Prop
  | calls {desk : Desk} {session : SessionBehaviour} (moment : Moment) (action : BehaviourAction)
      (steady : action.Steady) (acted : desk.session.act profile moment action = some session) :
      Serves profile desk { desk with session := session }

inductive Tries (profile : Profile) : Desk → Trial → Desk → Prop
  | accepts {desk : Desk} {peer : PeerId} (idle : desk.probes peer = none) (addr : Multiaddr)
      (since : Nat) :
      Tries profile desk (.accepts peer addr)
        { probes := Function.update desk.probes peer (some { addr := addr, since := since })
          session := desk.session.connectProbe addr }
  | ignores {desk : Desk} {peer : PeerId} {probe : PendingProbe}
      (busy : desk.probes peer = some probe) (addr : Multiaddr) :
      Tries profile desk (.ignores peer addr) desk
  | answers {desk : Desk} {peer : PeerId} {probe : PendingProbe} {reachable : Bool}
      {msgId : UInt64} {session : SessionBehaviour} (pending : desk.probes peer = some probe)
      (sent : desk.session.sendDialBackRes profile peer probe.addr reachable msgId =
        some session) :
      Tries profile desk (.answers peer probe.addr reachable)
        { desk.dropProbe peer with session := session }
  | drops (desk : Desk) (peer : PeerId) : Tries profile desk (.drops peer) (desk.dropProbe peer)

def Handles (profile : Profile) (desk : Desk) (trials : List Trial) (next : Desk) : Prop :=
  ∃ tried, Trace (Tries profile) desk trials tried ∧
    Relation.ReflTransGen (Serves profile) tried next

variable {profile : Profile} {desk next : Desk}

theorem Handles.same (desk : Desk) : desk.Handles profile [] desk := ⟨desk, .nil desk, .refl⟩

theorem Handles.single {trial : Trial} (tries : desk.Tries profile trial next) :
    desk.Handles profile [trial] next :=
  ⟨next, .single tries, .refl⟩

end Desk

def Book.desk (book : Book) : Desk := { session := book.session, probes := book.probes }

theorem Book.Steadily.serves {profile : Profile} {book next : Book}
    (steps : book.Steadily profile next) :
    Relation.ReflTransGen (Desk.Serves profile) book.desk next.desk := by
  induction steps with
  | refl => exact .refl
  | tail _ step ih =>
      cases step with
      | calls moment action steady acted => exact ih.tail (.calls moment action steady acted)
      | asks prober found => exact ih
      | rejects found => exact ih
      | restarts now found => exact ih

theorem Book.Steadily.handles {profile : Profile} {book next : Book}
    (steps : book.Steadily profile next) : book.desk.Handles profile [] next.desk :=
  ⟨book.desk, .nil _, steps.serves⟩

namespace Node

def desk (node : Node) : Desk := node.book.desk

def failing (node : Node) (test : PendingProbe → Bool) : List (PeerId × Multiaddr) :=
  (node.pendingProbes.entries.filter fun entry => test entry.2).map
    fun entry => (entry.1, entry.2.addr)

def unreachable (probes : List (PeerId × Multiaddr)) : List Trial :=
  probes.map fun probe => .answers probe.1 probe.2 false

def sessionTrials (node : Node) : BehaviourEvent → List Trial
  | .sessionEstablished peer _ _ =>
      match node.pendingProbes.lookup peer with
      | none => []
      | some probe => [.answers peer probe.addr true]
  | .dialBackRequested peer addr =>
      if (node.pendingProbes.lookup peer).isSome then [.ignores peer addr]
      else [.accepts peer addr]
  | .peerDisconnected peer => [.drops peer]
  | _ => []

def trials (node : Node) (reading : Surroundings) : NodeAction → List Trial
  | .poll =>
      match node.handles reading .poll with
      | none => []
      | some event => node.sessionTrials event
  | .swarmEvent (.outgoingConnectionError none error) =>
      unreachable (node.failing fun probe => probe.addr ∈ error.failed)
  | .maintenance => unreachable (node.expiredProbes reading.instant)
  | _ => []

variable {profile : Profile} {reading : Surroundings} {node next : Node}

/-! ### The trials of a call -/

theorem failing_distinct (node : Node) (test : PendingProbe → Bool) :
    ((node.failing test).map Prod.fst).Nodup := by
  unfold failing
  rw [List.map_map]
  exact List.Nodup.sublist (List.Sublist.map _ List.filter_sublist) node.pendingProbes.nodupKeys

theorem pending_of_failing (test : PendingProbe → Bool) {entry : PeerId × Multiaddr}
    (member : entry ∈ node.failing test) :
    ∃ probe, node.pendingProbes.lookup entry.1 = some probe ∧ probe.addr = entry.2 := by
  obtain ⟨⟨peer, probe⟩, among, rfl⟩ := List.mem_map.mp member
  exact ⟨probe, AList.mem_lookup_iff.mpr (List.mem_filter.mp among).1, rfl⟩

/-- Each report ends the probe it is about, and no other. -/
theorem tries_reportUnreachable {msgIds : Nat → UInt64} {probes : List (PeerId × Multiaddr)}
    {count : Nat} (reported : node.reportUnreachable profile msgIds count probes = some next)
    (distinct : (probes.map Prod.fst).Nodup)
    (pending : ∀ entry ∈ probes, ∃ probe, node.desk.probes entry.1 = some probe ∧
      probe.addr = entry.2) :
    Trace (Desk.Tries profile) node.desk (unreachable probes) next.desk := by
  induction probes generalizing node count with
  | nil =>
      cases reported
      exact .nil _
  | cons entry later ih =>
      obtain ⟨peer, addr⟩ := entry
      obtain ⟨first, rest⟩ := List.forall_mem_cons.mp pending
      obtain ⟨probe, found, rfl⟩ := first
      rw [List.map_cons, List.nodup_cons] at distinct
      rw [reportUnreachable] at reported
      cases sent : node.session.sendDialBackRes profile peer probe.addr false (msgIds count) with
      | none =>
          rw [sent] at reported
          cases reported
      | some session =>
          rw [sent] at reported
          have dropped : ({ node with
              pendingProbes := node.pendingProbes.erase peer
              session := session } : Node).desk =
                { node.desk.dropProbe peer with session := session } := by
            unfold desk Book.desk book Desk.dropProbe
            rw [SessionBehaviour.lookup_erase_eq]
          refine .cons (.answers found sent) ?_
          rw [← dropped]
          apply ih reported distinct.2
          intro other member
          obtain ⟨its, holds, same⟩ := rest other member
          have apart : other.1 ≠ peer :=
            fun same => distinct.1 (List.mem_map.mpr ⟨other, member, same⟩)
          refine ⟨its, ?_, same⟩
          rw [dropped]
          exact (Function.update_of_ne apart ..).trans holds

theorem desk_publishRecord (node : Node) (reading : Surroundings) :
    (node.publishRecord reading).desk = node.desk :=
  congrArg Book.desk (book_publishRecord node reading)

theorem desk_scheduleReconnect (node : Node) (peer : PeerId) (reading : Surroundings) :
    (node.scheduleReconnect peer reading).desk = node.desk :=
  congrArg Book.desk (book_scheduleReconnect node peer reading)

theorem desk_onDialBackRes (node : Node) (peer : PeerId) (addr : Multiaddr) (reachable : Bool)
    (reading : Surroundings) :
    (node.onDialBackRes peer addr reachable reading).desk = node.desk := by
  rcases onDialBackRes_cases node peer addr reachable reading with same | ⟨candidates, addrs, same⟩
  · rw [same]
  · rw [same]
    exact desk_publishRecord _ reading

theorem handles_onDialBackReq (profile : Profile) (node : Node) (peer : PeerId) (addr : Multiaddr)
    (reading : Surroundings) :
    node.desk.Handles profile (node.sessionTrials (.dialBackRequested peer addr))
      (node.onDialBackReq peer addr reading).desk := by
  unfold onDialBackReq sessionTrials
  dsimp only
  split
  · rename_i busy
    obtain ⟨probe, pending⟩ := Option.isSome_iff_exists.mp busy
    exact .single (.ignores pending addr)
  · rename_i idle
    have accepted : node.desk.Tries profile (.accepts peer addr) _ :=
      .accepts (Option.not_isSome_iff_eq_none.mp idle) addr reading.instant
    unfold desk Book.desk book at accepted ⊢
    rw [SessionBehaviour.lookup_insert_eq]
    exact .single accepted

theorem handles_onSessionEvent {event : BehaviourEvent}
    (handled : node.onSessionEvent profile event reading = some next) :
    node.desk.Handles profile (node.sessionTrials event) next.desk := by
  have stays : next.desk = node.desk → node.desk.Handles profile [] next.desk := by
    intro same
    rw [same]
    exact .same _
  have dropped (node : Node) (peer : PeerId) :
      ({ node with pendingProbes := node.pendingProbes.erase peer } : Node).desk =
        node.desk.dropProbe peer := congrArg Book.desk (book_dropProbe node peer)
  unfold onSessionEvent at handled
  unfold sessionTrials
  cases event with
  | sessionEstablished peer connId result =>
      obtain ⟨reported, sent, rfl⟩ := Option.map_eq_some_iff.mp handled
      dsimp only at sent ⊢
      cases pending : node.pendingProbes.lookup peer with
      | none =>
          rw [pending] at sent
          cases sent
          exact .same _
      | some probe =>
          rw [pending] at sent
          obtain ⟨session, told, rfl⟩ := Option.map_eq_some_iff.mp sent
          have answered : node.desk.Tries profile (.answers peer probe.addr true) _ :=
            .answers pending told
          rw [← dropped] at answered
          exact .single answered
  | observedAddrReported peer ip sourcePort =>
      dsimp only at handled
      rw [onObservedAddr_eq] at handled
      split at handled
      · cases handled
        exact .same _
      · exact (steadily_requestDialBack handled).handles
  | dialBackRequested peer addr =>
      cases handled
      exact handles_onDialBackReq profile node peer addr reading
  | dialBackResolved peer addr reachable =>
      cases handled
      exact stays (desk_onDialBackRes node peer addr reachable reading)
  | peerDisconnected peer =>
      have dropping : node.desk.Handles profile [.drops peer] _ := .single (.drops _ peer)
      rw [← dropped] at dropping
      dsimp only at handled ⊢
      split at handled
      · cases handled
        rw [desk_scheduleReconnect]
        exact dropping
      · cases handled
        exact dropping
  | handshakeFailed peer error =>
      cases handled
      exact .same _
  | messageReceived peer msgId body tsMs =>
      cases handled
      exact .same _
  | ackReceived peer msgId ackSeq =>
      cases handled
      exact .same _
  | peerConnected peer =>
      cases handled
      exact .same _

theorem handles_onOutgoingConnectionError {peer : Option PeerId} {error : DialError}
    (handled : node.onOutgoingConnectionError profile peer error reading = some next) :
    node.desk.Handles profile
      (node.trials reading (.swarmEvent (.outgoingConnectionError peer error))) next.desk := by
  obtain ⟨dropped, done, rfl⟩ := Option.map_eq_some_iff.mp handled
  have kept := congrArg Book.desk (book_refreshRecord dropped (peer.bind node.session.deviceOf)
    error.failed reading)
  obtain ⟨records, forgets⟩ := forgetWrongRecord_same node error (peer.bind node.session.deviceOf)
  rw [forgets] at done
  rw [show Node.desk _ = dropped.desk from kept]
  cases peer with
  | some transport =>
      cases done
      have same := congrArg Book.desk (book_foldl_effect (fun addr => .removeAddress transport addr)
        error.failed { node with records := records })
      rw [show Node.desk _ = node.desk from same]
      exact .same _
  | none =>
      have probes : ∀ entry ∈ node.failing fun probe => probe.addr ∈ error.failed,
          ∃ probe, node.desk.probes entry.1 = some probe ∧ probe.addr = entry.2 :=
        fun entry member => pending_of_failing _ member
      have distinct := node.failing_distinct fun probe => probe.addr ∈ error.failed
      unfold dropFailed onPeerlessFailure handleProbeFailure at done
      dsimp only at done
      refine ⟨dropped.desk, ?_, .refl⟩
      split at done
      · split at done
        · have reports := tries_reportUnreachable done distinct probes
          exact reports
        · have reports := tries_reportUnreachable done distinct probes
          exact reports
      · have reports := tries_reportUnreachable done distinct probes
        exact reports

theorem handles_handleEvent {event : SwarmEvent} (foreign : ∀ inner, event ≠ .session inner)
    (handled : node.handleEvent profile event reading = some next) :
    node.desk.Handles profile (node.trials reading (.swarmEvent event)) next.desk := by
  have stays (same : next.book = node.book) : node.desk.Handles profile [] next.desk := by
    unfold desk
    rw [same]
    exact .same _
  cases event with
  | session inner => exact (foreign inner rfl).elim
  | kad id result => exact (steadily_onKadEvent handled).handles
  | autonat status =>
      cases handled
      exact .same _
  | dcutr remote succeeded =>
      cases handled
      exact stays (book_onDcutr node remote succeeded)
  | newListenAddr address =>
      cases handled
      exact stays (book_onNewListenAddr node address reading)
  | expiredListenAddr address =>
      cases handled
      exact stays (book_onExpiredListenAddr node address reading)
  | connectionEstablished peer endpoint =>
      cases handled
      exact (steadily_onConnectionEstablished node peer endpoint reading).handles
  | connectionClosed peer endpoint numEstablished =>
      cases handled
      exact stays (book_onConnectionClosed node peer endpoint numEstablished)
  | outgoingConnectionError peer error => exact handles_onOutgoingConnectionError handled
  | logged =>
      cases handled
      exact .same _

/-- What a call makes of the desk: the part that the session behaviour does
itself, then its trials, then calls that answer nobody. -/
theorem handles_act {action : NodeAction} (acted : node.act profile reading action = some next) :
    ∃ session, action.onSession.elim (some node.session)
        (node.session.act profile reading.toMoment) = some session ∧
      Desk.Handles profile { node.desk with session := session } (node.trials reading action)
        next.desk := by
  cases action with
  | handlerEvent transport connId event =>
      obtain ⟨session, done, rfl⟩ := Option.map_eq_some_iff.mp acted
      exact ⟨session, done, .same _⟩
  | fromSwarm event =>
      cases acted
      exact ⟨_, rfl, .same _⟩
  | poll =>
      refine ⟨(node.session.poll reading.instant).1, rfl, ?_⟩
      unfold trials
      dsimp only
      rcases act_poll_cases acted with ⟨nothing, rfl⟩ | ⟨event, popped, handled⟩
      · rw [nothing]
        exact .same _
      · rw [popped]
        exact handles_onSessionEvent handled
  | swarmEvent event =>
      obtain ⟨foreign, handled⟩ := act_swarmEvent acted
      exact ⟨node.session, rfl, handles_handleEvent foreign handled⟩
  | maintenance =>
      obtain ⟨probed, reported, steps⟩ := maintenance_parts acted
      obtain ⟨scan, addrs, record, last, effects, same⟩ := refreshed_same node reading
      rw [same] at reported
      refine ⟨node.session, rfl, probed.desk, ?_, steps.serves⟩
      apply tries_reportUnreachable reported
      · exact node.failing_distinct fun probe => reading.instant - probe.since ≥ probeTimeout
      · intro entry member
        exact pending_of_failing (fun probe => reading.instant - probe.since ≥ probeTimeout) member
  | sendMessage peer text =>
      cases acted
      refine ⟨node.session, rfl, node.desk, .nil _, .single ?_⟩
      exact .calls reading.toMoment (.sendMessage peer text) trivial rfl
  | lookup peer =>
      cases acted
      exact ⟨node.session, rfl, .same _⟩

end Node

/-! ### Requests and replies -/

structure DialBack where
  peer : PeerId
  addr : Multiaddr
  accepted : Bool

structure DialBackReply where
  request : Nat
  peer : PeerId
  addr : Multiaddr
  reachable : Bool

/-- The requests of a run, numbered in their order, and the replies. -/
structure Docket where
  requests : List DialBack
  /-- The request that was accepted last from a device. -/
  current : PeerId → Nat
  replies : List DialBackReply

namespace Docket

def empty : Docket := { requests := [], current := fun _ => 0, replies := [] }

def after (docket : Docket) : Trial → Docket
  | .accepts peer addr =>
      { docket with
        requests := docket.requests ++ [{ peer := peer, addr := addr, accepted := true }]
        current := Function.update docket.current peer docket.requests.length }
  | .ignores peer addr =>
      { docket with
        requests := docket.requests ++ [{ peer := peer, addr := addr, accepted := false }] }
  | .answers peer addr reachable =>
      { docket with
        replies := docket.replies ++
          [{ request := docket.current peer, peer := peer, addr := addr, reachable := reachable }] }
  | .drops _ => docket

/-- The request was accepted from the device, for the address. -/
def Accepts (docket : Docket) (index : Nat) (peer : PeerId) (addr : Multiaddr) : Prop :=
  docket.requests[index]? = some { peer := peer, addr := addr, accepted := true }

def answered (docket : Docket) : List Nat := docket.replies.map DialBackReply.request

variable {docket : Docket} {index : Nat} {peer : PeerId} {addr : Multiaddr}

theorem Accepts.lt_length (accepts : docket.Accepts index peer addr) :
    index < docket.requests.length :=
  (List.getElem?_eq_some_iff.mp accepts).1

theorem Accepts.after (accepts : docket.Accepts index peer addr) (trial : Trial) :
    (docket.after trial).Accepts index peer addr := by
  have grows (new : DialBack) : (docket.requests ++ [new])[index]? = docket.requests[index]? :=
    List.getElem?_append_left accepts.lt_length
  cases trial with
  | accepts other at_ => exact (grows _).trans accepts
  | ignores other at_ => exact (grows _).trans accepts
  | answers other at_ reachable => exact accepts
  | drops other => exact accepts

end Docket

/-- Every reply answers an accepted request of its own, and every pending probe
is for one that has no reply yet. -/
structure Desk.Filed (desk : Desk) (docket : Docket) : Prop where
  replied : ∀ reply ∈ docket.replies, docket.Accepts reply.request reply.peer reply.addr
  distinct : docket.answered.Nodup
  pending : ∀ peer probe, desk.probes peer = some probe →
    docket.Accepts (docket.current peer) peer probe.addr ∧
      docket.current peer ∉ docket.answered

namespace Desk.Filed

variable {profile : Profile} {desk next : Desk} {docket : Docket}

theorem drop (filed : desk.Filed docket) (peer : PeerId) : (desk.dropProbe peer).Filed docket := by
  refine ⟨filed.replied, filed.distinct, fun other probe found => ?_⟩
  by_cases same : other = peer
  · simp [dropProbe, same] at found
  · simp only [dropProbe, Function.update_of_ne same] at found
    exact filed.pending other probe found

theorem tries {trial : Trial} (filed : desk.Filed docket)
    (tries : desk.Tries profile trial next) : next.Filed (docket.after trial) := by
  have replied (reply : DialBackReply) (member : reply ∈ docket.replies) :=
    (filed.replied reply member).after trial
  cases tries with
  | @accepts peer idle addr since =>
      refine ⟨replied, filed.distinct, fun other probe found => ?_⟩
      by_cases same : other = peer
      · subst same
        simp only [Function.update_self, Option.some.injEq] at found
        subst found
        have current : (docket.after (.accepts other addr)).current other =
            docket.requests.length := Function.update_self ..
        rw [current]
        constructor
        · exact List.getElem?_concat_length
        · -- The number of the new request is beyond all that were answered.
          intro answered
          obtain ⟨reply, member, number⟩ := List.mem_map.mp answered
          have before := (filed.replied reply member).lt_length
          omega
      · simp only [Function.update_of_ne same] at found
        obtain ⟨accepted, unanswered⟩ := filed.pending other probe found
        have current : (docket.after (.accepts peer addr)).current other = docket.current other :=
          Function.update_of_ne same ..
        rw [current]
        exact ⟨accepted.after _, unanswered⟩
  | ignores busy addr =>
      refine ⟨replied, filed.distinct, fun other probe found => ?_⟩
      obtain ⟨accepted, unanswered⟩ := filed.pending other probe found
      exact ⟨accepted.after _, unanswered⟩
  | @answers peer probe reachable msgId session pending sent =>
      obtain ⟨accepted, unanswered⟩ := filed.pending peer probe pending
      have numbers : (docket.after (.answers peer probe.addr reachable)).answered =
          docket.answered ++ [docket.current peer] := by
        simp [Docket.answered, Docket.after]
      refine ⟨?_, ?_, ?_⟩
      · intro reply member
        rcases List.mem_append.mp member with before | last
        · exact filed.replied reply before
        · cases List.mem_singleton.mp last
          exact accepted
      · rw [numbers, List.nodup_append]
        refine ⟨filed.distinct, List.nodup_singleton _, ?_⟩
        rintro number before last now rfl
        rw [List.mem_singleton.mp now] at before
        exact unanswered before
      · intro other its found
        have apart : other ≠ peer := by
          rintro rfl
          simp [dropProbe] at found
        simp only [dropProbe, Function.update_of_ne apart] at found
        obtain ⟨accepted', unanswered'⟩ := filed.pending other its found
        refine ⟨accepted', ?_⟩
        rw [numbers, List.mem_append, not_or]
        refine ⟨unanswered', fun same => apart ?_⟩
        -- One request comes from one device.
        have number : docket.current other = docket.current peer := List.mem_singleton.mp same
        unfold Docket.Accepts at accepted accepted'
        rw [number, accepted] at accepted'
        exact (congrArg DialBack.peer (Option.some.inj accepted')).symm
  | drops peer => exact filed.drop peer

theorem serves (filed : desk.Filed docket)
    (served : Relation.ReflTransGen (Desk.Serves profile) desk next) : next.Filed docket := by
  induction served with
  | refl => exact filed
  | tail _ step ih =>
      cases step with
      | calls moment action steady acted => exact ⟨ih.replied, ih.distinct, ih.pending⟩

theorem trace {trials : List Trial} (filed : desk.Filed docket)
    (trace : Trace (Desk.Tries profile) desk trials next) :
    next.Filed (trials.foldl Docket.after docket) := by
  induction trace generalizing docket with
  | nil => exact filed
  | cons first _ ih => exact ih (filed.tries first)

end Desk.Filed

/-! ### Runs with their docket -/

namespace Node

/-- A run of a node, with the requests it got and its replies. -/
inductive Filed (profile : Profile) (identity : DeviceIdentity) (options : NodeOptions) :
    Node → Docket → Prop
  | starts (reading : Surroundings) :
      Filed profile identity options (new identity options reading) .empty
  | acts {node next : Node} {docket : Docket} (before : Filed profile identity options node docket)
      (action : NodeAction) (reading : Surroundings)
      (acted : node.act profile reading action = some next) :
      Filed profile identity options next ((node.trials reading action).foldl Docket.after docket)
  | rehashes {node next : Node} {docket : Docket}
      (before : Filed profile identity options node docket) (rehashed : Rehashed node next) :
      Filed profile identity options next docket

variable {profile : Profile} {identity : DeviceIdentity} {options : NodeOptions} {node : Node}
  {docket : Docket}

theorem filed_desk (filed : Filed profile identity options node docket) :
    node.desk.Filed docket := by
  induction filed with
  | starts reading => exact ⟨nofun, List.nodup_nil, nofun⟩
  | acts before action reading acted ih =>
      obtain ⟨session, -, tried, trace, served⟩ := handles_act acted
      have begun : Desk.Filed { desk _ with session := session } _ :=
        ⟨ih.replied, ih.distinct, ih.pending⟩
      exact (begun.trace trace).serves served
  | @rehashes node next docket before rehashed ih =>
      have probes : next.desk.probes = node.desk.probes := by
        unfold desk
        rw [rehashed.book]
        rfl
      exact ⟨ih.replied, ih.distinct, probes ▸ ih.pending⟩

theorem countP_pendingProbes_le (node : Node) (peer : PeerId) :
    (node.pendingProbes.entries.countP fun entry => entry.1 = peer) ≤ 1 := by
  have distinct : (node.pendingProbes.entries.map Sigma.fst).Nodup := node.pendingProbes.nodupKeys
  have once := List.nodup_iff_count_le_one.mp distinct peer
  rw [List.count, List.countP_map] at once
  simpa only [Function.comp_def, beq_eq_decide] using once

/-- Every `DialBackRes` answers an accepted request of its own, and an ignored
request is never answered.  The last part says that the trials are all that a
call tells anybody. -/
theorem replies_match_requests (filed : Filed profile identity options node docket) :
    (∀ peer, (node.pendingProbes.entries.countP fun entry => entry.1 = peer) ≤ 1) ∧
    (∀ reply ∈ docket.replies, docket.requests[reply.request]? =
      some { peer := reply.peer, addr := reply.addr, accepted := true }) ∧
    (docket.replies.map DialBackReply.request).Nodup ∧
    (∀ index request, docket.requests[index]? = some request → request.accepted = false →
      index ∉ docket.replies.map DialBackReply.request) ∧
    ∀ action reading next, node.act profile reading action = some next →
      ∃ session, action.onSession.elim (some node.session)
          (node.session.act profile reading.toMoment) = some session ∧
        Desk.Handles profile { node.desk with session := session } (node.trials reading action)
          next.desk := by
  obtain ⟨replied, distinct, -⟩ := filed_desk filed
  refine ⟨node.countP_pendingProbes_le, replied, distinct, ?_, ?_⟩
  · intro index request found ignored answered
    obtain ⟨reply, member, rfl⟩ := List.mem_map.mp answered
    rw [replied reply member] at found
    cases found
    cases ignored
  · exact fun _ _ _ acted => handles_act acted

theorem trials_of_confirms {reading : Surroundings} {peer : PeerId} {addr : Multiaddr}
    (confirms : node.deed reading .poll = .confirms peer addr) :
    node.trials reading .poll = [.answers peer addr true] := by
  unfold deed at confirms
  unfold trials
  cases handled : node.handles reading .poll with
  | none =>
      rw [handled] at confirms
      cases confirms
  | some event =>
      rw [handled] at confirms
      have caused := node.causedBy_answer reading event
      dsimp only at confirms ⊢
      rw [confirms] at caused
      cases caused with
      | confirms pending connId result =>
          unfold sessionTrials
          dsimp only
          rw [pending]

theorem exists_filed {allowed : Probing → Surroundings → NodeAction → Prop} {probing : Probing}
    (reachable : Probing.Reachable profile allowed identity options probing) :
    ∃ docket, Filed profile identity options probing.node docket := by
  obtain ⟨reading, run⟩ := reachable
  induction run with
  | refl => exact ⟨_, .starts reading⟩
  | tail _ step ih =>
      obtain ⟨docket, before⟩ := ih
      cases step with
      | act action reading allows acted => exact ⟨_, before.acts action reading acted⟩
      | rehash rehashed => exact ⟨docket, before.rehashes rehashed⟩

section Sample

open Symbolic

omit [Crates]

/-- A request that is answered when its device comes back. -/
theorem replies_match_requests_sample :
    letI := publicCrates
    letI alice := ((publicPair false).identity .left).peerId
    ∃ node docket, Filed .release ((publicPair false).identity .right) sampleOptions node docket ∧
      ∃ reply ∈ docket.replies, reply.peer = alice ∧ reply.reachable = true ∧
        docket.requests[reply.request]? =
          some { peer := alice, addr := seenAddr, accepted := true } := by
  let _ := publicCrates
  let conn : Connection := (([7] : Bytes), 1)
  have lenient : Probing.Lenient fun _ _ _ => True := fun _ _ _ _ => trivial
  obtain ⟨probing, reachable, -, asked⟩ := Probing.exists_asked publicLaws (aeadCorrect _ _)
    (publicPair_honest false) .release sampleOptions conn rfl carriable_seenAddr
  have endpoint : Probing.Unobserved (.dialer seenAddr) := trivial
  have fresh : 2 ≠ conn.2 := by decide
  obtain ⟨greeted, steps, -, -, still⟩ := Probing.exists_greeted lenient .release asked 2 endpoint
  obtain ⟨final, middle, next, later, -, -, acted, confirms, -⟩ :=
    Probing.exists_confirming lenient publicLaws (publicPair_honest true)
      (Probing.asked_of_public still) rfl carriable_seenAddr fresh (fun _ => True)
      (fun _ _ _ _ => trivial) (fun _ _ _ _ _ _ _ => trivial) trivial
  obtain ⟨reading, run⟩ := reachable.mono fun _ _ _ _ => trivial
  obtain ⟨docket, filed⟩ := exists_filed ⟨reading, (run.trans steps).trans later⟩
  have answers := filed.acts .poll (drawing []) acted
  rw [trials_of_confirms confirms] at answers
  have replied := (replies_match_requests answers).2.1
  let reply : DialBackReply :=
    { request := docket.current ((publicPair false).identity .left).peerId
      peer := ((publicPair false).identity .left).peerId
      addr := seenAddr
      reachable := true }
  have last : reply ∈ docket.replies ++ [reply] := List.mem_append_right _ List.mem_cons_self
  exact ⟨next, _, answers, reply, last, rfl, rfl, replied reply last⟩

end Sample

end Node

end JeanGrey
