/-
What the calls of a node do to its candidates and probes.

The addresses a node may be reached at, the probes it makes for others and its
session behaviour form a book.  Most operations make only routine changes to it.
The four that matter to somebody else are named by the event that causes them: a
validation is opened, an address is validated, a probe is started, and a probe
is confirmed.
-/

import JeanGrey.BehaviourRuns
import JeanGrey.NodeRuns

namespace JeanGrey

open Crates Runs

variable [Crates]

/-! ### The book -/

structure Book where
  session : SessionBehaviour
  candidates : Multiaddr → Option Candidate
  validated : List Multiaddr
  probes : PeerId → Option PendingProbe

/-- The calls of the session behaviour that nothing depends on here. -/
def BehaviourAction.Plain : BehaviourAction → Prop
  | connect .. | connectUnknown .. | mapTransport .. | sendMessage .. | sendDialBackReq .. => True
  | sendDialBackRes _ _ reachable => reachable = false
  | _ => False

def BehaviourAction.Steady : BehaviourAction → Prop
  | connect .. | connectUnknown .. | mapTransport .. | sendMessage .. | sendDialBackReq .. => True
  | _ => False

theorem BehaviourAction.Steady.plain {action : BehaviourAction} (steady : action.Steady) :
    action.Plain := by
  cases action with
  | sendDialBackRes peer addr reachable => exact steady.elim
  | _ => exact steady

namespace Book

def setCandidate (book : Book) (addr : Multiaddr) (candidate : Candidate) : Book :=
  { book with candidates := Function.update book.candidates addr (some candidate) }

def reject (book : Book) (addr : Multiaddr) (candidate : Candidate) : Book :=
  { book.setCandidate addr { candidate with state := candidate.state.reject } with
    validated := book.validated.filter fun other => other ≠ addr }

def dropProbe (book : Book) (peer : PeerId) : Book :=
  { book with probes := Function.update book.probes peer none }

inductive Routine (profile : Profile) : Book → Book → Prop
  | calls {book : Book} {session : SessionBehaviour} (moment : Moment) (action : BehaviourAction)
      (plain : action.Plain) (acted : book.session.act profile moment action = some session) :
      Routine profile book { book with session := session }
  | asks {book : Book} {addr : Multiaddr} {candidate : Candidate} (prober : PeerId)
      (found : book.candidates addr = some candidate) :
      Routine profile book (book.setCandidate addr { candidate with prober := prober })
  | rejects {book : Book} {addr : Multiaddr} {candidate : Candidate}
      (found : book.candidates addr = some candidate) :
      Routine profile book (book.reject addr candidate)
  | restarts {book : Book} {addr : Multiaddr} {candidate : Candidate} (now : Nat)
      (found : book.candidates addr = some candidate) :
      Routine profile book (book.setCandidate addr { candidate with state := .pending now })
  | drops {book : Book} (peer : PeerId) : Routine profile book (book.dropProbe peer)

def Routinely (profile : Profile) : Book → Book → Prop := Relation.ReflTransGen (Routine profile)

inductive Steady (profile : Profile) : Book → Book → Prop
  | calls {book : Book} {session : SessionBehaviour} (moment : Moment) (action : BehaviourAction)
      (steady : action.Steady) (acted : book.session.act profile moment action = some session) :
      Steady profile book { book with session := session }
  | asks {book : Book} {addr : Multiaddr} {candidate : Candidate} (prober : PeerId)
      (found : book.candidates addr = some candidate) :
      Steady profile book (book.setCandidate addr { candidate with prober := prober })
  | rejects {book : Book} {addr : Multiaddr} {candidate : Candidate}
      (found : book.candidates addr = some candidate) :
      Steady profile book (book.reject addr candidate)
  | restarts {book : Book} {addr : Multiaddr} {candidate : Candidate} (now : Nat)
      (found : book.candidates addr = some candidate) :
      Steady profile book (book.setCandidate addr { candidate with state := .pending now })

def Steadily (profile : Profile) : Book → Book → Prop := Relation.ReflTransGen (Steady profile)

theorem Steadily.routinely {profile : Profile} {book next : Book}
    (steps : book.Steadily profile next) : book.Routinely profile next := by
  refine Relation.ReflTransGen.mono ?_ _ _ steps
  intro before after step
  cases step with
  | calls moment action steady acted => exact .calls moment action steady.plain acted
  | asks prober found => exact .asks prober found
  | rejects found => exact .rejects found
  | restarts now found => exact .restarts now found

end Book

/-- What a call does besides routine changes. -/
inductive Deed where
  | routine
  /-- A report of `addr` by `peer` opens a validation. -/
  | opens (addr : Multiaddr) (peer : PeerId)
  /-- `peer`, the prober of `addr`, has reached it. -/
  | validates (addr : Multiaddr) (peer : PeerId)
  /-- `addr` is dialed for `peer`. -/
  | probes (peer : PeerId) (addr : Multiaddr)
  /-- `peer` is told that `addr` is reachable. -/
  | confirms (peer : PeerId) (addr : Multiaddr)

inductive Book.Follows (profile : Profile) (reading : Surroundings) : Deed → Book → Book → Prop
  | routine {book next : Book} (steps : book.Routinely profile next) :
      Follows profile reading .routine book next
  | opens {book next : Book} {addr : Multiaddr} {peer : PeerId}
      (starts : ∀ candidate, book.candidates addr = some candidate →
        ∃ attempts, candidate.state = .rejected attempts ∧ attempts < Node.maxValidationAttempts)
      (steps : (book.setCandidate addr
        { state := .pending reading.instant, prober := peer }).Routinely profile next) :
      Follows profile reading (.opens addr peer) book next
  | validates {book : Book} {addr : Multiaddr} {peer : PeerId} {candidate : Candidate}
      (found : book.candidates addr = some candidate) (asked : candidate.prober = peer) :
      Follows profile reading (.validates addr peer) book
        { book.setCandidate addr { candidate with state := .validated reading.instant } with
          validated := Node.addNew book.validated addr }
  | probes {book : Book} {peer : PeerId} {addr : Multiaddr} (idle : book.probes peer = none) :
      Follows profile reading (.probes peer addr) book
        { book with
          probes := Function.update book.probes peer
            (some { addr := addr, since := reading.instant })
          session := book.session.connectProbe addr }
  | confirms {book : Book} {peer : PeerId} {probe : PendingProbe} {session : SessionBehaviour}
      (pending : book.probes peer = some probe)
      (sent : book.session.sendDialBackRes profile peer probe.addr true (reading.msgIds 0) =
        some session) :
      Follows profile reading (.confirms peer probe.addr) book
        { book.dropProbe peer with session := session }

def NodeAction.onSession : NodeAction → Option BehaviourAction
  | .handlerEvent transport connId event => some (.handlerEvent transport connId event)
  | .fromSwarm event => some (.swarmEvent event)
  | .poll => some .poll
  | _ => none

namespace Node

def book (node : Node) : Book :=
  { session := node.session
    candidates := node.candidates.lookup
    validated := node.validatedPublicAddrs
    probes := node.pendingProbes.lookup }

def openedBy (node : Node) (ip : IpAddr) (reading : Surroundings) : Option Multiaddr :=
  if node.isExternalIp ip reading = false then none
  else
    match node.candidateFor ip with
    | none => none
    | some addr =>
        if ip ∉ node.externalIps ∧ addr ∈ node.currentAddrs then none
        else if node.startsValidation addr then some addr else none

def answer (node : Node) (reading : Surroundings) : BehaviourEvent → Deed
  | .observedAddrReported peer ip _ =>
      match node.openedBy ip reading with
      | none => .routine
      | some addr => .opens addr peer
  | .dialBackRequested peer addr =>
      if (node.pendingProbes.lookup peer).isSome then .routine else .probes peer addr
  | .dialBackResolved peer addr reachable =>
      match node.candidates.lookup addr with
      | none => .routine
      | some candidate =>
          if candidate.prober ≠ peer then .routine
          else if reachable then
            match candidate.state with
            | .validated _ => .routine
            | _ => .validates addr peer
          else .routine
  | .sessionEstablished peer _ _ =>
      match node.pendingProbes.lookup peer with
      | none => .routine
      | some probe => .confirms peer probe.addr
  | _ => .routine

def handles (node : Node) (reading : Surroundings) : NodeAction → Option BehaviourEvent
  | .poll =>
      match (node.session.poll reading.instant).2 with
      | some (.generateEvent event) => some event
      | _ => none
  | _ => none

/-- A poll hands out what the session behaviour has queued: the node handles it
if it is an event, and passes it on if not. -/
theorem act_poll_cases {profile : Profile} {node next : Node} {reading : Surroundings}
    (acted : node.act profile reading .poll = some next) :
    (node.handles reading .poll = none ∧
      next = { node with session := (node.session.poll reading.instant).1 }) ∨
    ∃ event, node.handles reading .poll = some event ∧
      ({ node with session := (node.session.poll reading.instant).1 } : Node).onSessionEvent profile
        event reading = some next := by
  unfold act pollSession at acted
  unfold handles
  dsimp only at acted ⊢
  cases popped : (node.session.poll reading.instant).2 with
  | none =>
      rw [popped] at acted
      cases acted
      exact .inl ⟨rfl, rfl⟩
  | some item =>
      rw [popped] at acted
      cases item with
      | generateEvent event => exact .inr ⟨event, rfl, acted⟩
      | dial opts =>
          cases acted
          exact .inl ⟨rfl, rfl⟩
      | notifyHandler peer connId frames =>
          cases acted
          exact .inl ⟨rfl, rfl⟩

def deed (node : Node) (reading : Surroundings) (action : NodeAction) : Deed :=
  match node.handles reading action with
  | none => .routine
  | some event => node.answer reading event

inductive CausedBy (node : Node) : Deed → BehaviourEvent → Prop
  | routine (event : BehaviourEvent) : CausedBy node .routine event
  | opens (addr : Multiaddr) (peer : PeerId) (ip : IpAddr) (sourcePort : UInt16) :
      CausedBy node (.opens addr peer) (.observedAddrReported peer ip sourcePort)
  | validates {addr : Multiaddr} {peer : PeerId} {candidate : Candidate}
      (found : node.candidates.lookup addr = some candidate) (asked : candidate.prober = peer) :
      CausedBy node (.validates addr peer) (.dialBackResolved peer addr true)
  | probes (peer : PeerId) (addr : Multiaddr) :
      CausedBy node (.probes peer addr) (.dialBackRequested peer addr)
  | confirms {peer : PeerId} {probe : PendingProbe}
      (pending : node.pendingProbes.lookup peer = some probe) (connId : ConnectionId)
      (result : HandshakeResult) :
      CausedBy node (.confirms peer probe.addr) (.sessionEstablished peer connId result)

theorem causedBy_answer (node : Node) (reading : Surroundings) (event : BehaviourEvent) :
    node.CausedBy (node.answer reading event) event := by
  unfold answer
  cases event with
  | observedAddrReported peer ip sourcePort =>
      dsimp only
      split
      · exact .routine _
      · exact .opens _ _ _ _
  | dialBackRequested peer addr =>
      dsimp only
      split
      · exact .routine _
      · exact .probes _ _
  | sessionEstablished peer connId result =>
      dsimp only
      split
      · exact .routine _
      · rename_i probe pending
        exact .confirms pending _ _
  | dialBackResolved peer addr reachable =>
      dsimp only
      split
      · exact .routine _
      · rename_i candidate found
        split
        · exact .routine _
        · rename_i asked
          split
          · rename_i reached
            rw [reached]
            split
            · exact .routine _
            · exact .validates found (not_not.mp asked)
          · exact .routine _
  | _ => exact .routine _

/-- Whatever a call does besides routine answers the event it handles. -/
theorem causedBy_deed (node : Node) (reading : Surroundings) (action : NodeAction) :
    node.deed reading action = .routine ∨
      ∃ event, node.handles reading action = some event ∧
        node.CausedBy (node.deed reading action) event := by
  unfold deed
  split
  · exact .inl rfl
  · rename_i event handled
    exact .inr ⟨event, handled, causedBy_answer node reading event⟩

/-! ### Operations that leave the book alone -/

variable {profile : Profile} {reading : Surroundings}

theorem book_publishRecord (node : Node) (reading : Surroundings) :
    (node.publishRecord reading).book = node.book := by
  obtain ⟨record, last, effects, same⟩ := publishRecord_same node reading
  rw [same]
  rfl

theorem book_refreshed (node : Node) (reading : Surroundings) :
    (node.refreshed reading).book = node.book := by
  obtain ⟨scan, addrs, record, last, effects, same⟩ := refreshed_same node reading
  rw [same]
  rfl

theorem book_scheduleReconnect (node : Node) (peer : PeerId) (reading : Surroundings) :
    (node.scheduleReconnect peer reading).book = node.book := by
  obtain ⟨dials, retries, same⟩ := scheduleReconnect_same node peer reading
  rw [same]
  rfl

theorem book_fireLookups (now : Nat) (queryIds : Nat → QueryId) (retries : List LookupRetry)
    (count : Nat) (node : Node) :
    (fireLookups now queryIds node count retries).book = node.book := by
  obtain ⟨pending, later, peers, same⟩ := fireLookups_same now queryIds retries count node
  rw [same]
  rfl

theorem book_foldl_effect {α : Type} (done : α → Effect) (items : List α) (node : Node) :
    (items.foldl (fun node item => node.effect (done item)) node).book = node.book := by
  rw [foldl_effect_same]
  rfl

theorem book_onDcutr (node : Node) (remote : PeerId) (succeeded : Bool) :
    (node.onDcutr remote succeeded).book = node.book := by
  obtain ⟨attempts, paths, same⟩ := onDcutr_same node remote succeeded
  rw [same]
  rfl

theorem book_onNewListenAddr (node : Node) (address : Multiaddr) (reading : Surroundings) :
    (node.onNewListenAddr address reading).book = node.book := by
  obtain ⟨addrs, record, last, effects, same⟩ := onNewListenAddr_same node address reading
  rw [same]
  rfl

theorem book_onExpiredListenAddr (node : Node) (address : Multiaddr) (reading : Surroundings) :
    (node.onExpiredListenAddr address reading).book = node.book := by
  obtain ⟨addrs, record, last, effects, same⟩ := onExpiredListenAddr_same node address reading
  rw [same]
  rfl

theorem book_onConnectionClosed (node : Node) (peer : PeerId) (endpoint : ConnectedPoint)
    (numEstablished : Nat) :
    (node.onConnectionClosed peer endpoint numEstablished).book = node.book := by
  obtain ⟨dialing, bootstrapDialing, paths, same⟩ :=
    onConnectionClosed_same node peer endpoint numEstablished
  rw [same]
  rfl

theorem book_forgetWrongRecord (node : Node) (error : DialError) (device : Option PeerId) :
    (node.forgetWrongRecord error device).book = node.book := by
  obtain ⟨records, same⟩ := forgetWrongRecord_same node error device
  rw [same]
  rfl

theorem book_refreshRecord (node : Node) (device : Option PeerId) (failed : List Multiaddr)
    (reading : Surroundings) : (node.refreshRecord device failed reading).book = node.book := by
  obtain ⟨records, retries, dialing, same⟩ := refreshRecord_same node device failed reading
  rw [same]
  rfl

/-! ### Routine operations -/

theorem book_setCandidate (node : Node) (addr : Multiaddr) (candidate : Candidate) :
    ({ node with candidates := node.candidates.insert addr candidate } : Node).book =
      node.book.setCandidate addr candidate := by
  unfold book Book.setCandidate
  rw [SessionBehaviour.lookup_insert_eq]

theorem book_dropProbe (node : Node) (peer : PeerId) :
    ({ node with pendingProbes := node.pendingProbes.erase peer } : Node).book =
      node.book.dropProbe peer := by
  unfold book Book.dropProbe
  rw [SessionBehaviour.lookup_erase_eq]

theorem routinely_of_book {node next : Node} (same : next.book = node.book) :
    node.book.Routinely profile next.book := by
  rw [same]
  exact .refl

theorem routinely_call {book : Book} {session : SessionBehaviour} (msgId : UInt64)
    (action : BehaviourAction) (plain : action.Plain)
    (acted : book.session.act profile
      { instant := 0, nowMs := fun _ => 0, msgIds := fun _ => msgId, random := [] } action =
        some session) :
    book.Routinely profile { book with session := session } :=
  .single (.calls _ action plain acted)

theorem steadily_call {book : Book} {session : SessionBehaviour} (msgId : UInt64)
    (action : BehaviourAction) (steady : action.Steady)
    (acted : book.session.act profile
      { instant := 0, nowMs := fun _ => 0, msgIds := fun _ => msgId, random := [] } action =
        some session) :
    book.Steadily profile { book with session := session } :=
  .single (.calls _ action steady acted)

theorem steadily_foldl {α : Type} {step : Node → α → Node}
    (routine : ∀ (node : Node) item, node.book.Steadily profile (step node item).book)
    (items : List α) (node : Node) : node.book.Steadily profile (items.foldl step node).book := by
  induction items generalizing node with
  | nil => exact .refl
  | cons item later ih => exact (routine node item).trans (ih (step node item))

theorem steadily_dialPeer (node : Node) (peer transport : PeerId) (addrs : List Multiaddr) :
    node.book.Steadily profile (node.dialPeer peer transport addrs).book := by
  unfold dialPeer
  split
  · exact .refl
  · exact steadily_call 0 (.connect peer transport addrs) trivial rfl

theorem steadily_fireDials (now : Nat) (dials : List RetryDial) (node : Node) :
    node.book.Steadily profile (fireDials now node dials).book := by
  induction dials generalizing node with
  | nil => exact .refl
  | cons dial later ih =>
      unfold fireDials
      split
      · exact .refl
      split
      · exact ih node
      · exact (steadily_dialPeer node _ _ _).trans (ih _)

theorem steadily_onVerifiedRecord (node : Node) (verified : VerifiedRecord) :
    node.book.Steadily profile (node.onVerifiedRecord verified).book := by
  unfold onVerifiedRecord
  dsimp only
  split
  · exact .refl
  split
  · exact steadily_dialPeer
      { node with records := node.records.insert verified.peerId verified } _ _ _
  · exact .refl

theorem steadily_onKadEvent {node next : Node} {id : QueryId} {result : QueryResult}
    (handled : node.onKadEvent profile id result reading = some next) :
    node.book.Steadily profile next.book := by
  rcases onKadEvent_cases handled with
    rfl | ⟨request, -, rfl | ⟨key, record, verified, -, -, rfl⟩ | ⟨-, -, rfl⟩⟩
  · exact .refl
  · exact .refl
  · exact steadily_onVerifiedRecord
      { node with pendingLookups := node.pendingLookups.erase id } verified
  · exact .refl

theorem steadily_dialBootstrap (node : Node) (peer : BootstrapPeer) :
    node.book.Steadily profile (node.dialBootstrap peer).book := by
  unfold dialBootstrap
  split
  · exact steadily_call 0 (.connectUnknown peer.multiaddrs) trivial rfl
  · exact .refl

theorem steadily_dialRelay (node : Node) :
    node.book.Steadily profile node.dialRelay.book := by
  unfold dialRelay
  split
  · exact .refl
  · rename_i relay known
    split
    · exact steadily_call 0 (.connectUnknown relay.multiaddrs) trivial rfl
    · exact .refl

theorem steadily_resolveRelay (node : Node) (peer : PeerId) (address : Multiaddr) :
    node.book.Steadily profile (node.resolveRelay peer address).book := by
  unfold resolveRelay
  split
  · rename_i relay unknown configured
    split
    · rw [book_foldl_effect]
      exact steadily_call 0 (.mapTransport relay.peerId peer) trivial rfl
    · exact .refl
  · exact .refl

theorem steadily_resolveBootstrap (node : Node) (peer : PeerId) (address : Multiaddr)
    (reading : Surroundings) :
    node.book.Steadily profile (node.resolveBootstrap peer address reading).book := by
  unfold resolveBootstrap
  split
  · exact .refl
  · rename_i bootstrap found
    split
    · exact .refl
    · dsimp only
      rw [book_publishRecord]
      exact steadily_call 0 (.mapTransport bootstrap.peerId peer) trivial rfl

theorem steadily_onConnectionEstablished (node : Node) (peer : PeerId) (endpoint : ConnectedPoint)
    (reading : Surroundings) :
    node.book.Steadily profile (node.onConnectionEstablished peer endpoint reading).book := by
  cases endpoint with
  | dialer address =>
      exact (steadily_resolveRelay node peer address).trans
        (steadily_resolveBootstrap _ peer address reading)
  | listener localAddr sendBackAddr => exact .refl

theorem steadily_requestDialBack {node next : Node} {addr : Multiaddr} {msgId : UInt64}
    (requested : node.requestDialBack profile addr msgId = some next) :
    node.book.Steadily profile next.book := by
  rcases requestDialBack_cases requested with rfl | ⟨candidate, prober, session, found, sent, rfl⟩
  · exact .refl
  · have first : node.book.Steadily profile
        (node.book.setCandidate addr { candidate with prober := prober }) :=
      .single (.asks prober found)
    apply first.trans
    rw [← book_setCandidate]
    exact steadily_call msgId (.sendDialBackReq prober addr) trivial sent

theorem steadily_requestAll {msgIds : Nat → UInt64} {addrs : List Multiaddr} {node next : Node}
    {count : Nat} (requested : node.requestAll profile msgIds count addrs = some next) :
    node.book.Steadily profile next.book := by
  refine requestAll_induct ?_ ?_ steadily_requestDialBack requested
  · exact fun node => .refl
  · exact fun first second => first.trans second

theorem routinely_reportUnreachable {msgIds : Nat → UInt64} {probes : List (PeerId × Multiaddr)}
    {node next : Node} {count : Nat}
    (reported : node.reportUnreachable profile msgIds count probes = some next) :
    node.book.Routinely profile next.book := by
  refine reportUnreachable_induct
    (motive := fun node next => node.book.Routinely profile next.book) ?_ ?_ ?_ reported
  · exact fun node => .refl
  · exact fun first second => first.trans second
  · intro node probed addr msgId session sent
    have dropped : node.book.Routinely profile (node.book.dropProbe probed) :=
      .single (.drops probed)
    rw [← book_dropProbe] at dropped
    exact dropped.trans (routinely_call msgId (.sendDialBackRes probed addr false) rfl sent)

theorem book_rejectCandidate (node : Node) (addr : Multiaddr) (candidate : Candidate) :
    (node.rejectCandidate addr candidate).book = node.book.reject addr candidate := by
  unfold rejectCandidate book Book.reject Book.setCandidate
  rw [SessionBehaviour.lookup_insert_eq]

theorem steadily_rejectTimedOut (node : Node) (addr : Multiaddr) :
    node.book.Steadily profile (node.rejectTimedOut addr).book := by
  unfold rejectTimedOut
  split
  · exact .refl
  · rename_i candidate found
    rw [book_rejectCandidate]
    exact .single (.rejects found)

theorem steadily_restartValidation (now : Nat) (node : Node) (addr : Multiaddr) :
    node.book.Steadily profile (restartValidation now node addr).book := by
  unfold restartValidation
  split
  · exact .refl
  · rename_i candidate found
    rw [book_setCandidate]
    exact .single (.restarts now found)

theorem publicAddrMaintenance_parts {node next : Node}
    (maintained : node.publicAddrMaintenance profile reading = some next) :
    ∃ probed, node.reportUnreachable profile reading.msgIds 0
        (node.expiredProbes reading.instant) = some probed ∧
      probed.book.Steadily profile next.book := by
  unfold publicAddrMaintenance at maintained
  obtain ⟨probed, reported, requested⟩ := Option.bind_eq_some_iff.mp maintained
  refine ⟨probed, reported, ?_⟩
  apply (steadily_foldl steadily_rejectTimedOut _ probed).trans
  apply (steadily_foldl (steadily_restartValidation reading.instant) _ _).trans
  exact steadily_requestAll requested

theorem routinely_onOutgoingConnectionError {node next : Node} {peer : Option PeerId}
    {error : DialError}
    (handled : node.onOutgoingConnectionError profile peer error reading = some next) :
    node.book.Routinely profile next.book := by
  obtain ⟨dropped, done, rfl⟩ := Option.map_eq_some_iff.mp handled
  rw [book_refreshRecord]
  rw [← book_forgetWrongRecord node error (peer.bind node.session.deviceOf)]
  generalize node.forgetWrongRecord error (peer.bind node.session.deviceOf) = forgotten at done ⊢
  cases peer with
  | some transport =>
      cases done
      apply routinely_of_book
      exact book_foldl_effect (fun addr => .removeAddress transport addr) error.failed forgotten
  | none =>
      unfold dropFailed onPeerlessFailure handleProbeFailure at done
      dsimp only at done
      split at done
      · split at done
        · have reported := routinely_reportUnreachable done
          exact reported
        · have reported := routinely_reportUnreachable done
          exact reported
      · have reported := routinely_reportUnreachable done
        exact reported

theorem steadily_resumed (node : Node) (reading : Surroundings) :
    node.book.Steadily profile (node.resumed reading).book := by
  apply (steadily_fireDials reading.instant node.retryDials node).trans
  unfold resumed
  dsimp only
  generalize fireDials reading.instant node node.retryDials = dialed
  rw [← book_fireLookups reading.instant reading.queryIds dialed.retryLookups 0 dialed]
  generalize fireLookups reading.instant reading.queryIds dialed 0 dialed.retryLookups = looked
  apply Relation.ReflTransGen.trans ?_ (steadily_dialRelay _)
  split
  · exact steadily_foldl steadily_dialBootstrap _ { looked with lastBootstrap := reading.instant }
  · exact .refl

theorem maintenance_parts {node next : Node}
    (maintained : node.maintenance profile reading = some next) :
    ∃ probed, (node.refreshed reading).reportUnreachable profile reading.msgIds 0
        ((node.refreshed reading).expiredProbes reading.instant) = some probed ∧
      probed.book.Steadily profile next.book := by
  rw [maintenance_eq] at maintained
  obtain ⟨tended, tending, rfl⟩ := Option.map_eq_some_iff.mp maintained
  obtain ⟨probed, reported, steps⟩ := publicAddrMaintenance_parts tending
  exact ⟨probed, reported, steps.trans (steadily_resumed tended reading)⟩

theorem routinely_maintenance {node next : Node}
    (maintained : node.maintenance profile reading = some next) :
    node.book.Routinely profile next.book := by
  obtain ⟨probed, reported, steps⟩ := maintenance_parts maintained
  have before := routinely_reportUnreachable reported
  rw [book_refreshed] at before
  exact before.trans steps.routinely

/-! ### Session events -/

theorem onObservedAddr_eq (profile : Profile) (node : Node) (peer : PeerId) (ip : IpAddr)
    (reading : Surroundings) :
    node.onObservedAddr profile peer ip reading =
      match node.openedBy ip reading with
      | none => some node
      | some addr =>
          { node with
            candidates := node.candidates.insert addr
              { state := .pending reading.instant, prober := peer }
          }.requestDialBack profile addr (reading.msgIds 0) := by
  unfold onObservedAddr openedBy
  split
  · rfl
  · cases node.candidateFor ip with
    | none => rfl
    | some addr =>
        dsimp only
        split
        · rfl
        · split
          · rfl
          · rfl

theorem starts_of_openedBy {node : Node} {ip : IpAddr} {addr : Multiaddr}
    (opened : node.openedBy ip reading = some addr) (candidate : Candidate)
    (found : node.candidates.lookup addr = some candidate) :
    ∃ attempts, candidate.state = .rejected attempts ∧ attempts < maxValidationAttempts := by
  unfold openedBy at opened
  split at opened
  · cases opened
  split at opened
  · cases opened
  split at opened
  · cases opened
  split at opened
  · rename_i starts
    cases opened
    unfold startsValidation at starts
    rw [found] at starts
    dsimp only at starts
    split at starts
    · cases starts
    · cases starts
    · rename_i attempts rejected
      exact ⟨attempts, rejected, of_decide_eq_true starts⟩
  · cases opened

theorem follows_onDialBackRes (node : Node) (peer : PeerId) (addr : Multiaddr) (reachable : Bool)
    (reading : Surroundings) :
    Book.Follows profile reading (node.answer reading (.dialBackResolved peer addr reachable))
      node.book (node.onDialBackRes peer addr reachable reading).book := by
  unfold onDialBackRes answer
  dsimp only
  cases found : node.candidates.lookup addr with
  | none => exact .routine .refl
  | some candidate =>
      dsimp only
      by_cases other : candidate.prober ≠ peer
      · rw [if_pos other, if_pos other]
        exact .routine .refl
      · rw [if_neg other, if_neg other]
        cases reachable with
        | false =>
            rw [if_neg Bool.false_ne_true, if_neg Bool.false_ne_true, book_publishRecord,
              book_rejectCandidate]
            exact .routine (.single (.rejects found))
        | true =>
            rw [if_pos rfl, if_pos rfl]
            cases state : candidate.state with
            | validated since => exact .routine .refl
            | pending since =>
                dsimp only
                rw [book_publishRecord]
                have validated : Book.Follows profile reading (.validates addr peer) node.book _ :=
                  .validates found (not_not.mp other)
                rw [← book_setCandidate] at validated
                exact validated
            | rejected attempts =>
                dsimp only
                rw [book_publishRecord]
                have validated : Book.Follows profile reading (.validates addr peer) node.book _ :=
                  .validates found (not_not.mp other)
                rw [← book_setCandidate] at validated
                exact validated

theorem follows_onSessionEvent {node next : Node} {event : BehaviourEvent}
    (handled : node.onSessionEvent profile event reading = some next) :
    Book.Follows profile reading (node.answer reading event) node.book next.book := by
  unfold onSessionEvent at handled
  cases event with
  | sessionEstablished peer connId result =>
      dsimp only at handled
      obtain ⟨reported, sent, rfl⟩ := Option.map_eq_some_iff.mp handled
      unfold answer
      dsimp only
      cases pending : node.pendingProbes.lookup peer with
      | none =>
          rw [pending] at sent
          cases sent
          exact .routine .refl
      | some probe =>
          rw [pending] at sent
          obtain ⟨session, told, rfl⟩ := Option.map_eq_some_iff.mp sent
          have confirmed : Book.Follows profile reading (.confirms peer probe.addr) node.book _ :=
            .confirms pending told
          rw [← book_dropProbe] at confirmed
          exact confirmed
  | handshakeFailed peer error =>
      cases handled
      exact .routine .refl
  | messageReceived peer msgId body tsMs =>
      cases handled
      exact .routine .refl
  | ackReceived peer msgId ackSeq =>
      cases handled
      exact .routine .refl
  | observedAddrReported peer ip sourcePort =>
      dsimp only at handled
      rw [onObservedAddr_eq] at handled
      unfold answer
      dsimp only
      cases opened : node.openedBy ip reading with
      | none =>
          rw [opened] at handled
          cases handled
          exact .routine .refl
      | some addr =>
          rw [opened] at handled
          have steps := steadily_requestDialBack handled
          rw [book_setCandidate] at steps
          exact .opens (starts_of_openedBy opened) steps.routinely
  | dialBackRequested peer addr =>
      cases handled
      unfold onDialBackReq answer
      dsimp only
      split
      · exact .routine .refl
      · rename_i idle
        have probed : Book.Follows profile reading (.probes peer addr) node.book _ :=
          .probes (Option.not_isSome_iff_eq_none.mp idle)
        unfold book at probed ⊢
        rw [SessionBehaviour.lookup_insert_eq]
        exact probed
  | dialBackResolved peer addr reachable =>
      cases handled
      exact follows_onDialBackRes node peer addr reachable reading
  | peerConnected peer =>
      cases handled
      exact .routine .refl
  | peerDisconnected peer =>
      have dropped : Book.Follows profile reading .routine node.book (node.book.dropProbe peer) :=
        .routine (.single (.drops peer))
      rw [← book_dropProbe] at dropped
      dsimp only at handled
      split at handled
      · cases handled
        rw [book_scheduleReconnect]
        exact dropped
      · cases handled
        exact dropped

/-! ### Calls -/

/-- A swarm event that is no session event makes only routine changes. -/
theorem routinely_handleEvent {node next : Node} {event : SwarmEvent}
    (foreign : ∀ inner, event ≠ .session inner)
    (handled : node.handleEvent profile event reading = some next) :
    node.book.Routinely profile next.book := by
  cases event with
  | session inner => exact (foreign inner rfl).elim
  | kad id result => exact (steadily_onKadEvent handled).routinely
  | autonat status =>
      cases handled
      exact .refl
  | dcutr remote succeeded =>
      cases handled
      exact routinely_of_book (book_onDcutr node remote succeeded)
  | newListenAddr address =>
      cases handled
      exact routinely_of_book (book_onNewListenAddr node address reading)
  | expiredListenAddr address =>
      cases handled
      exact routinely_of_book (book_onExpiredListenAddr node address reading)
  | connectionEstablished peer endpoint =>
      cases handled
      exact (steadily_onConnectionEstablished node peer endpoint reading).routinely
  | connectionClosed peer endpoint numEstablished =>
      cases handled
      exact routinely_of_book (book_onConnectionClosed node peer endpoint numEstablished)
  | outgoingConnectionError peer error => exact routinely_onOutgoingConnectionError handled
  | logged =>
      cases handled
      exact .refl

/-- Every call is the part the session behaviour does, followed by the deed. -/
theorem follows_act {node next : Node} {action : NodeAction}
    (acted : node.act profile reading action = some next) :
    ∃ session, action.onSession.elim (some node.session)
        (node.session.act profile reading.toMoment) = some session ∧
      Book.Follows profile reading (node.deed reading action) { node.book with session := session }
        next.book := by
  cases action with
  | handlerEvent transport connId event =>
      obtain ⟨session, done, rfl⟩ := Option.map_eq_some_iff.mp acted
      exact ⟨session, done, .routine .refl⟩
  | fromSwarm event =>
      cases acted
      exact ⟨_, rfl, .routine .refl⟩
  | poll =>
      refine ⟨(node.session.poll reading.instant).1, rfl, ?_⟩
      unfold deed
      rcases act_poll_cases acted with ⟨nothing, rfl⟩ | ⟨event, popped, handled⟩
      · rw [nothing]
        exact .routine .refl
      · rw [popped]
        exact follows_onSessionEvent handled
  | swarmEvent event =>
      obtain ⟨foreign, handled⟩ := act_swarmEvent acted
      exact ⟨node.session, rfl, .routine (routinely_handleEvent foreign handled)⟩
  | maintenance => exact ⟨node.session, rfl, .routine (routinely_maintenance acted)⟩
  | sendMessage peer text =>
      cases acted
      exact ⟨node.session, rfl, .routine (.single
        (.calls reading.toMoment (.sendMessage peer text) trivial rfl))⟩
  | lookup peer =>
      cases acted
      exact ⟨node.session, rfl, .routine .refl⟩

theorem Rehashed.book {node next : Node} (rehashed : Rehashed node next) :
    next.book = { node.book with session := next.session } := by
  have candidates : next.candidates.lookup = node.candidates.lookup :=
    funext fun _ => AList.perm_lookup rehashed.candidates
  have probes : next.pendingProbes.lookup = node.pendingProbes.lookup :=
    funext fun _ => AList.perm_lookup rehashed.pendingProbes
  have validated : next.validatedPublicAddrs = node.validatedPublicAddrs := by rw [rehashed.same]
  unfold Node.book
  rw [candidates, probes, validated]

theorem Rehashed.session {node next : Node} (rehashed : Rehashed node next) :
    node.session.Rehashed next.session := by
  refine ⟨?_, rehashed.handshakes, rehashed.sessions⟩
  exact congrArg Node.session rehashed.same

end Node

end JeanGrey
