/-
What the answer to a dial-back request says.

A node that is asked to dial an address remembers the request by the device that
made it, and tells the device that the address is reachable when a session with
the device comes up.  The session may have come up over another connection.
-/

import JeanGrey.NodeExchanges

namespace JeanGrey

open Crates Runs

variable [Crates]

/-! ### The events that wait in the queue -/

namespace SessionBehaviour

def reports (behaviour : SessionBehaviour) : List BehaviourEvent :=
  behaviour.queue.flatMap ToSwarm.sessionEvents

inductive Adds (behaviour : SessionBehaviour) (moment : Moment) (action : BehaviourAction) :
    List BehaviourEvent → Prop
  | session {conn : Connection} {result : HandshakeResult}
      (delivered : behaviour.delivers moment action = some (conn, result)) :
      Adds behaviour moment action [.sessionEstablished result.peerId conn.2 result]
  | read {conn : Connection} {frame : Frame} {added : List BehaviourEvent}
      (undelivered : behaviour.delivers moment action = none)
      (received : action = .handlerEvent conn.1 conn.2 (.frameReceived frame))
      (typed : frame.isSessionFrame = true)
      (unestablished : ∀ peer connId result, .sessionEstablished peer connId result ∉ added) :
      Adds behaviour moment action added
  | nothing (undelivered : behaviour.delivers moment action = none) :
      Adds behaviour moment action []

variable {profile : Profile} {behaviour next : SessionBehaviour} {moment : Moment}
  {action : BehaviourAction} {moves : List SessionMove}

theorem events_of_silent (unbegun : ∀ move ∈ moves, move.isBegins = false)
    (unread : ∀ device frame event, .reads device frame event ∉ moves) :
    moves.flatMap SessionMove.events = [] := by
  apply List.flatMap_eq_nil_iff.mpr
  intro move member
  cases move with
  | begins device conn handshake result => cases unbegun _ member
  | reads device frame event => exact (unread device frame event member).elim
  | _ => rfl

theorem Call.adds (call : Call profile behaviour next moment action moves) :
    Adds behaviour moment action (moves.flatMap SessionMove.events) := by
  cases call.births with
  | one received typed found established forgotten unbegun =>
      rename_i conn handshake expected frame result later
      have silent : later.flatMap SessionMove.events = [] := by
        apply events_of_silent unbegun
        intro device other event member
        obtain ⟨conn', _, _, received', typed', -⟩ :=
          call.reads device other event (List.mem_cons_of_mem _ member)
        rw [received] at received'
        injection received' with _ _ report
        injection report with same
        rw [← same, typed] at typed'
        cases typed'
      rw [List.flatMap_cons, silent]
      apply Adds.session
      rw [received]
      exact delivers_of_established typed found established
  | none undelivered unbegun =>
      by_cases reading : ∃ device frame event, .reads device frame event ∈ moves
      · obtain ⟨device, frame, event, member⟩ := reading
        obtain ⟨conn, bound, session, received, typed, -⟩ := call.reads device frame event member
        apply Adds.read undelivered received typed
        intro peer connId result reported
        obtain ⟨move, present, reports⟩ := List.mem_flatMap.mp reported
        cases move with
        | begins device conn handshake result => cases unbegun _ present
        | reads device frame event =>
            have same := List.mem_singleton.mp reports
            cases event <;> cases same
        | _ => cases reports
      · have silent : moves.flatMap SessionMove.events = [] := by
          apply events_of_silent unbegun
          intro device frame event member
          exact reading ⟨device, frame, event, member⟩
        rw [silent]
        exact .nothing undelivered

theorem reports_act (regular : behaviour.Regular)
    (acted : behaviour.act profile moment action = some next) :
    ∃ added, (behaviour.popped moment action).toList.flatMap ToSwarm.sessionEvents ++ next.reports =
      behaviour.reports ++ added ∧ Adds behaviour moment action added := by
  obtain ⟨⟨moves, call⟩, -⟩ := exists_call regular acted
  obtain ⟨items, queue, -, events⟩ := call.items
  refine ⟨moves.flatMap SessionMove.events, ?_, call.adds⟩
  unfold reports
  rw [← List.flatMap_append, queue, List.flatMap_append, events]

/-- A call that neither polls nor concerns a connection leaves the events alone. -/
theorem reports_of_plain (regular : behaviour.Regular)
    (acted : behaviour.act profile moment action = some next)
    (plain : ∀ transport connId event, action ≠ .handlerEvent transport connId event)
    (unpolled : action ≠ .poll) : next.reports = behaviour.reports := by
  obtain ⟨added, queue, adds⟩ := reports_act regular acted
  have unpopped : behaviour.popped moment action = none := by
    cases action with
    | poll => exact (unpolled rfl).elim
    | _ => rfl
  have undelivered : behaviour.delivers moment action = none := by
    cases action with
    | handlerEvent transport connId event => exact (plain transport connId event rfl).elim
    | _ => rfl
  rw [unpopped] at queue
  cases adds with
  | session delivered =>
      rw [undelivered] at delivered
      cases delivered
  | read _ received typed unestablished => exact (plain _ _ _ received).elim
  | nothing _ =>
      rw [List.append_nil] at queue
      exact queue

end SessionBehaviour

theorem BehaviourAction.Plain.of_plain {action : BehaviourAction} (plain : action.Plain) :
    (∀ transport connId event, action ≠ .handlerEvent transport connId event) ∧ action ≠ .poll := by
  cases action with
  | handlerEvent transport connId event => exact plain.elim
  | poll => exact plain.elim
  | _ => exact ⟨nofun, nofun⟩

/-! ### Evidence -/

/-- Every session that comes up where the device waits for an answer is evidence
of the address: the device has been reached there. -/
structure Backed (reached : PeerId → Multiaddr → Prop) (events : List BehaviourEvent)
    (probes : PeerId → Option PendingProbe) : Prop where
  pending : ∀ peer probe connId result, probes peer = some probe →
    .sessionEstablished peer connId result ∈ events → reached peer probe.addr
  asked : events.Pairwise fun first second => ∀ peer addr connId result,
    first = .dialBackRequested peer addr → second = .sessionEstablished peer connId result →
      reached peer addr

/-- The device waits for an answer about the address, or will. -/
def Wanted (events : List BehaviourEvent) (probes : PeerId → Option PendingProbe) (peer : PeerId)
    (addr : Multiaddr) : Prop :=
  (∃ probe, probes peer = some probe ∧ probe.addr = addr) ∨ .dialBackRequested peer addr ∈ events

namespace Backed

variable {reached : PeerId → Multiaddr → Prop} {events : List BehaviourEvent}
  {probes : PeerId → Option PendingProbe}

theorem mono (backed : Backed reached events probes) {later : PeerId → Multiaddr → Prop}
    (more : ∀ peer addr, reached peer addr → later peer addr) : Backed later events probes := by
  constructor
  · intro peer probe connId result pending member
    exact more _ _ (backed.pending peer probe connId result pending member)
  · apply backed.asked.imp
    intro first second holds peer addr connId result request established
    exact more _ _ (holds peer addr connId result request established)

theorem tail {taken : List BehaviourEvent} (backed : Backed reached (taken ++ events) probes) :
    Backed reached events probes := by
  constructor
  · intro peer probe connId result pending member
    exact backed.pending peer probe connId result pending (List.mem_append_right _ member)
  · exact (List.pairwise_append.mp backed.asked).2.1

theorem drop (backed : Backed reached events probes) (peer : PeerId) :
    Backed reached events (Function.update probes peer none) := by
  refine ⟨?_, backed.asked⟩
  intro other probe connId result pending member
  by_cases same : other = peer
  · subst same
    rw [Function.update_self] at pending
    cases pending
  · rw [Function.update_of_ne same] at pending
    exact backed.pending other probe connId result pending member

theorem probe {peer : PeerId} {addr : Multiaddr}
    (backed : Backed reached ([.dialBackRequested peer addr] ++ events) probes) (since : Nat) :
    Backed reached events
      (Function.update probes peer (some { addr := addr, since := since })) := by
  refine ⟨?_, backed.tail.asked⟩
  intro other probe connId result pending member
  by_cases same : other = peer
  · subst same
    rw [Function.update_self] at pending
    cases pending
    have before := (List.pairwise_append.mp backed.asked).2.2 _ (List.mem_singleton_self _)
    exact before _ member other addr connId result rfl rfl
  · rw [Function.update_of_ne same] at pending
    exact backed.tail.pending other probe connId result pending member

theorem append_read (backed : Backed reached events probes) {added : List BehaviourEvent}
    (unestablished : ∀ peer connId result, .sessionEstablished peer connId result ∉ added) :
    Backed reached (events ++ added) probes := by
  constructor
  · intro peer probe connId result pending member
    rcases List.mem_append.mp member with old | new
    · exact backed.pending peer probe connId result pending old
    · exact (unestablished peer connId result new).elim
  · apply List.pairwise_append.mpr
    refine ⟨backed.asked, ?_, ?_⟩
    · apply List.pairwise_of_forall_mem_list
      intro first _ second member peer addr connId result request established
      subst established
      exact (unestablished peer connId result member).elim
    · intro first _ second member peer addr connId result request established
      subst established
      exact (unestablished peer connId result member).elim

theorem append_session (backed : Backed reached events probes) {peer : PeerId}
    {connId : ConnectionId} {result : HandshakeResult}
    (evident : ∀ addr, Wanted events probes peer addr → reached peer addr) :
    Backed reached (events ++ [.sessionEstablished peer connId result]) probes := by
  constructor
  · intro other probe otherConn otherResult pending member
    rcases List.mem_append.mp member with old | new
    · exact backed.pending other probe otherConn otherResult pending old
    · cases List.mem_singleton.mp new
      exact evident probe.addr (.inl ⟨probe, pending, rfl⟩)
  · apply List.pairwise_append.mpr
    refine ⟨backed.asked, List.pairwise_singleton _ _, ?_⟩
    intro first old second new other addr otherConn otherResult request established
    cases List.mem_singleton.mp new
    cases established
    subst request
    exact evident addr (.inr old)

end Backed

/-! ### Runs -/

/-- A node with what is known of its connections: the address that each was
dialed to, and the devices that completed a handshake over one dialed to an
address. -/
structure Probing where
  node : Node
  dialed : Connection → Option Multiaddr
  reached : List (PeerId × Multiaddr)

def NodeAction.dials (dialed : Connection → Option Multiaddr) :
    NodeAction → Connection → Option Multiaddr
  | .fromSwarm (.connectionEstablished peer connId (.dialer address)) =>
      Function.update dialed (peer, connId) (some address)
  | .fromSwarm (.connectionEstablished peer connId (.listener _ _)) =>
      Function.update dialed (peer, connId) none
  | .fromSwarm (.connectionClosed peer connId _) => Function.update dialed (peer, connId) none
  | _ => dialed

def Node.completes (node : Node) (reading : Surroundings) (action : NodeAction) :
    Option (Connection × HandshakeResult) :=
  action.onSession.bind (node.session.delivers reading.toMoment)

namespace Probing

def start (node : Node) : Probing :=
  { node := node
    dialed := fun _ => none
    reached := [] }

/-- The evidence a completed handshake gives. -/
def evidence (probing : Probing) : Option (Connection × HandshakeResult) → List (PeerId × Multiaddr)
  | none => []
  | some (conn, result) => (probing.dialed conn).toList.map fun addr => (result.peerId, addr)

def after (probing : Probing) (reading : Surroundings) (action : NodeAction) (next : Node) :
    Probing :=
  { node := next
    dialed := action.dials probing.dialed
    reached := probing.reached ++ probing.evidence (probing.node.completes reading action) }

/-- The handshake that completes in the call, if any, is evidence of every
address its device waits for an answer about, or there is some already. -/
def Evident (probing : Probing) (reading : Surroundings) (action : NodeAction) : Prop :=
  ∀ conn result, probing.node.completes reading action = some (conn, result) →
    ∀ addr, Wanted probing.node.session.reports probing.node.book.probes result.peerId addr →
      probing.dialed conn = some addr ∨ (result.peerId, addr) ∈ probing.reached

inductive Step (profile : Profile) (allowed : Probing → Surroundings → NodeAction → Prop) :
    Probing → Probing → Prop
  | act {probing : Probing} {next : Node} (action : NodeAction) (reading : Surroundings)
      (allows : allowed probing reading action)
      (acted : probing.node.act profile reading action = some next) :
      Step profile allowed probing (probing.after reading action next)
  | rehash {probing : Probing} {next : Node} (rehashed : probing.node.Rehashed next) :
      Step profile allowed probing { probing with node := next }

def Reachable (profile : Profile) (allowed : Probing → Surroundings → NodeAction → Prop)
    (identity : DeviceIdentity) (options : NodeOptions) (probing : Probing) : Prop :=
  ∃ reading, Relation.ReflTransGen (Step profile allowed)
    (start (Node.new identity options reading)) probing

/-- Whatever is about to be confirmed has been reached. -/
structure Sound (reached : List (PeerId × Multiaddr)) (book : Book) : Prop where
  regular : book.session.Regular
  backed : Backed (fun peer addr => (peer, addr) ∈ reached) book.session.reports book.probes

variable {profile : Profile} {reading : Surroundings} {reached : List (PeerId × Multiaddr)}

/-! ### One step -/

theorem Sound.routine {book next : Book} (routine : book.Routine profile next)
    (sound : Sound reached book) : Sound reached next := by
  cases routine with
  | calls moment action plain acted =>
      obtain ⟨unconnected, unpolled⟩ := plain.of_plain
      have same := SessionBehaviour.reports_of_plain sound.regular acted unconnected unpolled
      refine ⟨sound.regular.act acted, ?_⟩
      dsimp only
      rw [same]
      exact sound.backed
  | asks prober found => exact ⟨sound.regular, sound.backed⟩
  | rejects found => exact ⟨sound.regular, sound.backed⟩
  | restarts now found => exact ⟨sound.regular, sound.backed⟩
  | drops peer => exact ⟨sound.regular, sound.backed.drop peer⟩

theorem Sound.routinely {book next : Book} (steps : book.Routinely profile next)
    (sound : Sound reached book) : Sound reached next := by
  induction steps with
  | refl => exact sound
  | tail _ step ih => exact ih.routine step

def takes (node : Node) (reading : Surroundings) (action : NodeAction) : Option ToSwarm :=
  action.onSession.bind (node.session.popped reading.toMoment)

theorem takes_of_handles {node : Node} {action : NodeAction} {event : BehaviourEvent}
    (handled : node.handles reading action = some event) :
    takes node reading action = some (.generateEvent event) := by
  cases action with
  | poll =>
      unfold Node.handles at handled
      dsimp only at handled
      split at handled
      · rename_i found popped
        cases handled
        exact popped
      · cases handled
  | _ => cases handled

theorem completes_of_handles {node : Node} {action : NodeAction} {event : BehaviourEvent}
    (handled : node.handles reading action = some event) :
    node.completes reading action = none := by
  cases action with
  | poll => rfl
  | _ => cases handled

/-- A deed keeps what the part of the session behaviour has left: the event it
answers stands before those in the queue. -/
theorem Sound.follows {node : Node} {action : NodeAction} {session : SessionBehaviour}
    {next : Book}
    (follows : Book.Follows profile reading (node.deed reading action)
      { node.book with session := session } next)
    (regular : session.Regular)
    (backed : Backed (fun peer addr => (peer, addr) ∈ reached)
      ((takes node reading action).toList.flatMap ToSwarm.sessionEvents ++ session.reports)
      node.book.probes) :
    Sound reached next ∧
      ∀ peer addr, node.deed reading action = .confirms peer addr → (peer, addr) ∈ reached := by
  have kept : Sound reached { node.book with session := session } := ⟨regular, backed.tail⟩
  rcases Node.causedBy_deed node reading action with routine | ⟨event, handled, caused⟩
  · rw [routine] at follows ⊢
    cases follows with
    | routine steps => exact ⟨kept.routinely steps, nofun⟩
  · rw [takes_of_handles handled] at backed
    generalize node.deed reading action = deed at follows caused
    cases caused with
    | routine event =>
        cases follows with
        | routine steps => exact ⟨kept.routinely steps, nofun⟩
    | opens addr peer ip sourcePort =>
        cases follows with
        | opens starts steps =>
            have opened : Sound reached (Book.setCandidate { node.book with session := session }
                addr { state := .pending reading.instant, prober := peer }) :=
              ⟨kept.regular, kept.backed⟩
            exact ⟨opened.routinely steps, nofun⟩
    | validates found asked =>
        cases follows with
        | validates found asked => exact ⟨⟨kept.regular, kept.backed⟩, nofun⟩
    | probes peer addr =>
        cases follows with
        | probes idle =>
            have dialed : session.act profile reading.toMoment (.connectProbe addr) =
                some (session.connectProbe addr) := rfl
            have same := SessionBehaviour.reports_of_plain regular dialed nofun nofun
            refine ⟨⟨regular.act dialed, ?_⟩, nofun⟩
            dsimp only
            rw [same]
            exact backed.probe reading.instant
    | confirms pending connId result =>
        rename_i peer probe
        have evidence : (peer, probe.addr) ∈ reached :=
          backed.pending peer probe connId result pending (List.mem_append_left _
            (List.mem_singleton_self _))
        generalize addressed : probe.addr = addr at follows evidence
        cases follows with
        | confirms found sent =>
            have answered : session.act profile reading.toMoment
              (.sendDialBackRes peer _ true) = some _ := sent
            have same := SessionBehaviour.reports_of_plain regular answered nofun nofun
            refine ⟨⟨regular.act answered, ?_⟩, ?_⟩
            · dsimp only
              rw [same]
              exact kept.backed.drop peer
            · intro other otherAddr confirmed
              cases confirmed
              exact evidence

theorem mem_evidence {probing : Probing} {conn : Connection} {result : HandshakeResult}
    {addr : Multiaddr} (dialed : probing.dialed conn = some addr) :
    (result.peerId, addr) ∈ probing.evidence (some (conn, result)) := by
  unfold evidence
  dsimp only
  rw [dialed]
  exact List.mem_singleton_self _

theorem Sound.session {probing : Probing} {action : NodeAction} {session : SessionBehaviour}
    (sound : Sound probing.reached probing.node.book) (evident : probing.Evident reading action)
    (done : action.onSession.elim (some probing.node.session)
      (probing.node.session.act profile reading.toMoment) = some session) :
    session.Regular ∧
      Backed (fun peer addr => (peer, addr) ∈ probing.reached ++
          probing.evidence (probing.node.completes reading action))
        ((takes probing.node reading action).toList.flatMap ToSwarm.sessionEvents ++
          session.reports) probing.node.book.probes := by
  have backed : Backed (fun peer addr => (peer, addr) ∈ probing.reached ++
      probing.evidence (probing.node.completes reading action)) probing.node.session.reports
      probing.node.book.probes :=
    sound.backed.mono fun _ _ member => List.mem_append_left _ member
  have before : probing.node.session.Regular := sound.regular
  unfold Evident at evident
  unfold Node.completes at evident backed ⊢
  unfold takes
  cases called : action.onSession with
  | none =>
      rw [called] at done backed
      cases done
      exact ⟨before, backed⟩
  | some inner =>
      rw [called] at done backed evident
      obtain ⟨added, queue, adds⟩ := SessionBehaviour.reports_act before done
      refine ⟨before.act done, ?_⟩
      dsimp only [Option.bind_some] at backed evident ⊢
      rw [queue]
      cases adds with
      | nothing undelivered =>
          rw [List.append_nil]
          exact backed
      | read undelivered received typed unestablished => exact backed.append_read unestablished
      | session delivered =>
          rename_i conn result
          apply backed.append_session
          intro addr wanted
          rcases evident conn result delivered addr wanted with dialed | known
          · apply List.mem_append_right
            rw [delivered]
            exact mem_evidence dialed
          · exact List.mem_append_left _ known

/-- A call whose handshakes are evidence. -/
theorem Sound.act {probing : Probing} {action : NodeAction} {next : Node}
    (sound : Sound probing.reached probing.node.book) (evident : probing.Evident reading action)
    (acted : probing.node.act profile reading action = some next) :
    Sound (probing.after reading action next).reached next.book ∧
      ∀ peer addr, probing.node.deed reading action = .confirms peer addr →
        (peer, addr) ∈ probing.reached := by
  obtain ⟨session, done, follows⟩ := Node.follows_act acted
  obtain ⟨regular, backed⟩ := sound.session evident done
  obtain ⟨kept, confirmed⟩ := Sound.follows follows regular backed
  refine ⟨kept, ?_⟩
  intro peer addr confirms
  have known := confirmed peer addr confirms
  rcases Node.causedBy_deed probing.node reading action with routine | ⟨event, handled, -⟩
  · rw [confirms] at routine
    cases routine
  · rw [completes_of_handles handled] at known
    rcases List.mem_append.mp known with member | none
    · exact member
    · cases none

theorem Sound.rehash {node next : Node} (sound : Sound reached node.book)
    (rehashed : node.Rehashed next) : Sound reached next.book := by
  have queue : next.session.queue = node.session.queue := by rw [rehashed.session.same]
  rw [rehashed.book]
  refine ⟨rehashed.session.regular sound.regular, ?_⟩
  unfold SessionBehaviour.reports
  dsimp only
  rw [queue]
  exact sound.backed

theorem Reachable.sound {identity : DeviceIdentity} {options : NodeOptions} {probing : Probing}
    (reachable : Reachable profile Evident identity options probing) :
    Sound probing.reached probing.node.book := by
  obtain ⟨reading, run⟩ := reachable
  induction run with
  | refl =>
      refine ⟨SessionBehaviour.regular_new identity, ?_, List.Pairwise.nil⟩
      intro peer probe connId result pending member
      cases member
  | tail _ step ih =>
      cases step with
      | act action reading allows acted => exact (ih.act allows acted).1
      | rehash rehashed => exact ih.rehash rehashed

theorem Reachable.mono {allowed later : Probing → Surroundings → NodeAction → Prop}
    {identity : DeviceIdentity} {options : NodeOptions} {probing : Probing}
    (reachable : Reachable profile allowed identity options probing)
    (more : ∀ probing reading action, allowed probing reading action →
      later probing reading action) : Reachable profile later identity options probing := by
  obtain ⟨reading, run⟩ := reachable
  refine ⟨reading, ?_⟩
  induction run with
  | refl => exact .refl
  | tail _ step ih =>
      cases step with
      | act action reading allows acted =>
          exact ih.tail (.act action reading (more _ _ _ allows) acted)
      | rehash rehashed => exact ih.tail (.rehash rehashed)

/-! ### A probed peer that connects once more -/

section Connects

variable {allowed : Probing → Surroundings → NodeAction → Prop} {probing : Probing}

def Lenient (allowed : Probing → Surroundings → NodeAction → Prop) : Prop :=
  ∀ probing reading action, probing.node.completes reading action = none →
    allowed probing reading action

theorem lenient_evident : Lenient Evident := by
  intro probing reading action incomplete conn result completed
  rw [incomplete] at completed
  cases completed

theorem Step.incomplete (lenient : Lenient allowed) (action : NodeAction) {next : Node}
    (incomplete : probing.node.completes reading action = none)
    (acted : probing.node.act profile reading action = some next) :
    Step profile allowed probing
      { probing with node := next, dialed := action.dials probing.dialed } := by
  have step := Step.act action reading (lenient probing reading action incomplete) acted
  unfold after at step
  rw [incomplete] at step
  unfold evidence at step
  rw [List.append_nil] at step
  exact step

theorem steps_idles (lenient : Lenient allowed) {node next : Node} (own : probing.node = node)
    (idles : Relation.ReflTransGen (Node.Idles profile) node next) :
    Relation.ReflTransGen (Step profile allowed) probing { probing with node := next } := by
  induction idles with
  | refl =>
      subst own
      exact .refl
  | @tail middle final _ step ih =>
      obtain ⟨reading, -, acted⟩ := step
      have incomplete : middle.completes reading .poll = none := rfl
      have polled : Step profile allowed { probing with node := middle }
          { probing with node := final } := Step.incomplete lenient .poll incomplete acted
      exact ih.tail polled

theorem completes_of_session {node : Node} {conn : Connection} {event : HandlerToBehaviour}
    (typed : event.isSessionFrame = true) :
    node.completes reading (.handlerEvent conn.1 conn.2 event) = none := by
  cases event with
  | frameReceived frame => exact if_pos typed
  | _ => rfl

/-- What a connection handler reports during the handshake, kept track of by
`kept`. -/
theorem steps_shakes {conn : Connection} (kept : Probing → Prop)
    (allows : ∀ probing reading event, kept probing →
      allowed probing reading (.handlerEvent conn.1 conn.2 event))
    (keeps : ∀ probing reading event next, kept probing → event.isSessionFrame = false →
      probing.node.act profile reading (.handlerEvent conn.1 conn.2 event) = some next →
      kept (probing.after reading (.handlerEvent conn.1 conn.2 event) next))
    (begins : kept probing) {node next : Node} (own : probing.node = node)
    (shakes : Relation.ReflTransGen (Node.Shakes profile conn) node next) :
    ∃ final, Relation.ReflTransGen (Step profile allowed) probing final ∧ final.node = next ∧
      kept final := by
  induction shakes with
  | refl => exact ⟨probing, .refl, own, begins⟩
  | tail _ step ih =>
      obtain ⟨middle, steps, rfl, still⟩ := ih
      obtain ⟨reading, event, untyped, acted⟩ := step
      exact ⟨_, steps.tail (.act _ reading (allows middle reading event still) acted), rfl,
        keeps middle reading event _ still untyped acted⟩

structure Undialed (probing : Probing) : Prop where
  dialed : probing.dialed = fun _ => none
  reached : probing.reached = []

theorem Undialed.after (undialed : probing.Undialed) (conn : Connection)
    (event : HandlerToBehaviour) (next : Node) :
    (probing.after reading (.handlerEvent conn.1 conn.2 event) next).Undialed := by
  refine ⟨undialed.dialed, ?_⟩
  unfold Probing.after
  dsimp only
  rw [undialed.reached]
  cases probing.node.completes reading (.handlerEvent conn.1 conn.2 event) with
  | none => rfl
  | some completed =>
      unfold evidence
      dsimp only
      rw [undialed.dialed]
      rfl

/-- Every address that some device waits for has been dialed on the connection. -/
structure Prepared (conn : Connection) (probing : Probing) : Prop where
  regular : probing.node.session.Regular
  dialed : ∀ peer addr, Wanted probing.node.session.reports probing.node.book.probes peer addr →
    probing.dialed conn = some addr

theorem Prepared.evident {conn : Connection} (prepared : probing.Prepared conn)
    (reading : Surroundings) (event : HandlerToBehaviour) :
    probing.Evident reading (.handlerEvent conn.1 conn.2 event) := by
  intro other result completed addr wanted
  have same : other = conn := by
    cases event with
    | frameReceived frame =>
        change probing.node.session.delivers reading.toMoment
          (.handlerEvent conn.1 conn.2 (.frameReceived frame)) = some (other, result) at completed
        unfold SessionBehaviour.delivers at completed
        dsimp only at completed
        split at completed
        · cases completed
        split at completed
        · cases completed
        split at completed
        · cases completed
          rfl
        · cases completed
    | substreamReady => cases completed
    | streamClosed => cases completed
  rw [same]
  exact .inl (prepared.dialed result.peerId addr wanted)

theorem Prepared.after {conn : Connection} (prepared : probing.Prepared conn)
    {event : HandlerToBehaviour} {next : Node} (untyped : event.isSessionFrame = false)
    (acted : probing.node.act profile reading (.handlerEvent conn.1 conn.2 event) = some next) :
    (probing.after reading (.handlerEvent conn.1 conn.2 event) next).Prepared conn := by
  obtain ⟨session, done, rfl⟩ := Option.map_eq_some_iff.mp acted
  have called : probing.node.session.act profile reading.toMoment
      (.handlerEvent conn.1 conn.2 event) = some session := done
  obtain ⟨added, queue, adds⟩ := SessionBehaviour.reports_act prepared.regular called
  refine ⟨prepared.regular.act called, ?_⟩
  intro peer addr wanted
  apply prepared.dialed peer addr
  rcases wanted with pending | waiting
  · exact .inl pending
  · have known : .dialBackRequested peer addr ∈ probing.node.session.reports ++ added := by
      rw [← queue]
      exact waiting
    rcases List.mem_append.mp known with old | new
    · exact .inr old
    · cases adds with
      | nothing undelivered => cases new
      | session delivered => cases List.mem_singleton.mp new
      | read undelivered received typed unestablished =>
          injection received with _ _ same
          rw [same] at untyped
          change Frame.isSessionFrame _ = false at untyped
          rw [typed] at untyped
          cases untyped

def Unobserved : ConnectedPoint → Prop
  | .dialer _ => True
  | .listener _ sendBackAddr => SessionBehaviour.observedSource sendBackAddr = none

theorem onConnectionEstablished_of_unobserved (behaviour : SessionBehaviour) (peer : PeerId)
    (connId : ConnectionId) {endpoint : ConnectedPoint} (unobserved : Unobserved endpoint) :
    behaviour.onConnectionEstablished peer connId endpoint =
      { behaviour with
        connected := insert peer behaviour.connected
        queue := behaviour.queue ++ [.generateEvent
          (.peerConnected ((behaviour.deviceOf peer).getD peer))] } := by
  unfold SessionBehaviour.onConnectionEstablished
  cases endpoint with
  | dialer address => rfl
  | listener localAddr sendBackAddr =>
      dsimp only
      rw [show SessionBehaviour.observedSource sendBackAddr = none from unobserved]
      rfl

/-- The node has been asked to dial the address, and has nothing else to do. -/
structure Asked (pair : Pair) (side : Side) (conn : Connection) (addr : Multiaddr) (node : Node) :
    Prop where
  identity : node.session.identity = pair.identity side
  known : node.session.deviceOf conn.1 = some (pair.identity side.other).peerId
  drained : node.session.queue = []
  waiting : node.session.pendingSends = ∅
  unobserved : node.session.observedAddrs = ∅
  unstarted : ∀ other, other ≠ conn → node.session.handshakes.lookup other = none
  probes : node.pendingProbes = AList.insert (pair.identity side.other).peerId
    { addr := addr, since := 0 } ∅

theorem exists_asked (laws : SessionBehaviour.HandshakeLaws) (aead : AeadCorrect) {pair : Pair}
    (honest : pair.Honest) (profile : Profile) {side : Side} (options : NodeOptions)
    (conn : Connection) (unexpecting : pair.expected side = none) {addr : Multiaddr}
    (carriable : Outbound.Carriable addr) :
    ∃ probing, Reachable profile Evident (pair.identity side) options probing ∧
      probing.Undialed ∧ Asked pair side conn addr probing.node := by
  obtain ⟨node, middle, shakes, idles, attuned, same, owner, waiting, unobserved, others, -⟩ :=
    Node.exists_attuned laws honest profile (rfl : pair.identity side = pair.identity side) options
      conn unexpecting
  let begun := start (Node.new (pair.identity side) options (Node.drawing []))
  have nothing (peer : PeerId) (addr : Multiaddr)
      (wanted : Wanted begun.node.session.reports begun.node.book.probes peer addr) :
      begun.dialed conn = some addr := by
    rcases wanted with ⟨probe, impossible, -⟩ | impossible
    · cases impossible
    · cases impossible
  have begins : begun.Undialed ∧ begun.Prepared conn :=
    ⟨⟨rfl, rfl⟩, SessionBehaviour.regular_new _, nothing⟩
  obtain ⟨shaken, first, rfl, undialed, -⟩ := steps_shakes
    (fun probing => probing.Undialed ∧ probing.Prepared conn)
    (fun _ reading event kept => kept.2.evident reading event)
    (fun _ _ event _ kept untyped acted => ⟨kept.1.after conn event _, kept.2.after untyped acted⟩)
    begins rfl shakes
  have second := steps_idles lenient_evident rfl idles
  have transmittable : (Outbound.dialBackReq addr 0).Transmittable := carriable
  have small := (Session.small_new (pair.result side)).1
  obtain ⟨read, heard, counted, -, hears, -, polled, -⟩ :=
    Node.exists_told aead profile attuned small transmittable nofun
  have idle : node.pendingProbes = ∅ := by
    rw [same]
    rfl
  let held := node.holding conn (pair.identity side.other).peerId read
  let asked : Node :=
    { held with
      pendingProbes := AList.insert (pair.identity side.other).peerId
        { addr := addr, since := 0 } ∅
      session := held.session.connectProbe addr }
  have answered : heard.act profile (Node.drawing []) .poll = some asked := by
    rw [polled]
    change some (Node.onDialBackReq _ _ _ _) = _
    unfold Node.onDialBackReq
    rw [show held.pendingProbes = ∅ from idle]
    rfl
  have queue : asked.session.queue = [.dial (.unknownPeerId addr)] := by
    change node.session.queue ++ _ = _
    rw [attuned.drained]
    rfl
  have dialed : asked.act profile (Node.drawing []) .poll =
      some { asked with session := { asked.session with queue := [] } } :=
    Node.pollSession_of_punctual profile asked
      (SessionBehaviour.expired_zero asked.session) queue
  obtain ⟨reading, event, typed, received⟩ := hears
  have third : Step profile Evident { shaken with node := node } { shaken with node := heard } :=
    Step.incomplete lenient_evident (.handlerEvent conn.1 conn.2 event) (completes_of_session typed)
      received
  have fourth : Step profile Evident { shaken with node := heard } { shaken with node := asked } :=
    Step.incomplete lenient_evident .poll rfl answered
  have fifth : Step profile Evident { shaken with node := asked }
      { shaken with node := { asked with session := { asked.session with queue := [] } } } :=
    Step.incomplete lenient_evident .poll rfl dialed
  refine ⟨_, ⟨_, (((first.trans second).tail third).tail fourth).tail fifth⟩,
    ⟨undialed.dialed, undialed.reached⟩, ?_⟩
  exact
    { identity := owner
      known := attuned.known
      drained := rfl
      waiting := waiting
      unobserved := unobserved
      unstarted := others
      probes := rfl }

/-- The device that has asked is the only one that waits. -/
theorem Asked.wanted {pair : Pair} {side : Side} {conn : Connection} {addr : Multiaddr}
    {node : Node} (asked : Asked pair side conn addr node) {peer : PeerId} {other : Multiaddr}
    (wanted : Wanted node.session.reports node.book.probes peer other) : other = addr := by
  rcases wanted with ⟨probe, pending, rfl⟩ | waiting
  · unfold Node.book at pending
    dsimp only at pending
    rw [asked.probes] at pending
    by_cases same : peer = (pair.identity side.other).peerId
    · rw [same, AList.lookup_insert] at pending
      cases pending
      rfl
    · rw [AList.lookup_insert_ne same] at pending
      cases pending
  · unfold SessionBehaviour.reports at waiting
    rw [asked.drained] at waiting
    cases waiting

theorem Asked.prepared {pair : Pair} {side : Side} {conn : Connection} {addr : Multiaddr}
    (asked : Asked pair side conn addr probing.node) (regular : probing.node.session.Regular)
    {connId : ConnectionId} {before : Connection → Option Multiaddr}
    (dialed : probing.dialed = NodeAction.dials before
      (.fromSwarm (.connectionEstablished conn.1 connId (.dialer addr)))) :
    probing.Prepared (conn.1, connId) := by
  refine ⟨regular, ?_⟩
  intro peer other wanted
  rw [asked.wanted wanted, dialed]
  exact Function.update_self _ _ _

theorem exists_greeted (lenient : Lenient allowed) (profile : Profile) {pair : Pair} {side : Side}
    {conn : Connection} {addr : Multiaddr} (asked : Asked pair side conn addr probing.node)
    (connId : ConnectionId) {endpoint : ConnectedPoint} (unobserved : Unobserved endpoint) :
    ∃ next, Relation.ReflTransGen (Step profile allowed) probing next ∧
      next.dialed = NodeAction.dials probing.dialed
        (.fromSwarm (.connectionEstablished conn.1 connId endpoint)) ∧
      next.reached = probing.reached ∧ Asked pair side conn addr next.node := by
  let device := (pair.identity side.other).peerId
  let joins : SessionBehaviour :=
    { probing.node.session with
      connected := insert conn.1 probing.node.session.connected
      queue := [.generateEvent (.peerConnected device)] }
  have established : probing.node.session.onConnectionEstablished conn.1 connId endpoint =
      joins := by
    rw [onConnectionEstablished_of_unobserved _ _ _ unobserved, asked.known, asked.drained]
    rfl
  have noted : probing.node.act profile (Node.drawing [])
      (.fromSwarm (.connectionEstablished conn.1 connId endpoint)) =
      some { probing.node with session := joins } := by
    rw [← established]
    rfl
  have greeting : joins.queue = .generateEvent (.peerConnected device) :: [] := rfl
  let greeted : Node :=
    { probing.node with
      session := { joins with queue := [] }
      connected := insert device probing.node.connected }
  have greets : ({ probing.node with session := joins } : Node).act profile (Node.drawing [])
      .poll = some greeted := Node.act_poll greeting
  let dialed := NodeAction.dials probing.dialed
    (.fromSwarm (.connectionEstablished conn.1 connId endpoint))
  have first : Step profile allowed probing
      { probing with node := { probing.node with session := joins }, dialed := dialed } :=
    Step.incomplete lenient (.fromSwarm _) rfl noted
  have second : Step profile allowed
      { probing with node := { probing.node with session := joins }, dialed := dialed }
      { probing with node := greeted, dialed := dialed } :=
    Step.incomplete lenient .poll rfl greets
  refine ⟨_, (Relation.ReflTransGen.single first).tail second, rfl, rfl, ?_⟩
  exact
    { identity := asked.identity
      known := asked.known
      drained := rfl
      waiting := asked.waiting
      unobserved := asked.unobserved
      unstarted := asked.unstarted
      probes := asked.probes }

/-- The peer goes through the handshake on the further connection while the node
waits, and is told that the address is reachable. -/
theorem exists_confirming (lenient : Lenient allowed) (laws : SessionBehaviour.HandshakeLaws)
    {pair : Pair} (honest : pair.Honest) {side : Side} {conn : Connection} {addr : Multiaddr}
    (asked : Asked pair side conn addr probing.node)
    (expecting : pair.expected side = some (pair.identity side.other).peerId)
    (carriable : Outbound.Carriable addr) {connId : ConnectionId} (fresh : connId ≠ conn.2)
    (kept : Probing → Prop)
    (allows : ∀ probing reading event, kept probing →
      allowed probing reading (.handlerEvent conn.1 connId event))
    (keeps : ∀ probing reading event next, kept probing → event.isSessionFrame = false →
      probing.node.act profile reading (.handlerEvent conn.1 connId event) = some next →
      kept (probing.after reading (.handlerEvent conn.1 connId event) next))
    (begins : kept probing) :
    ∃ final middle next, Relation.ReflTransGen (Step profile allowed) probing final ∧
      kept middle ∧ final = { middle with node := final.node } ∧
      final.node.act profile (Node.drawing []) .poll = some next ∧
      final.node.deed (Node.drawing []) .poll =
        .confirms (pair.identity side.other).peerId addr ∧
      (final.node.session.poll 0).1.sendDialBackRes profile (pair.identity side.other).peerId addr
        true 0 = some next.session := by
  let device := (pair.identity side.other).peerId
  have other : (conn.1, connId) ≠ conn := fun same => fresh (congrArg Prod.snd same)
  have unstarted : SessionBehaviour.Unstarted pair side (conn.1, connId) probing.node.session :=
    ⟨asked.identity, asked.unstarted _ other, asked.known.trans expecting.symm⟩
  have waiting : probing.node.session.pendingSends.lookup device = none := by
    rw [asked.waiting]
    rfl
  have unreported : probing.node.session.observedAddrs.lookup (conn.1, connId) = none := by
    rw [asked.unobserved]
    rfl
  obtain ⟨joined, middle, shakes, idles, attuned, queue, -⟩ := Node.exists_joined laws honest
    profile probing.node (conn.1, connId) unstarted asked.drained waiting unreported
  obtain ⟨shaken, first, rfl, still⟩ := steps_shakes kept allows keeps begins rfl shakes
  have second := steps_idles lenient rfl idles
  let final : Node := { probing.node with session := joined }
  have pending : final.pendingProbes.lookup device = some { addr := addr, since := 0 } := by
    change probing.node.pendingProbes.lookup device = _
    rw [asked.probes]
    exact AList.lookup_insert _
  have transmittable : (Outbound.dialBackRes addr true 0).Transmittable := carriable
  have small := (Session.small_new (pair.result side)).2
  obtain ⟨⟨sealed, frame⟩, encrypted⟩ := Outbound.encrypt_of_transmittable transmittable profile
    (Session.new (pair.result side)) small
  obtain ⟨told, sent⟩ : ∃ told, ({ joined with queue := [] } : SessionBehaviour).sendDialBackRes
      profile device addr true 0 = some told := by
    unfold SessionBehaviour.sendDialBackRes SessionBehaviour.sendControl
    have found : ({ joined with queue := [] } : SessionBehaviour).sessions.lookup device = _ :=
      attuned.found
    rw [found]
    dsimp only
    rw [show (Session.new (pair.result side)).encryptDialBackRes profile addr true 0 = _
      from encrypted]
    exact ⟨_, rfl⟩
  have handled : final.handles (Node.drawing []) .poll = _ := Node.handles_poll queue
  have polled : final.act profile (Node.drawing []) .poll = _ := Node.act_poll queue
  obtain ⟨next, answered, same⟩ : ∃ next,
      ({ final with session := { joined with queue := [] } } : Node).onSessionEvent profile
        (.sessionEstablished device connId (pair.result side)) (Node.drawing []) = some next ∧
      next.session = told := by
    unfold Node.onSessionEvent
    dsimp only
    rw [pending]
    dsimp only
    rw [show SessionBehaviour.sendDialBackRes profile { joined with queue := [] } device addr true
      ((Node.drawing []).msgIds 0) = _ from sent]
    exact ⟨_, rfl, rfl⟩
  refine ⟨{ shaken with node := final }, shaken, next, first.trans second, still, rfl,
    polled.trans answered, ?_, ?_⟩
  · rw [Node.deed, handled]
    unfold Node.answer
    dsimp only
    rw [pending]
  · rw [show final.session.poll 0 = _ from
      SessionBehaviour.poll_cons (SessionBehaviour.expired_zero joined) queue, same]
    exact sent

end Connects

/-- A device is told that an address is reachable only when it has completed the
handshake over a connection that was dialed to that address, provided every
handshake that completes while the device waits for an answer is on such a
connection. -/
theorem confirms_reached {identity : DeviceIdentity} {options : NodeOptions} {probing : Probing}
    (reachable : Reachable profile Evident identity options probing) {action : NodeAction}
    {next : Node} (evident : probing.Evident reading action)
    (acted : probing.node.act profile reading action = some next) :
    ∃ session, action.onSession.elim (some probing.node.session)
        (probing.node.session.act profile reading.toMoment) = some session ∧
      Book.Follows profile reading (probing.node.deed reading action)
        { probing.node.book with session := session } next.book ∧
      ∀ peer addr, probing.node.deed reading action = .confirms peer addr →
        (peer, addr) ∈ probing.reached := by
  obtain ⟨session, done, follows⟩ := Node.follows_act acted
  exact ⟨session, done, follows, (reachable.sound.act evident acted).2⟩

section Sample

open Symbolic

omit [Crates]

theorem asked_of_public {conn : @Connection publicCrates} {node : @Node publicCrates} :
    letI := publicCrates
    Asked (publicPair false) .right conn seenAddr node →
      Asked (publicPair true) .right conn seenAddr node := by
  let _ := publicCrates
  intro asked
  exact ⟨asked.identity, asked.known, asked.drained, asked.waiting, asked.unobserved,
    asked.unstarted, asked.probes⟩

/-- The address is dialed, and the handshake completes on that connection. -/
theorem confirms_reached_sample :
    letI := publicCrates
    ∃ probing next, Reachable .release Evident ((publicPair false).identity .right)
        Node.sampleOptions probing ∧
      probing.node.act .release (Node.drawing []) .poll = some next ∧
      probing.node.deed (Node.drawing []) .poll =
        .confirms ((publicPair false).identity .left).peerId seenAddr ∧
      (((publicPair false).identity .left).peerId, seenAddr) ∈ probing.reached := by
  let _ := publicCrates
  let conn : Connection := (([7] : Bytes), 1)
  obtain ⟨probing, reachable, undialed, asked⟩ := exists_asked publicLaws (aeadCorrect _ _)
    (publicPair_honest false) .release Node.sampleOptions conn rfl carriable_seenAddr
  have endpoint : Unobserved (.dialer seenAddr) := trivial
  obtain ⟨greeted, steps, dialed, -, still⟩ :=
    exists_greeted lenient_evident .release asked 2 endpoint
  obtain ⟨reading, run⟩ := reachable
  have reached : Reachable .release Evident ((publicPair false).identity .right)
      Node.sampleOptions greeted := ⟨reading, run.trans steps⟩
  have prepared : greeted.Prepared (conn.1, 2) := still.prepared reached.sound.regular dialed
  obtain ⟨final, middle, next, later, -, -, acted, confirms, -⟩ :=
    exists_confirming lenient_evident publicLaws (publicPair_honest true) (asked_of_public still)
      rfl carriable_seenAddr (by decide) (Prepared (conn.1, 2))
      (fun _ reading event kept => kept.evident reading event)
      (fun _ _ _ _ kept untyped acted => kept.after untyped acted) prepared
  have final_reachable : Reachable .release Evident ((publicPair false).identity .right)
      Node.sampleOptions final := ⟨reading, (run.trans steps).trans later⟩
  obtain ⟨-, -, -, evidence⟩ := confirms_reached final_reachable
    (lenient_evident final (Node.drawing []) .poll rfl) acted
  exact ⟨final, next, final_reachable, acted, confirms, evidence _ _ confirms⟩

/-- The peer asks for a dial-back and reconnects by itself.  It is told that the
address is reachable, and nothing was ever dialed. -/
theorem confirms_unreached :
    letI := publicCrates
    ∃ probing next, Reachable .release (fun _ _ _ => True) ((publicPair false).identity .right)
        Node.sampleOptions probing ∧
      probing.node.act .release (Node.drawing []) .poll = some next ∧
      probing.node.deed (Node.drawing []) .poll =
        .confirms ((publicPair false).identity .left).peerId seenAddr ∧
      (probing.node.session.poll 0).1.sendDialBackRes .release
        ((publicPair false).identity .left).peerId seenAddr true 0 = some next.session ∧
      probing.reached = [] ∧ ∀ conn, probing.dialed conn = none := by
  let _ := publicCrates
  let conn : Connection := (([7] : Bytes), 1)
  have lenient : Lenient fun _ _ _ => True := fun _ _ _ _ => trivial
  obtain ⟨probing, reachable, undialed, asked⟩ := exists_asked publicLaws (aeadCorrect _ _)
    (publicPair_honest false) .release Node.sampleOptions conn rfl carriable_seenAddr
  have endpoint : Unobserved (.listener [] []) := rfl
  obtain ⟨greeted, steps, dialed, reached, still⟩ :=
    exists_greeted lenient .release asked 2 endpoint
  have inbound : greeted.Undialed := by
    refine ⟨?_, reached.trans undialed.reached⟩
    rw [dialed, undialed.dialed]
    change Function.update (fun _ => none) (conn.1, 2) none = fun _ => none
    exact Function.update_eq_iff.mpr ⟨rfl, fun _ _ => rfl⟩
  obtain ⟨final, middle, next, later, kept, same, acted, confirms, sent⟩ :=
    exists_confirming lenient publicLaws (publicPair_honest true) (asked_of_public still) rfl
      carriable_seenAddr (by decide) Undialed (fun _ _ _ _ => trivial)
      (fun _ _ event next kept _ _ => kept.after (conn.1, 2) event next) inbound
  obtain ⟨reading, run⟩ := reachable.mono fun _ _ _ _ => trivial
  refine ⟨final, next, ⟨reading, (run.trans steps).trans later⟩, acted, confirms, sent, ?_, ?_⟩
  · rw [same]
    exact kept.reached
  · intro other
    rw [same]
    exact congrFun kept.dialed other

end Sample

end Probing

end JeanGrey
