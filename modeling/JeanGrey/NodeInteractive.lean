/-
The interactive loop of `run_interactive`.

The loop serves commands, ticks and swarm events.  A lookup command starts a
lookup and leaves its reply channel behind, with a deadline; the tick answers
the channels that are due.  It answers the first of them with everything the
node has cached, which it takes out of the node, and the others with nothing.
-/

import JeanGrey.NodeCache
import JeanGrey.NodeRecovery

namespace JeanGrey

open Crates

variable [Crates]

def PeerPath.label : PeerPath → String
  | disconnected => "disconnected"
  | connecting => "connecting"
  | direct => "direct"
  | relayed => "via-relay"
  | traversing => "traversing"
  | failed => "failed"

abbrev ReplyId := Nat

inductive NodeCommand where
  | send (peer : PeerId) (text : String) (reply : ReplyId)
  | lookup (peer : PeerId) (reply : ReplyId)
  | peers (reply : ReplyId)
  | quit

inductive Reply where
  | sent (reply : ReplyId) (msgId : UInt64)
  | records (reply : ReplyId) (records : List VerifiedRecord)
  | peers (reply : ReplyId) (listing : List (String × PeerId × String))

/-- A lookup whose reply is outstanding: the deadline and the channel. -/
structure LookupWaiter where
  deadline : Nat
  reply : ReplyId

structure Interactive where
  node : Node
  lookupWaiters : List LookupWaiter
  replies : List Reply
  running : Bool

inductive Arrival where
  | command (command : NodeCommand)
  | closed
  | tick
  | swarm (action : NodeAction)

namespace Interactive

def lookupWait : Nat := fromSecs 10

def listing (node : Node) (peer : PeerId) : String × PeerId × String :=
  let transport := (node.session.transportOf peer).getD peer
  ((node.session.peerName peer).getD "?", peer,
    ((node.peerPaths.lookup transport).map PeerPath.label).getD "unknown")

def onCommand (state : Interactive) (reading : Surroundings) : NodeCommand → Interactive
  | .send peer text reply =>
      let node :=
        if state.node.hasSession peer = false then state.node.lookup peer (reading.queryIds 0)
        else state.node
      let (node, msgId) := node.sendMessage peer text reading
      { state with node := node, replies := state.replies ++ [.sent reply msgId] }
  | .lookup peer reply =>
      { state with
        node := state.node.lookup peer (reading.queryIds 0)
        lookupWaiters := state.lookupWaiters ++
          [{ deadline := reading.instant + lookupWait, reply := reply }] }
  | .peers reply =>
      { state with
        replies := state.replies ++
          [.peers reply (state.node.session.sessionPeers.map (listing state.node))] }
  | .quit => { state with running := false }

/-- The loop over the replies that are due: `std::mem::take(&mut node.records)`
for each. -/
def flush : Node → List LookupWaiter → Node × List Reply
  | node, [] => (node, [])
  | node, waiter :: later =>
      let rest := flush { node with records := ∅ } later
      (rest.1, .records waiter.reply (node.records.entries.map Sigma.snd) :: rest.2)

def due (state : Interactive) (now : Nat) : List LookupWaiter :=
  state.lookupWaiters.filter fun waiter => waiter.deadline ≤ now

/-- The tick; `now` is read after the maintenance. -/
def tick (profile : Profile) (state : Interactive) (reading : Surroundings) (now : Nat) :
    Option Interactive :=
  (state.node.maintenance profile reading).map fun node =>
    { state with
      node := (flush node (state.due now)).1
      lookupWaiters := state.lookupWaiters.filter fun waiter => ¬waiter.deadline ≤ now
      replies := state.replies ++ (flush node (state.due now)).2 }

def step (profile : Profile) (state : Interactive) (reading : Surroundings) (now : Nat) :
    Arrival → Option Interactive
  | .command command => some (state.onCommand reading command)
  | .closed => some { state with running := false }
  | .tick => state.tick profile reading now
  | .swarm action => (state.node.act profile reading action).map fun node =>
      { state with node := node }

/-! ### What the tick does -/

theorem records_flush_cons (node : Node) (waiter : LookupWaiter) (later : List LookupWaiter) :
    (flush node (waiter :: later)).1.records = ∅ := by
  induction later generalizing node waiter with
  | nil => rfl
  | cons next rest ih => exact ih { node with records := ∅ } next

/-- With an empty cache every reply is empty, and the cache stays so. -/
theorem flush_of_empty {node : Node} (empty : node.records = ∅) (waiters : List LookupWaiter) :
    (flush node waiters).1.records = ∅ ∧
      (flush node waiters).2 = waiters.map fun waiter => .records waiter.reply [] := by
  induction waiters generalizing node with
  | nil => exact ⟨empty, rfl⟩
  | cons waiter later ih =>
      obtain ⟨records, replies⟩ :=
        ih (show ({ node with records := ∅ } : Node).records = ∅ from rfl)
      refine ⟨records, ?_⟩
      rw [flush, empty]
      dsimp only
      rw [replies]
      rfl

theorem records_maintenance {profile : Profile} {reading : Surroundings} {node next : Node}
    (maintained : node.maintenance profile reading = some next) : next.records = node.records := by
  have faced := congrArg Face.records (Node.face_maintenance maintained)
  rw [Face.records_foldl_withdraw, Face.records_renew, Face.records_scan] at faced
  exact faced

theorem step_tick {profile : Profile} (state : Interactive) {reading : Surroundings} {node : Node}
    (maintained : state.node.maintenance profile reading = some node) (now : Nat) :
    state.step profile reading now .tick =
      some { state with
        node := (flush node (state.due now)).1
        lookupWaiters := state.lookupWaiters.filter fun waiter => ¬waiter.deadline ≤ now
        replies := state.replies ++ (flush node (state.due now)).2 } := by
  change (state.node.maintenance profile reading).map _ = _
  rw [maintained]
  rfl

/-- Answering the lookups does not disturb the node: the cache is as before, and
every reply has the cached record of the peer that was asked for, if there is
one, and no other. -/
structure Undisturbed (asked : ReplyId → PeerId) (state next : Interactive) : Prop where
  records : next.node.records = state.node.records
  answers : ∀ reply sent, .records reply sent ∈ next.replies.drop state.replies.length →
    (∀ record, state.node.records.lookup (asked reply) = some record → record ∈ sent) ∧
      ∀ record ∈ sent, record.peerId = asked reply

/-- The lookups are answered without disturbing the node exactly if none of them
is due or nothing is cached. -/
theorem lookup_replies_undisturbed_iff (profile : Profile) (asked : ReplyId → PeerId)
    (state next : Interactive) (reading : Surroundings) (now : Nat)
    (ticked : state.step profile reading now .tick = some next) :
    Undisturbed asked state next ↔
      (∀ waiter ∈ state.lookupWaiters, now < waiter.deadline) ∨ state.node.records = ∅ := by
  obtain ⟨tended, maintained, rfl⟩ := Option.map_eq_some_iff.mp ticked
  have kept := records_maintenance maintained
  constructor
  · intro undisturbed
    have records : (flush tended (state.due now)).1.records = state.node.records :=
      undisturbed.records
    cases ready : state.due now with
    | nil =>
        left
        intro waiter member
        have early := List.filter_eq_nil_iff.mp ready waiter member
        simpa using early
    | cons waiter later =>
        right
        rw [ready, records_flush_cons] at records
        exact records.symm
  · rintro (early | empty)
    · have nobody : state.due now = [] := by
        apply List.filter_eq_nil_iff.mpr
        intro waiter member
        have late := early waiter member
        simpa using late
      constructor
      · dsimp only
        rw [nobody]
        exact kept
      · intro reply sent answered
        dsimp only at answered
        rw [nobody, List.drop_left] at answered
        cases answered
    · obtain ⟨records, replies⟩ := flush_of_empty (kept.trans empty) (state.due now)
      constructor
      · exact records.trans empty.symm
      · intro reply sent answered
        dsimp only at answered
        rw [List.drop_left, replies] at answered
        obtain ⟨waiter, -, same⟩ := List.mem_map.mp answered
        cases same
        rw [empty]
        exact ⟨nofun, List.forall_mem_nil _⟩

/-! ### Two lookups of one peer -/

def twoWaiting (node : Node) : Interactive where
  node := node
  lookupWaiters := [{ deadline := lookupWait, reply := 0 }, { deadline := lookupWait, reply := 1 }]
  replies := []
  running := true

section Samples

open Symbolic Node

omit [Crates]

/-- The replies of a new node, which has nothing cached. -/
theorem lookup_replies_undisturbed_sample :
    letI := sampleCrates
    letI node := new (device sampleKey [sampleAddr] 6 "bob") sampleOptions (drawing [])
    ∃ next, (twoWaiting node).step .release (tickAt lookupWait) lookupWait .tick = some next ∧
      Undisturbed (fun _ => (device sampleKey [sampleAddr] 5 "ada").peerId) (twoWaiting node)
        next := by
  let _ := sampleCrates
  let node := new (device sampleKey [sampleAddr] 6 "bob") sampleOptions (drawing [])
  obtain ⟨tended, maintained⟩ := maintenance_of_alone .release node (tickAt lookupWait) rfl
  have ticked := step_tick (twoWaiting node) maintained lookupWait
  exact ⟨_, ticked, (lookup_replies_undisturbed_iff .release _ _ _ _ _ ticked).mpr (.inr rfl)⟩

/-- A node that has cached the record of the peer answers two lookups in one
tick: the second reply is empty, the cache is lost, and a disconnect of the peer
schedules nothing any more. -/
theorem second_reply_empty :
    letI := sampleCrates
    letI peer := (device sampleKey [sampleAddr] 5 "ada").peerId
    ∃ (node : Node) (record : VerifiedRecord) (next : Interactive),
      Reachable .release (fun _ _ => True) (device sampleKey [sampleAddr] 6 "bob") sampleOptions
        node ∧
      node.records.lookup peer = some record ∧
      (twoWaiting node).step .release (tickAt lookupWait) lookupWait .tick = some next ∧
      next.node.records = ∅ ∧ .records 1 [] ∈ next.replies ∧
      next.node.scheduleReconnect peer (tickAt lookupWait) = next.node ∧
      ¬Undisturbed (fun _ => peer) (twoWaiting node) next := by
  let _ := sampleCrates
  obtain ⟨node, record, reachable, -, found, -, alone, -⟩ := exists_cached_sample
  obtain ⟨tended, maintained⟩ := maintenance_of_alone .release node (tickAt lookupWait) alone
  have ticked := step_tick (twoWaiting node) maintained lookupWait
  refine ⟨node, record, _, reachable, found, ticked, rfl, ?_, ?_, ?_⟩
  · change _ ∈ [Reply.records 0 _, Reply.records 1 []]
    exact List.mem_cons_of_mem _ (List.mem_singleton_self _)
  · unfold scheduleReconnect
    rfl
  · intro undisturbed
    have lost : node.records = ∅ := undisturbed.records.symm
    rw [lost] at found
    cases found

end Samples

end Interactive

end JeanGrey
