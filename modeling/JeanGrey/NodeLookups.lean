/-
The lookups of a node.

A call of `lookup` or `schedule_rediscovery` starts a chain: a query, and another
one for every failure until the attempts are used up.  The attempts of a chain
travel between the pending and the queued lookups, so `Chains` keeps beside the
node which call every query and every queued lookup goes back to.
-/

import JeanGrey.NodeAgenda
import JeanGrey.NodeIsolation

namespace JeanGrey

open Crates Runs

variable [Crates]

/-! ### Chains -/

/-- A `get_record` query, with the call it goes back to. -/
structure Query where
  call : Nat
  peer : PeerId

/-- The calls are numbered in their order. -/
structure Chains where
  calls : Nat
  owner : QueryId → Nat
  waiting : List (Nat × LookupRetry)
  asked : List Query
  /-- The peers of the `lookup` calls. -/
  lookedUp : List PeerId

namespace Chains

def none : Chains := { calls := 0, owner := fun _ => 0, waiting := [], asked := [], lookedUp := [] }

def count (chains : Chains) (call : Nat) : Nat :=
  chains.asked.countP fun query => query.call = call

def ask (chains : Chains) (call : Nat) (peer : PeerId) (id : QueryId) : Chains :=
  { chains with
    owner := Function.update chains.owner id call
    asked := chains.asked ++ [{ call := call, peer := peer }] }

/-- A call of `lookup` asks at once; a rediscovery waits first.  A failed query
hands its call on to the queue, and the queue to the next query. -/
def after (chains : Chains) : Errand → Chains
  | .looksUp peer id =>
      { chains with
        calls := chains.calls + 1
        lookedUp := peer :: chains.lookedUp }.ask chains.calls peer id
  | .schedules peer nextAt =>
      { chains with
        calls := chains.calls + 1
        waiting := chains.waiting ++
          [(chains.calls, { peer := peer, attempts := 1, nextAt := nextAt })] }
  | .requeues id retry =>
      { chains with waiting := chains.waiting ++ [(chains.owner id, retry)] }
  | .fires retry id =>
      match chains.waiting with
      | [] => chains
      | (call, _) :: later => { chains.ask call retry.peer id with waiting := later }
  | _ => chains

@[simp] theorem count_ask (chains : Chains) (call other : Nat) (peer : PeerId) (id : QueryId) :
    (chains.ask call peer id).count other =
      chains.count other + if call = other then 1 else 0 := by
  simp [count, ask, List.countP_append, List.countP_singleton]

end Chains

def Lawful (attempts : Nat) : Prop := 1 ≤ attempts ∧ attempts ≤ Node.maxLookupAttempts

/-- Every lookup that is pending or queued has its own chain, and its attempts
count the queries of the chain. -/
structure Agenda.Chained (agenda : Agenda) (chains : Chains) : Prop where
  queries : agenda.queries = chains.asked.map fun query => peerIdToBytes query.peer
  queue : agenda.retries = chains.waiting.map Prod.snd
  pending : ∀ id request, agenda.pending id = some request →
    Lawful request.attempts ∧ chains.count (chains.owner id) = request.attempts
  started : ∀ id request, agenda.pending id = some request → chains.owner id < chains.calls
  queued : ∀ entry ∈ chains.waiting,
    Lawful entry.2.attempts ∧ chains.count entry.1 + 1 = entry.2.attempts ∧ entry.1 < chains.calls
  distinct : (chains.waiting.map Prod.fst).Nodup
  apart : ∀ id request, agenda.pending id = some request →
    chains.owner id ∉ chains.waiting.map Prod.fst
  injective : ∀ id other request request', agenda.pending id = some request →
    agenda.pending other = some request' → chains.owner id = chains.owner other → id = other
  bounded : ∀ call, chains.count call ≤ Node.maxLookupAttempts
  fresh : ∀ call, chains.calls ≤ call → chains.count call = 0

namespace Agenda.Chained

variable {agenda : Agenda} {chains : Chains}

theorem newCall (chained : agenda.Chained chains) (lookedUp : List PeerId) :
    agenda.Chained { chains with calls := chains.calls + 1, lookedUp := lookedUp } where
  queries := chained.queries
  queue := chained.queue
  pending := chained.pending
  started id request found := Nat.lt_succ_of_lt (chained.started id request found)
  queued entry member := by
    obtain ⟨lawful, counted, started⟩ := chained.queued entry member
    exact ⟨lawful, counted, Nat.lt_succ_of_lt started⟩
  distinct := chained.distinct
  apart := chained.apart
  injective := chained.injective
  bounded := chained.bounded
  fresh call later := chained.fresh call (Nat.le_of_succ_le later)

theorem pending_of_update_none {id other : QueryId} {request : LookupRequest}
    (found : Function.update agenda.pending id .none other = some request) :
    other ≠ id ∧ agenda.pending other = some request := by
  by_cases same : other = id
  · rw [same, Function.update_self] at found
    cases found
  · rw [Function.update_of_ne same] at found
    exact ⟨same, found⟩

theorem close (chained : agenda.Chained chains) (id : QueryId) :
    Chained { agenda with pending := Function.update agenda.pending id .none } chains where
  queries := chained.queries
  queue := chained.queue
  pending other request found := chained.pending other request (pending_of_update_none found).2
  started other request found := chained.started other request (pending_of_update_none found).2
  queued := chained.queued
  distinct := chained.distinct
  apart other request found := chained.apart other request (pending_of_update_none found).2
  injective other another request request' found found' :=
    chained.injective other another request request' (pending_of_update_none found).2
      (pending_of_update_none found').2
  bounded := chained.bounded
  fresh := chained.fresh

theorem enqueue (chained : agenda.Chained chains) {call : Nat} {retry : LookupRetry}
    (started : call < chains.calls) (lawful : Lawful retry.attempts)
    (counted : chains.count call + 1 = retry.attempts)
    (idle : ∀ id request, agenda.pending id = some request → chains.owner id ≠ call)
    (free : call ∉ chains.waiting.map Prod.fst) :
    ({ agenda with retries := agenda.retries ++ [retry] } : Agenda).Chained
      { chains with waiting := chains.waiting ++ [(call, retry)] } where
  queries := chained.queries
  queue := by simp [chained.queue]
  pending := chained.pending
  started := chained.started
  queued entry member := by
    rcases List.mem_append.mp member with before | last
    · exact chained.queued entry before
    · cases List.mem_singleton.mp last
      exact ⟨lawful, counted, started⟩
  distinct := by
    rw [List.map_append, List.nodup_append]
    refine ⟨chained.distinct, List.nodup_singleton _, ?_⟩
    rintro one member other last rfl
    rw [List.mem_singleton.mp last] at member
    exact free member
  apart id request found := by
    have before := chained.apart id request found
    have other := idle id request found
    simp only [List.map_append, List.mem_append, not_or, List.map_cons, List.map_nil,
      List.mem_singleton]
    exact ⟨before, other⟩
  injective := chained.injective
  bounded := chained.bounded
  fresh := chained.fresh

theorem dequeue {entry : Nat × LookupRetry} {later : List (Nat × LookupRetry)}
    (chained : agenda.Chained chains) (head : chains.waiting = entry :: later) :
    ({ agenda with retries := later.map Prod.snd } : Agenda).Chained
      { chains with waiting := later } ∧
    entry.1 ∉ later.map Prod.fst ∧
    ∀ id request, agenda.pending id = some request → chains.owner id ≠ entry.1 := by
  have distinct := chained.distinct
  rw [head, List.map_cons, List.nodup_cons] at distinct
  have kept {other : Nat × LookupRetry} (member : other ∈ later) : other ∈ chains.waiting := by
    rw [head]
    exact List.mem_cons_of_mem _ member
  refine ⟨?_, distinct.1, ?_⟩
  · exact
      { queries := chained.queries
        queue := rfl
        pending := chained.pending
        started := chained.started
        queued := fun other member => chained.queued other (kept member)
        distinct := distinct.2
        apart := fun id request found member => by
          apply chained.apart id request found
          rw [head]
          exact List.mem_cons_of_mem _ member
        injective := chained.injective
        bounded := chained.bounded
        fresh := chained.fresh }
  · intro id request found same
    apply chained.apart id request found
    rw [head, same]
    exact List.mem_cons_self

theorem query (chained : agenda.Chained chains) {call attempts : Nat} {peer : PeerId}
    {id : QueryId} (started : call < chains.calls) (lawful : Lawful attempts)
    (counted : chains.count call + 1 = attempts)
    (idle : ∀ id request, agenda.pending id = some request → chains.owner id ≠ call)
    (free : call ∉ chains.waiting.map Prod.fst) :
    (agenda.query id { peer := peer, attempts := attempts }).Chained
      (chains.ask call peer id) := by
  have counts {other : Nat} (apart : other ≠ call) :
      (chains.ask call peer id).count other = chains.count other := by
    simp [apart.symm]
  have mine : (chains.ask call peer id).count call = attempts := by simp [counted]
  have owned : (chains.ask call peer id).owner id = call := Function.update_self ..
  have owners {other : QueryId} (apart : other ≠ id) :
      (chains.ask call peer id).owner other = chains.owner other := Function.update_of_ne apart ..
  -- A lookup that was pending before keeps its request and its chain.
  have before {other : QueryId} {request : LookupRequest} (apart : other ≠ id)
      (found : (agenda.query id { peer := peer, attempts := attempts }).pending other =
        some request) : agenda.pending other = some request := by
    rwa [pending_query_of_ne apart] at found
  have new {request : LookupRequest}
      (found : (agenda.query id { peer := peer, attempts := attempts }).pending id =
        some request) : request.attempts = attempts := by
    rw [pending_query_self] at found
    cases found
    rfl
  refine ⟨?_, chained.queue, ?_, ?_, ?_, chained.distinct, ?_, ?_, ?_, ?_⟩
  · simp [Agenda.query, Chains.ask, chained.queries]
  · intro other request found
    by_cases same : other = id
    · subst same
      rw [owned, new found]
      exact ⟨lawful, mine⟩
    · have old := before same found
      rw [owners same, counts (idle other request old)]
      exact chained.pending other request old
  · intro other request found
    by_cases same : other = id
    · subst same
      rw [owned]
      exact started
    · rw [owners same]
      exact chained.started other request (before same found)
  · intro entry member
    have apart : entry.1 ≠ call := by
      rintro rfl
      exact free (List.mem_map_of_mem member)
    rw [counts apart]
    exact chained.queued entry member
  · intro other request found
    by_cases same : other = id
    · subst same
      rw [owned]
      exact free
    · rw [owners same]
      exact chained.apart other request (before same found)
  · intro other another request request' found found' alike
    by_cases same : other = id
    · by_cases same' : another = id
      · rw [same, same']
      · subst same
        rw [owned, owners same'] at alike
        exact (idle another request' (before same' found') alike.symm).elim
    · by_cases same' : another = id
      · subst same'
        rw [owned, owners same] at alike
        exact (idle other request (before same found) alike).elim
      · rw [owners same, owners same'] at alike
        exact chained.injective other another request request' (before same found)
          (before same' found') alike
  · intro other
    by_cases same : other = call
    · rw [same, mine]
      exact lawful.2
    · rw [counts same]
      exact chained.bounded other
  · intro other later
    have apart : other ≠ call := Nat.ne_of_gt (Nat.lt_of_lt_of_le started later)
    rw [counts apart]
    exact chained.fresh other later

theorem does {next : Agenda} {errand : Errand} (chained : agenda.Chained chains)
    (does : agenda.Does errand next) : next.Chained (chains.after errand) := by
  have idle (id : QueryId) (request : LookupRequest) (found : agenda.pending id = some request) :
      chains.owner id ≠ chains.calls := Nat.ne_of_lt (chained.started id request found)
  have free : chains.calls ∉ chains.waiting.map Prod.fst := by
    intro member
    obtain ⟨entry, among, same⟩ := List.mem_map.mp member
    have := (chained.queued entry among).2.2
    omega
  have first : Lawful 1 := ⟨Nat.le_refl 1, by decide⟩
  have counted : chains.count chains.calls + 1 = 1 := by rw [chained.fresh _ (Nat.le_refl _)]
  have kept {next : Agenda} (pending : next.pending = agenda.pending)
      (retries : next.retries = agenda.retries) (queries : next.queries = agenda.queries) :
      next.Chained chains := by
    refine ⟨?_, ?_, ?_, ?_, chained.queued, chained.distinct, ?_, ?_, chained.bounded,
      chained.fresh⟩
    · exact queries.trans chained.queries
    · exact retries.trans chained.queue
    all_goals rw [pending]
    · exact chained.pending
    · exact chained.started
    · exact chained.apart
    · exact chained.injective
  cases does with
  | looksUp peer id =>
      exact (chained.newCall (peer :: chains.lookedUp)).query (Nat.lt_succ_self _) first counted
        idle free
  | schedules inFlight nextAt =>
      exact (chained.newCall chains.lookedUp).enqueue (Nat.lt_succ_self _) first counted idle free
  | closes id => exact chained.close id
  | @requeues id request found again nextAt =>
      obtain ⟨lawful, asked⟩ := chained.pending id request found
      refine (chained.close id).enqueue (chained.started id request found) ?_ ?_ ?_ ?_
      · exact ⟨Nat.le_add_left 1 _, again⟩
      · exact congrArg (· + 1) asked
      · intro other request' still same
        obtain ⟨apart, before⟩ := pending_of_update_none still
        exact apart (chained.injective other id request' request before found same)
      · exact chained.apart id request found
  | @fires retry later queued id =>
      have queue := chained.queue
      cases waits : chains.waiting with
      | nil =>
          rw [queued, waits] at queue
          cases queue
      | cons entry others =>
          rw [queued, waits, List.map_cons, List.cons.injEq] at queue
          obtain ⟨rfl, rfl⟩ := queue
          obtain ⟨rest, gone, unowned⟩ := chained.dequeue waits
          obtain ⟨lawful, counts, started⟩ := chained.queued entry (waits ▸ List.mem_cons_self)
          unfold Chains.after
          rw [waits]
          exact rest.query started lawful counts unowned gone
  | redials dial => exact kept rfl rfl rfl
  | firesDials now => exact kept rfl rfl rfl
  | connects peer relayed => exact kept rfl rfl rfl
  | leaves peer => exact kept rfl rfl rfl
  | punches remote succeeded =>
      obtain ⟨paths, attempts, same⟩ := agenda.punch_same remote succeeded
      rw [same]
      exact kept rfl rfl rfl

end Agenda.Chained

/-! ### One lookup at a time -/

/-- At most one lookup of the peer is pending or queued. -/
structure Agenda.Single (agenda : Agenda) (peer : PeerId) : Prop where
  pending : ∀ id other request request', agenda.pending id = some request →
    agenda.pending other = some request' → request.peer = peer → request'.peer = peer → id = other
  apart : ∀ id request, agenda.pending id = some request → request.peer = peer →
    ∀ retry ∈ agenda.retries, retry.peer ≠ peer
  queued : (agenda.retries.countP fun retry => retry.peer = peer) ≤ 1

namespace Agenda.Single

variable {agenda : Agenda} {peer : PeerId}

theorem close (single : agenda.Single peer) (id : QueryId) :
    ({ agenda with pending := Function.update agenda.pending id .none } : Agenda).Single peer where
  pending other another request request' found found' :=
    single.pending other another request request' (Chained.pending_of_update_none found).2
      (Chained.pending_of_update_none found').2
  apart other request found := single.apart other request (Chained.pending_of_update_none found).2
  queued := single.queued

theorem enqueue (single : agenda.Single peer) {retry : LookupRetry}
    (idle : retry.peer = peer → ¬ agenda.InFlight peer) :
    ({ agenda with retries := agenda.retries ++ [retry] } : Agenda).Single peer where
  pending := single.pending
  apart id request found same other member := by
    rcases List.mem_append.mp member with before | last
    · exact single.apart id request found same other before
    · cases List.mem_singleton.mp last
      exact fun mine => idle mine (.inl ⟨id, request, found, same⟩)
  queued := by
    rw [List.countP_append, List.countP_singleton]
    by_cases mine : retry.peer = peer
    · have none : (agenda.retries.countP fun other => other.peer = peer) = 0 := by
        simp only [List.countP_eq_zero, decide_eq_true_eq]
        exact fun other member same => idle mine (.inr ⟨other, member, same⟩)
      simp [none, mine]
    · simpa [mine] using single.queued

theorem dequeue {retry : LookupRetry} {later : List LookupRetry} (single : agenda.Single peer)
    (head : agenda.retries = retry :: later) :
    ({ agenda with retries := later } : Agenda).Single peer ∧
      (retry.peer = peer → ¬ ({ agenda with retries := later } : Agenda).InFlight peer) := by
  have queued := single.queued
  rw [head, List.countP_cons] at queued
  constructor
  · refine ⟨single.pending, ?_, by dsimp only; omega⟩
    intro id request found same other member
    apply single.apart id request found same
    rw [head]
    exact List.mem_cons_of_mem _ member
  · rintro mine (⟨id, request, found, same⟩ | ⟨other, member, same⟩)
    · refine single.apart id request found same retry ?_ mine
      rw [head]
      exact List.mem_cons_self
    · have more : 0 < later.countP fun retry => retry.peer = peer :=
        List.countP_pos_iff.mpr ⟨other, member, by simpa using same⟩
      simp only [mine, decide_true, if_true] at queued
      omega

theorem query (single : agenda.Single peer) {request : LookupRequest}
    (idle : request.peer = peer → ¬ agenda.InFlight peer) (id : QueryId) :
    (agenda.query id request).Single peer := by
  -- A pending lookup of the peer is the new one or an old one.
  have pending {other : QueryId} {request' : LookupRequest} (same : request'.peer = peer)
      (found : (agenda.query id request).pending other = some request') :
      (other = id ∧ request.peer = peer) ∨ agenda.pending other = some request' := by
    by_cases here : other = id
    · rw [here, pending_query_self] at found
      cases found
      exact .inl ⟨here, same⟩
    · rw [pending_query_of_ne here] at found
      exact .inr found
  constructor
  · intro other another request' request'' found found' same same'
    rcases pending same found with ⟨here, mine⟩ | before
    · rcases pending same' found' with ⟨here', -⟩ | before'
      · rw [here, here']
      · exact (idle mine (.inl ⟨another, request'', before', same'⟩)).elim
    · rcases pending same' found' with ⟨-, mine⟩ | before'
      · exact (idle mine (.inl ⟨other, request', before, same⟩)).elim
      · exact single.pending other another request' request'' before before' same same'
  · intro other request' found same retry member
    rcases pending same found with ⟨-, mine⟩ | before
    · exact fun waits => idle mine (.inr ⟨retry, member, waits⟩)
    · exact single.apart other request' before same retry member
  · exact single.queued

/-- Only a call of `lookup` can start a second one. -/
theorem does {next : Agenda} {errand : Errand} (single : agenda.Single peer)
    (does : agenda.Does errand next) (others : ∀ id, errand ≠ .looksUp peer id) :
    next.Single peer := by
  cases does with
  | looksUp looked id =>
      apply single.query
      exact fun same => (others id (congrArg (Errand.looksUp · id) same)).elim
  | schedules idle nextAt =>
      apply single.enqueue
      rintro rfl
      exact idle
  | closes id => exact single.close id
  | @requeues id request found again nextAt =>
      apply (single.close id).enqueue
      rintro mine (⟨other, request', still, same⟩ | ⟨retry, member, same⟩)
      · obtain ⟨apart, before⟩ := Chained.pending_of_update_none still
        exact apart (single.pending other id request' request before found same mine)
      · exact single.apart id request found mine retry member same
  | fires queued id =>
      obtain ⟨rest, idle⟩ := single.dequeue queued
      exact rest.query idle id
  | redials dial => exact ⟨single.pending, single.apart, single.queued⟩
  | firesDials now => exact ⟨single.pending, single.apart, single.queued⟩
  | connects other relayed => exact ⟨single.pending, single.apart, single.queued⟩
  | leaves other => exact ⟨single.pending, single.apart, single.queued⟩
  | punches remote succeeded =>
      obtain ⟨paths, attempts, same⟩ := agenda.punch_same remote succeeded
      rw [same]
      exact ⟨single.pending, single.apart, single.queued⟩

end Agenda.Single

/-- The chains of a node, and one lookup at a time for the peers that `lookup`
was never called for. -/
structure Agenda.Tracked (agenda : Agenda) (chains : Chains) : Prop where
  chained : agenda.Chained chains
  single : ∀ peer ∉ chains.lookedUp, agenda.Single peer

theorem Chains.lookedUp_after (chains : Chains) (errand : Errand) {peer : PeerId}
    (never : peer ∉ (chains.after errand).lookedUp) :
    peer ∉ chains.lookedUp ∧ ∀ id, errand ≠ .looksUp peer id := by
  cases errand with
  | looksUp looked id =>
      have apart : peer ∉ looked :: chains.lookedUp := never
      rw [List.mem_cons, not_or] at apart
      refine ⟨apart.2, fun other same => ?_⟩
      cases same
      exact apart.1 rfl
  | fires retry id =>
      refine ⟨?_, nofun⟩
      simp only [after] at never
      split at never
      · exact never
      · exact never
  | _ => exact ⟨never, nofun⟩

theorem Agenda.Tracked.trace {agenda next : Agenda} {chains : Chains} {errands : List Errand}
    (tracked : agenda.Tracked chains) (trace : Trace Agenda.Does agenda errands next) :
    next.Tracked (errands.foldl Chains.after chains) := by
  induction trace generalizing chains with
  | nil => exact tracked
  | cons first _ ih =>
      apply ih
      refine ⟨tracked.chained.does first, fun peer never => ?_⟩
      obtain ⟨before, others⟩ := chains.lookedUp_after _ never
      exact (tracked.single peer before).does first others

/-! ### Runs with their chains -/

namespace Node

/-- A run of a node, and the chains of its lookups. -/
inductive Tracked (profile : Profile) (identity : DeviceIdentity) (options : NodeOptions) :
    Node → Chains → Prop
  | starts (reading : Surroundings) :
      Tracked profile identity options (new identity options reading) .none
  | acts {node next : Node} {chains : Chains}
      (before : Tracked profile identity options node chains)
      (action : NodeAction) (reading : Surroundings)
      (acted : node.act profile reading action = some next) :
      Tracked profile identity options next
        ((node.errands reading action).foldl Chains.after chains)
  | rehashes {node next : Node} {chains : Chains}
      (before : Tracked profile identity options node chains) (rehashed : Rehashed node next) :
      Tracked profile identity options next chains

variable {profile : Profile} {identity : DeviceIdentity} {options : NodeOptions} {node : Node}
  {chains : Chains}

theorem tracked_agenda (tracked : Tracked profile identity options node chains) :
    node.agenda.Tracked chains := by
  induction tracked with
  | starts reading =>
      refine ⟨⟨rfl, rfl, nofun, nofun, nofun, List.nodup_nil, nofun, nofun, ?_, fun _ _ => rfl⟩, ?_⟩
      · exact fun call => Nat.zero_le _
      · exact fun peer _ => ⟨nofun, nofun, Nat.zero_le _⟩
  | acts before action reading acted ih => exact ih.trace (does_act acted)
  | rehashes before rehashed ih =>
      rw [rehashed.agenda]
      exact ih

def lookups (node : Node) (peer : PeerId) : Nat :=
  (node.pendingLookups.entries.countP fun entry => entry.2.peer = peer) +
    node.retryLookups.countP fun retry => retry.peer = peer

theorem lookups_le_one {peer : PeerId} (single : node.agenda.Single peer) :
    node.lookups peer ≤ 1 := by
  unfold lookups
  rw [List.countP_eq_length_filter]
  have distinct := node.pendingLookups.nodupKeys.sublist
    (List.filter_sublist (p := fun entry => entry.2.peer = peer))
  have found {entry : Sigma fun _ : QueryId => LookupRequest}
      (member : entry ∈ node.pendingLookups.entries.filter fun entry => entry.2.peer = peer) :
      node.agenda.pending entry.1 = some entry.2 ∧ entry.2.peer = peer := by
    obtain ⟨among, same⟩ := List.mem_filter.mp member
    exact ⟨AList.mem_lookup_iff.mpr among, of_decide_eq_true same⟩
  cases filtered : node.pendingLookups.entries.filter fun entry => entry.2.peer = peer with
  | nil =>
      rw [List.length_nil, Nat.zero_add]
      exact single.queued
  | cons entry others =>
      rw [filtered] at found distinct
      have first := found List.mem_cons_self
      have none : (node.retryLookups.countP fun retry => retry.peer = peer) = 0 := by
        simp only [List.countP_eq_zero, decide_eq_true_eq]
        exact single.apart _ _ first.1 first.2
      cases others with
      | nil => simp [none]
      | cons other more =>
          have second := found (List.mem_cons_of_mem _ List.mem_cons_self)
          have same := single.pending _ _ _ _ first.1 second.1 first.2 second.2
          rw [List.nodupKeys_iff_pairwise] at distinct
          exact (List.rel_of_pairwise_cons distinct List.mem_cons_self same).elim

/-- Lookup chains are bounded and not duplicated. -/
theorem lookups_bounded (tracked : Tracked profile identity options node chains) :
    (∀ id request, node.pendingLookups.lookup id = some request →
      1 ≤ request.attempts ∧ request.attempts ≤ maxLookupAttempts) ∧
    (∀ retry ∈ node.retryLookups, 1 ≤ retry.attempts ∧ retry.attempts ≤ maxLookupAttempts) ∧
    (node.queries = chains.asked.map fun query => peerIdToBytes query.peer) ∧
    (∀ call, chains.count call ≤ maxLookupAttempts) ∧
    ∀ peer ∉ chains.lookedUp, node.lookups peer ≤ 1 := by
  obtain ⟨chained, single⟩ := tracked_agenda tracked
  refine ⟨?_, ?_, chained.queries, chained.bounded, ?_⟩
  · exact fun id request found => (chained.pending id request found).1
  · intro retry member
    have queued : retry ∈ chains.waiting.map Prod.snd := chained.queue ▸ member
    obtain ⟨entry, among, rfl⟩ := List.mem_map.mp queued
    exact (chained.queued entry among).1
  · exact fun peer never => lookups_le_one (single peer never)

section Sample

open Symbolic

omit [Crates]

/-- A lookup that has failed once. -/
theorem lookups_bounded_sample :
    letI := symbolicCrates [] []
    letI identity := (Duplex.samplePair []).identity .left
    ∃ node chains, Tracked .release identity sampleOptions node chains ∧ chains.count 0 = 1 ∧
      (node.retryLookups.map LookupRetry.attempts) = [2] ∧
      (∀ call, chains.count call ≤ maxLookupAttempts) ∧ node.lookups ([8] : Bytes) ≤ 1 := by
  let _ := symbolicCrates [] []
  let identity := (Duplex.samplePair []).identity .left
  have starts : Tracked .release identity sampleOptions _ _ := .starts (drawing [])
  have looked := starts.acts (.lookup ([7] : Bytes)) (drawing []) rfl
  have failed := looked.acts (.swarmEvent (.kad 0 .getRecordOther)) (drawing []) rfl
  have bounds := lookups_bounded failed
  exact ⟨_, _, failed, rfl, rfl, bounds.2.2.2.1, bounds.2.2.2.2 _ (by decide)⟩

end Sample

end Node

end JeanGrey
