/-
The addresses a node believes to be reachable.

Every candidate has a state of its own, and the addresses that are advertised
stand in a list besides.  The two are kept in step by every operation.  How
often an address is tried is counted by its candidate only while it is rejected:
a report opens a new validation, and the count of the earlier ones is lost.
-/

import JeanGrey.NodeExchanges
import JeanGrey.NodeFace
import JeanGrey.NodePublish

namespace JeanGrey

open Crates Runs

variable [Crates]

namespace Book

variable {profile : Profile} {reading : Surroundings} {book next : Book}

/-! ### The list and the states -/

/-- The list of validated addresses agrees with the states of the candidates. -/
structure Kept (book : Book) : Prop where
  nodup : book.validated.Nodup
  listed : ∀ addr ∈ book.validated, ∃ candidate, book.candidates addr = some candidate ∧
    ∀ attempts, candidate.state ≠ .rejected attempts
  validated : ∀ addr candidate since, book.candidates addr = some candidate →
    candidate.state = .validated since → addr ∈ book.validated

/-- One candidate changes, and with it whether its address is listed. -/
theorem Kept.change (kept : book.Kept) {addr : Multiaddr} {candidate : Candidate}
    {addrs : List Multiaddr} (nodup : addrs.Nodup)
    (others : ∀ other, other ≠ addr → (other ∈ addrs ↔ other ∈ book.validated))
    (listed : addr ∈ addrs → ∀ attempts, candidate.state ≠ .rejected attempts)
    (validated : ∀ since, candidate.state = .validated since → addr ∈ addrs) :
    Kept { book.setCandidate addr candidate with validated := addrs } := by
  refine ⟨nodup, ?_, ?_⟩
  · intro other member
    by_cases same : other = addr
    · subst same
      exact ⟨candidate, Function.update_self _ _ _, listed member⟩
    · obtain ⟨held, found, state⟩ := kept.listed other ((others other same).mp member)
      exact ⟨held, (Function.update_of_ne same _ _).trans found, state⟩
  · intro other held since found state
    change Function.update book.candidates addr (some candidate) other = some held at found
    by_cases same : other = addr
    · subst same
      rw [Function.update_self] at found
      cases found
      exact validated since state
    · rw [Function.update_of_ne same] at found
      exact (others other same).mpr (kept.validated other held since found state)

theorem Kept.setCandidate (kept : book.Kept) {addr : Multiaddr} {candidate : Candidate}
    (listed : addr ∈ book.validated → ∀ attempts, candidate.state ≠ .rejected attempts)
    (validated : ∀ since, candidate.state = .validated since → addr ∈ book.validated) :
    (book.setCandidate addr candidate).Kept :=
  kept.change kept.nodup (fun _ _ => Iff.rfl) listed validated

theorem Routine.kept (routine : Routine profile book next) (kept : book.Kept) :
    next.Kept ∧ next.validated ⊆ book.validated := by
  cases routine with
  | calls moment action plain acted =>
      exact ⟨⟨kept.nodup, kept.listed, kept.validated⟩, fun _ => id⟩
  | drops peer => exact ⟨⟨kept.nodup, kept.listed, kept.validated⟩, fun _ => id⟩
  | asks prober found =>
      rename_i addr candidate
      refine ⟨kept.setCandidate ?_ ?_, fun _ => id⟩
      · intro member
        obtain ⟨held, present, state⟩ := kept.listed addr member
        rw [found] at present
        cases present
        exact state
      · intro since state
        exact kept.validated addr candidate since found state
  | restarts now found => exact ⟨kept.setCandidate (fun _ => nofun) nofun, fun _ => id⟩
  | rejects found =>
      rename_i addr candidate
      have removed : addr ∉ book.validated.filter fun other => other ≠ addr := by
        intro member
        exact of_decide_eq_true (List.mem_filter.mp member).2 rfl
      refine ⟨kept.change (kept.nodup.filter _) ?_ (fun member => (removed member).elim) ?_,
        List.filter_subset_self _⟩
      · intro other different
        rw [List.mem_filter]
        exact and_iff_left (decide_eq_true different)
      · intro since state
        cases held : candidate.state <;> rw [held] at state <;> cases state

theorem Routinely.kept (steps : book.Routinely profile next) (kept : book.Kept) :
    next.Kept ∧ next.validated ⊆ book.validated := by
  induction steps with
  | refl => exact ⟨kept, fun _ => id⟩
  | tail _ step ih =>
      obtain ⟨still, fewer⟩ := step.kept ih.1
      exact ⟨still, List.Subset.trans fewer ih.2⟩

/-- Whatever a call does keeps the two in step, and an address is listed only
when its prober has reached it. -/
theorem Follows.kept {deed : Deed} (follows : Follows profile reading deed book next)
    (kept : book.Kept) :
    next.Kept ∧ ∀ addr ∈ next.validated, addr ∉ book.validated →
      ∃ peer, deed = .validates addr peer := by
  cases follows with
  | routine steps =>
      obtain ⟨still, fewer⟩ := steps.kept kept
      exact ⟨still, fun addr member unlisted => (unlisted (fewer member)).elim⟩
  | opens starts steps =>
      obtain ⟨still, fewer⟩ := steps.kept (kept.setCandidate (fun _ => nofun) nofun)
      exact ⟨still, fun addr member unlisted => (unlisted (fewer member)).elim⟩
  | probes idle =>
      exact ⟨⟨kept.nodup, kept.listed, kept.validated⟩,
        fun addr member unlisted => (unlisted member).elim⟩
  | confirms pending sent =>
      exact ⟨⟨kept.nodup, kept.listed, kept.validated⟩,
        fun addr member unlisted => (unlisted member).elim⟩
  | validates found asked =>
      rename_i addr peer candidate
      constructor
      · refine kept.change (Node.nodup_addNew kept.nodup addr) ?_ (fun _ => nofun) ?_
        · intro other different
          rw [Node.mem_addNew]
          exact or_iff_left different
        · intro since state
          exact Node.mem_addNew.mpr (.inr rfl)
      · intro other member unlisted
        rcases Node.mem_addNew.mp member with old | rfl
        · exact (unlisted old).elim
        · exact ⟨peer, rfl⟩

end Book

namespace Node

variable {profile : Profile} {reading : Surroundings}

theorem handles_of_validates {node : Node} {action : NodeAction} {addr : Multiaddr} {peer : PeerId}
    (validates : node.deed reading action = .validates addr peer) :
    node.handles reading action = some (.dialBackResolved peer addr true) ∧
      ∃ candidate, node.candidates.lookup addr = some candidate ∧ candidate.prober = peer := by
  rcases causedBy_deed node reading action with routine | ⟨event, handled, caused⟩
  · rw [validates] at routine
    cases routine
  · rw [validates] at caused
    cases caused with
    | validates found asked => exact ⟨handled, _, found, asked⟩

theorem kept_act {node next : Node} {action : NodeAction} (kept : node.book.Kept)
    (acted : node.act profile reading action = some next) :
    next.book.Kept ∧ ∀ addr ∈ next.validatedPublicAddrs, addr ∉ node.validatedPublicAddrs →
      ∃ peer, node.deed reading action = .validates addr peer := by
  obtain ⟨session, -, follows⟩ := follows_act acted
  exact follows.kept ⟨kept.nodup, kept.listed, kept.validated⟩

theorem Reachable.kept {allowed : NodeAction → Surroundings → Prop} {identity : DeviceIdentity}
    {options : NodeOptions} {node : Node}
    (reachable : Reachable profile allowed identity options node) : node.book.Kept := by
  have rule := @Reachable.invariant _ _ _ _ _ _ (fun node => node.book.Kept) reachable
  refine rule ?_ ?_ ?_
  · exact fun reading => ⟨List.nodup_nil, fun _ member => (nomatch member),
      fun _ _ _ found => (nomatch found)⟩
  · intro node next action reading _ kept acted
    exact (kept_act kept acted).1
  · intro node next kept rehashed
    rw [rehashed.book]
    exact ⟨kept.nodup, kept.listed, kept.validated⟩

/-! ### A peer that reports an address -/

/-- The node listens where it did, and has no other public address than before
and perhaps `addr`. -/
structure Adds (addr : Option Multiaddr) (node next : Node) : Prop where
  current : next.currentAddrs = node.currentAddrs
  validated : ∀ other ∈ next.validatedPublicAddrs,
    other ∈ node.validatedPublicAddrs ∨ some other = addr

theorem Adds.trans {addr : Option Multiaddr} {node middle next : Node}
    (first : Adds none node middle) (second : Adds addr middle next) : Adds addr node next := by
  refine ⟨second.current.trans first.current, ?_⟩
  intro other member
  rcases second.validated other member with old | new
  · rcases first.validated other old with older | impossible
    · exact .inl older
    · cases impossible
  · exact .inr new

theorem currentAddrs_of_poll {node next : Node}
    (acted : node.act profile reading .poll = some next) :
    next.currentAddrs = node.currentAddrs := by
  have published (face : Face) : (face.publish reading).currentAddrs = face.currentAddrs := by
    unfold Face.publish
    split
    · rfl
    · rfl
  have turns := act_turns acted
  change next.face.currentAddrs = _
  generalize next.face = face at turns ⊢
  cases turns with
  | stays => rfl
  | validates handled => exact published _
  | rejects handled found asked => exact published _

theorem face_of_handlerEvent {node next : Node} {transport : PeerId} {connId : ConnectionId}
    {event : HandlerToBehaviour}
    (acted : node.act profile reading (.handlerEvent transport connId event) = some next) :
    next.face = node.face := by
  obtain ⟨session, -, rfl⟩ := Option.map_eq_some_iff.mp acted
  rfl

theorem adds_poll {node next : Node} (kept : node.book.Kept) {addr : Option Multiaddr}
    (acted : node.act profile reading .poll = some next)
    (only : ∀ other peer, node.deed reading .poll = .validates other peer → some other = addr) :
    Adds addr node next := by
  refine ⟨currentAddrs_of_poll acted, ?_⟩
  intro other member
  by_cases old : other ∈ node.validatedPublicAddrs
  · exact .inl old
  · obtain ⟨peer, validates⟩ := (kept_act kept acted).2 other member old
    exact .inr (only other peer validates)

theorem adds_quiet {node next : Node} (kept : node.book.Kept) (quiet : Quiet profile node next) :
    next.book.Kept ∧ Adds none node next := by
  have framed {reading : Surroundings} {transport : PeerId} {connId : ConnectionId}
      {event : HandlerToBehaviour}
      (acted : node.act profile reading (.handlerEvent transport connId event) = some next) :
      next.book.Kept ∧ Adds none node next := by
    have face := face_of_handlerEvent acted
    have validated : next.validatedPublicAddrs = node.validatedPublicAddrs :=
      congrArg Face.validatedPublicAddrs face
    refine ⟨(kept_act kept acted).1, congrArg Face.currentAddrs face, ?_⟩
    intro other member
    exact .inl (validated ▸ member)
  cases quiet with
  | shakes shakes =>
      obtain ⟨reading, event, -, acted⟩ := shakes
      exact framed acted
  | hears hears =>
      obtain ⟨reading, event, -, acted⟩ := hears
      exact framed acted
  | idles idles =>
      obtain ⟨reading, silent, acted⟩ := idles
      refine ⟨(kept_act kept acted).1, adds_poll kept acted ?_⟩
      intro other peer validates
      rw [silent] at validates
      cases validates

theorem adds_quiets {node next : Node} (kept : node.book.Kept)
    (quiets : Relation.ReflTransGen (Quiet profile) node next) :
    next.book.Kept ∧ Adds none node next := by
  induction quiets with
  | refl => exact ⟨kept, rfl, fun other member => .inl member⟩
  | tail _ quiet ih =>
      obtain ⟨still, adds⟩ := adds_quiet ih.1 quiet
      exact ⟨still, ih.2.trans adds⟩

section Reports

variable {profile : Profile} {node : Node} {conn : Connection} {device : PeerId} {ip : IpAddr}
  {addr : Multiaddr} {session : Session}

structure Reporting (conn : Connection) (device : PeerId) (ip : IpAddr) (addr : Multiaddr)
    (session : Session) (node : Node) : Prop extends Attuned conn device session node where
  external : node.isExternalIp ip (drawing []) = true
  forms : node.candidateFor ip = some addr
  unlistened : addr ∉ node.currentAddrs

theorem Reporting.opens (reporting : Reporting conn device ip addr session node)
    (starts : node.startsValidation addr = true) : node.openedBy ip (drawing []) = some addr := by
  unfold openedBy
  rw [reporting.external, if_neg Bool.noConfusion, reporting.forms]
  dsimp only
  rw [if_neg (fun both => reporting.unlistened both.2), if_pos starts]

theorem Reporting.holding (reporting : Reporting conn device ip addr session node)
    (next : Session) :
    Reporting conn device ip addr next (node.holding conn device next) :=
  ⟨reporting.toAttuned.holding next, reporting.external, reporting.forms, reporting.unlistened⟩

theorem requestDialBack_session (profile : Profile)
    (reporting : Reporting conn device ip addr session node) (carriable : Outbound.Carriable addr)
    (small : session.outSeq.toNat + 1 < 2 ^ 32) (since : Nat) :
    ∃ next asked, next = { session with outSeq := session.outSeq + 1 } ∧
      ({ node with
          candidates := node.candidates.insert addr { state := .pending since, prober := device }
        } : Node).requestDialBack profile addr 0 = some asked ∧
      ∃ final, Relation.ReflTransGen (Quiet profile) asked final ∧
        Reporting conn device ip addr next final ∧
        final.candidates.lookup addr = some { state := .pending since, prober := device } := by
  have transmittable : (Outbound.dialBackReq addr 0).Transmittable := carriable
  obtain ⟨⟨next, frame⟩, encrypted⟩ :=
    Outbound.encrypt_of_transmittable transmittable profile session small
  obtain ⟨-, counted, -, -⟩ := Outbound.encrypt_ok encrypted
  let proposed : Node :=
    { node with
      candidates := node.candidates.insert addr { state := .pending since, prober := device } }
  let asked : Node := { proposed.holding conn device next with
    candidates := proposed.candidates.insert addr { state := .pending since, prober := device } }
  let sent : SessionBehaviour := asked.session.notifyConn conn.1 conn.2 [frame]
  have holds : proposed.hasSession device = true := by
    change (node.session.sessions.lookup device).isSome = true
    rw [reporting.found]
    rfl
  have told : proposed.session.sendDialBackReq profile device addr 0 = some sent := by
    unfold SessionBehaviour.sendDialBackReq SessionBehaviour.sendControl
    rw [show proposed.session.sessions.lookup device = _ from reporting.found]
    dsimp only
    rw [show session.encryptDialBackReq profile addr 0 = _ from encrypted]
    rfl
  have requested : proposed.requestDialBack profile addr 0 =
      some { asked with session := sent } := by
    unfold requestDialBack
    rw [show proposed.candidates.lookup addr = _ from AList.lookup_insert _]
    dsimp only
    rw [holds, if_pos rfl]
    dsimp only
    rw [told]
    rfl
  have queue : sent.queue = [.notifyHandler conn.1 conn.2 [frame]] ++ [] := by
    change node.session.queue ++ _ = _
    rw [reporting.drained]
    rfl
  refine ⟨next, _, counted, requested, _, quiet_of_idles (idles_notifies ?_ queue), ?_,
    AList.lookup_insert _⟩
  · exact List.forall_mem_singleton.mpr trivial
  · exact ⟨⟨reporting.known, AList.lookup_insert _, rfl⟩, reporting.external, reporting.forms,
      reporting.unlistened⟩

theorem exists_reported (aead : AeadCorrect) (profile : Profile)
    (reporting : Reporting conn device ip addr session node)
    (carriable : Outbound.Carriable addr) (starts : node.startsValidation addr = true)
    (smallIn : session.inSeq.toNat + 1 < 2 ^ 32) (smallOut : session.outSeq.toNat + 1 < 2 ^ 32) :
    ∃ middle opened final next, Quiet profile node middle ∧
      middle.book = { node.book with session := middle.session } ∧
      middle.act profile (drawing []) .poll = some opened ∧
      middle.deed (drawing []) .poll = .opens addr device ∧
      Relation.ReflTransGen (Quiet profile) opened final ∧
      Reporting conn device ip addr next final ∧
      next.inSeq = session.inSeq + 1 ∧ next.outSeq = session.outSeq + 1 ∧
      final.candidates.lookup addr = some { state := .pending 0, prober := device } := by
  have transmittable : (Outbound.observedAddr ip 0 0).Transmittable := trivial
  obtain ⟨read, middle, counted, same, hears, book, acted, deed, -⟩ :=
    exists_told aead profile reporting.toAttuned smallIn transmittable nofun
  have held := reporting.holding read
  have opened : (node.holding conn device read).openedBy ip (drawing []) = some addr :=
    held.opens starts
  have room : read.outSeq.toNat + 1 < 2 ^ 32 := by
    rw [same.outSeq]
    exact smallOut
  obtain ⟨next, asked, sealed, requested, final, quiets, final_reporting, found⟩ :=
    requestDialBack_session profile held carriable room 0
  refine ⟨middle, asked, final, next, .hears hears, book, ?_, ?_, quiets, final_reporting, ?_,
    ?_, found⟩
  · rw [acted]
    change (node.holding conn device read).onObservedAddr profile device ip (drawing []) = _
    rw [onObservedAddr_eq, opened]
    exact requested
  · rw [deed]
    change (node.holding conn device read).answer (drawing [])
      (.observedAddrReported device ip 0) = _
    unfold answer
    dsimp only
    rw [opened]
  · rw [sealed]
    exact counted
  · rw [sealed]
    change read.outSeq + 1 = _
    rw [same.outSeq]

theorem exists_resolved (aead : AeadCorrect) (profile : Profile)
    (reporting : Reporting conn device ip addr session node)
    (carriable : Outbound.Carriable addr)
    (found : node.candidates.lookup addr = some { state := .pending 0, prober := device })
    (smallIn : session.inSeq.toNat + 1 < 2 ^ 32) (reachable : Bool) :
    ∃ middle final next, Quiet profile node middle ∧
      middle.act profile (drawing []) .poll = some final ∧
      middle.deed (drawing []) .poll = (if reachable then .validates addr device else .routine) ∧
      Reporting conn device ip addr next final ∧
      next.inSeq = session.inSeq + 1 ∧ next.outSeq = session.outSeq ∧
      final.candidates.lookup addr = some
        { state := if reachable then .validated 0 else .rejected 1, prober := device } ∧
      (reachable = true → addr ∈ final.validatedPublicAddrs) := by
  have transmittable : (Outbound.dialBackRes addr reachable 0).Transmittable := carriable
  obtain ⟨read, middle, counted, same, hears, -, acted, deed, -⟩ :=
    exists_told aead profile reporting.toAttuned smallIn transmittable nofun
  have held := reporting.holding read
  have known : (node.holding conn device read).candidates.lookup addr = some
      { state := .pending 0, prober := device } := found
  let settled : Node :=
    { node.holding conn device read with
      candidates := node.candidates.insert addr
        { state := if reachable then .validated 0 else .rejected 1, prober := device }
      validatedPublicAddrs :=
        if reachable then addNew node.validatedPublicAddrs addr
        else node.validatedPublicAddrs.filter fun other => other ≠ addr }
  have resolved : (node.holding conn device read).onDialBackRes device addr reachable (drawing []) =
      settled.publishRecord (drawing []) := by
    unfold onDialBackRes
    rw [known]
    dsimp only
    rw [if_neg (not_not.mpr rfl)]
    cases reachable with
    | true => rfl
    | false => rfl
  have answered : (node.holding conn device read).answer (drawing [])
      (.dialBackResolved device addr reachable) =
        if reachable then .validates addr device else .routine := by
    unfold answer
    dsimp only
    rw [known]
    dsimp only
    rw [if_neg (not_not.mpr rfl)]
  obtain ⟨record, last, effects, published⟩ := publishRecord_same settled (drawing [])
  rw [published] at resolved
  refine ⟨middle, { settled with ourRecord := record, lastPublish := last, effects := effects },
    read, .hears hears, ?_, deed.trans answered, ?_, counted, same.outSeq, ?_, ?_⟩
  · rw [acted, ← resolved]
    rfl
  · exact ⟨⟨held.known, held.found, held.drained⟩, held.external, held.forms, held.unlistened⟩
  · exact AList.lookup_insert _
  · intro reached
    subst reached
    exact mem_addNew.mpr (.inr rfl)

theorem exists_reporting (laws : SessionBehaviour.HandshakeLaws) {pair : Pair}
    (honest : pair.Honest) (profile : Profile) {side : Side} (options : NodeOptions)
    (conn : Connection) (unexpecting : pair.expected side = none)
    (external : (new (pair.identity side) options (drawing [])).isExternalIp ip (drawing []) = true)
    (forms : (new (pair.identity side) options (drawing [])).candidateFor ip = some addr) :
    ∃ node, Relation.ReflTransGen (Quiet profile)
        (new (pair.identity side) options (drawing [])) node ∧
      Reporting conn (pair.identity side.other).peerId ip addr (Session.new (pair.result side))
        node ∧ node.candidates = ∅ ∧ node.currentAddrs = [] ∧ node.validatedPublicAddrs = [] := by
  obtain ⟨node, middle, shakes, idles, attuned, same, -⟩ :=
    exists_attuned laws honest profile rfl options conn unexpecting
  have quiets := (quiet_of_shakes shakes).trans (quiet_of_idles idles)
  have externalIps : node.externalIps = options.externalIps := by rw [same]; rfl
  have listenPort : node.listenPort = options.listenPort := by rw [same]; rfl
  have current : node.currentAddrs = [] := by rw [same]; rfl
  have candidates : node.candidates = ∅ := by rw [same]; rfl
  have validated : node.validatedPublicAddrs = [] := by rw [same]; rfl
  refine ⟨node, quiets, ⟨attuned, ?_, ?_, ?_⟩, candidates, current, validated⟩
  · rw [← external]
    unfold isExternalIp
    rw [externalIps]
    rfl
  · rw [← forms]
    unfold candidateFor
    rw [listenPort]
    rfl
  · rw [current]
    exact List.not_mem_nil

theorem Reachable.quiet {identity : DeviceIdentity} {options : NodeOptions} {next : Node}
    (reachable : Reachable profile (fun _ _ => True) identity options node)
    (quiets : Relation.ReflTransGen (Quiet profile) node next) :
    Reachable profile (fun _ _ => True) identity options next := by
  obtain ⟨reading, run⟩ := reachable
  refine ⟨reading, run.trans ?_⟩
  refine Relation.ReflTransGen.mono ?_ _ _ quiets
  intro before after quiet
  obtain ⟨reading, action, -, acted⟩ := quiet.exists_act
  exact .act action reading trivial acted

theorem exists_validated (aead : AeadCorrect) (profile : Profile) {identity : DeviceIdentity}
    {options : NodeOptions} (reachable : Reachable profile (fun _ _ => True) identity options node)
    (reporting : Reporting conn device ip addr session node) (carriable : Outbound.Carriable addr)
    (starts : node.startsValidation addr = true) (smallIn : session.inSeq.toNat + 2 < 2 ^ 32)
    (smallOut : session.outSeq.toNat + 1 < 2 ^ 32) :
    ∃ final, Reachable profile (fun _ _ => True) identity options final ∧
      addr ∈ final.validatedPublicAddrs ∧ Adds (some addr) node final := by
  obtain ⟨middle, opened, asked, next, quiet, -, acted, deed, quiets, still, counted, -, found⟩ :=
    exists_reported aead profile reporting carriable starts (by omega) smallOut
  have room : next.inSeq.toNat + 1 < 2 ^ 32 := by
    rw [counted, toNat_succ (by omega)]
    exact smallIn
  obtain ⟨told, final, read, quiet', acted', deed', -, -, -, -, listed⟩ :=
    exists_resolved aead profile still carriable found room true
  have adds : Adds (some addr) node final := by
    obtain ⟨kept, first⟩ := adds_quiet reachable.kept quiet
    have second : Adds none middle opened := by
      refine adds_poll kept acted ?_
      intro other peer validates
      rw [deed] at validates
      cases validates
    obtain ⟨kept, third⟩ := adds_quiets (kept_act kept acted).1 quiets
    obtain ⟨kept, fourth⟩ := adds_quiet kept quiet'
    refine (((first.trans second).trans third).trans fourth).trans (adds_poll kept acted' ?_)
    intro other peer validates
    rw [deed'] at validates
    cases validates
    rfl
  obtain ⟨reading, run⟩ := reachable.quiet (.single quiet)
  have atOpened : Reachable profile (fun _ _ => True) identity options opened :=
    ⟨reading, run.tail (.act _ _ trivial acted)⟩
  obtain ⟨reading, run⟩ := (atOpened.quiet quiets).quiet (.single quiet')
  exact ⟨final, ⟨reading, run.tail (.act _ _ trivial acted')⟩, listed rfl, adds⟩

end Reports

/-! ### Bookkeeping -/

/-- In every reachable state the list of validated addresses and the states of
the candidates agree, and an address is listed only when the peer that was asked
to dial it says that it is reachable. -/
theorem candidates_kept (profile : Profile) (identity : DeviceIdentity) (options : NodeOptions)
    (node : Node) (reachable : Reachable profile (fun _ _ => True) identity options node) :
    node.validatedPublicAddrs.Nodup ∧
    (∀ addr ∈ node.validatedPublicAddrs, ∃ candidate,
      node.candidates.lookup addr = some candidate ∧
      ((∃ since, candidate.state = .validated since) ∨ ∃ since, candidate.state = .pending since)) ∧
    (∀ addr candidate since, node.candidates.lookup addr = some candidate →
      candidate.state = .validated since → addr ∈ node.validatedPublicAddrs) ∧
    (∀ addr candidate attempts, node.candidates.lookup addr = some candidate →
      candidate.state = .rejected attempts → addr ∉ node.validatedPublicAddrs) ∧
    ∀ reading action next, node.act profile reading action = some next →
      ∀ addr ∈ next.validatedPublicAddrs, addr ∉ node.validatedPublicAddrs →
        ∃ peer candidate, node.handles reading action = some (.dialBackResolved peer addr true) ∧
          node.candidates.lookup addr = some candidate ∧ candidate.prober = peer := by
  have kept := reachable.kept
  refine ⟨kept.nodup, ?_, kept.validated, ?_, ?_⟩
  · intro addr member
    obtain ⟨candidate, found, state⟩ := kept.listed addr member
    refine ⟨candidate, found, ?_⟩
    cases held : candidate.state with
    | validated since => exact .inl ⟨since, rfl⟩
    | pending since => exact .inr ⟨since, rfl⟩
    | rejected attempts => exact (state attempts held).elim
  · intro addr candidate attempts found rejected member
    obtain ⟨held, present, state⟩ := kept.listed addr member
    have same : held = candidate := Option.some.inj (present.symm.trans found)
    exact state attempts (same ▸ rejected)
  · intro reading action next acted addr member unlisted
    obtain ⟨peer, validates⟩ := (kept_act kept acted).2 addr member unlisted
    obtain ⟨handled, candidate, found, asked⟩ := handles_of_validates validates
    exact ⟨peer, candidate, handled, found, asked⟩

section Sample

open Symbolic

omit [Crates]

theorem seenAddr_external :
    letI := publicCrates
    (new ((publicPair false).identity .right) sampleOptions (drawing [])).isExternalIp
      (.v4 (fit 4 [203, 0, 113, 7])) (drawing []) = true := rfl

theorem seenAddr_forms :
    letI := publicCrates
    (new ((publicPair false).identity .right) sampleOptions (drawing [])).candidateFor
      (.v4 (fit 4 [203, 0, 113, 7])) = some seenAddr :=
  publicCrates_roundTrip seenAddr

theorem exists_validated_sample :
    letI := publicCrates
    ∃ node, Reachable .release (fun _ _ => True) ((publicPair false).identity .right) sampleOptions
        node ∧ node.currentAddrs = [] ∧ node.validatedPublicAddrs = [seenAddr] := by
  let _ := publicCrates
  obtain ⟨node, quiets, reporting, unknown, current, validated⟩ := exists_reporting publicLaws
    (publicPair_honest false) .release sampleOptions (([7] : Bytes), 1) rfl seenAddr_external
    seenAddr_forms
  have starts : node.startsValidation seenAddr = true := by
    unfold startsValidation
    rw [unknown]
    rfl
  obtain ⟨final, reachable, listed, adds⟩ := exists_validated (aeadCorrect _ _) .release
    (Reachable.quiet ⟨drawing [], .refl⟩ quiets) reporting carriable_seenAddr starts
    (by decide) (by decide)
  refine ⟨final, reachable, adds.current.trans current, ?_⟩
  have only : ∀ other ∈ final.validatedPublicAddrs, other = seenAddr := by
    intro other member
    rcases adds.validated other member with old | new
    · rw [validated] at old
      cases old
    · exact Option.some.inj new
  have nodup : final.validatedPublicAddrs.Nodup := reachable.kept.nodup
  have repeated := List.eq_replicate_of_mem only
  have long := List.length_pos_of_mem listed
  rw [repeated] at nodup
  have short := List.nodup_replicate.mp nodup
  rw [repeated, Nat.le_antisymm short long]
  rfl

/-- The sample node has a validated address. -/
theorem candidates_kept_sample :
    letI := publicCrates
    ∃ node, Reachable .release (fun _ _ => True) ((publicPair false).identity .right) sampleOptions
        node ∧ seenAddr ∈ node.validatedPublicAddrs ∧
      node.validatedPublicAddrs.Nodup := by
  let _ := publicCrates
  obtain ⟨node, reachable, -, validated⟩ := exists_validated_sample
  refine ⟨node, reachable, ?_, (candidates_kept .release _ _ node reachable).1⟩
  rw [validated]
  exact List.mem_singleton_self _

end Sample

end Node

namespace Book

variable {profile : Profile} {book next : Book}

/-! ### How often an address is tried -/

/-- A candidate is never forgotten. -/
theorem Routinely.candidates (steps : book.Routinely profile next) {addr : Multiaddr}
    (absent : next.candidates addr = none) : book.candidates addr = none := by
  have update {before : Book} {other : Multiaddr} {candidate held : Candidate}
      (found : before.candidates other = some held)
      (none : Function.update before.candidates other (some candidate) addr = none) :
      before.candidates addr = .none := by
    by_cases same : addr = other
    · subst same
      rw [Function.update_self] at none
      cases none
    · rwa [Function.update_of_ne same] at none
  induction steps with
  | refl => exact absent
  | tail _ step ih =>
      apply ih
      cases step with
      | calls moment action plain acted => exact absent
      | drops peer => exact absent
      | asks prober found => exact update found absent
      | restarts now found => exact update found absent
      | rejects found => exact update found absent

end Book

/-- A node, and how often each address has been tried since the start or since
it was last validated. -/
structure Attempted where
  node : Node
  attempts : Multiaddr → Nat

namespace Attempted

def counted (attempts : Multiaddr → Nat) : Deed → Multiaddr → Nat
  | .opens addr _ => Function.update attempts addr (attempts addr + 1)
  | .validates addr _ => Function.update attempts addr 0
  | _ => attempts

inductive Step (profile : Profile)
    (allowed : Attempted → Surroundings → NodeAction → Prop) : Attempted → Attempted → Prop
  | act {attempted : Attempted} {next : Node} (reading : Surroundings) (action : NodeAction)
      (allows : allowed attempted reading action)
      (acted : attempted.node.act profile reading action = some next) :
      Step profile allowed attempted
        { node := next
          attempts := counted attempted.attempts (attempted.node.deed reading action) }
  | rehash {attempted : Attempted} {next : Node} (rehashed : attempted.node.Rehashed next) :
      Step profile allowed attempted { attempted with node := next }

def Reachable (profile : Profile) (allowed : Attempted → Surroundings → NodeAction → Prop)
    (identity : DeviceIdentity) (options : NodeOptions) (attempted : Attempted) : Prop :=
  ∃ reading, Relation.ReflTransGen (Step profile allowed)
    { node := Node.new identity options reading, attempts := fun _ => 0 } attempted

/-- A validation is opened only for an address whose candidate, if it has one,
still knows of every attempt. -/
def Remembered (attempted : Attempted) (reading : Surroundings) (action : NodeAction) : Prop :=
  ∀ addr peer, attempted.node.deed reading action = .opens addr peer →
    ∀ candidate recorded, attempted.node.candidates.lookup addr = some candidate →
      candidate.state = .rejected recorded → attempted.attempts addr ≤ recorded

/-- The attempts are bounded, and an address that is unknown was never tried. -/
def Bounded (candidates : Multiaddr → Option Candidate) (attempts : Multiaddr → Nat) : Prop :=
  ∀ addr, attempts addr ≤ Node.maxValidationAttempts ∧
    (candidates addr = none → attempts addr = 0)

theorem bounded_of_follows {profile : Profile} {reading : Surroundings} {deed : Deed}
    {book next : Book} {attempts : Multiaddr → Nat}
    (follows : book.Follows profile reading deed next)
    (remembered : ∀ addr peer, deed = .opens addr peer →
      ∀ candidate recorded, book.candidates addr = some candidate →
        candidate.state = .rejected recorded → attempts addr ≤ recorded)
    (bounded : Bounded book.candidates attempts) :
    Bounded next.candidates (counted attempts deed) := by
  intro addr
  obtain ⟨few, unknown⟩ := bounded addr
  cases follows with
  | routine steps => exact ⟨few, fun absent => unknown (steps.candidates absent)⟩
  | probes idle => exact ⟨few, unknown⟩
  | confirms pending sent => exact ⟨few, unknown⟩
  | validates found asked =>
      rename_i other peer candidate
      dsimp only [counted, Book.setCandidate]
      by_cases same : addr = other
      · subst same
        rw [Function.update_self]
        exact ⟨Nat.zero_le _, fun _ => rfl⟩
      · rw [Function.update_of_ne same, Function.update_of_ne same]
        exact ⟨few, unknown⟩
  | opens starts steps =>
      rename_i other peer
      have still : next.candidates addr = none →
          Function.update book.candidates other _ addr = none := steps.candidates
      dsimp only [counted]
      by_cases same : addr = other
      · subst same
        rw [Function.update_self] at still ⊢
        constructor
        · cases held : book.candidates addr with
          | none =>
              rw [unknown held]
              decide
          | some candidate =>
              obtain ⟨recorded, rejected, left⟩ := starts candidate held
              have kept := remembered addr peer rfl candidate recorded held rejected
              omega
        · intro absent
          cases still absent
      · rw [Function.update_of_ne same] at still ⊢
        exact ⟨few, fun absent => unknown (still absent)⟩

section Runs

variable {profile : Profile} {allowed : Attempted → Surroundings → NodeAction → Prop}
  {node next : Node} {attempts : Multiaddr → Nat}

theorem Step.quiet
    (routine : ∀ attempted reading action, attempted.node.deed reading action = .routine →
      allowed attempted reading action)
    (quiets : Relation.ReflTransGen (Node.Quiet profile) node next) :
    Relation.ReflTransGen (Step profile allowed) { node := node, attempts := attempts }
      { node := next, attempts := attempts } := by
  induction quiets with
  | refl => exact .refl
  | @tail before after _ quiet ih =>
      obtain ⟨reading, action, silent, acted⟩ := quiet.exists_act
      have step : Step profile allowed { node := before, attempts := attempts } _ :=
        .act reading action (routine _ _ _ silent) acted
      rw [silent] at step
      exact ih.tail step

variable {conn : Connection} {device : PeerId} {ip : IpAddr} {addr : Multiaddr}

theorem exists_cycle (aead : AeadCorrect)
    (routine : ∀ attempted reading action, attempted.node.deed reading action = .routine →
      allowed attempted reading action)
    {session : Session} (reporting : Node.Reporting conn device ip addr session node)
    (carriable : Outbound.Carriable addr) (starts : node.startsValidation addr = true)
    (smallIn : session.inSeq.toNat + 2 < 2 ^ 32) (smallOut : session.outSeq.toNat + 1 < 2 ^ 32)
    (opening : ∀ middle : Node, middle.candidates.lookup addr = node.candidates.lookup addr →
      middle.deed (Node.drawing []) .poll = .opens addr device →
      allowed { node := middle, attempts := attempts } (Node.drawing []) .poll) :
    ∃ final read, Relation.ReflTransGen (Step profile allowed)
        { node := node, attempts := attempts }
        { node := final, attempts := Function.update attempts addr (attempts addr + 1) } ∧
      Node.Reporting conn device ip addr read final ∧
      read.inSeq.toNat = session.inSeq.toNat + 2 ∧ read.outSeq.toNat = session.outSeq.toNat + 1 ∧
      final.candidates.lookup addr = some { state := .rejected 1, prober := device } := by
  obtain ⟨middle, opened, asked, next, quiet, book, acted, deed, quiets, still, advanced, sealed,
    found⟩ := Node.exists_reported aead profile reporting carriable starts (by omega) smallOut
  have inNext : next.inSeq.toNat = session.inSeq.toNat + 1 := by
    rw [advanced, toNat_succ (by omega)]
  obtain ⟨told, final, read, quiet', acted', silent, last, advanced', unsealed, rejected, -⟩ :=
    Node.exists_resolved aead profile still carriable found (by omega) false
  have known : middle.candidates.lookup addr = node.candidates.lookup addr :=
    congrFun (congrArg Book.candidates book) addr
  have opens : Step profile allowed { node := middle, attempts := attempts }
      { node := opened, attempts := counted attempts (.opens addr device) } := by
    rw [← deed]
    exact .act _ _ (opening middle known deed) acted
  refine ⟨final, read, ?_, last, ?_, ?_, rejected⟩
  · apply (Step.quiet routine (.single quiet)).trans
    apply Relation.ReflTransGen.head opens
    apply (Step.quiet routine quiets).trans
    exact Step.quiet routine ((Relation.ReflTransGen.single quiet').tail
      (.idles ⟨_, silent, acted'⟩))
  · rw [advanced', toNat_succ (by omega), inNext]
  · rw [unsealed, sealed, toNat_succ (by omega)]

theorem exists_tried (aead : AeadCorrect)
    (routine : ∀ attempted reading action, attempted.node.deed reading action = .routine →
      allowed attempted reading action)
    {session : Session} (reporting : Node.Reporting conn device ip addr session node)
    (carriable : Outbound.Carriable addr) (unknown : node.candidates.lookup addr = none)
    (fresh : session.inSeq = 0 ∧ session.outSeq = 0) {total : Nat} (few : total < 2 ^ 30)
    (opening : ∀ attempted : Attempted, attempted.attempts addr < total →
      (∀ candidate recorded, attempted.node.candidates.lookup addr = some candidate →
        candidate.state = .rejected recorded → recorded = 1) →
      ∀ reading action, attempted.node.deed reading action = .opens addr device →
        allowed attempted reading action) :
    ∃ final, Relation.ReflTransGen (Step profile allowed)
      { node := node, attempts := fun _ => 0 } final ∧ final.attempts addr = total := by
  suffices run : ∀ count ≤ total, ∃ final read, Relation.ReflTransGen (Step profile allowed)
      { node := node, attempts := fun _ => 0 } final ∧ final.attempts addr = count ∧
      Node.Reporting conn device ip addr read final.node ∧ read.inSeq.toNat = 2 * count ∧
      read.outSeq.toNat = count ∧
      (∀ candidate, final.node.candidates.lookup addr = some candidate →
        candidate.state = .rejected 1) by
    obtain ⟨final, -, steps, tried, -⟩ := run total (Nat.le_refl _)
    exact ⟨final, steps, tried⟩
  intro count within
  induction count with
  | zero =>
      refine ⟨_, session, .refl, rfl, reporting, ?_, ?_, ?_⟩
      · rw [fresh.1]
        rfl
      · rw [fresh.2]
        rfl
      · intro candidate found
        rw [unknown] at found
        cases found
  | succ count ih =>
      obtain ⟨before, read, steps, tried, still, counted, sealed, rejected⟩ := ih (by omega)
      have starts : before.node.startsValidation addr = true := by
        unfold Node.startsValidation
        cases found : before.node.candidates.lookup addr with
        | none => rfl
        | some candidate =>
            dsimp only
            rw [rejected candidate found]
            decide
      have allows : ∀ middle : Node,
          middle.candidates.lookup addr = before.node.candidates.lookup addr →
          middle.deed (Node.drawing []) .poll = .opens addr device →
          allowed { node := middle, attempts := before.attempts } (Node.drawing []) .poll := by
        intro middle same opens
        refine opening _ ?_ ?_ _ _ opens
        · change before.attempts addr < total
          omega
        · intro candidate recorded found state
          rw [rejected candidate (same.symm.trans found)] at state
          exact (CandidateState.rejected.inj state).symm
      obtain ⟨final, next, cycle, last, counted', sealed', rejected'⟩ :=
        exists_cycle aead routine still carriable starts (by omega) (by omega) allows
      refine ⟨_, next, steps.trans cycle, ?_, last, by omega, by omega, ?_⟩
      · change Function.update before.attempts addr _ addr = _
        rw [Function.update_self, tried]
      · intro candidate found
        rw [rejected'] at found
        cases found
        rfl

end Runs

/-- In every run in which no report opens a validation of a candidate that has
lost count of its attempts, every address is tried at most
`MAX_VALIDATION_ATTEMPTS` times between two validations. -/
theorem attempts_bounded (profile : Profile) (identity : DeviceIdentity) (options : NodeOptions)
    (attempted : Attempted) (reachable : Reachable profile Remembered identity options attempted) :
    ∀ addr, attempted.attempts addr ≤ Node.maxValidationAttempts := by
  obtain ⟨reading, run⟩ := reachable
  have bounded : Bounded attempted.node.candidates.lookup attempted.attempts := by
    induction run with
    | refl => exact fun addr => ⟨Nat.zero_le _, fun _ => rfl⟩
    | tail _ step ih =>
        cases step with
        | act reading action remembered acted =>
            obtain ⟨session, -, follows⟩ := Node.follows_act acted
            exact bounded_of_follows follows remembered ih
        | rehash rehashed =>
            intro addr
            obtain ⟨few, unknown⟩ := ih addr
            refine ⟨few, fun absent => unknown ?_⟩
            rw [← absent]
            exact (AList.perm_lookup rehashed.candidates).symm
  exact fun addr => (bounded addr).1

section Sample

open Symbolic

omit [Crates]

theorem exists_sample {allowed : @Attempted publicCrates → @Surroundings publicCrates →
    @NodeAction publicCrates → Prop} {total : Nat}
    (few : total < 2 ^ 30) :
    letI := publicCrates
    (∀ attempted reading action, attempted.node.deed reading action = .routine →
      allowed attempted reading action) →
    (∀ attempted : Attempted, attempted.attempts seenAddr < total →
      (∀ candidate recorded, attempted.node.candidates.lookup seenAddr = some candidate →
        candidate.state = .rejected recorded → recorded = 1) →
      ∀ reading action, attempted.node.deed reading action =
          .opens seenAddr ((publicPair false).identity .left).peerId →
        allowed attempted reading action) →
    ∃ attempted, Reachable .release allowed ((publicPair false).identity .right)
        Node.sampleOptions attempted ∧ attempted.attempts seenAddr = total := by
  let _ := publicCrates
  intro routine opening
  obtain ⟨node, quiets, reporting, unknown, -, -⟩ := Node.exists_reporting publicLaws
    (publicPair_honest false) .release Node.sampleOptions (([7] : Bytes), 1) rfl
    Node.seenAddr_external Node.seenAddr_forms
  have absent : node.candidates.lookup seenAddr = none := by
    rw [unknown]
    rfl
  obtain ⟨final, steps, tried⟩ := exists_tried (aeadCorrect _ _) routine reporting
    carriable_seenAddr absent ⟨rfl, rfl⟩ few opening
  exact ⟨final, ⟨Node.drawing [], (Step.quiet routine quiets).trans steps⟩, tried⟩

/-- Two attempts, the second one with the first still on record. -/
theorem attempts_bounded_sample :
    letI := publicCrates
    ∃ attempted, Reachable .release Remembered ((publicPair false).identity .right)
        Node.sampleOptions attempted ∧ attempted.attempts seenAddr = 2 ∧
      ∀ addr, attempted.attempts addr ≤ Node.maxValidationAttempts := by
  let _ := publicCrates
  have routine (attempted : Attempted) (reading : Surroundings) (action : NodeAction)
      (silent : attempted.node.deed reading action = .routine) :
      attempted.Remembered reading action := by
    intro addr peer opens
    rw [silent] at opens
    cases opens
  have opening (attempted : Attempted) (early : attempted.attempts seenAddr < 2)
      (once : ∀ candidate recorded, attempted.node.candidates.lookup seenAddr = some candidate →
        candidate.state = .rejected recorded → recorded = 1)
      (reading : Surroundings) (action : NodeAction)
      (opened : attempted.node.deed reading action =
        .opens seenAddr ((publicPair false).identity .left).peerId) :
      attempted.Remembered reading action := by
    intro addr peer opens candidate recorded found rejected
    rw [opened] at opens
    cases opens
    rw [once candidate recorded found rejected]
    omega
  obtain ⟨attempted, reachable, tried⟩ := exists_sample (by decide) routine opening
  exact ⟨attempted, reachable, tried, attempts_bounded .release _ _ attempted reachable⟩

/-- A peer that keeps reporting an address has it tried a fourth time. -/
theorem attempts_exceeded :
    letI := publicCrates
    ∃ attempted, Reachable .release (fun _ _ _ => True) ((publicPair false).identity .right)
        Node.sampleOptions attempted ∧
      Node.maxValidationAttempts < attempted.attempts seenAddr := by
  let _ := publicCrates
  have few : 4 < 2 ^ 30 := by decide
  obtain ⟨attempted, reachable, tried⟩ := exists_sample few (fun _ _ _ _ => trivial)
    (fun _ _ _ _ _ _ => trivial)
  refine ⟨attempted, reachable, ?_⟩
  rw [tried]
  decide

end Sample

end Attempted

end JeanGrey
