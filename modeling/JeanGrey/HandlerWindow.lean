/-
Two connection handlers joined by a substream with a window.

The substream holds at most `capacity` bytes in each direction.  It answers
`Pending` to a write only when that direction is full, and to a read only when
nothing has arrived.  A handler that cannot write does not read, so two handlers
that fill both directions wait for each other for ever.
-/

import JeanGrey.HandlerLink
import Mathlib.Logic.Relation

namespace JeanGrey

open Framing Runs

namespace SessionHandler

variable {Stream : Type} {handler : SessionHandler Stream}

structure Joined (handler : SessionHandler Stream) : Prop where
  opened : handler.closed = false
  live : handler.substream.isSome
  announced : handler.pendingReady = false

/-! ### What a poll writes -/

theorem pollFlushWrites_of_nextWrite_none (writes : List WriteAnswer)
    (next : handler.nextWrite = none) :
    handler.pollFlushWrites writes = (.ready (.ok true), handler, []) := by
  rw [pollFlushWrites, next]
  split
  · rfl
  · rfl

theorem nextWrite_of_unwritten_nil (writable : handler.Writable)
    (written : handler.unwritten = []) :
    handler.nextWrite = none := by
  cases next : handler.nextWrite with
  | none => rfl
  | some found =>
      obtain ⟨buf, offset, queue⟩ := found
      obtain ⟨inside, -, bytes⟩ := nextWrite_spec next writable
      rw [bytes] at written
      have empty := congrArg List.length (List.append_eq_nil_iff.mp written).1
      rw [List.length_drop, List.length_nil] at empty
      omega

theorem poll_of_joined (joined : handler.Joined) (writes : List WriteAnswer)
    (reads : List ReadAnswer) :
    handler.poll writes reads =
      match handler.pollFlushWrites writes with
      | (.ready (.ok _), next, written) => next.pollRead written reads
      | (.ready (.error _), next, written) =>
          { poll := .ready (.notifyBehaviour .streamClosed)
            handler := next.close
            written := written
            unread := reads }
      | (.pending, next, written) =>
          { poll := .pending, handler := next, written := written, unread := reads } := by
  obtain ⟨stream, present⟩ := Option.isSome_iff_exists.mp joined.live
  simp only [poll, joined.opened, joined.announced, present, Option.isNone_some, Bool.and_false,
    Bool.false_eq_true, if_false]
  split
  · rfl
  · rename_i nothing
    have next : handler.nextWrite = none := by
      unfold nextWrite
      simp only [Bool.or_eq_true, not_or, Bool.not_eq_true', Bool.not_eq_false,
        List.isEmpty_iff, Option.not_isSome_iff_eq_none] at nothing
      rw [nothing.1, nothing.2]
    rw [pollFlushWrites_of_nextWrite_none writes next]

theorem pollRead_written (handler : SessionHandler Stream) (written : Bytes)
    (reads : List ReadAnswer) : (handler.pollRead written reads).written = written := by
  unfold pollRead
  split
  all_goals rfl

theorem poll_written (handler : SessionHandler Stream) (writes : List WriteAnswer)
    (reads : List ReadAnswer) :
    (handler.poll writes reads).written = [] ∨
      (handler.poll writes reads).written = (handler.pollFlushWrites writes).2.2 := by
  unfold poll
  split
  · exact .inl rfl
  split
  · exact .inl rfl
  split
  · exact .inl rfl
  split
  · generalize handler.pollFlushWrites writes = result
    obtain ⟨poll, next, written⟩ := result
    right
    dsimp only
    split
    · rename_i same
      cases same
      exact pollRead_written _ _ _
    · rename_i same
      cases same
      rfl
    · rename_i same
      cases same
      rfl
  · exact .inl (pollRead_written _ _ _)

def ones (room : Nat) : List WriteAnswer := List.replicate room (.ready 1)

theorem healthy_ones (room : Nat) : ∀ answer ∈ ones room, answer.Healthy := by
  intro answer member
  rw [(List.mem_replicate.mp member).2]
  exact Nat.one_pos

theorem pollFlushWrites_ones (room : Nat) {handler : SessionHandler Stream}
    (live : handler.substream.isNone = false) (writable : handler.Writable) :
    (handler.pollFlushWrites (ones room)).2.2.length ≤ room ∧
      ((handler.pollFlushWrites (ones room)).1 = .pending →
        (handler.pollFlushWrites (ones room)).2.2.length = room) := by
  induction room generalizing handler with
  | zero =>
      cases next : handler.nextWrite with
      | none =>
          rw [pollFlushWrites_of_nextWrite_none _ next]
          exact ⟨Nat.le_refl _, fun _ => rfl⟩
      | some found =>
          obtain ⟨buf, offset, queue⟩ := found
          have blocked : handler.pollFlushWrites (ones 0) =
              (.pending,
                { handler with writing := some (buf, offset), writeQueue := queue }, []) := by
            rw [ones, List.replicate_zero, pollFlushWrites, live, next]
            rfl
          rw [blocked]
          exact ⟨Nat.le_refl _, fun _ => rfl⟩
  | succ room ih =>
      cases next : handler.nextWrite with
      | none =>
          rw [pollFlushWrites_of_nextWrite_none _ next]
          refine ⟨Nat.zero_le _, ?_⟩
          intro impossible
          cases impossible
      | some found =>
          obtain ⟨buf, offset, queue⟩ := found
          obtain ⟨inside, queueReady, -⟩ := nextWrite_spec next writable
          let started := { handler with writing := Option.some (buf, offset), writeQueue := queue }
          have size : ((buf.drop offset).take 1).length = 1 := by
            rw [List.length_take, List.length_drop]
            omega
          have some : ¬((buf.drop offset).take 1).length = 0 := by
            rw [size]
            exact Nat.one_ne_zero
          have advanced := advance_spec started 1 inside queueReady
          let rest := started.advance buf (offset + ((buf.drop offset).take 1).length)
          have stillLive : rest.substream.isNone = false := by
            rw [show rest = { started with writing := rest.writing } from advanced.2.2]
            exact live
          have taken : handler.pollFlushWrites (ones (room + 1)) =
              ((rest.pollFlushWrites (ones room)).1, (rest.pollFlushWrites (ones room)).2.1,
                (buf.drop offset).take 1 ++ (rest.pollFlushWrites (ones room)).2.2) := by
            rw [ones, List.replicate_succ, pollFlushWrites, live, next]
            simp only [Bool.false_eq_true, if_false, if_neg some]
            rfl
          obtain ⟨within, filled⟩ := ih stillLive advanced.1
          rw [taken]
          dsimp only
          rw [List.length_append, size]
          refine ⟨by omega, ?_⟩
          intro waiting
          rw [filled waiting]
          exact Nat.add_comm 1 room

theorem unwritten_of_pending (writes : List WriteAnswer) (writable : handler.Writable)
    (waiting : (handler.pollFlushWrites writes).1 = .pending) : handler.unwritten ≠ [] := by
  intro written
  rw [pollFlushWrites_of_nextWrite_none writes (nextWrite_of_unwritten_nil writable written)]
    at waiting
  cases waiting

/-! ### What a poll reads -/

theorem eq_of_bytesOf_suffix {reads later : List ReadAnswer} (suffix : later <:+ reads)
    (healthy : ∀ answer ∈ reads, answer.Healthy) (prompt : .pending ∉ reads)
    (same : bytesOf later = bytesOf reads) : later = reads := by
  obtain ⟨used, rfl⟩ := suffix
  cases used with
  | nil => rfl
  | cons answer others =>
      have positive : 0 < answer.bytes.length := by
        cases answer with
        | pending => exact (prompt List.mem_cons_self).elim
        | error => exact (healthy _ List.mem_cons_self).elim
        | ready bytes => exact (healthy _ List.mem_cons_self).1
      have sizes := congrArg List.length same
      unfold bytesOf at sizes
      rw [List.cons_append, List.flatMap_cons, List.flatMap_append, List.length_append,
        List.length_append] at sizes
      omega

theorem pollRead_idle {written : Bytes} {reads : List ReadAnswer} (live : handler.substream.isSome)
    (healthy : ∀ answer ∈ reads, answer.Healthy) (prompt : .pending ∉ reads)
    (waiting : (handler.pollRead written reads).poll = .pending)
    (unread : bytesOf (handler.pollRead written reads).unread = bytesOf reads) :
    reads = [] ∧ decode handler.readBuf = .error .truncated := by
  obtain ⟨poll, readBuf, later, outcome, called⟩ := pollReadOnce_outcome reads live
  unfold pollRead at waiting unread
  rw [called] at waiting unread
  cases outcome with
  | frame joined suffix decoded => cases waiting
  | malformed joined decoded final => cases waiting
  | broken member => exact (healthy _ member).elim
  | ended member => exact absurd (healthy _ member).1 (Nat.lt_irrefl 0)
  | waiting joined suffix used truncated =>
      have same : later = reads := eq_of_bytesOf_suffix suffix healthy prompt unread
      have nothing := used same
      subst same
      rw [nothing, bytesOf_nil, List.append_nil, List.append_nil] at joined
      rw [← joined]
      exact ⟨nothing, truncated⟩

end SessionHandler

namespace Link

variable {Stream : Type} {capacity : Nat} {link next : Link Stream} {side : Side}
  {writes : List WriteAnswer} {reads : List ReadAnswer}

/-! ### The window -/

/-- The answers of a substream with a window: everything that has arrived can be
read, what is written fits, and a write waits only when the window is full. -/
structure Honest (capacity : Nat) (link : Link Stream) (side : Side) (writes : List WriteAnswer)
    (reads : List ReadAnswer) : Prop where
  healthy : ∀ answer ∈ writes, answer.Healthy
  arrived : Splits reads (link side).inbound
  prompt : .pending ∉ reads
  fits : (link side.other).inbound.length +
    ((link side).handler.pollFlushWrites writes).2.2.length ≤ capacity
  full : ((link side).handler.pollFlushWrites writes).1 = .pending →
    (link side.other).inbound.length +
      ((link side).handler.pollFlushWrites writes).2.2.length = capacity

def Step (capacity : Nat) (link next : Link Stream) : Prop :=
  ∃ side writes reads, Honest capacity link side writes reads ∧
    link.step (.poll side writes reads) = some next

/-- A poll that writes nothing, reads nothing and reports nothing. -/
def Ineffective (link : Link Stream) (side : Side) (writes : List WriteAnswer)
    (reads : List ReadAnswer) : Prop :=
  let result := (link side).handler.poll writes reads
  result.poll = .pending ∧ result.written = [] ∧ bytesOf result.unread = bytesOf reads

def Remains (link : Link Stream) : Prop :=
  ∃ side, (link side).handler.unwritten ≠ [] ∨ (link side).inbound ≠ [] ∨
    (link side).handler.readBuf ≠ []

/-- Bytes remain, and neither handler can do anything about it. -/
def Stuck (capacity : Nat) (link : Link Stream) : Prop :=
  link.Remains ∧ ∀ side writes reads, Honest capacity link side writes reads →
    Ineffective link side writes reads

def start (initiator : Side → Bool) (stream : Side → Stream) (frames : Side → List Frame) :
    Link Stream := fun side =>
  { handler := ((SessionHandler.new (initiator side)).onConnectionEvent
      (.fullyNegotiatedInbound (stream side))).onBehaviourEvent (frames side)
    inbound := []
    queued := frames side
    emitted := [] }

def volume (frames : Side → List Frame) (side : Side) : Nat := ((frames side).flatMap encode).length

structure Flowing (capacity : Nat) (frames : Side → List Frame) (link : Link Stream) : Prop where
  invariant : Invariant link
  queued : ∀ side, (link side).queued = frames side
  live : ∀ side, (link side).handler.substream.isSome
  window : ∀ side, (link side).inbound.length ≤ capacity

theorem start_unwritten (initiator : Side → Bool) (stream : Side → Stream)
    (frames : Side → List Frame) (side : Side) :
    (start initiator stream frames side).handler.unwritten = (frames side).flatMap encode := by
  rw [List.flatMap_def]
  rfl

theorem start_flowing (capacity : Nat) (initiator : Side → Bool) (stream : Side → Stream)
    {frames : Side → List Frame} (valid : ∀ side, ∀ frame ∈ frames side, frame.Valid) :
    Flowing capacity frames (start initiator stream frames) := by
  refine ⟨⟨fun side => ⟨valid side, ⟨nofun, ?_⟩, rfl, nofun⟩, ?_⟩, fun _ => rfl, fun _ => rfl,
    fun _ => Nat.zero_le _⟩
  · intro chunk member
    obtain ⟨frame, -, rfl⟩ := List.mem_map.mp member
    rw [length_encode]
    have positive : 0 < headerLen := by decide
    omega
  · intro side
    refine ⟨frames side, rfl, ?_⟩
    rw [start_unwritten]
    rfl

namespace Honest

variable (honest : Honest capacity link side writes reads)

include honest

theorem prefix_arrived : bytesOf reads <+: (link side).inbound := by
  rw [honest.arrived.bytes]

theorem written : (link side.other).inbound.length +
    ((link side).handler.poll writes reads).written.length ≤ capacity := by
  have fits := honest.fits
  rcases (link side).handler.poll_written writes reads with nothing | flushed
  · rw [nothing, List.length_nil]
    omega
  · rw [flushed]
    exact fits

end Honest

theorem Flowing.step {frames : Side → List Frame} (flowing : Flowing capacity frames link)
    (step : Step capacity link next) : Flowing capacity frames next := by
  obtain ⟨side, writes, reads, honest, stepped⟩ := step
  have invariant := step_invariant link (.poll side writes reads) next
    ⟨honest.healthy, honest.arrived.healthy⟩ flowing.invariant stepped
  have polled := flowing.invariant.polled side honest.healthy honest.arrived.healthy
    honest.prefix_arrived
  rw [step_poll writes honest.prefix_arrived] at stepped
  cases stepped
  refine ⟨invariant, ?_, ?_, ?_⟩
  · intro other
    unfold set
    split
    · rename_i same
      rw [same]
      exact flowing.queued side
    · exact flowing.queued other
  · intro other
    unfold set
    split
    · dsimp only
      rw [polled.substream]
      exact flowing.live side
    · exact flowing.live other
  · intro other
    unfold set
    split
    · dsimp only
      rw [List.length_drop]
      have before := flowing.window side
      omega
    · rename_i different
      have opposite : other = side.other := by
        cases other <;> cases side <;> first | rfl | exact (different rfl).elim
      subst opposite
      dsimp only
      rw [List.length_append]
      exact honest.written

theorem Flowing.reachable {frames : Side → List Frame} {initial : Link Stream}
    (flowing : Flowing capacity frames initial)
    (reachable : Relation.ReflTransGen (Step capacity) initial link) :
    Flowing capacity frames link := by
  induction reachable with
  | refl => exact flowing
  | tail _ step ih => exact ih.step step

/-! ### A poll that does what it can -/

def singles (bytes : Bytes) : List ReadAnswer := bytes.map fun byte => .ready [byte]

theorem bytesOf_singles (bytes : Bytes) : bytesOf (singles bytes) = bytes := by
  induction bytes with
  | nil => rfl
  | cons byte later ih =>
      change [byte] ++ bytesOf (singles later) = byte :: later
      rw [ih]
      rfl

theorem splits_singles (bytes : Bytes) : Splits (singles bytes) bytes := by
  refine ⟨?_, bytesOf_singles bytes⟩
  intro answer member
  obtain ⟨byte, -, rfl⟩ := List.mem_map.mp member
  change 0 < 1 ∧ 1 ≤ readChunk
  decide

def room (capacity : Nat) (link : Link Stream) (side : Side) : Nat :=
  capacity - (link side.other).inbound.length

theorem Flowing.honest {frames : Side → List Frame} (flowing : Flowing capacity frames link)
    (side : Side) :
    Honest capacity link side (SessionHandler.ones (room capacity link side))
      (singles (link side).inbound) := by
  have live : (link side).handler.substream.isNone = false := by
    rw [Option.isNone_eq_false_iff]
    exact flowing.live side
  have window := flowing.window side.other
  obtain ⟨within, filled⟩ := SessionHandler.pollFlushWrites_ones (room capacity link side) live
    (flowing.invariant.sound side).writable
  unfold room at within filled ⊢
  refine ⟨SessionHandler.healthy_ones _, splits_singles _, ?_, by omega, ?_⟩
  · intro member
    obtain ⟨byte, -, impossible⟩ := List.mem_map.mp member
    cases impossible
  · intro waiting
    rw [filled waiting]
    omega

/-- Why a poll does nothing: the window is full, or there is nothing to do. -/
theorem Flowing.ineffective {frames : Side → List Frame} (flowing : Flowing capacity frames link)
    (honest : Honest capacity link side writes reads)
    (ineffective : Ineffective link side writes reads) :
    ((link side.other).inbound.length = capacity ∧ (link side).handler.unwritten ≠ []) ∨
      ((link side).handler.unwritten = [] ∧ (link side).inbound = [] ∧
        decode (link side).handler.readBuf = .error .truncated) := by
  obtain ⟨waiting, unwritten, unread⟩ := ineffective
  have sound := flowing.invariant.sound side
  have live := flowing.live side
  have announced : (link side).handler.pendingReady = false := by
    by_contra announcing
    rw [SessionHandler.poll_of_announcing sound.opened (Bool.not_eq_false _ ▸ announcing) live]
      at waiting
    cases waiting
  rw [SessionHandler.poll_of_joined ⟨sound.opened, live, announced⟩] at waiting unwritten unread
  have flushed := SessionHandler.pollFlushWrites_flushed (link side).handler writes honest.healthy
    sound.writable
  have full := honest.full
  have left := SessionHandler.unwritten_of_pending writes sound.writable
  generalize (link side).handler.pollFlushWrites writes = result
    at waiting unwritten unread flushed full left
  obtain ⟨poll, next, written⟩ := result
  rcases flushed.poll with blocked | ⟨done, drained⟩
  · cases blocked
    have nothing : written = [] := unwritten
    subst nothing
    exact .inl ⟨full rfl, left rfl⟩
  · cases done
    have kept : next = { (link side).handler with
        writing := next.writing, writeQueue := next.writeQueue } := flushed.frame
    have nothing : written = [] := by
      rw [← next.pollRead_written written reads]
      exact unwritten
    have empty : (link side).handler.unwritten = [] := by
      have bytes : written ++ next.unwritten = (link side).handler.unwritten := flushed.bytes
      rw [← bytes, nothing, show next.unwritten = [] from drained live]
      rfl
    have nextLive : next.substream.isSome := by
      rw [kept]
      exact live
    obtain ⟨unanswered, truncated⟩ := SessionHandler.pollRead_idle nextLive honest.arrived.healthy
      honest.prompt waiting unread
    refine .inr ⟨empty, ?_, ?_⟩
    · rw [← honest.arrived.bytes, unanswered]
      rfl
    · rw [kept] at truncated
      exact truncated

/-! ### No deadlock -/

theorem Flowing.carried {frames : Side → List Frame} (flowing : Flowing capacity frames link)
    (side : Side) :
    (link side.other).inbound.length + (link side).handler.unwritten.length ≤
    volume frames side := by
  obtain ⟨rest, split, bytes⟩ := flowing.invariant.carries side
  unfold volume
  rw [← flowing.queued side, split, List.flatMap_append, bytes]
  simp only [List.length_append]
  omega

theorem Flowing.readBuf_nil {frames : Side → List Frame} (flowing : Flowing capacity frames link)
    (side : Side) (read : (link side).inbound = [])
    (written : (link side.other).handler.unwritten = [])
    (truncated : decode (link side).handler.readBuf = .error .truncated) :
    (link side).handler.readBuf = [] := by
  obtain ⟨rest, split, bytes⟩ := flowing.invariant.carries_to side
  cases rest with
  | nil => exact (List.append_eq_nil_iff.mp (List.append_eq_nil_iff.mp bytes.symm).1).1
  | cons frame later =>
      have decoded := (decode_of_arrived flowing.invariant read written split).1
      rw [truncated] at decoded
      cases decoded

/-- When what one side has to send fits the window, the link is never stuck. -/
theorem Flowing.not_stuck {frames : Side → List Frame} (flowing : Flowing capacity frames link)
    (positive : 1 ≤ capacity) (fits : volume frames side ≤ capacity) : ¬Stuck capacity link := by
  rintro ⟨remains, stalled⟩
  have carried := flowing.carried side
  rcases flowing.ineffective (flowing.honest side) (stalled side _ _ (flowing.honest side)) with
    ⟨full, unwritten⟩ | ⟨written, read, truncated⟩
  · have some := List.length_pos_iff.mpr unwritten
    omega
  rcases flowing.ineffective (flowing.honest side.other)
      (stalled side.other _ _ (flowing.honest side.other)) with
    ⟨full, -⟩ | ⟨writtenThere, readThere, truncatedThere⟩
  · rw [Side.other_other, read, List.length_nil] at full
    omega
  have buffered := flowing.readBuf_nil side read writtenThere truncated
  have bufferedThere := flowing.readBuf_nil side.other readThere
    (by rw [Side.other_other]; exact written) truncatedThere
  obtain ⟨other, left⟩ := remains
  have same : other = side ∨ other = side.other := by
    cases other <;> cases side <;> first | exact .inl rfl | exact .inr rfl
  rcases same with rfl | rfl
  · exact left.elim (· written) (·.elim (· read) (· buffered))
  · exact left.elim (· writtenThere) (·.elim (· readThere) (· bufferedThere))

/-! ### Deadlock -/

/-- Both windows are full, and both handlers have more to write. -/
structure Blocked (capacity : Nat) (link : Link Stream) : Prop where
  joined : ∀ side, (link side).handler.Joined
  writable : ∀ side, (link side).handler.Writable
  unwritten : ∀ side, (link side).handler.unwritten ≠ []
  full : ∀ side, (link side).inbound.length = capacity

theorem Blocked.stuck (blocked : Blocked capacity link) : Stuck capacity link := by
  refine ⟨⟨.left, .inl (blocked.unwritten .left)⟩, ?_⟩
  intro side writes reads honest
  have fits := honest.fits
  have flushed := SessionHandler.pollFlushWrites_flushed (link side).handler writes honest.healthy
    (blocked.writable side)
  unfold Ineffective
  rw [SessionHandler.poll_of_joined (blocked.joined side)]
  rw [blocked.full side.other] at fits
  generalize (link side).handler.pollFlushWrites writes = result at fits flushed
  obtain ⟨poll, next, written⟩ := result
  have nothing : written = [] := by
    apply List.eq_nil_of_length_eq_zero
    dsimp only at fits
    omega
  subst nothing
  rcases flushed.poll with waiting | ⟨done, drained⟩
  · cases waiting
    exact ⟨rfl, rfl, rfl⟩
  · have bytes : next.unwritten = (link side).handler.unwritten := flushed.bytes
    rw [show next.unwritten = [] from drained (blocked.joined side).live] at bytes
    exact (blocked.unwritten side bytes.symm).elim

theorem Flowing.exists_announced {frames : Side → List Frame}
    (flowing : Flowing capacity frames link) (side : Side)
    (announcing : (link side).handler.pendingReady = true) :
    ∃ next, Step capacity link next ∧
      next side =
        { link side with handler := { (link side).handler with pendingReady := false } } ∧
      next side.other = link side.other := by
  have honest := flowing.honest side
  have polled := SessionHandler.poll_of_announcing (flowing.invariant.sound side).opened announcing
    (flowing.live side) (SessionHandler.ones (room capacity link side))
    (singles (link side).inbound)
  refine ⟨_, ⟨side, _, _, honest, step_poll _ honest.prefix_arrived⟩, ?_, ?_⟩
  · rw [set_here, polled]
    simp only [SessionHandler.PollResult.frame, List.append_nil, Nat.sub_self, List.drop_zero]
  · rw [set_other, polled, List.append_nil]

theorem Flowing.exists_filled {frames : Side → List Frame} (flowing : Flowing capacity frames link)
    (side : Side) (announced : (link side).handler.pendingReady = false)
    (more : room capacity link side < (link side).handler.unwritten.length) :
    ∃ next, Step capacity link next ∧ (next side).handler.unwritten ≠ [] ∧
      (next side).handler.pendingReady = false ∧ (next side).inbound = (link side).inbound ∧
      (next side.other).handler = (link side.other).handler ∧
      (next side.other).inbound.length = capacity := by
  have honest := flowing.honest side
  have sound := flowing.invariant.sound side
  have live := flowing.live side
  have fits := honest.fits
  have full := honest.full
  have window := flowing.window side.other
  have flushed := SessionHandler.pollFlushWrites_flushed (link side).handler _ honest.healthy
    sound.writable
  have polled := SessionHandler.poll_of_joined ⟨sound.opened, live, announced⟩
    (SessionHandler.ones (room capacity link side)) (singles (link side).inbound)
  generalize (link side).handler.pollFlushWrites (SessionHandler.ones (room capacity link side)) =
    result at fits full flushed polled
  obtain ⟨poll, after, written⟩ := result
  have bytes : written.length + after.unwritten.length = (link side).handler.unwritten.length := by
    rw [← List.length_append]
    exact congrArg List.length flushed.bytes
  unfold room at more
  dsimp only at fits full
  have left : after.unwritten ≠ [] := by
    intro nothing
    rw [nothing, List.length_nil] at bytes
    omega
  rcases flushed.poll with waiting | ⟨done, drained⟩
  · cases waiting
    have kept : after = { (link side).handler with
        writing := after.writing, writeQueue := after.writeQueue } := flushed.frame
    refine ⟨_, ⟨side, _, _, honest, step_poll _ honest.prefix_arrived⟩, ?_⟩
    rw [set_here, set_other, polled]
    refine ⟨left, ?_, ?_, rfl, ?_⟩
    · dsimp only
      rw [kept]
      exact announced
    · dsimp only
      rw [Nat.sub_self, List.drop_zero]
    · dsimp only
      rw [List.length_append]
      exact full rfl
  · exact (left (drained live)).elim

/-- When neither side's frames fit the window, both handlers fill it. -/
theorem exists_blocked (initiator : Side → Bool) (stream : Side → Stream)
    {frames : Side → List Frame} (valid : ∀ side, ∀ frame ∈ frames side, frame.Valid)
    (larger : ∀ side, capacity < volume frames side) :
    ∃ link, Relation.ReflTransGen (Step capacity) (start initiator stream frames) link ∧
      Blocked capacity link := by
  have flowing := start_flowing capacity initiator stream valid
  obtain ⟨first, announceLeft, firstLeft, firstRight⟩ := flowing.exists_announced .left rfl
  have flowingFirst := flowing.step announceLeft
  obtain ⟨second, announceRight, secondRight, secondLeft⟩ :=
    flowingFirst.exists_announced .right (by rw [show first .right = _ from firstRight]; rfl)
  have flowingSecond := flowingFirst.step announceRight
  have left : second .left = _ := secondLeft.trans firstLeft
  have right : second .right = { start initiator stream frames .right with
      handler :=
        { (start initiator stream frames .right).handler with pendingReady := false } } := by
    rw [secondRight, show first .right = _ from firstRight]
    rfl
  have unwritten (side : Side) : SessionHandler.unwritten
      { (start initiator stream frames side).handler with pendingReady := false } =
        (frames side).flatMap encode := start_unwritten initiator stream frames side
  obtain ⟨third, fillLeft, leftRemains, leftAnnounced, leftInbound, rightHandler, rightFull⟩ :=
    flowingSecond.exists_filled .left (by rw [left]) (by
      rw [left, unwritten]
      exact Nat.lt_of_le_of_lt (Nat.sub_le _ _) (larger .left))
  have flowingThird := flowingSecond.step fillLeft
  have handler : (third .right).handler = _ := rightHandler.trans (congrArg LinkEnd.handler right)
  obtain ⟨fourth, fillRight, rightRemains, rightAnnounced, rightInbound, leftHandler, leftFull⟩ :=
    flowingThird.exists_filled .right (by rw [handler]) (by
      rw [handler, unwritten]
      exact Nat.lt_of_le_of_lt (Nat.sub_le _ _) (larger .right))
  have flowingFourth := flowingThird.step fillRight
  refine ⟨fourth, (((Relation.ReflTransGen.single announceLeft).tail announceRight).tail
    fillLeft).tail fillRight, ?_, ?_, ?_, ?_⟩
  · intro side
    refine ⟨(flowingFourth.invariant.sound side).opened, flowingFourth.live side, ?_⟩
    cases side with
    | left =>
        rw [show (fourth .left).handler = _ from leftHandler]
        exact leftAnnounced
    | right => exact rightAnnounced
  · exact fun side => (flowingFourth.invariant.sound side).writable
  · intro side
    cases side with
    | left =>
        rw [show (fourth .left).handler = _ from leftHandler]
        exact leftRemains
    | right => exact rightRemains
  · intro side
    cases side with
    | left => exact leftFull
    | right =>
        rw [rightInbound]
        exact rightFull

/-- Two handlers joined by a substream with a window never wait for each other
exactly when the frames of one of them fit the window. -/
theorem never_stuck_iff (initiator : Side → Bool) (stream : Side → Stream)
    (frames : Side → List Frame) (valid : ∀ side, ∀ frame ∈ frames side, frame.Valid)
    (capacity : Nat) (positive : 1 ≤ capacity) :
    (∀ link, Relation.ReflTransGen (Step capacity) (start initiator stream frames) link →
      ¬Stuck capacity link) ↔ ∃ side, volume frames side ≤ capacity := by
  constructor
  · intro never
    by_contra larger
    push Not at larger
    obtain ⟨link, reachable, blocked⟩ := exists_blocked initiator stream valid larger
    exact never link reachable blocked.stuck
  · rintro ⟨side, fits⟩ link reachable
    exact ((start_flowing capacity initiator stream valid).reachable reachable).not_stuck positive
      fits

/-- One side has a frame to send, the other has none. -/
theorem never_stuck_iff_ready :
    ¬∃ link, Relation.ReflTransGen (Step 1) (start (fun _ => false) (fun _ => ())
      fun | .left => [.handshake .ready []] | .right => []) link ∧ Stuck 1 link := by
  rintro ⟨link, reachable, stuck⟩
  refine (never_stuck_iff _ _ _ ?_ 1 (Nat.le_refl 1)).mpr ⟨.right, Nat.zero_le _⟩ link reachable
    stuck
  intro side frame member
  cases side with
  | left =>
      cases List.mem_singleton.mp member
      exact ⟨rfl, Nat.zero_le _, rfl, rfl, rfl⟩
  | right => cases member

/-- Both sides have a frame to send, and the window holds one byte. -/
theorem stuck_ready :
    ∃ link, Relation.ReflTransGen (Step 1) (start (fun _ => false) (fun _ => ())
      fun _ => [.handshake .ready []]) link ∧ Stuck 1 link := by
  have valid : ∀ side : Side, ∀ frame ∈ [Frame.handshake .ready []], frame.Valid := by
    intro side frame member
    cases List.mem_singleton.mp member
    exact ⟨rfl, Nat.zero_le _, rfl, rfl, rfl⟩
  have larger : ∀ side : Side, 1 < volume (fun _ => [.handshake .ready []]) side := by
    intro side
    change 1 < (encode (.handshake .ready []) ++ []).length
    rw [List.append_nil, length_encode]
    decide
  obtain ⟨link, reachable, blocked⟩ := exists_blocked (fun _ => false) (fun _ => ()) valid larger
  exact ⟨link, reachable, blocked.stuck⟩

end Link

end JeanGrey
