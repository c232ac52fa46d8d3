/-
Two connection handlers joined by a substream.

Each end queues frames, writes what the substream accepts and reads what has
arrived, in any order and in pieces of any size.  The bytes of the frames that
are queued at one end and not yet emitted at the other lie, in order, in the
receiver's read buffer, in the substream and in the sender's write queue.  That
is the invariant; that frames are delivered exactly follows from it.
-/

import JeanGrey.HandlerReassembly
import JeanGrey.Library.Runs

namespace JeanGrey

open Framing Runs

namespace WriteAnswer

/-- An answer of a live substream: `Pending`, or at least one byte taken. -/
def Healthy : WriteAnswer → Prop
  | .pending => True
  | .error => False
  | .ready count => 0 < count

instance (answer : WriteAnswer) : Decidable answer.Healthy :=
  match answer with
  | .pending => inferInstanceAs (Decidable True)
  | .error => inferInstanceAs (Decidable False)
  | .ready count => inferInstanceAs (Decidable (0 < count))

end WriteAnswer

namespace SessionHandler

variable {Stream : Type}

/-! ### Writing -/

def unwritten (handler : SessionHandler Stream) : Bytes :=
  (match handler.writing with
    | some (buf, offset) => buf.drop offset
    | none => []) ++ handler.writeQueue.flatten

/-- Every buffer that is queued or in progress has bytes left to write. -/
structure Writable (handler : SessionHandler Stream) : Prop where
  writing : ∀ buf offset, handler.writing = some (buf, offset) → offset < buf.length
  queue : ∀ chunk ∈ handler.writeQueue, 0 < chunk.length

theorem nextWrite_spec {handler : SessionHandler Stream} {buf : Bytes} {offset : Nat}
    {queue : List Bytes} (next : handler.nextWrite = some (buf, offset, queue))
    (writable : handler.Writable) :
    offset < buf.length ∧ (∀ chunk ∈ queue, 0 < chunk.length) ∧
      handler.unwritten = buf.drop offset ++ queue.flatten := by
  unfold nextWrite at next
  split at next
  · rename_i inProgress found
    cases next
    refine ⟨writable.writing _ _ found, writable.queue, ?_⟩
    simp only [unwritten, found]
  · rename_i found
    split at next
    · cases next
    · rename_i chunk later queued
      cases next
      refine ⟨writable.queue _ (by rw [queued]; exact List.mem_cons_self), ?_, ?_⟩
      · intro other member
        exact writable.queue other (by rw [queued]; exact List.mem_cons_of_mem _ member)
      · simp only [unwritten, found, queued, List.drop_zero, List.flatten_cons, List.nil_append]

theorem unwritten_of_nextWrite_none {handler : SessionHandler Stream}
    (next : handler.nextWrite = none) : handler.unwritten = [] := by
  unfold nextWrite at next
  split at next
  · cases next
  · rename_i found
    split at next
    · rename_i queued
      simp only [unwritten, found, queued, List.flatten_nil, List.append_nil]
    · cases next

/-- What `poll_flush_writes` does on a live substream: it moves bytes from the
write queue to the substream and touches nothing else. -/
structure Flushed (handler : SessionHandler Stream)
    (result : Poll (Except IoError Bool) × SessionHandler Stream × Bytes) : Prop where
  poll : result.1 = .pending ∨
    result.1 = .ready (.ok true) ∧ (handler.substream.isSome → result.2.1.unwritten = [])
  bytes : result.2.2 ++ result.2.1.unwritten = handler.unwritten
  writable : result.2.1.Writable
  frame : result.2.1 =
    { handler with writing := result.2.1.writing, writeQueue := result.2.1.writeQueue }

private theorem started_flushed {handler : SessionHandler Stream} {buf : Bytes} {offset : Nat}
    {queue : List Bytes} (next : handler.nextWrite = some (buf, offset, queue))
    (writable : handler.Writable) :
    Flushed handler
      (.pending, { handler with writing := some (buf, offset), writeQueue := queue }, []) := by
  obtain ⟨inside, queueReady, pending⟩ := nextWrite_spec next writable
  refine ⟨.inl rfl, ?_, ⟨?_, queueReady⟩, rfl⟩
  · rw [pending]
    rfl
  · intro other start same
    cases same
    exact inside

theorem advance_spec (handler : SessionHandler Stream) {buf : Bytes} {offset : Nat}
    (count : Nat) (inside : offset < buf.length)
    (queueReady : ∀ chunk ∈ handler.writeQueue, 0 < chunk.length) :
    let taken := (buf.drop offset).take count
    let next := handler.advance buf (offset + taken.length)
    next.Writable ∧ taken ++ next.unwritten = buf.drop offset ++ handler.writeQueue.flatten ∧
      next = { handler with writing := next.writing } := by
  intro taken next
  have size : taken.length = min count (buf.length - offset) := by
    rw [List.length_take, List.length_drop]
  have joined : taken ++ buf.drop (offset + taken.length) = buf.drop offset := by
    rw [← List.drop_drop]
    have whole := List.take_append_drop taken.length (buf.drop offset)
    have front : (buf.drop offset).take taken.length = taken := by
      rw [size, ← List.length_drop, ← List.take_eq_take_min]
    rwa [front] at whole
  by_cases complete : offset + taken.length = buf.length
  · have same : next = { handler with writing := none } := if_pos complete
    rw [complete, List.drop_length, List.append_nil] at joined
    rw [same]
    refine ⟨⟨?_, queueReady⟩, ?_, rfl⟩
    · intro other start impossible
      cases impossible
    · rw [← joined]
      rfl
  · have same : next = { handler with writing := some (buf, offset + taken.length) } :=
      if_neg complete
    rw [same]
    refine ⟨⟨?_, queueReady⟩, ?_, rfl⟩
    · intro other start equal
      cases equal
      omega
    · rw [← joined, List.append_assoc]
      rfl

theorem pollFlushWrites_flushed (handler : SessionHandler Stream) (answers : List WriteAnswer)
    (healthy : ∀ answer ∈ answers, answer.Healthy) (writable : handler.Writable) :
    Flushed handler (handler.pollFlushWrites answers) := by
  fun_induction pollFlushWrites handler answers with
  | case1 handler answers absent =>
      refine ⟨.inr ⟨rfl, ?_⟩, rfl, writable, rfl⟩
      intro present
      rw [Option.isNone_iff_eq_none] at absent
      rw [absent] at present
      cases present
  | case2 handler answers present next =>
      exact ⟨.inr ⟨rfl, fun _ => unwritten_of_nextWrite_none next⟩, rfl, writable, rfl⟩
  | case3 handler present buf offset queue next started =>
      exact started_flushed next writable
  | case4 handler present buf offset queue next started later =>
      exact started_flushed next writable
  | case5 handler present buf offset queue next started later =>
      exact (healthy .error List.mem_cons_self).elim
  | case6 handler present buf offset queue next started count later taken nothing =>
      have some := healthy (.ready count) List.mem_cons_self
      have inside := (nextWrite_spec next writable).1
      rw [List.length_take, List.length_drop] at nothing
      change 0 < count at some
      omega
  | case7 handler present buf offset queue found started count later taken some next poll final
      written result ih =>
      obtain ⟨inside, queueReady, pending⟩ := nextWrite_spec found writable
      have advanced := advance_spec started count inside queueReady
      have flushed := ih (fun answer member => healthy answer (List.mem_cons_of_mem _ member))
        advanced.1
      rw [result] at flushed
      have kept : next.substream = handler.substream := by
        rw [show next = { started with writing := next.writing } from advanced.2.2]
      refine ⟨?_, ?_, flushed.writable, ?_⟩
      · rcases flushed.poll with waiting | ⟨done, drained⟩
        · exact .inl waiting
        · exact .inr ⟨done, fun live => drained (by rw [kept]; exact live)⟩
      · have moved : taken ++ next.unwritten = handler.unwritten := advanced.2.1.trans pending.symm
        rw [← moved, List.append_assoc]
        exact congrArg (taken ++ ·) flushed.bytes
      · have same := flushed.frame
        rw [show next = { started with writing := next.writing } from advanced.2.2] at same
        exact same

/-! ### Polling -/

def PollResult.frame (result : PollResult Stream) : List Frame :=
  match result.poll with
  | .ready (.notifyBehaviour (.frameReceived frame)) => [frame]
  | _ => []

structure Polled (handler : SessionHandler Stream) (reads : List ReadAnswer)
    (result : PollResult Stream) : Prop where
  bytes : result.written ++ result.handler.unwritten = handler.unwritten
  writable : result.handler.Writable
  opened : result.handler.closed = false
  substream : result.handler.substream = handler.substream
  idle : handler.substream = none → result.handler.readBuf = handler.readBuf
  unread : result.unread <:+ reads
  read : (result.frame = [] ∧
      result.handler.readBuf ++ bytesOf result.unread = handler.readBuf ++ bytesOf reads) ∨
    ∃ frame seen, result.frame = [frame] ∧ decode seen = .ok frame ∧
      seen ++ bytesOf result.unread = handler.readBuf ++ bytesOf reads ∧
      result.handler.readBuf = seen.drop (headerLen + frame.payload.length)

/-- A poll that gets as far as reading; `handler` is what flushing left of
`start`. -/
theorem pollRead_polled {start handler : SessionHandler Stream} {written : Bytes}
    {reads : List ReadAnswer} (healthy : ∀ answer ∈ reads, answer.Healthy)
    (wellFormed : ∀ seen after error, seen ++ after = start.readBuf ++ bytesOf reads →
      decode seen = .error error → error = .truncated)
    (flushed : handler =
      { start with writing := handler.writing, writeQueue := handler.writeQueue })
    (bytes : written ++ handler.unwritten = start.unwritten)
    (writable : handler.Writable) (opened : start.closed = false) :
    Polled start reads (handler.pollRead written reads) := by
  have sameBuf : handler.readBuf = start.readBuf := by rw [flushed]
  have sameStream : handler.substream = start.substream := by rw [flushed]
  have stillOpen : handler.closed = false := by rw [flushed]; exact opened
  by_cases live : handler.substream.isSome
  · obtain ⟨poll, readBuf, later, outcome, called⟩ := pollReadOnce_outcome reads live
    unfold pollRead
    rw [called]
    rw [sameBuf] at outcome
    have notIdle {buf : Bytes} : start.substream = none → buf = start.readBuf := by
      intro absent
      rw [sameStream, absent] at live
      cases live
    cases outcome with
    | frame joined suffix decoded =>
        exact ⟨bytes, ⟨writable.writing, writable.queue⟩, stillOpen, sameStream, notIdle, suffix,
          .inr ⟨_, _, rfl, decoded, joined, rfl⟩⟩
    | malformed joined decoded final => exact absurd (wellFormed _ _ _ joined decoded) final
    | waiting joined suffix used truncated =>
        exact ⟨bytes, ⟨writable.writing, writable.queue⟩, stillOpen, sameStream, notIdle, suffix,
          .inl ⟨rfl, joined⟩⟩
    | broken member => exact (healthy _ member).elim
    | ended member => exact absurd (healthy _ member).1 (Nat.lt_irrefl 0)
  · unfold pollRead
    rw [pollReadOnce_of_none reads (Option.not_isSome_iff_eq_none.mp live)]
    exact ⟨bytes, writable, stillOpen, sameStream, fun _ => sameBuf, List.suffix_refl _,
      .inl ⟨rfl, by rw [sameBuf]⟩⟩

theorem poll_polled {handler : SessionHandler Stream} {writes : List WriteAnswer}
    {reads : List ReadAnswer} (healthyWrites : ∀ answer ∈ writes, answer.Healthy)
    (healthyReads : ∀ answer ∈ reads, answer.Healthy)
    (wellFormed : ∀ seen after error, seen ++ after = handler.readBuf ++ bytesOf reads →
      decode seen = .error error → error = .truncated)
    (writable : handler.Writable) (opened : handler.closed = false) :
    Polled handler reads (handler.poll writes reads) := by
  unfold poll
  rw [if_neg (by rw [opened]; exact Bool.false_ne_true)]
  split
  · exact ⟨rfl, ⟨writable.writing, writable.queue⟩, opened, rfl, fun _ => rfl, List.suffix_refl _,
      .inl ⟨rfl, rfl⟩⟩
  · split
    · exact ⟨rfl, ⟨writable.writing, writable.queue⟩, opened, rfl, fun _ => rfl, List.suffix_refl _,
        .inl ⟨rfl, rfl⟩⟩
    · split
      · have flushed := pollFlushWrites_flushed handler writes healthyWrites writable
        generalize handler.pollFlushWrites writes = result at flushed ⊢
        obtain ⟨poll, next, written⟩ := result
        rcases flushed.poll with waiting | ⟨done, drained⟩
        · cases waiting
          have kept : next =
              { handler with writing := next.writing, writeQueue := next.writeQueue } :=
            flushed.frame
          have sameClosed : next.closed = handler.closed := by rw [kept]
          have sameStream : next.substream = handler.substream := by rw [kept]
          have sameBuf : next.readBuf = handler.readBuf := by rw [kept]
          exact ⟨flushed.bytes, flushed.writable, sameClosed.trans opened, sameStream,
            fun _ => sameBuf, List.suffix_refl _, .inl ⟨rfl, congrArg (· ++ bytesOf reads) sameBuf⟩⟩
        · cases done
          exact pollRead_polled healthyReads wellFormed flushed.frame flushed.bytes
            flushed.writable opened
      · exact pollRead_polled healthyReads wellFormed rfl rfl writable opened

/-! ### Progress -/

theorem pollFlushWrites_of_ready {handler : SessionHandler Stream} {buf : Bytes} {offset : Nat}
    {queue : List Bytes} {count : Nat} (live : handler.substream.isNone = false)
    (next : handler.nextWrite = some (buf, offset, queue))
    (some : ¬((buf.drop offset).take count).length = 0) (later : List WriteAnswer) :
    let started := { handler with writing := Option.some (buf, offset), writeQueue := queue }
    let taken := (buf.drop offset).take count
    (handler.pollFlushWrites (.ready count :: later)).1 =
      ((started.advance buf (offset + taken.length)).pollFlushWrites later).1 := by
  intro started taken
  rw [pollFlushWrites]
  simp only [live, Bool.false_eq_true, if_false, next, if_neg some]
  rfl

theorem exists_flushing (handler : SessionHandler Stream) (writable : handler.Writable) :
    ∃ answers : List WriteAnswer, (∀ answer ∈ answers, answer.Healthy) ∧
      (handler.pollFlushWrites answers).1 = .ready (.ok true) := by
  induction size : handler.unwritten.length using Nat.strong_induction_on generalizing handler with
  | _ size ih =>
      by_cases absent : handler.substream.isNone = true
      · refine ⟨[], List.forall_mem_nil _, ?_⟩
        rw [pollFlushWrites, if_pos absent]
      · cases next : handler.nextWrite with
        | none =>
            refine ⟨[], List.forall_mem_nil _, ?_⟩
            rw [pollFlushWrites, if_neg absent, next]
        | some found =>
            obtain ⟨buf, offset, queue⟩ := found
            obtain ⟨inside, queueReady, pending⟩ := nextWrite_spec next writable
            have some : ¬((buf.drop offset).take buf.length).length = 0 := by
              rw [List.length_take, List.length_drop]
              omega
            have advanced := advance_spec
              { handler with writing := Option.some (buf, offset), writeQueue := queue }
              buf.length inside queueReady
            have moved := congrArg List.length (advanced.2.1.trans pending.symm)
            rw [List.length_append] at moved
            obtain ⟨answers, healthy, flushed⟩ := ih _ (by omega) _ advanced.1 rfl
            refine ⟨.ready buf.length :: answers, ?_, ?_⟩
            · intro answer member
              rcases List.mem_cons.mp member with same | inLater
              · rw [same]
                change 0 < buf.length
                omega
              · exact healthy answer inLater
            · rw [pollFlushWrites_of_ready (Bool.eq_false_iff.mpr absent) next some]
              exact flushed

theorem pollRead_of_decode {handler : SessionHandler Stream} {frame : Frame} (written : Bytes)
    (reads : List ReadAnswer) (live : handler.substream.isSome)
    (decoded : decode handler.readBuf = .ok frame) :
    handler.pollRead written reads =
      { poll := .ready (.notifyBehaviour (.frameReceived frame))
        handler :=
          { handler with readBuf := handler.readBuf.drop (headerLen + frame.payload.length) }
        written := written
        unread := reads } := by
  obtain ⟨stream, present⟩ := Option.isSome_iff_exists.mp live
  have read : readLoop handler.readBuf reads =
      (.ready (.ok (some frame)),
        handler.readBuf.drop (headerLen + frame.payload.length), reads) := by
    unfold readLoop
    rw [decoded]
  simp only [pollRead, pollReadOnce, present, Option.isNone_some, Bool.false_eq_true, if_false,
    read]

theorem poll_of_announcing {handler : SessionHandler Stream} (opened : handler.closed = false)
    (announcing : handler.pendingReady = true) (live : handler.substream.isSome)
    (writes : List WriteAnswer) (reads : List ReadAnswer) :
    handler.poll writes reads =
      { poll := .ready (.notifyBehaviour .substreamReady)
        handler := { handler with pendingReady := false }
        written := []
        unread := reads } := by
  obtain ⟨stream, present⟩ := Option.isSome_iff_exists.mp live
  simp only [poll, opened, announcing, present, Option.isNone_some, Bool.and_false,
    Bool.false_eq_true, if_false, if_true]

/-- A buffered frame is emitted by the next poll that can write what is queued. -/
theorem exists_emitting_poll {handler : SessionHandler Stream} {frame : Frame}
    (writable : handler.Writable) (opened : handler.closed = false)
    (announced : handler.pendingReady = false) (live : handler.substream.isSome)
    (decoded : decode handler.readBuf = .ok frame) :
    ∃ writes : List WriteAnswer, (∀ answer ∈ writes, answer.Healthy) ∧
      (handler.poll writes []).frame = [frame] ∧
      (handler.poll writes []).handler.pendingReady = false := by
  obtain ⟨stream, present⟩ := Option.isSome_iff_exists.mp live
  obtain ⟨writes, healthy, done⟩ := exists_flushing handler writable
  refine ⟨writes, healthy, ?_⟩
  simp only [poll, opened, announced, present, Option.isNone_some, Bool.and_false,
    Bool.false_eq_true, if_false]
  split
  · have flushed := pollFlushWrites_flushed handler writes healthy writable
    generalize handler.pollFlushWrites writes = result at done flushed
    obtain ⟨answer, next, written⟩ := result
    cases done
    have kept : next =
        { handler with writing := next.writing, writeQueue := next.writeQueue } := flushed.frame
    have nextLive : next.substream.isSome := by
      rw [kept]
      exact live
    have nextDecoded : decode next.readBuf = .ok frame := by
      rw [kept]
      exact decoded
    simp only [pollRead_of_decode written [] nextLive nextDecoded]
    refine ⟨rfl, ?_⟩
    rw [kept]
    exact announced
  · rw [pollRead_of_decode [] [] live decoded]
    exact ⟨rfl, announced⟩

end SessionHandler

/-! ### The link -/

/-- One end of the substream: its handler, the bytes on their way to it, the
frames queued there so far and the frames its handler has emitted. -/
structure LinkEnd (Stream : Type) where
  handler : SessionHandler Stream
  inbound : Bytes
  queued : List Frame
  emitted : List Frame

abbrev Link (Stream : Type) := Side → LinkEnd Stream

inductive LinkAction (Stream : Type) where
  /-- The substream is negotiated at one end. -/
  | negotiated (side : Side) (stream : Stream)
  | queue (side : Side) (frames : List Frame)
  | poll (side : Side) (writes : List WriteAnswer) (reads : List ReadAnswer)

/-- What is promised of the environment: valid frames and a live substream. -/
def LinkAction.Allowed {Stream : Type} : LinkAction Stream → Prop
  | .negotiated _ _ => True
  | .queue _ frames => ∀ frame ∈ frames, frame.Valid
  | .poll _ writes reads =>
      (∀ answer ∈ writes, answer.Healthy) ∧ ∀ answer ∈ reads, answer.Healthy

namespace Link

variable {Stream : Type}

def new (initiator : Side → Bool) : Link Stream := fun side =>
  { handler := .new (initiator side), inbound := [], queued := [], emitted := [] }

/-- The two ends after `side` acts; the other end is told only what was written. -/
def set (link : Link Stream) (side : Side) (here : LinkEnd Stream) (written : Bytes) :
    Link Stream := fun other =>
  if other = side then here else { link other with inbound := (link other).inbound ++ written }

/-- A poll may only read bytes that have arrived. -/
def step (link : Link Stream) : LinkAction Stream → Option (Link Stream)
  | .negotiated side stream =>
      let here := link side
      let event := SessionHandler.ConnectionEvent.fullyNegotiatedInbound stream
      some (link.set side { here with handler := here.handler.onConnectionEvent event } [])
  | .queue side frames =>
      let here := link side
      some (link.set side
        { here with
          handler := here.handler.onBehaviourEvent frames
          queued := here.queued ++ frames } [])
  | .poll side writes reads =>
      let here := link side
      if bytesOf reads <+: here.inbound then
        let result := here.handler.poll writes reads
        let used := (bytesOf reads).length - (bytesOf result.unread).length
        some (link.set side
          { here with
            handler := result.handler
            inbound := here.inbound.drop used
            emitted := here.emitted ++ result.frame } result.written)
      else none

/-- An end never fails and only ever writes valid frames. -/
structure Sound (here : LinkEnd Stream) : Prop where
  queued : ∀ frame ∈ here.queued, frame.Valid
  writable : here.handler.Writable
  opened : here.handler.closed = false
  reading : here.handler.substream = none → here.handler.readBuf = []

/-- The frames still to be emitted are the bytes still to be decoded. -/
def Carries (sender receiver : LinkEnd Stream) : Prop :=
  ∃ rest, sender.queued = receiver.emitted ++ rest ∧
    rest.flatMap encode =
      receiver.handler.readBuf ++ receiver.inbound ++ sender.handler.unwritten

structure Invariant (link : Link Stream) : Prop where
  sound : ∀ side, Sound (link side)
  carries : ∀ side, Carries (link side) (link side.other)

theorem new_invariant (initiator : Side → Bool) : Invariant (new initiator : Link Stream) := by
  refine ⟨fun side => ⟨?_, ⟨?_, ?_⟩, rfl, fun _ => rfl⟩, fun side => ⟨[], rfl, rfl⟩⟩
  · intro frame member
    cases member
  · intro buf offset impossible
    cases impossible
  · intro chunk member
    cases member

/-- Bytes at the front of a stream of valid frames are incomplete or hold the
first of them. -/
theorem decode_of_carried {rest : List Frame} {seen after : Bytes}
    (valid : ∀ frame ∈ rest, frame.Valid) (joined : rest.flatMap encode = seen ++ after) :
    decode seen = .error .truncated ∨
      ∃ frame later, rest = frame :: later ∧ decode seen = .ok frame ∧
        later.flatMap encode = seen.drop (headerLen + frame.payload.length) ++ after := by
  by_cases truncated : decode seen = .error .truncated
  · exact .inl truncated
  · right
    cases rest with
    | nil =>
        have empty : seen = [] := (List.append_eq_nil_iff.mp joined.symm).1
        rw [empty] at truncated
        exact absurd rfl truncated
    | cons frame later =>
        have whole := decode_encode_append frame (valid frame List.mem_cons_self)
          (later.flatMap encode)
        rw [← List.flatMap_cons, joined, decode_append after truncated] at whole
        refine ⟨frame, later, rfl, whole, ?_⟩
        have size := size_of_decode_ok whole
        rw [← List.drop_append_of_le_length size, ← joined, List.flatMap_cons,
          ← length_encode, List.drop_left]

theorem set_invariant {link : Link Stream} {side : Side} {here : LinkEnd Stream} {written : Bytes}
    (invariant : Invariant link) (sound : Sound here)
    (outward : Carries here
      { link side.other with inbound := (link side.other).inbound ++ written })
    (inward : Carries (link side.other) here) : Invariant (link.set side here written) := by
  have there := invariant.sound side.other
  cases side with
  | left =>
      refine ⟨fun other => ?_, fun other => ?_⟩
      · cases other with
        | left => exact sound
        | right => exact ⟨there.queued, there.writable, there.opened, there.reading⟩
      · cases other with
        | left => exact outward
        | right => exact inward
  | right =>
      refine ⟨fun other => ?_, fun other => ?_⟩
      · cases other with
        | left => exact ⟨there.queued, there.writable, there.opened, there.reading⟩
        | right => exact sound
      · cases other with
        | left => exact inward
        | right => exact outward

theorem Invariant.carries_to {link : Link Stream} (invariant : Invariant link) (side : Side) :
    Carries (link side.other) (link side) := by
  have inward := invariant.carries side.other
  rwa [Side.other_other] at inward

theorem negotiated_invariant {link : Link Stream} (invariant : Invariant link) (side : Side)
    (stream : Stream) :
    Invariant (link.set side
      { link side with
        handler :=
          (link side).handler.onConnectionEvent (.fullyNegotiatedInbound stream) } []) := by
  have here := invariant.sound side
  have kept : ∃ substream pendingReady,
      (link side).handler.onConnectionEvent (.fullyNegotiatedInbound stream) =
        { (link side).handler with substream := substream, pendingReady := pendingReady } ∧
      substream ≠ none := by
    change ∃ substream pendingReady, (link side).handler.setSubstream stream = _ ∧ _
    unfold SessionHandler.setSubstream
    split
    · rename_i present
      refine ⟨_, _, rfl, ?_⟩
      intro absent
      rw [absent] at present
      cases present
    · exact ⟨_, _, rfl, Option.some_ne_none _⟩
  obtain ⟨substream, pendingReady, same, present⟩ := kept
  rw [same]
  refine set_invariant invariant ⟨here.queued, ⟨here.writable.writing, here.writable.queue⟩,
    here.opened, fun absent => absurd absent present⟩ ?_ (invariant.carries_to side)
  simp only [List.append_nil]
  exact invariant.carries side

theorem queue_invariant {link : Link Stream} (invariant : Invariant link) (side : Side)
    {frames : List Frame} (valid : ∀ frame ∈ frames, frame.Valid) :
    Invariant (link.set side
      { link side with
        handler := (link side).handler.onBehaviourEvent frames
        queued := (link side).queued ++ frames } []) := by
  have here := invariant.sound side
  refine set_invariant invariant ⟨?_, ⟨here.writable.writing, ?_⟩, here.opened,
    here.reading⟩ ?_ (invariant.carries_to side)
  · intro frame member
    rcases List.mem_append.mp member with before | added
    · exact here.queued frame before
    · exact valid frame added
  · intro chunk member
    rcases List.mem_append.mp member with before | added
    · exact here.writable.queue chunk before
    · obtain ⟨frame, -, rfl⟩ := List.mem_map.mp added
      rw [length_encode]
      have positive : 0 < headerLen := by decide
      omega
  · obtain ⟨rest, split, bytes⟩ := invariant.carries side
    refine ⟨rest ++ frames, ?_, ?_⟩
    · change (link side).queued ++ frames = _
      rw [split, List.append_assoc]
    · rw [List.flatMap_append, bytes, List.append_nil]
      simp only [SessionHandler.unwritten, SessionHandler.onBehaviourEvent, List.flatten_append,
        List.append_assoc, List.flatMap_def]

theorem Invariant.arriving {link : Link Stream} (invariant : Invariant link) (side : Side)
    {arrived : Bytes} (front : arrived <+: (link side).inbound) :
    ∃ rest onWay, arrived ++ onWay = (link side).inbound ∧ (∀ frame ∈ rest, frame.Valid) ∧
      (link side.other).queued = (link side).emitted ++ rest ∧
      rest.flatMap encode = (link side).handler.readBuf ++ (arrived ++ onWay) ++
        (link side.other).handler.unwritten := by
  obtain ⟨rest, split, bytes⟩ := invariant.carries_to side
  obtain ⟨onWay, inbound⟩ := front
  refine ⟨rest, onWay, inbound, ?_, split, ?_⟩
  · intro frame member
    have queued := (invariant.sound side.other).queued frame
    rw [split] at queued
    exact queued (List.mem_append_right _ member)
  · rw [inbound]
    exact bytes

theorem Invariant.polled {link : Link Stream} (invariant : Invariant link) (side : Side)
    {writes : List WriteAnswer} {reads : List ReadAnswer}
    (healthyWrites : ∀ answer ∈ writes, answer.Healthy)
    (healthyReads : ∀ answer ∈ reads, answer.Healthy)
    (arrived : bytesOf reads <+: (link side).inbound) :
    SessionHandler.Polled (link side).handler reads ((link side).handler.poll writes reads) := by
  have here := invariant.sound side
  obtain ⟨rest, onWay, inbound, valid, split, bytes⟩ := invariant.arriving side arrived
  have wellFormed : ∀ seen after error,
      seen ++ after = (link side).handler.readBuf ++ bytesOf reads →
      decode seen = .error error → error = .truncated := by
    intro seen after error joined failed
    have front : rest.flatMap encode =
        seen ++ (after ++ (onWay ++ (link side.other).handler.unwritten)) := by
      rw [bytes, ← List.append_assoc seen after, joined]
      simp only [List.append_assoc]
    rcases decode_of_carried valid front with truncated | ⟨frame, later, -, decoded, -⟩
    · rw [failed] at truncated
      cases truncated
      rfl
    · rw [failed] at decoded
      cases decoded
  exact SessionHandler.poll_polled healthyWrites healthyReads wellFormed here.writable here.opened

theorem poll_invariant {link : Link Stream} (invariant : Invariant link) (side : Side)
    {writes : List WriteAnswer} {reads : List ReadAnswer}
    (healthyWrites : ∀ answer ∈ writes, answer.Healthy)
    (healthyReads : ∀ answer ∈ reads, answer.Healthy)
    (arrived : bytesOf reads <+: (link side).inbound) :
    let result := (link side).handler.poll writes reads
    let used := (bytesOf reads).length - (bytesOf result.unread).length
    Invariant (link.set side
      { link side with
        handler := result.handler
        inbound := (link side).inbound.drop used
        emitted := (link side).emitted ++ result.frame } result.written) := by
  intro result used
  have here := invariant.sound side
  have polled : SessionHandler.Polled (link side).handler reads result :=
    invariant.polled side healthyWrites healthyReads arrived
  obtain ⟨rest, onWay, inbound, valid, split, bytes⟩ := invariant.arriving side arrived
  have remaining : (link side).inbound.drop used = bytesOf result.unread ++ onWay := by
    obtain ⟨consumed, whole⟩ := polled.unread
    have bytesWhole : bytesOf reads = bytesOf consumed ++ bytesOf result.unread := by
      rw [← whole]
      exact List.flatMap_append
    have count : used = (bytesOf consumed).length := by
      change (bytesOf reads).length - (bytesOf result.unread).length = _
      rw [bytesWhole, List.length_append]
      omega
    rw [← inbound, bytesWhole, count, List.append_assoc, List.drop_left]
  have reading : result.handler.substream = none → result.handler.readBuf = [] := by
    intro absent
    rw [polled.substream] at absent
    rw [polled.idle absent]
    exact here.reading absent
  refine set_invariant invariant ⟨here.queued, polled.writable, polled.opened, reading⟩ ?_ ?_
  · obtain ⟨pending, outSplit, outBytes⟩ := invariant.carries side
    refine ⟨pending, outSplit, ?_⟩
    rw [outBytes, ← polled.bytes]
    simp only [List.append_assoc]
  · rcases polled.read with ⟨quiet, joined⟩ | ⟨frame, seen, emits, decoded, joined, left⟩
    · refine ⟨rest, ?_, ?_⟩
      · simp only [quiet, List.append_nil]
        exact split
      · simp only [remaining]
        rw [bytes, ← List.append_assoc _ (bytesOf result.unread), joined]
        simp only [List.append_assoc]
    · have front : rest.flatMap encode =
          seen ++ (bytesOf result.unread ++ (onWay ++ (link side.other).handler.unwritten)) := by
        rw [bytes, ← List.append_assoc seen, joined]
        simp only [List.append_assoc]
      rcases decode_of_carried valid front with truncated | ⟨first, later, same, found, after⟩
      · rw [decoded] at truncated
        cases truncated
      · rw [decoded] at found
        cases found
        refine ⟨later, ?_, ?_⟩
        · simp only [emits, List.append_assoc, List.singleton_append]
          rw [split, same]
        · simp only [remaining, left]
          rw [after]
          simp only [List.append_assoc]

theorem step_invariant (link : Link Stream) (action : LinkAction Stream) (next : Link Stream)
    (allowed : action.Allowed) (invariant : Invariant link)
    (stepped : link.step action = some next) : Invariant next := by
  cases action with
  | negotiated side stream =>
      cases stepped
      exact negotiated_invariant invariant side stream
  | queue side frames =>
      cases stepped
      exact queue_invariant invariant side allowed
  | poll side writes reads =>
      simp only [step] at stepped
      split at stepped
      · rename_i arrived
        cases stepped
        exact poll_invariant invariant side allowed.1 allowed.2 arrived
      · cases stepped

/-! ### What the link delivers -/

theorem set_here (link : Link Stream) (side : Side) (here : LinkEnd Stream) (written : Bytes) :
    link.set side here written side = here := if_pos rfl

theorem set_other (link : Link Stream) (side : Side) (here : LinkEnd Stream) (written : Bytes) :
    link.set side here written side.other =
      { link side.other with inbound := (link side.other).inbound ++ written } := by
  cases side <;> rfl

theorem step_poll {link : Link Stream} {side : Side} (writes : List WriteAnswer)
    {reads : List ReadAnswer} (arrived : bytesOf reads <+: (link side).inbound) :
    let result := (link side).handler.poll writes reads
    let used := (bytesOf reads).length - (bytesOf result.unread).length
    link.step (.poll side writes reads) =
      some (link.set side
        { link side with
          handler := result.handler
          inbound := (link side).inbound.drop used
          emitted := (link side).emitted ++ result.frame } result.written) := by
  intro result used
  simp only [step, if_pos arrived, result, used]

/-- With all bytes written and read, the read buffer starts with the next frame. -/
theorem decode_of_arrived {link : Link Stream} {side : Side} {frame : Frame} {later : List Frame}
    (invariant : Invariant link) (read : (link side).inbound = [])
    (written : (link side.other).handler.unwritten = [])
    (split : (link side.other).queued = (link side).emitted ++ frame :: later) :
    decode (link side).handler.readBuf = .ok frame ∧
      (link side).handler.substream.isSome := by
  obtain ⟨found, sameSplit, bytes⟩ := invariant.carries_to side
  have sameRest : frame :: later = found := List.append_cancel_left (split.symm.trans sameSplit)
  have valid : frame.Valid := by
    refine (invariant.sound side.other).queued frame ?_
    rw [split]
    exact List.mem_append_right _ List.mem_cons_self
  have decoded : decode (link side).handler.readBuf = .ok frame := by
    rw [read, written, List.append_nil, List.append_nil, ← sameRest, List.flatMap_cons] at bytes
    rw [← bytes]
    exact decode_encode_append frame valid _
  refine ⟨decoded, ?_⟩
  by_contra absent
  have empty := (invariant.sound side).reading (Option.not_isSome_iff_eq_none.mp absent)
  rw [empty] at decoded
  cases decoded

/-- When everything has been written and read, one poll for each buffered frame
emits the rest. -/
theorem exists_draining (side : Side) (rest : List Frame) {link : Link Stream}
    (invariant : Invariant link) (announced : (link side).handler.pendingReady = false)
    (read : (link side).inbound = []) (written : (link side.other).handler.unwritten = [])
    (split : (link side.other).queued = (link side).emitted ++ rest) :
    ∃ (polls : List (List WriteAnswer)) (final : Link Stream),
      polls.length = rest.length ∧ (∀ writes ∈ polls, ∀ answer ∈ writes, answer.Healthy) ∧
      run step link (polls.map fun writes => .poll side writes []) = some final ∧
      (final side).emitted = (link side.other).queued := by
  induction rest generalizing link with
  | nil =>
      refine ⟨[], link, rfl, List.forall_mem_nil _, rfl, ?_⟩
      rw [split, List.append_nil]
  | cons frame later ih =>
      have here := invariant.sound side
      obtain ⟨decoded, live⟩ := decode_of_arrived invariant read written split
      obtain ⟨writes, healthy, emits, stillAnnounced⟩ :=
        SessionHandler.exists_emitting_poll here.writable here.opened announced live decoded
      have stepped : ∃ next, link.step (.poll side writes []) = some next ∧
          next side =
            { link side with
              handler := ((link side).handler.poll writes []).handler
              inbound := []
              emitted := (link side).emitted ++ [frame] } ∧
          next side.other =
            { link side.other with
              inbound := (link side.other).inbound ++
                ((link side).handler.poll writes []).written } := by
        refine ⟨_, step_poll writes List.nil_prefix, ?_, set_other _ _ _ _⟩
        rw [set_here, emits, read, List.drop_nil]
      obtain ⟨next, stepped, nextHere, nextThere⟩ := stepped
      have nextInvariant := step_invariant link (.poll side writes []) next
        ⟨healthy, List.forall_mem_nil _⟩ invariant stepped
      obtain ⟨polls, final, count, healthyPolls, reached, emitted⟩ :=
        ih nextInvariant (by rw [nextHere]; exact stillAnnounced) (by rw [nextHere])
          (by rw [nextThere]; exact written)
          (by rw [nextThere, nextHere, List.append_assoc]; exact split)
      refine ⟨writes :: polls, final, congrArg (· + 1) count, ?_, ?_, ?_⟩
      · intro other member
        rcases List.mem_cons.mp member with same | inLater
        · rw [same]
          exact healthy
        · exact healthyPolls other inLater
      · rw [List.map_cons, run_cons_of_step stepped]
        exact reached
      · rw [emitted, nextThere]

theorem exists_announcing {link : Link Stream} {side : Side}
    (opened : (link side).handler.closed = false)
    (announcing : (link side).handler.pendingReady = true)
    (live : (link side).handler.substream.isSome) (read : (link side).inbound = []) :
    ∃ next, link.step (.poll side [] []) = some next ∧
      next side =
        { link side with handler := { (link side).handler with pendingReady := false } } ∧
      next side.other = link side.other := by
  have polled := SessionHandler.poll_of_announcing opened announcing live [] []
  refine ⟨_, step_poll [] List.nil_prefix, ?_, ?_⟩
  · rw [set_here, polled, read, List.drop_nil]
    simp only [SessionHandler.PollResult.frame, List.append_nil, ← read]
  · rw [set_other, polled, List.append_nil]

/-- The byte stream carries the frame list exactly.  In every state of every
run the frames emitted at an end are a prefix of those queued at the other.
Once all bytes are written and have been read, what is missing is in the read
buffer: nothing, if it holds no complete frame, and otherwise one more poll for
each frame (and one for `SubstreamReady`, if that is still to be reported)
emits it. -/
theorem frames_carried_exactly (initiator : Side → Bool) (actions : List (LinkAction Stream))
    (link : Link Stream) (allowed : ∀ action ∈ actions, action.Allowed)
    (reached : run step (new initiator) actions = some link) (side : Side) :
    (link side).emitted <+: (link side.other).queued ∧
      ((link side.other).handler.unwritten = [] → (link side).inbound = [] →
        (decode (link side).handler.readBuf = .error .truncated →
          (link side).emitted = (link side.other).queued) ∧
        ∃ (polls : List (List WriteAnswer)) (final : Link Stream),
          polls.length ≤ (link side.other).queued.length - (link side).emitted.length + 1 ∧
          (∀ writes ∈ polls, ∀ answer ∈ writes, answer.Healthy) ∧
          run step link (polls.map fun writes => .poll side writes []) = some final ∧
          (final side).emitted = (link side.other).queued) := by
  have invariant := run_invariant step_invariant (new_invariant initiator) allowed reached
  obtain ⟨rest, split, bytes⟩ := invariant.carries_to side
  refine ⟨⟨rest, split.symm⟩, ?_⟩
  intro written read
  have missing : (link side.other).queued.length - (link side).emitted.length = rest.length := by
    rw [split, List.length_append]
    omega
  rw [missing]
  cases rest with
  | nil =>
      rw [List.append_nil] at split
      exact ⟨fun _ => split.symm, [], link, Nat.zero_le _, List.forall_mem_nil _, rfl, split.symm⟩
  | cons frame later =>
      obtain ⟨decoded, live⟩ := decode_of_arrived invariant read written split
      refine ⟨?_, ?_⟩
      · intro truncated
        rw [decoded] at truncated
        cases truncated
      · cases announced : (link side).handler.pendingReady with
        | false =>
            obtain ⟨polls, final, count, healthy, run, emitted⟩ :=
              exists_draining side (frame :: later) invariant announced read written split
            exact ⟨polls, final, by omega, healthy, run, emitted⟩
        | true =>
            obtain ⟨next, stepped, nextHere, nextThere⟩ :=
              exists_announcing (invariant.sound side).opened announced live read
            have nextInvariant := step_invariant link (.poll side [] []) next
              ⟨List.forall_mem_nil _, List.forall_mem_nil _⟩ invariant stepped
            obtain ⟨polls, final, count, healthy, run, emitted⟩ :=
              exists_draining side (frame :: later) nextInvariant (by rw [nextHere])
                (by rw [nextHere]; exact read) (by rw [nextThere]; exact written)
                (by rw [nextThere, nextHere]; exact split)
            refine ⟨[] :: polls, final, ?_, ?_, ?_, ?_⟩
            · rw [List.length_cons, count]
            · intro writes member
              rcases List.mem_cons.mp member with same | inLater
              · rw [same]
                exact List.forall_mem_nil _
              · exact healthy writes inLater
            · rw [List.map_cons, run_cons_of_step stepped]
              exact run
            · rw [emitted, nextThere]

def readyRun : List (LinkAction Unit) :=
  let bytes := encode (.handshake .ready [])
  [.negotiated .left (), .negotiated .right (), .queue .left [.handshake .ready []],
    .poll .left [] [], .poll .right [] [], .poll .left [.ready 5, .ready 100] [],
    .poll .right [] [.ready (bytes.take 30), .pending], .poll .right [] [.ready (bytes.drop 30)]]

theorem frames_carried_exactly_ready :
    ∃ link, run step (new fun _ => false) readyRun = some link ∧
      (link .right).emitted = [.handshake .ready []] ∧
      (link .right).emitted <+: (link .left).queued := by
  have valid : (Frame.handshake .ready []).Valid := ⟨rfl, Nat.zero_le _, rfl, rfl, rfl⟩
  have allowed : ∀ action ∈ readyRun, action.Allowed := by
    simp only [readyRun, List.forall_mem_cons, LinkAction.Allowed]
    exact ⟨trivial, trivial, ⟨valid, List.forall_mem_nil _⟩, by decide, by decide, by decide,
      by decide, by decide, List.forall_mem_nil _⟩
  have emitted : (run step (new fun _ => false) readyRun).map (fun link => (link .right).emitted) =
      some [.handshake .ready []] := by decide +kernel
  obtain ⟨link, reached, same⟩ := Option.map_eq_some_iff.mp emitted
  exact ⟨link, reached, same, (frames_carried_exactly _ readyRun link allowed reached .right).1⟩

end Link

end JeanGrey
