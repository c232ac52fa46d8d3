/-
Reassembly of a hostile byte stream by `poll_read_once`.

Whatever bytes arrive and however they are cut into reads, repeated calls emit
the frames of the whole stream and stop at the same place.  The decoder's
answers are final (`decode_append`), so the reader is an instance of the
general statement about decoding in pieces; the bound on the read buffer comes
from what `truncated` says about the buffered length.
-/

import JeanGrey.Handler

namespace JeanGrey

open Framing Reassembly

namespace ReadAnswer

def bytes : ReadAnswer → Bytes
  | .ready bytes => bytes
  | _ => []

/-- An answer of a live substream: `Pending`, or between one byte and a full
read buffer. -/
def Healthy : ReadAnswer → Prop
  | .pending => True
  | .error => False
  | .ready bytes => 0 < bytes.length ∧ bytes.length ≤ readChunk

instance (answer : ReadAnswer) : Decidable answer.Healthy :=
  match answer with
  | .pending => inferInstanceAs (Decidable True)
  | .error => inferInstanceAs (Decidable False)
  | .ready bytes => inferInstanceAs (Decidable (0 < bytes.length ∧ bytes.length ≤ readChunk))

end ReadAnswer

def bytesOf (answers : List ReadAnswer) : Bytes := answers.flatMap ReadAnswer.bytes

@[simp] theorem bytesOf_nil : bytesOf [] = [] := rfl

/-- `answers` delivers exactly `stream`, in reads of 1 to 4096 bytes. -/
structure Splits (answers : List ReadAnswer) (stream : Bytes) : Prop where
  healthy : ∀ answer ∈ answers, answer.Healthy
  bytes : bytesOf answers = stream

namespace SessionHandler

variable {Stream : Type}

/-! ### One call -/

/-- How a call to `poll_read_once` ends.  `stream` is what was buffered
followed by what the answers deliver; `seen` is the read buffer at the last
`decode`, and `later` are the answers left over. -/
inductive ReadOutcome (stream : Bytes) (answers : List ReadAnswer) :
    Poll (Except IoError (Option Frame)) × Bytes × List ReadAnswer → Prop where
  | frame {seen : Bytes} {frame : Frame} {later : List ReadAnswer} :
      seen ++ bytesOf later = stream → later <:+ answers → decode seen = .ok frame →
      ReadOutcome stream answers
        (.ready (.ok (some frame)), seen.drop (headerLen + frame.payload.length), later)
  | malformed {seen : Bytes} {error : FrameError} {later : List ReadAnswer} :
      seen ++ bytesOf later = stream → decode seen = .error error → error ≠ .truncated →
      ReadOutcome stream answers (.ready (.error (.malformedFrame error)), seen, later)
  | waiting {seen : Bytes} {later : List ReadAnswer} :
      seen ++ bytesOf later = stream → later <:+ answers → (later = answers → answers = []) →
      decode seen = .error .truncated →
      ReadOutcome stream answers (.pending, seen, later)
  | broken {seen : Bytes} {later : List ReadAnswer} :
      ReadAnswer.error ∈ answers →
      ReadOutcome stream answers (.ready (.error .stream), seen, later)
  | ended {seen : Bytes} {later : List ReadAnswer} :
      ReadAnswer.ready [] ∈ answers →
      ReadOutcome stream answers (.ready (.ok none), seen, later)

theorem ReadOutcome.cons {stream : Bytes} {answers : List ReadAnswer}
    {result : Poll (Except IoError (Option Frame)) × Bytes × List ReadAnswer}
    (outcome : ReadOutcome stream answers result) (answer : ReadAnswer) :
    ReadOutcome stream (answer :: answers) result := by
  cases outcome with
  | frame joined left decoded => exact .frame joined (left.trans (List.suffix_cons _ _)) decoded
  | malformed joined decoded final => exact .malformed joined decoded final
  | waiting joined left used truncated =>
      refine .waiting joined (left.trans (List.suffix_cons _ _)) ?_ truncated
      intro same
      have shorter := left.length_le
      rw [same, List.length_cons] at shorter
      omega
  | broken member => exact .broken (List.mem_cons_of_mem _ member)
  | ended member => exact .ended (List.mem_cons_of_mem _ member)

/-- The size limit is never exceeded while a frame is incomplete. -/
theorem not_exceeded_of_truncated {readBuf : Bytes}
    (truncated : decode readBuf = .error .truncated) : ¬readBuf.length > maxReadBuffer := by
  have bounded := length_of_decode_truncated truncated
  unfold maxReadBuffer
  omega

/-- What a call does, for every buffer and every behaviour of the substream.
The branch "read buffer exceeds frame size limit" has no case: it is dead. -/
theorem readLoop_outcome (readBuf : Bytes) (answers : List ReadAnswer) :
    ReadOutcome (readBuf ++ bytesOf answers) answers (readLoop readBuf answers) := by
  fun_induction readLoop readBuf answers with
  | case1 readBuf answers frame decoded => exact .frame rfl (List.suffix_refl _) decoded
  | case2 readBuf answers truncated exceeded =>
      exact absurd exceeded (not_exceeded_of_truncated truncated)
  | case3 readBuf truncated within =>
      exact .waiting rfl (List.suffix_refl _) (fun same => same) truncated
  | case4 readBuf truncated within later =>
      refine .waiting rfl (List.suffix_cons _ _) ?_ truncated
      intro same
      exact absurd same.symm (List.cons_ne_self _ _)
  | case5 readBuf truncated within later => exact .broken List.mem_cons_self
  | case6 readBuf truncated within later => exact .ended List.mem_cons_self
  | case7 readBuf truncated within byte bytes later ih =>
      rw [List.append_assoc] at ih
      exact ih.cons _
  | case8 readBuf answers error notTruncated decoded =>
      exact .malformed rfl decoded (fun same => notTruncated same)

theorem readLoop_never_exceeds (readBuf : Bytes) (answers : List ReadAnswer) :
    (readLoop readBuf answers).1 ≠ .ready (.error .readBufferExceeded) := by
  have outcome := readLoop_outcome readBuf answers
  intro exceeded
  generalize readLoop readBuf answers = result at outcome exceeded
  cases outcome <;> cases exceeded

/-- The values `read_buf` takes during one call, at each turn of its loop. -/
def readBufs (readBuf : Bytes) (answers : List ReadAnswer) : List Bytes :=
  match decode readBuf, answers with
  | .error .truncated, .ready (byte :: bytes) :: later =>
      if readBuf.length > maxReadBuffer then [readBuf]
      else readBuf :: readBufs (readBuf ++ byte :: bytes) later
  | _, _ => [readBuf]

theorem readBufs_bounded (readBuf : Bytes) (answers : List ReadAnswer)
    (healthy : ∀ answer ∈ answers, answer.Healthy)
    (bounded : readBuf.length ≤ maxReadBuffer + (readChunk - 1)) :
    ∀ buf ∈ readBufs readBuf answers, buf.length ≤ maxReadBuffer + (readChunk - 1) := by
  fun_induction readBufs readBuf answers with
  | case1 readBuf byte bytes later truncated exceeded =>
      intro buf member
      rw [List.mem_singleton.mp member]
      exact bounded
  | case2 readBuf byte bytes later truncated within ih =>
      have short := length_of_decode_truncated truncated
      have chunk := (healthy (.ready (byte :: bytes)) List.mem_cons_self).2
      have grown : (readBuf ++ byte :: bytes).length ≤ maxReadBuffer + (readChunk - 1) := by
        rw [List.length_append]
        unfold maxReadBuffer
        omega
      intro buf member
      rcases List.mem_cons.mp member with same | inLater
      · rw [same]
        exact bounded
      · exact ih (fun answer inTail => healthy answer (List.mem_cons_of_mem _ inTail)) grown
          buf inLater
  | case3 readBuf answers other =>
      intro buf member
      rw [List.mem_singleton.mp member]
      exact bounded

theorem mem_readBufs_self (readBuf : Bytes) (answers : List ReadAnswer) :
    readBuf ∈ readBufs readBuf answers := by
  unfold readBufs
  split
  · split
    · exact List.mem_singleton_self _
    · exact List.mem_cons_self
  · exact List.mem_singleton_self _

/-- The buffer a call leaves is no longer than one it had before. -/
theorem readLoop_buf_le (readBuf : Bytes) (answers : List ReadAnswer) :
    ∃ buf ∈ readBufs readBuf answers, (readLoop readBuf answers).2.1.length ≤ buf.length := by
  fun_induction readLoop readBuf answers with
  | case1 =>
      refine ⟨_, mem_readBufs_self _ _, ?_⟩
      rw [List.length_drop]
      omega
  | case7 readBuf truncated within byte bytes later ih =>
      obtain ⟨buf, member, atMost⟩ := ih
      refine ⟨buf, ?_, atMost⟩
      rw [readBufs, if_neg within]
      · exact List.mem_cons_of_mem _ member
      · exact truncated
  | _ => exact ⟨_, mem_readBufs_self _ _, Nat.le_refl _⟩

/-! ### Repeated calls -/

inductive ReadEnd where
  | waiting
  | ended
  | failed (error : IoError)
  deriving DecidableEq

/-- Everything a caller of `poll_read_once` sees of a stream: the frames it is
given, how the stream ends, and the values `read_buf` takes on the way. -/
structure Reading where
  frames : List Frame
  ending : ReadEnd
  bufs : List Bytes

/-- What is left to be read: it shrinks with every call that can be repeated. -/
def unread (handler : SessionHandler Stream) (answers : List ReadAnswer) : Nat :=
  handler.readBuf.length + (bytesOf answers).length + answers.length

theorem pollReadOnce_of_none {handler : SessionHandler Stream} (answers : List ReadAnswer)
    (absent : handler.substream = none) :
    handler.pollReadOnce answers = (.ready (.ok none), handler, answers) := by
  simp only [pollReadOnce, absent, Option.isNone_none, if_true]

theorem pollReadOnce_outcome {handler : SessionHandler Stream} (answers : List ReadAnswer)
    (live : handler.substream.isSome) :
    ∃ poll readBuf later,
      ReadOutcome (handler.readBuf ++ bytesOf answers) answers (poll, readBuf, later) ∧
      handler.pollReadOnce answers = (poll, { handler with readBuf := readBuf }, later) := by
  refine ⟨_, _, _, readLoop_outcome handler.readBuf answers, ?_⟩
  obtain ⟨stream, present⟩ := Option.isSome_iff_exists.mp live
  simp only [pollReadOnce, present, Option.isNone_some, Bool.false_eq_true, if_false]

theorem pollReadOnce_frame {handler next : SessionHandler Stream} {frame : Frame}
    {answers later : List ReadAnswer}
    (called : handler.pollReadOnce answers = (.ready (.ok (some frame)), next, later)) :
    ∃ seen, seen ++ bytesOf later = handler.readBuf ++ bytesOf answers ∧ later <:+ answers ∧
      decode seen = .ok frame ∧
      next = { handler with readBuf := seen.drop (headerLen + frame.payload.length) } := by
  by_cases live : handler.substream.isSome
  · obtain ⟨poll, readBuf, left, outcome, result⟩ := pollReadOnce_outcome answers live
    rw [result] at called
    cases called
    cases outcome with
    | frame joined suffix decoded => exact ⟨_, joined, suffix, decoded, rfl⟩
  · rw [pollReadOnce_of_none answers (Option.not_isSome_iff_eq_none.mp live)] at called
    cases called

theorem unread_of_frame {handler next : SessionHandler Stream} {frame : Frame}
    {answers later : List ReadAnswer}
    (called : handler.pollReadOnce answers = (.ready (.ok (some frame)), next, later)) :
    next.unread later < handler.unread answers := by
  obtain ⟨seen, joined, suffix, decoded, rfl⟩ := pollReadOnce_frame called
  have total := congrArg List.length joined
  have size := size_of_decode_ok decoded
  have fewer := suffix.length_le
  simp only [List.length_append] at total
  simp only [unread, List.length_drop]
  have positive : 0 < headerLen := by decide
  omega

theorem pollReadOnce_pending {handler next : SessionHandler Stream}
    {answers later : List ReadAnswer}
    (called : handler.pollReadOnce answers = (.pending, next, later)) :
    next.readBuf ++ bytesOf later = handler.readBuf ++ bytesOf answers ∧ later <:+ answers ∧
      (later = answers → answers = []) ∧ decode next.readBuf = .error .truncated ∧
      next = { handler with readBuf := next.readBuf } := by
  by_cases live : handler.substream.isSome
  · obtain ⟨poll, readBuf, left, outcome, result⟩ := pollReadOnce_outcome answers live
    rw [result] at called
    cases called
    cases outcome with
    | waiting joined suffix used truncated => exact ⟨joined, suffix, used, truncated, rfl⟩
  · rw [pollReadOnce_of_none answers (Option.not_isSome_iff_eq_none.mp live)] at called
    cases called

theorem unread_of_pending {handler next : SessionHandler Stream}
    {answers later : List ReadAnswer}
    (called : handler.pollReadOnce answers = (.pending, next, later)) (some : answers ≠ []) :
    next.unread later < handler.unread answers := by
  obtain ⟨joined, suffix, used, -, -⟩ := pollReadOnce_pending called
  have total := congrArg List.length joined
  have fewer : later.length < answers.length := by
    have atMost := suffix.length_le
    by_contra notFewer
    have same := suffix.eq_of_length (by omega)
    exact some (used same)
  simp only [List.length_append] at total
  simp only [unread]
  omega

set_option linter.unusedVariables false in
def readAll (handler : SessionHandler Stream) (answers : List ReadAnswer) : Reading :=
  let bufs := readBufs handler.readBuf answers
  match called : handler.pollReadOnce answers with
  | (.ready (.ok (some frame)), next, later) =>
      let rest := readAll next later
      { frames := frame :: rest.frames, ending := rest.ending, bufs := bufs ++ rest.bufs }
  | (.ready (.ok none), _, _) => { frames := [], ending := .ended, bufs := bufs }
  | (.ready (.error error), _, _) => { frames := [], ending := .failed error, bufs := bufs }
  | (.pending, next, later) =>
      if answers = [] then { frames := [], ending := .waiting, bufs := bufs }
      else
        let rest := readAll next later
        { rest with bufs := bufs ++ rest.bufs }
termination_by handler.unread answers
decreasing_by
  · exact unread_of_frame called
  · exact unread_of_pending called ‹_›

def ReadEnd.ofEnding : Ending FrameError → ReadEnd
  | .waiting => .waiting
  | .failed error => .failed (.malformedFrame error)

private theorem isSome_of_update {handler : SessionHandler Stream} (live : handler.substream.isSome)
    {next : SessionHandler Stream} {readBuf : Bytes}
    (same : next = { handler with readBuf := readBuf }) : next.substream.isSome := by
  rw [same]
  exact live

/-- Repeated calls parse the stream: what they emit depends on its bytes only. -/
theorem readAll_eq_parse (handler : SessionHandler Stream) (answers : List ReadAnswer)
    (live : handler.substream.isSome) (healthy : ∀ answer ∈ answers, answer.Healthy) :
    (handler.readAll answers).frames = (parse decoder (handler.readBuf ++ bytesOf answers)).1 ∧
      (handler.readAll answers).ending =
        .ofEnding (parse decoder (handler.readBuf ++ bytesOf answers)).2 := by
  fun_induction readAll handler answers with
  | case1 handler answers bufs frame next later called rest ih =>
      obtain ⟨seen, joined, suffix, decoded, same⟩ := pollReadOnce_frame called
      have whole : decoder.decode (handler.readBuf ++ bytesOf answers) =
          .done frame (headerLen + frame.payload.length) := by
        rw [← joined]
        exact decoder.done_append _ (verdict_done_iff.mpr ⟨decoded, rfl⟩)
      have left : (handler.readBuf ++ bytesOf answers).drop (headerLen + frame.payload.length) =
          next.readBuf ++ bytesOf later := by
        rw [← joined, List.drop_append_of_le_length (size_of_decode_ok decoded), same]
      have parsed := ih (isSome_of_update live same)
        (fun answer member => healthy answer (suffix.subset member))
      rw [parse_of_done decoder whole, left]
      exact ⟨congrArg (frame :: ·) parsed.1, parsed.2⟩
  | case2 handler answers bufs next later called =>
      obtain ⟨poll, readBuf, left, outcome, result⟩ := pollReadOnce_outcome answers live
      rw [result] at called
      cases called
      cases outcome with
      | ended member => exact absurd (healthy _ member).1 (Nat.lt_irrefl 0)
  | case3 handler answers bufs error next later called =>
      obtain ⟨poll, readBuf, left, outcome, result⟩ := pollReadOnce_outcome answers live
      rw [result] at called
      cases called
      cases outcome with
      | malformed joined decoded final =>
          rw [← joined, parse_of_fail decoder
            (decoder.fail_append _ (verdict_fail_iff.mpr ⟨decoded, final⟩))]
          exact ⟨rfl, rfl⟩
      | broken member => exact (healthy _ member).elim
  | case4 handler next later bufs called =>
      obtain ⟨joined, suffix, -, truncated, same⟩ := pollReadOnce_pending called
      rw [List.suffix_nil.mp suffix] at joined
      rw [← joined, bytesOf_nil, List.append_nil,
        parse_of_more decoder (verdict_more_iff.mpr truncated)]
      exact ⟨rfl, rfl⟩
  | case5 handler answers bufs next later called more rest ih =>
      obtain ⟨joined, suffix, -, -, same⟩ := pollReadOnce_pending called
      have parsed := ih (isSome_of_update live same)
        (fun answer member => healthy answer (suffix.subset member))
      rw [joined] at parsed
      exact parsed

theorem pollReadOnce_bounded {handler next : SessionHandler Stream}
    {answers later : List ReadAnswer} {poll : Poll (Except IoError (Option Frame))} {bound : Nat}
    (called : handler.pollReadOnce answers = (poll, next, later))
    (within : ∀ buf ∈ readBufs handler.readBuf answers, buf.length ≤ bound) :
    next.readBuf.length ≤ bound := by
  unfold pollReadOnce at called
  split at called
  · cases called
    exact within _ (mem_readBufs_self _ _)
  · cases called
    obtain ⟨buf, member, atMost⟩ := readLoop_buf_le handler.readBuf answers
    exact Nat.le_trans atMost (within buf member)

/-- `read_buf` stays within the largest frame and one short read, across calls. -/
theorem readAll_bufs_bounded (handler : SessionHandler Stream) (answers : List ReadAnswer)
    (healthy : ∀ answer ∈ answers, answer.Healthy)
    (bounded : handler.readBuf.length ≤ maxReadBuffer + (readChunk - 1)) :
    ∀ buf ∈ (handler.readAll answers).bufs, buf.length ≤ maxReadBuffer + (readChunk - 1) := by
  have within := readBufs_bounded handler.readBuf answers healthy bounded
  fun_induction readAll handler answers with
  | case1 handler answers bufs frame next later called rest ih =>
      obtain ⟨-, -, suffix, -, -⟩ := pollReadOnce_frame called
      have smaller := pollReadOnce_bounded called within
      have healthyLater : ∀ answer ∈ later, answer.Healthy :=
        fun answer member => healthy answer (suffix.subset member)
      intro buf member
      rcases List.mem_append.mp member with inCall | inRest
      · exact within buf inCall
      · exact ih healthyLater smaller (readBufs_bounded _ _ healthyLater smaller) buf inRest
  | case5 handler answers bufs next later called more rest ih =>
      obtain ⟨-, suffix, -, -, -⟩ := pollReadOnce_pending called
      have smaller := pollReadOnce_bounded called within
      have healthyLater : ∀ answer ∈ later, answer.Healthy :=
        fun answer member => healthy answer (suffix.subset member)
      intro buf member
      rcases List.mem_append.mp member with inCall | inRest
      · exact within buf inCall
      · exact ih healthyLater smaller (readBufs_bounded _ _ healthyLater smaller) buf inRest
  | _ => exact within

/-- The reassembly of a stream does not depend on how it is cut into reads, the
decoder's final answers stay, the read buffer is bounded and its size check
never fires. -/
theorem reassembly_of_splits (handler : SessionHandler Stream) (live : handler.substream.isSome)
    (fresh : handler.readBuf = []) (stream : Bytes) (left right : List ReadAnswer)
    (leftSplits : Splits left stream) (rightSplits : Splits right stream) :
    (handler.readAll left).frames = (handler.readAll right).frames ∧
      (handler.readAll left).ending = (handler.readAll right).ending ∧
      ((handler.readAll left).ending = .waiting ∨
        ∃ error, (handler.readAll left).ending = .failed (.malformedFrame error)) ∧
      (∀ buf rest : Bytes, decode buf ≠ .error .truncated → decode (buf ++ rest) = decode buf) ∧
      (∀ buf ∈ (handler.readAll left).bufs, buf.length ≤ maxReadBuffer + 4095) ∧
      ∀ (reader : SessionHandler Stream) (answers : List ReadAnswer),
        (reader.pollReadOnce answers).1 ≠ .ready (.error .readBufferExceeded) := by
  have parsedLeft := readAll_eq_parse handler left live leftSplits.healthy
  have parsedRight := readAll_eq_parse handler right live rightSplits.healthy
  rw [leftSplits.bytes] at parsedLeft
  rw [rightSplits.bytes] at parsedRight
  have short : handler.readBuf.length ≤ maxReadBuffer + (readChunk - 1) := by
    rw [fresh]
    exact Nat.zero_le _
  refine ⟨parsedLeft.1.trans parsedRight.1.symm, parsedLeft.2.trans parsedRight.2.symm, ?_,
    fun buf rest final => decode_append rest final,
    readAll_bufs_bounded handler left leftSplits.healthy short, ?_⟩
  · rw [parsedLeft.2]
    cases (parse decoder (handler.readBuf ++ stream)).2 with
    | waiting => exact .inl rfl
    | failed error => exact .inr ⟨error, rfl⟩
  · intro reader answers
    unfold pollReadOnce
    split
    · intro impossible
      cases impossible
    · exact readLoop_never_exceeds reader.readBuf answers

/-- A frame followed by a byte that starts no frame, read at once and in three
pieces with a pause. -/
theorem reassembly_of_splits_ready :
    let handler : SessionHandler Unit := (new false).setSubstream ()
    let stream := encode (.handshake .ready []) ++ [0]
    (handler.readAll [.ready stream]).frames =
        (handler.readAll
          [.ready (stream.take 5), .pending, .ready ((stream.drop 5).take 32),
            .ready ((stream.drop 5).drop 32)]).frames ∧
      ∀ buf ∈ (handler.readAll [.ready stream]).bufs, buf.length ≤ maxReadBuffer + 4095 := by
  intro handler stream
  have whole : Splits [.ready stream] stream :=
    ⟨by intro answer member
        rw [List.mem_singleton.mp member]
        decide, by decide⟩
  have pieces : Splits
      [.ready (stream.take 5), .pending, .ready ((stream.drop 5).take 32),
        .ready ((stream.drop 5).drop 32)] stream :=
    ⟨by intro answer member
        simp only [List.mem_cons, List.not_mem_nil, or_false] at member
        rcases member with same | same | same | same <;> rw [same] <;> decide, by decide⟩
  have reassembled := reassembly_of_splits handler rfl rfl stream _ _ whole pieces
  exact ⟨reassembled.1, reassembled.2.2.2.2.1⟩

end SessionHandler

end JeanGrey
