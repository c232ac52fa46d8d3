/-
Message ids that come a second time.

A session remembers the ids of the last frames in a window, as a second line of
defence behind the sequence numbers, and `was_seen` can be asked about them.
`handle_frame` writes to the window and never asks.  A message whose id is still
in the window is therefore not turned away: the window catches nothing, and ids
are delivered once exactly as long as the sender repeats none that is in it.
-/

import JeanGrey.Library.Windows
import JeanGrey.SessionGrammar
import JeanGrey.SessionChannel

namespace JeanGrey

open Crates Windows

variable [Crates]

namespace Session

variable {profile : Profile} {session next : Session} {frame : Frame}

/-! ### Runs of one session -/

/-- One call of `handle_frame`: the session it finds, the frame and the answer. -/
structure Handling where
  session : Session
  frame : Frame
  outcome : Outcome SessionError Inbound

/-- The calls of `handle_frame` on a list of frames.  Its callers fail closed: the
first error ends the session. -/
def handlings (profile : Profile) : Session → List Frame → List Handling
  | _, [] => []
  | session, frame :: later =>
      let (next, outcome) := session.handleFrame profile frame
      ⟨session, frame, outcome⟩ :: if outcome.isOk then handlings profile next later else []

namespace Handling

def delivered (handling : Handling) : Option UInt64 :=
  match handling.outcome with
  | .ok (.message _ msgId _ _) => some msgId
  | _ => none

def entry (handling : Handling) : UInt32 × UInt64 := (handling.frame.seq, handling.frame.msgId)

/-- The frame is a message of this session with the sequence number that is due,
and its id is still in the window. -/
def Repeats (handling : Handling) : Prop :=
  handling.frame.msgType = .message ∧ handling.frame.sessionId = handling.session.sessionId ∧
    handling.frame.seq = handling.session.inSeq ∧
    handling.frame.msgId ∈ handling.session.seen.map Prod.snd

end Handling

/-- Among the last `SEEN_WINDOW` frames a session has accepted, no id is delivered
twice. -/
def DeliveredOnce (handled : List Handling) : Prop :=
  (((handled.filter fun handling => handling.outcome.isOk).rtake seenWindow).filterMap
    Handling.delivered).Nodup

/-- A message whose id is still in the window is rejected as a replay, and in
every state reached no id has been delivered twice among the last frames. -/
structure DuplicatesCaught (handled : List Handling) : Prop where
  rejected : ∀ handling ∈ handled, handling.Repeats → handling.outcome = .err .replay
  once : ∀ reached, reached <+: handled → DeliveredOnce reached

/-! ### The window -/

/-- A frame that is due is not taken for a replay, whatever its id. -/
theorem handleFrame_ne_replay (profile : Profile) (ours : frame.sessionId = session.sessionId)
    (due : frame.seq = session.inSeq) :
    (session.handleFrame profile frame).2 ≠ .err .replay := by
  cases counted : checkedSucc session.inSeq with
  | none =>
      unfold handleFrame
      rw [if_neg (not_not.mpr ours), if_neg (not_not.mpr due), counted]
      exact fun impossible => nomatch impossible
  | some count =>
      obtain ⟨next, -, -, answered⟩ := handleFrame_due profile ours due
        (checkedSucc_eq_some_iff.mp counted).1
      have opens : (next.openFrame frame).FailsWithin (· ≠ .replay) := by
        unfold openFrame
        cases frame.msgType <;>
          first
            | exact Outcome.failsWithin_okOr (by simp)
            | simp [Outcome.FailsWithin]
      have reads (plaintext : Bytes) :
          (next.parsePlaintext frame.msgType frame.msgId plaintext).FailsWithin (· ≠ .replay) := by
        apply (parsePlaintext_fails next frame.msgType frame.msgId plaintext).mono
        rintro error rfl
        simp
      rw [answered]
      exact (opens.bind reads).ne_err (by simp)

/-! ### The calls of a run -/

/-- All calls but the last have succeeded, and the window of the last one holds
what they have left. -/
theorem handlings_concat {frames : List Frame} {before : List Handling} {handling : Handling}
    (starts : before ++ [handling] <+: handlings profile session frames) :
    (∀ earlier ∈ before, earlier.outcome.isOk = true) ∧
      handling.outcome = (handling.session.handleFrame profile handling.frame).2 ∧
      handling.session.seen =
        (before.map Handling.entry).foldl (push seenWindow) session.seen := by
  induction frames generalizing session before with
  | nil => simp [handlings] at starts
  | cons frame later ih =>
      cases answered : session.handleFrame profile frame with
      | mk next outcome =>
          rw [handlings, answered] at starts
          cases before with
          | nil =>
              have first := (List.cons_prefix_cons.mp starts).1
              rw [first, answered]
              simp
          | cons earlier rest =>
              obtain ⟨first, following⟩ := List.cons_prefix_cons.mp starts
              split at following
              · rename_i succeeded
                obtain ⟨oks, called, window⟩ := ih following
                refine ⟨?_, called, ?_⟩
                · intro other member
                  rcases List.mem_cons.mp member with rfl | member
                  · rw [first]
                    exact succeeded
                  · exact oks other member
                · cases outcome with
                  | ok event =>
                      rw [window, (admits_of_handleFrame answered).moved, first]
                      rfl
                  | err error => cases succeeded
                  | panic => cases succeeded
              · simp at following

theorem outcome_eq {frames : List Frame} {handling : Handling}
    (member : handling ∈ handlings profile session frames) :
    handling.outcome = (handling.session.handleFrame profile handling.frame).2 := by
  obtain ⟨before, after, split⟩ := List.append_of_mem member
  have starts : before ++ [handling] <+: handlings profile session frames :=
    ⟨after, by simp [split]⟩
  exact (handlings_concat starts).2.1

theorem delivered_eq {handling : Handling} {msgId : UInt64}
    (called : handling.outcome = (handling.session.handleFrame profile handling.frame).2)
    (delivers : handling.delivered = some msgId) :
    handling.frame.msgType = .message ∧ handling.frame.msgId = msgId ∧
      handling.frame.sessionId = handling.session.sessionId ∧
      handling.frame.seq = handling.session.inSeq := by
  unfold Handling.delivered at delivers
  split at delivers
  · rename_i seq found ts body outcome
    cases delivers
    have answered : handling.session.handleFrame profile handling.frame =
        ((handling.session.handleFrame profile handling.frame).1,
          .ok (.message seq msgId ts body)) :=
      Prod.ext rfl (called.symm.trans outcome)
    obtain ⟨ours, due, -, -, plaintext, -, parsed⟩ := admits_of_handleFrame answered
    have parses := parsePlaintext_eq_ok_iff.mp parsed
    generalize handling.frame.msgType = msgType at parses ⊢
    generalize handling.frame.msgId = frameId at parses ⊢
    cases parses with
    | message text ts => exact ⟨rfl, rfl, ours, due⟩
  · cases delivers

theorem filter_isPrefix {handled : List Handling}
    (oks : ∀ before handling, before ++ [handling] <+: handled →
      ∀ earlier ∈ before, earlier.outcome.isOk = true) :
    (handled.filter fun handling => handling.outcome.isOk) <+: handled := by
  rcases List.eq_nil_or_concat handled with rfl | ⟨before, handling, rfl⟩
  · exact List.prefix_refl _
  · have kept : (before.filter fun handling => handling.outcome.isOk) = before :=
      List.filter_eq_self.mpr (oks before handling (by simp))
    rw [List.concat_eq_append, List.filter_append, kept]
    apply List.prefix_append_right_inj _ |>.mpr
    cases accepted : handling.outcome.isOk <;> simp [accepted]

/-- Where no message repeats an id of the window, ids are delivered once. -/
theorem deliveredOnce_of_fresh {result : HandshakeResult} {frames : List Frame}
    (fresh : ∀ handling ∈ handlings profile (new result) frames, ¬handling.Repeats)
    {reached : List Handling} (starts : reached <+: handlings profile (new result) frames) :
    DeliveredOnce reached := by
  have accepted : (reached.filter fun handling => handling.outcome.isOk) <+:
      handlings profile (new result) frames :=
    (filter_isPrefix fun before handling front => (handlings_concat (front.trans starts)).1).trans
      starts
  apply nodup_rtake 4095
  intro before handling front msgId delivers other member repeated
  have within := front.trans accepted
  obtain ⟨-, called, window⟩ := handlings_concat within
  obtain ⟨typed, named, ours, due⟩ := delivered_eq called delivers
  have remembered : other.entry ∈ handling.session.seen := by
    have whole : handling.session.seen = (before.rtake (4095 + 1)).map Handling.entry := by
      rw [window, ← map_rtake]
      exact foldl_push 4095 _
    rw [whole]
    exact List.mem_map_of_mem member
  have earlier : other ∈ handlings profile (new result) frames :=
    within.subset (List.mem_append_left _ (List.mem_of_mem_drop member))
  have sameId := (delivered_eq (outcome_eq earlier) repeated).2.1
  apply fresh handling (within.subset (by simp)) ⟨typed, ours, due, ?_⟩
  rw [named, ← sameId]
  exact List.mem_map_of_mem remembered

/-- The window catches the repeated ids of a run exactly if there are none. -/
theorem duplicates_caught_iff (profile : Profile) (result : HandshakeResult) (frames : List Frame) :
    DuplicatesCaught (handlings profile (new result) frames) ↔
      ∀ handling ∈ handlings profile (new result) frames, ¬handling.Repeats := by
  constructor
  · intro caught handling member repeats
    have rejected := caught.rejected handling member repeats
    rw [outcome_eq member] at rejected
    exact handleFrame_ne_replay profile repeats.2.1 repeats.2.2.1 rejected
  · intro fresh
    constructor
    · intro handling member repeats
      exact absurd repeats (fresh handling member)
    · intro reached starts
      exact deliveredOnce_of_fresh fresh starts

/-! ### One id under two sequence numbers -/

theorem sealFrame_facing_congr (same : SameSender session next) (msgType : MessageType)
    (seq : UInt32) (msgId : UInt64) (plaintext : Bytes) :
    next.facing.sealFrame msgType seq msgId plaintext =
      session.facing.sealFrame msgType seq msgId plaintext := by
  simp [sealFrame, facing, aad, same.sessionId, same.recvKey, same.peerDir]

def sameIdTwice (session : Session) (msgId : UInt64) : List Frame :=
  [session.facing.sealFrame .message session.inSeq msgId (messagePlaintext "hi" 1000),
    session.facing.sealFrame .message (session.inSeq + 1) msgId (messagePlaintext "ho" 1001)]

theorem outcomes_sameIdTwice (aead : AeadCorrect) (profile : Profile) (session : Session)
    (small : session.inSeq.toNat + 2 < 2 ^ 32) (msgId : UInt64) :
    (handlings profile session (session.sameIdTwice msgId)).map (fun call => call.outcome) =
      [.ok (.message session.inSeq msgId 1000 "hi"),
        .ok (.message (session.inSeq + 1) msgId 1001 "ho")] := by
  have short : (Outbound.message "hi" msgId 1000).Transmittable := by
    change (utf8Bytes "hi").length ≤ maxMessageBytes
    decide
  have short' : (Outbound.message "ho" msgId 1001).Transmittable := by
    change (utf8Bytes "ho").length ≤ maxMessageBytes
    decide
  obtain ⟨middle, counted, same, first⟩ :=
    handleFrame_facing aead profile session (by omega) short
  have room : middle.inSeq.toNat + 1 < 2 ^ 32 := by
    rw [counted, toNat_succ (by omega)]
    omega
  obtain ⟨last, -, -, second⟩ := handleFrame_facing aead profile middle room short'
  rw [counted, sealFrame_facing_congr same] at second
  change session.handleFrame profile (session.facing.sealFrame .message session.inSeq msgId
    (messagePlaintext "hi" 1000)) = _ at first
  change middle.handleFrame profile (session.facing.sealFrame .message (session.inSeq + 1) msgId
    (messagePlaintext "ho" 1001)) = _ at second
  simp only [sameIdTwice, handlings, first, second, Outcome.isOk, if_true, List.map_cons,
    List.map_nil]
  rfl

omit [Crates] in
/-- The second of two messages with the id 9 is delivered like the first. -/
theorem duplicate_delivered :
    letI := symbolicCrates [] []
    let session := new (Symbolic.sampleResult .right)
    (handlings .release session (session.sameIdTwice 9)).map (fun call => call.outcome) =
        [.ok (.message 0 9 1000 "hi"), .ok (.message 1 9 1001 "ho")] ∧
      ¬DuplicatesCaught (handlings .release session (session.sameIdTwice 9)) := by
  let _ := symbolicCrates [] []
  have outcomes := outcomes_sameIdTwice (Symbolic.aeadCorrect [] []) .release
    (new (Symbolic.sampleResult .right)) (by decide) 9
  refine ⟨outcomes, ?_⟩
  intro caught
  have once := caught.once _ (List.prefix_refl _)
  generalize handlings .release (new (Symbolic.sampleResult .right)) _ = handled at outcomes once
  obtain ⟨first, rest, rfl, one, more⟩ := List.map_eq_cons_iff.mp outcomes
  obtain ⟨second, others, rfl, two, nothing⟩ := List.map_eq_cons_iff.mp more
  rw [List.map_eq_nil_iff.mp nothing] at once
  simp [DeliveredOnce, Handling.delivered, one, two, Outcome.isOk, List.rtake, seenWindow] at once

end Session

end JeanGrey
