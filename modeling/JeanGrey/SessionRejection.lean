/-
Frames a session turns away.

`handle_frame` counts a frame and remembers it before it is opened.  A frame
turned away earlier than that leaves the receiving side where it was; one that
is counted and then fails to open takes the place of the genuine frame.
-/

import JeanGrey.SessionChannel

namespace JeanGrey

open Crates

variable [Crates]

namespace Session

variable {profile : Profile} {session next : Session} {frame : Frame} {event : Inbound}

/-- The receiving side has not moved: the count and the window are the same, and
whatever would have been accepted still is, as the same event. -/
structure Undisturbed (profile : Profile) (session next : Session) : Prop where
  inSeq : next.inSeq = session.inSeq
  seen : next.seen = session.seen
  genuine : ∀ frame event, (session.handleFrame profile frame).2 = .ok event →
    (next.handleFrame profile frame).2 = .ok event

/-- A frame that is turned away before it is counted: it belongs to another
session, it is not the one that is due, or there is no count left. -/
def Uncounted (session : Session) (frame : Frame) : Prop :=
  frame.sessionId ≠ session.sessionId ∨ frame.seq ≠ session.inSeq ∨
    session.inSeq.toNat = 2 ^ 32 - 1

/-- Sessions with the same keys and the same count accept the same frames. -/
theorem handleFrame_congr (same : SameSender session next) (count : next.inSeq = session.inSeq)
    (accepted : (session.handleFrame profile frame).2 = .ok event) :
    (next.handleFrame profile frame).2 = .ok event := by
  cases first : session.handleFrame profile frame with
  | mk before outcome =>
      rw [first] at accepted
      obtain ⟨kept, turnedAway | ⟨ours, due, small, counted, read⟩⟩ := handleFrame_inv first
      · exact absurd accepted (turnedAway.2 event)
      · obtain ⟨after, counted', kept', answered⟩ := handleFrame_due profile
          (ours.trans same.sessionId.symm : frame.sessionId = next.sessionId)
          (due.trans count.symm) (count ▸ small)
        have opened : after.openFrame frame = before.openFrame frame := by
          rw [openFrame_congr kept', openFrame_congr same, openFrame_congr kept]
        have parsed : after.parsePlaintext = before.parsePlaintext := by
          funext msgType msgId plaintext
          exact parsePlaintext_congr (by rw [counted', counted, count]) msgType msgId plaintext
        rw [answered, opened, parsed, ← read]
        exact accepted

/-- A frame turned away before it is counted leaves all but the violations as
they were. -/
theorem handleFrame_uncounted (profile : Profile) (uncounted : Uncounted session frame) :
    SameSender session (session.handleFrame profile frame).1 ∧
      (session.handleFrame profile frame).1.inSeq = session.inSeq ∧
      (session.handleFrame profile frame).1.seen = session.seen := by
  unfold handleFrame
  split
  · exact ⟨.refl session, rfl, rfl⟩
  · rename_i ours
    split
    · split
      · exact ⟨.refl session, rfl, rfl⟩
      · dsimp only
        split
        · exact ⟨⟨rfl, rfl, rfl, rfl, rfl, rfl⟩, rfl, rfl⟩
        · exact ⟨⟨rfl, rfl, rfl, rfl, rfl, rfl⟩, rfl, rfl⟩
    · rename_i due
      split
      · exact ⟨.refl session, rfl, rfl⟩
      · rename_i count counted
        obtain ⟨small, -⟩ := checkedSucc_eq_some_iff.mp counted
        have last := (uncounted.resolve_left ours).resolve_left due
        omega

/-- A frame that is counted moves the session on. -/
theorem handleFrame_counted (profile : Profile) (counted : ¬Uncounted session frame) :
    (session.handleFrame profile frame).1.inSeq ≠ session.inSeq := by
  simp only [Uncounted, not_or, ne_eq, not_not] at counted
  obtain ⟨ours, due, more⟩ := counted
  have bound := session.inSeq.toNat_lt
  obtain ⟨after, advanced, -, answered⟩ := handleFrame_due profile ours due (by omega)
  rw [answered, advanced]
  intro stuck
  have counts := congrArg UInt32.toNat stuck
  rw [UInt32.toNat_add] at counts
  have one : (1 : UInt32).toNat = 1 := rfl
  omega

/-- A rejected frame leaves the receiving side alone exactly if it was rejected
before it was counted. -/
theorem rejected_undisturbed_iff (profile : Profile) (session next : Session) (frame : Frame)
    (error : SessionError) (rejected : session.handleFrame profile frame = (next, .err error)) :
    Undisturbed profile session next ↔
      frame.sessionId ≠ session.sessionId ∨ frame.seq ≠ session.inSeq ∨
        session.inSeq.toNat = 2 ^ 32 - 1 := by
  have moved : (session.handleFrame profile frame).1 = next := congrArg Prod.fst rejected
  constructor
  · intro undisturbed
    by_contra counted
    have advanced := handleFrame_counted profile counted
    rw [moved] at advanced
    exact advanced undisturbed.inSeq
  · intro uncounted
    obtain ⟨same, count, window⟩ := handleFrame_uncounted profile uncounted
    rw [moved] at same count window
    exact ⟨count, window, fun _ _ => handleFrame_congr same count⟩

/-! ### A forged frame -/

omit [Crates] in
/-- A frame for the session of the right side with the count that is due and
nothing to open, as anybody can write it. -/
noncomputable def forged : Frame where
  msgType := .message
  flags := 0
  sessionId := Symbolic.sampleKeys.sessionId
  seq := 0
  msgId := 0
  payload := []

omit [Crates] in
theorem forged_rejected (profile : Profile) :
    letI := symbolicCrates [] []
    (new (Symbolic.sampleResult .right)).handleFrame profile forged =
      (remember { new (Symbolic.sampleResult .right) with inSeq := 1 } 0 0,
        .err .authenticationFailed) := by
  let _ := symbolicCrates [] []
  rfl

omit [Crates] in
noncomputable def genuine : Frame :=
  letI := symbolicCrates [] []
  (new (Symbolic.sampleResult .left)).sealFrame .message 0 9 (messagePlaintext "hi" 1000)

omit [Crates] in
/-- The forged frame is rejected and takes the place of the genuine one, which
would have been accepted. -/
theorem forged_displaces_genuine :
    letI := symbolicCrates [] []
    ∃ next, (new (Symbolic.sampleResult .right)).handleFrame .release forged =
        (next, .err .authenticationFailed) ∧
      next.inSeq ≠ (new (Symbolic.sampleResult .right)).inSeq ∧
      next.seen ≠ (new (Symbolic.sampleResult .right)).seen ∧
      ((new (Symbolic.sampleResult .right)).handleFrame .release genuine).2 =
        .ok (.message 0 9 1000 "hi") ∧
      (next.handleFrame .release genuine).2 = .err .replay ∧
      ¬Undisturbed .release (new (Symbolic.sampleResult .right)) next := by
  let _ := symbolicCrates [] []
  have transmittable : (Outbound.message "hi" 9 1000).Transmittable := by
    change (utf8Bytes "hi").length ≤ maxMessageBytes
    decide
  obtain ⟨after, -, -, accepted⟩ := handleFrame_facing (Symbolic.aeadCorrect [] []) .release
    (new (Symbolic.sampleResult .right)) (by decide) transmittable
  have sealedBy : (new (Symbolic.sampleResult .right)).facing.sealFrame .message 0 9
      (messagePlaintext "hi" 1000) = genuine :=
    sealFrame_facing Symbolic.samplePairing.complementary .message 0 9 (messagePlaintext "hi" 1000)
  have first : ((new (Symbolic.sampleResult .right)).handleFrame .release genuine).2 =
      .ok (.message 0 9 1000 "hi") := by
    rw [← sealedBy]
    exact congrArg Prod.snd accepted
  refine ⟨_, forged_rejected .release, by decide, by decide, first, rfl, ?_⟩
  intro undisturbed
  exact absurd undisturbed.inSeq (by decide)

omit [Crates] in
/-- A frame with a later count is turned away and changes nothing. -/
theorem rejected_undisturbed_sample :
    letI := symbolicCrates [] []
    ∃ next, (new (Symbolic.sampleResult .right)).handleFrame .release { forged with seq := 1 } =
        (next, .err .replay) ∧
      Undisturbed .release (new (Symbolic.sampleResult .right)) next := by
  let _ := symbolicCrates [] []
  have rejected : (new (Symbolic.sampleResult .right)).handleFrame .release
      { forged with seq := 1 } =
        ({ new (Symbolic.sampleResult .right) with seqViolations := 1 }, .err .replay) := rfl
  exact ⟨_, rejected, (rejected_undisturbed_iff .release _ _ _ _ rejected).mpr
    (.inr (.inl (by decide)))⟩

end Session

end JeanGrey
