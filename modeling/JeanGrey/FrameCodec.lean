/-
The frames that are written and the frames that are read.

The decoder accepts the encodings of the valid frames and nothing else, and no
such encoding begins another one.  All that a handshake sends and all that a
session seals is valid, so it is read as it was written.
-/

import JeanGrey.HandshakeSequences
import JeanGrey.SessionPlaintext
import JeanGrey.SymbolicCrates

namespace JeanGrey

open Crates Framing SelfDelimiting

variable [Crates]

/-! ### The frames of a handshake -/

namespace Handshake

variable {identity : DeviceIdentity} {handshake : Handshake} {frame : Frame} {random : Bytes}
  {reply : Reply}

/-- A Hello is a valid frame as long as its payload fits, which a name of
admissible length leaves room for. -/
theorem valid_hello (identity : DeviceIdentity) (expectedPeer : Option PeerId) (now : Nat)
    (named : (utf8Bytes identity.user.userName).length ≤ maxUserName) :
    (new identity expectedPeer now).2.Valid := by
  have limit : 18 + maxUserName + Mldsa.pubkeyLen ≤ maxPayload := by decide
  apply valid_handshake rfl
  rw [length_encodeHello]
  omega

theorem Transition.valid (transition : Transition identity handshake frame random reply) :
    ∀ sent ∈ reply.frames, sent.Valid := by
  intro sent member
  cases transition with
  | rejected error => cases member
  | hello =>
      rw [List.mem_singleton.mp member]
      apply valid_handshake rfl
      rw [Kem.length_generate]
      decide
  | offer _ _ _ encapsulated =>
      rw [List.mem_singleton.mp member]
      apply valid_handshake rfl
      rw [(Kem.length_of_encapsulate_ok encapsulated).2]
      decide
  | earlyResponse => cases member
  | response =>
      rw [List.mem_singleton.mp member]
      apply valid_handshake rfl
      rw [SecretKey.length_sign]
      decide
  | @auth _ _ keys =>
      rw [List.mem_singleton.mp member]
      apply valid_handshake rfl
      rw [keys.sessionId.toList_length]
      decide
  | ready => cases member

/-- Whatever a handshake is fed, it answers with valid frames. -/
theorem valid_of_replies (identity : DeviceIdentity) (expectedPeer : Option PeerId) (now : Nat)
    (fed : List (Frame × Bytes)) :
    ∀ reply ∈ (new identity expectedPeer now).1.replies identity fed, ∀ sent ∈ reply.frames,
      sent.Valid := by
  intro reply member
  obtain ⟨before, received, after, -, rfl⟩ := exists_of_mem_replies member
  have consistent := feed_consistent (new_consistent identity expectedPeer now) before
  exact (onFrame_transition consistent).valid

end Handshake

/-! ### The frames of a session -/

/-- What a session seals is valid as soon as its session id is not zero. -/
theorem Outbound.valid_of_encrypt (aead : AeadCorrect) {profile : Profile} {session next : Session}
    {frame : Frame} {op : Outbound} (identified : session.sessionId ≠ Octets.zero 16)
    (done : op.encrypt profile session = .ok (next, frame)) : frame.Valid := by
  obtain ⟨-, -, rfl, short⟩ := encrypt_ok done
  have limit : maxPlaintext + 16 ≤ maxPayload := by decide
  refine ⟨rfl, ?_, ?_⟩
  · change (chacha20Poly1305Encrypt _ _ _ _).length ≤ maxPayload
    rw [aead.length]
    omega
  · have typed : op.msgType.isHandshake = false := by cases op <;> rfl
    simpa [Session.sealFrame, typed] using identified

/-! ### The codec -/

/-- The encodings of the valid frames form a prefix code, `decode` reads exactly
its words, and all that handshakes and sessions send is written in it. -/
theorem codec_exact (aead : AeadCorrect) :
    (∀ buf frame, decode buf = .ok frame ↔
      frame.Valid ∧ ∃ rest, buf = encode frame ++ rest) ∧
    (∀ (left right : Frame) (leftRest rightRest : Bytes), left.Valid → right.Valid →
      encode left ++ leftRest = encode right ++ rightRest →
        left = right ∧ leftRest = rightRest) ∧
    (∀ (frame : Frame) (buf : Bytes), frame.Valid → buf <+: encode frame → buf ≠ encode frame →
      decode buf = .error .truncated) ∧
    (∀ identity expectedPeer now, (utf8Bytes identity.user.userName).length ≤ maxUserName →
      (Handshake.new identity expectedPeer now).2.Valid) ∧
    (∀ identity expectedPeer now fed,
      ∀ reply ∈ (Handshake.new identity expectedPeer now).1.replies identity fed,
        ∀ sent ∈ reply.frames, sent.Valid) ∧
    (∀ profile (session next : Session) frame (op : Outbound),
      session.sessionId ≠ Octets.zero 16 → op.encrypt profile session = .ok (next, frame) →
        frame.Valid) := by
  refine ⟨fun _ _ => decode_eq_ok_iff, encode_selfDelimiting, ?_, Handshake.valid_hello,
    Handshake.valid_of_replies, ?_⟩
  · rintro frame buf valid ⟨missing, cut⟩ proper
    apply decode_of_proper_prefix valid cut.symm
    rintro rfl
    exact proper ((List.append_nil buf).symm.trans cut)
  · intro profile session next frame op identified done
    exact op.valid_of_encrypt aead identified done

omit [Crates] in
/-- The header of a `Ready` frame and a part of its session id are not enough. -/
theorem codec_exact_sample :
    letI := symbolicCrates [] []
    decode ((encode (Frame.handshake .ready (List.replicate 16 7))).take 40) =
      .error .truncated := by
  let _ := symbolicCrates [] []
  have valid : (Frame.handshake .ready (List.replicate 16 7)).Valid :=
    valid_handshake rfl (by decide)
  refine (codec_exact (Symbolic.aeadCorrect [] [])).2.2.1 _ _ valid (List.take_prefix _ _) ?_
  intro same
  have sizes := congrArg List.length same
  rw [List.length_take, length_encode] at sizes
  exact absurd sizes (by decide)

end JeanGrey
