/-
The plaintexts the parser accepts.

`Parses` describes byte for byte what `parse_plaintext` lets through, and
`Built` what the sealing operations produce.  The parser is the looser of the
two: it takes a text of any length, it takes whatever follows the address of a
dial-back request, every flag of a dial-back result, and an address in another
spelling than its own.
-/

import JeanGrey.SessionPlaintext
import JeanGrey.SymbolicCrates

namespace JeanGrey

open Crates BigEndian SelfDelimiting

variable [Crates]

namespace Session

/-! ### Taking a plaintext apart -/

omit [Crates] in
theorem drop_eq_slice (bytes : Bytes) (start width : Nat) (inside : start + width ≤ bytes.length) :
    bytes.drop start = (Octets.slice bytes start width inside).toList ++
      bytes.drop (start + width) := by
  rw [Octets.toList_slice, ← List.drop_drop, List.take_append_drop]

structure Spells (text : String) (addr : Multiaddr) : Prop where
  positive : 0 < (utf8Bytes text).length
  bounded : (utf8Bytes text).length ≤ maxControlAddrBytes
  reads : multiaddrFromStr text = some addr

/-- The address reader accepts a tag, a text with its length, and anything
after it. -/
theorem takeAddrWithRest_eq_ok_iff {tag : UInt8} {later rest : Bytes} {addr : Multiaddr} :
    takeAddrWithRest (tag :: later) = .ok (addr, rest) ↔
      ∃ text, Spells text addr ∧
        tag :: later = [tag] ++ lengthPrefixed 2 (utf8Bytes text) ++ rest := by
  constructor
  · intro done
    unfold takeAddrWithRest at done
    split at done
    · cases done
    · rename_i long
      dsimp only at done
      generalize bytes_eq : Octets.slice (tag :: later) 1 2 (by omega) = sizeBytes at done
      split at done
      · cases done
      · rename_i inRange
        split at done
        · cases done
        · rename_i enough
          split at done
          · cases done
          · rename_i text decoded
            split at done
            · cases done
            · rename_i found parsed
              cases done
              have textBytes := utf8Bytes_of_utf8Text decoded
              have size : (utf8Bytes text).length = (u16FromBe sizeBytes).toNat := by
                rw [textBytes, List.length_take, List.length_drop]
                omega
              refine ⟨text, ⟨by omega, by omega, parsed⟩, ?_⟩
              have sizeWritten : toBeBytes 2 (utf8Bytes text).length = sizeBytes.toList := by
                rw [size, toNat_u16FromBe, toBeBytes_toList]
              have first := drop_eq_slice (tag :: later) 1 2 (by omega)
              have second := List.take_append_drop (u16FromBe sizeBytes).toNat
                ((tag :: later).drop 3)
              rw [bytes_eq] at first
              rw [List.drop_drop] at second
              rw [lengthPrefixed, sizeWritten, textBytes, List.append_assoc, List.append_assoc,
                second, ← first]
              rfl
  · rintro ⟨text, spells, same⟩
    rw [same]
    exact Outbound.takeAddrWithRest_lengthPrefixed spells.positive spells.bounded spells.reads
      tag rest

/-! ### What the parser lets through -/

/-- The plaintexts `parse_plaintext` accepts, with the event it makes of each. -/
inductive Parses (seq : UInt32) (msgId : UInt64) : MessageType → Bytes → Inbound → Prop
  | message (text : String) (ts : UInt64) :
      Parses seq msgId .message (messagePlaintext text ts) (.message seq msgId ts text)
  | ack (ackMsgId : UInt64) (ackSeq : UInt32) (ts : UInt64) :
      Parses seq msgId .ack (ackPlaintext ackMsgId ackSeq ts) (.ack ackMsgId ackSeq)
  | observedAddr (ip : IpAddr) (sourcePort : UInt16) :
      Parses seq msgId .control (observedAddrPlaintext ip sourcePort)
        (.observedAddr seq ip sourcePort)
  | dialBackReq {text : String} {addr : Multiaddr} (spells : Spells text addr) (rest : Bytes) :
      Parses seq msgId .control ([dialBackReqTag] ++ lengthPrefixed 2 (utf8Bytes text) ++ rest)
        (.dialBackReq seq addr)
  | dialBackRes {text : String} {addr : Multiaddr} (spells : Spells text addr) (flag : UInt8) :
      Parses seq msgId .control ([dialBackResTag] ++ lengthPrefixed 2 (utf8Bytes text) ++ [flag])
        (.dialBackRes seq addr (flag == 1))

variable {session : Session} {msgId : UInt64} {bytes later : Bytes} {event : Inbound}

theorem parses_of_parseMessage
    (done : session.parseMessage msgId (msgPlaintextTag :: later) = .ok event) :
    Parses (session.inSeq - 1) msgId .message (msgPlaintextTag :: later) event := by
  unfold parseMessage at done
  split at done
  · cases done
  · rename_i long
    dsimp only at done
    generalize slice_eq : Octets.slice (msgPlaintextTag :: later) 1 8 (by omega) = tsBytes at done
    split at done
    · cases done
    · rename_i body decoded
      cases done
      have front := drop_eq_slice (msgPlaintextTag :: later) 1 8 (by omega)
      have whole : msgPlaintextTag :: later = messagePlaintext body (u64FromBe tsBytes) := by
        rw [messagePlaintext, u64ToBe_u64FromBe, utf8Bytes_of_utf8Text decoded, ← slice_eq,
          List.append_assoc, ← front]
        rfl
      rw [whole]
      exact .message body (u64FromBe tsBytes)

theorem parses_of_parseAck (seq : UInt32)
    (done : parseAck (ackPlaintextTag :: later) = .ok event) :
    Parses seq msgId .ack (ackPlaintextTag :: later) event := by
  unfold parseAck at done
  split at done
  · cases done
  · rename_i sized
    have size : (ackPlaintextTag :: later).length = 1 + 8 + 4 + 8 := not_not.mp sized
    have first := drop_eq_slice (ackPlaintextTag :: later) 1 8 (by omega)
    have second := drop_eq_slice (ackPlaintextTag :: later) 9 4 (by omega)
    have third := drop_eq_slice (ackPlaintextTag :: later) 13 8 (by omega)
    have nothing : (ackPlaintextTag :: later).drop 21 = [] := List.drop_eq_nil_of_le (by omega)
    have whole : ackPlaintextTag :: later =
        ackPlaintext (u64FromBe (Octets.slice (ackPlaintextTag :: later) 1 8 (by omega)))
          (u32FromBe (Octets.slice (ackPlaintextTag :: later) 9 4 (by omega)))
          (u64FromBe (Octets.slice (ackPlaintextTag :: later) 13 8 (by omega))) := by
      rw [ackPlaintext, u64ToBe_u64FromBe, u32ToBe_u32FromBe, u64ToBe_u64FromBe]
      rw [nothing, List.append_nil] at third
      rw [List.append_assoc, List.append_assoc, ← third, ← second, ← first]
      rfl
    cases done
    have accepted : Parses seq msgId .ack (ackPlaintext _ _ _) (.ack _ _) :=
      .ack (u64FromBe (Octets.slice (ackPlaintextTag :: later) 1 8 (by omega)))
        (u32FromBe (Octets.slice (ackPlaintextTag :: later) 9 4 (by omega)))
        (u64FromBe (Octets.slice (ackPlaintextTag :: later) 13 8 (by omega)))
    rwa [← whole] at accepted

omit [Crates] in
theorem observed_split {width : UInt8} {tail : Bytes} (count : Nat)
    (length : (observedAddrTag :: width :: tail).length = 1 + 1 + count + 2) :
    observedAddrTag :: width :: tail = [observedAddrTag] ++ ([width] ++
      (Octets.slice (observedAddrTag :: width :: tail) 2 count (by omega)).toList) ++
      u16ToBe (u16FromBe
        (Octets.slice (observedAddrTag :: width :: tail) (1 + 1 + count) 2 (by omega))) := by
  have first := drop_eq_slice (observedAddrTag :: width :: tail) 2 count (by omega)
  have second := drop_eq_slice (observedAddrTag :: width :: tail) (1 + 1 + count) 2 (by omega)
  have nothing : (observedAddrTag :: width :: tail).drop (1 + 1 + count + 2) = [] :=
    List.drop_eq_nil_of_le (by omega)
  rw [nothing, List.append_nil] at second
  rw [u16ToBe_u16FromBe, List.append_assoc, List.append_assoc, ← second]
  change _ = [observedAddrTag] ++ ([width] ++ (_ ++ List.drop (2 + count) _))
  rw [← first]
  rfl

theorem parses_of_parseObservedAddr
    (done : session.parseObservedAddr (observedAddrTag :: later) = .ok event) :
    Parses (session.inSeq - 1) msgId .control (observedAddrTag :: later) event := by
  unfold parseObservedAddr at done
  split at done
  · cases done
  · rename_i long
    cases later with
    | nil => exact absurd (by decide) long
    | cons width tail =>
        dsimp only [List.getElem_cons_succ, List.getElem_cons_zero] at done
        split at done
        · cases done
        · rename_i sized
          obtain ⟨wrongLength, wrongFamily⟩ := not_or.mp sized
          have length := not_not.mp wrongLength
          cases done
          by_cases four : width.toNat = 4
          · have isFour : width = 4 := UInt8.toNat_inj.mp four
            subst isFour
            have accepted : Parses (session.inSeq - 1) msgId .control _ _ := .observedAddr
              (.v4 (Octets.slice (observedAddrTag :: 4 :: tail) 2 4 (by omega)))
              (u16FromBe (Octets.slice (observedAddrTag :: 4 :: tail) (1 + 1 + 4) 2 (by omega)))
            have whole := observed_split 4 length
            rw [observedAddrPlaintext, ipBytes, ← whole] at accepted
            exact accepted
          · have isSixteen : width = 16 := by
              apply UInt8.toNat_inj.mp
              change width.toNat = 16
              omega
            subst isSixteen
            have accepted : Parses (session.inSeq - 1) msgId .control _ _ := .observedAddr
              (.v6 (Octets.slice (observedAddrTag :: 16 :: tail) 2 16 (by omega)))
              (u16FromBe (Octets.slice (observedAddrTag :: 16 :: tail) (1 + 1 + 16) 2 (by omega)))
            have whole := observed_split 16 length
            rw [observedAddrPlaintext, ipBytes, ← whole] at accepted
            exact accepted

theorem parses_of_parseDialBackReq
    (done : session.parseDialBackReq (dialBackReqTag :: later) = .ok event) :
    Parses (session.inSeq - 1) msgId .control (dialBackReqTag :: later) event := by
  simp only [parseDialBackReq, takeAddr, Outcome.bind_eq_ok_iff, Outcome.pure_eq,
    Outcome.ok.injEq] at done
  obtain ⟨addr, ⟨⟨found, rest⟩, taken, rfl⟩, rfl⟩ := done
  obtain ⟨text, spells, whole⟩ := takeAddrWithRest_eq_ok_iff.mp taken
  rw [whole]
  exact .dialBackReq spells rest

theorem parses_of_parseDialBackRes
    (done : session.parseDialBackRes (dialBackResTag :: later) = .ok event) :
    Parses (session.inSeq - 1) msgId .control (dialBackResTag :: later) event := by
  unfold parseDialBackRes at done
  split at done
  · cases done
  · split at done
    · rename_i addr flag taken
      cases done
      obtain ⟨text, spells, whole⟩ := takeAddrWithRest_eq_ok_iff.mp taken
      rw [whole]
      exact .dialBackRes spells flag
    · cases done
    · cases done
    · cases done

/-- The parser accepts exactly these plaintexts. -/
theorem parsePlaintext_eq_ok_iff {msgType : MessageType} :
    session.parsePlaintext msgType msgId bytes = .ok event ↔
      Parses (session.inSeq - 1) msgId msgType bytes event := by
  constructor
  · intro done
    unfold parsePlaintext at done
    split at done
    · cases done
    · rename_i tag later
      split at done
      · rename_i kind
        obtain ⟨rfl, rfl⟩ := kind
        exact parses_of_parseMessage done
      split at done
      · rename_i kind
        obtain ⟨rfl, rfl⟩ := kind
        exact parses_of_parseAck _ done
      split at done
      · rename_i kind
        obtain ⟨rfl, rfl⟩ := kind
        exact parses_of_parseObservedAddr done
      split at done
      · rename_i kind
        obtain ⟨rfl, rfl⟩ := kind
        exact parses_of_parseDialBackReq done
      split at done
      · rename_i kind
        obtain ⟨rfl, rfl⟩ := kind
        exact parses_of_parseDialBackRes done
      · cases done
  · intro parses
    cases parses with
    | message text ts => exact Outbound.parseMessage_messagePlaintext session text msgId ts
    | ack ackMsgId ackSeq ts => exact Outbound.parseAck_ackPlaintext ackMsgId ackSeq ts
    | observedAddr ip sourcePort =>
        exact Outbound.parseObservedAddr_observedAddrPlaintext session ip sourcePort
    | dialBackReq spells rest =>
        have taken := Outbound.takeAddrWithRest_lengthPrefixed spells.positive spells.bounded
          spells.reads dialBackReqTag rest
        change session.parseDialBackReq _ = _
        rw [parseDialBackReq, takeAddr, taken]
        rfl
    | dialBackRes spells flag =>
        rename_i text addr
        have taken := Outbound.takeAddrWithRest_lengthPrefixed spells.positive spells.bounded
          spells.reads dialBackResTag [flag]
        have long : ¬([dialBackResTag] ++ lengthPrefixed 2 (utf8Bytes text) ++ [flag]).length <
            1 + 2 + 1 := by
          simp only [List.length_append, List.length_singleton, length_lengthPrefixed]
          omega
        change session.parseDialBackRes _ = _
        rw [parseDialBackRes, if_neg long, taken]

/-! ### How the parser fails -/

theorem takeAddrWithRest_fails (bytes : Bytes) :
    (takeAddrWithRest bytes).FailsWithin (· = .malformedPlaintext) := by
  fun_cases takeAddrWithRest bytes
  case case6 => trivial
  all_goals rfl

/-- The parser indexes within bounds and knows one error. -/
theorem parsePlaintext_fails (session : Session) (msgType : MessageType) (msgId : UInt64)
    (bytes : Bytes) :
    (session.parsePlaintext msgType msgId bytes).FailsWithin (· = .malformedPlaintext) := by
  cases bytes with
  | nil => rfl
  | cons tag later =>
      have read := takeAddrWithRest_fails (tag :: later)
      unfold parsePlaintext
      dsimp only
      split
      · unfold parseMessage
        split
        · rfl
        · dsimp only
          split
          · rfl
          · trivial
      split
      · unfold parseAck
        split
        · rfl
        · trivial
      split
      · unfold parseObservedAddr
        split
        · rfl
        · dsimp only
          split
          · rfl
          · trivial
      split
      · rw [parseDialBackReq, takeAddr]
        apply Outcome.FailsWithin.bind
        · apply Outcome.FailsWithin.bind read
          intro taken
          trivial
        · intro addr
          trivial
      split
      · unfold parseDialBackRes
        split
        · rfl
        · split
          · trivial
          · rfl
          · rename_i error taken
            rw [taken] at read
            exact read
          · rename_i taken
            rw [taken] at read
            exact read
      · rfl

/-! ### What the sealing operations build -/

/-- The plaintext of an operation that stands for the event. -/
def Built (seq : UInt32) (msgType : MessageType) (msgId : UInt64) (bytes : Bytes)
    (event : Inbound) : Prop :=
  ∃ op : Outbound, op.Transmittable ∧ op.msgType = msgType ∧ op.msgId = msgId ∧
    op.plaintext = bytes ∧ op.event seq = event

/-- The parser does what its grammar says: it ends, it accepts what the sealing
operations build, with the event it was built for, and calls everything else
malformed. -/
structure Exact (session : Session) (msgType : MessageType) (msgId : UInt64) (bytes : Bytes) :
    Prop where
  ends : session.parsePlaintext msgType msgId bytes ≠ .panic
  accepts : ∀ event, session.parsePlaintext msgType msgId bytes = .ok event ↔
    Built (session.inSeq - 1) msgType msgId bytes event
  rejects : (∀ event, ¬Built (session.inSeq - 1) msgType msgId bytes event) →
    session.parsePlaintext msgType msgId bytes = .err .malformedPlaintext

/-- The plaintexts the parser accepts although no operation builds them: a
message beyond the limit of the sender, a dial-back request with something
after its address, a dial-back result with another flag than 0 and 1, and an
address not spelled as the sender spells it. -/
inductive Lax : MessageType → Bytes → Prop
  | message {text : String} (ts : UInt64) (long : maxMessageBytes < (utf8Bytes text).length) :
      Lax .message (messagePlaintext text ts)
  | dialBackReq {text : String} {addr : Multiaddr} {rest : Bytes} (spells : Spells text addr)
      (loose : rest ≠ [] ∨ multiaddrToString addr ≠ text) :
      Lax .control ([dialBackReqTag] ++ lengthPrefixed 2 (utf8Bytes text) ++ rest)
  | dialBackRes {text : String} {addr : Multiaddr} {flag : UInt8} (spells : Spells text addr)
      (loose : flag ≠ 0 ∧ flag ≠ 1 ∨ multiaddrToString addr ≠ text) :
      Lax .control ([dialBackResTag] ++ lengthPrefixed 2 (utf8Bytes text) ++ [flag])

theorem Built.parses {msgType : MessageType}
    (built : Built (session.inSeq - 1) msgType msgId bytes event) :
    session.parsePlaintext msgType msgId bytes = .ok event := by
  obtain ⟨op, transmittable, rfl, rfl, rfl, rfl⟩ := built
  exact Outbound.parsePlaintext_plaintext transmittable session

theorem Spells.carriable {addr : Multiaddr} (spells : Spells (multiaddrToString addr) addr) :
    Outbound.Carriable addr where
  nonempty := by
    intro empty
    have positive := spells.positive
    rw [empty] at positive
    exact absurd positive (by decide)
  bounded := spells.bounded
  parses := spells.reads

theorem addrBytes_of_carriable {addr : Multiaddr} (carriable : Outbound.Carriable addr) :
    Outbound.addrBytes addr = lengthPrefixed 2 (utf8Bytes (multiaddrToString addr)) := by
  rw [Outbound.addrBytes, Outbound.carriedText_of_bounded carriable, lengthPrefixed]

/-- What the parser accepts and is not lax about, an operation builds. -/
theorem Parses.built {seq : UInt32} {msgType : MessageType}
    (parses : Parses seq msgId msgType bytes event) (strict : ¬Lax msgType bytes) :
    Built seq msgType msgId bytes event := by
  cases parses with
  | message text ts =>
      have short : (utf8Bytes text).length ≤ maxMessageBytes := by
        by_contra long
        exact strict (.message ts (Nat.lt_of_not_le long))
      exact ⟨.message text msgId ts, short, rfl, rfl, rfl, rfl⟩
  | ack ackMsgId ackSeq ts =>
      exact ⟨.ack ackMsgId ackSeq ts msgId, trivial, rfl, rfl, rfl, rfl⟩
  | observedAddr ip sourcePort =>
      exact ⟨.observedAddr ip sourcePort msgId, trivial, rfl, rfl, rfl, rfl⟩
  | dialBackReq spells rest =>
      rename_i text addr
      by_cases loose : rest ≠ [] ∨ multiaddrToString addr ≠ text
      · exact absurd (.dialBackReq spells loose) strict
      · simp only [not_or, ne_eq, not_not] at loose
        obtain ⟨rfl, rfl⟩ := loose
        refine ⟨.dialBackReq addr msgId, spells.carriable, rfl, rfl, ?_, rfl⟩
        rw [Outbound.plaintext, addrBytes_of_carriable spells.carriable, List.append_nil]
  | dialBackRes spells flag =>
      rename_i text addr
      by_cases loose : flag ≠ 0 ∧ flag ≠ 1 ∨ multiaddrToString addr ≠ text
      · exact absurd (.dialBackRes spells loose) strict
      · simp only [not_or, ne_eq, not_not, not_and, not_not] at loose
        obtain ⟨flags, rfl⟩ := loose
        refine ⟨.dialBackRes addr (flag == 1) msgId, spells.carriable, rfl, rfl, ?_, rfl⟩
        rw [Outbound.plaintext, addrBytes_of_carriable spells.carriable]
        by_cases zero : flag = 0
        · rw [zero]
          rfl
        · rw [flags zero]
          rfl

theorem spelling_eq {text : String} {addr : Multiaddr} {tag : UInt8} {rest rest' : Bytes}
    (spells : Spells text addr) (carriable : Outbound.Carriable addr)
    (same : [tag] ++ Outbound.addrBytes addr ++ rest =
      [tag] ++ lengthPrefixed 2 (utf8Bytes text) ++ rest') :
    multiaddrToString addr = text ∧ rest = rest' := by
  have fits : maxControlAddrBytes < 256 ^ 2 := by decide
  have bounded := carriable.bounded
  have bounded' := spells.bounded
  rw [addrBytes_of_carriable carriable, List.append_assoc, List.append_assoc,
    List.append_cancel_left_eq] at same
  have parts := lengthPrefixed_selfDelimiting 2 (utf8Bytes (multiaddrToString addr))
    (utf8Bytes text) rest rest' (by omega) (by omega) same
  exact ⟨utf8Bytes_injective parts.1, parts.2⟩

/-- The parser accepts a lax plaintext, which no operation builds. -/
theorem Lax.accepted {msgType : MessageType} (lax : Lax msgType bytes) (session : Session)
    (msgId : UInt64) :
    ∃ event, session.parsePlaintext msgType msgId bytes = .ok event ∧
      ¬Built (session.inSeq - 1) msgType msgId bytes event := by
  cases lax with
  | message ts long =>
      refine ⟨_, parsePlaintext_eq_ok_iff.mpr (.message _ ts), ?_⟩
      rintro ⟨op, transmittable, -, -, -, same⟩
      cases op with
      | message text _ _ =>
          cases same
          exact absurd long (Nat.not_lt_of_le transmittable)
      | _ => cases same
  | dialBackReq spells loose =>
      rename_i rest
      refine ⟨_, parsePlaintext_eq_ok_iff.mpr (.dialBackReq spells rest), ?_⟩
      rintro ⟨op, transmittable, -, -, written, same⟩
      cases op with
      | dialBackReq addr _ =>
          cases same
          rw [Outbound.plaintext, ← List.append_nil ([dialBackReqTag] ++ _)] at written
          obtain ⟨spelling, rfl⟩ := spelling_eq spells transmittable written
          exact loose.elim (fun more => more rfl) (fun other => other spelling)
      | _ => cases same
  | dialBackRes spells loose =>
      rename_i flag
      refine ⟨_, parsePlaintext_eq_ok_iff.mpr (.dialBackRes spells flag), ?_⟩
      rintro ⟨op, transmittable, -, -, written, same⟩
      cases op with
      | dialBackRes addr reachable _ =>
          cases same
          obtain ⟨spelling, flags⟩ := spelling_eq spells transmittable written
          have two : flag = 0 ∨ flag = 1 := by
            have flagged := List.singleton_inj.mp flags
            by_cases one : flag = 1
            · exact .inr one
            · simp only [beq_eq_false_iff_ne.mpr one] at flagged
              exact .inl flagged.symm
          exact loose.elim (fun neither => two.elim neither.1 neither.2)
            (fun other => other spelling)
      | _ => cases same

/-- The parser is exact on a plaintext exactly if that is not a lax one. -/
theorem parsePlaintext_exact_iff (session : Session) (msgType : MessageType) (msgId : UInt64)
    (bytes : Bytes) : Exact session msgType msgId bytes ↔ ¬Lax msgType bytes := by
  constructor
  · intro exact lax
    obtain ⟨event, accepted, unbuilt⟩ := lax.accepted session msgId
    exact unbuilt ((exact.accepts event).mp accepted)
  · intro strict
    have fails := parsePlaintext_fails session msgType msgId bytes
    have accepts (event : Inbound) : session.parsePlaintext msgType msgId bytes = .ok event ↔
        Built (session.inSeq - 1) msgType msgId bytes event := by
      constructor
      · intro done
        exact (parsePlaintext_eq_ok_iff.mp done).built strict
      · intro built
        exact built.parses
    refine ⟨fails.ne_panic, accepts, ?_⟩
    intro unbuilt
    cases outcome : session.parsePlaintext msgType msgId bytes with
    | ok event => exact absurd ((accepts event).mp outcome) (unbuilt event)
    | err error =>
        rw [outcome] at fails
        rw [show error = .malformedPlaintext from fails]
    | panic => exact absurd outcome fails.ne_panic

/-! ### A trailing byte -/

def probedText : String := "/ip4/203.0.113.7/tcp/4001"

def probedAddr : MultiaddrOf Bytes := [.ip4 ⟨[203, 0, 113, 7], rfl⟩, .tcp 4001]

@[reducible] noncomputable def probedCrates : Crates := symbolicCrates [] [probedAddr]

omit [Crates] in
theorem spells_probed :
    letI := probedCrates
    Spells probedText probedAddr := by
  let _ := probedCrates
  refine ⟨by decide, by decide, ?_⟩
  change Symbolic.readAddr [probedAddr] probedText = some probedAddr
  have written : Symbolic.addrText probedAddr = probedText := by decide
  rw [Symbolic.readAddr, List.find?_cons_of_pos (by simp only [written, decide_true])]

def probedSession : Session where
  sessionId := Octets.zero 16
  sendKey := Octets.zero 32
  recvKey := Octets.zero 32
  myDir := lowerDir
  peerDir := higherDir
  outSeq := 0
  inSeq := 1
  seqViolations := 0
  seen := [(0, 0)]

def trailedRequest : Bytes :=
  [dialBackReqTag] ++ lengthPrefixed 2 (utf8Bytes probedText) ++ [0]

omit [Crates] in
/-- The parser takes the request with the trailing byte, which no operation
builds. -/
theorem trailedRequest_accepted :
    letI := probedCrates
    probedSession.parsePlaintext .control 0 trailedRequest = .ok (.dialBackReq 0 probedAddr) ∧
      (∀ event, ¬Built (probedSession.inSeq - 1) .control 0 trailedRequest event) ∧
      ¬Exact probedSession .control 0 trailedRequest := by
  let _ := probedCrates
  have accepted : probedSession.parsePlaintext .control 0 trailedRequest =
      .ok (.dialBackReq 0 probedAddr) :=
    parsePlaintext_eq_ok_iff.mpr (.dialBackReq spells_probed [0])
  have lax : Lax .control trailedRequest := .dialBackReq spells_probed (.inl (by decide))
  obtain ⟨event, parsed, unbuilt⟩ := lax.accepted probedSession 0
  have nothing (other : Inbound) :
      ¬Built (probedSession.inSeq - 1) .control 0 trailedRequest other := by
    intro built
    have same : other = event := Outcome.ok.inj (built.parses.symm.trans parsed)
    exact unbuilt (same ▸ built)
  refine ⟨accepted, nothing, ?_⟩
  intro exact
  exact nothing _ ((exact.accepts _).mp accepted)

end Session

end JeanGrey
