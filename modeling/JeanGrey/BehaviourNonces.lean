/-
No nonce is used twice.

A handshake returns its result once, and the behaviour builds one session from
it.  A session counts what it seals, so its nonces differ from each other; the
two ends of a session order the transcript differently, so their nonces carry
different direction tags.
-/

import JeanGrey.BehaviourLives
import JeanGrey.HandshakeAgreement
import JeanGrey.HandshakeSequences
import JeanGrey.SessionIntegrity

namespace JeanGrey

open Crates Runs

variable [Crates]

/-! ### Numbered handshakes -/

namespace SessionBehaviour

def starts (behaviour : SessionBehaviour) : BehaviourAction → Option Connection
  | .handlerEvent transport connId .substreamReady =>
      if (behaviour.handshakes.lookup (transport, connId)).isSome then none
      else some (transport, connId)
  | _ => none

end SessionBehaviour

/-- A run whose handshake instances are numbered in the order in which they are
created. -/
structure Numbered where
  observed : Observed
  created : Nat
  /-- The number of the last handshake of a connection. -/
  number : Connection → Nat
  /-- The instances that have returned a result, and the results. -/
  completed : List (Nat × HandshakeResult)

namespace Numbered

def start (identity : DeviceIdentity) : Numbered :=
  { observed := .start identity
    created := 0
    number := fun _ => 0
    completed := [] }

def after (numbered : Numbered) (moment : Moment) (action : BehaviourAction)
    (next : SessionBehaviour) : Numbered :=
  let behaviour := numbered.observed.behaviour
  { observed := numbered.observed.after moment action next
    created := numbered.created + (behaviour.starts action).toList.length
    number :=
      match behaviour.starts action with
      | none => numbered.number
      | some conn => Function.update numbered.number conn numbered.created
    completed := numbered.completed ++ (behaviour.delivers moment action).toList.map
      fun delivered => (numbered.number delivered.1, delivered.2) }

inductive Step (profile : Profile) : Numbered → Numbered → Prop
  | act {numbered : Numbered} {next : SessionBehaviour} (moment : Moment)
      (action : BehaviourAction)
      (acted : numbered.observed.behaviour.act profile moment action = some next) :
      Step profile numbered (numbered.after moment action next)
  | rehash {numbered : Numbered} {next : SessionBehaviour}
      (rehashed : numbered.observed.behaviour.Rehashed next) :
      Step profile numbered
        { numbered with observed := { numbered.observed with behaviour := next } }

def Reachable (profile : Profile) (identity : DeviceIdentity) (numbered : Numbered) : Prop :=
  Relation.ReflTransGen (Step profile) (start identity) numbered

/-- The instances in use are different from each other and have returned
nothing yet, and nobody has returned twice. -/
structure Fresh (numbered : Numbered) : Prop where
  created : ∀ conn entry, numbered.observed.behaviour.handshakes.lookup conn = some entry →
    numbered.number conn < numbered.created
  apart : ∀ conn other entry entry',
    numbered.observed.behaviour.handshakes.lookup conn = some entry →
    numbered.observed.behaviour.handshakes.lookup other = some entry' →
    numbered.number conn = numbered.number other → conn = other
  pending : ∀ conn entry, numbered.observed.behaviour.handshakes.lookup conn = some entry →
    ∀ result, (numbered.number conn, result) ∉ numbered.completed
  bounded : ∀ done ∈ numbered.completed, done.1 < numbered.created
  once : (numbered.completed.map Prod.fst).Nodup

theorem fresh_start (identity : DeviceIdentity) : (start identity).Fresh :=
  { created := fun _ _ found => (nomatch found)
    apart := fun _ _ _ _ found => (nomatch found)
    pending := fun _ _ found => (nomatch found)
    bounded := fun _ member => (nomatch member)
    once := List.nodup_nil }

variable {profile : Profile} {numbered : Numbered} {next : SessionBehaviour} {moment : Moment}
  {action : BehaviourAction}

theorem Fresh.rehash (fresh : numbered.Fresh)
    (rehashed : numbered.observed.behaviour.Rehashed next) :
    Fresh { numbered with observed := { numbered.observed with behaviour := next } } := by
  have same (conn : Connection) : next.handshakes.lookup conn =
      numbered.observed.behaviour.handshakes.lookup conn := AList.perm_lookup rehashed.handshakes
  refine ⟨?_, ?_, ?_, fresh.bounded, fresh.once⟩
  · intro conn entry found
    exact fresh.created conn entry ((same conn).symm.trans found)
  · intro conn other entry entry' found found'
    exact fresh.apart conn other entry entry' ((same conn).symm.trans found)
      ((same other).symm.trans found')
  · intro conn entry found
    exact fresh.pending conn entry ((same conn).symm.trans found)

theorem stored_before {conn : Connection} {entry : Handshake × Option PeerId}
    (acted : numbered.observed.behaviour.act profile moment action = some next)
    (found : next.handshakes.lookup conn = some entry) :
    (∃ before, numbered.observed.behaviour.handshakes.lookup conn = some before) ∨
      numbered.observed.behaviour.starts action = some conn := by
  cases SessionBehaviour.act_descends acted found with
  | kept before => exact .inl ⟨_, before⟩
  | replied received typed before => exact .inl ⟨_, before⟩
  | new expected now ready absent =>
      rw [ready]
      right
      change (if (numbered.observed.behaviour.handshakes.lookup conn).isSome then none
        else some conn) = some conn
      rw [absent]
      rfl

theorem absent_of_starts {conn : Connection}
    (starts : numbered.observed.behaviour.starts action = some conn) :
    numbered.observed.behaviour.handshakes.lookup conn = none := by
  unfold SessionBehaviour.starts at starts
  split at starts
  · split at starts
    · cases starts
    · rename_i absent
      cases starts
      exact Option.not_isSome_iff_eq_none.mp absent
  · cases starts

theorem Fresh.create (fresh : numbered.Fresh) {created : Connection}
    (acted : numbered.observed.behaviour.act profile moment action = some next)
    (starts : numbered.observed.behaviour.starts action = some created)
    (undelivered : numbered.observed.behaviour.delivers moment action = none) :
    (numbered.after moment action next).Fresh := by
  have absent := absent_of_starts starts
  have stored {conn : Connection} {entry : Handshake × Option PeerId}
      (found : next.handshakes.lookup conn = some entry) :
      (conn ≠ created ∧ ∃ before,
        numbered.observed.behaviour.handshakes.lookup conn = some before) ∨ conn = created := by
    by_cases same : conn = created
    · exact .inr same
    · rcases stored_before acted found with before | begins
      · exact .inl ⟨same, before⟩
      · rw [starts] at begins
        exact absurd (Option.some.inj begins).symm same
  have number (conn : Connection) : (numbered.after moment action next).number conn =
      Function.update numbered.number created numbered.created conn := by
    simp only [after, starts]
  have grown : (numbered.after moment action next).created = numbered.created + 1 := by
    simp only [after, starts, Option.toList_some, List.length_singleton]
  have done : (numbered.after moment action next).completed = numbered.completed := by
    simp only [after, undelivered, Option.toList_none, List.map_nil, List.append_nil]
  refine ⟨?_, ?_, ?_, ?_, ?_⟩
  · intro conn entry found
    rw [number, grown]
    rcases stored found with ⟨different, before, held⟩ | rfl
    · rw [Function.update_of_ne different]
      exact Nat.lt_succ_of_lt (fresh.created conn before held)
    · rw [Function.update_self]
      exact Nat.lt_succ_self _
  · intro conn other entry entry' found found'
    rw [number, number]
    rcases stored found with ⟨different, before, held⟩ | rfl
    · have earlier := fresh.created conn before held
      rcases stored found' with ⟨different', before', held'⟩ | rfl
      · rw [Function.update_of_ne different, Function.update_of_ne different']
        exact fresh.apart conn other before before' held held'
      · rw [Function.update_of_ne different, Function.update_self]
        intro same
        omega
    · rcases stored found' with ⟨different', before', held'⟩ | rfl
      · have earlier := fresh.created other before' held'
        rw [Function.update_of_ne different', Function.update_self]
        intro same
        omega
      · exact fun _ => rfl
  · intro conn entry found result
    rw [number, done]
    rcases stored found with ⟨different, before, held⟩ | rfl
    · rw [Function.update_of_ne different]
      exact fresh.pending conn before held result
    · rw [Function.update_self]
      intro member
      exact absurd (fresh.bounded _ member) (Nat.lt_irrefl _)
  · rw [done, grown]
    intro other member
    exact Nat.lt_succ_of_lt (fresh.bounded other member)
  · rw [done]
    exact fresh.once

theorem Fresh.keep (fresh : numbered.Fresh)
    (stored : ∀ conn entry, next.handshakes.lookup conn = some entry →
      ∃ before, numbered.observed.behaviour.handshakes.lookup conn = some before)
    (starts : numbered.observed.behaviour.starts action = none)
    (undelivered : numbered.observed.behaviour.delivers moment action = none) :
    (numbered.after moment action next).Fresh := by
  have number : (numbered.after moment action next).number = numbered.number := by
    simp only [after, starts]
  have grown : (numbered.after moment action next).created = numbered.created := by
    simp only [after, starts, Option.toList_none, List.length_nil, Nat.add_zero]
  have done : (numbered.after moment action next).completed = numbered.completed := by
    simp only [after, undelivered, Option.toList_none, List.map_nil, List.append_nil]
  refine ⟨?_, ?_, ?_, ?_, ?_⟩
  · intro conn entry found
    obtain ⟨before, held⟩ := stored conn entry found
    rw [number, grown]
    exact fresh.created conn before held
  · intro conn other entry entry' found found'
    obtain ⟨before, held⟩ := stored conn entry found
    obtain ⟨before', held'⟩ := stored other entry' found'
    rw [number]
    exact fresh.apart conn other before before' held held'
  · intro conn entry found
    obtain ⟨before, held⟩ := stored conn entry found
    rw [number, done]
    exact fresh.pending conn before held
  · rw [done, grown]
    exact fresh.bounded
  · rw [done]
    exact fresh.once

theorem Fresh.deliver (fresh : numbered.Fresh) {conn : Connection}
    {entry : Handshake × Option PeerId} {result : HandshakeResult}
    (found : numbered.observed.behaviour.handshakes.lookup conn = some entry)
    (starts : numbered.observed.behaviour.starts action = none)
    (delivers : numbered.observed.behaviour.delivers moment action = some (conn, result))
    (forgotten : next.handshakes = numbered.observed.behaviour.handshakes.erase conn) :
    (numbered.after moment action next).Fresh := by
  have number : (numbered.after moment action next).number = numbered.number := by
    simp only [after, starts]
  have grown : (numbered.after moment action next).created = numbered.created := by
    simp only [after, starts, Option.toList_none, List.length_nil, Nat.add_zero]
  have done : (numbered.after moment action next).completed =
      numbered.completed ++ [(numbered.number conn, result)] := by
    simp only [after, delivers, Option.toList_some, List.map_cons, List.map_nil]
  have stored {other : Connection} {entry : Handshake × Option PeerId}
      (held : next.handshakes.lookup other = some entry) : other ≠ conn ∧
        numbered.observed.behaviour.handshakes.lookup other = some entry := by
    rw [forgotten] at held
    refine ⟨?_, SessionBehaviour.lookup_of_lookup_erase held⟩
    rintro rfl
    rw [AList.lookup_erase] at held
    cases held
  refine ⟨?_, ?_, ?_, ?_, ?_⟩
  · intro other entry held
    rw [number, grown]
    exact fresh.created other entry (stored held).2
  · intro one other entry entry' held held'
    rw [number]
    exact fresh.apart one other entry entry' (stored held).2 (stored held').2
  · intro other kept held report
    obtain ⟨different, before⟩ := stored held
    rw [number, done]
    intro member
    rcases List.mem_append.mp member with old | new
    · exact fresh.pending other kept before report old
    · have same := congrArg Prod.fst (List.mem_singleton.mp new)
      exact different (fresh.apart other conn kept entry before found same)
  · rw [done, grown]
    refine List.forall_mem_append.mpr ⟨fresh.bounded, List.forall_mem_singleton.mpr ?_⟩
    exact fresh.created conn entry found
  · rw [done, List.map_append]
    refine List.Nodup.append fresh.once (List.nodup_singleton _) ?_
    intro index old new
    rw [List.map_singleton, List.mem_singleton] at new
    obtain ⟨⟨_, report⟩, member, rfl⟩ := List.mem_map.mp old
    dsimp only at new
    rw [new] at member
    exact fresh.pending conn entry found report member

end Numbered

def SessionMove.built : SessionMove → Option HandshakeResult
  | begins _ _ _ result => some result
  | _ => none

theorem SessionMove.built_of_unbegun {moves : List SessionMove}
    (unbegun : ∀ move ∈ moves, move.isBegins = false) : moves.filterMap SessionMove.built = [] := by
  rw [List.filterMap_eq_nil_iff]
  intro move member
  cases move with
  | begins device conn handshake result => cases unbegun _ member
  | _ => rfl

namespace Numbered

variable {profile : Profile} {numbered : Numbered} {next : SessionBehaviour} {moment : Moment}
  {action : BehaviourAction}

/-- The history of a run, in which one session begins for each returned
result. -/
structure Explained (profile : Profile) (identity : DeviceIdentity) (numbered : Numbered)
    (moves : List SessionMove) : Prop where
  history : Observed.History profile identity numbered.observed moves
  fresh : numbered.Fresh
  built : moves.filterMap SessionMove.built = numbered.completed.map Prod.snd

theorem Explained.act {identity : DeviceIdentity} {moves : List SessionMove}
    (explained : Explained profile identity numbered moves)
    (acted : numbered.observed.behaviour.act profile moment action = some next) :
    ∃ later, Explained profile identity (numbered.after moment action next) (moves ++ later) := by
  obtain ⟨⟨later, call⟩, -⟩ := SessionBehaviour.exists_call explained.history.regular acted
  have history := explained.history.call acted call
  cases call.births with
  | none undelivered unbegun =>
      have built : (moves ++ later).filterMap SessionMove.built =
          (numbered.after moment action next).completed.map Prod.snd := by
        rw [List.filterMap_append, explained.built, SessionMove.built_of_unbegun unbegun]
        simp only [after, undelivered, Option.toList_none, List.map_nil, List.append_nil]
      refine ⟨later, history, ?_, built⟩
      cases starts : numbered.observed.behaviour.starts action with
      | none =>
          refine explained.fresh.keep ?_ starts undelivered
          intro conn entry found
          rcases stored_before acted found with before | begins
          · exact before
          · rw [starts] at begins
            cases begins
      | some conn => exact explained.fresh.create acted starts undelivered
  | one received typed found established forgotten unbegun =>
      rename_i conn handshake expected frame result later
      have delivers : numbered.observed.behaviour.delivers moment action = some (conn, result) := by
        rw [received]
        exact SessionBehaviour.delivers_of_established typed found established
      have starts : numbered.observed.behaviour.starts action = none := by
        rw [received]
        rfl
      refine ⟨_, history, explained.fresh.deliver found starts delivers forgotten, ?_⟩
      have begun : SessionMove.built (.begins result.peerId conn
          (handshake.onFrame numbered.observed.behaviour.identity frame moment.random).handshake
          result) = some result := rfl
      rw [List.filterMap_append, explained.built, List.filterMap_cons_some begun,
        SessionMove.built_of_unbegun unbegun]
      simp only [after, delivers, Option.toList_some, List.map_cons, List.map_nil, List.map_append]

theorem Reachable.explained {identity : DeviceIdentity}
    (reachable : Reachable profile identity numbered) :
    ∃ moves, Explained profile identity numbered moves := by
  induction reachable with
  | refl => exact ⟨[], .start profile identity, fresh_start identity, rfl⟩
  | tail _ step ih =>
      obtain ⟨moves, explained⟩ := ih
      cases step with
      | act moment action acted =>
          obtain ⟨later, after⟩ := explained.act acted
          exact ⟨_, after⟩
      | rehash rehashed =>
          exact ⟨moves, explained.history.rehash rehashed, explained.fresh.rehash rehashed,
            explained.built⟩

end Numbered

theorem Numbered.Reachable.converse {profile : Profile} {identity : DeviceIdentity}
    {numbered : Numbered} (reachable : Numbered.Reachable profile identity numbered)
    {conn : Connection} {calls : List (HandlerToBehaviour × Moment)} {next : SessionBehaviour}
    (conversed : numbered.observed.behaviour.converse profile conn calls = some next) :
    ∃ final, Numbered.Reachable profile identity final ∧
      final.observed = { numbered.observed with behaviour := next } := by
  have preserved (behaviour : SessionBehaviour) (call : HandlerToBehaviour × Moment)
      (after : SessionBehaviour)
      (reached : ∃ final, Numbered.Reachable profile identity final ∧
        final.observed = { numbered.observed with behaviour := behaviour })
      (handled : behaviour.onHandlerEvent profile conn.1 conn.2 call.1 call.2 = some after) :
      ∃ final, Numbered.Reachable profile identity final ∧
        final.observed = { numbered.observed with behaviour := after } := by
    obtain ⟨final, reached, same⟩ := reached
    have acted : final.observed.behaviour.act profile call.2
        (.handlerEvent conn.1 conn.2 call.1) = some after := by
      rw [same]
      exact handled
    refine ⟨_, reached.tail (.act call.2 _ acted), ?_⟩
    simp only [Numbered.after, Observed.after, same, BehaviourAction.asked,
      SessionBehaviour.unasked, SessionBehaviour.popped, Option.toList_none, List.append_nil]
  exact run_preserved preserved ⟨numbered, reachable, rfl⟩ conversed

/-! ### Nonces -/

namespace Life

variable {profile : Profile} {life left right : Life}

def nonces (life : Life) : List (Octets 12) :=
  life.sealed.map fun entry => Session.nonce (Session.new life.result).myDir entry.frame.seq

theorem ciphertext_of_ledger {session : Session} (ledger : Ledger life.result session life.sealed)
    {entry : Sealed} (member : entry ∈ life.sealed) :
    entry.frame.payload = (entry.call (Session.new life.result)).ciphertext := by
  obtain ⟨index, found⟩ := List.mem_iff_getElem?.mp member
  have sealed := (ledger.frames index entry found).1
  unfold Sealed.call AeadCall.ciphertext
  rw [sealed]
  rfl

theorem nodup_nonces {session : Session} (ledger : Ledger life.result session life.sealed) :
    life.nonces.Nodup := by
  rw [List.nodup_iff_getElem?_ne_getElem?]
  intro first second earlier within same
  have inside : second < life.sealed.length := by
    rwa [nonces, List.length_map] at within
  have one : life.sealed[first]? = some life.sealed[first] :=
    List.getElem?_eq_getElem (Nat.lt_trans earlier inside)
  have two : life.sealed[second]? = some life.sealed[second] := List.getElem?_eq_getElem inside
  rw [nonces, List.getElem?_map, List.getElem?_map, one, two] at same
  have counts := (Session.nonce_inj (Option.some.inj same)).2
  have position := ledger.seq_eq one
  rw [counts, ledger.seq_eq two] at position
  omega

/-- Sessions whose direction tags differ share no nonce. -/
theorem disjoint_nonces
    (tags : (Session.new left.result).myDir ≠ (Session.new right.result).myDir) :
    left.nonces.Disjoint right.nonces := by
  intro nonce used used'
  obtain ⟨entry, -, rfl⟩ := List.mem_map.mp used
  obtain ⟨entry', -, same⟩ := List.mem_map.mp used'
  exact tags (Session.nonce_inj same).1.symm

/-- Sessions tag their frames alike where they put themselves at the same place of
the transcript. -/
theorem myDir_eq_iff (left right : HandshakeResult) :
    (Session.new left).myDir = (Session.new right).myDir ↔
      (left.myId < left.peerId ↔ right.myId < right.peerId) := by
  change (if left.myId < left.peerId then Session.lowerDir else Session.higherDir) =
    (if right.myId < right.peerId then Session.lowerDir else Session.higherDir) ↔ _
  by_cases lower : left.myId < left.peerId
  · by_cases lower' : right.myId < right.peerId
    · rw [if_pos lower, if_pos lower']
      exact iff_of_true rfl (iff_of_true lower lower')
    · rw [if_pos lower, if_neg lower']
      exact iff_of_false Session.lowerDir_ne_higherDir fun both => lower' (both.mp lower)
  · by_cases lower' : right.myId < right.peerId
    · rw [if_neg lower, if_pos lower']
      exact iff_of_false Session.lowerDir_ne_higherDir.symm fun both => lower (both.mpr lower')
    · rw [if_neg lower, if_neg lower']
      exact iff_of_true rfl (iff_of_false lower lower')

/-- Two sessions with one transcript hold the same payloads: on the same side, if
they tag their frames alike, and crosswise otherwise. -/
theorem holds_of_transcript (hash : Sha256Injective) {first second : DeviceIdentity}
    {transcript : Bytes} (short : (encodeHello first).length < 2 ^ 32)
    (short' : (encodeHello second).length < 2 ^ 32)
    (complete : left.handshake.Consistent first ∧ left.handshake.ResultOf left.result)
    (complete' : right.handshake.Consistent second ∧ right.handshake.ResultOf right.result)
    (has : left.handshake.transcript = some transcript)
    (has' : right.handshake.transcript = some transcript) :
    ∃ mine theirs, left.handshake.Holds mine theirs ∧
      if (Session.new left.result).myDir = (Session.new right.result).myDir then
        right.handshake.Holds mine theirs
      else right.handshake.Holds theirs mine := by
  obtain ⟨consistent, result⟩ := complete
  obtain ⟨consistent', result'⟩ := complete'
  obtain ⟨peer, mine, theirs, _, _, _, filled, same, -⟩ :=
    Handshake.complete_of_transcript consistent has
  obtain ⟨peer', mine', theirs', _, _, _, filled', same', -⟩ :=
    Handshake.complete_of_transcript consistent' has'
  have samePeer : left.result.peerId = peer :=
    Option.some.inj (result.peerId.symm.trans filled.peerId)
  have samePeer' : right.result.peerId = peer' :=
    Option.some.inj (result'.peerId.symm.trans filled'.peerId)
  refine ⟨mine, theirs, filled.holds, ?_⟩
  rw [← result.myId, ← samePeer] at same
  rw [← result'.myId, ← samePeer'] at same'
  have places := myDir_eq_iff left.result right.result
  rcases payloads_of_transcript hash ((filled.origin consistent).fits short)
      ((filled'.origin consistent').fits short') (same.symm.trans same') with
    ⟨alike, rfl, rfl⟩ | ⟨opposite, rfl, rfl⟩
  · rw [if_pos (places.mpr alike)]
    exact filled'.holds
  · rw [if_neg fun equal => opposite (places.mp equal)]
    exact filled'.holds

/-- The two ends of a session hold one transcript, and each has generated a KEM
key of its own. -/
structure Ends (left right : Life) : Prop where
  transcript : ∃ transcript, left.handshake.transcript = some transcript ∧
    right.handshake.transcript = some transcript
  apart : left.handshake.myOfferPayload ≠ right.handshake.myOfferPayload

/-- The ends of a session put themselves at different places of the transcript,
and so tag their frames differently. -/
theorem Ends.tags_ne (hash : Sha256Injective) {first second : DeviceIdentity}
    (short : (encodeHello first).length < 2 ^ 32) (short' : (encodeHello second).length < 2 ^ 32)
    (complete : left.handshake.Consistent first ∧ left.handshake.ResultOf left.result)
    (complete' : right.handshake.Consistent second ∧ right.handshake.ResultOf right.result)
    (ends : Ends left right) :
    (Session.new left.result).myDir ≠ (Session.new right.result).myDir := by
  obtain ⟨transcript, has, has'⟩ := ends.transcript
  obtain ⟨mine, theirs, holds, holds'⟩ :=
    holds_of_transcript hash short short' complete complete' has has'
  intro alike
  rw [if_pos alike] at holds'
  exact ends.apart (holds.myOffer.trans holds'.myOffer.symm)

theorem Lived.begins_mem {moves : List SessionMove} (lived : Lived moves life) :
    .begins life.device life.conn life.handshake life.result ∈ moves := by
  obtain ⟨_, rest, rfl, before, later, rfl, -⟩ := lived
  exact List.mem_append_left _ (List.mem_append_right _ List.mem_cons_self)

/-- Every seal belongs to a session of the history. -/
theorem exists_lived_of_seals {start final : Table}
    (unheld : ∀ device, start.sessions device = none) {moves : List SessionMove}
    (trace : Trace (Table.Move profile) start moves final) {device : PeerId} {conn : Connection}
    {op : Outbound} {frame : Frame} (member : .seals device conn op frame ∈ moves) :
    ∃ life, Lived moves life ∧ life.device = device ∧ ⟨op, frame⟩ ∈ life.sealed := by
  obtain ⟨before, later, rfl⟩ := List.append_of_mem member
  obtain ⟨table, front, rest⟩ := trace.split
  cases rest with
  | cons first _ =>
      cases first with
      | seals found encrypted bindings =>
          obtain ⟨life, current, rfl⟩ := (accounts_of_trace unheld front).held _ _ found
          have sealing : (SessionMove.seals life.device conn op frame).sealedFor life.device =
              some ⟨op, frame⟩ := if_pos rfl
          have continues : (SessionMove.seals life.device conn op frame).beginsFor life.device =
              false := rfl
          have continued := current.concat continues
          rw [sealing] at continued
          refine ⟨_, ⟨_, later, (List.append_assoc before [_] later).symm, continued⟩, rfl, ?_⟩
          exact List.mem_append_right _ (List.mem_singleton_self _)

end Life

/-- No nonce is used twice under one session key: a handshake returns one
result, one session is built from it, the session never repeats a nonce, and
the other end of the session uses none of them either. -/
theorem nonces_never_reused {Party : Type} (profile : Profile)
    (identity : Party → DeviceIdentity) (numbered : Party → Numbered)
    (reachable : ∀ party, Numbered.Reachable profile (identity party) (numbered party)) :
    (∀ party expected now frames, (((Handshake.new (identity party) expected now).1.replies
      (identity party) frames).flatMap Handshake.Reply.results).length ≤ 1) ∧
    ∃ moves : Party → List SessionMove,
      (∀ party,
        Observed.History profile (identity party) (numbered party).observed (moves party)) ∧
      (∀ party, ((numbered party).completed.map Prod.fst).Nodup ∧
        (moves party).filterMap SessionMove.built = (numbered party).completed.map Prod.snd) ∧
      (∀ party device conn op frame, .seals device conn op frame ∈ moves party →
        ∃ life, Life.Lived (moves party) life ∧ life.device = device ∧
          ⟨op, frame⟩ ∈ life.sealed) ∧
      (∀ party life, Life.Lived (moves party) life → life.nonces.Nodup ∧
        ∀ entry ∈ life.sealed,
          entry.frame.payload = (entry.call (Session.new life.result)).ciphertext) ∧
      ∀ one other left right, Life.Lived (moves one) left → Life.Lived (moves other) right →
        Complementary left.result right.result ∨
          (Sha256Injective ∧ (encodeHello (identity one)).length < 2 ^ 32 ∧
            (encodeHello (identity other)).length < 2 ^ 32 ∧ Life.Ends left right) →
        left.nonces.Disjoint right.nonces := by
  choose moves explained using fun party => (reachable party).explained
  have unheld (party : Party) := Observed.unheld_new (identity party)
  refine ⟨?_, moves, fun party => (explained party).history, ?_, ?_, ?_, ?_⟩
  · intro party expected now frames
    exact Handshake.length_results_le (Handshake.new_consistent _ _ _) frames
  · intro party
    exact ⟨(explained party).fresh.once, (explained party).built⟩
  · intro party device conn op frame member
    exact Life.exists_lived_of_seals (unheld party) (explained party).history.table member
  · intro party life lived
    obtain ⟨-, session, ledger⟩ := lived.ledger (unheld party) (explained party).history.table
    exact ⟨Life.nodup_nonces ledger, fun entry member => Life.ciphertext_of_ledger ledger member⟩
  · intro one other left right lived lived' related
    apply Life.disjoint_nonces
    rcases related with complementary | ⟨hash, short, short', ends⟩
    · rw [← complementary.peerDir_eq]
      exact (Session.myDir_ne_peerDir right.result).symm
    · exact ends.tags_ne hash short short'
        ((explained one).history.begun _ _ _ _ lived.begins_mem)
        ((explained other).history.begun _ _ _ _ lived'.begins_mem)

/-! ### Sessions that have sealed some messages -/

section Spoken

variable {pair : Pair} {side : Side} {profile : Profile}

/-- A device of the pair that has completed its handshake and sealed some messages
since then. -/
structure Numbered.Spoken (pair : Pair) (side : Side) (profile : Profile) (numbered : Numbered)
    (number : Nat) : Prop where
  reachable : Numbered.Reachable profile (pair.identity side) numbered
  held : ∃ bound, numbered.observed.behaviour.sessions.lookup (pair.identity side.other).peerId =
    some bound ∧ bound.session.outSeq.toNat = number
  events : ∃ connId, numbered.observed.items.flatMap ToSwarm.sessionEvents =
    [.sessionEstablished (pair.identity side.other).peerId connId (pair.result side)]

theorem Numbered.exists_joined (laws : SessionBehaviour.HandshakeLaws) (honest : pair.Honest)
    (profile : Profile) (side : Side) (conn : Connection) :
    ∃ final, Numbered.Spoken pair side profile final 0 := by
  obtain ⟨first, reachable, unstarted, idle, unobserved, unqueued, unpolled⟩ : ∃ first : Numbered,
      Numbered.Reachable profile (pair.identity side) first ∧
      SessionBehaviour.Unstarted pair side conn first.observed.behaviour ∧
      first.observed.behaviour.pendingSends.lookup (pair.identity side.other).peerId = none ∧
      first.observed.behaviour.observedAddrs.lookup conn = none ∧
      first.observed.behaviour.queue = [] ∧ first.observed.polled = [] := by
    cases expects : pair.expected side with
    | none => exact ⟨_, .refl, ⟨rfl, rfl, expects.symm⟩, rfl, rfl, rfl, rfl⟩
    | some peer =>
        let moment : Moment :=
          { instant := 0, nowMs := fun _ => 0, msgIds := fun _ => 0, random := [] }
        refine ⟨_, .tail .refl (.act moment (.mapTransport peer conn.1) rfl), ⟨rfl, rfl, ?_⟩, rfl,
          rfl, rfl, rfl⟩
        rw [expects]
        exact AList.lookup_insert _
  obtain ⟨joined, conversed, isJoined⟩ :=
    SessionBehaviour.exists_joined laws honest profile unstarted idle unobserved
  obtain ⟨final, reached, same⟩ := reachable.converse conversed
  refine ⟨final, reached, ?_, conn.2, ?_⟩
  · rw [same]
    exact ⟨_, Observed.lookup_joined isJoined, rfl⟩
  · rw [same, Observed.items, unpolled, List.nil_append]
    exact Observed.sessionEvents_joined isJoined unqueued

theorem Numbered.Spoken.speak {numbered : Numbered} {number : Nat}
    (spoken : numbered.Spoken pair side profile number) (small : number + 1 < 2 ^ 32)
    (moment : Moment) :
    ∃ later, Numbered.Spoken pair side profile later (number + 1) := by
  obtain ⟨bound, found, counts⟩ := spoken.held
  obtain ⟨connId, events⟩ := spoken.events
  have short : (utf8Bytes "").length ≤ Session.maxMessageBytes := Nat.zero_le _
  have left : bound.session.outSeq.toNat + 1 < 2 ^ 32 := by rwa [counts]
  have sent := SessionBehaviour.sendMessage_of_short found short left moment
  refine ⟨_, spoken.reachable.tail (.act moment
    (.sendMessage (pair.identity side.other).peerId "") (congrArg some sent)), ?_, connId, ?_⟩
  · refine ⟨_, AList.lookup_insert _, ?_⟩
    rw [toNat_succ left, counts]
  · change ((numbered.observed.polled ++ []) ++ (numbered.observed.behaviour.queue ++
      [ToSwarm.notifyHandler bound.transport bound.connId _])).flatMap ToSwarm.sessionEvents = _
    rw [List.append_nil, ← List.append_assoc, List.flatMap_append, ← Observed.items, events]
    rfl

theorem Numbered.exists_spoken (laws : SessionBehaviour.HandshakeLaws) (honest : pair.Honest)
    (profile : Profile) (side : Side) (conn : Connection) {number : Nat}
    (small : number < 2 ^ 32) :
    ∃ final, Numbered.Spoken pair side profile final number := by
  induction number with
  | zero => exact Numbered.exists_joined laws honest profile side conn
  | succ number ih =>
      let moment : Moment :=
        { instant := 0, nowMs := fun _ => 0, msgIds := fun _ => 0, random := [] }
      obtain ⟨numbered, spoken⟩ := ih (Nat.lt_of_succ_lt small)
      exact spoken.speak small moment

theorem Numbered.Spoken.exists_lived {numbered : Numbered} {number : Nat}
    (spoken : numbered.Spoken pair side profile number) {moves : List SessionMove}
    (history : Observed.History profile (pair.identity side) numbered.observed moves) :
    ∃ life, Life.Lived moves life ∧ life.result = pair.result side ∧
      life.nonces.length = number := by
  obtain ⟨bound, found, counts⟩ := spoken.held
  obtain ⟨connId, events⟩ := spoken.events
  have accounts := Life.accounts_of_trace (Observed.unheld_new (pair.identity side)) history.table
  obtain ⟨life, current, known⟩ := accounts.held _ bound found
  obtain ⟨-, session, ledger, stored⟩ := accounts.faithful life current
  have isSession : bound.session = session := by
    rw [known] at stored
    exact (stored bound found).1
  refine ⟨life, current.lived, ?_, ?_⟩
  · have reported : BehaviourEvent.sessionEstablished life.device life.conn.2 life.result ∈
        moves.flatMap SessionMove.events :=
      List.mem_flatMap.mpr ⟨_, current.lived.begins_mem, List.mem_singleton_self _⟩
    rw [← history.events, events, List.mem_singleton] at reported
    exact (BehaviourEvent.sessionEstablished.inj reported).2.2
  · rw [Life.nonces, List.length_map, ← ledger.count, ← isSession, counts]

end Spoken

omit [Crates] in
/-- The two sample devices have each sealed two frames on their session, under
four different nonces. -/
theorem nonces_never_reused_sample :
    letI := symbolicCrates [] []
    ∃ (numbered : Side → Numbered) (moves : Side → List SessionMove) (life : Side → Life),
      (∀ side, Numbered.Reachable .release ((Duplex.samplePair []).identity side)
        (numbered side)) ∧
      (∀ side, Life.Lived (moves side) (life side) ∧ (life side).nonces.length = 2 ∧
        (life side).nonces.Nodup) ∧
      (life .left).nonces.Disjoint (life .right).nonces := by
  let _ := symbolicCrates [] []
  let pair := Duplex.samplePair []
  have honest : pair.Honest := Duplex.samplePair_honest []
  have small : 2 < 2 ^ 32 := by decide
  choose numbered spoken using fun side : Side =>
    Numbered.exists_spoken SessionBehaviour.sampleLaws honest .release side (([9] : Bytes), 1)
      small
  obtain ⟨-, moves, history, -, -, distinct, disjoint⟩ := nonces_never_reused .release
    pair.identity numbered fun side => (spoken side).reachable
  choose life lived isResult used using fun side => (spoken side).exists_lived (history side)
  refine ⟨numbered, moves, life, fun side => (spoken side).reachable,
    fun side => ⟨lived side, used side, (distinct side _ (lived side)).1⟩, ?_⟩
  refine disjoint .left .right _ _ (lived .left) (lived .right) (.inl ?_)
  rw [isResult, isResult]
  exact honest.complementary

end JeanGrey
