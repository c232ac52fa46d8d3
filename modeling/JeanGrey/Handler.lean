/-
The connection handler of `transport.rs`.

`SessionHandler` owns the substream of one connection, the read buffer and the
write queue.  The substream is the environment: a poll is given the answers of
the `poll_write` and `poll_read` calls it will make, in order, and a list that
runs out answers `Pending`.  A poll returns what it reports, the handler it
leaves, the bytes it wrote and the read answers it did not use.

The transport peer id the handler keeps for its log lines is left out.
-/

import JeanGrey.Framing

namespace JeanGrey

open Framing

inductive Poll (α : Type) where
  | pending
  | ready (value : α)
  deriving DecidableEq

inductive IoError where
  /-- An error of the substream itself. -/
  | stream
  /-- "substream write returned 0" -/
  | writeZero
  /-- "malformed frame: {error}" -/
  | malformedFrame (error : FrameError)
  /-- "read buffer exceeds frame size limit" -/
  | readBufferExceeded
  deriving DecidableEq, Repr

/-- An answer of `poll_write`: the substream takes `count` of the offered bytes,
or all of them when fewer are offered. -/
inductive WriteAnswer where
  | pending
  | error
  | ready (count : Nat)
  deriving DecidableEq, Repr

/-- An answer of `poll_read`; no bytes mean the end of the stream. -/
inductive ReadAnswer where
  | pending
  | error
  | ready (bytes : Bytes)
  deriving DecidableEq, Repr

inductive HandlerToBehaviour where
  | substreamReady
  | frameReceived (frame : Frame)
  | streamClosed
  deriving DecidableEq

inductive HandlerEvent where
  | outboundSubstreamRequest
  | notifyBehaviour (event : HandlerToBehaviour)
  deriving DecidableEq

def maxReadBuffer : Nat := headerLen + maxPayload

/-- The size of the buffer `poll_read_once` hands to `poll_read`. -/
def readChunk : Nat := 4096

structure SessionHandler (Stream : Type) where
  initiator : Bool
  outboundRequested : Bool
  substream : Option Stream
  pendingReady : Bool
  readBuf : Bytes
  writeQueue : List Bytes
  writing : Option (Bytes × Nat)
  closed : Bool

namespace SessionHandler

variable {Stream : Type}

def new (initiator : Bool) : SessionHandler Stream :=
  { initiator := initiator
    outboundRequested := false
    substream := none
    pendingReady := false
    readBuf := []
    writeQueue := []
    writing := none
    closed := false }

/-- The first negotiated substream stays; a second one is dropped. -/
def setSubstream (handler : SessionHandler Stream) (stream : Stream) : SessionHandler Stream :=
  if handler.substream.isSome then handler
  else { handler with substream := some stream, pendingReady := true }

/-- The buffer being written, taken from the queue when none is in progress. -/
def nextWrite (handler : SessionHandler Stream) : Option (Bytes × Nat × List Bytes) :=
  match handler.writing with
  | some (buf, offset) => some (buf, offset, handler.writeQueue)
  | none =>
      match handler.writeQueue with
      | [] => none
      | chunk :: queue => some (chunk, 0, queue)

def advance (handler : SessionHandler Stream) (buf : Bytes) (written : Nat) :
    SessionHandler Stream :=
  if written = buf.length then { handler with writing := none }
  else { handler with writing := some (buf, written) }

def pollFlushWrites (handler : SessionHandler Stream) (answers : List WriteAnswer) :
    Poll (Except IoError Bool) × SessionHandler Stream × Bytes :=
  if handler.substream.isNone then (.ready (.ok true), handler, [])
  else
    match handler.nextWrite with
    | none => (.ready (.ok true), handler, [])
    | some (buf, offset, queue) =>
        let started := { handler with writing := some (buf, offset), writeQueue := queue }
        match answers with
        | [] => (.pending, started, [])
        | .pending :: _ => (.pending, started, [])
        | .error :: _ => (.ready (.error .stream), started, [])
        | .ready count :: later =>
            let taken := (buf.drop offset).take count
            if taken.length = 0 then (.ready (.error .writeZero), started, [])
            else
              let next := started.advance buf (offset + taken.length)
              let (poll, final, written) := pollFlushWrites next later
              (poll, final, taken ++ written)

/-- The loop of `poll_read_once` over the read buffer. -/
def readLoop (readBuf : Bytes) (answers : List ReadAnswer) :
    Poll (Except IoError (Option Frame)) × Bytes × List ReadAnswer :=
  match decode readBuf with
  | .ok frame =>
      (.ready (.ok (some frame)), readBuf.drop (headerLen + frame.payload.length), answers)
  | .error .truncated =>
      if readBuf.length > maxReadBuffer then
        (.ready (.error .readBufferExceeded), readBuf, answers)
      else
        match answers with
        | [] => (.pending, readBuf, [])
        | .pending :: later => (.pending, readBuf, later)
        | .error :: later => (.ready (.error .stream), readBuf, later)
        | .ready [] :: later => (.ready (.ok none), readBuf, later)
        | .ready (byte :: bytes) :: later => readLoop (readBuf ++ byte :: bytes) later
  | .error error => (.ready (.error (.malformedFrame error)), readBuf, answers)

def pollReadOnce (handler : SessionHandler Stream) (answers : List ReadAnswer) :
    Poll (Except IoError (Option Frame)) × SessionHandler Stream × List ReadAnswer :=
  if handler.substream.isNone then (.ready (.ok none), handler, answers)
  else
    let (poll, readBuf, later) := readLoop handler.readBuf answers
    (poll, { handler with readBuf := readBuf }, later)

structure PollResult (Stream : Type) where
  poll : Poll HandlerEvent
  handler : SessionHandler Stream
  written : Bytes
  unread : List ReadAnswer

/-- A failed substream: the handler stops for good and reports it. -/
def close (handler : SessionHandler Stream) : SessionHandler Stream :=
  { handler with closed := true, substream := none }

/-- Stage 3 of `poll`: emit at most one frame. -/
def pollRead (handler : SessionHandler Stream) (written : Bytes) (reads : List ReadAnswer) :
    PollResult Stream :=
  match handler.pollReadOnce reads with
  | (.ready (.ok (some frame)), next, unread) =>
      { poll := .ready (.notifyBehaviour (.frameReceived frame))
        handler := next
        written := written
        unread := unread }
  | (.ready (.ok none), next, unread) =>
      { poll := .pending, handler := next, written := written, unread := unread }
  | (.ready (.error _), next, unread) =>
      { poll := .ready (.notifyBehaviour .streamClosed)
        handler := next.close
        written := written
        unread := unread }
  | (.pending, next, unread) =>
      { poll := .pending, handler := next, written := written, unread := unread }

def poll (handler : SessionHandler Stream) (writes : List WriteAnswer) (reads : List ReadAnswer) :
    PollResult Stream :=
  if handler.closed then
    { poll := .pending, handler := handler, written := [], unread := reads }
  else if handler.initiator && !handler.outboundRequested && handler.substream.isNone then
    { poll := .ready .outboundSubstreamRequest
      handler := { handler with outboundRequested := true }
      written := []
      unread := reads }
  else if handler.pendingReady then
    { poll := .ready (.notifyBehaviour .substreamReady)
      handler := { handler with pendingReady := false }
      written := []
      unread := reads }
  else if !handler.writeQueue.isEmpty || handler.writing.isSome then
    match handler.pollFlushWrites writes with
    | (.ready (.ok _), next, written) => next.pollRead written reads
    | (.ready (.error _), next, written) =>
        { poll := .ready (.notifyBehaviour .streamClosed)
          handler := next.close
          written := written
          unread := reads }
    | (.pending, next, written) =>
        { poll := .pending, handler := next, written := written, unread := reads }
  else handler.pollRead [] reads

def onBehaviourEvent (handler : SessionHandler Stream) (frames : List Frame) :
    SessionHandler Stream :=
  { handler with writeQueue := handler.writeQueue ++ frames.map encode }

inductive ConnectionEvent (Stream : Type) where
  | fullyNegotiatedInbound (stream : Stream)
  | fullyNegotiatedOutbound (stream : Stream)
  | dialUpgradeError
  | listenUpgradeError

def onConnectionEvent (handler : SessionHandler Stream) :
    ConnectionEvent Stream → SessionHandler Stream
  | .fullyNegotiatedInbound stream => handler.setSubstream stream
  | .fullyNegotiatedOutbound stream => handler.setSubstream stream
  | .dialUpgradeError => { handler with closed := true }
  | .listenUpgradeError => { handler with closed := true }

def pollClose (handler : SessionHandler Stream) : SessionHandler Stream :=
  { handler with substream := none, closed := true }

end SessionHandler

end JeanGrey
