/-
Module: ArcRelay.ClipboardReplication.System
Purpose: Two devices and the connection between them: the client's requests served by the peer,
  and what a clipboard and its collections hold.
Trusted boundary: none
-/
import ArcRelay.ClipboardReplication.Reconcile

namespace ArcRelay.ClipboardReplication

/-! ### Both devices -/

/-- The device that reconciles and its peer. -/
inductive Side where
  | here | there
deriving Repr, DecidableEq

inductive SystemCall where
  | host (side : Side) (call : HostCall)
  /-- A message crosses the connection, or fails to. -/
  | transmit
  | forever
deriving Repr, DecidableEq

@[reducible] def SystemCall.Answer : SystemCall → Type
  | .host _ call => call.Answer
  | .transmit => Except String Unit
  | .forever => Empty

abbrev SystemProgram := Program SystemCall SystemCall.Answer

section System

variable (platform : Platform)

/-- The peer at work. -/
def serveThere (body : Request) (frames : List Bytes) :
    SystemProgram (Except String (Response × List Bytes)) :=
  (serveStream platform body frames).interpret fun call => Program.ask (SystemCall.host .there call)

/-- A request and its response.  Each crosses the connection whole or the request fails; one
that fails on the way back has been served. -/
def exchangeRequest (body : Request) (frames : List Bytes) :
    SystemProgram (Except String (Response × List Bytes)) := do
  match ← Program.ask SystemCall.transmit with
  | .error error => return .error error
  | .ok () =>
      let reply ← serveThere platform body frames
      match ← Program.ask SystemCall.transmit with
      | .error error => return .error error
      | .ok () => return reply

/-- The client's calls carried out by both devices. -/
def carryOut : (call : ClientCall) → SystemProgram call.Answer
  | .host call => Program.ask (SystemCall.host .here call)
  | .request body frames => exchangeRequest platform body frames
  | .forever => Program.ask SystemCall.forever

end System

/-! ### Contents -/

/-- What a clipboard holds at an instant: its replicable records in the order of pages, one for
each sync id, and its labels. -/
structure Contents where
  revision : Nat
  records : List ReplicaRecord
  labels : List Label
  ordered : records.Pairwise fun earlier later => later.cursor.key < earlier.cursor.key
  unique : (records.map (·.record.syncId)).Nodup

namespace Contents

variable (contents : Contents)

/-- The records after a cursor. -/
def below (cursor : Option ReplicaCursor) : List ReplicaRecord :=
  contents.records.filter fun replica => cursor.all fun cursor => replica.cursor.key < cursor.key

/-- `replica_page`: the next records and, when there are more, the cursor of the last of them. -/
def page (cursor : Option ReplicaCursor) (limit : Nat) : ReplicaPage :=
  let below := contents.below cursor
  { records := below.take limit
    nextCursor :=
      if below.length > limit then (below.take limit).getLast?.map ReplicaRecord.cursor else none }

end Contents

/-- The collections of a device as the core keeps them: by id, and none without one. -/
structure CollectionStore where
  values : List Collection
  sorted : values.Pairwise fun first second => first.id < second.id
  named : ∀ value ∈ values, value.id ≠ ""

namespace CollectionStore

variable (store : CollectionStore)

def after (cursor : String) : List Collection := store.values.filter fun value => cursor < value.id

/-- `collections`: the next ones by id, at least one if there are any. -/
def Lists (cursor : String) (answer : Except String (List Collection)) : Prop :=
  ∃ size > 0, answer = .ok ((store.after cursor).take size)

end CollectionStore

end ArcRelay.ClipboardReplication
