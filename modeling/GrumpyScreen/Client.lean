import GrumpyScreen.Lib.Ledger
import GrumpyScreen.Lib.Run
import Mathlib.Data.List.Sort

/-! The websocket client: requests numbered by one counter, the two maps from
which a reply takes its receiver, and the thread that hands messages out. -/

namespace GrumpyScreen

open Lib

/-- Who waits for a reply: a callback or a `NotifyConsumer`. -/
inductive Receiver (H C : Type) where
  | callback (cb : H)
  | consumer (consumer : C)
deriving DecidableEq, Repr

/-- An entry of `callbacks` or `consumers`, with the request that made it. -/
structure Entry (α : Type) where
  target : α
  request : Nat

/-- A request as transmitted, and the receiver it registered. -/
structure Request (P H C : Type) where
  id : UInt64
  method : String
  params : Option P
  receiver : Option (Receiver H C)

/-- A receiver taken off its map by a message with this id. -/
structure Reply (H C : Type) where
  receiver : Receiver H C
  request : Nat
  id : Int
deriving DecidableEq, Repr

/-- What the websocket thread still has to do for the message at hand. -/
inductive Task (H C : Type) where
  | reply (reply : Reply H C)
  | notify (consumer : C)
  | connected
  | disconnected
  | handler (cb : H)
  -- the copies of the notify consumers and of the handlers are taken late
  | notifyAll
  | handlers (method : String)

structure Client (P H C : Type) where
  id : UInt64 := 0
  callbacks : UInt32 → Option (Entry H) := fun _ => none
  consumers : UInt32 → Option (Entry C) := fun _ => none
  notifyConsumers : List C := []
  methodRespCbs : String → List (String × H) := fun _ => []
  tasks : List (Task H C) := []
  inCall : Bool := false
  -- the history: what was sent, taken off the maps and invoked
  sent : List (Request P H C) := []
  taken : List (Reply H C) := []
  replies : List (Reply H C) := []

/-- The id field of a message; an id that is no number throws. -/
inductive MessageId where
  | absent
  | integer (id : Int)
  | unreadable
deriving DecidableEq, Repr

structure Message where
  id : MessageId
  method : Option String
deriving DecidableEq, Repr

namespace Client

variable {P H C : Type}

section Requests

/-- Number and transmit a request: the part the two plain variants share. -/
def transmit (method : String) (params : Option P) (receiver : Option (Receiver H C))
    (s : Client P H C) : Client P H C :=
  { s with sent := s.sent ++ [⟨s.id, method, params, receiver⟩], id := s.id + 1 }

/-- Register a callback under the id the next request will carry. -/
def awaitCallback (cb : H) (s : Client P H C) : Client P H C :=
  { s with callbacks := Function.update s.callbacks s.id.toUInt32 (some ⟨cb, s.sent.length⟩) }

def awaitConsumer (consumer : C) (s : Client P H C) : Client P H C :=
  { s with
    consumers := Function.update s.consumers s.id.toUInt32 (some ⟨consumer, s.sent.length⟩) }

-- the five variants of `send_jsonrpc`, each under the lock from start to end

def sendParams (method : String) (params : P) (s : Client P H C) : Client P H C :=
  transmit method (some params) none s

def sendBare (method : String) (s : Client P H C) : Client P H C :=
  transmit method none none s

def sendParamsCb (method : String) (params : P) (cb : H) (s : Client P H C) : Client P H C :=
  transmit method (some params) (some (.callback cb)) (awaitCallback cb s)

def sendBareCb (method : String) (cb : H) (s : Client P H C) : Client P H C :=
  transmit method none (some (.callback cb)) (awaitCallback cb s)

def sendParamsConsumer (method : String) (params : P) (consumer : C) (s : Client P H C) :
    Client P H C :=
  transmit method (some params) (some (.consumer consumer)) (awaitConsumer consumer s)

end Requests

section Registration

variable [DecidableEq C]

def registerNotifyUpdate (consumer : C) (s : Client P H C) : Client P H C :=
  if consumer ∈ s.notifyConsumers then s
  else { s with notifyConsumers := s.notifyConsumers ++ [consumer] }

def unregisterNotifyUpdate (consumer : C) (s : Client P H C) : Client P H C :=
  { s with notifyConsumers := s.notifyConsumers.filter (· ≠ consumer) }

/-- The handlers of a method, in the order of their names; a name already there
keeps its handler. -/
def registerMethodCallback (method name : String) (cb : H) (s : Client P H C) : Client P H C :=
  if name ∈ (s.methodRespCbs method).map Prod.fst then s
  else
    { s with
      methodRespCbs := Function.update s.methodRespCbs method
        ((s.methodRespCbs method).orderedInsert (fun a b => a.1 ≤ b.1) (name, cb)) }

end Registration

section Messages

/-- The receivers waiting under a key, the consumer before the callback. -/
def waiting (rid : UInt32) (id : Int) (s : Client P H C) : List (Reply H C) :=
  ((s.consumers rid).map fun entry => ⟨.consumer entry.target, entry.request, id⟩).toList ++
    ((s.callbacks rid).map fun entry => ⟨.callback entry.target, entry.request, id⟩).toList

/-- Take the receivers of a reply off the maps before any of them is invoked. -/
def takeReceivers (id : Int) (s : Client P H C) : Client P H C :=
  let rid := UInt32.ofInt id
  { s with
    consumers := Function.update s.consumers rid none
    callbacks := Function.update s.callbacks rid none
    tasks := s.tasks ++ (waiting rid id s).map .reply
    taken := s.taken ++ waiting rid id s }

/-- The calls for a method: the notify consumers or the link callbacks, then the
handlers registered for it. -/
def methodTasks (method : String) : List (Task H C) :=
  (if method = "notify_status_update" then [.notifyAll]
   else if method = "notify_klippy_disconnected" then [.disconnected]
   else if method = "notify_klippy_shutdown" then [.disconnected]
   else if method = "notify_klippy_ready" then [.connected]
   else []) ++ [.handlers method]

/-- `onmessage`, up to its first call. -/
def onmessage (m : Message) (s : Client P H C) : Client P H C :=
  let dispatch (s : Client P H C) :=
    { s with tasks := s.tasks ++ m.method.elim [] methodTasks }
  match m.id with
  | .absent => dispatch s
  | .integer id => dispatch (takeReceivers id s)
  | .unreadable => s

/-- The thread turns to its next task: a call is entered, a copy is taken. -/
def next (s : Client P H C) : Client P H C :=
  match s.tasks with
  | [] => s
  | .reply reply :: rest =>
    { s with tasks := rest, inCall := true, replies := s.replies ++ [reply] }
  | .notifyAll :: rest => { s with tasks := s.notifyConsumers.map .notify ++ rest }
  | .handlers method :: rest =>
    { s with tasks := (s.methodRespCbs method).map (.handler ·.2) ++ rest }
  | _ :: rest => { s with tasks := rest, inCall := true }

end Messages

end Client

/-- What happens around the client. Sends come from any thread, from within a
running callback too; a message, an open and a close wait for the websocket
thread to be done with the one before. -/
inductive WsEvent (P H C : Type) where
  | sendParams (method : String) (params : P)
  | sendBare (method : String)
  | sendParamsCb (method : String) (params : P) (cb : H)
  | sendBareCb (method : String) (cb : H)
  | sendParamsConsumer (method : String) (params : P) (consumer : C)
  | registerNotify (consumer : C)
  | unregisterNotify (consumer : C)
  | registerMethod (method name : String) (cb : H)
  | message (m : Message)
  | garbled
  | opened
  | closed
  -- the websocket thread goes on, returns from a call, or is thrown out of it
  | next
  | returned
  | raised

namespace Client

variable {P H C : Type}

/-- The websocket thread waits for the socket. -/
def idle (s : Client P H C) : Bool := s.tasks.isEmpty && !s.inCall

def step [DecidableEq C] (s : Client P H C) : WsEvent P H C → Client P H C
  | .sendParams method params => sendParams method params s
  | .sendBare method => sendBare method s
  | .sendParamsCb method params cb => sendParamsCb method params cb s
  | .sendBareCb method cb => sendBareCb method cb s
  | .sendParamsConsumer method params consumer => sendParamsConsumer method params consumer s
  | .registerNotify consumer => registerNotifyUpdate consumer s
  | .unregisterNotify consumer => unregisterNotifyUpdate consumer s
  | .registerMethod method name cb => registerMethodCallback method name cb s
  | .message m => if s.idle then onmessage m s else s
  | .garbled => s
  | .opened => if s.idle then { s with tasks := [.connected] } else s
  | .closed => if s.idle then { s with tasks := [.disconnected] } else s
  | .next => if s.inCall then s else next s
  | .returned => { s with inCall := false }
  | .raised => if s.inCall then { s with inCall := false, tasks := [] } else s

end Client

end GrumpyScreen
