import GrumpyScreen.Handlers
import GrumpyScreen.Unanswered

/-! The panel on the wire: its requests go out through the websocket client, each with the
callback that the source leaves there, and whatever comes in under whatever id, the panel goes
through a run of its own machine. -/

namespace GrumpyScreen

open Lib Exec

section Requests

/-- The callbacks of the panel's requests with what they capture, and those of other panels. -/
inductive ReplyCb where
  | hideBusy (action : Nat)
  | printStart
  | filesList
  | fileMeta (captured : FileMeta)
  | elsewhere (n : Nat)
deriving DecidableEq

inductive StatusConsumer where
  | mainPanel
  | elsewhere (n : Nat)
deriving DecidableEq

/-- The parameters of a request; those of other panels are not looked into. -/
inductive RpcParams where
  | command (command : Command)
  | elsewhere

/-- The parameters of a command, where its method has some. -/
def Command.params : Command → Option RpcParams
  | .emergencyStop | .reboot | .shutdown | .updateRun => none
  | command => some (.command command)

abbrev PanelClient := Client RpcParams ReplyCb StatusConsumer

/-- The commands a call sends, with the callbacks it leaves; an action captures its number. -/
def Effect.requests (next : Nat) : Effect → List (Command × Option ReplyCb)
  | .send command => [(command, none)]
  | .act _ script => [(.gcode script, some (.hideBusy next))]
  | .populateFiles => [(.filesList, some .filesList)]
  | .spawnUpdate => [(.updateRun, none)]
  | .printStart filename => [(.printStart filename, some .printStart)]
  | _ => []

def Effect.nextAction (next : Nat) : Effect → Nat
  | .act _ _ => next + 1
  | _ => next

def requestsOf (next : Nat) : List Effect → List (Command × Option ReplyCb)
  | [] => []
  | effect :: rest => effect.requests next ++ requestsOf (effect.nextAction next) rest

/-- A command as the client is given it: `send_jsonrpc` or `gcode_script`, in the variant for
what there is. An update run is no request. -/
def sendEvent : Command × Option ReplyCb → Option (WsEvent RpcParams ReplyCb StatusConsumer)
  | (command, cb) => command.method.map fun method =>
    match command.params, cb with
    | some params, some cb => .sendParamsCb method params cb
    | some params, none => .sendParams method params
    | none, some cb => .sendBareCb method cb
    | none, none => .sendBare method

def sendAll (requests : List (Command × Option ReplyCb)) (c : PanelClient) : PanelClient :=
  run Client.step c (requests.filterMap sendEvent)

end Requests

section Callbacks

variable {L : Type → Type} [Layer L] [LawfulLayer L] {J : Type} [JsonLib J]

/-- What is no longer waited for. -/
def ReplyCb.answered (waits : Outstanding) : ReplyCb → Outstanding
  | .hideBusy action => { waits with actions := waits.actions.erase action }
  | .printStart => { waits with printStarts := waits.printStarts - 1 }
  | .filesList => { waits with filesLists := waits.filesLists - 1 }
  | .fileMeta captured => { waits with fileMetas := waits.fileMetas.erase captured }
  | .elsewhere _ => waits

/-- The body of a callback. -/
def ReplyCb.body (s : State J) (j : J) (p : Panel L) : ReplyCb → Panel L
  | .hideBusy _ => hideBusyOverlay p
  | .printStart => printStartReply j p
  | .filesList => final (filesReply j) p
  | .fileMeta captured => final (metadataReply captured s j) p
  | .elsewhere _ => p

def ReplyCb.run (s : State J) (j : J) (p : Panel L) (cb : ReplyCb) : Panel L :=
  cb.body s j { p with waits := cb.answered p.waits }

/-- The metadata a callback asks for, with the callbacks of these requests. -/
def ReplyCb.asks (s : State J) (j : J) (p : Panel L) (cb : ReplyCb) :
    List (Command × Option ReplyCb) :=
  ((cb.run s j p).waits.fileMetas.drop (cb.answered p.waits).fileMetas.length).map fun captured =>
    (.fileMetadata captured.path, some (.fileMeta captured))

/-- The callback as an event of the panel. -/
def ReplyCb.event (s : State J) (j : J) (waits : Outstanding) : ReplyCb → Option (Event J)
  | .hideBusy action => some (.actionDone action)
  | .printStart => some (.printStartReply j)
  | .filesList => some (.filesReply j)
  | .fileMeta captured => some (.metadataReply (waits.fileMetas.idxOf captured) s j)
  | .elsewhere _ => none

end Callbacks

section Machine

/-- Events the websocket thread brings to the panel. -/
def Event.fromWire {J : Type} : Event J → Bool
  | .delta _ | .actionDone _ | .printStartReply _ | .filesReply _ | .metadataReply _ _ _
  | .tick .stamp => true
  | _ => false

def ReplyCb.isElsewhere : ReplyCb → Bool
  | .elsewhere _ => true
  | _ => false

def StatusConsumer.isElsewhere : StatusConsumer → Bool
  | .elsewhere _ => true
  | .mainPanel => false

def RpcParams.isElsewhere : RpcParams → Bool
  | .elsewhere => true
  | .command _ => false

/-- What other panels and the socket do to the client, messages and the turns of the thread
apart. -/
def WsEvent.isElsewhere : WsEvent RpcParams ReplyCb StatusConsumer → Bool
  | .sendParams _ params => params.isElsewhere
  | .sendBare _ => true
  | .sendParamsCb _ params cb => params.isElsewhere && cb.isElsewhere
  | .sendBareCb _ cb => cb.isElsewhere
  | .sendParamsConsumer _ params consumer => params.isElsewhere && consumer.isElsewhere
  | .registerNotify consumer | .unregisterNotify consumer => consumer.isElsewhere
  | .registerMethod _ _ cb => cb.isElsewhere
  | .garbled | .opened | .closed | .returned | .raised => true
  | .message _ | .next => false

/-- What happens to the panel on the wire: an event of its own, what others do to the client, a
message, and a turn of the websocket thread, with the printer's state as it then is. -/
inductive WiredEvent (J : Type) where
  | own (event : Event J) (other : event.fromWire = false)
  | others (event : WsEvent RpcParams ReplyCb StatusConsumer) (other : event.isElsewhere = true)
  | message (j : J)
  | turn (s : State J)

/-- The panel, the client, and the message that is being handled. -/
structure Wired (L : Type → Type) [Layer L] (J : Type) where
  panel : Panel L
  client : PanelClient
  message : Option J

namespace Wired

variable {L : Type → Type} [Layer L] [LawfulLayer L] {J : Type}

/-- The panel as it is built, registered for the status messages. -/
def fresh : Wired L J where
  panel := .initial
  client := Client.registerNotifyUpdate .mainPanel {}
  message := none

variable [JsonDoc J] (w : Wired L J)

/-- The panel takes an event, and what its handler sends goes out. -/
def act (event : Event J) : Wired L J :=
  { w with
    panel := GrumpyScreen.step w.panel event
    client := sendAll (requestsOf w.panel.waits.nextAction (event.effects w.panel)) w.client }

/-- The websocket thread turns to its next task. -/
def turn (s : State J) : Wired L J :=
  let client := Client.step w.client .next
  match w.client.turnsTo, w.message with
  | some (.reply ⟨.callback cb, _, _⟩), some j =>
    { w with panel := cb.run s j w.panel, client := sendAll (cb.asks s j w.panel) client }
  | some (.notify .mainPanel), some j =>
    { w with panel := GrumpyScreen.step w.panel (.delta j), client }
  | some .notifyAll, _ => { w with panel := GrumpyScreen.step w.panel (.tick .stamp : Event J), client }
  | _, _ => { w with client }

def step : WiredEvent J → Wired L J
  | .own event _ => w.act event
  | .others event _ => { w with client := Client.step w.client event }
  | .message j =>
    if w.client.idle then
      { w with client := Client.step w.client (.message (readMessage j)), message := some j }
    else w
  | .turn s => w.turn s

/-- What a step is to the panel. -/
def shown : WiredEvent J → List (Event J)
  | .own event _ => [event]
  | .turn s =>
    match w.client.turnsTo, w.message with
    | some (.reply ⟨.callback cb, _, _⟩), some j => (cb.event s j w.panel.waits).toList
    | some (.notify .mainPanel), some j => [.delta j]
    | some .notifyAll, _ => [.tick .stamp]
    | _, _ => []
  | _ => []

end Wired

end Machine

end GrumpyScreen
