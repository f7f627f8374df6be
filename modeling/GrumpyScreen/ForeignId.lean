import GrumpyScreen.Client
import GrumpyScreen.Lib.Doc

/-! Messages under ids nobody waits for: an id is compared after it has been cut
to the keys of the maps, so a foreign one may alias a live request. -/

namespace GrumpyScreen

open Lib

variable {P H C : Type}

section Keys

variable {map : UInt32 → Option (Entry α)} {sent : List (Request P H C)}

/-- Every entry of a map lies under the low half of its request's id. -/
def Keyed (sent : List (Request P H C)) (map : UInt32 → Option (Entry α)) : Prop :=
  ∀ key entry, map key = some entry →
    ∃ request, sent[entry.request]? = some request ∧ request.id.toUInt32 = key

theorem Keyed.grown (keyed : Keyed sent map) (request : Request P H C) :
    Keyed (sent ++ [request]) map := by
  intro key entry found
  obtain ⟨own, issued, same⟩ := keyed key entry found
  have bound := (List.getElem?_eq_some_iff.mp issued).1
  exact ⟨own, (List.getElem?_append_left bound).trans issued, same⟩

theorem Keyed.register (keyed : Keyed sent map) (request : Request P H C) (target : α) :
    Keyed (sent ++ [request])
      (Function.update map request.id.toUInt32 (some ⟨target, sent.length⟩)) := by
  intro key entry found
  by_cases same : key = request.id.toUInt32
  · subst same
    rw [Function.update_self] at found
    cases found
    exact ⟨request, List.getElem?_concat_length, rfl⟩
  · rw [Function.update_of_ne same] at found
    exact keyed.grown request key entry found

theorem Keyed.erase (keyed : Keyed sent map) (key : UInt32) :
    Keyed sent (Function.update map key none) := by
  intro other entry found
  by_cases same : other = key
  · subst same
    rw [Function.update_self] at found
    cases found
  · rw [Function.update_of_ne same] at found
    exact keyed other entry found

end Keys

namespace Client

/-- Both maps are keyed by the requests that registered. -/
structure KeyedMaps (s : Client P H C) : Prop where
  callbacks : Keyed s.sent s.callbacks
  consumers : Keyed s.sent s.consumers

variable {s : Client P H C}

theorem KeyedMaps.taken (keyed : KeyedMaps s) (id : Int) : KeyedMaps (takeReceivers id s) :=
  ⟨keyed.callbacks.erase _, keyed.consumers.erase _⟩

theorem KeyedMaps.onmessage (keyed : KeyedMaps s) (m : Message) : KeyedMaps (onmessage m s) := by
  unfold Client.onmessage
  cases m.id with
  | absent => exact ⟨keyed.callbacks, keyed.consumers⟩
  | integer id => exact ⟨(keyed.taken id).callbacks, (keyed.taken id).consumers⟩
  | unreadable => exact keyed

theorem KeyedMaps.next (keyed : KeyedMaps s) : KeyedMaps (next s) := by
  unfold Client.next
  split <;> exact ⟨keyed.callbacks, keyed.consumers⟩

theorem KeyedMaps.step [DecidableEq C] (keyed : KeyedMaps s) (e : WsEvent P H C) :
    KeyedMaps (step s e) := by
  obtain ⟨callbacks, consumers⟩ := keyed
  cases e with
  | sendParams method params => exact ⟨callbacks.grown _, consumers.grown _⟩
  | sendBare method => exact ⟨callbacks.grown _, consumers.grown _⟩
  | sendParamsCb method params cb =>
    exact ⟨callbacks.register ⟨s.id, method, some params, some (.callback cb)⟩ cb, consumers.grown _⟩
  | sendBareCb method cb =>
    exact ⟨callbacks.register ⟨s.id, method, none, some (.callback cb)⟩ cb, consumers.grown _⟩
  | sendParamsConsumer method params consumer =>
    exact ⟨callbacks.grown _,
      consumers.register ⟨s.id, method, some params, some (.consumer consumer)⟩ consumer⟩
  | registerNotify consumer =>
    simp only [Client.step, registerNotifyUpdate]
    split <;> exact ⟨callbacks, consumers⟩
  | registerMethod method name cb =>
    simp only [Client.step, registerMethodCallback]
    split <;> exact ⟨callbacks, consumers⟩
  | message m =>
    simp only [Client.step]
    split
    · exact KeyedMaps.onmessage ⟨callbacks, consumers⟩ m
    · exact ⟨callbacks, consumers⟩
  | opened =>
    simp only [Client.step]
    split <;> exact ⟨callbacks, consumers⟩
  | closed =>
    simp only [Client.step]
    split <;> exact ⟨callbacks, consumers⟩
  | next =>
    simp only [Client.step]
    split
    · exact ⟨callbacks, consumers⟩
    · exact KeyedMaps.next ⟨callbacks, consumers⟩
  | raised =>
    simp only [Client.step]
    split <;> exact ⟨callbacks, consumers⟩
  | _ => exact ⟨callbacks, consumers⟩

/-- The client has issued a request under the id and still awaits its reply. -/
def Awaits (s : Client P H C) (id : UInt64) : Prop :=
  ∃ key n request, s.sent[n]? = some request ∧ request.id = id ∧
    ((∃ cb, s.callbacks key = some ⟨cb, n⟩) ∨ ∃ consumer, s.consumers key = some ⟨consumer, n⟩)

theorem KeyedMaps.awaits (keyed : KeyedMaps s) (rid : UInt32) :
    (∃ id, s.Awaits id ∧ id.toUInt32 = rid) ↔
      ¬ (s.consumers rid = none ∧ s.callbacks rid = none) := by
  constructor
  · rintro ⟨id, ⟨key, n, request, sent, rfl, waits⟩, rfl⟩ ⟨noConsumer, noCallback⟩
    rcases waits with ⟨cb, found⟩ | ⟨consumer, found⟩
    · obtain ⟨own, issued, same⟩ := keyed.callbacks key _ found
      cases sent.symm.trans issued
      rw [same] at noCallback
      cases noCallback.symm.trans found
    · obtain ⟨own, issued, same⟩ := keyed.consumers key _ found
      cases sent.symm.trans issued
      rw [same] at noConsumer
      cases noConsumer.symm.trans found
  · intro held
    rcases not_and_or.mp held with someConsumer | someCallback
    · obtain ⟨entry, found⟩ := Option.ne_none_iff_exists'.mp someConsumer
      obtain ⟨request, issued, same⟩ := keyed.consumers rid entry found
      exact ⟨request.id, ⟨rid, entry.request, request, issued, rfl, Or.inr ⟨entry.target, found⟩⟩,
        same⟩
    · obtain ⟨entry, found⟩ := Option.ne_none_iff_exists'.mp someCallback
      obtain ⟨request, issued, same⟩ := keyed.callbacks rid entry found
      exact ⟨request.id, ⟨rid, entry.request, request, issued, rfl, Or.inl ⟨entry.target, found⟩⟩,
        same⟩

end Client

section Documents

variable {J : Type} [JsonDoc J]

/-- An id as the client reads it. -/
def readId (id : J) : MessageId :=
  match JsonDoc.getUInt32 id with
  | .ok rid => .integer rid.toNat
  | .error _ => .unreadable

/-- What the client reads of a message: a method that is no string throws like an
id that is no number, but later. -/
def readMessage (j : J) : Message where
  id := (JsonLib.find j "id").elim .absent readId
  method := (JsonLib.find j "method").bind fun method => (JsonLib.getString method).toOption

end Documents

namespace Client

/-- The message reaches no reply callback and no consumer, leaves both maps as
they are, and the calls for its method are still made. -/
def Ignores (s : Client P H C) (m : Message) : Prop :=
  let t := onmessage m s
  t.callbacks = s.callbacks ∧ t.consumers = s.consumers ∧ t.taken = s.taken ∧
    t.tasks = s.tasks ++ m.method.elim [] methodTasks

theorem ofInt_toNat (rid : UInt32) : UInt32.ofInt rid.toNat = rid := by
  have bound := rid.toNat_lt
  apply UInt32.toNat_inj.mp
  rw [UInt32.ofInt, UInt32.toNat_ofNat']
  omega

theorem ignores_key (s : Client P H C) (rid : UInt32) {m : Message}
    (id : m.id = .integer rid.toNat) :
    Ignores s m ↔ s.consumers rid = none ∧ s.callbacks rid = none := by
  unfold Ignores onmessage
  rw [id]
  simp only [takeReceivers, ofInt_toNat]
  constructor
  · rintro ⟨callbacks, consumers, _, _⟩
    have noCallback := congrFun callbacks rid
    have noConsumer := congrFun consumers rid
    rw [Function.update_self] at noCallback noConsumer
    exact ⟨noConsumer.symm, noCallback.symm⟩
  · rintro ⟨noConsumer, noCallback⟩
    have nobody : waiting rid rid.toNat s = [] := by
      rw [waiting, noConsumer, noCallback]
      rfl
    refine ⟨?_, ?_, ?_, ?_⟩
    · rw [← noCallback, Function.update_eq_self]
    · rw [← noConsumer, Function.update_eq_self]
    · rw [nobody, List.append_nil]
    · rw [nobody, List.map_nil, List.append_nil]

theorem ignores_unreadable (s : Client P H C) {m : Message} (id : m.id = .unreadable) :
    Ignores s m ↔ m.method = none := by
  unfold Ignores onmessage
  rw [id]
  cases method : m.method with
  | none => simp
  | some name =>
    refine iff_of_false (fun ignored => ?_) (fun no => nomatch no)
    have empty : (methodTasks name : List (Task H C)) = [] :=
      List.self_eq_append_right.mp ignored.2.2.2
    simp [methodTasks] at empty

variable {J : Type} [JsonDoc J]

/-- The id converts to the low half of no awaited id; or it does not convert, and
the message has no method. -/
def NoAlias (s : Client P H C) (id : J) (method : Option String) : Prop :=
  match JsonDoc.getUInt32 id with
  | .ok rid => ∀ own, s.Awaits own → own.toUInt32 ≠ rid
  | .error _ => method = none

variable [DecidableEq C]

/-- In every reachable state a message is ignored exactly when its id is no alias. -/
theorem foreign_id_ignored_iff (events : List (WsEvent P H C)) {j id : J}
    (carried : JsonLib.find j "id" = some id) :
    let s := run step ({} : Client P H C) events
    Ignores s (readMessage j) ↔ NoAlias s id (readMessage j).method := by
  intro s
  have start : KeyedMaps ({} : Client P H C) := ⟨nofun, nofun⟩
  have keyed : KeyedMaps s := run_invariant (fun _ e keyed => keyed.step e) start events
  have read : (readMessage j).id = readId id := by rw [readMessage, carried]; rfl
  unfold NoAlias
  cases converted : JsonDoc.getUInt32 id with
  | ok rid =>
    have key : (readMessage j).id = .integer rid.toNat := by rw [read, readId, converted]
    rw [ignores_key s rid key, ← not_iff_not, ← keyed.awaits rid]
    simp only [ne_eq, not_forall, not_not, exists_prop]
  | error thrown =>
    have unread : (readMessage j).id = .unreadable := by rw [read, readId, converted]
    exact ignores_unreadable s unread

end Client

section Witness

private def asking : List (WsEvent String Nat Nat) := [.sendBareCb "printer.objects.list" 7]

private def aliased : Json := .obj [("id", .int 4294967296), ("result", .obj [])]

private def namedResponse : Json :=
  .obj [("id", .str "a"), ("method", .str "notify_gcode_response")]

theorem foreign_id_ignored_iff_aliased :
    JsonLib.find aliased "id" = some (.int 4294967296) ∧
      (Client.Ignores (run Client.step {} asking) (readMessage aliased) ↔
        Client.NoAlias (run Client.step {} asking) (Json.int 4294967296) (readMessage aliased).method) :=
  ⟨rfl, Client.foreign_id_ignored_iff asking rfl⟩

/-- The id `2 ^ 32` answers the request with the id 0, and a message with a text
for an id reaches no handler of its method. -/
theorem foreign_id_answers :
    (run Client.step {} asking).sent.map Request.id = [0] ∧
      (run Client.step {} (asking ++ [.message (readMessage aliased), .next])).replies =
        [⟨.callback 7, 0, 0⟩] ∧
      (readMessage namedResponse).method = some "notify_gcode_response" ∧
      (run Client.step {} (asking ++
        [.registerMethod "notify_gcode_response" "MainPanel" 9,
          .message (readMessage namedResponse), .next, .next])).inCall = false :=
  ⟨rfl, by decide, rfl, by decide⟩

end Witness

end GrumpyScreen
