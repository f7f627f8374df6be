import GrumpyScreen.Client

/-! Replies of the websocket client: the two maps and the counter refine a ledger
of numbered requests, as long as the counter fits the maps' keys. -/

namespace GrumpyScreen

open Lib

variable {P H C : Type}

/-- The event issues a request, with the receiver it registers. -/
def WsEvent.issues : WsEvent P H C → Option (Option (Receiver H C))
  | .sendParams _ _ | .sendBare _ => some none
  | .sendParamsCb _ _ cb | .sendBareCb _ cb => some (some (.callback cb))
  | .sendParamsConsumer _ _ consumer => some (some (.consumer consumer))
  | _ => none

def WsEvent.isRequest (e : WsEvent P H C) : Bool := e.issues.isSome

/-- The event is no message whose id is not an integer from 0 to 2^32 - 1. -/
def WsEvent.numbered : WsEvent P H C → Bool
  | .message m =>
    match m.id with
    | .absent => true
    | .integer id => decide (0 ≤ id ∧ id < 4294967296)
    | .unreadable => false
  | _ => true

namespace Client

/-- The replies among the tasks of the websocket thread. -/
def repliesIn (tasks : List (Task H C)) : List (Reply H C) :=
  tasks.filterMap fun
    | .reply reply => some reply
    | _ => none

/-- The replies still to be handed out. -/
def queued (s : Client P H C) : List (Reply H C) := repliesIn s.tasks

/-- The request waits on its map for a reply. -/
def Waits (s : Client P H C) (request : Nat) : Receiver H C → Prop
  | .callback cb => ∃ key, s.callbacks key = some ⟨cb, request⟩
  | .consumer consumer => ∃ key, s.consumers key = some ⟨consumer, request⟩

/-- One of the two maps against the waiting requests: its entries are those whose
receiver `kind` builds, each under its own number. -/
def Mirrors (map : UInt32 → Option (Entry α)) (kind : α → Receiver H C)
    (l : Ledger (Receiver H C)) : Prop :=
  ∀ key entry, map key = some entry ↔
    entry.request = key.toNat ∧ l.waiting key.toNat = some (kind entry.target)

/-- What the maps and the history say of the ledger `l`. -/
structure Refines (s : Client P H C) (l : Ledger (Receiver H C)) : Prop where
  counter : s.id.toNat = s.sent.length
  receivers : s.sent.map Request.receiver = l.requests
  ids : ∀ n (request : Request P H C), s.sent[n]? = some request → request.id.toNat = n
  callbacks : Mirrors s.callbacks .callback l
  consumers : Mirrors s.consumers .consumer l
  answers : s.taken.map (fun reply => (reply.request, reply.receiver)) = l.answered
  own : ∀ reply ∈ s.taken, (reply.request : Int) = reply.id
  handed : (s.replies ++ s.queued).Sublist s.taken

/-- The ledger after an event. -/
def track (l : Ledger (Receiver H C)) (s : Client P H C) (e : WsEvent P H C) :
    Ledger (Receiver H C) :=
  match e with
  | .message m =>
    match m.id with
    | .integer id => if s.idle then l.answer id.toNat else l
    | _ => l
  | e =>
    match e.issues with
    | some receiver => l.issue receiver
    | none => l

section Maps

variable {map : UInt32 → Option (Entry α)} {kind : α → Receiver H C}
  {l : Ledger (Receiver H C)}

theorem Mirrors.issue_mine (mirrors : Mirrors map kind l) (distinct : kind.Injective)
    {key : UInt32} (fresh : key.toNat = l.requests.length) (target : α) :
    Mirrors (Function.update map key (some ⟨target, l.requests.length⟩)) kind
      (l.issue (some (kind target))) := by
  intro other entry
  by_cases same : other = key
  · subst same
    rw [Function.update_self, fresh, Ledger.issue_waiting_self]
    constructor
    · intro found
      cases found
      exact ⟨rfl, rfl⟩
    · rintro ⟨request, found⟩
      cases entry with
      | mk other number =>
        cases distinct (Option.some.inj found)
        rw [show number = _ from request]
  · have apart : other.toNat ≠ l.requests.length := by
      intro clash
      exact same (UInt32.toNat_inj.mp (clash.trans fresh.symm))
    rw [Function.update_of_ne same, Ledger.issue_waiting_of_ne l _ apart]
    exact mirrors other entry

theorem Mirrors.issue_other (mirrors : Mirrors map kind l) (valid : l.Valid)
    {receiver : Option (Receiver H C)} (other : ∀ target, receiver ≠ some (kind target)) :
    Mirrors map kind (l.issue receiver) := by
  intro key entry
  by_cases last : key.toNat = l.requests.length
  · have free := valid.next_free
    rw [mirrors key entry, last, Ledger.issue_waiting_self, free]
    constructor
    · rintro ⟨-, waiting⟩
      contradiction
    · rintro ⟨-, waiting⟩
      exact absurd waiting (other entry.target)
  · rw [Ledger.issue_waiting_of_ne l _ last]
    exact mirrors key entry

theorem Mirrors.answer (mirrors : Mirrors map kind l) (key : UInt32) :
    Mirrors (Function.update map key none) kind (l.answer key.toNat) := by
  intro other entry
  rw [Ledger.answer_waiting]
  by_cases same : other = key
  · subst same
    simp
  · have apart : other.toNat ≠ key.toNat := fun clash => same (UInt32.toNat_inj.mp clash)
    rw [Function.update_of_ne same, Function.update_of_ne apart]
    exact mirrors other entry

theorem Mirrors.free (mirrors : Mirrors map kind l) (key : UInt32)
    (none : ∀ target, l.waiting key.toNat ≠ some (kind target)) : map key = .none :=
  Option.eq_none_iff_forall_ne_some.mpr fun entry found =>
    none entry.target ((mirrors key entry).mp found).2

end Maps

section Steps

variable {s : Client P H C} {l : Ledger (Receiver H C)}

theorem Refines.empty : Refines ({} : Client P H C) {} where
  counter := rfl
  receivers := rfl
  ids _ _ found := nomatch found
  callbacks _ _ := ⟨nofun, nofun⟩
  consumers _ _ := ⟨nofun, nofun⟩
  answers := rfl
  own _ member := nomatch member
  handed := List.Sublist.refl _

/-- What leaves the maps, the counter and the history alone keeps the refinement,
as long as it hands out no more than was queued. -/
theorem Refines.keep {t : Client P H C} (refines : Refines s l)
    (same : (t.id, t.callbacks, t.consumers, t.sent, t.taken) =
      (s.id, s.callbacks, s.consumers, s.sent, s.taken))
    (fewer : (t.replies ++ t.queued).Sublist (s.replies ++ s.queued)) : Refines t l := by
  obtain ⟨id, rest⟩ := Prod.mk.inj same
  obtain ⟨callbacks, rest⟩ := Prod.mk.inj rest
  obtain ⟨consumers, rest⟩ := Prod.mk.inj rest
  obtain ⟨sent, taken⟩ := Prod.mk.inj rest
  obtain ⟨counter, receivers, ids, onCallbacks, onConsumers, answers, own, handed⟩ := refines
  rw [← id, ← sent] at counter
  rw [← sent] at receivers ids
  rw [← callbacks] at onCallbacks
  rw [← consumers] at onConsumers
  rw [← taken] at answers own handed
  exact ⟨counter, receivers, ids, onCallbacks, onConsumers, answers, own, fewer.trans handed⟩

theorem Refines.transmitted {t : Client P H C} {receiver : Option (Receiver H C)}
    (refines : Refines s l) (room : s.sent.length < 4294967296)
    (method : String) (params : Option P)
    (callbacks : Mirrors t.callbacks .callback (l.issue receiver))
    (consumers : Mirrors t.consumers .consumer (l.issue receiver))
    (same : (t.id, t.sent, t.taken, t.replies, t.tasks) =
      (s.id, s.sent, s.taken, s.replies, s.tasks)) :
    Refines (t.transmit method params receiver) (l.issue receiver) := by
  obtain ⟨id, rest⟩ := Prod.mk.inj same
  obtain ⟨sent, rest⟩ := Prod.mk.inj rest
  obtain ⟨taken, rest⟩ := Prod.mk.inj rest
  obtain ⟨replies, tasks⟩ := Prod.mk.inj rest
  have counter := refines.counter
  refine ⟨?_, ?_, fun n request found => ?_, callbacks, consumers, ?_, ?_, ?_⟩
  · show (t.id + 1).toNat = (t.sent ++ [_]).length
    rw [id, sent, UInt64.toNat_add, List.length_append, counter]
    simp only [UInt64.toNat_one, List.length_singleton]
    omega
  · show (t.sent ++ [_]).map Request.receiver = l.requests ++ [receiver]
    rw [sent, List.map_append, refines.receivers]
    rfl
  · have appended : (s.sent ++ [⟨s.id, method, params, receiver⟩])[n]? = some request := by
      rw [← id, ← sent]
      exact found
    rcases Nat.lt_or_ge n s.sent.length with earlier | last
    · rw [List.getElem?_append_left earlier] at appended
      exact refines.ids n request appended
    · rw [List.getElem?_append_right last] at appended
      obtain ⟨bound, entry⟩ := List.getElem?_eq_some_iff.mp appended
      have now : n = s.sent.length := by
        simp at bound
        omega
      subst now
      simp at entry
      rw [← entry]
      exact counter
  · show t.taken.map _ = l.answered
    rw [taken]
    exact refines.answers
  · intro reply member
    exact refines.own reply (taken ▸ member)
  · show (t.replies ++ t.queued).Sublist t.taken
    rw [replies, taken, queued, tasks]
    exact refines.handed

theorem key_toNat {id : Int} (range : 0 ≤ id ∧ id < 4294967296) :
    (UInt32.ofInt id).toNat = id.toNat := by
  rw [UInt32.ofInt, UInt32.toNat_ofNat']
  omega

theorem Refines.waiting_eq (refines : Refines s l) (key : UInt32) (id : Int) :
    waiting key id s =
      ((l.waiting key.toNat).map fun receiver => ⟨receiver, key.toNat, id⟩).toList := by
  unfold waiting
  cases receiver : l.waiting key.toNat with
  | none =>
    have noCallback := refines.callbacks.free key (by simp [receiver])
    have noConsumer := refines.consumers.free key (by simp [receiver])
    simp [noCallback, noConsumer]
  | some receiver' =>
    cases receiver' with
    | callback cb =>
      have found := (refines.callbacks key ⟨cb, key.toNat⟩).mpr ⟨rfl, receiver⟩
      have noConsumer := refines.consumers.free key (by simp [receiver])
      simp [found, noConsumer]
    | consumer consumer =>
      have found := (refines.consumers key ⟨consumer, key.toNat⟩).mpr ⟨rfl, receiver⟩
      have noCallback := refines.callbacks.free key (by simp [receiver])
      simp [found, noCallback]

theorem repliesIn_append (first second : List (Task H C)) :
    repliesIn (first ++ second) = repliesIn first ++ repliesIn second := List.filterMap_append

@[simp] theorem repliesIn_map_reply (replies : List (Reply H C)) :
    repliesIn (replies.map .reply) = replies := by
  induction replies with
  | nil => rfl
  | cons reply rest ih => exact congrArg (reply :: ·) ih

@[simp] theorem repliesIn_methodTasks (method : Option String) :
    repliesIn (method.elim [] methodTasks : List (Task H C)) = [] := by
  cases method with
  | none => rfl
  | some method =>
    simp only [Option.elim_some, methodTasks]
    split
    · rfl
    · split
      · rfl
      · split
        · rfl
        · split <;> rfl

theorem Refines.take (refines : Refines s l) {id : Int}
    (range : 0 ≤ id ∧ id < 4294967296) (idle : s.tasks = []) :
    Refines (takeReceivers id s) (l.answer id.toNat) := by
  have found := refines.waiting_eq (UInt32.ofInt id) id
  have key := key_toNat range
  refine ⟨refines.counter, ?_, refines.ids, ?_, ?_, ?_, ?_, ?_⟩
  · rw [Ledger.answer_requests]
    exact refines.receivers
  · rw [← key]
    exact refines.callbacks.answer _
  · rw [← key]
    exact refines.consumers.answer _
  · show (s.taken ++ waiting _ id s).map _ = _
    rw [List.map_append, refines.answers, found, key, Ledger.answer]
    cases l.waiting id.toNat with
    | none => simp
    | some receiver => rfl
  · intro reply member
    rcases List.mem_append.mp member with earlier | now
    · exact refines.own reply earlier
    · rw [found, key] at now
      obtain ⟨receiver, -, rfl⟩ := Option.map_eq_some_iff.mp (Option.mem_toList.mp now)
      exact Int.toNat_of_nonneg range.1
  · have handed := refines.handed
    rw [queued, idle] at handed
    show (s.replies ++ repliesIn (s.tasks ++ (waiting _ id s).map Task.reply)).Sublist
      (s.taken ++ waiting _ id s)
    rw [idle, repliesIn_append, repliesIn_map_reply, ← List.append_assoc]
    exact handed.append_right _

theorem Refines.queueing (refines : Refines s l) {tasks : List (Task H C)}
    (silent : repliesIn tasks = []) : Refines { s with tasks := s.tasks ++ tasks } l := by
  refine refines.keep rfl ?_
  show (s.replies ++ repliesIn (s.tasks ++ tasks)).Sublist _
  rw [repliesIn_append, silent, List.append_nil]
  exact List.Sublist.refl _

theorem Refines.turned (refines : Refines s l) : Refines s.next l := by
  cases tasks : s.tasks with
  | nil =>
    have same : s.next = s := by simp [Client.next, tasks]
    rw [same]
    exact refines
  | cons task rest =>
    refine refines.keep ?_ ?_
    · cases task <;> simp [Client.next, tasks]
    · have notified : repliesIn (s.notifyConsumers.map Task.notify) =
          ([] : List (Reply H C)) := by
        simp [repliesIn]
      have handled : ∀ method, repliesIn ((s.methodRespCbs method).map fun named =>
          Task.handler named.2) = ([] : List (Reply H C)) := by
        intro method
        simp [repliesIn]
      unfold queued
      cases task <;>
        simp [Client.next, tasks, repliesIn_append, notified, handled] <;>
        exact List.Sublist.refl _

theorem Refines.received (refines : Refines s l) (m : Message) (idle : s.tasks = [])
    (numbered : (WsEvent.message m : WsEvent P H C).numbered = true) :
    Refines (Client.onmessage m s)
      (match m.id with
      | .integer id => l.answer id.toNat
      | _ => l) := by
  have silent := repliesIn_methodTasks (H := H) (C := C) m.method
  unfold Client.onmessage
  cases field : m.id with
  | absent => exact refines.queueing silent
  | integer id =>
    have range : 0 ≤ id ∧ id < 4294967296 := by simpa [WsEvent.numbered, field] using numbered
    exact (refines.take range idle).queueing silent
  | unreadable => simp [WsEvent.numbered, field] at numbered

/-- The maps and the counter keep up with the ledger. -/
theorem Refines.stepped [DecidableEq C] (refines : Refines s l) (valid : l.Valid)
    (room : s.sent.length < 4294967296) (e : WsEvent P H C) (numbered : e.numbered = true) :
    Refines (Client.step s e) (track l s e) := by
  have length : s.sent.length = l.requests.length := by
    rw [← refines.receivers, List.length_map]
  have key : s.id.toUInt32.toNat = l.requests.length := by
    have counter := refines.counter
    rw [UInt64.toNat_toUInt32, ← length]
    omega
  have plain : ∀ method params, Refines (transmit method params none s) (l.issue none) :=
    fun method params => refines.transmitted room method params
      (refines.callbacks.issue_other valid nofun) (refines.consumers.issue_other valid nofun) rfl
  have awaited : ∀ method params cb,
      Refines (transmit method params (some (.callback cb)) (awaitCallback cb s))
        (l.issue (some (.callback cb))) := by
    intro method params cb
    refine refines.transmitted room method params ?_ (refines.consumers.issue_other valid nofun) rfl
    rw [awaitCallback, length]
    exact refines.callbacks.issue_mine (fun _ _ same => Receiver.callback.inj same) key cb
  have dropped : (s.replies ++ []).Sublist (s.replies ++ s.queued) :=
    (List.nil_sublist _).append_left s.replies
  cases e with
  | sendParams method params => exact plain method (some params)
  | sendBare method => exact plain method none
  | sendParamsCb method params cb => exact awaited method (some params) cb
  | sendBareCb method cb => exact awaited method none cb
  | sendParamsConsumer method params consumer =>
    refine refines.transmitted room method (some params)
      (refines.callbacks.issue_other valid nofun) ?_ rfl
    rw [awaitConsumer, length]
    exact refines.consumers.issue_mine (fun _ _ same => Receiver.consumer.inj same) key consumer
  | registerNotify consumer =>
    simp only [Client.step, registerNotifyUpdate]
    split
    · exact refines
    · exact refines.keep rfl (List.Sublist.refl _)
  | unregisterNotify consumer => exact refines.keep rfl (List.Sublist.refl _)
  | registerMethod method name cb =>
    simp only [Client.step, registerMethodCallback]
    split
    · exact refines
    · exact refines.keep rfl (List.Sublist.refl _)
  | message m =>
    cases idle : s.idle with
    | false =>
      have left : Client.step s (.message m) = s := by simp [Client.step, idle]
      have kept : track l s (.message m) = l := by
        cases field : m.id <;> simp [track, idle, field]
      rw [left, kept]
      exact refines
    | true =>
      have empty : s.tasks = [] := by
        simp only [Client.idle, Bool.and_eq_true, List.isEmpty_iff] at idle
        exact idle.1
      have read := refines.received m empty numbered
      have taken : Client.step s (.message m) = Client.onmessage m s := if_pos idle
      rw [taken]
      cases field : m.id with
      | absent => simpa [track, field] using read
      | integer id => simpa [track, field, idle] using read
      | unreadable => simpa [track, field] using read
  | garbled => exact refines
  | opened =>
    show Refines (if s.idle then { s with tasks := [.connected] } else s) l
    split
    · exact refines.keep rfl dropped
    · exact refines
  | closed =>
    show Refines (if s.idle then { s with tasks := [.disconnected] } else s) l
    split
    · exact refines.keep rfl dropped
    · exact refines
  | next =>
    show Refines (if s.inCall then s else s.next) l
    split
    · exact refines
    · exact refines.turned
  | returned => exact refines.keep rfl (List.Sublist.refl _)
  | raised =>
    show Refines (if s.inCall then { s with inCall := false, tasks := [] } else s) l
    split
    · exact refines.keep rfl dropped
    · exact refines

theorem track_valid (valid : l.Valid) (s : Client P H C) (e : WsEvent P H C) :
    (track l s e).Valid := by
  unfold track
  split
  · split
    · split
      · exact valid.answer _
      · exact valid
    · exact valid
  · split
    · exact valid.issue _
    · exact valid

/-- Every request is transmitted once, and nothing else is. -/
theorem step_sent_length [DecidableEq C] (s : Client P H C) (e : WsEvent P H C) :
    (Client.step s e).sent.length = s.sent.length + if e.isRequest then 1 else 0 := by
  have guarded : ∀ (condition : Prop) [Decidable condition] (t : Client P H C),
      t.sent = s.sent → (if condition then t else s).sent.length = s.sent.length := by
    intro condition _ t same
    split
    · rw [same]
    · rfl
  cases e with
  | sendParams method params => exact List.length_append
  | sendBare method => exact List.length_append
  | sendParamsCb method params cb => exact List.length_append
  | sendBareCb method cb => exact List.length_append
  | sendParamsConsumer method params consumer => exact List.length_append
  | registerNotify consumer =>
    simp only [Client.step, registerNotifyUpdate]
    split <;> rfl
  | unregisterNotify consumer => rfl
  | registerMethod method name cb =>
    simp only [Client.step, registerMethodCallback]
    split <;> rfl
  | message m =>
    refine guarded _ (Client.onmessage m s) ?_
    unfold Client.onmessage
    cases m.id <;> rfl
  | garbled => rfl
  | opened => exact guarded _ _ rfl
  | closed => exact guarded _ _ rfl
  | next =>
    show (if s.inCall then s else s.next).sent.length = _
    split
    · rfl
    · unfold Client.next
      split <;> rfl
  | returned => rfl
  | raised => exact guarded _ _ rfl

end Steps

section Runs

variable [DecidableEq C]

theorem run_sent_length (s : Client P H C) (events : List (WsEvent P H C)) :
    (run step s events).sent.length = s.sent.length + events.countP WsEvent.isRequest := by
  induction events generalizing s with
  | nil => rfl
  | cons e rest ih =>
    rw [run_cons, ih, step_sent_length, List.countP_cons]
    omega

/-- As long as the counter fits the keys, the client refines a valid ledger. -/
theorem run_refines {s : Client P H C} {l : Ledger (Receiver H C)} (valid : l.Valid)
    (refines : Refines s l) (events : List (WsEvent P H C))
    (few : s.sent.length + events.countP WsEvent.isRequest < 4294967296)
    (numbered : ∀ e ∈ events, e.numbered = true) :
    ∃ l : Ledger (Receiver H C), l.Valid ∧ Refines (run step s events) l := by
  induction events generalizing s l with
  | nil => exact ⟨l, valid, refines⟩
  | cons e rest ih =>
    rw [List.countP_cons] at few
    have next := refines.stepped valid (by omega) e (numbered e (List.mem_cons_self ..))
    refine ih (track_valid valid s e) next ?_ fun later member =>
      numbered later (List.mem_cons_of_mem e member)
    rw [step_sent_length]
    omega

end Runs

/-- The message takes nothing off the maps and hands nothing out. -/
def Silent [DecidableEq C] (s : Client P H C) (m : Message) : Prop :=
  let t := step s (.message m)
  t.callbacks = s.callbacks ∧ t.consumers = s.consumers ∧
    t.queued = s.queued ∧ t.replies = s.replies

/-- From `s` to `t` the request's receiver is put on its map, under a key that was free on
both, and nothing else on the maps changes. -/
def Registers (s t : Client P H C) (key : UInt32) (request : Nat) (receiver : Receiver H C) :
    Prop :=
  s.callbacks key = none ∧ s.consumers key = none ∧
    match receiver with
    | .callback cb =>
      t.callbacks = Function.update s.callbacks key (some ⟨cb, request⟩) ∧
        t.consumers = s.consumers
    | .consumer consumer =>
      t.consumers = Function.update s.consumers key (some ⟨consumer, request⟩) ∧
        t.callbacks = s.callbacks

/-- What the client owes whoever sends a request: its receiver is registered under the
transmitted id and stays registered until a message comes, a receiver is invoked at most
once and only by its own id, the first message with that id hands the reply to it
and takes it off its map, no other message hands anything out, and no request
takes the key of another. -/
structure Contract [DecidableEq C] (s : Client P H C) : Prop where
  registered : ∀ (e : WsEvent P H C) (receiver : Receiver H C), e.issues = some (some receiver) →
    ∃ request, (step s e).sent = s.sent ++ [request] ∧ request.receiver = some receiver ∧
      Registers s (step s e) request.id.toUInt32 s.sent.length receiver
  kept : ∀ e : WsEvent P H C, e.issues = none → (∀ m, e ≠ .message m) →
    (step s e).callbacks = s.callbacks ∧ (step s e).consumers = s.consumers ∧
      (step s e).sent = s.sent
  once : (s.replies.map Reply.request).Nodup
  own : ∀ reply ∈ s.replies, ∃ request, s.sent[reply.request]? = some request ∧
    request.receiver = some reply.receiver ∧ (request.id.toNat : Int) = reply.id
  answered : ∀ (n : Nat) (receiver : Receiver H C) (request : Request P H C) (m : Message),
    s.Waits n receiver → s.sent[n]? = some request → s.idle = true →
    m.id = .integer request.id.toNat →
      let t := step s (.message m)
      let reply : Reply H C := ⟨receiver, n, request.id.toNat⟩
      t.queued = [reply] ∧ (∀ other, ¬ t.Waits n other) ∧
        (∀ k other, k ≠ n → (t.Waits k other ↔ s.Waits k other)) ∧
        ∀ sends : List (WsEvent P H C), (∀ e ∈ sends, e.isRequest = true) →
          (step (run step t sends) .next).replies = s.replies ++ [reply]
  unknown : ∀ m : Message, (WsEvent.message m : WsEvent P H C).numbered = true →
    (∀ n (receiver : Receiver H C) (request : Request P H C), s.Waits n receiver →
      s.sent[n]? = some request → m.id ≠ .integer request.id.toNat) → Silent s m
  duplicate : ∀ reply ∈ s.replies, ∀ m : Message, m.id = .integer reply.id → Silent s m
  plain : ∀ e : WsEvent P H C, e.issues = some none →
    (step s e).callbacks = s.callbacks ∧ (step s e).consumers = s.consumers
  fresh : ∀ request ∈ s.sent, request.id.toUInt32 ≠ s.id.toUInt32

section Delivery

variable {s : Client P H C} {l : Ledger (Receiver H C)}

theorem Refines.waits_iff (refines : Refines s l) (valid : l.Valid)
    (room : s.sent.length < 4294967296) (n : Nat) (receiver : Receiver H C) :
    s.Waits n receiver ↔ l.waiting n = some receiver := by
  have small : l.waiting n = some receiver → (UInt32.ofNat n).toNat = n := by
    intro waiting
    have issued := (List.getElem?_eq_some_iff.mp (valid.waits n receiver waiting)).1
    rw [← refines.receivers, List.length_map] at issued
    rw [UInt32.toNat_ofNat']
    omega
  cases receiver with
  | callback cb =>
    constructor
    · rintro ⟨key, found⟩
      obtain ⟨number, waiting⟩ := (refines.callbacks key _).mp found
      rw [show n = key.toNat from number]
      exact waiting
    · intro waiting
      refine ⟨UInt32.ofNat n, (refines.callbacks _ _).mpr ?_⟩
      rw [small waiting]
      exact ⟨rfl, waiting⟩
  | consumer consumer =>
    constructor
    · rintro ⟨key, found⟩
      obtain ⟨number, waiting⟩ := (refines.consumers key _).mp found
      rw [show n = key.toNat from number]
      exact waiting
    · intro waiting
      refine ⟨UInt32.ofNat n, (refines.consumers _ _).mpr ?_⟩
      rw [small waiting]
      exact ⟨rfl, waiting⟩

theorem Refines.replied (refines : Refines s l) (valid : l.Valid) {reply : Reply H C}
    (member : reply ∈ s.replies) :
    (reply.request, reply.receiver) ∈ l.answered ∧ ∃ request,
      s.sent[reply.request]? = some request ∧ request.receiver = some reply.receiver ∧
        (request.id.toNat : Int) = reply.id := by
  have taken : reply ∈ s.taken := refines.handed.subset (List.mem_append_left _ member)
  have answered : (reply.request, reply.receiver) ∈ l.answered := by
    rw [← refines.answers]
    exact List.mem_map_of_mem taken
  have issued := valid.issued _ _ answered
  rw [← refines.receivers, List.getElem?_map] at issued
  obtain ⟨request, found, receiver⟩ := Option.map_eq_some_iff.mp issued
  refine ⟨answered, request, found, receiver, ?_⟩
  rw [refines.ids _ _ found]
  exact refines.own reply taken

theorem Refines.once (refines : Refines s l) (valid : l.Valid) :
    (s.replies.map Reply.request).Nodup := by
  have numbers : s.taken.map Reply.request = l.answered.map Prod.fst := by
    rw [← refines.answers, List.map_map]
    rfl
  have handed := ((List.sublist_append_left s.replies s.queued).trans refines.handed).map
    Reply.request
  exact handed.nodup (numbers ▸ valid.once)

theorem Refines.unknown [DecidableEq C] (refines : Refines s l) {m : Message}
    (numbered : (WsEvent.message m : WsEvent P H C).numbered = true)
    (nobody : ∀ id, m.id = .integer id → l.waiting id.toNat = none) : Silent s m := by
  have silent := repliesIn_methodTasks (H := H) (C := C) m.method
  have queueing : ∀ tasks : List (Task H C), repliesIn tasks = [] →
      repliesIn (s.tasks ++ tasks) = s.queued := by
    intro tasks none
    rw [repliesIn_append, none, List.append_nil, queued]
  unfold Silent step
  cases idle : s.idle with
  | false => exact ⟨rfl, rfl, rfl, rfl⟩
  | true =>
    simp only [if_true, Client.onmessage]
    cases field : m.id with
    | absent => exact ⟨rfl, rfl, queueing _ silent, rfl⟩
    | unreadable => simp [WsEvent.numbered, field] at numbered
    | integer id =>
      have range : 0 ≤ id ∧ id < 4294967296 := by simpa [WsEvent.numbered, field] using numbered
      have key := key_toNat range
      have none := nobody id field
      have noCallback := refines.callbacks.free (UInt32.ofInt id) (by simp [key, none])
      have noConsumer := refines.consumers.free (UInt32.ofInt id) (by simp [key, none])
      have found : waiting (UInt32.ofInt id) id s = [] := by
        rw [refines.waiting_eq, key, none]
        rfl
      refine ⟨?_, ?_, ?_, rfl⟩
      · show Function.update s.callbacks (UInt32.ofInt id) .none = s.callbacks
        rw [← noCallback, Function.update_eq_self]
      · show Function.update s.consumers (UInt32.ofInt id) .none = s.consumers
        rw [← noConsumer, Function.update_eq_self]
      · show repliesIn (s.tasks ++ (waiting (UInt32.ofInt id) id s).map Task.reply ++ _) = _
        rw [found, List.map_nil, List.append_nil]
        exact queueing _ silent

theorem Refines.answered [DecidableEq C] (refines : Refines s l) (valid : l.Valid)
    (room : s.sent.length < 4294967296) {n : Nat} {receiver : Receiver H C}
    {request : Request P H C} {m : Message} (waits : s.Waits n receiver)
    (sent : s.sent[n]? = some request) (idle : s.idle = true)
    (id : m.id = .integer request.id.toNat) :
    let t := step s (.message m)
    t.tasks = .reply ⟨receiver, n, request.id.toNat⟩ :: m.method.elim [] methodTasks ∧
      t.replies = s.replies ∧ t.inCall = false ∧ (∀ other, ¬ t.Waits n other) ∧
      ∀ k other, k ≠ n → (t.Waits k other ↔ s.Waits k other) := by
  have number := refines.ids n request sent
  have bound := (List.getElem?_eq_some_iff.mp sent).1
  have waiting := (refines.waits_iff valid room n receiver).mp waits
  rw [number] at id ⊢
  have range : 0 ≤ (n : Int) ∧ (n : Int) < 4294967296 := by omega
  have numbered : (WsEvent.message m : WsEvent P H C).numbered = true := by
    simp [WsEvent.numbered, id, range]
  have tracked : track l s (.message m) = l.answer n := by simp [track, id, idle]
  have next := refines.stepped valid room (.message m) numbered
  rw [tracked] at next
  have length := step_sent_length s (.message m)
  have waitsNext := next.waits_iff (valid.answer n) (length ▸ room)
  rw [Ledger.answer_waiting] at waitsNext
  have entered : step s (.message m) = Client.onmessage m s := if_pos idle
  simp only [Client.idle, Bool.and_eq_true, List.isEmpty_iff, Bool.not_eq_true'] at idle
  refine ⟨?_, ?_, ?_, fun other => ?_, fun k other apart => ?_⟩
  · have found : Client.waiting (UInt32.ofInt n) n s = [⟨receiver, n, n⟩] := by
      rw [refines.waiting_eq, key_toNat range, Int.toNat_natCast, waiting]
      rfl
    rw [entered, Client.onmessage, id]
    show s.tasks ++ (Client.waiting (UInt32.ofInt n) n s).map Task.reply ++ _ = _
    rw [idle.1, found]
    rfl
  · rw [entered, Client.onmessage, id]
    rfl
  · rw [entered, Client.onmessage, id]
    exact idle.2
  · rw [waitsNext n other, Function.update_self]
    exact nofun
  · rw [waitsNext k other, Function.update_of_ne apart, refines.waits_iff valid room]

theorem request_frame [DecidableEq C] (s : Client P H C) (e : WsEvent P H C)
    (request : e.isRequest = true) :
    (step s e).tasks = s.tasks ∧ (step s e).replies = s.replies ∧
      (step s e).inCall = s.inCall := by
  cases e with
  | sendParams method params => exact ⟨rfl, rfl, rfl⟩
  | sendBare method => exact ⟨rfl, rfl, rfl⟩
  | sendParamsCb method params cb => exact ⟨rfl, rfl, rfl⟩
  | sendBareCb method cb => exact ⟨rfl, rfl, rfl⟩
  | sendParamsConsumer method params consumer => exact ⟨rfl, rfl, rfl⟩
  | _ => simp [WsEvent.isRequest, WsEvent.issues] at request

theorem requests_frame [DecidableEq C] (s : Client P H C) (sends : List (WsEvent P H C))
    (requests : ∀ e ∈ sends, e.isRequest = true) :
    (run step s sends).tasks = s.tasks ∧ (run step s sends).replies = s.replies ∧
      (run step s sends).inCall = s.inCall := by
  induction sends generalizing s with
  | nil => exact ⟨rfl, rfl, rfl⟩
  | cons e rest ih =>
    obtain ⟨tasks, replies, inCall⟩ := request_frame s e (requests e (List.mem_cons_self ..))
    obtain ⟨tasks', replies', inCall'⟩ :=
      ih (step s e) fun later member => requests later (List.mem_cons_of_mem e member)
    exact ⟨tasks'.trans tasks, replies'.trans replies, inCall'.trans inCall⟩

theorem Refines.next_free (refines : Refines s l) (valid : l.Valid)
    (room : s.sent.length < 4294967296) :
    s.callbacks s.id.toUInt32 = none ∧ s.consumers s.id.toUInt32 = none := by
  have number : s.id.toUInt32.toNat = l.requests.length := by
    rw [UInt64.toNat_toUInt32, ← refines.receivers, List.length_map, refines.counter]
    exact Nat.mod_eq_of_lt room
  have free : l.waiting s.id.toUInt32.toNat = none := number ▸ valid.next_free
  refine ⟨refines.callbacks.free _ fun cb waiting => ?_,
    refines.consumers.free _ fun consumer waiting => ?_⟩
  · cases free.symm.trans waiting
  · cases free.symm.trans waiting

/-- What sends no request and is no message leaves the maps as they are. -/
theorem step_kept [DecidableEq C] (s : Client P H C) {e : WsEvent P H C} (none : e.issues = none)
    (other : ∀ m, e ≠ .message m) :
    (step s e).callbacks = s.callbacks ∧ (step s e).consumers = s.consumers ∧
      (step s e).sent = s.sent := by
  cases e with
  | registerNotify consumer =>
    simp only [Client.step, registerNotifyUpdate]
    split <;> exact ⟨rfl, rfl, rfl⟩
  | unregisterNotify consumer => exact ⟨rfl, rfl, rfl⟩
  | registerMethod method name cb =>
    simp only [Client.step, registerMethodCallback]
    split <;> exact ⟨rfl, rfl, rfl⟩
  | message m => exact absurd rfl (other m)
  | garbled => exact ⟨rfl, rfl, rfl⟩
  | opened =>
    simp only [Client.step]
    split <;> exact ⟨rfl, rfl, rfl⟩
  | closed =>
    simp only [Client.step]
    split <;> exact ⟨rfl, rfl, rfl⟩
  | next =>
    simp only [Client.step, Client.next]
    split
    · exact ⟨rfl, rfl, rfl⟩
    · split <;> exact ⟨rfl, rfl, rfl⟩
  | returned => exact ⟨rfl, rfl, rfl⟩
  | raised =>
    simp only [Client.step]
    split <;> exact ⟨rfl, rfl, rfl⟩
  | _ => cases none

theorem Refines.contract [DecidableEq C] (refines : Refines s l) (valid : l.Valid)
    (room : s.sent.length < 4294967296) : Contract s where
  registered e receiver issues := by
    obtain ⟨callback, consumer⟩ := refines.next_free valid room
    cases e with
    | sendParamsCb method params cb =>
      cases issues
      exact ⟨_, rfl, rfl, callback, consumer, rfl, rfl⟩
    | sendBareCb method cb =>
      cases issues
      exact ⟨_, rfl, rfl, callback, consumer, rfl, rfl⟩
    | sendParamsConsumer method params target =>
      cases issues
      exact ⟨_, rfl, rfl, callback, consumer, rfl, rfl⟩
    | _ => cases issues
  kept e none other := step_kept s none other
  once := refines.once valid
  own reply member := (refines.replied valid member).2
  answered n receiver request m waits sent idle id := by
    obtain ⟨tasks, replies, inCall, gone, others⟩ :=
      refines.answered valid room waits sent idle id
    refine ⟨?_, gone, others, fun sends requests => ?_⟩
    · rw [queued, tasks]
      exact congrArg (_ :: ·) (repliesIn_methodTasks m.method)
    · obtain ⟨tasks', replies', inCall'⟩ := requests_frame (step s (.message m)) sends requests
      show (if _ then _ else Client.next _).replies = _
      rw [inCall', inCall, if_neg Bool.false_ne_true, Client.next, tasks', tasks]
      exact congrArg (· ++ [_]) (replies'.trans replies)
  unknown m numbered nobody := by
    refine refines.unknown numbered fun id field => ?_
    have range : 0 ≤ id ∧ id < 4294967296 := by simpa [WsEvent.numbered, field] using numbered
    cases waiting : l.waiting id.toNat with
    | none => rfl
    | some receiver =>
      have issued := valid.waits _ _ waiting
      rw [← refines.receivers, List.getElem?_map] at issued
      obtain ⟨request, sent, -⟩ := Option.map_eq_some_iff.mp issued
      have waits := (refines.waits_iff valid room _ _).mpr waiting
      refine absurd ?_ (nobody _ receiver request waits sent)
      rw [field, refines.ids _ request sent, Int.toNat_of_nonneg range.1]
  duplicate reply member m field := by
    obtain ⟨answered, request, sent, -, own⟩ := refines.replied valid member
    have number := refines.ids _ request sent
    have bound := (List.getElem?_eq_some_iff.mp sent).1
    refine refines.unknown ?_ fun id same => ?_
    · simp only [WsEvent.numbered, field, decide_eq_true_eq]
      omega
    · cases field.symm.trans same
      rw [← own, Int.toNat_natCast, number]
      exact valid.taken _ _ answered
  plain e silent := by
    cases e with
    | sendParams method params => exact ⟨rfl, rfl⟩
    | sendBare method => exact ⟨rfl, rfl⟩
    | _ => simp [WsEvent.issues] at silent
  fresh request member same := by
    obtain ⟨n, bound, found⟩ := List.mem_iff_getElem.mp member
    have number := refines.ids n request (List.getElem?_eq_some_iff.mpr ⟨bound, found⟩)
    have counter := refines.counter
    have keys := congrArg UInt32.toNat same
    rw [UInt64.toNat_toUInt32, UInt64.toNat_toUInt32] at keys
    omega

end Delivery

/-- Over every run in which the counter fits the keys of the maps and every id is
a number in their range. -/
theorem replies_delivered [DecidableEq C] (events : List (WsEvent P H C))
    (few : events.countP WsEvent.isRequest < 4294967296)
    (numbered : ∀ e ∈ events, e.numbered = true) :
    Contract (run step ({} : Client P H C) events) := by
  have start : ({} : Client P H C).sent.length + events.countP WsEvent.isRequest < 4294967296 := by
    simpa using few
  obtain ⟨l, valid, refines⟩ := run_refines Ledger.Valid.empty Refines.empty events start numbered
  refine refines.contract valid ?_
  rw [run_sent_length]
  exact start

/-- A callback that sends from within its reply, over a dropped link. -/
def reentrantRun : List (WsEvent String Nat Nat) :=
  [.opened, .next, .sendBareCb "printer.objects.list" 7, .returned, .sendBare "server.info",
    .message ⟨.integer 0, none⟩, .next, .sendParamsConsumer "printer.objects.subscribe" "all" 9,
    .returned, .closed, .next, .returned, .message ⟨.integer 0, none⟩,
    .message ⟨.integer 2, some "notify_klippy_ready"⟩, .next]

theorem replies_delivered_reentrant :
    Contract (run step ({} : Client String Nat Nat) reentrantRun) :=
  replies_delivered reentrantRun (by decide) (by decide)

example : (run step ({} : Client String Nat Nat) reentrantRun).replies =
    [⟨.callback 7, 0, 0⟩, ⟨.consumer 9, 2, 2⟩] := by decide

end Client

end GrumpyScreen
