import GrumpyScreen.ForeignId
import GrumpyScreen.Replies

/-! The requests that are still to be answered. Nothing is assumed of how many are sent or of
the ids that messages carry: a later request may take the key of an earlier one, which then
waits for good. -/

namespace GrumpyScreen

open Lib

variable {P H C : Type}

/-- The callback a request left behind. -/
def Request.callback (request : Request P H C) : Option H :=
  match request.receiver with
  | some (.callback cb) => some cb
  | _ => none

/-- What a request calls. -/
def Request.rpc (request : Request P H C) : String × Option P := (request.method, request.params)

/-- What an event calls. -/
def WsEvent.rpc : WsEvent P H C → Option (String × Option P)
  | .sendParams method params | .sendParamsCb method params _ | .sendParamsConsumer method params _ =>
    some (method, some params)
  | .sendBare method | .sendBareCb method _ => some (method, none)
  | _ => none

/-- The callback an event leaves behind. -/
def WsEvent.awaits : WsEvent P H C → Option H
  | .sendParamsCb _ _ cb | .sendBareCb _ cb => some cb
  | _ => none

/-- The task the websocket thread turns to. -/
def Client.turnsTo (s : Client P H C) : Option (Task H C) := if s.inCall then none else s.tasks.head?

namespace Client

section Accounts

variable {s t : Client P H C} {n : Nat} {receiver : Receiver H C}

/-- A request of this number was sent, with this receiver. -/
def Registered (s : Client P H C) (n : Nat) (receiver : Receiver H C) : Prop :=
  ∃ request, s.sent[n]? = some request ∧ request.receiver = some receiver

/-- The reply is to a request of its receiver, whose id has the low half of the reply's. -/
def Answers (s : Client P H C) (reply : Reply H C) : Prop :=
  ∃ request, s.sent[reply.request]? = some request ∧ request.receiver = some reply.receiver ∧
    request.id.toUInt32 = UInt32.ofInt reply.id

/-- The receiver of the request is on its map, under the key. -/
def HeldAt (s : Client P H C) (key : UInt32) (n : Nat) : Receiver H C → Prop
  | .callback cb => s.callbacks key = some ⟨cb, n⟩
  | .consumer consumer => s.consumers key = some ⟨consumer, n⟩

/-- Receivers on a map or taken off it are those of requests, and a request's is taken once. -/
structure Accounted (s : Client P H C) : Prop where
  keyed : KeyedMaps s
  held : ∀ key n receiver, s.HeldAt key n receiver →
    s.Registered n receiver ∧ n ∉ s.taken.map Reply.request
  taken : ∀ reply ∈ s.taken, s.Answers reply
  once : (s.taken.map Reply.request).Nodup
  handed : (s.replies ++ s.queued).Sublist s.taken

theorem Registered.bound (registered : s.Registered n receiver) : n < s.sent.length := by
  obtain ⟨request, found, -⟩ := registered
  exact (List.getElem?_eq_some_iff.mp found).1

theorem Registered.unique {other : Receiver H C} (first : s.Registered n receiver)
    (second : s.Registered n other) : receiver = other := by
  obtain ⟨request, found, same⟩ := first
  obtain ⟨_, again, own⟩ := second
  obtain rfl := Option.some.inj (found.symm.trans again)
  exact Option.some.inj (same.symm.trans own)

theorem Registered.grown {request : Request P H C} (registered : s.Registered n receiver)
    (sent : t.sent = s.sent ++ [request]) : t.Registered n receiver := by
  have bound := registered.bound
  obtain ⟨own, found, same⟩ := registered
  refine ⟨own, ?_, same⟩
  rw [sent, List.getElem?_append_left bound]
  exact found

theorem Answers.registered {reply : Reply H C} (answers : s.Answers reply) :
    s.Registered reply.request reply.receiver := by
  obtain ⟨request, found, same, -⟩ := answers
  exact ⟨request, found, same⟩

theorem Answers.grown {request : Request P H C} {reply : Reply H C} (answers : s.Answers reply)
    (sent : t.sent = s.sent ++ [request]) : t.Answers reply := by
  have bound := answers.registered.bound
  obtain ⟨own, found, same⟩ := answers
  refine ⟨own, ?_, same⟩
  rw [sent, List.getElem?_append_left bound]
  exact found

theorem KeyedMaps.key {key : UInt32} (keyed : KeyedMaps s) (held : s.HeldAt key n receiver) :
    ∃ request, s.sent[n]? = some request ∧ request.id.toUInt32 = key := by
  cases receiver with
  | callback cb => exact keyed.callbacks key _ held
  | consumer consumer => exact keyed.consumers key _ held

theorem KeyedMaps.key_unique {key key' : UInt32} {other : Receiver H C} (keyed : KeyedMaps s)
    (first : s.HeldAt key n receiver) (second : s.HeldAt key' n other) : key = key' := by
  obtain ⟨request, found, rfl⟩ := keyed.key first
  obtain ⟨_, again, rfl⟩ := keyed.key second
  rw [Option.some.inj (found.symm.trans again)]

theorem mem_waiting {rid : UInt32} {id : Int} {reply : Reply H C}
    (member : reply ∈ waiting rid id s) :
    s.HeldAt rid reply.request reply.receiver ∧ reply.id = id := by
  rcases List.mem_append.mp member with consumer | callback
  · obtain ⟨entry, found, rfl⟩ := Option.map_eq_some_iff.mp (Option.mem_toList.mp consumer)
    exact ⟨found, rfl⟩
  · obtain ⟨entry, found, rfl⟩ := Option.map_eq_some_iff.mp (Option.mem_toList.mp callback)
    exact ⟨found, rfl⟩

theorem Accounted.empty : Accounted ({} : Client P H C) where
  keyed := ⟨fun _ _ found => (nomatch found), fun _ _ found => (nomatch found)⟩
  held key n receiver found := by cases receiver <;> cases found
  taken reply member := nomatch member
  once := List.nodup_nil
  handed := List.Sublist.refl _

theorem Accounted.keep (accounted : Accounted s)
    (same : (t.callbacks, t.consumers, t.sent, t.taken) =
      (s.callbacks, s.consumers, s.sent, s.taken))
    (fewer : (t.replies ++ t.queued).Sublist (s.replies ++ s.queued)) : Accounted t := by
  obtain ⟨callbacks, rest⟩ := Prod.mk.inj same
  obtain ⟨consumers, rest⟩ := Prod.mk.inj rest
  obtain ⟨sent, taken⟩ := Prod.mk.inj rest
  obtain ⟨⟨keyedCallbacks, keyedConsumers⟩, held, registered, once, handed⟩ := accounted
  have heldAt : ∀ key n receiver, t.HeldAt key n receiver → s.HeldAt key n receiver := by
    intro key n receiver found
    cases receiver with
    | callback cb => simpa only [HeldAt, callbacks] using found
    | consumer consumer => simpa only [HeldAt, consumers] using found
  have known : ∀ n receiver, s.Registered n receiver → t.Registered n receiver := by
    intro n receiver found
    simpa only [Registered, sent] using found
  have answers : ∀ reply, s.Answers reply → t.Answers reply := by
    intro reply found
    simpa only [Answers, sent] using found
  rw [← callbacks, ← sent] at keyedCallbacks
  rw [← consumers, ← sent] at keyedConsumers
  rw [← taken] at registered once handed
  refine ⟨⟨keyedCallbacks, keyedConsumers⟩, fun key n receiver found => ?_,
    fun reply member => answers reply (registered reply member), once, fewer.trans handed⟩
  obtain ⟨own, free⟩ := held key n receiver (heldAt key n receiver found)
  exact ⟨known n receiver own, taken ▸ free⟩

theorem Accounted.transmitted (accounted : Accounted s) (request : Request P H C)
    (keyed : KeyedMaps t) (sent : t.sent = s.sent ++ [request])
    (same : (t.taken, t.replies, t.tasks) = (s.taken, s.replies, s.tasks))
    (held : ∀ key n receiver, t.HeldAt key n receiver →
      s.HeldAt key n receiver ∨ n = s.sent.length ∧ request.receiver = some receiver) :
    Accounted t := by
  obtain ⟨taken, rest⟩ := Prod.mk.inj same
  obtain ⟨replies, tasks⟩ := Prod.mk.inj rest
  refine ⟨keyed, fun key n receiver found => ?_, fun reply member => ?_, ?_, ?_⟩
  · rw [taken]
    rcases held key n receiver found with earlier | ⟨rfl, own⟩
    · obtain ⟨registered, free⟩ := accounted.held key n receiver earlier
      exact ⟨registered.grown sent, free⟩
    · refine ⟨⟨request, ?_, own⟩, fun member => ?_⟩
      · rw [sent, List.getElem?_concat_length]
      · obtain ⟨reply, listed, number⟩ := List.mem_map.mp member
        have bound := (accounted.taken reply listed).registered.bound
        omega
  · rw [taken] at member
    exact (accounted.taken reply member).grown sent
  · rw [taken]
    exact accounted.once
  · rw [replies, taken, queued, tasks]
    exact accounted.handed

theorem Accounted.waiting_once (accounted : Accounted s) (rid : UInt32) (id : Int) :
    ((waiting rid id s).map Reply.request).Nodup := by
  cases consumer : s.consumers rid with
  | none =>
    cases callback : s.callbacks rid <;> simp [waiting, consumer, callback]
  | some first =>
    cases callback : s.callbacks rid with
    | none => simp [waiting, consumer, callback]
    | some second =>
      have apart : first.request ≠ second.request := by
        intro same
        have own := (accounted.held rid _ (.consumer first.target) consumer).1
        have other := (accounted.held rid _ (.callback second.target) callback).1
        rw [← same] at other
        cases own.unique other
      simpa [waiting, consumer, callback] using apart

theorem Accounted.take (accounted : Accounted s) (id : Int) (idle : s.tasks = []) :
    Accounted (takeReceivers id s) := by
  have left : ∀ key n receiver, (takeReceivers id s).HeldAt key n receiver →
      key ≠ UInt32.ofInt id ∧ s.HeldAt key n receiver := by
    intro key n receiver found
    by_cases same : key = UInt32.ofInt id
    · subst same
      cases receiver with
      | callback cb => simp [HeldAt, takeReceivers] at found
      | consumer consumer => simp [HeldAt, takeReceivers] at found
    · refine ⟨same, ?_⟩
      cases receiver with
      | callback cb => simpa [HeldAt, takeReceivers, same] using found
      | consumer consumer => simpa [HeldAt, takeReceivers, same] using found
  refine ⟨accounted.keyed.taken id, fun key n receiver found => ?_, fun reply member => ?_, ?_, ?_⟩
  · obtain ⟨apart, held⟩ := left key n receiver found
    obtain ⟨registered, free⟩ := accounted.held key n receiver held
    refine ⟨registered, fun member => ?_⟩
    obtain ⟨reply, listed, rfl⟩ := List.mem_map.mp member
    rcases List.mem_append.mp listed with earlier | now
    · exact free (List.mem_map_of_mem earlier)
    · exact apart (accounted.keyed.key_unique held (mem_waiting now).1)
  · rcases List.mem_append.mp member with earlier | now
    · exact accounted.taken reply earlier
    · obtain ⟨held, id⟩ := mem_waiting now
      obtain ⟨request, found, same⟩ := (accounted.held _ _ _ held).1
      obtain ⟨_, again, key⟩ := accounted.keyed.key held
      obtain rfl := Option.some.inj (found.symm.trans again)
      exact ⟨request, found, same, key.trans (congrArg UInt32.ofInt id.symm)⟩
  · show ((s.taken ++ waiting (UInt32.ofInt id) id s).map Reply.request).Nodup
    rw [List.map_append, List.nodup_append]
    refine ⟨accounted.once, accounted.waiting_once _ id, ?_⟩
    rintro n earlier _ now rfl
    obtain ⟨reply, listed, same⟩ := List.mem_map.mp now
    have free := (accounted.held _ _ _ (mem_waiting listed).1).2
    exact free (same ▸ earlier)
  · have handed := accounted.handed
    rw [queued, idle] at handed
    show (s.replies ++ repliesIn (s.tasks ++ (waiting _ id s).map Task.reply)).Sublist
      (s.taken ++ waiting _ id s)
    rw [idle, repliesIn_append, repliesIn_map_reply, ← List.append_assoc]
    exact handed.append_right _

theorem Accounted.received (accounted : Accounted s) (m : Message) (idle : s.tasks = []) :
    Accounted (Client.onmessage m s) := by
  have silent := repliesIn_methodTasks (H := H) (C := C) m.method
  have queueing : ∀ {s : Client P H C}, Accounted s →
      Accounted { s with tasks := s.tasks ++ m.method.elim [] methodTasks } := by
    intro s accounted
    refine accounted.keep rfl ?_
    show (s.replies ++ repliesIn (s.tasks ++ _)).Sublist _
    rw [repliesIn_append, silent, List.append_nil]
    exact List.Sublist.refl _
  unfold Client.onmessage
  cases m.id with
  | absent => exact queueing accounted
  | integer id => exact queueing (accounted.take id idle)
  | unreadable => exact accounted

theorem next_handed (s : Client P H C) :
    (next s).replies ++ (next s).queued = s.replies ++ s.queued := by
  cases tasks : s.tasks with
  | nil => simp [next, tasks]
  | cons task rest =>
    cases task <;> simp [next, tasks, queued, repliesIn]

/-- Every event keeps the accounts. -/
theorem Accounted.step [DecidableEq C] (accounted : Accounted s) (e : WsEvent P H C) :
    Accounted (Client.step s e) := by
  have keyed := accounted.keyed.step e
  have registers : ∀ {α : Type} (map : UInt32 → Option (Entry α)) (key other : UInt32)
      (target own : α) (n : Nat), Function.update map key (some ⟨target, s.sent.length⟩) other =
        some ⟨own, n⟩ → map other = some ⟨own, n⟩ ∨ n = s.sent.length ∧ target = own := by
    intro α map key other target own n found
    by_cases same : other = key
    · subst same
      rw [Function.update_self] at found
      cases found
      exact Or.inr ⟨rfl, rfl⟩
    · rw [Function.update_of_ne same] at found
      exact Or.inl found
  have dropped : (s.replies ++ []).Sublist (s.replies ++ s.queued) :=
    (List.nil_sublist _).append_left s.replies
  have unchanged : (s.replies ++ s.queued).Sublist (s.replies ++ s.queued) := List.Sublist.refl _
  cases e with
  | sendParams method params | sendBare method =>
    exact accounted.transmitted _ keyed rfl rfl fun key n receiver found => by
      cases receiver <;> exact Or.inl found
  | sendParamsCb method params cb | sendBareCb method cb =>
    refine accounted.transmitted _ keyed rfl rfl fun key n receiver found => ?_
    cases receiver with
    | callback own =>
      rcases registers s.callbacks _ key cb own n found with earlier | ⟨number, rfl⟩
      · exact Or.inl earlier
      · exact Or.inr ⟨number, rfl⟩
    | consumer consumer => exact Or.inl found
  | sendParamsConsumer method params consumer =>
    refine accounted.transmitted _ keyed rfl rfl fun key n receiver found => ?_
    cases receiver with
    | callback cb => exact Or.inl found
    | consumer own =>
      rcases registers s.consumers _ key consumer own n found with earlier | ⟨number, rfl⟩
      · exact Or.inl earlier
      · exact Or.inr ⟨number, rfl⟩
  | registerNotify consumer =>
    simp only [Client.step, registerNotifyUpdate]
    split
    · exact accounted
    · exact accounted.keep rfl unchanged
  | registerMethod method name cb =>
    simp only [Client.step, registerMethodCallback]
    split
    · exact accounted
    · exact accounted.keep rfl unchanged
  | message m =>
    simp only [Client.step]
    split
    · next idle =>
      simp only [Client.idle, Bool.and_eq_true, List.isEmpty_iff] at idle
      exact accounted.received m idle.1
    · exact accounted
  | garbled => exact accounted
  | opened | closed | raised =>
    simp only [Client.step]
    split
    · exact accounted.keep rfl dropped
    · exact accounted
  | next =>
    simp only [Client.step]
    split
    · exact accounted
    · refine accounted.keep ?_ ?_
      · cases tasks : s.tasks with
        | nil => simp [Client.next, tasks]
        | cons task rest => cases task <;> simp [Client.next, tasks]
      · rw [next_handed]
  | unregisterNotify consumer | returned => exact accounted.keep rfl unchanged

theorem Accounted.handed_once (accounted : Accounted s) {reply : Reply H C}
    (turns : s.turnsTo = some (.reply reply)) :
    reply ∈ s.taken ∧ s.Registered reply.request reply.receiver ∧
      reply.request ∉ s.replies.map Reply.request := by
  have head : s.tasks.head? = some (.reply reply) := by
    unfold turnsTo at turns
    split at turns
    · cases turns
    · exact turns
  obtain ⟨rest, tasks⟩ := List.head?_eq_some_iff.mp head
  have queue : s.queued = reply :: repliesIn rest := by
    rw [queued, tasks]
    rfl
  have handed := accounted.handed
  rw [queue] at handed
  have taken : reply ∈ s.taken := handed.subset (by simp)
  refine ⟨taken, (accounted.taken reply taken).registered, fun again => ?_⟩
  have numbers := (handed.map Reply.request).nodup accounted.once
  rw [List.map_append, List.nodup_append] at numbers
  exact numbers.2.2 _ again _ List.mem_cons_self rfl

/-- In every run, however many requests are sent and whatever ids the messages carry, a receiver
is invoked at most once for its request, and by a message whose id has the low half of the
request's. -/
theorem receivers_once [DecidableEq C] (events : List (WsEvent P H C)) :
    let s := run Client.step ({} : Client P H C) events
    (s.replies.map Reply.request).Nodup ∧ ∀ reply ∈ s.replies, s.Answers reply := by
  intro s
  have accounted : Accounted s :=
    run_invariant (fun _ e accounted => accounted.step e) .empty events
  have handed := (List.sublist_append_left s.replies s.queued).trans accounted.handed
  refine ⟨(handed.map Reply.request).nodup accounted.once, fun reply member => ?_⟩
  exact accounted.taken reply (handed.subset member)

end Accounts

section Unanswered

/-- The callbacks of requests, numbered from `k`, that have no answer among these. -/
def unansweredFrom (answered : List Nat) (k : Nat) (sent : List (Request P H C)) : List H :=
  (sent.zipIdx k).filterMap fun r => if r.2 ∈ answered then none else r.1.callback

/-- The callbacks of the requests whose reply was not handed out. -/
def unanswered (s : Client P H C) : List H :=
  unansweredFrom (s.replies.map Reply.request) 0 s.sent

theorem unansweredFrom_cons (answered : List Nat) (k : Nat) (request : Request P H C)
    (sent : List (Request P H C)) :
    unansweredFrom answered k (request :: sent) =
      (if k ∈ answered then none else request.callback).toList ++
        unansweredFrom answered (k + 1) sent := by
  unfold unansweredFrom
  rw [List.zipIdx_cons, List.filterMap_cons]
  split
  · next none => rw [none]; rfl
  · next cb some => rw [some]; rfl

theorem unansweredFrom_append (answered : List Nat) (k : Nat) (first second : List (Request P H C)) :
    unansweredFrom answered k (first ++ second) =
      unansweredFrom answered k first ++ unansweredFrom answered (k + first.length) second := by
  unfold unansweredFrom
  rw [List.zipIdx_append, List.filterMap_append]

theorem unansweredFrom_later (answered : List Nat) {n k : Nat} (earlier : n < k)
    (sent : List (Request P H C)) :
    unansweredFrom (answered ++ [n]) k sent = unansweredFrom answered k sent := by
  induction sent generalizing k with
  | nil => rfl
  | cons request rest ih =>
    have apart : k ≠ n := Nat.ne_of_gt earlier
    have same : k ∈ answered ++ [n] ↔ k ∈ answered := by simp [apart]
    rw [unansweredFrom_cons, unansweredFrom_cons, ih (Nat.lt_succ_of_lt earlier)]
    simp only [same]

theorem unansweredFrom_answer {answered : List Nat} {n : Nat} (fresh : n ∉ answered)
    {request : Request P H C} (k : Nat) (sent : List (Request P H C)) (reached : k ≤ n)
    (found : sent[n - k]? = some request) :
    (unansweredFrom answered k sent).Perm
      (request.callback.toList ++ unansweredFrom (answered ++ [n]) k sent) := by
  induction sent generalizing k with
  | nil => cases found
  | cons first rest ih =>
    rw [unansweredFrom_cons, unansweredFrom_cons]
    rcases Nat.eq_or_lt_of_le reached with rfl | later
    · rw [Nat.sub_self] at found
      obtain rfl := Option.some.inj found
      have own : k ∈ answered ++ [k] := by simp
      rw [if_neg fresh, if_pos own, unansweredFrom_later answered (Nat.lt_succ_self k)]
      exact List.Perm.refl _
    · have apart : k ≠ n := Nat.ne_of_lt later
      have same : k ∈ answered ++ [n] ↔ k ∈ answered := by simp [apart]
      have next : rest[n - (k + 1)]? = some request := by
        have index : n - k = n - (k + 1) + 1 := by omega
        rw [index, List.getElem?_cons_succ] at found
        exact found
      simp only [same]
      refine ((ih (k + 1) later next).append_left _).trans ?_
      rw [← List.append_assoc, ← List.append_assoc]
      exact List.perm_append_comm.append_right _

variable {s t : Client P H C}

theorem unanswered_eq (sent : t.sent = s.sent) (replies : t.replies = s.replies) :
    t.unanswered = s.unanswered := by
  rw [unanswered, unanswered, sent, replies]

theorem Accounted.unanswered_sent (accounted : Accounted s) {request : Request P H C}
    (sent : t.sent = s.sent ++ [request]) (replies : t.replies = s.replies) :
    t.unanswered = s.unanswered ++ request.callback.toList := by
  have free : s.sent.length ∉ s.replies.map Reply.request := by
    intro member
    obtain ⟨reply, listed, number⟩ := List.mem_map.mp member
    have taken := accounted.handed.subset (List.mem_append_left _ listed)
    have bound := (accounted.taken reply taken).registered.bound
    omega
  rw [unanswered, unanswered, sent, replies, unansweredFrom_append, Nat.zero_add,
    unansweredFrom_cons, if_neg free]
  exact congrArg _ (List.append_nil _)

/-- But for requests and turns of the thread nothing is asked for or answered. -/
theorem step_still [DecidableEq C] (s : Client P H C) (e : WsEvent P H C)
    (silent : e.isRequest = false) (other : e ≠ .next) :
    (Client.step s e).sent = s.sent ∧ (Client.step s e).replies = s.replies := by
  cases e with
  | next => exact absurd rfl other
  | registerNotify consumer =>
    simp only [Client.step, registerNotifyUpdate]
    split <;> exact ⟨rfl, rfl⟩
  | registerMethod method name cb =>
    simp only [Client.step, registerMethodCallback]
    split <;> exact ⟨rfl, rfl⟩
  | message m =>
    simp only [Client.step]
    split
    · unfold Client.onmessage
      cases m.id <;> exact ⟨rfl, rfl⟩
    · exact ⟨rfl, rfl⟩
  | opened | closed | raised =>
    simp only [Client.step]
    split <;> exact ⟨rfl, rfl⟩
  | garbled | unregisterNotify consumer | returned => exact ⟨rfl, rfl⟩
  | _ => cases silent

/-- A request is transmitted with its callback. -/
theorem step_transmits [DecidableEq C] (s : Client P H C) (e : WsEvent P H C)
    (request : e.isRequest = true) :
    ∃ sent : Request P H C, sent.callback = e.awaits ∧ some sent.rpc = e.rpc ∧
      (Client.step s e).sent = s.sent ++ [sent] ∧ (Client.step s e).replies = s.replies := by
  cases e with
  | sendParams method params => exact ⟨⟨s.id, method, some params, none⟩, rfl, rfl, rfl, rfl⟩
  | sendBare method => exact ⟨⟨s.id, method, none, none⟩, rfl, rfl, rfl, rfl⟩
  | sendParamsCb method params cb =>
    exact ⟨⟨s.id, method, some params, some (.callback cb)⟩, rfl, rfl, rfl, rfl⟩
  | sendBareCb method cb =>
    exact ⟨⟨s.id, method, none, some (.callback cb)⟩, rfl, rfl, rfl, rfl⟩
  | sendParamsConsumer method params consumer =>
    exact ⟨⟨s.id, method, some params, some (.consumer consumer)⟩, rfl, rfl, rfl, rfl⟩
  | _ => cases request

theorem Accounted.unanswered_step [DecidableEq C] (accounted : Accounted s) (e : WsEvent P H C)
    (other : e ≠ .next) :
    (Client.step s e).unanswered = s.unanswered ++ e.awaits.toList := by
  cases request : e.isRequest with
  | true =>
    obtain ⟨own, callback, -, sent, replies⟩ := step_transmits s e request
    rw [accounted.unanswered_sent sent replies, callback]
  | false =>
    obtain ⟨sent, replies⟩ := step_still s e request other
    have silent : e.awaits = none := by
      cases e with
      | sendParamsCb | sendBareCb => cases request
      | _ => rfl
    rw [silent, unanswered_eq sent replies]
    exact (List.append_nil _).symm

theorem Accounted.unanswered_reply [DecidableEq C] (accounted : Accounted s) {reply : Reply H C}
    (turns : s.turnsTo = some (.reply reply)) :
    ∃ request : Request P H C, request.receiver = some reply.receiver ∧
      s.unanswered.Perm (request.callback.toList ++ (Client.step s .next).unanswered) := by
  obtain ⟨-, ⟨request, found, same⟩, fresh⟩ := accounted.handed_once turns
  refine ⟨request, same, ?_⟩
  have replied : (Client.step s .next).sent = s.sent ∧
      (Client.step s .next).replies = s.replies ++ [reply] := by
    unfold turnsTo at turns
    split at turns
    · cases turns
    · next ready =>
      obtain ⟨rest, tasks⟩ := List.head?_eq_some_iff.mp turns
      simp [Client.step, ready, next, tasks]
  rw [unanswered, unanswered, replied.1, replied.2, List.map_append]
  exact unansweredFrom_answer fresh 0 s.sent (Nat.zero_le _) (by simpa using found)

theorem unanswered_turn [DecidableEq C] (s : Client P H C)
    (silent : ∀ reply, s.turnsTo ≠ some (.reply reply)) :
    (Client.step s .next).unanswered = s.unanswered := by
  unfold turnsTo at silent
  by_cases busy : s.inCall = true
  · simp only [Client.step, if_pos busy]
  · simp only [if_neg busy] at silent
    apply unanswered_eq
    · simp only [Client.step, if_neg busy, next]
      split <;> rfl
    · simp only [Client.step, if_neg busy]
      cases tasks : s.tasks with
      | nil => simp [next, tasks]
      | cons task rest =>
        cases task with
        | reply reply => exact absurd (congrArg List.head? tasks) (silent reply)
        | _ => simp [next, tasks]

/-- What is called is what the events call. -/
theorem step_rpcs [DecidableEq C] (s : Client P H C) (e : WsEvent P H C) :
    (Client.step s e).sent.map Request.rpc = s.sent.map Request.rpc ++ e.rpc.toList := by
  cases request : e.isRequest with
  | true =>
    obtain ⟨own, -, rpc, sent, -⟩ := step_transmits s e request
    rw [sent, List.map_append, ← rpc]
    rfl
  | false =>
    have silent : e.rpc.toList = [] := by
      cases e with
      | sendParams | sendBare | sendParamsCb | sendBareCb | sendParamsConsumer => cases request
      | _ => rfl
    have same : (Client.step s e).sent = s.sent := by
      by_cases turn : e = .next
      · rw [turn]
        simp only [Client.step]
        split
        · rfl
        · unfold next
          split <;> rfl
      · exact (step_still s e request turn).1
    rw [silent, same, List.append_nil]

/-- Messages alone take receivers off the maps. -/
theorem step_taken [DecidableEq C] (s : Client P H C) (e : WsEvent P H C)
    (other : ∀ m, e ≠ .message m) : (Client.step s e).taken = s.taken := by
  cases e with
  | message m => exact absurd rfl (other m)
  | registerNotify consumer =>
    simp only [Client.step, registerNotifyUpdate]
    split <;> rfl
  | registerMethod method name cb =>
    simp only [Client.step, registerMethodCallback]
    split <;> rfl
  | opened | closed | raised =>
    simp only [Client.step]
    split <;> rfl
  | next =>
    simp only [Client.step]
    split
    · rfl
    · unfold next
      split <;> rfl
  | _ => rfl

/-- Requests that go out one after another. -/
theorem Accounted.run_sends [DecidableEq C] (accounted : Accounted s) (events : List (WsEvent P H C))
    (sends : ∀ e ∈ events, e.isRequest = true) :
    Accounted (run Client.step s events) ∧
      (run Client.step s events).unanswered = s.unanswered ++ events.filterMap WsEvent.awaits ∧
      (run Client.step s events).sent.map Request.rpc =
        s.sent.map Request.rpc ++ events.filterMap WsEvent.rpc ∧
      (run Client.step s events).taken = s.taken := by
  induction events generalizing s with
  | nil => exact ⟨accounted, (List.append_nil _).symm, (List.append_nil _).symm, rfl⟩
  | cons e rest ih =>
    have request := sends e List.mem_cons_self
    have other : e ≠ .next := by
      rintro rfl
      cases request
    have quiet : ∀ m, e ≠ .message m := by
      rintro m rfl
      cases request
    obtain ⟨last, unanswered, rpcs, taken⟩ :=
      ih (accounted.step e) fun later member => sends later (List.mem_cons_of_mem e member)
    have headed : ∀ {β : Type _} (f : WsEvent P H C → Option β),
        (e :: rest).filterMap f = (f e).toList ++ rest.filterMap f := by
      intro β f
      rw [List.filterMap_cons]
      cases f e <;> rfl
    refine ⟨last, ?_, ?_, taken.trans (step_taken s e quiet)⟩
    · rw [headed, ← List.append_assoc, ← accounted.unanswered_step e other]
      exact unanswered
    · rw [headed, ← List.append_assoc, ← step_rpcs s e]
      exact rpcs

end Unanswered

end Client

end GrumpyScreen
