import GrumpyScreen.Client

/-! Notifications: who is called for a message, against a registry of consumers
and handlers kept beside the client. -/

namespace GrumpyScreen

open Lib

/-- A call made for a notification. -/
inductive Call (H C : Type) where
  | consumer (consumer : C)
  | handler (cb : H)
deriving DecidableEq, Repr

/-- The lists a message is handed out to. -/
inductive Source where
  | consumers
  | handlers (method : String)
deriving DecidableEq, Repr

/-- The receivers a list had when the message was handed out to it. -/
structure Copy (H C : Type) where
  source : Source
  receivers : List (Call H C)
deriving DecidableEq, Repr

/-- What a registry would do: who is registered, the methods that arrived, the
lists that were handed a message and the calls that were made. -/
structure Registry (H C : Type) where
  consumers : List C := []
  handlers : String → List (String × H) := fun _ => []
  arrived : List String := []
  copies : List (Copy H C) := []
  called : List (Call H C) := []

section Tasks

variable {H C : Type}

def Task.call : Task H C → Option (Call H C)
  | .notify consumer => some (.consumer consumer)
  | .handler cb => some (.handler cb)
  | _ => none

def Task.source : Task H C → Option Source
  | .notifyAll => some .consumers
  | .handlers method => some (.handlers method)
  | _ => none

/-- The calls still to be made from the lists copied so far. -/
def callsIn (tasks : List (Task H C)) : List (Call H C) := tasks.filterMap Task.call

/-- The lists still to be copied. -/
def sourcesIn (tasks : List (Task H C)) : List Source := tasks.filterMap Task.source

/-- The lists a method is handed out to. -/
def sourcesOf (method : String) : List Source :=
  (if method = "notify_status_update" then [.consumers] else []) ++ [.handlers method]

theorem callsIn_append (first second : List (Task H C)) :
    callsIn (first ++ second) = callsIn first ++ callsIn second := List.filterMap_append

theorem sourcesIn_append (first second : List (Task H C)) :
    sourcesIn (first ++ second) = sourcesIn first ++ sourcesIn second := List.filterMap_append

theorem methodTasks_plain (method : String) :
    callsIn (Client.methodTasks method : List (Task H C)) = [] ∧
      sourcesIn (Client.methodTasks method : List (Task H C)) = sourcesOf method := by
  unfold Client.methodTasks sourcesOf
  by_cases update : method = "notify_status_update"
  · simp [update, callsIn, sourcesIn, Task.call, Task.source]
  · split
    · contradiction
    · split
      · exact ⟨rfl, rfl⟩
      · split
        · exact ⟨rfl, rfl⟩
        · split <;> exact ⟨rfl, rfl⟩

theorem replies_plain (replies : List (Reply H C)) :
    callsIn (replies.map Task.reply) = [] ∧ sourcesIn (replies.map Task.reply) = [] := by
  simp [callsIn, sourcesIn, Task.call, Task.source]

/-- The calls of one list come before the copy of the next. -/
def Shaped (tasks : List (Task H C)) : Prop :=
  ∃ front back, tasks = front ++ back ∧ sourcesIn front = [] ∧ callsIn back = []

theorem Shaped.of_plain {tasks : List (Task H C)} (plain : callsIn tasks = []) : Shaped tasks :=
  ⟨[], tasks, rfl, rfl, plain⟩

theorem Shaped.tail {task : Task H C} {rest : List (Task H C)} (shaped : Shaped (task :: rest)) :
    Shaped rest := by
  obtain ⟨front, back, split, sources, calls⟩ := shaped
  cases front with
  | nil =>
    refine Shaped.of_plain ?_
    have whole : back = task :: rest := split.symm
    rw [whole] at calls
    exact (List.filterMap_eq_nil_iff.mpr fun other member =>
      List.filterMap_eq_nil_iff.mp calls other (List.mem_cons_of_mem task member))
  | cons first others =>
    obtain ⟨rfl, rfl⟩ := List.cons.inj split
    refine ⟨others, back, rfl, ?_, calls⟩
    exact (List.filterMap_eq_nil_iff.mpr fun other member =>
      List.filterMap_eq_nil_iff.mp sources other (List.mem_cons_of_mem task member))

theorem Shaped.source {task : Task H C} {rest : List (Task H C)} {source : Source}
    (shaped : Shaped (task :: rest)) (copies : task.source = some source) :
    callsIn rest = [] := by
  obtain ⟨front, back, split, sources, calls⟩ := shaped
  cases front with
  | nil =>
    have whole : back = task :: rest := split.symm
    rw [whole] at calls
    exact (List.filterMap_eq_nil_iff.mpr fun other member =>
      List.filterMap_eq_nil_iff.mp calls other (List.mem_cons_of_mem task member))
  | cons first others =>
    obtain ⟨rfl, rfl⟩ := List.cons.inj split
    have none := List.filterMap_eq_nil_iff.mp sources task (List.mem_cons_self ..)
    cases none.symm.trans copies

end Tasks

namespace Client

variable {P H C : Type}

/-- The registry's own bookkeeping: who registers is in, whatever the name was. -/
def watchCalls [DecidableEq C] (r : Registry H C) (s : Client P H C) : WsEvent P H C → Registry H C
  | .registerNotify consumer =>
    if consumer ∈ r.consumers then r else { r with consumers := r.consumers ++ [consumer] }
  | .unregisterNotify consumer => { r with consumers := r.consumers.filter (· ≠ consumer) }
  | .registerMethod method name cb =>
    { r with
      handlers := Function.update r.handlers method
        ((r.handlers method).orderedInsert (fun a b => a.1 ≤ b.1) (name, cb)) }
  | .message m => if s.idle then { r with arrived := r.arrived ++ m.method.toList } else r
  | .next =>
    if s.inCall then r
    else
      match s.tasks with
      | .notifyAll :: _ =>
        { r with copies := r.copies ++ [⟨.consumers, r.consumers.map .consumer⟩] }
      | .handlers method :: _ =>
        { r with
          copies := r.copies ++ [⟨.handlers method, (r.handlers method).map (.handler ·.2)⟩] }
      | .notify consumer :: _ => { r with called := r.called ++ [.consumer consumer] }
      | .handler cb :: _ => { r with called := r.called ++ [.handler cb] }
      | _ => r
  | _ => r

/-- Nothing throws while the message still has receivers, no method comes with an
id that does not read as a number, and no handler takes a name already in use. -/
def Unthrown (s : Client P H C) : WsEvent P H C → Prop
  | .raised => s.inCall = true → callsIn s.tasks = [] ∧ sourcesIn s.tasks = []
  | .message m => s.idle = true → m.id = .unreadable → m.method = none
  | .registerMethod method name _ => name ∉ (s.methodRespCbs method).map Prod.fst
  | _ => True

/-- The client against the registry: the calls made and those still to be made
are the copies, one after the other, and the copies made and still to be made
are what arrived. -/
structure Delivers (r : Registry H C) (s : Client P H C) : Prop where
  consumers : s.notifyConsumers = r.consumers
  handlers : s.methodRespCbs = r.handlers
  distinct : r.consumers.Nodup
  calls : r.called ++ callsIn s.tasks = r.copies.flatMap Copy.receivers
  copies : r.copies.map Copy.source ++ sourcesIn s.tasks = r.arrived.flatMap sourcesOf
  shaped : Shaped s.tasks
  once : ∀ copy ∈ r.copies, copy.source = .consumers → copy.receivers.Nodup

variable {r : Registry H C} {s : Client P H C}

theorem Delivers.keep {t : Client P H C} (delivers : Delivers r s)
    (same : (t.notifyConsumers, t.methodRespCbs, t.tasks) =
      (s.notifyConsumers, s.methodRespCbs, s.tasks)) : Delivers r t := by
  obtain ⟨consumers, rest⟩ := Prod.mk.inj same
  obtain ⟨handlers, tasks⟩ := Prod.mk.inj rest
  obtain ⟨onConsumers, onHandlers, distinct, calls, copies, shaped, once⟩ := delivers
  rw [← consumers] at onConsumers
  rw [← handlers] at onHandlers
  rw [← tasks] at calls copies shaped
  exact ⟨onConsumers, onHandlers, distinct, calls, copies, shaped, once⟩

theorem Delivers.empty : Delivers ({} : Registry H C) ({} : Client P H C) where
  consumers := rfl
  handlers := rfl
  distinct := List.nodup_nil
  calls := rfl
  copies := rfl
  shaped := Shaped.of_plain rfl
  once _ member := nomatch member

theorem Delivers.copied (delivers : Delivers r s) {task : Task H C} {rest : List (Task H C)}
    (tasks : s.tasks = task :: rest) {source : Source} (copies : task.source = some source)
    {now : List (Task H C)} {receivers : List (Call H C)} (plain : sourcesIn now = [])
    (called : callsIn now = receivers) (distinct : source = .consumers → receivers.Nodup) :
    Delivers { r with copies := r.copies ++ [⟨source, receivers⟩] } { s with tasks := now ++ rest } where
  consumers := delivers.consumers
  handlers := delivers.handlers
  distinct := delivers.distinct
  calls := by
    have shaped : Shaped (task :: rest) := tasks ▸ delivers.shaped
    have last := shaped.source copies
    have before := delivers.calls
    have noCall : task.call = none := by
      cases task <;> first | rfl | cases copies
    have here : callsIn s.tasks = [] := by
      rw [tasks, ← last]
      simp [callsIn, noCall]
    rw [here, List.append_nil] at before
    rw [callsIn_append, last, List.append_nil, called, before, List.flatMap_append]
    simp
  copies := by
    have before := delivers.copies
    have here : sourcesIn s.tasks = source :: sourcesIn rest := by
      rw [tasks]
      simp [sourcesIn, copies]
    rw [here] at before
    rw [sourcesIn_append, plain, ← before]
    simp
  shaped := by
    have shaped : Shaped (task :: rest) := tasks ▸ delivers.shaped
    exact ⟨now, rest, rfl, plain, shaped.source copies⟩
  once copy member isConsumers := by
    rcases List.mem_append.mp member with old | new
    · exact delivers.once copy old isConsumers
    · cases List.mem_singleton.mp new
      exact distinct isConsumers

theorem Delivers.called (delivers : Delivers r s) {task : Task H C} {rest : List (Task H C)}
    (tasks : s.tasks = task :: rest) (noSource : task.source = none) {called : List (Call H C)}
    (made : called = r.called ++ task.call.toList) :
    Delivers { r with called := called } { s with tasks := rest } where
  consumers := delivers.consumers
  handlers := delivers.handlers
  distinct := delivers.distinct
  calls := by
    have before := delivers.calls
    rw [tasks] at before
    rw [← before, made, List.append_assoc]
    cases call : task.call <;> simp [callsIn, call]
  copies := by
    have before := delivers.copies
    rw [tasks] at before
    rw [← before]
    simp [sourcesIn, noSource]
  shaped := (tasks ▸ delivers.shaped : Shaped (task :: rest)).tail
  once := delivers.once

theorem Delivers.scheduled (delivers : Delivers r s) (waiting : s.tasks = [])
    {tasks : List (Task H C)} (plain : callsIn tasks = []) {arrived : List String}
    (copies : sourcesIn tasks = arrived.flatMap sourcesOf) :
    Delivers { r with arrived := r.arrived ++ arrived } { s with tasks := tasks } where
  consumers := delivers.consumers
  handlers := delivers.handlers
  distinct := delivers.distinct
  calls := by
    have before := delivers.calls
    rw [waiting] at before
    rw [plain, ← before]
    rfl
  copies := by
    have before := delivers.copies
    rw [waiting] at before
    rw [copies, List.flatMap_append, ← before]
    simp [sourcesIn]
  shaped := Shaped.of_plain plain
  once := delivers.once

theorem idle_tasks (idle : s.idle = true) : s.tasks = [] := by
  simp only [Client.idle, Bool.and_eq_true, List.isEmpty_iff] at idle
  exact idle.1

variable [DecidableEq C]

theorem Delivers.next (delivers : Delivers r s) (ready : s.inCall = false) :
    Delivers (watchCalls r s .next) (Client.next s) := by
  have entered : watchCalls r s .next = match s.tasks with
      | .notifyAll :: _ =>
        { r with copies := r.copies ++ [⟨.consumers, r.consumers.map .consumer⟩] }
      | .handlers method :: _ =>
        { r with
          copies := r.copies ++ [⟨.handlers method, (r.handlers method).map (.handler ·.2)⟩] }
      | .notify consumer :: _ => { r with called := r.called ++ [.consumer consumer] }
      | .handler cb :: _ => { r with called := r.called ++ [.handler cb] }
      | _ => r := by simp [watchCalls, ready]
  rw [entered, Client.next]
  cases tasks : s.tasks with
  | nil => exact delivers
  | cons task rest =>
    cases task with
    | notifyAll =>
      refine delivers.copied tasks rfl ?_ ?_ fun _ => ?_
      · simp [sourcesIn, Task.source]
      · rw [delivers.consumers]
        simp [callsIn, Task.call, List.filterMap_map, Function.comp_def]
      · exact delivers.distinct.map fun _ _ same => Call.consumer.inj same
    | handlers method =>
      refine delivers.copied tasks rfl ?_ ?_ fun no => nomatch no
      · simp [sourcesIn, Task.source]
      · rw [delivers.handlers]
        simp [callsIn, Task.call, List.filterMap_map, Function.comp_def]
    | notify consumer => exact (delivers.called tasks rfl rfl).keep rfl
    | handler cb => exact (delivers.called tasks rfl rfl).keep rfl
    | reply reply => exact (delivers.called tasks rfl (List.append_nil _).symm).keep rfl
    | connected => exact (delivers.called tasks rfl (List.append_nil _).symm).keep rfl
    | disconnected => exact (delivers.called tasks rfl (List.append_nil _).symm).keep rfl

theorem Delivers.message (delivers : Delivers r s) (m : Message)
    (unthrown : Unthrown s (.message m)) :
    Delivers (watchCalls r s (.message m)) (Client.step s (.message m)) := by
  simp only [watchCalls, Client.step]
  by_cases idle : s.idle = true
  · rw [if_pos idle, if_pos idle]
    have waiting := idle_tasks idle
    have owed : ∀ front : List (Task H C), callsIn front = [] → sourcesIn front = [] →
        callsIn (front ++ m.method.elim [] methodTasks) = [] ∧
          sourcesIn (front ++ m.method.elim [] methodTasks) =
            m.method.toList.flatMap sourcesOf := by
      intro front calls sources
      rw [callsIn_append, sourcesIn_append, calls, sources]
      cases m.method with
      | none => exact ⟨rfl, rfl⟩
      | some method =>
        obtain ⟨calls, sources⟩ := methodTasks_plain (H := H) (C := C) method
        exact ⟨calls, sources.trans (List.append_nil _).symm⟩
    unfold Client.onmessage
    cases id : m.id with
    | absent =>
      obtain ⟨calls, sources⟩ := owed s.tasks (by rw [waiting]; rfl) (by rw [waiting]; rfl)
      exact (delivers.scheduled waiting calls sources).keep rfl
    | integer n =>
      obtain ⟨plainCalls, plainSources⟩ := replies_plain (Client.waiting (UInt32.ofInt n) n s)
      obtain ⟨calls, sources⟩ := owed
        (s.tasks ++ (Client.waiting (UInt32.ofInt n) n s).map Task.reply)
        (by rw [waiting]; exact plainCalls) (by rw [waiting]; exact plainSources)
      exact (delivers.scheduled waiting calls sources).keep rfl
    | unreadable =>
      have none : m.method = none := unthrown idle id
      have same : Delivers { r with arrived := r.arrived ++ [] } { s with tasks := [] } :=
        delivers.scheduled waiting rfl rfl
      rw [none]
      exact same.keep (by rw [waiting])
  · rw [if_neg idle, if_neg idle]
    exact delivers

theorem Delivers.step (delivers : Delivers r s) {e : WsEvent P H C} (unthrown : Unthrown s e) :
    Delivers (watchCalls r s e) (Client.step s e) := by
  have linked : ∀ task : Task H C, task.call = none → task.source = none → s.tasks = [] →
      Delivers r { s with tasks := [task] } := by
    intro task noCall noSource waiting
    have same : Delivers { r with arrived := r.arrived ++ [] } { s with tasks := [task] } :=
      delivers.scheduled waiting (by simp [callsIn, noCall]) (by simp [sourcesIn, noSource])
    rwa [List.append_nil] at same
  cases e with
  | registerNotify consumer =>
    simp only [watchCalls, Client.step, registerNotifyUpdate]
    rw [delivers.consumers]
    split
    · exact delivers
    · next fresh =>
      obtain ⟨_, handlers, distinct, calls, copies, shaped, once⟩ := delivers
      have longer : (r.consumers ++ [consumer]).Nodup := by
        rw [List.nodup_append]
        refine ⟨distinct, List.nodup_singleton _, fun a member b single same => fresh ?_⟩
        rw [← List.mem_singleton.mp single, ← same]
        exact member
      exact ⟨rfl, handlers, longer, calls, copies, shaped, once⟩
  | unregisterNotify consumer =>
    obtain ⟨consumers, handlers, distinct, calls, copies, shaped, once⟩ := delivers
    exact ⟨by simp [watchCalls, Client.step, unregisterNotifyUpdate, consumers], handlers,
      distinct.filter _, calls, copies, shaped, once⟩
  | registerMethod method name cb =>
    have fresh : name ∉ (s.methodRespCbs method).map Prod.fst := unthrown
    simp only [watchCalls, Client.step, registerMethodCallback, if_neg fresh]
    obtain ⟨consumers, handlers, distinct, calls, copies, shaped, once⟩ := delivers
    exact ⟨consumers, by rw [handlers], distinct, calls, copies, shaped, once⟩
  | message m => exact delivers.message m unthrown
  | opened =>
    simp only [watchCalls, Client.step]
    split
    · next idle => exact linked .connected rfl rfl (idle_tasks idle)
    · exact delivers
  | closed =>
    simp only [watchCalls, Client.step]
    split
    · next idle => exact linked .disconnected rfl rfl (idle_tasks idle)
    · exact delivers
  | next =>
    cases ready : s.inCall with
    | true => simpa [watchCalls, Client.step, ready] using delivers
    | false => simpa [Client.step, ready] using delivers.next ready
  | raised =>
    simp only [watchCalls, Client.step]
    split
    · next inCall =>
      obtain ⟨noCalls, noSources⟩ := unthrown inCall
      obtain ⟨consumers, handlers, distinct, calls, copies, shaped, once⟩ := delivers
      rw [noCalls] at calls
      rw [noSources] at copies
      exact ⟨consumers, handlers, distinct, calls, copies, Shaped.of_plain rfl, once⟩
    · exact delivers
  | _ => exact delivers.keep rfl

/-- The calls made follow the lists that were handed a message, each as it was
then and no consumer twice; once the thread is idle none is missing, and every
method that arrived was handed out to its lists. -/
def CalledOnce (r : Registry H C) (s : Client P H C) : Prop :=
  (∀ copy ∈ r.copies, copy.source = .consumers → copy.receivers.Nodup) ∧
    r.called <+: r.copies.flatMap Copy.receivers ∧
    (s.idle = true →
      r.called = r.copies.flatMap Copy.receivers ∧
        r.copies.map Copy.source = r.arrived.flatMap sourcesOf)

/-- In a run in which nothing throws while the message has receivers left, every
receiver is called once. -/
theorem receivers_called_once (events : List (WsEvent P H C))
    (unthrown : Along step Unthrown ({} : Client P H C) events) :
    let reached := run (observed watchCalls step) (({} : Registry H C), ({} : Client P H C)) events
    CalledOnce reached.1 reached.2 := by
  intro reached
  have delivers : Delivers reached.1 (run step ({} : Client P H C) events) :=
    unthrown.invariant_observed (fun _ _ _ delivers unthrown => delivers.step unthrown)
      Delivers.empty
  have same : reached.2 = run step ({} : Client P H C) events := run_observed_snd _ events
  rw [← same] at delivers
  refine ⟨delivers.once, ⟨_, delivers.calls⟩, fun idle => ?_⟩
  have done := idle_tasks idle
  have calls := delivers.calls
  have copies := delivers.copies
  rw [done] at calls copies
  exact ⟨(List.append_nil _).symm.trans calls, (List.append_nil _).symm.trans copies⟩

end Client

section Witness

/-- The registry and the client after the events. -/
private def observedRun (events : List (WsEvent String Nat Nat)) :
    Registry Nat Nat × Client String Nat Nat :=
  run (observed Client.watchCalls Client.step) ({}, {}) events

/-- Two consumers and a handler, and a notification nobody throws on. -/
private def notified : List (WsEvent String Nat Nat) :=
  [.registerNotify 1, .registerNotify 2, .registerMethod "notify_status_update" "a" 9,
    .message ⟨.absent, some "notify_status_update"⟩, .next, .next, .unregisterNotify 2, .returned,
    .next, .returned, .next, .next, .raised]

theorem receivers_called_once_notified :
    Along Client.step Client.Unthrown ({} : Client String Nat Nat) notified ∧
      Client.CalledOnce (observedRun notified).1 (observedRun notified).2 := by
  have along : Along Client.step Client.Unthrown ({} : Client String Nat Nat) notified :=
    ⟨trivial, trivial, nofun, nofun, trivial, trivial, trivial, trivial, trivial, trivial,
      trivial, trivial, fun _ => ⟨rfl, rfl⟩, trivial⟩
  exact ⟨along, Client.receivers_called_once notified along⟩

private def thrown : List (WsEvent String Nat Nat) :=
  [.registerNotify 1, .registerNotify 2, .registerMethod "notify_status_update" "a" 9,
    .message ⟨.absent, some "notify_status_update"⟩, .next, .next, .raised]

private def renamed : List (WsEvent String Nat Nat) :=
  [.registerMethod "notify_gcode_response" "a" 8, .registerMethod "notify_gcode_response" "a" 9,
    .message ⟨.absent, some "notify_gcode_response"⟩, .next, .next, .returned, .next]

/-- The first consumer throws: the second is not called, nor is the handler; and
a handler under a name in use is never called. -/
theorem throw_skips_receivers :
    ((observedRun thrown).2.idle = true ∧ (observedRun thrown).1.called = [.consumer 1] ∧
        (observedRun thrown).1.copies = [⟨.consumers, [.consumer 1, .consumer 2]⟩] ∧
        (observedRun thrown).1.arrived = ["notify_status_update"]) ∧
      (observedRun renamed).2.idle = true ∧ .handler 9 ∉ (observedRun renamed).1.called ∧
        .handler 9 ∈ (observedRun renamed).1.copies.flatMap Copy.receivers := by
  decide

end Witness

end GrumpyScreen
