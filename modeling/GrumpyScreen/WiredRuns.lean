import GrumpyScreen.Wired

/-! Runs of the panel on the wire. What the panel waits for is what its requests still wait for
on the client, so that every callback that is handed out is one it waits for: a run on the wire
is a run of the panel. -/

namespace GrumpyScreen

open Lib Exec

section Accounts

variable {L : Type → Type} [Layer L] [LawfulLayer L] {J : Type} [JsonLib J] (p : Panel L)

/-- What the panel waits for over the wire, and what it sent. -/
def Panel.account (p : Panel L) : Outstanding × List Command :=
  ({ p.waits with updateRuns := 0 }, p.sent)

/-- What is waited for after a request with this callback. -/
def ReplyCb.asked (waits : Outstanding) : ReplyCb → Outstanding
  | .hideBusy action => { waits with actions := waits.actions ++ [action] }
  | .printStart => { waits with printStarts := waits.printStarts + 1 }
  | .filesList => { waits with filesLists := waits.filesLists + 1 }
  | .fileMeta captured => { waits with fileMetas := waits.fileMetas ++ [captured] }
  | .elsewhere _ => waits

/-- What a call does to the account. -/
def Effect.book (account : Outstanding × List Command) (effect : Effect) :
    Outstanding × List Command :=
  let waits := account.1
  let booked :=
    match effect with
    | .act _ _ =>
      { (ReplyCb.hideBusy waits.nextAction).asked waits with nextAction := waits.nextAction + 1 }
    | .populateFiles => ReplyCb.filesList.asked waits
    | .printStart _ => ReplyCb.printStart.asked waits
    | _ => waits
  (booked, account.2 ++ effect.commands)

theorem perform_account (effect : Effect) :
    (perform p effect).account = effect.book p.account := by
  cases effect with
  | checkUpdate =>
    obtain ⟨_, _, _, -, left⟩ := perform_checkUpdate p
    rw [left]
    exact Prod.ext rfl (List.append_nil _).symm
  | act | send | populateFiles | spawnUpdate | printStart => rfl
  | _ => exact Prod.ext rfl (List.append_nil _).symm

theorem performAll_account (effects : List Effect) :
    (performAll p effects).account = effects.foldl Effect.book p.account := by
  induction effects generalizing p with
  | nil => rfl
  | cons effect rest ih =>
    rw [List.foldl_cons, ← perform_account p effect]
    exact ih (perform p effect)

theorem own_account (event : Event J) (other : event.fromWire = false) :
    (step p event).account = (event.effects p).foldl Effect.book p.account := by
  cases event with
  | homeTap | subTap | fileRow | estopTap | callogStop => exact performAll_account p _
  | slider control value =>
    cases control with
    | fan i => exact performAll_account _ _
    | tuneSpeed | loadLength => exact performAll_account p _
  | confirmTap target =>
    cases target with
    | confirm =>
      have run := performAll_account { p with ov := hideConfirm p.ov }
        (p.ov.pending.elim [] (runAction p))
      have effects : (Event.confirmTap .confirm : Event J).effects p =
          p.ov.pending.elim [] (runAction p) := by
        simp only [Event.effects]
        cases p.ov.pending <;> rfl
      rw [effects, step, confirmTap_confirm]
      exact run
    | cancel | scrim => rfl
  | key key =>
    cases key with
    | ok =>
      simp only [step, keypadInput, Event.effects]
      cases stod p.ov.keypad.text with
      | none => rfl
      | some value =>
        cases p.ov.keypad.readyCb with
        | none => rfl
        | some use => exact performAll_account p _
    | char | backspace | cancel => rfl
  | staleTick between => exact checkStale_view Panel.account (fun _ _ _ _ _ => rfl) between p
  | loopPass inactive => exact loopPass_view Panel.account (fun _ _ _ => rfl) inactive p
  | tick t =>
    cases t with
    | elapse ms => rfl
    | stamp => cases other
  | updateChecked avail latest status =>
    simp only [step]
    split <;> rfl
  | updateFinished rc refused =>
    simp only [step, updateFinished]
    generalize (if rc = 0 then "" else refused) = named
    split
    · rfl
    · split <;> rfl
  | delta | actionDone | printStartReply | filesReply | metadataReply => cases other
  | _ => rfl

/-- The callback of a request that is one. -/
def awaited (request : Command × Option ReplyCb) : Option ReplyCb :=
  request.1.method.bind fun _ => request.2

def Command.rpc (command : Command) : Option (String × Option RpcParams) :=
  command.method.map fun method => (method, command.params)

theorem requestsOf_commands (next : Nat) (effects : List Effect) :
    (requestsOf next effects).map Prod.fst = commandsOf effects := by
  induction effects generalizing next with
  | nil => rfl
  | cons effect rest ih =>
    rw [requestsOf, List.map_append, ih]
    cases effect <;> rfl

theorem book_sent (effects : List Effect) (account : Outstanding × List Command) :
    (effects.foldl Effect.book account).2 = account.2 ++ commandsOf effects := by
  induction effects generalizing account with
  | nil => exact (List.append_nil _).symm
  | cons effect rest ih =>
    rw [List.foldl_cons, ih]
    exact List.append_assoc ..

end Accounts

section Balance

/-- What is waited for with a callback of the panel. -/
def Outstanding.pending (waits : Outstanding) : ReplyCb → Nat
  | .hideBusy action => waits.actions.count action
  | .printStart => waits.printStarts
  | .filesList => waits.filesLists
  | .fileMeta captured => waits.fileMetas.count captured
  | .elsewhere _ => 0

/-- The panel waits for as many replies to each of its callbacks as are owed to it. -/
def Balanced (waits : Outstanding) (owed : List ReplyCb) : Prop :=
  ∀ cb, cb.isElsewhere = false → waits.pending cb = owed.count cb

variable {waits : Outstanding} {owed owed' : List ReplyCb}

theorem balanced_wired : Balanced { waits with updateRuns := 0 } owed ↔ Balanced waits owed := by
  have same : ∀ cb, ({ waits with updateRuns := 0 } : Outstanding).pending cb = waits.pending cb := by
    intro cb
    cases cb <;> rfl
  simp only [Balanced, same]

theorem Balanced.of_wired {waits' : Outstanding} (balanced : Balanced waits owed)
    (same : { waits' with updateRuns := 0 } = { waits with updateRuns := 0 }) :
    Balanced waits' owed := by
  have wired := balanced_wired.mpr balanced
  rw [← same] at wired
  exact balanced_wired.mp wired

theorem Balanced.of_perm (balanced : Balanced waits owed) (perm : owed.Perm owed') :
    Balanced waits owed' :=
  fun cb own => (balanced cb own).trans (perm.count_eq cb)

theorem pending_asked (waits : Outstanding) (cb : ReplyCb) {other : ReplyCb}
    (own : other.isElsewhere = false) :
    (cb.asked waits).pending other = waits.pending other + [cb].count other := by
  cases other with
  | elsewhere n => cases own
  | hideBusy action => cases cb <;> simp [ReplyCb.asked, Outstanding.pending, List.count_singleton]
  | fileMeta captured => cases cb <;> simp [ReplyCb.asked, Outstanding.pending, List.count_singleton]
  | _ => cases cb <;> rfl

theorem pending_answered (waits : Outstanding) (cb : ReplyCb) {other : ReplyCb}
    (own : other.isElsewhere = false) :
    (cb.answered waits).pending other = waits.pending other - [cb].count other := by
  cases other with
  | elsewhere n => cases own
  | hideBusy action =>
    cases cb <;> simp [ReplyCb.answered, Outstanding.pending, List.count_singleton, List.count_erase]
  | fileMeta captured =>
    cases cb <;> simp [ReplyCb.answered, Outstanding.pending, List.count_singleton, List.count_erase]
  | _ => cases cb <;> rfl

theorem Balanced.asked (balanced : Balanced waits owed) (cb : ReplyCb) :
    Balanced (cb.asked waits) (owed ++ [cb]) := by
  intro other own
  rw [pending_asked waits cb own, List.count_append, balanced other own]

theorem Balanced.answered {cb : ReplyCb} (balanced : Balanced waits (cb :: owed)) :
    Balanced (cb.answered waits) owed := by
  intro other own
  have before := balanced other own
  have split : (cb :: owed).count other = [cb].count other + owed.count other := by
    rw [← List.singleton_append, List.count_append]
  rw [pending_answered waits cb own, before, split, Nat.add_sub_cancel_left]

theorem Balanced.askedAll (balanced : Balanced waits owed) (metas : List FileMeta) :
    Balanced { waits with fileMetas := waits.fileMetas ++ metas } (owed ++ metas.map .fileMeta) := by
  induction metas generalizing waits owed with
  | nil => simpa using balanced
  | cons captured rest ih =>
    have later := ih (balanced.asked (.fileMeta captured))
    simp only [ReplyCb.asked, List.append_assoc] at later
    exact later

theorem Balanced.booked {account : Outstanding × List Command} (balanced : Balanced account.1 owed)
    (effect : Effect) :
    Balanced (effect.book account).1
      (owed ++ (effect.requests account.1.nextAction).filterMap awaited) := by
  cases effect with
  | act text script => exact balanced.asked (.hideBusy account.1.nextAction)
  | populateFiles => exact balanced.asked .filesList
  | printStart filename => exact balanced.asked .printStart
  | send command =>
    have none : [(command, Option.none)].filterMap awaited = [] := by simp [awaited]
    simp only [Effect.requests, none, List.append_nil]
    exact balanced
  | spawnUpdate => exact (List.append_nil owed).symm ▸ balanced
  | _ =>
    simp only [Effect.requests, List.filterMap_nil, List.append_nil]
    exact balanced

theorem Balanced.bookedAll (effects : List Effect) {account : Outstanding × List Command}
    (balanced : Balanced account.1 owed) :
    Balanced (effects.foldl Effect.book account).1
      (owed ++ (requestsOf account.1.nextAction effects).filterMap awaited) := by
  induction effects generalizing account owed with
  | nil => simpa [requestsOf] using balanced
  | cons effect rest ih =>
    have counted : (effect.book account).1.nextAction = effect.nextAction account.1.nextAction := by
      cases effect <;> rfl
    have later := ih (balanced.booked effect)
    rw [counted, List.append_assoc, ← List.filterMap_append] at later
    exact later

end Balance

section Replies

variable {L : Type → Type} [Layer L] [LawfulLayer L] {J : Type} [JsonLib J]

theorem body_account (s : State J) (j : J) (p : Panel L) (cb : ReplyCb) :
    ∃ metas : List FileMeta, (cb.body s j p).account =
      ({ p.account.1 with fileMetas := p.account.1.fileMetas ++ metas },
        p.sent ++ metas.map fun captured => .fileMetadata captured.path) := by
  have quiet : ∀ {q : Panel L}, q.account = p.account → ∃ metas : List FileMeta, q.account =
      ({ p.account.1 with fileMetas := p.account.1.fileMetas ++ metas },
        p.sent ++ metas.map fun captured => .fileMetadata captured.path) := by
    intro q same
    refine ⟨[], ?_⟩
    rw [same, List.append_nil, List.map_nil, List.append_nil]
    rfl
  cases cb with
  | hideBusy action => exact quiet rfl
  | printStart =>
    apply quiet
    simp only [ReplyCb.body, printStartReply]
    split
    · split <;> rfl
    · rfl
  | filesList =>
    have kept : Preserves (fun q : Panel L => ∃ metas : List FileMeta, q.account =
        ({ p.account.1 with fileMetas := p.account.1.fileMetas ++ metas },
          p.sent ++ metas.map fun captured => .fileMetadata captured.path)) (filesReply j) := by
      refine filesReply_preserves j (fun _ _ same => same) ?_
      rintro q gen path size ⟨metas, same⟩
      obtain ⟨waits, sent⟩ := Prod.mk.inj same
      let captured : FileMeta := ⟨gen, q.ui.rowsMade, path, q.ui.listsBuilt⟩
      have waits := congrArg (fun w : Outstanding =>
        { w with fileMetas := w.fileMetas ++ [captured] }) waits
      have sent := congrArg (· ++ [Command.fileMetadata path]) sent
      simp only [List.append_assoc] at waits sent
      refine ⟨metas ++ [captured], Prod.ext waits ?_⟩
      rw [List.map_append]
      exact sent
    exact kept.final (quiet rfl)
  | fileMeta captured =>
    have kept : Preserves (fun q : Panel L => q.account = p.account) (metadataReply captured s j) :=
      metadataReply_preserves captured s j fun _ _ same => same
    exact quiet (kept.final rfl)
  | elsewhere n => exact quiet rfl

theorem run_account (s : State J) (j : J) (p : Panel L) (cb : ReplyCb) :
    ∃ metas : List FileMeta,
      cb.asks s j p = metas.map (fun captured =>
        (.fileMetadata captured.path, some (.fileMeta captured))) ∧
      (cb.run s j p).account =
        ({ cb.answered p.waits with
            fileMetas := (cb.answered p.waits).fileMetas ++ metas, updateRuns := 0 },
          p.sent ++ metas.map fun captured => .fileMetadata captured.path) := by
  obtain ⟨metas, same⟩ := body_account s j { p with waits := cb.answered p.waits } cb
  have waiting : (cb.run s j p).waits.fileMetas = (cb.answered p.waits).fileMetas ++ metas :=
    congrArg (fun account => account.1.fileMetas) same
  refine ⟨metas, ?_, same⟩
  rw [ReplyCb.asks, waiting, List.drop_left]

/-- A callback that is owed is an event the panel waits for. -/
theorem run_event (s : State J) (j : J) {p : Panel L} {owed : List ReplyCb}
    (balanced : Balanced p.waits owed) {cb : ReplyCb} (member : cb ∈ owed) :
    cb.run s j p = run step p (cb.event s j p.waits).toList := by
  have positive : cb.isElsewhere = false → 0 < p.waits.pending cb := by
    intro own
    rw [balanced cb own]
    exact List.count_pos_iff.mpr member
  cases cb with
  | hideBusy action =>
    have waiting : action ∈ p.waits.actions := List.count_pos_iff.mp (positive rfl)
    exact (if_pos waiting).symm
  | printStart =>
    have waiting : p.waits.printStarts ≠ 0 := Nat.ne_of_gt (positive rfl)
    exact (if_neg waiting).symm
  | filesList =>
    have waiting : p.waits.filesLists ≠ 0 := Nat.ne_of_gt (positive rfl)
    exact (if_neg waiting).symm
  | fileMeta captured =>
    have waiting : captured ∈ p.waits.fileMetas := List.count_pos_iff.mp (positive rfl)
    simp only [ReplyCb.event, Option.toList_some, run_cons, run_nil, step,
      List.getElem?_idxOf waiting, List.eraseIdx_idxOf_eq_erase]
    rfl
  | elsewhere n => rfl

end Replies

section Sends

theorem sendEvent_isRequest {request : Command × Option ReplyCb}
    {e : WsEvent RpcParams ReplyCb StatusConsumer} (sends : sendEvent request = some e) :
    e.isRequest = true := by
  obtain ⟨command, cb⟩ := request
  obtain ⟨method, -, rfl⟩ := Option.map_eq_some_iff.mp sends
  cases command.params <;> cases cb <;> rfl

theorem sendEvent_awaits (request : Command × Option ReplyCb) :
    (sendEvent request).bind WsEvent.awaits = awaited request := by
  obtain ⟨command, cb⟩ := request
  cases command <;> cases cb <;> rfl

theorem sendEvent_rpc (request : Command × Option ReplyCb) :
    (sendEvent request).bind WsEvent.rpc = request.1.rpc := by
  obtain ⟨command, cb⟩ := request
  cases command <;> cases cb <;> rfl

theorem sendAll_spec {c : PanelClient} (accounted : c.Accounted)
    (requests : List (Command × Option ReplyCb)) :
    (sendAll requests c).Accounted ∧
      (sendAll requests c).unanswered = c.unanswered ++ requests.filterMap awaited ∧
      (sendAll requests c).sent.map Request.rpc =
        c.sent.map Request.rpc ++ (requests.map Prod.fst).filterMap Command.rpc ∧
      (sendAll requests c).taken = c.taken := by
  have sends : ∀ e ∈ requests.filterMap sendEvent, e.isRequest = true := by
    intro e member
    obtain ⟨request, -, same⟩ := List.mem_filterMap.mp member
    exact sendEvent_isRequest same
  have spec := accounted.run_sends _ sends
  simp only [List.filterMap_filterMap, sendEvent_awaits, sendEvent_rpc] at spec
  rw [List.filterMap_map]
  exact spec

/-- A request with the parameters of a command is the panel's. -/
def fromPanel (rpc : String × Option RpcParams) : Bool := rpc.2.any fun params => !params.isElsewhere

/-- What the panel sent is transmitted in order; between are requests of other panels, and what
has the parameters of a command is transmitted once. -/
structure Transmitted (sent : List Command) (rpcs : List (String × Option RpcParams)) : Prop where
  in_order : (sent.filterMap Command.rpc).Sublist rpcs
  once : rpcs.filter fromPanel = (sent.filterMap Command.rpc).filter fromPanel

variable {sent : List Command} {rpcs : List (String × Option RpcParams)}

theorem Transmitted.sends (transmitted : Transmitted sent rpcs) (commands : List Command) :
    Transmitted (sent ++ commands) (rpcs ++ commands.filterMap Command.rpc) where
  in_order := by
    rw [List.filterMap_append]
    exact transmitted.in_order.append_right _
  once := by
    rw [List.filterMap_append, List.filter_append, List.filter_append, transmitted.once]

theorem Transmitted.others (transmitted : Transmitted sent rpcs)
    {e : WsEvent RpcParams ReplyCb StatusConsumer} (other : e.isElsewhere = true) :
    Transmitted sent (rpcs ++ e.rpc.toList) where
  in_order := transmitted.in_order.trans (List.sublist_append_left _ _)
  once := by
    have none : e.rpc.toList.filter fromPanel = [] := by
      cases e with
      | sendParams method params | sendParamsCb method params cb
      | sendParamsConsumer method params consumer =>
        cases params with
        | elsewhere => rfl
        | command command => cases other
      | _ => rfl
    rw [List.filter_append, none, List.append_nil, transmitted.once]

end Sends

section Runs

variable {L : Type → Type} [Layer L] [LawfulLayer L] {J : Type} [JsonDoc J]

namespace Wired

/-- What the client owes is what the panel waits for. -/
structure Carries (w : Wired L J) : Prop where
  accounted : w.client.Accounted
  -- nothing is handed out before there was a message
  heard : w.message = none → w.client.taken = []
  balanced : Balanced w.panel.waits w.client.unanswered
  transmitted : Transmitted w.panel.sent (w.client.sent.map Request.rpc)

omit [JsonDoc J] in
theorem carries_fresh : Carries (fresh : Wired L J) where
  accounted :=
    let empty : Client.Accounted ({} : PanelClient) := .empty
    empty.step (.registerNotify .mainPanel)
  heard _ := rfl
  balanced cb own := by
    cases cb <;> rfl
  transmitted := ⟨List.Sublist.refl _, rfl⟩

variable {w : Wired L J}

theorem Carries.act (carries : Carries w) {event : Event J} (other : event.fromWire = false) :
    Carries (w.act event) := by
  have account := own_account w.panel event other
  obtain ⟨accounted, unanswered, rpcs, taken⟩ := sendAll_spec carries.accounted
    (requestsOf w.panel.waits.nextAction (event.effects w.panel))
  have start : Balanced w.panel.account.1 w.client.unanswered := balanced_wired.mpr carries.balanced
  refine ⟨accounted, fun none => taken.trans (carries.heard none), ?_, ?_⟩
  · have booked := start.bookedAll (event.effects w.panel)
    rw [← account] at booked
    have balanced := balanced_wired.mp booked
    exact unanswered ▸ balanced
  · have sent : (GrumpyScreen.step w.panel event).sent =
        w.panel.sent ++ commandsOf (event.effects w.panel) :=
      (congrArg Prod.snd account).trans (book_sent _ _)
    have transmitted := carries.transmitted.sends (commandsOf (event.effects w.panel))
    rw [← sent] at transmitted
    rw [requestsOf_commands] at rpcs
    exact rpcs ▸ transmitted

omit [LawfulLayer L] [JsonDoc J] in
theorem Carries.others (carries : Carries w) {event : WsEvent RpcParams ReplyCb StatusConsumer}
    (other : event.isElsewhere = true) :
    Carries { w with client := Client.step w.client event } := by
  have quiet : ∀ m, event ≠ .message m := by
    rintro m rfl
    cases other
  have still : event ≠ .next := by
    rintro rfl
    cases other
  have taken := Client.step_taken w.client event quiet
  refine ⟨carries.accounted.step event, fun none => taken.trans (carries.heard none), ?_, ?_⟩
  · show Balanced w.panel.waits (Client.step w.client event).unanswered
    rw [carries.accounted.unanswered_step event still]
    cases awaits : event.awaits with
    | none => exact (List.append_nil w.client.unanswered).symm ▸ carries.balanced
    | some cb =>
      have elsewhere : cb.isElsewhere = true := by
        cases event with
        | sendParamsCb method params own =>
          cases awaits
          exact (Bool.and_eq_true _ _ ▸ other).2
        | sendBareCb method own =>
          cases awaits
          exact other
        | _ => cases awaits
      cases cb with
      | elsewhere n => exact carries.balanced.asked (.elsewhere n)
      | _ => cases elsewhere
  · show Transmitted w.panel.sent ((Client.step w.client event).sent.map Request.rpc)
    rw [Client.step_rpcs]
    exact carries.transmitted.others other

omit [LawfulLayer L] [JsonDoc J] in
theorem Carries.received (carries : Carries w) (j : J) (m : Message) :
    Carries { w with client := Client.step w.client (.message m), message := some j } := by
  have unanswered := carries.accounted.unanswered_step (.message m) nofun
  have rpcs := Client.step_rpcs w.client (.message m)
  refine ⟨carries.accounted.step (.message m), nofun, ?_, ?_⟩
  · rw [unanswered]
    exact (List.append_nil w.client.unanswered).symm ▸ carries.balanced
  · rw [rpcs]
    exact (List.append_nil (w.client.sent.map Request.rpc)).symm ▸ carries.transmitted

theorem turn_rpcs (client : PanelClient) :
    (Client.step client .next).sent.map Request.rpc = client.sent.map Request.rpc := by
  rw [Client.step_rpcs]
  exact List.append_nil _

theorem Carries.called (carries : Carries w) (s : State J) {j : J} {cb : ReplyCb} {number : Nat}
    {id : Int} (turns : w.client.turnsTo = some (.reply ⟨.callback cb, number, id⟩))
    (message : w.message = some j)
    (owed : w.client.unanswered.Perm (cb :: (Client.step w.client .next).unanswered)) :
    Carries (w.turn s) ∧ (w.turn s).panel = run GrumpyScreen.step w.panel (w.shown (.turn s)) := by
  simp only [turn, shown, turns, message]
  obtain ⟨metas, asks, account⟩ := run_account s j w.panel cb
  obtain ⟨accounted, unanswered, sent, taken'⟩ :=
    sendAll_spec (carries.accounted.step .next) (cb.asks s j w.panel)
  have callbacks : (cb.asks s j w.panel).filterMap awaited = metas.map .fileMeta := by
    rw [asks, List.filterMap_map, ← List.filterMap_eq_map]
    rfl
  have commands : (cb.asks s j w.panel).map Prod.fst =
      metas.map fun captured => .fileMetadata captured.path := by
    rw [asks, List.map_map]
    rfl
  have balanced := (carries.balanced.of_perm owed).answered.askedAll metas
  refine ⟨⟨accounted, fun none => (by cases none), ?_, ?_⟩, ?_⟩
  · rw [← callbacks, ← unanswered] at balanced
    exact balanced.of_wired (congrArg Prod.fst account)
  · have own : (cb.run s j w.panel).sent = w.panel.sent ++
        metas.map fun captured => .fileMetadata captured.path := congrArg Prod.snd account
    have transmitted := carries.transmitted.sends
      (metas.map fun captured => .fileMetadata captured.path)
    rw [← own] at transmitted
    rw [turn_rpcs, commands] at sent
    exact sent ▸ transmitted
  · exact run_event s j carries.balanced (owed.mem_iff.mpr List.mem_cons_self)

theorem Carries.turned (carries : Carries w) (s : State J) :
    Carries (w.turn s) ∧ (w.turn s).panel = run GrumpyScreen.step w.panel (w.shown (.turn s)) := by
  have accounted := carries.accounted.step .next
  have taken := Client.step_taken w.client .next fun m same => by cases same
  -- a turn that moves nothing the panel accounts for
  have quiet : ∀ p : Panel L, p.account = w.panel.account →
      w.client.unanswered.Perm (Client.step w.client .next).unanswered →
      Carries { w with panel := p, client := Client.step w.client .next } := by
    intro p account owed
    refine ⟨accounted, fun none => taken.trans (carries.heard none), ?_, ?_⟩
    · exact (carries.balanced.of_perm owed).of_wired (congrArg Prod.fst account)
    · have sent : p.sent = w.panel.sent := congrArg Prod.snd account
      show Transmitted p.sent ((Client.step w.client .next).sent.map Request.rpc)
      rw [sent, turn_rpcs]
      exact carries.transmitted
  have silent : (∀ reply, w.client.turnsTo ≠ some (.reply reply)) →
      w.client.unanswered.Perm (Client.step w.client .next).unanswered := by
    intro other
    rw [Client.unanswered_turn w.client other]
  cases turns : w.client.turnsTo with
  | none =>
    simp only [turn, shown, turns]
    exact ⟨quiet w.panel rfl (silent (by simp [turns])), rfl⟩
  | some task =>
    cases task with
    | reply reply =>
      obtain ⟨receiver, number, id⟩ := reply
      obtain ⟨request, same, owed⟩ := carries.accounted.unanswered_reply turns
      cases receiver with
      | consumer consumer =>
        have none : request.callback = none := by simp only [Request.callback, same]
        rw [none] at owed
        simp only [turn, shown, turns]
        exact ⟨quiet w.panel rfl owed, rfl⟩
      | callback cb =>
        have own : request.callback = some cb := by simp only [Request.callback, same]
        rw [own] at owed
        have owed : w.client.unanswered.Perm (cb :: (Client.step w.client .next).unanswered) := owed
        cases message : w.message with
        | none =>
          have handed := (carries.accounted.handed_once turns).1
          rw [carries.heard message] at handed
          cases handed
        | some j => exact carries.called s turns message owed
    | notify consumer =>
      have other := silent (by simp [turns])
      cases consumer with
      | elsewhere n =>
        simp only [turn, shown, turns]
        exact ⟨quiet w.panel rfl other, rfl⟩
      | mainPanel =>
        cases message : w.message with
        | none =>
          simp only [turn, shown, turns, message]
          have kept := quiet w.panel rfl other
          rw [message] at kept
          exact ⟨kept, rfl⟩
        | some j =>
          simp only [turn, shown, turns, message]
          have account := consume_view Panel.account (fun _ _ _ _ => rfl) j w.panel
          have kept := quiet (GrumpyScreen.step w.panel (.delta j)) account other
          rw [message] at kept
          exact ⟨kept, rfl⟩
    | notifyAll =>
      simp only [turn, shown, turns]
      exact ⟨quiet _ rfl (silent (by simp [turns])), rfl⟩
    | connected | disconnected | handler | handlers =>
      simp only [turn, shown, turns]
      exact ⟨quiet w.panel rfl (silent (by simp [turns])), rfl⟩

/-- One step on the wire, and what it is to the panel. -/
theorem Carries.step (carries : Carries w) (event : WiredEvent J) :
    Carries (w.step event) ∧
      (w.step event).panel = run GrumpyScreen.step w.panel (w.shown event) := by
  cases event with
  | own event other => exact ⟨carries.act other, rfl⟩
  | others event other => exact ⟨carries.others other, rfl⟩
  | message j =>
    simp only [Wired.step]
    split
    · exact ⟨carries.received j _, rfl⟩
    · exact ⟨carries, rfl⟩
  | turn s => exact carries.turned s

end Wired

/-- Whatever comes in over the wire, under ids of any kind and in any order, the panel goes
through a run of its own machine: a callback that is handed out is one that a request of the
panel left there, and each is handed out once. What the panel waits for is what its requests
still wait for, and what it sends is transmitted in order. -/
theorem wire_refines (events : List (WiredEvent J)) :
    let w : Wired L J := run Wired.step Wired.fresh events
    w.panel = after (traced Wired.shown Wired.step (Wired.fresh : Wired L J) events) ∧
      Balanced w.panel.waits w.client.unanswered ∧
      Transmitted w.panel.sent (w.client.sent.map Request.rpc) := by
  intro w
  have start : Wired.Carries (Wired.fresh : Wired L J) := Wired.carries_fresh
  have kept : ∀ (w : Wired L J) event, w.Carries → (w.step event).Carries :=
    fun _ event carries => (carries.step event).1
  have shown : ∀ (w : Wired L J) event, w.Carries →
      (w.step event).panel = run GrumpyScreen.step w.panel (w.shown event) :=
    fun _ event carries => (carries.step event).2
  have carries : w.Carries := run_invariant kept start events
  exact ⟨run_traced kept shown start events, carries.balanced, carries.transmitted⟩

end Runs

private def emptyList : Json := .obj [("id", .int 0), ("result", .arr [])]

/-- The files are asked for, and the printer has none. -/
theorem wire_refines_files :
    let tapped : WiredEvent Json := .own (.homeTap .files) rfl
    let events := [tapped, .message emptyList, .turn State.reset]
    let w : Wired ZStack Json := run Wired.step Wired.fresh events
    w.panel = after [.homeTap .files, .filesReply emptyList] ∧
      Balanced w.panel.waits [] ∧ Transmitted w.panel.sent (w.client.sent.map Request.rpc) := by
  intro tapped events w
  obtain ⟨shown, balanced, transmitted⟩ := wire_refines (L := ZStack) events
  have trace : traced Wired.shown Wired.step (Wired.fresh : Wired ZStack Json) events =
      [.homeTap .files, .filesReply emptyList] := rfl
  have answered : w.client.unanswered = [] := by decide +kernel
  exact ⟨trace ▸ shown, answered ▸ balanced, transmitted⟩

end GrumpyScreen
