import GrumpyScreen.SavedNetworks
import GrumpyScreen.Spoolman

/-! Runs of the Wi-Fi panel against the supplicant: scans, taps, deletes and passphrases in any
order, and what they do to the saved networks. -/

namespace GrumpyScreen

open Lib Lib.Decimal WifiPanel

section Session

/-- The name and the level in a line of a scan. -/
def networkEntry (line : Bytes) : Option (Bytes × Int) :=
  if (bytes "bss").isPrefixOf line then none
  else
    match Text.getlines 9 line with
    | [_, _, signal, _, name] => (signalLevel signal).map fun level => (name, level)
    | _ => none

/-- `wifi_name_db.insert`. -/
def insertEntry (db : List (Bytes × Int)) (entry : Bytes × Int) : List (Bytes × Int) :=
  if entry.1 ∈ db.map Prod.fst then db else db ++ [entry]

def scanEntries (reply : Bytes) : List (Bytes × Int) :=
  ((Text.getlines 10 reply).filterMap networkEntry).foldl insertEntry []

/-- What `find_current_network` returns. -/
def foundCurrent (nets : Bytes) : Bool :=
  (Text.getlines 10 nets).any fun line =>
    (Text.getlines 9 line).length = 4 && (Text.search (bytes "[CURRENT]") line).isSome

/-- The panel with what it keeps behind the glass, and the supplicant; the question is the
name in the box that asks for a delete. -/
structure WifiSession where
  panel : WifiPanel := {}
  wifiNameDb : List (Bytes × Int) := []
  question : Option Bytes := none
  wire : Wire
deriving DecidableEq, Repr

inductive WifiEvent
  | foreground (adapter : Bool)
  | back
  | scanned (a : Association) (air : List Bss)
  | connected (a : Association)
  | authFailed
  | tapped (a : Association) (row : Nat)
  | held (row : Nat)
  | answered (ok : Bool)
  | keyboardLeft
  | submitted (password : Bytes)

/-- A passphrase of printable characters; the keyboard has no others. -/
def WifiEvent.Typed : WifiEvent → Prop
  | .submitted password => ∀ c ∈ password, Printable c
  | _ => True

namespace WifiSession

variable (debug : Bytes → Bytes) (pbkdf2 : Bytes → Bytes → Bytes) (S : StdSort (Bytes × Int))
  (s : WifiSession)

/-- The networks the supplicant has. -/
def networks : List Network := s.wire.supplicant.networks

/-- `foreground`: without an adapter nothing is scanned for. -/
def foreground (adapter : Bool) : WifiSession :=
  if adapter then
    { s with
      panel := { s.panel with passwordShown := false }
      wire := { s.wire with sent := s.wire.sent ++ [bytes "SCAN"] } }
  else { s with panel := { s.panel with tableShown := false } }

/-- `handle_wpa_event` on a connection: the rows by signal, the strongest first. -/
def handleConnected (nets : Bytes) : WifiSession :=
  let p := s.panel.findCurrentNetwork nets
  if foundCurrent nets then
    let pairs := S.sort (fun a b => decide (b.2 < a.2)) (s.wifiNameDb.mergeSort fun a b => a.1 ≤ b.1)
    let names := pairs.map Prod.fst
    { s with
      panel :=
        { p with
          tableShown := true
          table := if names = [] then p.table else names.map fun name => name.takeWhile (· ≠ 0)
          passwordShown :=
            if p.curNetwork ≠ [] ∧ p.curNetwork ∈ names then false else p.passwordShown } }
  else { s with panel := p }

/-- `handle_callback` on a long press: a saved network is asked about. -/
def hold (row : Nat) : WifiSession :=
  match s.panel.table[row]? with
  | none => s
  | some name =>
    { s with
      panel := { s.panel with selectedNetwork := name }
      question := if (s.panel.listNetworks.lookup name).isSome then some name else s.question }

/-- `remove_network`. -/
def removeSelected : Wire :=
  match s.panel.listNetworks.lookup s.panel.selectedNetwork with
  | none => s.wire
  | some nid =>
    requestCommand pbkdf2 (bytes "SAVE_CONFIG")
      (requestCommand pbkdf2 (bytes "REMOVE_NETWORK " ++ nid) s.wire)

/-- The box is closed by its buttons, and is over everything else while it is up; the finger
that brought it up still ends its tap on the table. -/
def step : WifiEvent → WifiSession
  | .foreground adapter => s.foreground adapter
  | .back => { s with panel := { s.panel with tableShown := false } }
  | .scanned a air =>
    { s with
      panel := s.panel.handleScanResults (listNetworksReply a s.networks) (scanResults air)
      wifiNameDb := scanEntries (scanResults air) }
  | .connected a => s.handleConnected S (listNetworksReply a s.networks)
  | .authFailed => { s with panel := { s.panel with passwordShown := true } }
  | .tapped a row =>
    let (panel, wire) := s.panel.handleCallback pbkdf2 row (listNetworksReply a s.networks) s.wire
    { s with panel, wire }
  | .held row => if s.question.isSome then s else s.hold row
  | .answered ok =>
    if s.question.isSome then
      { s with question := none, wire := if ok then s.removeSelected pbkdf2 else s.wire }
    else s
  | .keyboardLeft => { s with panel := { s.panel with passwordShown := false } }
  | .submitted password =>
    let (panel, wire) := s.panel.submit debug pbkdf2 password s.wire
    { s with panel, wire }

end WifiSession

end Session

section Rows

theorem scanEntries_names (reply : Bytes) : (scanEntries reply).map Prod.fst = scanNames reply := by
  have name : ∀ line, (networkEntry line).map Prod.fst = networkName line := by
    intro line
    unfold networkEntry networkName
    split
    · rfl
    · rcases Text.getlines 9 line with
        _ | ⟨bssid, _ | ⟨freq, _ | ⟨signal, _ | ⟨flags, _ | ⟨name, _ | more⟩⟩⟩⟩⟩
      case cons.cons.cons.cons.cons.nil => exact Option.map_map ..
      all_goals rfl
  have insert : ∀ (entries db : List (Bytes × Int)),
      (entries.foldl insertEntry db).map Prod.fst =
        (entries.map Prod.fst).foldl insertName (db.map Prod.fst) := by
    intro entries
    induction entries with
    | nil => exact fun _ => rfl
    | cons entry rest ih =>
      intro db
      have one : (insertEntry db entry).map Prod.fst = insertName (db.map Prod.fst) entry.1 := by
        unfold insertEntry insertName
        split
        · rfl
        · rw [List.map_append]
          rfl
      rw [List.foldl_cons, ih, one]
      rfl
  rw [scanEntries, insert, List.map_filterMap, scanNames]
  simp only [name]
  rfl

/-- What a row can have in it: the printed name of a network that has one. -/
def RowName (text : Bytes) : Prop :=
  ∃ name, name ≠ [] ∧ name.length ≤ ssidMaxLen ∧ text = wpaSsidTxt name

theorem scanNames_row {air : List Bss} {text : Bytes}
    (member : text ∈ scanNames (scanResults air)) : RowName text := by
  obtain ⟨bss, -, -, named, rfl⟩ := mem_scanNames.mp member
  exact ⟨bss.ssid, named, bss.shortSsid, rfl⟩

theorem RowName.printable {text : Bytes} (row : RowName text) : ∀ c ∈ text, Printable c := by
  obtain ⟨name, -, short, rfl⟩ := row
  rw [wpaSsidTxt_eq short]
  exact printf_printable name

theorem RowName.text {text : Bytes} (row : RowName text) : text.takeWhile (· ≠ 0) = text :=
  Supplicant.buffer_eq fun zero => (printable_ne (row.printable 0 zero)).1 rfl

end Rows

section Kept

/-- What the list last read told of the networks, until one of them is deleted. -/
abbrev Known := Option (List (Int × Bytes))

/-- The entry of the panel's list for a network of an id and a name. -/
def keyEntry (key : Int × Bytes) : Bytes × Bytes := (wpaSsidTxt key.2, signed key.1)

namespace WifiSession

variable (s : WifiSession)

/-- The list as it is read now. -/
def told (a : Association) : List (Int × Bytes) := (savedListed a s.networks).map Network.key

/-- The id that a delete is for. -/
def deletes : Option Bytes := s.panel.listNetworks.lookup s.panel.selectedNetwork

def watch (known : Known) (s : WifiSession) : WifiEvent → Known
  | .scanned a _ => some (s.told a)
  | .connected a => some (s.told a)
  | .tapped a row => if (s.panel.table[row]?).isSome then some (s.told a) else known
  | .answered ok => if s.question.isSome && ok && s.deletes.isSome then none else known
  | _ => known

/-- The list is of networks that are still saved, and rows have names of networks. -/
structure Kept (known : Known) (s : WifiSession) : Prop where
  saved : WellFormed s.networks
  grants : s.wire.supplicant.refusal = none
  rows : ∀ text ∈ s.panel.table, RowName text
  names : ∀ text ∈ s.wifiNameDb.map Prod.fst, RowName text
  chosen : s.panel.selectedNetwork = [] ∨ RowName s.panel.selectedNetwork
  entries : ∀ entry ∈ s.panel.listNetworks, ∃ id, entry.2 = signed id
  listed : ∀ keys, known = some keys →
    keys <+: s.networks.map Network.key ∧ s.panel.listNetworks = keys.map keyEntry

variable {known : Known} {s : WifiSession}

theorem Kept.printable (kept : Kept known s) : ∀ c ∈ s.panel.selectedNetwork, Printable c := by
  rcases kept.chosen with empty | row
  · rw [empty]
    exact List.forall_mem_nil _
  · exact row.printable

theorem Kept.read (kept : Kept known s) (a : Association) {t : WifiSession}
    (networks : t.networks.map Network.key = s.networks.map Network.key)
    (refusal : t.wire.supplicant.refusal = s.wire.supplicant.refusal)
    (list : t.panel.listNetworks = (savedListed a s.networks).map Network.entry)
    (rows : ∀ text ∈ t.panel.table, RowName text)
    (names : ∀ text ∈ t.wifiNameDb.map Prod.fst, RowName text)
    (chosen : t.panel.selectedNetwork = [] ∨ RowName t.panel.selectedNetwork) :
    Kept (some (s.told a)) t where
  saved := kept.saved.of_keys networks
  grants := refusal.trans kept.grants
  rows := rows
  names := names
  chosen := chosen
  entries := by
    rw [list, List.forall_mem_map]
    exact fun n _ => ⟨n.id, rfl⟩
  listed keys same := by
    obtain rfl := Option.some.inj same
    refine ⟨networks ▸ (savedListed_before a s.networks).map Network.key, ?_⟩
    rw [list, told, List.map_map]
    rfl

variable {debug : Bytes → Bytes} {pbkdf2 : Bytes → Bytes → Bytes} {S : StdSort (Bytes × Int)}

theorem findCurrentNetwork_rest (nets : Bytes) (p : WifiPanel) :
    (p.findCurrentNetwork nets).table = p.table := by
  have step : ∀ (p : WifiPanel) (line : Bytes), (p.listNetwork line).table = p.table := by
    intro p line
    unfold listNetwork
    split
    · simp only
      split <;> rfl
    · rfl
  have fold : ∀ (lines : List Bytes) (p : WifiPanel),
      (lines.foldl listNetwork p).table = p.table := by
    intro lines
    induction lines with
    | nil => exact fun _ => rfl
    | cons line rest ih => exact fun p => (ih (p.listNetwork line)).trans (step p line)
  exact fold _ _

theorem handleScanResults_rest (nets reply : Bytes) (p : WifiPanel) :
    let read := p.findCurrentNetwork nets
    let q := p.handleScanResults nets reply
    q.listNetworks = read.listNetworks ∧ q.selectedNetwork = read.selectedNetwork ∧
      (q.table = read.table ∨
        q.table = (scanNames reply).map fun name => name.takeWhile (· ≠ 0)) := by
  simp only [handleScanResults]
  split_ifs <;> first | exact ⟨rfl, rfl, Or.inl rfl⟩ | exact ⟨rfl, rfl, Or.inr rfl⟩

theorem rowNames_cells {names : List Bytes} (rows : ∀ text ∈ names, RowName text) :
    ∀ text ∈ names.map (fun name => name.takeWhile (· ≠ 0)), RowName text := by
  rw [List.forall_mem_map]
  intro name member
  rw [(rows name member).text]
  exact rows name member

theorem Kept.scanned (kept : Kept known s) (a : Association) (air : List Bss) :
    Kept (some (s.told a)) (s.step debug pbkdf2 S (.scanned a air)) := by
  have list := findCurrentNetwork_list a kept.saved.short s.panel
  have rows : ∀ text ∈ scanNames (scanResults air), RowName text := fun _ => scanNames_row
  obtain ⟨same, chosen, table⟩ :=
    handleScanResults_rest (listNetworksReply a s.networks) (scanResults air) s.panel
  refine kept.read a rfl rfl ?_ ?_ ?_ ?_
  · exact same.trans (congrArg WifiPanel.listNetworks list)
  · rcases table with old | new
    · have before := old.trans (findCurrentNetwork_rest _ s.panel)
      exact before.symm ▸ kept.rows
    · exact new.symm ▸ rowNames_cells rows
  · intro text member
    exact rows text ((scanEntries_names _) ▸ member)
  · have before := chosen.trans (findCurrentNetwork_selected _ s.panel)
    exact before.symm ▸ kept.chosen

/-- The names of the last scan, the strongest first. -/
def sortedNames (S : StdSort (Bytes × Int)) (s : WifiSession) : List Bytes :=
  (S.sort (fun a b => decide (b.2 < a.2)) (s.wifiNameDb.mergeSort fun a b => a.1 ≤ b.1)).map Prod.fst

theorem mem_sortedNames {text : Bytes} :
    text ∈ s.sortedNames S ↔ text ∈ s.wifiNameDb.map Prod.fst := by
  have perm := (S.rearranges (fun a b => decide (b.2 < a.2)) _).trans
    (List.mergeSort_perm s.wifiNameDb fun a b => a.1 ≤ b.1)
  exact (perm.map Prod.fst).mem_iff

theorem handleConnected_rest (nets : Bytes) :
    let read := s.panel.findCurrentNetwork nets
    let q := s.handleConnected S nets
    q.panel.listNetworks = read.listNetworks ∧ q.panel.selectedNetwork = read.selectedNetwork ∧
      (q.panel.table = read.table ∨
        q.panel.table = (s.sortedNames S).map fun name => name.takeWhile (· ≠ 0)) ∧
      q.wire = s.wire ∧ q.wifiNameDb = s.wifiNameDb := by
  simp only [handleConnected]
  split
  · refine ⟨rfl, rfl, ?_, rfl, rfl⟩
    simp only
    split
    · exact Or.inl rfl
    · exact Or.inr rfl
  · exact ⟨rfl, rfl, Or.inl rfl, rfl, rfl⟩

theorem Kept.connected (kept : Kept known s) (a : Association) :
    Kept (some (s.told a)) (s.step debug pbkdf2 S (.connected a)) := by
  have list := findCurrentNetwork_list a kept.saved.short s.panel
  obtain ⟨same, chosen, table, wire, names⟩ :=
    handleConnected_rest (s := s) (S := S) (listNetworksReply a s.networks)
  refine kept.read a ?_ ?_ ?_ ?_ ?_ ?_
  · exact congrArg (fun w : Wire => w.supplicant.networks.map Network.key) wire
  · exact congrArg (fun w : Wire => w.supplicant.refusal) wire
  · exact same.trans (congrArg WifiPanel.listNetworks list)
  · rcases table with old | new
    · have before := old.trans (findCurrentNetwork_rest _ s.panel)
      exact before.symm ▸ kept.rows
    · have sorted : ∀ text ∈ s.sortedNames S, RowName text := fun text member =>
        kept.names text (mem_sortedNames.mp member)
      exact new.symm ▸ rowNames_cells sorted
  · exact names.symm ▸ kept.names
  · have before := chosen.trans (findCurrentNetwork_selected _ s.panel)
    exact before.symm ▸ kept.chosen

theorem Kept.tapped (kept : Kept known s) (a : Association) (row : Nat) :
    Kept (watch known s (.tapped a row)) (s.step debug pbkdf2 S (.tapped a row)) ∧
      (s.step debug pbkdf2 S (.tapped a row)).networks.map Network.saved =
        s.networks.map Network.saved := by
  cases cell : s.panel.table[row]? with
  | none =>
    have same : s.step debug pbkdf2 S (.tapped a row) = s := by
      simp only [step, WifiPanel.handleCallback, cell]
    rw [same]
    simpa [watch, cell] using kept
  | some text =>
    have named := kept.rows text (List.mem_of_getElem? cell)
    obtain ⟨name, -, short, rfl⟩ := id named
    have taken := handleCallback_row a pbkdf2 cell short kept.saved
    have same : ∀ t : WifiSession,
        t.networks.map Network.saved = s.networks.map Network.saved →
        t.wire.supplicant.refusal = s.wire.supplicant.refusal →
        t.panel.listNetworks = (savedListed a s.networks).map Network.entry →
        t.panel.table = s.panel.table → t.wifiNameDb = s.wifiNameDb →
        t.panel.selectedNetwork = wpaSsidTxt name →
        Kept (watch known s (.tapped a row)) t ∧
          t.networks.map Network.saved = s.networks.map Network.saved := by
      intro t saved refusal list table names chosen
      have known' : watch known s (.tapped a row) = some (s.told a) := by
        simp only [watch, cell, Option.isSome_some, if_true]
      rw [known']
      refine ⟨kept.read a (keys_of_saved saved) refusal list ?_ ?_ ?_, saved⟩
      · exact table ▸ kept.rows
      · exact names ▸ kept.names
      · exact Or.inr (chosen ▸ named)
    simp only [step, networks] at taken ⊢
    rw [taken]
    split
    · exact same _ rfl rfl rfl rfl rfl rfl
    · split
      · next n _ => exact same _ (selected_saved n _) rfl rfl rfl rfl rfl
      · exact same _ rfl rfl rfl rfl rfl rfl

/-- What a tap on the row of a name does: nothing is sent for the current network, the first
network saved under that very name is joined, and for another the passphrase is asked for. -/
def Tapped (a : Association) (name : Bytes) (s t : WifiSession) : Prop :=
  let listed := savedListed a s.networks
  if currentName a listed = wpaSsidTxt name then
    t.wire = s.wire ∧ t.panel.passwordShown = false
  else
    match savedAs name listed with
    | some n => t.networks = selected n s.networks ∧
        t.wire.sent = s.wire.sent ++ [bytes "SELECT_NETWORK " ++ signed n.id, bytes "SAVE_CONFIG"]
    | none => t.wire = s.wire ∧ t.panel.passwordShown = true

theorem Kept.taps (kept : Kept known s) (a : Association) {row : Nat} {name : Bytes}
    (cell : s.panel.table[row]? = some (wpaSsidTxt name)) (named : name ≠ [])
    (short : name.length ≤ ssidMaxLen) :
    Tapped a name s (s.step debug pbkdf2 S (.tapped a row)) := by
  have filled : wpaSsidTxt name ≠ [] := by
    intro empty
    have shorter := printfEscaping.length_le_encode name
    rw [← wpaSsidTxt_eq short, empty] at shorter
    exact named (List.length_eq_zero_iff.mp (Nat.le_zero.mp shorter))
  have taken := handleCallback_row a pbkdf2 cell short kept.saved
  simp only [Tapped, step, networks] at taken ⊢
  rw [taken]
  by_cases current : currentName a (savedListed a s.wire.supplicant.networks) = wpaSsidTxt name
  · rw [if_pos ⟨current.symm ▸ filled, current⟩]
    exact (if_pos current).mpr ⟨rfl, rfl⟩
  · rw [if_neg fun both => current both.2]
    refine (if_neg current).mpr ?_
    cases savedAs name (savedListed a s.wire.supplicant.networks) with
    | some n => exact ⟨rfl, rfl⟩
    | none => exact ⟨rfl, rfl⟩

theorem Kept.unread (kept : Kept known s) {t : WifiSession} (networks : t.networks = s.networks)
    (refusal : t.wire.supplicant.refusal = s.wire.supplicant.refusal)
    (list : t.panel.listNetworks = s.panel.listNetworks) (table : t.panel.table = s.panel.table)
    (names : t.wifiNameDb = s.wifiNameDb)
    (chosen : t.panel.selectedNetwork = [] ∨ RowName t.panel.selectedNetwork) : Kept known t where
  saved := networks ▸ kept.saved
  grants := refusal.trans kept.grants
  rows := table ▸ kept.rows
  names := names ▸ kept.names
  chosen := chosen
  entries := list ▸ kept.entries
  listed keys same := by
    rw [networks, list]
    exact kept.listed keys same

theorem Kept.held (kept : Kept known s) (row : Nat) :
    Kept known (s.step debug pbkdf2 S (.held row)) := by
  simp only [step]
  split
  · exact kept
  · unfold hold
    split
    · exact kept
    · next name cell =>
      exact kept.unread rfl rfl rfl rfl rfl (Or.inr (kept.rows name (List.mem_of_getElem? cell)))

variable (pbkdf2) in
theorem removeSelected_cases (kept : Kept known s) :
    s.deletes = none ∧ s.removeSelected pbkdf2 = s.wire ∨
      ∃ id, s.deletes = some (signed id) ∧ s.removeSelected pbkdf2 =
        { supplicant := s.wire.supplicant.without id
          sent := s.wire.sent ++ [bytes "REMOVE_NETWORK " ++ signed id, bytes "SAVE_CONFIG"] } := by
  unfold removeSelected deletes
  cases found : s.panel.listNetworks.lookup s.panel.selectedNetwork with
  | none => exact Or.inl ⟨rfl, rfl⟩
  | some nid =>
    obtain ⟨before, after, whole, -⟩ := List.lookup_eq_some_iff.mp found
    have member : (s.panel.selectedNetwork, nid) ∈ s.panel.listNetworks := whole ▸ by simp
    obtain ⟨id, rfl⟩ := kept.entries _ member
    exact Or.inr ⟨id, rfl, request_remove id⟩

theorem Kept.behind (kept : Kept known s) {keys : List (Int × Bytes)} (fresh : known = some keys) :
    ∃ listed, listed <+: s.networks ∧ listed.map Network.key = keys ∧
      s.panel.listNetworks = listed.map Network.entry := by
  obtain ⟨⟨rest, whole⟩, list⟩ := kept.listed keys fresh
  obtain ⟨listed, later, same, rfl, -⟩ := List.map_eq_append_iff.mp whole.symm
  refine ⟨listed, ⟨later, same.symm⟩, rfl, ?_⟩
  rw [list, List.map_map]
  rfl

theorem Kept.deletes_eq (kept : Kept known s) {keys : List (Int × Bytes)}
    (fresh : known = some keys) {name : Bytes} (short : name.length ≤ ssidMaxLen)
    (chosen : s.panel.selectedNetwork = wpaSsidTxt name) :
    (∃ n, savedAs name s.networks = some n ∧ n.key ∈ keys ∧ s.deletes = some (signed n.id)) ∨
      (∀ key ∈ keys, key.2 ≠ name) ∧ s.deletes = none := by
  obtain ⟨listed, first, rfl, list⟩ := kept.behind fresh
  have shorts : ∀ n ∈ listed, n.Short := fun n member => kept.saved.short n (first.subset member)
  have found := lookup_entries shorts short
  rw [deletes, list, chosen, found]
  cases saved : savedAs name listed with
  | some n =>
    obtain ⟨rest, whole⟩ := first
    refine Or.inl ⟨n, ?_, List.mem_map_of_mem (savedAs_eq_some saved).1, rfl⟩
    rw [← whole, savedAs, List.find?_append, ← savedAs, saved]
    rfl
  | none =>
    refine Or.inr ⟨?_, rfl⟩
    rw [List.forall_mem_map]
    intro n member same
    have none := List.find?_eq_none.mp saved n member
    exact none (decide_eq_true same)

theorem Kept.answered (kept : Kept known s) (ok : Bool) :
    Kept (watch known s (.answered ok)) (s.step debug pbkdf2 S (.answered ok)) := by
  cases asked : s.question.isSome with
  | false =>
    simp only [step, watch, asked, Bool.false_and, if_false, Bool.false_eq_true]
    exact kept
  | true =>
    cases ok with
    | false =>
      simp only [step, watch, asked, Bool.and_false, Bool.false_and, if_true, if_false,
        Bool.false_eq_true]
      exact kept.unread rfl rfl rfl rfl rfl kept.chosen
    | true =>
      simp only [step, watch, asked, Bool.true_and, if_true]
      rcases removeSelected_cases pbkdf2 kept with ⟨quiet, same⟩ | ⟨id, loud, same⟩
      · rw [quiet, same]
        exact kept.unread rfl rfl rfl rfl rfl kept.chosen
      · rw [loud, same]
        have fewer : (s.networks.eraseP fun n => n.id = id).Sublist s.networks :=
          List.eraseP_sublist
        exact {
          saved := ⟨kept.saved.ids.sublist (fewer.map Network.id),
            fun n member => kept.saved.short n (fewer.subset member)⟩
          grants := kept.grants
          rows := kept.rows
          names := kept.names
          chosen := kept.chosen
          entries := kept.entries
          listed := fun keys none => nomatch none }

variable (pbkdf2 S) in
theorem Kept.submitted (kept : Kept known s) (quotes : Quotes debug) {password : Bytes}
    (typed : ∀ c ∈ password, Printable c) (given : password ≠ []) :
    (s.step debug pbkdf2 S (.submitted password)).networks.map Network.saved =
      s.networks.map Network.saved ++
        [(nextId s.networks, joined s.panel.selectedNetwork password)] := by
  simp only [step, submit, if_neg given]
  exact connect_saved quotes s.panel kept.grants kept.printable typed

theorem send_refusal (cmd : Bytes) (w : Wire) :
    (sendCommand pbkdf2 cmd w).2.supplicant.refusal = w.supplicant.refusal := by
  simp only [sendCommand, Supplicant.process_refusal]

theorem connect_refusal (p : WifiPanel) (password : Bytes) (w : Wire) :
    (p.connect debug pbkdf2 password w).supplicant.refusal = w.supplicant.refusal := by
  have commands : ∀ (commands : List Bytes) (w : Wire),
      (commands.foldl (fun w cmd => (sendCommand pbkdf2 cmd w).2) w).supplicant.refusal =
        w.supplicant.refusal := by
    intro commands
    induction commands with
    | nil => exact fun _ => rfl
    | cons cmd rest ih => exact fun w => (ih _).trans (send_refusal cmd w)
  simp only [connect]
  split
  · exact (commands _ _).trans (send_refusal _ w)
  · exact send_refusal _ w

theorem joined_short (text password : Bytes) :
    ((joined text password).1.getD []).length ≤ ssidMaxLen := by
  simp only [joined]
  split
  · assumption
  · exact Nat.zero_le _

variable (pbkdf2 S) in
theorem Kept.submitted_keys (kept : Kept known s) (quotes : Quotes debug) {password : Bytes}
    (typed : ∀ c ∈ password, Printable c) (given : password ≠ []) :
    (s.step debug pbkdf2 S (.submitted password)).networks.map Network.key =
      s.networks.map Network.key ++
        [(nextId s.networks, (joined s.panel.selectedNetwork password).1.getD [])] := by
  have saved := kept.submitted pbkdf2 S quotes typed given
  have keys := congrArg (List.map fun r => (r.1, r.2.1.getD [])) saved
  rw [List.map_append, List.map_map, List.map_map] at keys
  exact keys

theorem Kept.joins (kept : Kept known s) (quotes : Quotes debug) {password : Bytes}
    (typed : ∀ c ∈ password, Printable c) :
    Kept known (s.step debug pbkdf2 S (.submitted password)) := by
  by_cases given : password = []
  · simp only [step, submit, if_pos given]
    exact kept
  · have keys := kept.submitted_keys pbkdf2 S quotes typed given
    have panel : (s.step debug pbkdf2 S (.submitted password)).panel =
        { s.panel with passwordShown := false } := by
      simp only [step, submit, if_neg given]
    have refusal : (s.step debug pbkdf2 S (.submitted password)).wire.supplicant.refusal = none := by
      simp only [step, submit, if_neg given]
      exact (connect_refusal _ _ _).trans kept.grants
    have names : (s.step debug pbkdf2 S (.submitted password)).wifiNameDb = s.wifiNameDb := by
      simp only [step]
    refine ⟨?_, refusal, ?_, ?_, ?_, ?_, ?_⟩
    · obtain ⟨ids, short⟩ := wellFormed_iff.mp kept.saved
      rw [wellFormed_iff, keys, List.map_append, List.forall_mem_append]
      refine ⟨?_, short, List.forall_mem_singleton.mpr (joined_short _ _)⟩
      refine List.nodup_append.mpr ⟨ids, List.nodup_singleton _, ?_⟩
      rw [List.map_map, List.forall_mem_map]
      intro n member id last
      obtain rfl := List.mem_singleton.mp last
      exact Int.ne_of_lt (nextId_spec _ n member)
    · rw [panel]
      exact kept.rows
    · rw [names]
      exact kept.names
    · rw [panel]
      exact kept.chosen
    · rw [panel]
      exact kept.entries
    · intro known same
      obtain ⟨before, list⟩ := kept.listed known same
      rw [keys, panel]
      exact ⟨before.trans (List.prefix_append _ _), list⟩

/-- Every event keeps it. -/
theorem Kept.step (kept : Kept known s) (quotes : Quotes debug) {event : WifiEvent}
    (typed : event.Typed) : Kept (watch known s event) (s.step debug pbkdf2 S event) := by
  cases event with
  | foreground adapter =>
    simp only [WifiSession.step, foreground]
    split <;> exact kept.unread rfl rfl rfl rfl rfl kept.chosen
  | back | authFailed | keyboardLeft => exact kept.unread rfl rfl rfl rfl rfl kept.chosen
  | scanned a air => exact kept.scanned a air
  | connected a => exact kept.connected a
  | tapped a row => exact (kept.tapped a row).1
  | held row => exact kept.held row
  | answered ok => exact kept.answered ok
  | submitted password => exact kept.joins quotes typed

/-- What an event may change of what is saved. -/
def Changes : WifiEvent → WifiSession → WifiSession → Prop
  | .submitted password, s, t =>
    t.networks.map Network.saved =
      if password = [] then s.networks.map Network.saved else
        s.networks.map Network.saved ++
          [(nextId s.networks, joined s.panel.selectedNetwork password)]
  | .answered true, s, t =>
    t.networks = s.networks ∨
      s.question.isSome = true ∧ ∃ id, t.networks = s.networks.eraseP fun n => n.id = id
  | _, s, t => t.networks.map Network.saved = s.networks.map Network.saved

theorem Kept.changes (kept : Kept known s) (quotes : Quotes debug) {event : WifiEvent}
    (typed : event.Typed) : Changes event s (s.step debug pbkdf2 S event) := by
  cases event with
  | submitted password =>
    by_cases given : password = []
    · simp only [Changes, WifiSession.step, submit, if_pos given]
    · simp only [Changes, if_neg given]
      exact kept.submitted pbkdf2 S quotes typed given
  | answered ok =>
    cases ok with
    | false =>
      simp only [Changes, WifiSession.step]
      split <;> rfl
    | true =>
      simp only [Changes, WifiSession.step]
      cases asked : s.question.isSome with
      | false => exact Or.inl rfl
      | true =>
        rcases removeSelected_cases pbkdf2 kept with ⟨-, same⟩ | ⟨id, -, same⟩
        · exact Or.inl (congrArg (fun w : Wire => w.supplicant.networks) same)
        · exact Or.inr ⟨rfl, id, congrArg (fun w : Wire => w.supplicant.networks) same⟩
  | tapped a row => exact (kept.tapped a row).2
  | connected a =>
    obtain ⟨-, -, -, wire, -⟩ :=
      handleConnected_rest (s := s) (S := S) (listNetworksReply a s.networks)
    exact congrArg (fun w : Wire => w.supplicant.networks.map Network.saved) wire
  | foreground adapter =>
    simp only [Changes, WifiSession.step, foreground]
    split <;> rfl
  | held row =>
    simp only [Changes, WifiSession.step, hold]
    split
    · rfl
    · split <;> rfl
  | back | scanned | authFailed | keyboardLeft => rfl

end WifiSession

end Kept

section Runs

namespace WifiSession

variable {debug : Bytes → Bytes} {pbkdf2 : Bytes → Bytes → Bytes} {S : StdSort (Bytes × Int)}
  {start : Supplicant} {events : List WifiEvent}

/-- The panel as it starts, and the supplicant with what it has saved. -/
def fresh (start : Supplicant) : WifiSession := { wire := { supplicant := start } }

theorem kept_fresh (saved : WellFormed start.networks) (grants : start.refusal = none) :
    Kept (some []) (fresh start) where
  saved := saved
  grants := grants
  rows := List.forall_mem_nil _
  names := List.forall_mem_nil _
  chosen := Or.inl rfl
  entries := List.forall_mem_nil _
  listed keys same := by
    obtain rfl := Option.some.inj same
    exact ⟨List.nil_prefix, rfl⟩

variable (pbkdf2 S) in
theorem run_kept (quotes : Quotes debug) (saved : WellFormed start.networks)
    (grants : start.refusal = none) (typed : ∀ e ∈ events, e.Typed) :
    Kept (run (observed watch (step debug pbkdf2 S)) (some [], fresh start) events).1
      (run (step debug pbkdf2 S) (fresh start) events) := by
  have along : Along (step debug pbkdf2 S) (fun _ e => e.Typed) (fresh start) events := by
    rw [along_iff_forall]
    exact fun before event isPrefix => typed event (isPrefix.subset (by simp))
  exact along.invariant_observed (fun _ _ _ kept typed => kept.step quotes typed)
    (kept_fresh saved grants)

/-- In every run a row names a network, and tapping it joins the first network saved under
that very name, and no other. -/
theorem tap_selects_saved (quotes : Quotes debug) (saved : WellFormed start.networks)
    (grants : start.refusal = none) (typed : ∀ e ∈ events, e.Typed) :
    let s := run (step debug pbkdf2 S) (fresh start) events
    ∀ row text, s.panel.table[row]? = some text → ∃ name, name ≠ [] ∧
      name.length ≤ ssidMaxLen ∧ text = wpaSsidTxt name ∧
        ∀ a, Tapped a name s (s.step debug pbkdf2 S (.tapped a row)) := by
  intro s row text cell
  have kept := run_kept pbkdf2 S quotes saved grants typed
  obtain ⟨name, named, short, rfl⟩ := kept.rows text (List.mem_of_getElem? cell)
  exact ⟨name, named, short, rfl, fun a => kept.taps a cell named short⟩

/-- In every run what is saved to join networks changes in two ways only: a passphrase that is
submitted saves one more network, with the next id and for the selected row, and a delete that
is confirmed takes at most one away. -/
theorem saved_changed_by (quotes : Quotes debug) (saved : WellFormed start.networks)
    (grants : start.refusal = none) (typed : ∀ e ∈ events, e.Typed) (event : WifiEvent)
    (own : event.Typed) :
    let s := run (step debug pbkdf2 S) (fresh start) events
    Changes event s (s.step debug pbkdf2 S event) :=
  (run_kept pbkdf2 S quotes saved grants typed).changes quotes own

/-- In every run, where the question is about the selected network and no network was deleted
since the list was read, confirming it removes the first network saved under that very name and
no other; nothing is sent for one that is not on the list. -/
theorem delete_removes_selected (quotes : Quotes debug) (saved : WellFormed start.networks)
    (grants : start.refusal = none) (typed : ∀ e ∈ events, e.Typed) :
    let reached := run (observed watch (step debug pbkdf2 S)) (some [], fresh start) events
    let s := reached.2
    let t := s.step debug pbkdf2 S (.answered true)
    ∀ keys, reached.1 = some keys → ∀ name : Bytes, name.length ≤ ssidMaxLen →
      s.question = some (wpaSsidTxt name) → s.panel.selectedNetwork = wpaSsidTxt name →
      (∃ n, savedAs name s.networks = some n ∧ n.key ∈ keys ∧
          t.networks = (s.networks.eraseP fun n => n.name = name) ∧
          t.wire.sent = s.wire.sent ++
            [bytes "REMOVE_NETWORK " ++ signed n.id, bytes "SAVE_CONFIG"]) ∨
        (∀ key ∈ keys, key.2 ≠ name) ∧ t.wire = s.wire := by
  intro reached s t keys known name short asked chosen
  have kept : Kept reached.1 s := by
    have same : s = run (step debug pbkdf2 S) (fresh start) events := run_observed_snd _ events
    rw [same]
    exact run_kept pbkdf2 S quotes saved grants typed
  have removed : t.wire = s.removeSelected pbkdf2 := by
    simp only [t, step, asked, Option.isSome_some, if_true]
  have cases := removeSelected_cases pbkdf2 kept
  rcases kept.deletes_eq known short chosen with ⟨n, first, listed, own⟩ | ⟨absent, none⟩
  · rcases cases with ⟨quiet, -⟩ | ⟨id, loud, same⟩
    · rw [own] at quiet
      cases quiet
    · have ids : id = n.id := by
        have texts := Option.some.inj (loud.symm.trans own)
        rw [← atoi_signed id, texts, atoi_signed]
      subst ids
      refine Or.inl ⟨n, first, listed, ?_, ?_⟩
      · rw [networks, removed, same]
        exact eraseP_savedAs kept.saved.ids first
      · rw [removed, same]
  · rcases cases with ⟨-, same⟩ | ⟨id, loud, -⟩
    · exact Or.inr ⟨absent, removed.trans same⟩
    · rw [none] at loud
      cases loud

end WifiSession

end Runs

section Witness

open WifiSession

private def workshop : Bytes := bytes "Workshop 2.4"

/-- A supplicant that has saved two networks, the second of them in the air. -/
private def twoSaved : Supplicant where
  networks := [{ id := 0, ssid := some (bytes "home") }, { id := 3, ssid := some workshop }]

private theorem twoSaved_wellFormed : WellFormed twoSaved.networks :=
  ⟨by decide, by simp only [Network.Short]; decide⟩

private def scanAndHold : List WifiEvent := [.scanned {} [lone workshop (by decide)], .held 0]

private theorem scanAndHold_typed : ∀ e ∈ scanAndHold, e.Typed := by
  simp [scanAndHold, WifiEvent.Typed]

private def take (s : WifiSession) (event : WifiEvent) : WifiSession :=
  s.step fmtDebug (fun _ _ => []) (.merge _) event

theorem tap_selects_saved_workshop :
    let s := run take (fresh twoSaved) scanAndHold
    ∃ name, name ≠ [] ∧ name.length ≤ ssidMaxLen ∧ workshop = wpaSsidTxt name ∧
      ∀ a, Tapped a name s (take s (.tapped a 0)) :=
  tap_selects_saved (fun _ _ => rfl) twoSaved_wellFormed rfl scanAndHold_typed 0 workshop (by decide)

theorem saved_changed_by_password :
    let s := run take (fresh twoSaved) scanAndHold
    Changes (.submitted (bytes "correct horse")) s (take s (.submitted (bytes "correct horse"))) :=
  saved_changed_by (fun _ _ => rfl) twoSaved_wellFormed rfl scanAndHold_typed _
    (forall_mem_of_all (by decide))

/-- The network that is in the air is deleted, and the other one stays. -/
theorem delete_removes_selected_workshop :
    (take (run (observed watch take) (some [], fresh twoSaved) scanAndHold).2
      (.answered true)).networks = [{ id := 0, ssid := some (bytes "home") }] := by
  have removed := @delete_removes_selected fmtDebug (fun _ _ => []) (.merge _) twoSaved scanAndHold
    (fun _ _ => rfl) twoSaved_wellFormed rfl scanAndHold_typed [(0, bytes "home"), (3, workshop)]
    (by decide) workshop (by decide) (by decide) (by decide)
  rcases removed with ⟨n, -, -, rest, -⟩ | ⟨absent, -⟩
  · exact rest
  · exact absurd rfl (absent (3, workshop) (by decide))

end Witness

end GrumpyScreen
