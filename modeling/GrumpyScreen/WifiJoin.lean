import GrumpyScreen.Wifi

/-! From a scan to a network of the supplicant: the row of a scanned network, and the
credentials it is added with. -/

namespace GrumpyScreen

open Lib Lib.Decimal WifiPanel

section Rows

theorem printable_ne {c : UInt8} (printable : Printable c) : c ≠ 0 ∧ c ≠ 9 ∧ c ≠ 10 := by
  refine ⟨?_, ?_, ?_⟩ <;> rintro rfl <;> exact absurd printable (by decide)

theorem macText_printable (bssid : Bytes) : ∀ c ∈ macText bssid, Printable c := by
  fun_induction macText bssid with
  | case1 => exact List.forall_mem_nil _
  | case2 b => exact hexPair_printable b
  | case3 b rest _ ih =>
    refine List.forall_mem_append.mpr ⟨hexPair_printable b, ?_⟩
    exact List.forall_mem_cons.mpr ⟨by decide, ih⟩

theorem macText_apart (bssid rest : Bytes) :
    (bytes "bss").isPrefixOf (macText bssid ++ 9 :: rest) = false := by
  have digits : ∀ n : Fin 16, hexDigit n ≠ 115 := by decide
  cases bssid with
  | nil => rfl
  | cons b others =>
    have size := b.toNat_lt
    have second : (115 == hexDigit (b.toNat % 16)) = false :=
      beq_false_of_ne (Ne.symm (digits ⟨b.toNat % 16, by omega⟩))
    obtain ⟨tail, shape⟩ : ∃ tail, macText (b :: others) = hexPair b ++ tail := by
      cases others with
      | nil => exact ⟨[], (List.append_nil _).symm⟩
      | cons _ _ => exact ⟨_, rfl⟩
    rw [shape]
    show (98 == hexDigit (b.toNat / 16) && (115 == hexDigit (b.toNat % 16) && _)) = false
    rw [second, Bool.false_and, Bool.and_false]

theorem signed_plain (i : Int) : 9 ∉ signed i ∧ 10 ∉ signed i :=
  ⟨not_mem_signed (by decide) i, not_mem_signed (by decide) i⟩

theorem signalLevel_signed {i : Int} (range : -2147483648 ≤ i ∧ i ≤ 2147483647) :
    signalLevel (signed i) = some i := by
  have read := strtol_signed i (by rfl : ([] : Bytes).takeWhile isDigit = [])
  rw [List.append_nil] at read
  rw [signalLevel, Supplicant.buffer_eq (not_mem_signed (by decide) i), read]
  simp [Option.filter, range.1, range.2]

namespace Bss

variable (bss : Bss)

theorem ssidTxt_printable : ∀ c ∈ wpaSsidTxt bss.ssid, Printable c := by
  rw [wpaSsidTxt_eq bss.shortSsid]
  exact printf_printable bss.ssid

theorem ssidTxt_nil : wpaSsidTxt bss.ssid = [] ↔ bss.ssid = [] := by
  rw [wpaSsidTxt_eq bss.shortSsid]
  constructor
  · intro empty
    have shorter := printfEscaping.length_le_encode bss.ssid
    rw [empty] at shorter
    exact List.length_eq_zero_iff.mp (Nat.le_zero.mp shorter)
  · intro empty
    rw [empty, Escaping.encode_nil]

theorem line_plain : 10 ∉ bss.line := by
  intro member
  simp only [line, List.mem_append, List.mem_cons] at member
  rcases member with mac | tab | freq | tab | level | tab | flags | tab | name
  · exact (printable_ne (macText_printable bss.bssid 10 mac)).2.2 rfl
  · exact absurd tab (by decide)
  · exact (signed_plain _).2 freq
  · exact absurd tab (by decide)
  · exact (signed_plain _).2 level
  · exact absurd tab (by decide)
  · exact (bss.plainFlags 10 flags).2 rfl
  · exact absurd tab (by decide)
  · exact (printable_ne (bss.ssidTxt_printable 10 name)).2.2 rfl

theorem line_parts : Text.getlines 9 bss.line =
    macText bss.bssid :: signed bss.freq.toInt :: signed bss.level.toInt :: bss.flags ::
      (if bss.ssid = [] then [] else [wpaSsidTxt bss.ssid]) := by
  have mac : 9 ∉ macText bss.bssid := fun member =>
    (printable_ne (macText_printable bss.bssid 9 member)).2.1 rfl
  have flags : 9 ∉ bss.flags := fun member => (bss.plainFlags 9 member).1 rfl
  have name : 9 ∉ wpaSsidTxt bss.ssid := fun member =>
    (printable_ne (bss.ssidTxt_printable 9 member)).2.1 rfl
  rw [line, Text.getlines_line mac, Text.getlines_line (signed_plain _).1,
    Text.getlines_line (signed_plain _).1, Text.getlines_line flags, Text.getlines_last name]
  simp only [bss.ssidTxt_nil]

theorem networkName_line : networkName bss.line =
    if bss.ssid = [] then none else some (wpaSsidTxt bss.ssid) := by
  have level : signalLevel (signed bss.level.toInt) = some bss.level.toInt :=
    signalLevel_signed ⟨bss.level.le_toInt, Int.le_of_lt_add_one bss.level.toInt_lt⟩
  have header : (bytes "bss").isPrefixOf bss.line = false := macText_apart bss.bssid _
  rw [networkName, header, if_neg Bool.false_ne_true, bss.line_parts]
  by_cases hidden : bss.ssid = []
  · rw [if_pos hidden, if_pos hidden]
  · rw [if_neg hidden, if_neg hidden]
    simp only [level, Option.map_some]

end Bss

theorem scan_lines (air : List Bss) :
    Text.getlines 10 (air.flatMap Bss.scanResult) = (air.filter Bss.Shown).map Bss.line := by
  induction air with
  | nil => rfl
  | cons bss rest ih =>
    rw [List.flatMap_cons, Bss.scanResult]
    by_cases shown : bss.Shown
    · have line := Text.getlines_line bss.line_plain (rest.flatMap Bss.scanResult)
      rw [if_pos shown, List.append_assoc, List.filter_cons_of_pos (by simpa using shown),
        List.map_cons, ← ih, ← line]
      rfl
    · rw [if_neg shown, List.nil_append, List.filter_cons_of_neg (by simpa using shown), ih]

theorem mem_insertNames {name : Bytes} (listed names : List Bytes) :
    name ∈ listed.foldl insertName names ↔ name ∈ names ∨ name ∈ listed := by
  induction listed generalizing names with
  | nil => simp
  | cons first rest ih =>
    rw [List.foldl_cons, ih, insertName, List.mem_cons]
    by_cases known : first ∈ names
    · rw [if_pos known]
      grind
    · rw [if_neg known, List.mem_append, List.mem_singleton, or_assoc]

theorem mem_scanNames {air : List Bss} {name : Bytes} :
    name ∈ scanNames (scanResults air) ↔
      ∃ bss ∈ listed air, bss.Shown ∧ bss.ssid ≠ [] ∧ wpaSsidTxt bss.ssid = name := by
  let header := bytes "bssid / frequency / signal level / flags / ssid"
  have first := Text.getlines_line (by decide : 10 ∉ header) ((listed air).flatMap Bss.scanResult)
  have silent : networkName header = none := by decide
  have start : scanHeader = header ++ [10] := by decide
  have lines : Text.getlines 10 (scanResults air) =
      header :: ((listed air).filter Bss.Shown).map Bss.line := by
    rw [scanResults, start, List.append_assoc, List.singleton_append, first, scan_lines]
  rw [scanNames, lines, List.filterMap_cons_none silent, mem_insertNames]
  simp only [List.not_mem_nil, false_or, List.mem_filterMap, List.mem_map, List.mem_filter,
    decide_eq_true_eq]
  constructor
  · rintro ⟨line, ⟨bss, ⟨member, shown⟩, rfl⟩, named⟩
    rw [bss.networkName_line] at named
    by_cases hidden : bss.ssid = []
    · rw [if_pos hidden] at named
      cases named
    · rw [if_neg hidden] at named
      exact ⟨bss, member, shown, hidden, Option.some.inj named⟩
  · rintro ⟨bss, member, shown, named, rfl⟩
    refine ⟨bss.line, ⟨bss, ⟨member, shown⟩, rfl⟩, ?_⟩
    rw [bss.networkName_line, if_neg named]

theorem scanNames_text {air : List Bss} {name : Bytes} (member : name ∈ scanNames (scanResults air)) :
    name.takeWhile (· ≠ 0) = name := by
  obtain ⟨bss, -, -, -, rfl⟩ := mem_scanNames.mp member
  exact Supplicant.buffer_eq fun zero => (printable_ne (bss.ssidTxt_printable 0 zero)).1 rfl

theorem mem_table_iff (p : WifiPanel) (nets : Bytes) (air : List Bss) (name : Bytes) :
    let q := p.handleScanResults nets (scanResults air)
    (q.tableShown = true ∧ name ∈ q.table) ↔ name ∈ scanNames (scanResults air) := by
  intro q
  have rows : (q.tableShown, q.table) = if scanNames (scanResults air) = [] then
      (false, (p.findCurrentNetwork nets).table)
      else (true, (scanNames (scanResults air)).map fun name => name.takeWhile (· ≠ 0)) := by
    simp only [q, handleScanResults]
    split_ifs <;> rfl
  have cells : (scanNames (scanResults air)).map (fun name => name.takeWhile (· ≠ 0)) =
      scanNames (scanResults air) := by
    rw [List.map_congr_left fun name member => scanNames_text member, List.map_id']
  rw [cells] at rows
  by_cases none : scanNames (scanResults air) = []
  · rw [if_pos none] at rows
    have hidden : q.tableShown = false := congrArg Prod.fst rows
    simp [none, hidden]
  · rw [if_neg none] at rows
    have shown : q.tableShown = true := congrArg Prod.fst rows
    have table : q.table = scanNames (scanResults air) := congrArg Prod.snd rows
    rw [shown, table]
    exact and_iff_right rfl

end Rows

section Connect

variable {debug : Bytes → Bytes} {pbkdf2 : Bytes → Bytes → Bytes} {w : Wire}

/-- What `{:?}` writes of printable text. -/
def Quotes (debug : Bytes → Bytes) : Prop :=
  ∀ s : Bytes, (∀ c ∈ s, Printable c) → debug s = fmtDebug s

theorem debug_plain_iff (b : UInt8) : debugEscaping.Plain b ↔ b ≠ 34 ∧ b ≠ 92 := by
  show (if b = 34 ∨ b = 92 then [92, b] else [b]) = [b] ↔ _
  by_cases special : b = 34 ∨ b = 92
  · rw [if_pos special]
    exact iff_of_false (by simp) (by tauto)
  · rw [if_neg special]
    exact iff_of_true rfl (not_or.mp special)

theorem debug_printable {s : Bytes} (printable : ∀ c ∈ s, Printable c) :
    ∀ c ∈ debugEscaping.encode s, Printable c := by
  apply Escaping.forall_mem_encode
  intro b member
  show ∀ c ∈ (if b = 34 ∨ b = 92 then [92, b] else [b]), Printable c
  split
  · exact List.forall_mem_cons.mpr ⟨by decide, List.forall_mem_singleton.mpr (printable b member)⟩
  · exact List.forall_mem_singleton.mpr (printable b member)

theorem fmtDebug_text {s : Bytes} (printable : ∀ c ∈ s, Printable c) : 0 ∉ fmtDebug s := by
  intro zero
  simp only [fmtDebug, List.mem_cons, List.mem_append] at zero
  rcases zero with quote | text | quote | none
  · exact absurd quote (by decide)
  · exact (printable_ne (debug_printable printable 0 text)).1 rfl
  · exact absurd quote (by decide)
  · cases none

theorem send_set {others : List Network} {n : Network} {id : Int} {name value : Bytes}
    (last : w.supplicant.networks = others ++ [n]) (own : n.id = id)
    (fresh : ∀ other ∈ others, other.id ≠ id) (word : 32 ∉ name) (text : 0 ∉ name ∧ 0 ∉ value) :
    (sendCommand pbkdf2 (bytes "SET_NETWORK " ++ (idText id ++ 32 :: (name ++ 32 :: value)))
      w).2.supplicant.networks = others ++ [(updateNetwork pbkdf2 name value n).1] := by
  subst own
  have zero : 0 ∉ idText n.id ++ 32 :: (name ++ 32 :: value) := by
    simp [(idText_plain n.id).2, text.1, text.2]
  rw [sendCommand, Supplicant.process_set zero, Supplicant.answer, last]
  exact setNetwork_new pbkdf2 word value fresh

theorem send_rest {args : Bytes} (text : 0 ∉ args) (w : Wire) :
    ([bytes "ENABLE_NETWORK " ++ args, bytes "SELECT_NETWORK " ++ args,
        bytes "SAVE_CONFIG"].foldl (fun w cmd => (sendCommand pbkdf2 cmd w).2)
      w).supplicant.networks.map Network.credentials =
        w.supplicant.networks.map Network.credentials := by
  have saved : ∀ s : Supplicant, s.saveConfig.2.networks = s.networks := by
    intro s
    unfold Supplicant.saveConfig
    split <;> rfl
  simp only [List.foldl_cons, List.foldl_nil, sendCommand, Supplicant.process_save,
    Supplicant.process_enable text, Supplicant.process_select text, Supplicant.answer, saved]
  rw [selectNetwork_credentials, enableNetwork_credentials]

theorem addNetwork_granted {s : Supplicant} (grants : s.refusal = none) :
    s.addNetwork = (idText (nextId s.networks),
      { s with networks := s.networks ++ [{ id := nextId s.networks, disabled := 1 }] }) := by
  unfold Supplicant.addNetwork
  split
  · rename_i refused
    rw [grants] at refused
    cases refused
  · rfl

theorem connect_networks (quotes : Quotes debug) (p : WifiPanel) {password : Bytes}
    (grants : w.supplicant.refusal = none) (name : ∀ c ∈ p.selectedNetwork, Printable c)
    (typed : ∀ c ∈ password, Printable c) :
    let others := w.supplicant.networks
    let named := (updateNetwork pbkdf2 (bytes "ssid") (fmtDebug p.selectedNetwork)
      { id := nextId others, disabled := 1 }).1
    (p.connect debug pbkdf2 password w).supplicant.networks.map Network.credentials =
      (others ++ [(updateNetwork pbkdf2 (bytes "psk") (fmtDebug password) named).1]).map
        Network.credentials := by
  intro others named
  let n : Network := { id := nextId others, disabled := 1 }
  have fresh : ∀ other ∈ others, other.id ≠ n.id := fun other member =>
    Int.ne_of_lt (nextId_spec others other member)
  have same : named.id = n.id := by
    rw [(updateNetwork_set n pbkdf2 _ _).1, fmtDebug, set_ssid]
    split <;> rfl
  have answered : 0 < (idText n.id).length := by
    rw [idText, List.length_append]
    exact Nat.lt_add_left _ (by decide)
  have setText : ∀ (nid value : Bytes),
      bytes "SET_NETWORK " ++ nid ++ bytes " ssid " ++ value =
        bytes "SET_NETWORK " ++ (nid ++ 32 :: (bytes "ssid" ++ 32 :: value)) ∧
      bytes "SET_NETWORK " ++ nid ++ bytes " psk " ++ value =
        bytes "SET_NETWORK " ++ (nid ++ 32 :: (bytes "psk" ++ 32 :: value)) := by
    have ssid : bytes " ssid " = 32 :: (bytes "ssid" ++ [32]) := by decide
    have psk : bytes " psk " = 32 :: (bytes "psk" ++ [32]) := by decide
    intro nid value
    rw [ssid, psk]
    simp only [List.append_assoc, List.cons_append, List.nil_append, and_self]
  let granted : Wire :=
    ⟨{ w.supplicant with networks := others ++ [n] }, w.sent ++ [bytes "ADD_NETWORK"]⟩
  have added : sendCommand pbkdf2 (bytes "ADD_NETWORK") w = (idText n.id, granted) := by
    rw [sendCommand, Supplicant.process_add, addNetwork_granted grants]
  have joined : p.connect debug pbkdf2 password w =
      (p.joinCommands debug password (idText n.id)).foldl
        (fun w cmd => (sendCommand pbkdf2 cmd w).2) granted := by
    rw [connect, added]
    exact if_pos answered
  rw [joined, joinCommands, List.foldl_cons, List.foldl_cons, send_rest (idText_plain n.id).2,
    quotes _ name, quotes _ typed, (setText _ _).1, (setText _ _).2]
  congr 1
  have first : (sendCommand pbkdf2 (bytes "SET_NETWORK " ++
      (idText n.id ++ 32 :: (bytes "ssid" ++ 32 :: fmtDebug p.selectedNetwork)))
      granted).2.supplicant.networks = others ++ [named] :=
    send_set rfl rfl fresh (by decide) ⟨by decide, fmtDebug_text name⟩
  exact send_set first same fresh (by decide) ⟨by decide, fmtDebug_text typed⟩

theorem connect_credentials (quotes : Quotes debug) (p : WifiPanel) {password : Bytes}
    (grants : w.supplicant.refusal = none) (name : ∀ c ∈ p.selectedNetwork, Printable c)
    (typed : ∀ c ∈ password, Printable c) :
    let ssid := debugEscaping.encode p.selectedNetwork
    let phrase := debugEscaping.encode password
    ((p.connect debug pbkdf2 password w).supplicant.networks.map Network.credentials).getLast? =
      some (if ssid.length ≤ ssidMaxLen then some ssid else none,
        if IsPassphrase phrase then some phrase else none) := by
  intro ssid phrase
  let n : Network := { id := nextId w.supplicant.networks, disabled := 1 }
  let named := (updateNetwork pbkdf2 (bytes "ssid") (fmtDebug p.selectedNetwork) n).1
  have first := updateNetwork_set n pbkdf2 (bytes "ssid") (fmtDebug p.selectedNetwork)
  have second := updateNetwork_set named pbkdf2 (bytes "psk") (fmtDebug password)
  have field := set_ssid ssid n
  have key := set_psk phrase named
  have plain : named.passphrase = none := by
    rw [first.2.2, fmtDebug, field]
    split <;> rfl
  have name' : named.ssid = if ssid.length ≤ ssidMaxLen then some ssid else none := by
    rw [first.2.1, fmtDebug, field]
    split <;> rfl
  rw [connect_networks quotes p grants name typed, List.map_append, List.map_singleton,
    List.getLast?_concat, Network.credentials, second.2.1, second.2.2, fmtDebug, key.2.1, key.2.2,
    plain, name']

theorem connect_exact (quotes : Quotes debug) (p : WifiPanel) {ssid password : Bytes}
    (grants : w.supplicant.refusal = none) (name : ∀ c ∈ p.selectedNetwork, Printable c)
    (short : ssid.length ≤ ssidMaxLen) (typed : ∀ c ∈ password, Printable c)
    (length : 8 ≤ password.length ∧ password.length ≤ 63) :
    ((p.connect debug pbkdf2 password w).supplicant.networks.map Network.credentials).getLast? =
        some (some ssid, some password) ↔
      debugEscaping.encode p.selectedNetwork = ssid ∧
        debugEscaping.encode password = password := by
  have control : hasCtrlChar password = false := by
    refine List.any_eq_false.mpr fun c member => ?_
    have printable := typed c member
    have top : c ≠ 127 := by
      rintro rfl
      exact absurd printable (by decide)
    simp [top, UInt8.not_lt.mpr printable.1]
  have taken : IsPassphrase password := ⟨length.1, length.2, control⟩
  rw [connect_credentials quotes p grants name typed, Option.some.injEq, Prod.mk.injEq,
    Option.ite_none_right_eq_some, Option.ite_none_right_eq_some, Option.some.injEq,
    Option.some.injEq]
  refine and_congr (and_iff_right_of_imp fun same => ?_) (and_iff_right_of_imp fun same => ?_)
  · rw [same]
    exact short
  · rw [same]
    exact taken

end Connect

section Joins

variable (debug : Bytes → Bytes) (pbkdf2 : Bytes → Bytes → Bytes)

/-- The last network of the supplicant once a row was selected and a passphrase submitted. -/
def added (row : Nat) (nets password : Bytes) (p : WifiPanel) (w : Wire) :
    Option (Option Bytes × Option Bytes) :=
  let (p, w) := p.handleCallback pbkdf2 row nets w
  let (_, w) := p.submit debug pbkdf2 password w
  (w.supplicant.networks.map Network.credentials).getLast?

/-- Scanning, selecting the row of the network and submitting the passphrase adds a network
with the very SSID and the very passphrase. -/
def Joins (nets nets' : Bytes) (air : List Bss) (bss : Bss) (password : Bytes) (p : WifiPanel)
    (w : Wire) : Prop :=
  let q := p.handleScanResults nets (scanResults air)
  ∃ row, q.tableShown = true ∧ q.table[row]? = some (wpaSsidTxt bss.ssid) ∧
    added debug pbkdf2 row nets' password q w = some (some bss.ssid, some password)

theorem findCurrentNetwork_selected (nets : Bytes) (p : WifiPanel) :
    (p.findCurrentNetwork nets).selectedNetwork = p.selectedNetwork := by
  have step : ∀ (p : WifiPanel) (line : Bytes),
      (p.listNetwork line).selectedNetwork = p.selectedNetwork := by
    intro p line
    unfold listNetwork
    split
    · simp only
      split <;> rfl
    · rfl
  have fold : ∀ (lines : List Bytes) (p : WifiPanel),
      (lines.foldl listNetwork p).selectedNetwork = p.selectedNetwork := by
    intro lines
    induction lines with
    | nil => exact fun _ => rfl
    | cons line rest ih => exact fun p => (ih (p.listNetwork line)).trans (step p line)
  exact fold _ _

theorem handleCallback_selected {p : WifiPanel} {row : Nat} {name : Bytes}
    (cell : p.table[row]? = some name) (nets : Bytes) (w : Wire) :
    let selected := p.handleCallback pbkdf2 row nets w
    selected.1.selectedNetwork = name ∧
      selected.2.supplicant.refusal = w.supplicant.refusal := by
  have kept := findCurrentNetwork_selected nets { p with selectedNetwork := name }
  simp only [WifiPanel.handleCallback, cell]
  split
  · exact ⟨kept, rfl⟩
  · split
    · refine ⟨kept, ?_⟩
      simp only [sendCommand, Supplicant.process_refusal]
    · exact ⟨kept, rfl⟩

variable {debug pbkdf2}

theorem row_iff {air : List Bss} {bss : Bss} (reported : bss ∈ listed air ∧ bss.Shown) :
    wpaSsidTxt bss.ssid ∈ scanNames (scanResults air) ↔ bss.ssid ≠ [] := by
  rw [mem_scanNames]
  constructor
  · rintro ⟨other, -, -, named, same⟩ hidden
    rw [bss.ssidTxt_nil.mpr hidden] at same
    exact named (other.ssidTxt_nil.mp same)
  · exact fun named => ⟨bss, reported.1, reported.2, named, rfl⟩

theorem quoted_name_iff (bss : Bss) :
    debugEscaping.encode (wpaSsidTxt bss.ssid) = bss.ssid ↔
      ∀ c ∈ bss.ssid, Printable c ∧ c ≠ 34 ∧ c ≠ 92 := by
  rw [wpaSsidTxt_eq bss.shortSsid, Escaping.encode_encode_eq_self_iff]
  simp only [printf_plain_iff, debug_plain_iff]
  exact and_iff_left_of_imp fun plain c member => (plain c member).2

theorem added_iff (quotes : Quotes debug) {p : WifiPanel} {w : Wire} {row : Nat} {bss : Bss}
    (cell : p.table[row]? = some (wpaSsidTxt bss.ssid)) (nets : Bytes) {password : Bytes}
    (length : 8 ≤ password.length ∧ password.length ≤ 63)
    (typed : ∀ c ∈ password, Printable c) (grants : w.supplicant.refusal = none) :
    added debug pbkdf2 row nets password p w = some (some bss.ssid, some password) ↔
      (∀ c ∈ bss.ssid, Printable c ∧ c ≠ 34 ∧ c ≠ 92) ∧ ∀ c ∈ password, c ≠ 34 ∧ c ≠ 92 := by
  obtain ⟨name, refusal⟩ := handleCallback_selected pbkdf2 cell nets w
  have nonempty : password ≠ [] := by
    rintro rfl
    exact absurd length.1 (by decide)
  have printable := bss.ssidTxt_printable
  rw [← name] at printable
  rw [added]
  simp only [submit, if_neg nonempty]
  rw [connect_exact quotes _ (refusal.trans grants) printable bss.shortSsid typed length, name,
    quoted_name_iff, Escaping.encode_eq_self_iff]
  simp only [debug_plain_iff]

/-- A scanned network is joined as it is exactly if it has a name of printable characters,
and neither the name nor the passphrase has a quote or a backslash. -/
theorem joins_iff (quotes : Quotes debug) (nets nets' : Bytes) {air : List Bss} {bss : Bss}
    (reported : bss ∈ listed air ∧ bss.Shown) {password : Bytes}
    (length : 8 ≤ password.length ∧ password.length ≤ 63)
    (typed : ∀ c ∈ password, Printable c) (p : WifiPanel) {w : Wire}
    (grants : w.supplicant.refusal = none) :
    Joins debug pbkdf2 nets nets' air bss password p w ↔
      bss.ssid ≠ [] ∧ (∀ c ∈ bss.ssid, Printable c ∧ c ≠ 34 ∧ c ≠ 92) ∧
        ∀ c ∈ password, c ≠ 34 ∧ c ≠ 92 := by
  obtain ⟨unlist, list⟩ := mem_table_iff p nets air (wpaSsidTxt bss.ssid)
  rw [row_iff reported] at unlist list
  constructor
  · rintro ⟨row, shown, cell, joined⟩
    exact ⟨unlist ⟨shown, List.mem_of_getElem? cell⟩,
      (added_iff quotes cell nets' length typed grants).mp joined⟩
  · rintro ⟨named, plain⟩
    obtain ⟨shown, member⟩ := list named
    obtain ⟨row, cell⟩ := List.mem_iff_getElem?.mp member
    exact ⟨row, shown, cell, (added_iff quotes cell nets' length typed grants).mpr plain⟩

end Joins

/-- A network of the name, as the only one in the air. -/
def lone (ssid : Bytes) (short : ssid.length ≤ ssidMaxLen) : Bss where
  bssid := [0, 17, 34, 51, 68, 85]
  freq := 2437
  level := -51
  flags := bytes "[WPA2-PSK-CCMP][ESS]"
  ssid := ssid
  plainFlags := forall_mem_of_all (by decide)
  shortSsid := short

theorem joins_workshop :
    let bss := lone (bytes "Workshop 2.4") (by decide)
    Joins fmtDebug (fun _ _ => []) [] [] [bss] bss (bytes "correct horse") {} { supplicant := {} } :=
  (joins_iff (fun _ _ => rfl) [] [] (by decide) (by decide) (forall_mem_of_all (by decide)) {}
    rfl).mpr ⟨by decide, forall_mem_of_all (by decide), forall_mem_of_all (by decide)⟩

/-- An SSID in UTF-8 is stored as the escapes that the scan printed, each backslash doubled. -/
theorem cafe_not_joined :
    ¬ ∀ (nets nets' : Bytes) (air : List Bss) (bss : Bss), bss ∈ listed air ∧ bss.Shown →
      ∀ password : Bytes, 8 ≤ password.length ∧ password.length ≤ 63 →
        (∀ c ∈ password, Printable c) → ∀ (p : WifiPanel) (w : Wire), w.supplicant.refusal = none →
          Joins fmtDebug (fun _ _ => []) nets nets' air bss password p w := by
  intro always
  let bss := lone (bytes "Caf" ++ [195, 169]) (by decide)
  have typed : ∀ c ∈ bytes "correct horse", Printable c := forall_mem_of_all (by decide)
  obtain ⟨row, -, cell, joined⟩ := always [] [] [bss] bss (by decide) (bytes "correct horse")
    (by decide) typed {} { supplicant := {} } rfl
  have name := ((added_iff (fun _ _ => rfl) cell [] (by decide) typed rfl).mp joined).1
  exact absurd (name 195 (by decide)).1 (by decide)

end GrumpyScreen
