import GrumpyScreen.Supplicant

/-! The Wi-Fi panel: what it lists of a scan, and the commands that add the selected
network with the passphrase. -/

namespace GrumpyScreen

open Lib Lib.Decimal

section Scan

/-- `%02x:%02x:..`. -/
def macText : Bytes → Bytes
  | [] => []
  | [b] => hexPair b
  | b :: rest => hexPair b ++ 58 :: macText rest

/-- A scanned network; `flags` is what its elements are printed as. -/
structure Bss where
  bssid : Bytes
  freq : Int32
  level : Int32
  flags : Bytes
  ssid : Bytes
  p2p : Bool := false
  plainFlags : ∀ c ∈ flags, c ≠ 9 ∧ c ≠ 10
  shortSsid : ssid.length ≤ ssidMaxLen
deriving DecidableEq

namespace Bss

/-- A network in P2P listen state is not shown. -/
def Shown (bss : Bss) : Prop := ¬ (bss.p2p = true ∧ bss.ssid = bytes "DIRECT-")

instance : DecidablePred Shown := fun _ => inferInstanceAs (Decidable (¬ (_ ∧ _)))

def line (bss : Bss) : Bytes :=
  macText bss.bssid ++ 9 :: (signed bss.freq.toInt ++ 9 :: (signed bss.level.toInt ++
    9 :: (bss.flags ++ 9 :: wpaSsidTxt bss.ssid)))

/-- `wpa_supplicant_ctrl_iface_scan_result`. -/
def scanResult (bss : Bss) : Bytes := if bss.Shown then bss.line ++ bytes "\n" else []

end Bss

/-- The networks whose lines fit, up to the first that does not. -/
def fitting : Nat → List Bss → List Bss
  | _, [] => []
  | room, bss :: rest =>
    if room ≤ bss.scanResult.length then []
    else bss :: fitting (room - bss.scanResult.length) rest

def scanHeader : Bytes := bytes "bssid / frequency / signal level / flags / ssid\n"

/-- The networks in the reply, which has 4096 bytes. -/
def listed (air : List Bss) : List Bss := fitting (4096 - scanHeader.length) air

/-- `wpa_supplicant_ctrl_iface_scan_results`. -/
def scanResults (air : List Bss) : Bytes := scanHeader ++ (listed air).flatMap Bss.scanResult

end Scan

section Panel

/-- What the panel keeps between events; of the table the first column. -/
structure WifiPanel where
  tableShown : Bool := false
  table : List Bytes := []
  selectedNetwork : Bytes := []
  curNetwork : Bytes := []
  listNetworks : List (Bytes × Bytes) := []
  passwordShown : Bool := false
deriving DecidableEq, Repr

/-- The supplicant and the commands sent to it. -/
structure Wire where
  supplicant : Supplicant
  sent : List Bytes := []
deriving DecidableEq, Repr

/-- `std::stoi`; it throws without a number, and past the range of `int`. -/
def signalLevel (s : Bytes) : Option Int :=
  (strtol (s.takeWhile (· ≠ 0))).filter fun i => -2147483648 ≤ i && i ≤ 2147483647

/-- `WpaEvent::send_command`. -/
def sendCommand (pbkdf2 : Bytes → Bytes → Bytes) (cmd : Bytes) (w : Wire) : Bytes × Wire :=
  let (reply, supplicant) := w.supplicant.process pbkdf2 cmd
  (reply, { supplicant, sent := w.sent ++ [cmd] })

namespace WifiPanel

/-- The entries of a line of `LIST_NETWORKS`; the current one is noted. -/
def listNetwork (p : WifiPanel) (line : Bytes) : WifiPanel :=
  match Text.getlines 9 line with
  | id :: name :: others =>
    let p := { p with listNetworks := p.listNetworks ++ [(name, id)] }
    if others.length = 2 && (Text.search (bytes "[CURRENT]") line).isSome then
      { p with curNetwork := name }
    else p
  | _ => p

/-- `find_current_network`, on the reply to `LIST_NETWORKS`. -/
def findCurrentNetwork (nets : Bytes) (p : WifiPanel) : WifiPanel :=
  (Text.getlines 10 nets).foldl listNetwork { p with curNetwork := [], listNetworks := [] }

/-- The name in a line of a scan: the last of five parts, if the third is a number. -/
def networkName (line : Bytes) : Option Bytes :=
  if (bytes "bss").isPrefixOf line then none
  else
    match Text.getlines 9 line with
    | [_, _, signal, _, name] => (signalLevel signal).map fun _ => name
    | _ => none

/-- `wifi_name_db.insert`: a name is listed once. -/
def insertName (names : List Bytes) (name : Bytes) : List Bytes :=
  if name ∈ names then names else names ++ [name]

def scanNames (reply : Bytes) : List Bytes :=
  ((Text.getlines 10 reply).filterMap networkName).foldl insertName []

/-- `handle_wpa_event` when a scan is over; a cell holds a C string. -/
def handleScanResults (nets reply : Bytes) (p : WifiPanel) : WifiPanel :=
  let p := p.findCurrentNetwork nets
  let names := scanNames reply
  let p := if names = [] then { p with tableShown := false }
    else { p with tableShown := true, table := names.map fun name => name.takeWhile (· ≠ 0) }
  if p.curNetwork ≠ [] && p.curNetwork ∈ names then { p with passwordShown := false } else p

variable (debug : Bytes → Bytes) (pbkdf2 : Bytes → Bytes → Bytes)

/-- `handle_callback`: a row was selected. -/
def handleCallback (row : Nat) (nets : Bytes) (p : WifiPanel) (w : Wire) : WifiPanel × Wire :=
  match p.table[row]? with
  | none => (p, w)
  | some name =>
    let p := { p with selectedNetwork := name }.findCurrentNetwork nets
    if p.curNetwork ≠ [] && p.curNetwork = p.selectedNetwork then
      ({ p with passwordShown := false }, w)
    else
      match p.listNetworks.lookup p.selectedNetwork with
      | some nid =>
        let w := (sendCommand pbkdf2 (bytes "SELECT_NETWORK " ++ nid) w).2
        (p, (sendCommand pbkdf2 (bytes "SAVE_CONFIG") w).2)
      | none => ({ p with passwordShown := true }, w)

/-- The commands of `connect` behind `ADD_NETWORK`; `debug` is the `{:?}` of fmt. -/
def joinCommands (password nid : Bytes) (p : WifiPanel) : List Bytes :=
  [bytes "SET_NETWORK " ++ nid ++ bytes " ssid " ++ debug p.selectedNetwork,
    bytes "SET_NETWORK " ++ nid ++ bytes " psk " ++ debug password,
    bytes "ENABLE_NETWORK " ++ nid,
    bytes "SELECT_NETWORK " ++ nid,
    bytes "SAVE_CONFIG"]

def connect (password : Bytes) (p : WifiPanel) (w : Wire) : Wire :=
  let (nid, w) := sendCommand pbkdf2 (bytes "ADD_NETWORK") w
  if 0 < nid.length then
    (p.joinCommands debug password nid).foldl (fun w cmd => (sendCommand pbkdf2 cmd w).2) w
  else w

/-- `handle_kb_input`: the passphrase was submitted. -/
def submit (password : Bytes) (p : WifiPanel) (w : Wire) : WifiPanel × Wire :=
  if password = [] then (p, w)
  else ({ p with passwordShown := false }, p.connect debug pbkdf2 password w)

end WifiPanel

end Panel

section Refusal

variable (debug : Bytes → Bytes) (pbkdf2 : Bytes → Bytes → Bytes)

theorem sent_of_commands (commands : List Bytes) (w : Wire) :
    (commands.foldl (fun w cmd => (sendCommand pbkdf2 cmd w).2) w).sent = w.sent ++ commands := by
  induction commands generalizing w with
  | nil => exact (List.append_nil _).symm
  | cons cmd rest ih =>
    rw [List.foldl_cons, ih, sendCommand, List.append_assoc]
    rfl

/-- A refused `ADD_NETWORK` leaves the networks and the file alone exactly if nothing at all
was answered. -/
theorem connect_refused (p : WifiPanel) (password : Bytes) (s : Supplicant) (reply : Bytes) :
    let w := p.connect debug pbkdf2 password { supplicant := { s with refusal := some reply } }
    (w.supplicant.networks = s.networks ∧ bytes "SAVE_CONFIG" ∉ w.sent) ↔ reply = [] := by
  intro w
  have added : sendCommand pbkdf2 (bytes "ADD_NETWORK")
      { supplicant := { s with refusal := some reply } } =
        (reply, { supplicant := { s with refusal := some reply }, sent := [bytes "ADD_NETWORK"] }) := by
    rw [sendCommand, Supplicant.process_add]
    rfl
  cases reply with
  | nil =>
    have quiet : w =
        { supplicant := { s with refusal := some [] }, sent := [bytes "ADD_NETWORK"] } := by
      unfold w WifiPanel.connect
      rw [added]
      rfl
    rw [quiet]
    have other : bytes "SAVE_CONFIG" ∉ [bytes "ADD_NETWORK"] := by decide
    exact iff_of_true ⟨rfl, other⟩ rfl
  | cons c rest =>
    have sent : w.sent = [bytes "ADD_NETWORK"] ++ p.joinCommands debug password (c :: rest) := by
      unfold w WifiPanel.connect
      rw [added]
      exact sent_of_commands pbkdf2 _ _
    refine iff_of_false (fun kept => kept.2 ?_) (List.cons_ne_nil c rest)
    rw [sent]
    simp [WifiPanel.joinCommands]

/-- The `{:?}` of fmt on printable text. -/
def debugEscaping : Escaping UInt8 where
  code b := if b = 34 ∨ b = 92 then [92, b] else [b]
  longer b := by
    split
    · exact Or.inr (Nat.lt_succ_self 1)
    · exact Or.inl rfl

def fmtDebug (s : Bytes) : Bytes := 34 :: (debugEscaping.encode s ++ [34])

/-- With `FAIL` the network the printer was on is overwritten and saved. -/
theorem connect_failed :
    ¬ ∀ (p : WifiPanel) (password : Bytes) (s : Supplicant) (reply : Bytes),
      let w := p.connect fmtDebug (fun _ _ => []) password
        { supplicant := { s with refusal := some reply } }
      w.supplicant.networks = s.networks ∧ bytes "SAVE_CONFIG" ∉ w.sent := by
  intro always
  have kept := always { selectedNetwork := bytes "guest" } (bytes "welcome1")
    { networks := [{ id := 0, ssid := some (bytes "home"), passphrase := some (bytes "kept secret") }] }
    (bytes "FAIL\n")
  exact absurd kept.1 (by decide)

end Refusal

end GrumpyScreen
