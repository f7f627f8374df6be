import GrumpyScreen.SsidText
import GrumpyScreen.Lib.Decimal
import GrumpyScreen.Lib.Text

/-! wpa_supplicant behind its control socket: the networks it knows, and what the
commands that the panel sends do to them. -/

namespace GrumpyScreen

open Lib Lib.Decimal

/-- `struct wpa_ssid`, as far as these commands reach. -/
structure Network where
  id : Int
  ssid : Option Bytes := none
  passphrase : Option Bytes := none
  psk : Bytes := List.replicate 32 0
  pskSet : Bool := false
  -- 0 enabled, 1 disabled, 2 a persistent P2P group
  disabled : Nat := 0
deriving DecidableEq, Repr

/-- `ADD_NETWORK` is refused with the text, if there is one: no memory, no answer. -/
structure Supplicant where
  networks : List Network := []
  updateConfig : Bool := true
  file : List Network := []
  refusal : Option Bytes := none
deriving DecidableEq, Repr

section Values

def hex2byte : Bytes → Option UInt8
  | high :: low :: _ =>
    match hex2num high, hex2num low with
    | some h, some l => some (UInt8.ofNat (16 * h + l))
    | _, _ => none
  | _ => none

/-- The bytes written, and whether they are all there. -/
def hexstr2bin : Nat → Bytes → Bytes × Bool
  | 0, _ => ([], true)
  | len + 1, hex =>
    match hex2byte hex with
    | none => ([], false)
    | some b =>
      let (later, whole) := hexstr2bin len (hex.drop 2)
      (b :: later, whole)

/-- What stands between an opening quote and the last one, which ends the value. -/
def quotedBytes (s : Bytes) : Option Bytes :=
  if s.getLast? = some 34 then some s.dropLast else none

def wpaConfigParseString (value : Bytes) : Option Bytes :=
  match value.dropPrefix? [34], value.dropPrefix? [80, 34] with
  | some rest, _ => quotedBytes rest
  | none, some rest => (quotedBytes rest).map fun s => printfDecode (s.length + 1) s
  | none, none =>
    if value.length % 2 = 1 then none
    else
      let (s, whole) := hexstr2bin (value.length / 2) value
      if whole then some s else none

/-- The field `ssid`: a string of at most `SSID_MAX_LEN` bytes. -/
def wpaConfigParseSsid (value : Bytes) (n : Network) : Network × Bool :=
  if value = bytes "NULL" then ({ n with ssid := none }, true)
  else
    match wpaConfigParseString value with
    | none => (n, false)
    | some s => if ssidMaxLen < s.length then (n, false) else ({ n with ssid := some s }, true)

def hasCtrlChar (s : Bytes) : Bool := s.any fun c => c < 32 || c = 127

/-- The field `psk`: a passphrase in quotes, up to the last one if there is any, or a key
in hexadecimal, which is written over the old one as far as it can be read. -/
def wpaConfigParsePsk (value : Bytes) (n : Network) : Network × Bool :=
  match value.dropPrefix? [34] with
  | some rest =>
    let phrase :=
      match Text.findLastOf (· = 34) rest with
      | some pos => rest.take pos
      | none => rest
    if phrase.length < 8 || 63 < phrase.length || hasCtrlChar phrase then (n, false)
    else if n.passphrase = some phrase then (n, true)
    else ({ n with passphrase := some phrase, pskSet := false }, true)
  | none =>
    let (written, whole) := hexstr2bin 32 value
    let n := { n with psk := written ++ n.psk.drop written.length }
    if !whole || 64 < value.length then (n, false)
    else ({ n with passphrase := none, pskSet := true }, true)

/-- The fields by name; the others hold nothing that is kept here. -/
def wpaConfigSet (name value : Bytes) (n : Network) : Network × Bool :=
  if name = bytes "ssid" then wpaConfigParseSsid value n
  else if name = bytes "psk" then wpaConfigParsePsk value n
  else (n, true)

variable (pbkdf2 : Bytes → Bytes → Bytes)

/-- `wpa_config_update_psk`: the key of a passphrase and an SSID. -/
def wpaConfigUpdatePsk (n : Network) : Network :=
  { n with psk := pbkdf2 (n.passphrase.getD []) (n.ssid.getD []), pskSet := true }

/-- `wpa_supplicant_ctrl_iface_update_network`. -/
def updateNetwork (name value : Bytes) (n : Network) : Network × Bool :=
  let (m, valid) := wpaConfigSet name value n
  if !valid || m = n then (m, valid)
  else if name = bytes "psk" && value.head? = some 34 && !(m.ssid.getD []).isEmpty ||
      name = bytes "ssid" && m.passphrase.isSome then (wpaConfigUpdatePsk pbkdf2 m, true)
  else (m, true)

end Values

section Commands

/-- `wpa_config_add_network`: one more than the largest id. -/
def nextId (networks : List Network) : Int :=
  networks.foldl (fun id n => if id < n.id then n.id else id) (-1) + 1

/-- The first network of the id, changed in place. -/
def atNetwork (id : Int) (f : Network → Network) : List Network → List Network
  | [] => []
  | n :: rest => if n.id = id then f n :: rest else n :: atNetwork id f rest

/-- `wpa_config_get_network`. -/
def getNetwork (id : Int) (networks : List Network) : Option Network :=
  networks.find? fun n => n.id = id

/-- A word up to a blank, and what follows the blank. -/
def splitWord (s : Bytes) : Option (Bytes × Bytes) :=
  match s.dropWhile (· ≠ 32) with
  | [] => none
  | _ :: rest => some (s.takeWhile (· ≠ 32), rest)

/-- `wpa_supplicant_ctrl_iface_set_network`, from the id on. -/
def setNetwork (pbkdf2 : Bytes → Bytes → Bytes) (cmd : Bytes) (networks : List Network) :
    List Network × Bool :=
  match splitWord cmd with
  | none => (networks, false)
  | some (id, assignment) =>
    match splitWord assignment with
    | none => (networks, false)
    | some (name, value) =>
      match getNetwork (atoi id) networks with
      | none => (networks, false)
      | some n =>
        (atNetwork (atoi id) (fun n => (updateNetwork pbkdf2 name value n).1) networks,
          (updateNetwork pbkdf2 name value n).2)

/-- `wpa_supplicant_enable_one_network`. -/
def enableOne (n : Network) : Network :=
  if n.disabled = 0 || n.disabled = 2 then n else { n with disabled := 0 }

/-- `wpa_supplicant_ctrl_iface_enable_network`; ` no-connect` leaves the same flags. -/
def enableNetwork (cmd : Bytes) (networks : List Network) : List Network × Bool :=
  if cmd = bytes "all" then (networks.map enableOne, true)
  else
    match getNetwork (atoi cmd) networks with
    | none => (networks, false)
    | some n =>
      if n.disabled = 2 then (networks, false)
      else (atNetwork (atoi cmd) enableOne networks, true)

/-- `wpa_supplicant_select_network`: all others are disabled; persistent P2P groups stay. -/
def selectOne (id : Option Int) (n : Network) : Network :=
  if n.disabled = 2 then n
  else { n with disabled := if id.all (n.id = ·) then 0 else 1 }

/-- `wpa_supplicant_ctrl_iface_select_network`. -/
def selectNetwork (cmd : Bytes) (networks : List Network) : List Network × Bool :=
  if (bytes "any").isPrefixOf cmd then (networks.map (selectOne none), true)
  else
    match getNetwork (atoi cmd) networks with
    | none => (networks, false)
    | some n =>
      if n.disabled = 2 then (networks, false)
      else (networks.map (selectOne (some (atoi cmd))), true)

namespace Supplicant

variable (s : Supplicant)

/-- `wpa_supplicant_ctrl_iface_add_network`: a new network starts disabled. -/
def addNetwork : Bytes × Supplicant :=
  match s.refusal with
  | some reply => (reply, s)
  | none =>
    let id := nextId s.networks
    (signed id ++ bytes "\n", { s with networks := s.networks ++ [{ id, disabled := 1 }] })

/-- `wpa_supplicant_ctrl_iface_save_config`. -/
def saveConfig : Bytes × Supplicant :=
  if s.updateConfig then (bytes "OK\n", { s with file := s.networks }) else (bytes "FAIL\n", s)

def answer (done : List Network × Bool) : Bytes × Supplicant :=
  (if done.2 then bytes "OK\n" else bytes "FAIL\n", { s with networks := done.1 })

/-- `wpa_supplicant_ctrl_iface_process`, the commands that the panel sends to join a network;
a command with the id of a network fits the buffer that it is received in. -/
def process (pbkdf2 : Bytes → Bytes → Bytes) (cmd : Bytes) : Bytes × Supplicant :=
  let buf := cmd.takeWhile (· ≠ 0)
  if buf = bytes "ADD_NETWORK" then s.addNetwork
  else if buf = bytes "SAVE_CONFIG" then s.saveConfig
  else
    match buf.dropPrefix? (bytes "SET_NETWORK "), buf.dropPrefix? (bytes "ENABLE_NETWORK "),
      buf.dropPrefix? (bytes "SELECT_NETWORK ") with
    | some args, _, _ => s.answer (setNetwork pbkdf2 args s.networks)
    | none, some args, _ => s.answer (enableNetwork args s.networks)
    | none, none, some args => s.answer (selectNetwork args s.networks)
    | none, none, none => (bytes "UNKNOWN COMMAND\n", s)

end Supplicant

end Commands

section NewNetwork

variable {networks : List Network} {n : Network}

theorem nextId_spec (networks : List Network) : ∀ n ∈ networks, n.id < nextId networks := by
  have largest : ∀ (networks : List Network) (id : Int),
      let top := networks.foldl (fun id n => if id < n.id then n.id else id) id
      id ≤ top ∧ ∀ n ∈ networks, n.id ≤ top := by
    intro networks
    induction networks with
    | nil => exact fun id => ⟨Int.le_refl id, List.forall_mem_nil _⟩
    | cons n rest ih =>
      intro id
      obtain ⟨grown, above⟩ := ih (if id < n.id then n.id else id)
      have step : id ≤ (if id < n.id then n.id else id) ∧
          n.id ≤ (if id < n.id then n.id else id) := by
        split <;> omega
      exact ⟨Int.le_trans step.1 grown,
        List.forall_mem_cons.mpr ⟨Int.le_trans step.2 grown, above⟩⟩
  intro n member
  have top := (largest networks (-1)).2 n member
  rw [nextId]
  omega

theorem atNetwork_new (fresh : ∀ other ∈ networks, other.id ≠ n.id) (f : Network → Network) :
    atNetwork n.id f (networks ++ [n]) = networks ++ [f n] := by
  induction networks with
  | nil => simp [atNetwork]
  | cons other rest ih =>
    obtain ⟨differs, later⟩ := List.forall_mem_cons.mp fresh
    rw [List.cons_append, atNetwork, if_neg differs, ih later]
    rfl

theorem getNetwork_new (fresh : ∀ other ∈ networks, other.id ≠ n.id) :
    getNetwork n.id (networks ++ [n]) = some n := by
  have others : networks.find? (fun other => other.id = n.id) = none :=
    List.find?_eq_none.mpr fun other member => by simpa using fresh other member
  rw [getNetwork, List.find?_append, others]
  simp

theorem splitWord_append {word : Bytes} (absent : 32 ∉ word) (rest : Bytes) :
    splitWord (word ++ 32 :: rest) = some (word, rest) := by
  have plain : ∀ c ∈ word, decide (c ≠ 32) = true := fun c member =>
    decide_eq_true fun same => absent (same ▸ member)
  simp only [splitWord, List.dropWhile_append_of_pos plain, List.takeWhile_append_of_pos plain]
  simp

/-- The id as the supplicant told it, the line end included. -/
def idText (id : Int) : Bytes := signed id ++ bytes "\n"

theorem atoi_idText (id : Int) : atoi (idText id) = id := by
  rw [atoi, idText, strtol_signed id (by decide)]
  rfl

theorem idText_plain (id : Int) : 32 ∉ idText id ∧ 0 ∉ idText id := by
  constructor
  · intro member
    rcases List.mem_append.mp member with digits | line
    · exact not_mem_signed (by decide) id digits
    · exact absurd line (by decide)
  · intro member
    rcases List.mem_append.mp member with digits | line
    · exact not_mem_signed (by decide) id digits
    · exact absurd line (by decide)

theorem setNetwork_new (pbkdf2 : Bytes → Bytes → Bytes) {name : Bytes} (word : 32 ∉ name)
    (value : Bytes) (fresh : ∀ other ∈ networks, other.id ≠ n.id) :
    (setNetwork pbkdf2 (idText n.id ++ 32 :: (name ++ 32 :: value)) (networks ++ [n])).1 =
      networks ++ [(updateNetwork pbkdf2 name value n).1] := by
  simp only [setNetwork, splitWord_append (idText_plain n.id).1, splitWord_append word,
    atoi_idText, getNetwork_new fresh, atNetwork_new fresh]

end NewNetwork

section Credentials

/-- What a network is joined by. -/
def Network.credentials (n : Network) : Option Bytes × Option Bytes := (n.ssid, n.passphrase)

theorem atNetwork_credentials {f : Network → Network}
    (same : ∀ n, (f n).credentials = n.credentials) (id : Int) (networks : List Network) :
    (atNetwork id f networks).map Network.credentials = networks.map Network.credentials := by
  induction networks with
  | nil => rfl
  | cons n rest ih =>
    rw [atNetwork]
    split
    · rw [List.map_cons, same, List.map_cons]
    · rw [List.map_cons, ih, List.map_cons]

theorem map_credentials {f : Network → Network} (same : ∀ n, (f n).credentials = n.credentials)
    (networks : List Network) :
    (networks.map f).map Network.credentials = networks.map Network.credentials := by
  rw [List.map_map]
  exact List.map_congr_left fun n _ => same n

theorem enableOne_credentials (n : Network) : (enableOne n).credentials = n.credentials := by
  unfold enableOne
  split <;> rfl

theorem selectOne_credentials (id : Option Int) (n : Network) :
    (selectOne id n).credentials = n.credentials := by
  unfold selectOne
  split <;> rfl

theorem enableNetwork_credentials (cmd : Bytes) (networks : List Network) :
    (enableNetwork cmd networks).1.map Network.credentials =
      networks.map Network.credentials := by
  unfold enableNetwork
  split
  · exact map_credentials enableOne_credentials networks
  · split
    · rfl
    · split
      · rfl
      · exact atNetwork_credentials enableOne_credentials _ networks

theorem selectNetwork_credentials (cmd : Bytes) (networks : List Network) :
    (selectNetwork cmd networks).1.map Network.credentials =
      networks.map Network.credentials := by
  unfold selectNetwork
  split
  · exact map_credentials (selectOne_credentials none) networks
  · split
    · rfl
    · split
      · rfl
      · exact map_credentials (selectOne_credentials _) networks

end Credentials

section Quoted

variable (body : Bytes) (n : Network)

theorem dropPrefix_quote : (34 :: (body ++ [34])).dropPrefix? [34] = some (body ++ [34]) :=
  List.dropPrefix?_append_of_beq (body ++ [34]) (by decide : ([34] : Bytes) == [34])

theorem quotedBytes_append : quotedBytes (body ++ [34]) = some body := by
  simp [quotedBytes]

theorem parseString_quoted : wpaConfigParseString (34 :: (body ++ [34])) = some body := by
  rw [wpaConfigParseString, dropPrefix_quote]
  exact quotedBytes_append body

theorem updateNetwork_set (pbkdf2 : Bytes → Bytes → Bytes) (name value : Bytes) :
    let m := (updateNetwork pbkdf2 name value n).1
    let set := (wpaConfigSet name value n).1
    m.id = set.id ∧ m.ssid = set.ssid ∧ m.passphrase = set.passphrase := by
  simp only [updateNetwork]
  split
  · exact ⟨rfl, rfl, rfl⟩
  · split <;> exact ⟨rfl, rfl, rfl⟩

theorem set_ssid :
    (wpaConfigSet (bytes "ssid") (34 :: (body ++ [34])) n).1 =
      if body.length ≤ ssidMaxLen then { n with ssid := some body } else n := by
  have text : 34 :: (body ++ [34]) ≠ bytes "NULL" := fun same => by
    have head : some (34 : UInt8) = some 78 := congrArg List.head? same
    exact absurd head (by decide)
  simp only [wpaConfigSet, if_pos, wpaConfigParseSsid, if_neg text, parseString_quoted]
  by_cases short : body.length ≤ ssidMaxLen
  · rw [if_neg (Nat.not_lt.mpr short), if_pos short]
  · rw [if_pos (Nat.not_le.mp short), if_neg short]

/-- A passphrase that is taken. -/
def IsPassphrase (s : Bytes) : Prop := 8 ≤ s.length ∧ s.length ≤ 63 ∧ hasCtrlChar s = false

instance (s : Bytes) : Decidable (IsPassphrase s) := inferInstanceAs (Decidable (_ ∧ _))

theorem set_psk :
    let m := (wpaConfigSet (bytes "psk") (34 :: (body ++ [34])) n).1
    m.id = n.id ∧ m.ssid = n.ssid ∧
      m.passphrase = if IsPassphrase body then some body else n.passphrase := by
  have last : Text.findLastOf (fun c => decide (c = 34)) (body ++ [34]) = some body.length := by
    simp [Text.findLastOf, List.findIdx?_cons]
  have other : bytes "psk" ≠ bytes "ssid" := by decide
  have refused : (body.length < 8 || 63 < body.length || hasCtrlChar body) = true ↔
      ¬ IsPassphrase body := by
    simp only [IsPassphrase, Bool.or_eq_true, decide_eq_true_eq]
    cases hasCtrlChar body with
    | true => simp
    | false =>
      simp
      omega
  simp only [wpaConfigSet, if_neg other, if_pos, wpaConfigParsePsk, dropPrefix_quote, last,
    List.take_left]
  by_cases taken : IsPassphrase body
  · rw [if_neg fun bad => refused.mp bad taken, if_pos taken]
    by_cases same : n.passphrase = some body
    · rw [if_pos same]
      exact ⟨rfl, rfl, same⟩
    · rw [if_neg same]
      exact ⟨rfl, rfl, rfl⟩
  · rw [if_pos (refused.mpr taken), if_neg taken]
    exact ⟨rfl, rfl, rfl⟩

end Quoted

section Process

namespace Supplicant

variable {s : Supplicant} {pbkdf2 : Bytes → Bytes → Bytes} {args : Bytes}

theorem buffer_eq {cmd : Bytes} (text : 0 ∉ cmd) : cmd.takeWhile (· ≠ 0) = cmd :=
  Text.takeWhile_absent text

theorem command_ne {word other : Bytes} (i : Nat) (apart : i < word.length ∧ word[i]? ≠ other[i]?) :
    word ++ args ≠ other := by
  rintro rfl
  exact apart.2 (List.getElem?_append_left apart.1).symm

theorem command_buffer {word : Bytes} (plain : 0 ∉ word) (text : 0 ∉ args) :
    (word ++ args).takeWhile (· ≠ 0) = word ++ args :=
  buffer_eq fun member => (List.mem_append.mp member).elim plain text

theorem process_set (text : 0 ∉ args) :
    s.process pbkdf2 (bytes "SET_NETWORK " ++ args) =
      s.answer (setNetwork pbkdf2 args s.networks) := by
  have own : (bytes "SET_NETWORK " ++ args).dropPrefix? (bytes "SET_NETWORK ") = some args :=
    List.dropPrefix?_append_of_beq args (by decide)
  simp only [process, command_buffer (by decide : 0 ∉ bytes "SET_NETWORK ") text,
    if_neg (command_ne 0 (by decide) : bytes "SET_NETWORK " ++ args ≠ bytes "ADD_NETWORK"),
    if_neg (command_ne 1 (by decide) : bytes "SET_NETWORK " ++ args ≠ bytes "SAVE_CONFIG"), own]

theorem process_enable (text : 0 ∉ args) :
    s.process pbkdf2 (bytes "ENABLE_NETWORK " ++ args) =
      s.answer (enableNetwork args s.networks) := by
  have other : (bytes "ENABLE_NETWORK " ++ args).dropPrefix? (bytes "SET_NETWORK ") = none := rfl
  have own : (bytes "ENABLE_NETWORK " ++ args).dropPrefix? (bytes "ENABLE_NETWORK ") = some args :=
    List.dropPrefix?_append_of_beq args (by decide)
  simp only [process, command_buffer (by decide : 0 ∉ bytes "ENABLE_NETWORK ") text,
    if_neg (command_ne 0 (by decide) : bytes "ENABLE_NETWORK " ++ args ≠ bytes "ADD_NETWORK"),
    if_neg (command_ne 0 (by decide) : bytes "ENABLE_NETWORK " ++ args ≠ bytes "SAVE_CONFIG"),
    other, own]

theorem process_select (text : 0 ∉ args) :
    s.process pbkdf2 (bytes "SELECT_NETWORK " ++ args) =
      s.answer (selectNetwork args s.networks) := by
  have set : (bytes "SELECT_NETWORK " ++ args).dropPrefix? (bytes "SET_NETWORK ") = none := rfl
  have enable : (bytes "SELECT_NETWORK " ++ args).dropPrefix? (bytes "ENABLE_NETWORK ") = none := rfl
  have own : (bytes "SELECT_NETWORK " ++ args).dropPrefix? (bytes "SELECT_NETWORK ") = some args :=
    List.dropPrefix?_append_of_beq args (by decide)
  simp only [process, command_buffer (by decide : 0 ∉ bytes "SELECT_NETWORK ") text,
    if_neg (command_ne 0 (by decide) : bytes "SELECT_NETWORK " ++ args ≠ bytes "ADD_NETWORK"),
    if_neg (command_ne 1 (by decide) : bytes "SELECT_NETWORK " ++ args ≠ bytes "SAVE_CONFIG"),
    set, enable, own]

theorem process_refusal (cmd : Bytes) : (s.process pbkdf2 cmd).2.refusal = s.refusal := by
  simp only [process]
  split
  · unfold addNetwork
    split <;> rfl
  · split
    · unfold saveConfig
      split <;> rfl
    · split <;> rfl

theorem process_add : s.process pbkdf2 (bytes "ADD_NETWORK") = s.addNetwork := by
  have whole := buffer_eq (by decide : 0 ∉ bytes "ADD_NETWORK")
  rw [process, whole, if_pos rfl]

theorem process_save : s.process pbkdf2 (bytes "SAVE_CONFIG") = s.saveConfig := by
  have whole := buffer_eq (by decide : 0 ∉ bytes "SAVE_CONFIG")
  have other : bytes "SAVE_CONFIG" ≠ bytes "ADD_NETWORK" := by decide
  rw [process, whole, if_neg other, if_pos rfl]

end Supplicant

end Process

end GrumpyScreen
