import GrumpyScreen.WifiJoin

/-! The saved networks as the panel knows them: what `LIST_NETWORKS` answers, which of them
a tapped row selects and which one a delete takes away. -/

namespace GrumpyScreen

open Lib Lib.Decimal WifiPanel

section Listing

/-- What the list tells of the networks besides what is saved of them. -/
structure Association where
  current : Option Int := none
  bssid : Int → Option Bytes := fun _ => none
  tempDisabled : Int → Bool := fun _ => false

namespace Network

/-- The name a network has, empty for one without. -/
def name (n : Network) : Bytes := n.ssid.getD []

/-- What identifies a network: its id, and the name it has for the panel. -/
def key (n : Network) : Int × Bytes := (n.id, n.name)

/-- What is saved of a network to join it by. -/
def saved (n : Network) : Int × Option Bytes × Option Bytes := (n.id, n.credentials)

variable (a : Association) (n : Network)

def flagsText : Bytes :=
  (if a.current = some n.id then bytes "[CURRENT]" else []) ++
    ((if n.disabled ≠ 0 then bytes "[DISABLED]" else []) ++
      ((if a.tempDisabled n.id then bytes "[TEMP-DISABLED]" else []) ++
        if n.disabled = 2 then bytes "[P2P-PERSISTENT]" else []))

def addressText : Bytes := ((a.bssid n.id).map macText).getD (bytes "any")

def listLine : Bytes :=
  signed n.id ++ 9 :: (wpaSsidTxt n.name ++ 9 :: (n.addressText a ++ 9 :: n.flagsText a))

end Network

/-- The networks whose lines fit, up to the first that does not. -/
def fittingNetworks (a : Association) : Nat → List Network → List Network
  | _, [] => []
  | room, n :: rest =>
    if room ≤ (n.listLine a).length + 1 then []
    else n :: fittingNetworks a (room - ((n.listLine a).length + 1)) rest

def listHeader : Bytes := bytes "network id / ssid / bssid / flags\n"

/-- The networks in the reply, which has 4096 bytes. -/
def savedListed (a : Association) (networks : List Network) : List Network :=
  fittingNetworks a (4096 - listHeader.length) networks

/-- `wpa_supplicant_ctrl_iface_list_networks`. -/
def listNetworksReply (a : Association) (networks : List Network) : Bytes :=
  listHeader ++ (savedListed a networks).flatMap fun n => n.listLine a ++ bytes "\n"

theorem fittingNetworks_prefix (a : Association) (room : Nat) (networks : List Network) :
    fittingNetworks a room networks <+: networks := by
  induction networks generalizing room with
  | nil => exact List.prefix_rfl
  | cons n rest ih =>
    rw [fittingNetworks]
    split
    · exact List.nil_prefix
    · exact List.cons_prefix_cons.mpr ⟨rfl, ih _⟩

theorem savedListed_before (a : Association) (networks : List Network) :
    savedListed a networks <+: networks := fittingNetworks_prefix a _ networks

end Listing

section Reading

variable (a : Association) {n : Network}

/-- Every name that can be saved fits its printed form. -/
def Network.Short (n : Network) : Prop := n.name.length ≤ ssidMaxLen

theorem flagsText_plain (n : Network) : 9 ∉ n.flagsText a ∧ 10 ∉ n.flagsText a := by
  have plain : ∀ c ∈ n.flagsText a, c ≠ 9 ∧ c ≠ 10 := by
    simp only [Network.flagsText, List.forall_mem_append]
    refine ⟨?_, ?_, ?_, ?_⟩ <;> split <;> exact forall_mem_of_all (by decide)
  exact ⟨fun member => (plain 9 member).1 rfl, fun member => (plain 10 member).2 rfl⟩

theorem addressText_printable (n : Network) : ∀ c ∈ n.addressText a, Printable c := by
  unfold Network.addressText
  cases a.bssid n.id with
  | none => exact forall_mem_of_all (by decide)
  | some bssid => exact macText_printable bssid

theorem addressText_plain (n : Network) : 91 ∉ n.addressText a := by
  have digits : ∀ n : Fin 16, hexDigit n ≠ 91 := by decide
  have mac : ∀ bssid : Bytes, ∀ c ∈ macText bssid, c ≠ 91 := by
    intro bssid
    have pair : ∀ b : UInt8, ∀ c ∈ hexPair b, c ≠ 91 := by
      intro b
      have size := b.toNat_lt
      refine List.forall_mem_cons.mpr ⟨digits ⟨b.toNat / 16, by omega⟩, ?_⟩
      exact List.forall_mem_singleton.mpr (digits ⟨b.toNat % 16, by omega⟩)
    fun_induction macText bssid with
    | case1 => exact List.forall_mem_nil _
    | case2 b => exact pair b
    | case3 b rest _ ih =>
      refine List.forall_mem_append.mpr ⟨pair b, ?_⟩
      exact List.forall_mem_cons.mpr ⟨by decide, ih⟩
  intro member
  unfold Network.addressText at member
  cases known : a.bssid n.id with
  | none =>
    rw [known] at member
    exact absurd member (by decide)
  | some bssid =>
    rw [known] at member
    exact mac bssid 91 member rfl

theorem name_printable (short : n.Short) : ∀ c ∈ wpaSsidTxt n.name, Printable c := by
  rw [wpaSsidTxt_eq short]
  exact printf_printable n.name

theorem listLine_plain (short : n.Short) : 10 ∉ n.listLine a := by
  intro member
  simp only [Network.listLine, List.mem_append, List.mem_cons] at member
  rcases member with id | tab | name | tab | address | tab | flags
  · exact (signed_plain n.id).2 id
  · exact absurd tab (by decide)
  · exact (printable_ne (name_printable short 10 name)).2.2 rfl
  · exact absurd tab (by decide)
  · exact (printable_ne (addressText_printable a n 10 address)).2.2 rfl
  · exact absurd tab (by decide)
  · exact (flagsText_plain a n).2 flags

theorem listLine_parts (short : n.Short) : Text.getlines 9 (n.listLine a) =
    signed n.id :: wpaSsidTxt n.name :: n.addressText a ::
      if n.flagsText a = [] then [] else [n.flagsText a] := by
  have name : 9 ∉ wpaSsidTxt n.name := fun member =>
    (printable_ne (name_printable short 9 member)).2.1 rfl
  have address : 9 ∉ n.addressText a := fun member =>
    (printable_ne (addressText_printable a n 9 member)).2.1 rfl
  rw [Network.listLine, Text.getlines_line (signed_plain n.id).1, Text.getlines_line name,
    Text.getlines_line address, Text.getlines_last (flagsText_plain a n).1]

/-- Taken for the current network: one that is, or one with flags whose name holds the mark. -/
def Network.Marked (n : Network) : Prop :=
  a.current = some n.id ∨ n.flagsText a ≠ [] ∧ bytes "[CURRENT]" <:+: wpaSsidTxt n.name

theorem flagsText_current (n : Network) :
    bytes "[CURRENT]" <:+: n.flagsText a ↔ a.current = some n.id := by
  unfold Network.flagsText
  by_cases current : a.current = some n.id
  · rw [if_pos current]
    exact iff_of_true (List.prefix_append _ _).isInfix current
  · rw [if_neg current]
    refine iff_of_false (fun inside => ?_) current
    -- no other flag has a `C`
    have other : ∀ c ∈ [] ++ ((if n.disabled ≠ 0 then bytes "[DISABLED]" else []) ++
        ((if a.tempDisabled n.id then bytes "[TEMP-DISABLED]" else []) ++
          if n.disabled = 2 then bytes "[P2P-PERSISTENT]" else [])), c ≠ 67 := by
      simp only [List.forall_mem_append]
      refine ⟨List.forall_mem_nil _, ?_, ?_, ?_⟩ <;> split <;> exact forall_mem_of_all (by decide)
    exact other 67 (inside.subset (by decide)) rfl

theorem marked_iff (n : Network) :
    n.flagsText a ≠ [] ∧ (Text.search (bytes "[CURRENT]") (n.listLine a)).isSome = true ↔
      n.Marked a := by
  have tab : 9 ∉ bytes "[CURRENT]" := by decide
  have opening : (91 : UInt8) ∈ bytes "[CURRENT]" := by decide
  have id : ¬ bytes "[CURRENT]" <:+: signed n.id := fun inside =>
    not_mem_signed (by decide) n.id (inside.subset opening)
  have address : ¬ bytes "[CURRENT]" <:+: n.addressText a := fun inside =>
    addressText_plain a n (inside.subset opening)
  rw [Text.search_isSome_iff, Network.listLine, Text.infix_cut_iff tab, Text.infix_cut_iff tab,
    Text.infix_cut_iff tab, flagsText_current, Network.Marked]
  constructor
  · rintro ⟨flags, inId | inName | inAddress | current⟩
    · exact absurd inId id
    · exact Or.inr ⟨flags, inName⟩
    · exact absurd inAddress address
    · exact Or.inl current
  · rintro (current | ⟨flags, inName⟩)
    · have mark := (flagsText_current a n).mpr current
      refine ⟨fun empty => ?_, Or.inr (Or.inr (Or.inr current))⟩
      rw [empty, List.infix_nil] at mark
      exact absurd mark (by decide)
    · exact ⟨flags, Or.inr (Or.inl inName)⟩

/-- The entry of the panel's list for a network. -/
def Network.entry (n : Network) : Bytes × Bytes := (wpaSsidTxt n.name, signed n.id)

instance (n : Network) : Decidable (n.Marked a) := decidable_of_iff _ (marked_iff a n)

theorem listNetwork_line (short : n.Short) (p : WifiPanel) :
    p.listNetwork (n.listLine a) =
      { p with
        listNetworks := p.listNetworks ++ [n.entry]
        curNetwork := if n.Marked a then wpaSsidTxt n.name else p.curNetwork } := by
  have mark := marked_iff a n
  rw [listNetwork, listLine_parts a short]
  by_cases empty : n.flagsText a = []
  · have other : ¬ n.Marked a := fun marked => (mark.mpr marked).1 empty
    rw [if_pos empty, if_neg other]
    rfl
  · rw [if_neg empty]
    simp only [ne_eq, empty, not_false_eq_true, true_and] at mark
    by_cases marked : n.Marked a
    · have found := mark.mpr marked
      rw [if_pos marked]
      simp [found, Network.entry]
    · have found := Bool.eq_false_iff.mpr fun some => marked (mark.mp some)
      rw [if_neg marked]
      simp [found, Network.entry]

/-- The name the panel takes for the current network's: of several the last. -/
def currentName (networks : List Network) : Bytes :=
  networks.foldl (fun name n => if n.Marked a then wpaSsidTxt n.name else name) []

theorem list_lines {networks : List Network} (short : ∀ n ∈ networks, n.Short) :
    Text.getlines 10 (networks.flatMap fun n => n.listLine a ++ bytes "\n") =
      networks.map (Network.listLine a) := by
  induction networks with
  | nil => rfl
  | cons n rest ih =>
    obtain ⟨first, others⟩ := List.forall_mem_cons.mp short
    have line := Text.getlines_line (listLine_plain a first)
      (rest.flatMap fun n => n.listLine a ++ bytes "\n")
    rw [List.flatMap_cons, List.append_assoc, List.map_cons, ← ih others, ← line]
    rfl

theorem findCurrentNetwork_list {networks : List Network} (short : ∀ n ∈ networks, n.Short)
    (p : WifiPanel) :
    p.findCurrentNetwork (listNetworksReply a networks) =
      { p with
        listNetworks := (savedListed a networks).map Network.entry
        curNetwork := currentName a (savedListed a networks) } := by
  have listed : ∀ n ∈ savedListed a networks, n.Short := fun n member =>
    short n ((savedListed_before a networks).subset member)
  let header := bytes "network id / ssid / bssid / flags"
  have first := Text.getlines_line (by decide : 10 ∉ header)
    ((savedListed a networks).flatMap fun n => n.listLine a ++ bytes "\n")
  have start : listHeader = header ++ [10] := by decide
  have silent : ∀ p : WifiPanel, p.listNetwork header = p := fun p => by
    have single : Text.getlines 9 header = [header] := by decide
    rw [listNetwork, single]
  rw [findCurrentNetwork, listNetworksReply, start, List.append_assoc, List.singleton_append,
    first, list_lines a listed, List.foldl_cons, silent, currentName]
  -- by induction on the networks, over what was read so far
  have fold : ∀ (networks : List Network), (∀ n ∈ networks, n.Short) → ∀ (p : WifiPanel),
      (networks.map (Network.listLine a)).foldl listNetwork p =
        { p with
          listNetworks := p.listNetworks ++ networks.map Network.entry
          curNetwork := networks.foldl
            (fun name n => if n.Marked a then wpaSsidTxt n.name else name) p.curNetwork } := by
    intro networks
    induction networks with
    | nil => exact fun _ p => by simp
    | cons n rest ih =>
      intro short p
      obtain ⟨own, others⟩ := List.forall_mem_cons.mp short
      rw [List.map_cons, List.foldl_cons, listNetwork_line a own, ih others]
      simp
  rw [fold _ listed]
  rfl

end Reading

section Selecting

variable {a : Association} {networks : List Network} {name : Bytes}

/-- What the supplicant keeps of its networks: each id once, and no name too long. -/
structure WellFormed (networks : List Network) : Prop where
  ids : (networks.map Network.id).Nodup
  short : ∀ n ∈ networks, n.Short

theorem keys_of_saved {others : List Network}
    (same : others.map Network.saved = networks.map Network.saved) :
    others.map Network.key = networks.map Network.key := by
  have mapped := congrArg (List.map fun r => (r.1, r.2.1.getD [])) same
  rw [List.map_map, List.map_map] at mapped
  exact mapped

theorem wellFormed_iff : WellFormed networks ↔
    ((networks.map Network.key).map Prod.fst).Nodup ∧
      ∀ key ∈ networks.map Network.key, key.2.length ≤ ssidMaxLen := by
  rw [List.map_map, List.forall_mem_map]
  exact ⟨fun kept => ⟨kept.ids, kept.short⟩, fun ⟨ids, short⟩ => ⟨ids, short⟩⟩

theorem WellFormed.of_keys {others : List Network} (kept : WellFormed networks)
    (same : others.map Network.key = networks.map Network.key) : WellFormed others := by
  rw [wellFormed_iff, same]
  exact wellFormed_iff.mp kept

theorem wpaSsidTxt_injective {other : Bytes} (short : name.length ≤ ssidMaxLen)
    (shortOther : other.length ≤ ssidMaxLen) :
    wpaSsidTxt name = wpaSsidTxt other ↔ name = other := by
  refine ⟨fun same => ?_, fun same => same ▸ rfl⟩
  rw [wpaSsidTxt_eq short, wpaSsidTxt_eq shortOther] at same
  have first := printfDecode_encode name (Nat.lt_succ_of_le (Nat.le_max_left _ other.length))
  have second := printfDecode_encode other (Nat.lt_succ_of_le (Nat.le_max_right name.length _))
  rw [← first, same, second]

/-- The first saved network of a name. -/
def savedAs (name : Bytes) (networks : List Network) : Option Network :=
  networks.find? fun n => n.name = name

theorem savedAs_eq_some {n : Network} (found : savedAs name networks = some n) :
    n ∈ networks ∧ n.name = name :=
  ⟨List.mem_of_find?_eq_some found, by simpa using List.find?_some found⟩

theorem lookup_entries (short : ∀ n ∈ networks, n.Short) (own : name.length ≤ ssidMaxLen) :
    (networks.map Network.entry).lookup (wpaSsidTxt name) =
      (savedAs name networks).map fun n => signed n.id := by
  induction networks with
  | nil => rfl
  | cons n rest ih =>
    obtain ⟨first, others⟩ := List.forall_mem_cons.mp short
    have texts := wpaSsidTxt_injective own first
    rw [List.map_cons, Network.entry, List.lookup_cons, savedAs, List.find?_cons]
    by_cases same : n.name = name
    · simp [same]
    · have differ := beq_false_of_ne fun text => same (texts.mp text).symm
      simpa [differ, same, savedAs] using ih others

theorem atoi_signed (id : Int) : atoi (signed id) = id := by
  have read := strtol_signed id (by rfl : ([] : Bytes).takeWhile isDigit = [])
  rw [List.append_nil] at read
  rw [atoi, read]
  rfl

theorem getNetwork_own {n : Network} (ids : (networks.map Network.id).Nodup)
    (member : n ∈ networks) : getNetwork n.id networks = some n := by
  induction networks with
  | nil => cases member
  | cons first rest ih =>
    rw [List.map_cons, List.nodup_cons] at ids
    rw [getNetwork, List.find?_cons]
    rcases List.mem_cons.mp member with rfl | later
    · simp
    · have differ : first.id ≠ n.id := fun same => ids.1 (same ▸ List.mem_map_of_mem later)
      simpa [differ, getNetwork] using ih ids.2 later

/-- The networks with one of them selected; a persistent P2P group is not. -/
def selected (n : Network) (networks : List Network) : List Network :=
  if n.disabled = 2 then networks else networks.map (selectOne (some n.id))

theorem selectNetwork_own {n : Network} (ids : (networks.map Network.id).Nodup)
    (member : n ∈ networks) : (selectNetwork (signed n.id) networks).1 = selected n networks := by
  have word : (bytes "any").isPrefixOf (signed n.id) = false := by
    cases starts : (bytes "any").isPrefixOf (signed n.id) with
    | false => rfl
    | true =>
      have letter : (97 : UInt8) ∈ signed n.id :=
        (List.isPrefixOf_iff_prefix.mp starts).subset (by decide)
      exact absurd letter (not_mem_signed (by decide) n.id)
  rw [selectNetwork, word, if_neg Bool.false_ne_true, atoi_signed, getNetwork_own ids member]
  simp only [selected]
  split <;> rfl

theorem selectOne_saved (id : Option Int) (n : Network) : (selectOne id n).saved = n.saved := by
  unfold selectOne
  split <;> rfl

theorem selected_saved (n : Network) (networks : List Network) :
    (selected n networks).map Network.saved = networks.map Network.saved := by
  unfold selected
  split
  · rfl
  · rw [List.map_map]
    exact List.map_congr_left fun n _ => selectOne_saved _ n

/-- The supplicant with one network selected, and that saved. -/
def Supplicant.select (n : Network) (s : Supplicant) : Supplicant :=
  { s with
    networks := selected n s.networks
    file := if s.updateConfig then selected n s.networks else s.file }

variable {pbkdf2 : Bytes → Bytes → Bytes}

theorem send_select {n : Network} {w : Wire} (ids : (w.supplicant.networks.map Network.id).Nodup)
    (member : n ∈ w.supplicant.networks) :
    (sendCommand pbkdf2 (bytes "SAVE_CONFIG")
      (sendCommand pbkdf2 (bytes "SELECT_NETWORK " ++ signed n.id) w).2).2 =
    { supplicant := w.supplicant.select n
      sent := w.sent ++ [bytes "SELECT_NETWORK " ++ signed n.id, bytes "SAVE_CONFIG"] } := by
  have text : 0 ∉ signed n.id := not_mem_signed (by decide) n.id
  simp only [sendCommand, Supplicant.process_select text, Supplicant.process_save,
    Supplicant.answer, selectNetwork_own ids member, Supplicant.saveConfig, Supplicant.select]
  split <;> simp_all

variable (a pbkdf2) in
theorem handleCallback_row {p : WifiPanel} {w : Wire} {row : Nat}
    (cell : p.table[row]? = some (wpaSsidTxt name)) (own : name.length ≤ ssidMaxLen)
    (kept : WellFormed w.supplicant.networks) :
    let listed := savedListed a w.supplicant.networks
    let q : WifiPanel :=
      { p with
        selectedNetwork := wpaSsidTxt name
        listNetworks := listed.map Network.entry
        curNetwork := currentName a listed }
    p.handleCallback pbkdf2 row (listNetworksReply a w.supplicant.networks) w =
      if currentName a listed ≠ [] ∧ currentName a listed = wpaSsidTxt name then
        ({ q with passwordShown := false }, w)
      else
        match savedAs name listed with
        | some n => (q,
            { supplicant := w.supplicant.select n
              sent := w.sent ++ [bytes "SELECT_NETWORK " ++ signed n.id, bytes "SAVE_CONFIG"] })
        | none => ({ q with passwordShown := true }, w) := by
  intro listed q
  have short : ∀ n ∈ listed, n.Short := fun n member =>
    kept.short n ((savedListed_before a _).subset member)
  have found : (listed.map Network.entry).lookup (wpaSsidTxt name) = _ := lookup_entries short own
  simp only [WifiPanel.handleCallback, cell, findCurrentNetwork_list a kept.short, Bool.and_eq_true,
    decide_eq_true_eq, ne_eq, decide_not, Bool.not_eq_true', decide_eq_false_iff_not]
  by_cases current : ¬ currentName a listed = [] ∧ currentName a listed = wpaSsidTxt name
  · rw [if_pos current, if_pos current]
  · rw [if_neg current, if_neg current, found]
    cases saved : savedAs name listed with
    | none => rfl
    | some n =>
      have member := (savedListed_before a _).subset (savedAs_eq_some saved).1
      simp only [Option.map_some]
      rw [send_select kept.ids member]

end Selecting

section Joining

variable {debug : Bytes → Bytes} {pbkdf2 : Bytes → Bytes → Bytes} {s : Supplicant} {w : Wire}

theorem atNetwork_ids {f : Network → Network} (same : ∀ n, (f n).id = n.id) (id : Int)
    (networks : List Network) : (atNetwork id f networks).map Network.id = networks.map Network.id := by
  induction networks with
  | nil => rfl
  | cons n rest ih =>
    rw [atNetwork]
    split
    · rw [List.map_cons, same, List.map_cons]
    · rw [List.map_cons, ih, List.map_cons]

theorem wpaConfigSet_id (name value : Bytes) (n : Network) :
    (wpaConfigSet name value n).1.id = n.id := by
  unfold wpaConfigSet
  split
  · unfold wpaConfigParseSsid
    split
    · rfl
    · split
      · rfl
      · split <;> rfl
  · split
    · unfold wpaConfigParsePsk
      split
      · simp only
        split_ifs <;> rfl
      · simp only
        split_ifs <;> rfl
    · rfl

theorem updateNetwork_id (name value : Bytes) (n : Network) :
    (updateNetwork pbkdf2 name value n).1.id = n.id :=
  (updateNetwork_set n pbkdf2 name value).1.trans (wpaConfigSet_id name value n)

theorem process_ids {cmd : Bytes} (other : cmd.head? ≠ some 65) :
    (s.process pbkdf2 cmd).2.networks.map Network.id = s.networks.map Network.id := by
  have enabled : ∀ n, (enableOne n).id = n.id := fun n => by
    unfold enableOne
    split <;> rfl
  have chosen : ∀ id n, (selectOne id n).id = n.id := fun id n =>
    congrArg Prod.fst (selectOne_saved id n)
  have added : cmd.takeWhile (· ≠ 0) ≠ bytes "ADD_NETWORK" := by
    intro same
    cases cmd with
    | nil => exact absurd same (by decide)
    | cons c rest =>
      rw [List.takeWhile_cons] at same
      split at same
      · exact other (congrArg List.head? same)
      · exact absurd same (by decide)
  simp only [Supplicant.process, if_neg added]
  split
  · unfold Supplicant.saveConfig
    split <;> rfl
  · split
    · simp only [Supplicant.answer, setNetwork]
      split
      · rfl
      · split
        · rfl
        · split
          · rfl
          · exact atNetwork_ids (updateNetwork_id _ _) _ _
    · simp only [Supplicant.answer, enableNetwork]
      split
      · rw [List.map_map]
        exact List.map_congr_left fun n _ => enabled n
      · split
        · rfl
        · split
          · rfl
          · exact atNetwork_ids enabled _ _
    · simp only [Supplicant.answer, selectNetwork]
      split
      · rw [List.map_map]
        exact List.map_congr_left fun n _ => chosen _ n
      · split
        · rfl
        · split
          · rfl
          · rw [List.map_map]
            exact List.map_congr_left fun n _ => chosen _ n
    · rfl

theorem commands_ids {commands : List Bytes} (others : ∀ cmd ∈ commands, cmd.head? ≠ some 65)
    (w : Wire) :
    (commands.foldl (fun w cmd => (sendCommand pbkdf2 cmd w).2) w).supplicant.networks.map
      Network.id = w.supplicant.networks.map Network.id := by
  induction commands generalizing w with
  | nil => rfl
  | cons cmd rest ih =>
    obtain ⟨first, later⟩ := List.forall_mem_cons.mp others
    rw [List.foldl_cons, ih later]
    exact process_ids first

variable (debug pbkdf2) in
theorem connect_ids (grants : w.supplicant.refusal = none) (p : WifiPanel) (password : Bytes) :
    (p.connect debug pbkdf2 password w).supplicant.networks.map Network.id =
      w.supplicant.networks.map Network.id ++ [nextId w.supplicant.networks] := by
  have answered : 0 < (idText (nextId w.supplicant.networks)).length := by
    rw [idText, List.length_append]
    exact Nat.lt_add_left _ (by decide)
  have letters : ∀ cmd ∈ p.joinCommands debug password (idText (nextId w.supplicant.networks)),
      cmd.head? ≠ some 65 := by
    simp only [joinCommands, List.forall_mem_cons, List.append_assoc]
    have kept : ∀ {word : Bytes} (args : Bytes), word ≠ [] → word.head? ≠ some 65 →
        (word ++ args).head? ≠ some 65 := by
      intro word args letters other
      rwa [List.head?_append_of_ne_nil _ letters]
    refine ⟨?_, ?_, ?_, ?_, by decide, List.forall_mem_nil _⟩ <;>
      exact kept _ (by decide) (by decide)
  rw [connect, sendCommand, Supplicant.process_add, addNetwork_granted grants]
  simp only [answered, if_true]
  rw [commands_ids letters]
  simp

/-- What is saved of a row that is joined: the text quoted, where it is short enough, and the
passphrase quoted, where it is one. -/
def joined (text password : Bytes) : Option Bytes × Option Bytes :=
  (if (debugEscaping.encode text).length ≤ ssidMaxLen then some (debugEscaping.encode text) else none,
    if IsPassphrase (debugEscaping.encode password) then some (debugEscaping.encode password)
    else none)

theorem connect_saved (quotes : Quotes debug) (p : WifiPanel) {password : Bytes}
    (grants : w.supplicant.refusal = none) (name : ∀ c ∈ p.selectedNetwork, Printable c)
    (typed : ∀ c ∈ password, Printable c) :
    (p.connect debug pbkdf2 password w).supplicant.networks.map Network.saved =
      w.supplicant.networks.map Network.saved ++
        [(nextId w.supplicant.networks, joined p.selectedNetwork password)] := by
  have ids := connect_ids debug pbkdf2 grants p password
  have last := @connect_credentials debug pbkdf2 w quotes p password grants name typed
  have all := @connect_networks debug pbkdf2 w quotes p password grants name typed
  simp only [List.map_append, List.map_singleton] at all
  rw [all, List.getLast?_concat, Option.some.injEq] at last
  rw [last] at all
  have pairs : ∀ networks : List Network, networks.map Network.saved =
      (networks.map Network.id).zip (networks.map Network.credentials) := fun networks =>
    List.zip_map'.symm
  rw [pairs, ids, all, List.zip_append (by simp), ← pairs]
  rfl

end Joining

section Removing

/-- `wpa_supplicant_ctrl_iface_remove_network`. -/
def removeNetwork (cmd : Bytes) (networks : List Network) : List Network × Bool :=
  if cmd = bytes "all" then ([], true)
  else
    match getNetwork (atoi cmd) networks with
    | none => (networks, false)
    | some _ => (networks.eraseP fun n => n.id = atoi cmd, true)

/-- `wpa_supplicant_ctrl_iface_process` with the command that removes a network. -/
def Supplicant.serve (pbkdf2 : Bytes → Bytes → Bytes) (cmd : Bytes) (s : Supplicant) :
    Bytes × Supplicant :=
  match (cmd.takeWhile (· ≠ 0)).dropPrefix? (bytes "REMOVE_NETWORK ") with
  | some args => s.answer (removeNetwork args s.networks)
  | none => s.process pbkdf2 cmd

/-- `WpaEvent::send_command` to it. -/
def requestCommand (pbkdf2 : Bytes → Bytes → Bytes) (cmd : Bytes) (w : Wire) : Wire :=
  { supplicant := (w.supplicant.serve pbkdf2 cmd).2, sent := w.sent ++ [cmd] }

variable {pbkdf2 : Bytes → Bytes → Bytes} {networks : List Network} {w : Wire}

/-- The networks without the one of an id, and that saved. -/
def Supplicant.without (id : Int) (s : Supplicant) : Supplicant :=
  { s with
    networks := s.networks.eraseP fun n => n.id = id
    file := if s.updateConfig then s.networks.eraseP fun n => n.id = id else s.file }

theorem removeNetwork_signed (id : Int) (networks : List Network) :
    (removeNetwork (signed id) networks).1 = networks.eraseP fun n => n.id = id := by
  have word : signed id ≠ bytes "all" := fun same => by
    have letter : (97 : UInt8) ∈ signed id := same ▸ by decide
    exact absurd letter (not_mem_signed (by decide) id)
  rw [removeNetwork, if_neg word, atoi_signed, getNetwork]
  cases found : networks.find? fun n => n.id = id with
  | some n => rfl
  | none => exact (List.eraseP_of_forall_not (List.find?_eq_none.mp found)).symm

theorem request_save : requestCommand pbkdf2 (bytes "SAVE_CONFIG") w =
    (sendCommand pbkdf2 (bytes "SAVE_CONFIG") w).2 := by
  have other : (bytes "SAVE_CONFIG").dropPrefix? (bytes "REMOVE_NETWORK ") = none := by decide
  rw [requestCommand, Supplicant.serve, Supplicant.buffer_eq (by decide : 0 ∉ bytes "SAVE_CONFIG"),
    other]
  rfl

theorem request_remove (id : Int) :
    requestCommand pbkdf2 (bytes "SAVE_CONFIG")
      (requestCommand pbkdf2 (bytes "REMOVE_NETWORK " ++ signed id) w) =
    { supplicant := w.supplicant.without id
      sent := w.sent ++ [bytes "REMOVE_NETWORK " ++ signed id, bytes "SAVE_CONFIG"] } := by
  have text : 0 ∉ signed id := not_mem_signed (by decide) id
  have buffer := Supplicant.command_buffer (by decide : 0 ∉ bytes "REMOVE_NETWORK ") text
  have own : (bytes "REMOVE_NETWORK " ++ signed id).dropPrefix? (bytes "REMOVE_NETWORK ") =
      some (signed id) := List.dropPrefix?_append_of_beq (signed id) (by decide)
  rw [request_save, requestCommand, Supplicant.serve, buffer, own]
  simp only [sendCommand, Supplicant.process_save, Supplicant.answer, removeNetwork_signed,
    Supplicant.saveConfig, Supplicant.without]
  split <;> simp_all

theorem eraseP_savedAs {name : Bytes} {n : Network} (ids : (networks.map Network.id).Nodup)
    (found : savedAs name networks = some n) :
    (networks.eraseP fun other => other.id = n.id) =
      networks.eraseP fun other => other.name = name := by
  induction networks with
  | nil => rfl
  | cons first rest ih =>
    rw [List.map_cons, List.nodup_cons] at ids
    rw [savedAs, List.find?_cons] at found
    by_cases named : first.name = name
    · simp only [named, decide_true] at found
      obtain rfl := Option.some.inj found
      simp [named]
    · simp only [named, decide_false] at found
      have member := (savedAs_eq_some found).1
      have differ : first.id ≠ n.id := fun same => ids.1 (same ▸ List.mem_map_of_mem member)
      simpa [named, differ] using ih ids.2 found

end Removing

end GrumpyScreen
