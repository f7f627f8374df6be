import GrumpyScreen.Lib.Json

/-! What the keepers of documents use beyond reading them: null, the merge patch
of RFC 7386 and the laws of a walk in two parts. -/

namespace GrumpyScreen.Lib

/-- A document library with the operations that store documents. -/
class JsonDoc (J : Type) extends JsonLib J where
  null : J
  mergePatch : J → J → J
  getUInt32 : J → Except JsonExn UInt32

/-- A walk may be taken in two parts, nothing is found below null, an array is
patched in as a whole and exactly the strings are read as strings. -/
class LawfulDoc (J : Type) [JsonDoc J] : Prop extends LawfulJson J where
  isNull_null : JsonLib.isNull (JsonDoc.null : J) = true
  isNull_of_isArray (j : J) : JsonLib.isArray j = true → JsonLib.isNull j = false
  lookup_null (j : J) (path : List String) :
    JsonLib.isNull j = true → JsonLib.lookup j path = .ok j
  lookup_append (j : J) (first second : List String) :
    JsonLib.lookup j (first ++ second) =
      (JsonLib.lookup j first).bind fun node => JsonLib.lookup node second
  isString_iff (j : J) : JsonLib.isString j = true ↔ ∃ s, JsonLib.getString j = .ok s
  lookup_mergePatch_array (target patch items : J) (name : String) :
    JsonLib.lookup patch [name] = .ok items → JsonLib.isArray items = true →
      JsonLib.lookup (JsonDoc.mergePatch target patch) [name] = .ok items

namespace Json

def setMember (name : String) (value : Json) : List (String × Json) → List (String × Json)
  | [] => [(name, value)]
  | (other, old) :: rest =>
    if other = name then (name, value) :: rest else (other, old) :: setMember name value rest

def eraseMember (name : String) (members : List (String × Json)) : List (String × Json) :=
  members.filter fun member => member.1 ≠ name

def members : Json → List (String × Json)
  | .obj members => members
  | _ => []

mutual

/-- A patch that is no object replaces its target; an object is merged member by
member, null deleting. -/
def mergePatch (target : Json) : Json → Json
  | .obj patch => .obj (mergeMembers target.members patch)
  | patch => patch

def mergeMembers (target : List (String × Json)) : List (String × Json) → List (String × Json)
  | [] => target
  | (name, .null) :: rest => eraseMember name (mergeMembers target rest)
  | (name, value) :: rest =>
    setMember name (mergePatch ((target.lookup name).getD .null) value) (mergeMembers target rest)

end

example : mergePatch (.obj [("a", .int 1), ("b", .int 2)]) (.obj [("a", .null), ("c", .int 3)]) =
    .obj [("b", .int 2), ("c", .int 3)] := rfl

theorem lookup_member (key other : String) (value : Json) (rest : List (String × Json)) :
    ((key, value) :: rest).lookup other = if other = key then some value else rest.lookup other := by
  rw [List.lookup_cons]
  by_cases same : other = key
  · simp [same]
  · have differ : (other == key) = false := by simpa using same
    rw [differ, if_neg same]

@[simp] theorem lookup_setMember (name other : String) (value : Json)
    (members : List (String × Json)) :
    (setMember name value members).lookup other =
      if other = name then some value else members.lookup other := by
  induction members with
  | nil => exact lookup_member name other value []
  | cons member rest ih =>
    obtain ⟨key, old⟩ := member
    unfold setMember
    by_cases found : key = name
    · rw [if_pos found, lookup_member, lookup_member, found]
      by_cases same : other = name
      · simp [same]
      · simp [same]
    · rw [if_neg found, lookup_member, lookup_member, ih]
      by_cases same : other = name
      · simp [same, Ne.symm found]
      · simp [same]

@[simp] theorem lookup_eraseMember (name other : String) (members : List (String × Json)) :
    (eraseMember name members).lookup other =
      if other = name then none else members.lookup other := by
  induction members with
  | nil => simp [eraseMember]
  | cons member rest ih =>
    obtain ⟨key, old⟩ := member
    by_cases found : key = name
    · have dropped : eraseMember name ((key, old) :: rest) = eraseMember name rest := by
        simp [eraseMember, found]
      rw [dropped, ih, lookup_member, found]
      by_cases same : other = name
      · simp [same]
      · simp [same]
    · have kept : eraseMember name ((key, old) :: rest) = (key, old) :: eraseMember name rest := by
        simp [eraseMember, found]
      rw [kept, lookup_member, lookup_member, ih]
      by_cases same : other = name
      · simp [same, Ne.symm found]
      · simp [same]

/-- What a patch makes of one member: absent from the patch it stays, null
deletes it, anything else is merged into it. -/
theorem lookup_mergeMembers (name : String) (target patch : List (String × Json)) :
    (mergeMembers target patch).lookup name =
      match patch.lookup name with
      | none => target.lookup name
      | some .null => none
      | some value => some (mergePatch ((target.lookup name).getD .null) value) := by
  induction patch with
  | nil => rfl
  | cons member rest ih =>
    obtain ⟨key, value⟩ := member
    by_cases same : name = key
    · rw [lookup_member, if_pos same, same]
      cases value <;> simp [mergeMembers]
    · rw [lookup_member, if_neg same, ← ih]
      cases value <;> simp [mergeMembers, same]

section Patch

theorem mergePatch_whole {patch : Json} (whole : ∀ members, patch ≠ .obj members)
    (target : Json) : mergePatch target patch = patch := by
  cases patch with
  | obj members => exact absurd rfl (whole members)
  | _ => rfl

private theorem lookup_under_null {path : List String} {node : Json}
    (found : lookup .null path = .ok node) : node = .null :=
  (Except.ok.inj ((lookup_null path).symm.trans found)).symm

theorem lookup_mergePatch_silent {path : List String} {target patch node : Json}
    (silent : lookup patch path = .ok .null)
    (found : lookup (mergePatch target patch) path = .ok node) (present : node ≠ .null) :
    lookup target path = .ok node := by
  induction path generalizing target patch with
  | nil =>
    cases silent
    exact absurd (Except.ok.inj found).symm present
  | cons token path ih =>
    cases patch with
    | obj members =>
      simp only [mergePatch, lookup, child, lookup_mergeMembers] at silent found
      have below : lookup ((target.members.lookup token).getD .null) path = .ok node := by
        cases given : members.lookup token with
        | none =>
          rw [given] at found
          exact found
        | some value =>
          rw [given] at silent found
          cases value with
          | null => exact absurd (lookup_under_null found) present
          | _ => exact ih silent found
      cases target with
      | obj members => exact below
      | _ => exact absurd (lookup_under_null below) present
    | _ => exact absurd (Except.ok.inj (silent.symm.trans found)).symm present

/-- What a patch has at a path is there once it is merged, itself or merged into what was
there. -/
theorem lookup_mergePatch_told {path : List String} {patch node : Json}
    (told : lookup patch path = .ok node) (present : node ≠ .null) (target : Json) :
    lookup (mergePatch target patch) path = .ok node ∨
      ∃ old, lookup (mergePatch target patch) path = .ok (mergePatch old node) := by
  induction path generalizing target patch with
  | nil =>
    cases told
    exact .inr ⟨target, rfl⟩
  | cons token path ih =>
    cases patch with
    | obj members =>
      simp only [mergePatch, lookup, child, lookup_mergeMembers] at told ⊢
      cases given : members.lookup token with
      | none =>
        rw [given] at told
        exact absurd (lookup_under_null told) present
      | some value =>
        rw [given] at told
        cases value with
        | null => exact absurd (lookup_under_null told) present
        | _ => exact ih told ((target.members.lookup token).getD .null)
    | _ => exact .inl told

end Patch

/-- `get<uint32_t>`: every number and boolean converts, with what is out of range
or fractional cut off. -/
def getUInt32 : Json → Except JsonExn UInt32
  | .int i => .ok (UInt32.ofInt i)
  | .num x => .ok (UInt32.ofInt x.toInt64.toInt)
  | .bool b => .ok (if b then 1 else 0)
  | _ => .error .typeError

theorem lookup_append (j : Json) (first second : List String) :
    lookup j (first ++ second) = (lookup j first).bind fun node => lookup node second := by
  induction first generalizing j with
  | nil => rfl
  | cons token rest ih =>
    simp only [List.cons_append, lookup]
    cases child token j with
    | ok next => exact ih next
    | error thrown => rfl

section Resolve

/-- An index as `contains` takes one: no leading zero. -/
def checkedIndex (token : String) : Option Nat :=
  match token.toList with
  | '0' :: _ :: _ => none
  | _ => arrayIndex token

/-- The node `contains` looks for and `at` then returns. -/
def resolve : List String → Json → Option Json
  | [], j => some j
  | token :: path, .obj members => (members.lookup token).bind (resolve path)
  | token :: path, .arr items =>
    (checkedIndex token).bind fun index => items[index]?.bind (resolve path)
  | _ :: _, _ => none

/-- What is there `operator[]` finds too, and what is not it takes for null where
it does not throw. -/
theorem lookup_resolve {path : List String}
    (plain : ∀ token ∈ path, checkedIndex token = arrayIndex token) (j : Json) :
    lookup j path = .ok ((resolve path j).getD .null) ∨
      resolve path j = none ∧ ∃ thrown, lookup j path = .error thrown := by
  induction path generalizing j with
  | nil => exact Or.inl rfl
  | cons token path ih =>
    have below := ih fun later member => plain later (List.mem_cons_of_mem token member)
    cases j with
    | null => exact Or.inl (lookup_null _)
    | obj members =>
      simp only [lookup, child, resolve]
      cases members.lookup token with
      | none => exact Or.inl (lookup_null path)
      | some member => exact below member
    | arr items =>
      simp only [lookup, child, resolve, plain token List.mem_cons_self]
      cases arrayIndex token with
      | none => exact Or.inr ⟨rfl, .parseError, rfl⟩
      | some index =>
        simp only [Option.bind_some]
        cases items[index]? with
        | none => exact Or.inl (lookup_null path)
        | some item => exact below item
    | bool b => exact Or.inr ⟨rfl, .outOfRange, rfl⟩
    | int i => exact Or.inr ⟨rfl, .outOfRange, rfl⟩
    | num x => exact Or.inr ⟨rfl, .outOfRange, rfl⟩
    | str s => exact Or.inr ⟨rfl, .outOfRange, rfl⟩

/-- `at` on a pointer, the walk that throws where a node is missing. -/
def checkedAt : List String → Json → Except JsonExn Json
  | [], j => .ok j
  | token :: path, .obj members =>
    match members.lookup token with
    | some next => checkedAt path next
    | none => .error .outOfRange
  | token :: path, .arr items =>
    match checkedIndex token with
    | some index =>
      match items[index]? with
      | some next => checkedAt path next
      | none => .error .outOfRange
    | none => .error .parseError
  | _ :: _, _ => .error .outOfRange

theorem checkedAt_resolve {path : List String} {j found : Json}
    (there : resolve path j = some found) : checkedAt path j = .ok found := by
  induction path generalizing j with
  | nil =>
    cases there
    unfold checkedAt
    rfl
  | cons token path ih =>
    cases j with
    | obj members =>
      obtain ⟨next, member, below⟩ := Option.bind_eq_some_iff.mp there
      rw [checkedAt, member]
      exact ih below
    | arr items =>
      obtain ⟨index, digits, rest⟩ := Option.bind_eq_some_iff.mp there
      obtain ⟨next, item, below⟩ := Option.bind_eq_some_iff.mp rest
      rw [checkedAt, digits]
      simp only [item]
      exact ih below
    | null => cases there
    | bool b => cases there
    | int i => cases there
    | num x => cases there
    | str s => cases there

end Resolve

section Parsed

/-- A document as the parser makes one: no number in it is NaN. -/
inductive Parsed : Json → Prop
  | null : Parsed .null
  | bool (b : Bool) : Parsed (.bool b)
  | int (i : Int) : Parsed (.int i)
  | num (x : Float) (number : x.isNaN = false) : Parsed (.num x)
  | str (s : String) : Parsed (.str s)
  | arr (items : List Json) (each : ∀ item ∈ items, Parsed item) : Parsed (.arr items)
  | obj (members : List (String × Json)) (each : ∀ member ∈ members, Parsed member.2) :
    Parsed (.obj members)

theorem Parsed.resolve {path : List String} {j found : Json} (parsed : Parsed j)
    (there : resolve path j = some found) : Parsed found := by
  induction path generalizing j with
  | nil =>
    have same : j = found := by cases j <;> exact Option.some.inj there
    rw [← same]
    exact parsed
  | cons token path ih =>
    cases parsed with
    | obj members each =>
      obtain ⟨next, member, below⟩ := Option.bind_eq_some_iff.mp there
      obtain ⟨first, rest, split, -⟩ := List.lookup_eq_some_iff.mp member
      have held : (token, next) ∈ members := split ▸ List.mem_append_cons_self
      exact ih (each (token, next) held) below
    | arr items each =>
      obtain ⟨index, -, rest⟩ := Option.bind_eq_some_iff.mp there
      obtain ⟨next, item, below⟩ := Option.bind_eq_some_iff.mp rest
      exact ih (each next (List.mem_of_getElem? item)) below
    | null => cases there
    | bool => cases there
    | int => cases there
    | num => cases there
    | str => cases there

theorem Parsed.elements {j : Json} (parsed : Parsed j) : ∀ e ∈ elements j, Parsed e := by
  cases parsed with
  | arr items each => exact each
  | obj members each => exact List.forall_mem_map.mpr each
  | null => exact fun e member => nomatch member
  | bool b => exact List.forall_mem_singleton.mpr (.bool b)
  | int i => exact List.forall_mem_singleton.mpr (.int i)
  | num x number => exact List.forall_mem_singleton.mpr (.num x number)
  | str s => exact List.forall_mem_singleton.mpr (.str s)

end Parsed

section Touch

/-- `operator[]` on an array grows it with nulls up to the index. -/
def setItem (index : Nat) (value : Json) (items : List Json) : List Json :=
  (items ++ List.replicate (index + 1 - items.length) null).set index value

/-- `operator[]` on a pointer into a document that is not const: the node found,
and the document with a null node for every token it missed. -/
def touch : List String → Json → Except JsonExn Json × Json
  | [], j => (.ok j, j)
  | token :: path, .null =>
    let (found, below) := touch path .null
    match arrayIndex token with
    | some index => (found, .arr (setItem index below []))
    | none => (found, .obj [(token, below)])
  | token :: path, .obj members =>
    let (found, below) := touch path ((members.lookup token).getD .null)
    (found, .obj (setMember token below members))
  | token :: path, .arr items =>
    match arrayIndex token with
    | some index =>
      let (found, below) := touch path (items[index]?.getD .null)
      (found, .arr (setItem index below items))
    | none => (.error .parseError, .arr items)
  | _ :: _, j => (.error .outOfRange, j)

theorem touch_found (path : List String) (j : Json) : (touch path j).1 = lookup j path := by
  induction path generalizing j with
  | nil => cases j <;> rfl
  | cons token path ih =>
    cases j with
    | null =>
      have below := ih .null
      rw [lookup_null] at below
      rw [lookup_null]
      cases index : arrayIndex token <;> simp [touch, index, below]
    | obj members => exact ih _
    | arr items =>
      cases index : arrayIndex token with
      | none => simp [touch, lookup, child, index]
      | some found =>
        simp only [touch, lookup, child, index]
        exact ih _
    | bool b => rfl
    | int i => rfl
    | num x => rfl
    | str s => rfl

/-- Nothing is missing on the way: every token leads to a node, or the walk
throws at one that cannot be a name there. -/
def settled : List String → Json → Bool
  | [], _ => true
  | _ :: _, .null => false
  | token :: path, .obj members =>
    match members.lookup token with
    | some member => settled path member
    | none => false
  | token :: path, .arr items =>
    match arrayIndex token with
    | some index =>
      match items[index]? with
      | some item => settled path item
      | none => false
    | none => true
  | _ :: _, _ => true

theorem setMember_eq_iff (name : String) (value : Json) (members : List (String × Json)) :
    setMember name value members = members ↔ members.lookup name = some value := by
  constructor
  · intro same
    have written := lookup_setMember name name value members
    rwa [same, if_pos rfl] at written
  · intro held
    induction members with
    | nil => cases held
    | cons member rest ih =>
      obtain ⟨key, old⟩ := member
      rw [lookup_member] at held
      by_cases found : key = name
      · rw [if_pos found.symm] at held
        cases held
        simp [setMember, found]
      · rw [if_neg (Ne.symm found)] at held
        simp [setMember, found, ih held]

@[simp] theorem setItem_self (index : Nat) (value : Json) (items : List Json) :
    (setItem index value items)[index]? = some value := by
  have grown : index < (items ++ List.replicate (index + 1 - items.length) null).length := by
    rw [List.length_append, List.length_replicate]
    omega
  exact List.getElem?_set_self grown

theorem setItem_eq_iff (index : Nat) (value : Json) (items : List Json) :
    setItem index value items = items ↔ items[index]? = some value := by
  constructor
  · intro same
    have written := setItem_self index value items
    rwa [same] at written
  · intro held
    obtain ⟨inside, same⟩ := List.getElem?_eq_some_iff.mp held
    have enough : index + 1 - items.length = 0 := by omega
    simp [setItem, enough, ← same]

theorem touch_eq_iff (path : List String) (j : Json) :
    (touch path j).2 = j ↔ settled path j = true := by
  induction path generalizing j with
  | nil => simp [touch, settled]
  | cons token path ih =>
    cases j with
    | null => cases index : arrayIndex token <;> simp [touch, settled, index]
    | obj members =>
      simp only [touch, settled, Json.obj.injEq, setMember_eq_iff]
      cases entry : members.lookup token with
      | none => simp
      | some member => simp [← ih member, eq_comm]
    | arr items =>
      cases index : arrayIndex token with
      | none => simp [touch, settled, index]
      | some found =>
        simp only [touch, settled, index, Json.arr.injEq, setItem_eq_iff]
        cases entry : items[found]? with
        | none => simp
        | some item => simp [← ih item, eq_comm]
    | bool b => simp [touch, settled]
    | int i => simp [touch, settled]
    | num x => simp [touch, settled]
    | str s => simp [touch, settled]

theorem settled_touch (path : List String) (j : Json) : settled path (touch path j).2 = true := by
  induction path generalizing j with
  | nil => simp [settled]
  | cons token path ih =>
    cases j with
    | null =>
      cases index : arrayIndex token with
      | none => simp [touch, settled, index, ih]
      | some found => simp [touch, settled, index, ih]
    | obj members => simp [touch, settled, ih]
    | arr items =>
      cases index : arrayIndex token with
      | none => simp [touch, settled, index]
      | some found => simp [touch, settled, index, ih]
    | bool b => rfl
    | int i => rfl
    | num x => rfl
    | str s => rfl

theorem lookup_touch (path : List String) (j : Json) :
    lookup (touch path j).2 path = lookup j path := by
  induction path generalizing j with
  | nil => cases j <;> rfl
  | cons token path ih =>
    cases j with
    | null =>
      have below : lookup (touch path null).2 path = .ok null := (ih null).trans (lookup_null path)
      rw [lookup_null]
      cases index : arrayIndex token with
      | none => simp [touch, index, lookup, child, below]
      | some found => simp [touch, index, lookup, child, below]
    | obj members =>
      simp only [touch, lookup, child, lookup_setMember, if_pos]
      exact ih _
    | arr items =>
      cases index : arrayIndex token with
      | none => simp [touch, index]
      | some found =>
        simp only [touch, index, lookup, child, setItem_self]
        exact ih _
    | _ => rfl

theorem resolve_touch (common : List String) {token other : String} (rest below : List String)
    (named : ∀ name ∈ common ++ [token], arrayIndex name = none) (apart : other ≠ token) (j : Json) :
    resolve (common ++ other :: below) (touch (common ++ token :: rest) j).2 =
      resolve (common ++ other :: below) j := by
  induction common generalizing j with
  | nil =>
    have name := named token List.mem_cons_self
    cases j <;> simp [touch, resolve, name, lookup_member, apart]
  | cons first common ih =>
    have name := named first List.mem_cons_self
    have later := ih fun name member => named name (List.mem_cons_of_mem first member)
    have nothing : resolve (common ++ other :: below) null = none := by
      cases common <;> rfl
    cases j with
    | null => simp [touch, resolve, name, later, nothing]
    | obj members =>
      simp only [List.cons_append, touch, resolve, lookup_setMember, if_pos]
      rw [Option.bind_some, later]
      cases members.lookup first with
      | none => exact nothing
      | some member => rfl
    | arr items => simp [touch, resolve, name]
    | _ => rfl

theorem mem_setMember {name : String} {value : Json} {members : List (String × Json)}
    {member : String × Json} (held : member ∈ setMember name value members) :
    member = (name, value) ∨ member ∈ members := by
  induction members with
  | nil => exact .inl (List.mem_singleton.mp held)
  | cons first rest ih =>
    obtain ⟨key, old⟩ := first
    unfold setMember at held
    split at held
    · exact (List.mem_cons.mp held).imp_right (List.mem_cons_of_mem _)
    · rcases List.mem_cons.mp held with same | later
      · exact .inr (same ▸ List.mem_cons_self)
      · exact (ih later).imp_right (List.mem_cons_of_mem _)

theorem mem_setItem {index : Nat} {value item : Json} {items : List Json}
    (held : item ∈ setItem index value items) : item = value ∨ item = null ∨ item ∈ items := by
  rcases List.mem_or_eq_of_mem_set held with grown | same
  · rcases List.mem_append.mp grown with old | filled
    · exact .inr (.inr old)
    · exact .inr (.inl (List.eq_of_mem_replicate filled))
  · exact .inl same

theorem Parsed.touch (path : List String) {j : Json} (parsed : j.Parsed) :
    (touch path j).2.Parsed := by
  induction path generalizing j with
  | nil => simpa [Json.touch] using parsed
  | cons token path ih =>
    cases parsed with
    | null =>
      simp only [Json.touch]
      cases arrayIndex token with
      | none => exact .obj _ (List.forall_mem_singleton.mpr (ih .null))
      | some index =>
        refine .arr _ fun item held => ?_
        rcases mem_setItem held with rfl | rfl | none
        · exact ih .null
        · exact .null
        · cases none
    | obj members each =>
      refine .obj _ fun member held => ?_
      rcases mem_setMember held with rfl | old
      · apply ih
        cases entry : members.lookup token with
        | none => exact .null
        | some next =>
          obtain ⟨first, rest, split, -⟩ := List.lookup_eq_some_iff.mp entry
          exact each (token, next) (split ▸ List.mem_append_cons_self)
      · exact each member old
    | arr items each =>
      simp only [Json.touch]
      cases arrayIndex token with
      | none => exact .arr items each
      | some index =>
        refine .arr _ fun item held => ?_
        rcases mem_setItem held with rfl | rfl | old
        · apply ih
          cases entry : items[index]? with
          | none => exact .null
          | some next => exact each next (List.mem_of_getElem? entry)
        · exact .null
        · exact each item old
    | bool b => exact .bool b
    | int i => exact .int i
    | num x number => exact .num x number
    | str s => exact .str s

/-- What is missed is there as a null afterwards. -/
example : (touch ["fan", "speed"] (.obj [("fan", .obj [])])).2 =
    .obj [("fan", .obj [("speed", .null)])] := rfl

end Touch

end Json

instance : JsonDoc Json where
  null := .null
  mergePatch := Json.mergePatch
  getUInt32 := Json.getUInt32

instance : LawfulDoc Json where
  isNull_null := rfl
  isNull_of_isArray j array := by
    cases j with
    | arr items => rfl
    | _ => cases array
  lookup_null j path null := by
    cases j with
    | null => exact Json.lookup_null path
    | _ => cases null
  lookup_append := Json.lookup_append
  isString_iff j := by
    cases j with
    | str s => exact ⟨fun _ => ⟨s, rfl⟩, fun _ => rfl⟩
    | _ =>
      constructor
      · intro no
        cases no
      · rintro ⟨s, no⟩
        cases no
  lookup_mergePatch_array target patch items name found array := by
    cases patch with
    | obj members =>
      have entry : members.lookup name = some items := by
        simp only [JsonLib.lookup, Json.lookup, Json.child] at found
        cases held : members.lookup name with
        | some member => simpa [held] using found
        | none =>
          rw [held] at found
          cases found
          cases array
      have merged := Json.lookup_mergeMembers name target.members members
      rw [entry] at merged
      cases items with
      | arr elements =>
        simp [JsonLib.lookup, JsonDoc.mergePatch, Json.mergePatch, Json.lookup, Json.child, merged]
      | _ => cases array
    | _ => exact found

end GrumpyScreen.Lib
