/-! The document library the panel reads Moonraker's messages with, as a
parameter: the operations used, the laws relied on and one concrete instance. -/

namespace GrumpyScreen.Lib

/-- The exceptions a read of a document can throw. -/
inductive JsonExn where
  | parseError
  | typeError
  | outOfRange
deriving DecidableEq, Repr

/-- A document library. `lookup` is `operator[]` on a pointer, which yields null
for an absent node; `value` is the checked read with a null default. -/
class JsonLib (J : Type) where
  lookup : J → List String → Except JsonExn J
  value : J → List String → Except JsonExn J
  contains : J → String → Bool
  find : J → String → Option J
  isNull : J → Bool
  isArray : J → Bool
  isString : J → Bool
  elements : J → List J
  getDouble : J → Except JsonExn Float
  getInt : J → Except JsonExn Int
  getString : J → Except JsonExn String
  valueString : J → String → String → Except JsonExn String
  valueDouble : J → String → Float → Except JsonExn Float
  object : List (String × J) → J
  array : List J → J

/-- A pointer walks the members of an object by name and those of an array by
index; on an object the checked read agrees with a walk that did not throw. -/
class LawfulJson (J : Type) [JsonLib J] : Prop where
  lookup_object (name : String) (member : J) (rest : List (String × J)) (path : List String) :
    JsonLib.lookup (JsonLib.object ((name, member) :: rest)) (name :: path) =
      JsonLib.lookup member path
  lookup_array (head : J) (tail : List J) (path : List String) :
    JsonLib.lookup (JsonLib.array (head :: tail)) ("0" :: path) = JsonLib.lookup head path
  value_of_lookup (members : List (String × J)) (path : List String) (found : J) :
    JsonLib.lookup (JsonLib.object members) path = .ok found →
      JsonLib.value (JsonLib.object members) path = .ok found

section Pointers

/-- A reference token as it is unescaped; `~` stands before `0` and `1` only. -/
def unescape : List Char → Except JsonExn (List Char)
  | [] => .ok []
  | c :: rest =>
    if c = '~' then
      match rest with
      | '0' :: rest => (unescape rest).map ('~' :: ·)
      | '1' :: rest => (unescape rest).map ('/' :: ·)
      | _ => .error .parseError
    else (unescape rest).map (c :: ·)

/-- The tokens that a name formatted into a pointer makes. -/
def pointerPath (name : String) : Except JsonExn (List String) :=
  (name.toList.splitOn '/').mapM fun token => (unescape token).map String.ofList

end Pointers

/-- Documents as a tree. -/
inductive Json where
  | null
  | bool (b : Bool)
  | int (i : Int)
  | num (x : Float)
  | str (s : String)
  | arr (items : List Json)
  | obj (members : List (String × Json))

namespace Json

/-- An array token of a pointer: decimal digits only. -/
def arrayIndex (token : String) : Option Nat :=
  let digits := token.toList
  if digits.isEmpty || !digits.all Char.isDigit then none
  else some (digits.foldl (fun n c => 10 * n + (c.toNat - '0'.toNat)) 0)

/-- One token of a pointer; an absent member reads as null. -/
def child (token : String) : Json → Except JsonExn Json
  | .null => .ok .null
  | .obj members => .ok ((members.lookup token).getD .null)
  | .arr items =>
    match arrayIndex token with
    | some index => .ok (items[index]?.getD .null)
    | none => .error .parseError
  | _ => .error .outOfRange

def lookup : Json → List String → Except JsonExn Json
  | j, [] => .ok j
  | j, token :: path =>
    match child token j with
    | .ok next => lookup next path
    | .error thrown => .error thrown

/-- The checked walk: a node that cannot be resolved yields the null default. -/
def valueAt : Json → List String → Except JsonExn Json
  | j, [] => .ok j
  | .obj members, token :: path =>
    match members.lookup token with
    | some next => valueAt next path
    | none => .ok .null
  | .arr items, token :: path =>
    match arrayIndex token with
    | some index =>
      match items[index]? with
      | some next => valueAt next path
      | none => .ok .null
    | none => .error .parseError
  | _, _ :: _ => .ok .null

/-- `value` is defined on objects only. -/
def value : Json → List String → Except JsonExn Json
  | .obj members, path => valueAt (.obj members) path
  | _, _ => .error .typeError

theorem lookup_null (path : List String) : lookup .null path = .ok .null := by
  induction path with
  | nil => rfl
  | cons token path ih => exact ih

theorem valueAt_of_lookup {j found : Json} {path : List String}
    (walked : lookup j path = .ok found) : valueAt j path = .ok found := by
  induction path generalizing j with
  | nil =>
    cases j <;> exact walked
  | cons token path ih =>
    cases j with
    | null => exact (lookup_null path).symm.trans walked
    | obj members =>
      simp only [lookup, child, valueAt] at walked ⊢
      cases entry : members.lookup token with
      | some next =>
        rw [entry] at walked
        exact ih walked
      | none =>
        rw [entry] at walked
        exact (lookup_null path).symm.trans walked
    | arr items =>
      simp only [lookup, child, valueAt] at walked ⊢
      cases parsed : arrayIndex token with
      | none => simp [parsed] at walked
      | some index =>
        simp only [parsed] at walked ⊢
        cases entry : items[index]? with
        | some next =>
          rw [entry] at walked
          exact ih walked
        | none =>
          rw [entry] at walked
          exact (lookup_null path).symm.trans walked
    | bool b => simp [lookup, child] at walked
    | int i => simp [lookup, child] at walked
    | num x => simp [lookup, child] at walked
    | str s => simp [lookup, child] at walked

def getDouble : Json → Except JsonExn Float
  | .int i => .ok (Float.ofInt i)
  | .num x => .ok x
  | _ => .error .typeError

/-- `get<int>`: a number is narrowed to 32 bits. -/
def getInt : Json → Except JsonExn Int
  | .int i => .ok (Int32.ofInt i).toInt
  | .num x => .ok x.toInt32.toInt
  | .bool b => .ok (if b then 1 else 0)
  | _ => .error .typeError

def getString : Json → Except JsonExn String
  | .str s => .ok s
  | _ => .error .typeError

def find : Json → String → Option Json
  | .obj members, name => members.lookup name
  | _, _ => none

def elements : Json → List Json
  | .arr items => items
  | .obj members => members.map Prod.snd
  | .null => []
  | j => [j]

/-- `value` with a key: defined on objects, the member must have the type of
the default. -/
def valueOr (get : Json → Except JsonExn α) (j : Json) (name : String) (default : α) :
    Except JsonExn α :=
  match j with
  | .obj members =>
    match members.lookup name with
    | some member => get member
    | none => .ok default
  | _ => .error .typeError

end Json

instance : JsonLib Json where
  lookup := Json.lookup
  value := Json.value
  contains j name := (Json.find j name).isSome
  find := Json.find
  isNull | .null => true | _ => false
  isArray | .arr _ => true | _ => false
  isString | .str _ => true | _ => false
  elements := Json.elements
  getDouble := Json.getDouble
  getInt := Json.getInt
  getString := Json.getString
  valueString := Json.valueOr Json.getString
  valueDouble := Json.valueOr Json.getDouble
  object := .obj
  array := .arr

instance : LawfulJson Json where
  lookup_object name member rest path := by
    show Json.lookup (.obj _) _ = _
    simp [Json.lookup, Json.child, JsonLib.lookup]
  lookup_array head tail path := by
    have zero : Json.arrayIndex "0" = some 0 := by decide
    show Json.lookup (.arr _) _ = _
    simp [Json.lookup, Json.child, zero, JsonLib.lookup]
  value_of_lookup _ _ _ walked := Json.valueAt_of_lookup walked

end GrumpyScreen.Lib
