import GrumpyScreen.Lib.Path
import GrumpyScreen.Lib.Text
import GrumpyScreen.State

/-! The thumbnail of a file: which one of its metadata is taken, the path it is
joined to and the guard that path has to pass. -/

namespace GrumpyScreen

open Lib

/-- '/' and '\\'. -/
def isSeparator (c : UInt8) : Bool := c = 47 || c = 92

/-- "." -/
def hereDir : Bytes := [46]

/-- ".." -/
def upDir : Bytes := [46, 46]

/-- The loop of `safe_thumb_path`: no component from `start` on is "..". -/
def noUpDir (p : Bytes) (start : Nat) : Bool :=
  if start ≤ p.length then
    match found : Text.findFirstOf isSeparator start p with
    | some sep => (p.drop start).take (sep - start) ≠ upDir && noUpDir p (sep + 1)
    | none => p.drop start ≠ upDir
  else true
termination_by p.length + 1 - start
decreasing_by
  have later := Text.findFirstOf_ge found
  omega

def safeThumbPath (p : Bytes) : Bool :=
  if p.isEmpty || 512 < p.length then false
  else if p.head?.any isSeparator then false
  else if 0 ∈ p then false
  else noUpDir p 0

/-- `std::stoi` on any text: the number it starts with, if it is one and fits. -/
def stoiText (s : Bytes) : Option Int :=
  let s := s.dropWhile Config.isSpace
  let digits :=
    (if s.head? = some 45 || s.head? = some 43 then s.tail else s).takeWhile Config.isDigit
  if digits.isEmpty then none
  else
    let magnitude : Int := digits.foldl (fun n c => 10 * n + (c.toNat - 48)) 0
    let value := if s.head? = some 45 then -magnitude else magnitude
    if -2147483648 ≤ value && value ≤ 2147483647 then some value else none

section Json

variable {J : Type} [JsonLib J]

def isNumber (j : J) : Bool := (JsonLib.getDouble j).toOption.isSome

/-- The width of a thumbnail; whatever is no number and does not start with one is 0. -/
def parseW (t : J) : Int32 :=
  match JsonLib.find t "width" with
  | some w =>
    if isNumber w then .ofInt ((JsonLib.getInt w).toOption.getD 0)
    else
      match JsonLib.getString w with
      | .ok text => .ofInt ((stoiText (bytes text)).getD 0)
      | .error _ => 0
  | none => 0

/-- The relative path of a thumbnail, empty unless it is a string. -/
def relativePath (thumb : J) : Bytes :=
  match JsonLib.find thumb "relative_path" with
  | some rp => if JsonLib.isString rp then bytes ((JsonLib.getString rp).toOption.getD "") else []
  | none => []

/-- How far a width is from the scaled one, as an `int`. -/
def widthDistance (scale : Float) (width : Int32) : Int32 :=
  (scale * 300.0 - Float.ofInt width.toInt).abs.toInt32

/-- An `int` as a `size_t`, and back. -/
def sizeOfInt (width : Int32) : UInt64 := width.toInt64.toUInt64

def intOfSize (width : UInt64) : Int32 := width.toInt64.toInt32

/-- The search for the closest width, up to some thumbnail. -/
structure Closest where
  distance : Int32
  index : UInt32
  width : UInt64

def Closest.narrow (distance : Int32 → Int32) (closest : Closest) (thumb : J × Nat) : Closest :=
  let width := parseW thumb.1
  if distance width < closest.distance then
    { distance := distance width, index := .ofNat thumb.2, width := sizeOfInt width }
  else closest

/-- `get_root_path`. -/
def getRootPath (rootName : String) (s : State J) : Except JsonExn Bytes := do
  let named (item : J) : Bool :=
    match JsonLib.find item "name" with
    | some name => JsonLib.isString name && (JsonLib.getString name).toOption = some rootName
    | none => false
  let filtered := (JsonLib.elements (s.data "roots")).filter named
  if filtered.isEmpty then pure []
  else
    let path ← JsonLib.lookup (JsonLib.array filtered) ["0", "path"]
    bytes <$> JsonLib.getString path

/-- The end of `get_thumbnail`: the path under the gcodes root, relative to the
directory of the gcode file. -/
def joinThumb (s : State J) (gcodeFile relative : Bytes) (width : UInt64) :
    Except JsonExn (Bytes × UInt64) := do
  if relative.isEmpty then pure ([], 0)
  else
    let relative :=
      match Text.findLastOf isSeparator gcodeFile with
      | some found => gcodeFile.take (found + 1) ++ relative
      | none => relative
    if !safeThumbPath relative then pure ([], 0)
    else
      let gcodeRoot ← getRootPath "gcodes" s
      if gcodeRoot.isEmpty then pure ([], 0)
      else
        let fullPath := gcodeRoot ++ 47 :: relative
        if (gcodeRoot ++ [47]).isPrefixOf fullPath then pure (fullPath, width) else pure ([], 0)

/-- `get_thumbnail`, with the distance by which it takes the closest width. -/
def getThumbnail (distance : Int32 → Int32) (s : State J) (gcodeFile : Bytes) (j : J) :
    Except JsonExn (Bytes × UInt64) := do
  let thumbs ← JsonLib.lookup j ["result", "thumbnails"]
  let items := JsonLib.elements thumbs
  if JsonLib.isNull thumbs || items.isEmpty then pure ([], 0)
  else
    let first ← itemAt thumbs 0
    let start : Closest :=
      { distance := distance (parseW first), index := 0, width := sizeOfInt (parseW first) }
    let closest := items.zipIdx.foldl (Closest.narrow distance) start
    let thumb ← itemAt thumbs closest.index.toNat
    joinThumb s gcodeFile (relativePath thumb) closest.width

/-- The zoom of a thumbnail of that width in a 46 pixel slot; none is a division by
zero. -/
def thumbZoom (width : UInt64) : Option Int :=
  if 0 < width then
    if intOfSize width = 0 then none else some (Int.tdiv (46 * 256) (intOfSize width).toInt)
  else some 0

end Json

section Guard

/-- A path that stays below the directory it is joined to. -/
structure Contained (rel : Bytes) : Prop where
  nonempty : rel ≠ []
  short : rel.length ≤ 512
  noNul : 0 ∉ rel
  relative : ∀ c, rel.head? = some c → isSeparator c = false
  inside : (Path.resolve hereDir upDir [] (rel.splitOnP isSeparator)).isSome = true

theorem noUpDir_iff (p : Bytes) (start : Nat) (inside : start ≤ p.length) :
    noUpDir p start = true ↔ upDir ∉ (p.drop start).splitOnP isSeparator := by
  fun_induction noUpDir p start with
  | case1 start _ sep found ih =>
    rw [Text.splitOnP_findFirstOf_some found]
    have before : sep < p.length := Text.findFirstOf_lt found
    rw [Bool.and_eq_true, decide_eq_true_eq, ih before, List.mem_cons, not_or]
    exact and_congr_left' ne_comm
  | case2 start _ none =>
    rw [Text.splitOnP_findFirstOf_none none]
    rw [decide_eq_true_eq, List.mem_singleton]
    exact ne_comm
  | case3 start past => exact absurd inside past

theorem safeThumbPath_contained {p : Bytes} (safe : safeThumbPath p = true) : Contained p := by
  unfold safeThumbPath at safe
  split at safe
  · cases safe
  next sized =>
  split at safe
  · cases safe
  next leads =>
  split at safe
  · cases safe
  next nul =>
  simp only [Bool.or_eq_true, List.isEmpty_iff, decide_eq_true_eq, not_or, Nat.not_lt] at sized
  have absent : upDir ∉ p.splitOnP isSeparator := (noUpDir_iff p 0 (Nat.zero_le _)).mp safe
  obtain ⟨reached, resolved, -⟩ := Path.resolve_of_up_absent hereDir absent []
  refine ⟨sized.1, sized.2, nul, ?_, by rw [resolved]; rfl⟩
  intro c first
  rw [first] at leads
  exact Bool.not_eq_true _ ▸ leads

end Guard

section Thumbnail

variable {J : Type} [JsonDoc J]

theorem itemAt_ok {j : J} {i : Nat} (array : JsonLib.isArray j = true)
    (inside : i < (JsonLib.elements j).length) :
    itemAt j i = .ok (JsonLib.elements j)[i] := by
  rw [itemAt, if_pos array, List.getElem?_eq_getElem inside]

/-- The search keeps to the thumbnails there are and to widths that were an `int`. -/
def Closest.Within (size : Nat) (closest : Closest) : Prop :=
  closest.index.toNat < size ∧ ∃ width : Int32, closest.width = sizeOfInt width

theorem narrow_within {size : Nat} {closest : Closest} (within : closest.Within size)
    (distance : Int32 → Int32) (thumb : J × Nat) (inside : thumb.2 < size) :
    (closest.narrow distance thumb).Within size := by
  unfold Closest.narrow
  simp only
  split
  · refine ⟨?_, parseW thumb.1, rfl⟩
    exact (Nat.mod_le thumb.2 _).trans_lt inside
  · exact within

theorem search_within {items : List J} {start : Closest} (within : start.Within items.length)
    (distance : Int32 → Int32) :
    (items.zipIdx.foldl (Closest.narrow distance) start).Within items.length := by
  have each : ∀ thumb ∈ items.zipIdx, thumb.2 < items.length := by
    intro thumb member
    exact (List.mem_zipIdx' member).1
  generalize items.zipIdx = thumbs at each
  induction thumbs generalizing start with
  | nil => exact within
  | cons thumb rest ih =>
    have first := narrow_within within distance thumb (each thumb (List.mem_cons_self ..))
    exact ih first fun later member => each later (List.mem_cons_of_mem _ member)

theorem thumbZoom_of_int (width : Int32) : (thumbZoom (sizeOfInt width)).isSome = true := by
  have back : intOfSize (sizeOfInt width) = width := by simp [intOfSize, sizeOfInt]
  unfold thumbZoom
  rw [back]
  split
  · next wide =>
    split
    · next zero =>
      subst zero
      exact absurd wide (by decide)
    · rfl
  · rfl

theorem joinThumb_contained {s : State J} {root : Bytes} (known : getRootPath "gcodes" s = .ok root)
    (gcodeFile relative : Bytes) (width : UInt64) :
    joinThumb s gcodeFile relative width = .ok ([], 0) ∨
      ∃ rel, joinThumb s gcodeFile relative width = .ok (root ++ 47 :: rel, width) ∧
        Contained rel := by
  unfold joinThumb
  split
  · exact Or.inl rfl
  simp only [known, bind, Except.bind]
  generalize (match Text.findLastOf isSeparator gcodeFile with
    | some found => gcodeFile.take (found + 1) ++ relative
    | none => relative) = joined
  cases safe : safeThumbPath joined with
  | false => exact Or.inl rfl
  | true =>
    cases root with
    | nil => exact Or.inl rfl
    | cons head tail =>
      have under : (head :: tail ++ [47]).isPrefixOf (head :: tail ++ 47 :: joined) = true := by
        simp
      refine Or.inr ⟨joined, ?_, safeThumbPath_contained safe⟩
      simp only [under, List.isEmpty_cons, Bool.not_true, Bool.false_eq_true, if_false, if_true]
      rfl

/-- For every distance by which the search takes a thumbnail: where the thumbnails
are absent, null or an array, the call returns, and with no path or with one that
stays below the root; and the zoom made of the width is no division by zero. -/
theorem thumbnail_contained (distance : Int32 → Int32) (s : State J) (root : Bytes)
    (known : getRootPath "gcodes" s = .ok root) (gcodeFile : Bytes) (j thumbs : J)
    (found : JsonLib.lookup j ["result", "thumbnails"] = .ok thumbs)
    (listed : JsonLib.isNull thumbs = true ∨ JsonLib.isArray thumbs = true) :
    ∃ path width, getThumbnail distance s gcodeFile j = .ok (path, width) ∧
      (path = [] ∨ ∃ rel, path = root ++ 47 :: rel ∧ Contained rel) ∧
      (thumbZoom width).isSome = true := by
  unfold getThumbnail
  rw [found]
  simp only [bind, Except.bind]
  by_cases absent : (JsonLib.isNull thumbs || (JsonLib.elements thumbs).isEmpty) = true
  · exact ⟨[], 0, if_pos absent, Or.inl rfl, rfl⟩
  simp only [if_neg absent]
  simp only [Bool.or_eq_true, not_or, Bool.not_eq_true] at absent
  obtain ⟨present, filled⟩ := absent
  have array : JsonLib.isArray thumbs = true := by
    rcases listed with null | array
    · rw [present] at null
      cases null
    · exact array
  have more : 0 < (JsonLib.elements thumbs).length :=
    List.length_pos_iff.mpr fun none => by simp [none] at filled
  rw [itemAt_ok array more]
  simp only
  generalize (JsonLib.elements thumbs)[0] = thumb
  let start : Closest :=
    { distance := distance (parseW thumb), index := 0, width := sizeOfInt (parseW thumb) }
  have within : start.Within (JsonLib.elements thumbs).length := ⟨more, parseW thumb, rfl⟩
  have kept := search_within within distance
  generalize (JsonLib.elements thumbs).zipIdx.foldl (Closest.narrow distance) start = closest at kept
  obtain ⟨inside, width, int⟩ := kept
  rw [itemAt_ok array inside]
  simp only
  generalize relativePath (JsonLib.elements thumbs)[closest.index.toNat] = relative
  rcases joinThumb_contained known gcodeFile relative closest.width with none | ⟨rel, joined, below⟩
  · exact ⟨[], 0, none, Or.inl rfl, rfl⟩
  · refine ⟨_, _, joined, Or.inr ⟨rel, rfl, below⟩, ?_⟩
    rw [int]
    exact thumbZoom_of_int width

end Thumbnail

section Witness

/-- A printer that has told of its gcodes root. -/
private def rooted : State Json where
  data key :=
    if key = "roots" then
      .arr [.obj [("name", .str "gcodes"), ("path", .str "/usr/data/printer_data/gcodes")]]
    else .null

/-- A thumbnail that tries to leave the root, one with a width that is no number and
an element that is no object. -/
private def metadata : Json :=
  .obj [("result", .obj [("thumbnails", .arr [
    .obj [("width", .int 32), ("relative_path", .str "../../../etc/shadow")],
    .obj [("width", .str "wide"), ("relative_path", .str ".thumbs/cube-48x48.png")],
    .int 7])])]

theorem thumbnail_contained_metadata :
    ∃ path width, getThumbnail (widthDistance 0.17) rooted (bytes "parts/cube.gcode") metadata =
        .ok (path, width) ∧
      (path = [] ∨ ∃ rel, path = bytes "/usr/data/printer_data/gcodes" ++ 47 :: rel ∧
        Contained rel) ∧
      (thumbZoom width).isSome = true :=
  thumbnail_contained _ _ _ rfl _ _ _ rfl (Or.inr rfl)

end Witness

end GrumpyScreen
