import CozyLife.Python.Json

namespace CozyLife.Python

/-! Truth and text of the values `json.loads` builds, and the numbers they can be turned into. -/

/-- An interpreter, with what it prints for a list and which characters beyond ASCII `int` reads as
decimal digits. Lists and dicts that are not nested some thousands deep it can print. -/
structure Runtime extends Interpreter where
  listText : List Json → Option Str
  otherDigit : CodePoint → Option Nat
  listText_shallow : ∀ items, (Json.arr items).depth < 4096 → (listText items).isSome
  dictText_shallow : ∀ fields, (Json.obj fields).depth < 4096 → (dictText fields).isSome

/-- `Interpreter.plain`, with a list printed as nothing and no further digits. -/
def Runtime.plain : Runtime :=
  { Interpreter.plain with
    listText := fun _ => some []
    otherDigit := fun _ => none
    listText_shallow := fun _ _ => rfl
    dictText_shallow := fun _ _ => rfl }

/-- `bool(value)`. -/
def Json.truthy : Json → Bool
  | .null => false
  | .bool b => b
  | .int n => n != 0
  | .float x => !x.isZero
  | .str s => !s.isEmpty
  | .arr items => !items.isEmpty
  | .obj fields => !fields.isEmpty

/-- `d.get(key) or None`. -/
def Dict.getTruthy (d : Dict Json) (key : Str) : Option Json := (d.get key).filter Json.truthy

/-- `str(x)`. -/
def Runtime.textOfFloat (rt : Runtime) : PyFloat → Str
  | .nan => str "nan"
  | .infinity false => str "inf"
  | .infinity true => str "-inf"
  | x => rt.floatText x

/-- `str(value)`; `none` stands for `RecursionError`. -/
def Runtime.text (rt : Runtime) : Json → Option Str
  | .null => some (str "None")
  | .bool true => some (str "True")
  | .bool false => some (str "False")
  | .int n => some (intText n)
  | .float x => some (rt.textOfFloat x)
  | .str s => some s
  | .arr items => rt.listText items
  | .obj fields => rt.dictText fields

theorem Runtime.text_shallow (rt : Runtime) {value : Json} (h : value.depth < 4096) :
    (rt.text value).isSome := by
  cases value with
  | arr items => exact rt.listText_shallow items h
  | obj fields => exact rt.dictText_shallow fields h
  | bool b => cases b <;> rfl
  | _ => rfl

theorem depth_of_get {d : Dict Json} {key : Str} {value : Json} (h : d.get key = some value) :
    value.depth ≤ depthFields d := by
  induction d with
  | nil => cases h
  | cons p d ih =>
    obtain ⟨k, v⟩ := p
    rw [Dict.get_cons] at h
    by_cases hk : key = k
    · rw [if_pos hk] at h
      cases h
      exact le_max_left ..
    · rw [if_neg hk] at h
      exact (ih h).trans (le_max_right ..)

theorem depth_of_getTruthy {d : Dict Json} {key : Str} {value : Json}
    (h : Dict.getTruthy d key = some value) : value.depth ≤ depthFields d :=
  depth_of_get (Option.eq_some_of_filter_eq_some h)

/-! ### `int(value)` -/

/-- What `int` drops around a number. Of ASCII it drops less than `str.strip()` does. -/
def intSpace (c : CodePoint) : Bool :=
  if c.val < 0x80 then (0x09 ≤ c.val && c.val ≤ 0x0D) || c.val == 0x20 else isSpace c

def bareNumber (s : Str) : Str := ((s.dropWhile intSpace).reverse.dropWhile intSpace).reverse

def Runtime.digit (rt : Runtime) (c : CodePoint) : Option Nat :=
  if isDigit c then some (c.val - 0x30) else if c.val < 0x80 then none else rt.otherDigit c

/-- Digits, with at most one underscore between two of them. -/
def Runtime.digits (rt : Runtime) : Str → Option (List Nat)
  | [] => none
  | [c] => (rt.digit c).map (fun d => [d])
  | c :: u :: rest => do
    let d ← rt.digit c
    if u = ofChar '_' then return d :: (← digits rt rest) else return d :: (← digits rt (u :: rest))

/-- `int(text)`; `none` stands for `ValueError`. -/
def Runtime.intOfText (rt : Runtime) (s : Str) : Option Int := do
  let bare := bareNumber s
  let (negative, unsigned) := match bare with
    | c :: more =>
      if c = ofChar '-' then (true, more)
      else if c = ofChar '+' then (false, more) else (false, bare)
    | [] => (false, [])
  let ds ← rt.digits unsigned
  if 0 < rt.maxStrDigits ∧ rt.maxStrDigits < ds.length then none
  else
    let n : Nat := ds.foldl (fun acc d => acc * 10 + d) 0
    return if negative then -(n : Int) else n

/-- A finite float with its fraction dropped. -/
def truncate (negative : Bool) (m : Nat) (e : Int) : Int :=
  let n : Nat := if 0 ≤ e then m * 2 ^ e.toNat else m / 2 ^ (-e).toNat
  if negative then -(n : Int) else n

/-- What `int` and `float` raise. -/
inductive ConversionError
  | type
  | value
  | overflow
  deriving DecidableEq

/-- `int(value)`. -/
def Runtime.int (rt : Runtime) : Json → Except ConversionError Int
  | .bool b => .ok (if b then 1 else 0)
  | .int n => .ok n
  | .float .nan => .error .value
  | .float (.infinity _) => .error .overflow
  | .float (.finite negative m e) => .ok (truncate negative m e)
  | .str s => match rt.intOfText s with
    | some n => .ok n
    | none => .error .value
  | _ => .error .type

/-! ### `float(value)` -/

/-- Digits beyond ASCII become the ASCII ones. -/
def Runtime.asciiDigits (rt : Runtime) (s : Str) : Str :=
  s.map (fun c => ((rt.digit c).map ofDigit).getD c)

/-- A text without its underscores, each of which must stand between two digits. `digit` says whether
the character before is one. -/
def dropUnderscores (digit : Bool) : Str → Option Str
  | [] => some []
  | c :: rest =>
    if c = ofChar '_' then
      if digit && rest.head?.any isDigit then dropUnderscores false rest else none
    else (dropUnderscores (isDigit c) rest).map (fun t => c :: t)

def asciiLower (c : CodePoint) : CodePoint :=
  if 0x41 ≤ c.val ∧ c.val ≤ 0x5A then chr (c.val + 0x20) else c

/-- The digits behind a point, which may be missing. -/
def pointDigits : Str → Str × Str
  | c :: rest => if c = ofChar '.' then spanDigits rest else ([], c :: rest)
  | [] => ([], [])

/-- A decimal literal, or the name of a value that has none, its sign taken off. -/
def floatOfUnsigned (negative : Bool) (s : Str) : Option PyFloat :=
  let word := s.map asciiLower
  if word = str "nan" then some .nan
  else if word = str "inf" ∨ word = str "infinity" then some (.infinity negative)
  else
    let (whole, rest) := spanDigits s
    let (fraction, rest) := pointDigits rest
    let (exponent, rest) := scanExponent rest
    if whole ++ fraction = [] ∨ rest ≠ [] then none
    else
      let k : Int := exponent.getD 0 - fraction.length
      some (.ofDecimal negative (digitsValue (whole ++ fraction)) k)

/-- `float(text)`; `none` stands for `ValueError`. -/
def Runtime.floatOfText (rt : Runtime) (s : Str) : Option PyFloat := do
  match ← dropUnderscores false (rt.asciiDigits (bareNumber s)) with
  | [] => none
  | c :: more =>
    if c = ofChar '-' then floatOfUnsigned true more
    else if c = ofChar '+' then floatOfUnsigned false more
    else floatOfUnsigned false (c :: more)

/-- `float(n)`; `none` stands for `OverflowError`. -/
def PyFloat.ofInt (n : Int) : Option PyFloat :=
  match PyFloat.ofRatio (decide (n < 0)) n.natAbs 1 with
  | .infinity _ => none
  | x => some x

/-- `float(value)`. -/
def Runtime.float (rt : Runtime) : Json → Except ConversionError PyFloat
  | .bool b => .ok (.ofRatio false (if b then 1 else 0) 1)
  | .int n => match PyFloat.ofInt n with
    | some x => .ok x
    | none => .error .overflow
  | .float x => .ok x
  | .str s => match rt.floatOfText s with
    | some x => .ok x
    | none => .error .value
  | _ => .error .type

/-- `x * y`. -/
def PyFloat.mul : PyFloat → PyFloat → PyFloat
  | .nan, _ => .nan
  | _, .nan => .nan
  | .infinity a, .infinity b => .infinity (a != b)
  | .infinity a, .finite b m _ => if m = 0 then .nan else .infinity (a != b)
  | .finite a m _, .infinity b => if m = 0 then .nan else .infinity (a != b)
  | .finite a m e, .finite b n f =>
    if 0 ≤ e + f then .ofRatio (a != b) (m * n * 2 ^ (e + f).toNat) 1
    else .ofRatio (a != b) (m * n) (2 ^ (-(e + f)).toNat)

/-- `x.is_integer()`. -/
def PyFloat.isInteger : PyFloat → Bool
  | .finite _ m e => decide (0 ≤ e) || m % 2 ^ (-e).toNat == 0
  | _ => false

end CozyLife.Python
