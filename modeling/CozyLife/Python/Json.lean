import CozyLife.Python.Text
import Mathlib.Data.Rat.Defs

namespace CozyLife.Python

/-! ### Floats -/

/-- A binary64 value: `finite neg m e` is `±m * 2 ^ e`. -/
inductive PyFloat
  | nan
  | infinity (negative : Bool)
  | finite (negative : Bool) (significand : Nat) (exponent : Int)
  deriving DecidableEq, Repr

def PyFloat.isZero : PyFloat → Bool
  | .finite _ m _ => m == 0
  | _ => false

/-- `num / den` scaled by `2 ^ -e`, as a quotient of naturals. -/
def scaleRatio (num den : Nat) (e : Int) : Nat × Nat :=
  if 0 ≤ e then (num, den * 2 ^ e.toNat) else (num * 2 ^ (-e).toNat, den)

def roundHalfEven (num den : Nat) : Nat :=
  let q := num / den
  let r := num % den
  if den < 2 * r ∨ (2 * r = den ∧ q % 2 = 1) then q + 1 else q

/-- The binary64 value nearest to `±num / den`, ties to even; too small gives zero and too large
gives infinity. -/
def PyFloat.ofRatio (negative : Bool) (num den : Nat) : PyFloat :=
  if num = 0 then .finite negative 0 0
  else
    let guess : Int := (Nat.log2 num : Int) - Nat.log2 den - 52
    let (n, d) := scaleRatio num den guess
    -- the guess leaves a quotient of 52 or 53 bits; denormals keep the least exponent
    let e := max (if n / d < 2 ^ 52 then guess - 1 else guess) (-1074)
    let (n, d) := scaleRatio num den e
    let m := roundHalfEven n d
    let (m, e) := if m = 2 ^ 53 then (2 ^ 52, e + 1) else (m, e)
    if 971 < e then .infinity negative else .finite negative m e

/-- `float` of a decimal literal with digits `m` and decimal exponent `k`. -/
def PyFloat.ofDecimal (negative : Bool) (m : Nat) (k : Int) : PyFloat :=
  if 0 ≤ k then .ofRatio negative (m * 10 ^ k.toNat) 1 else .ofRatio negative m (10 ^ (-k).toNat)

/-! ### Values -/

/-- What `json.loads` builds. An object keeps its keys in order of first appearance. -/
inductive Json
  | null
  | bool (b : Bool)
  | int (n : Int)
  | float (x : PyFloat)
  | str (s : Str)
  | arr (items : List Json)
  | obj (fields : List (Str × Json))

mutual
/-- How deep lists and dicts are nested in a value. -/
def Json.depth : Json → Nat
  | .arr items => depthItems items + 1
  | .obj fields => depthFields fields + 1
  | .null | .bool _ | .int _ | .float _ | .str _ => 0

def depthItems : List Json → Nat
  | [] => 0
  | x :: xs => max x.depth (depthItems xs)

def depthFields : List (Str × Json) → Nat
  | [] => 0
  | (_, v) :: kvs => max v.depth (depthFields kvs)
end

/-- A Python `dict` with string keys. -/
abbrev Dict (α : Type) := List (Str × α)

/-- `d.get(key)`. -/
def Dict.get (d : Dict α) (key : Str) : Option α := List.lookup key d

/-- `d[key] = value`: an existing key keeps its place. -/
def Dict.set (d : Dict α) (key : Str) (value : α) : Dict α :=
  if d.any (fun p => p.1 == key) then
    d.map (fun p => if p.1 == key then (key, value) else p)
  else d ++ [(key, value)]

/-- `d.update(other)`. -/
def Dict.update (d other : Dict α) : Dict α := other.foldl (fun d p => d.set p.1 p.2) d

/-- The keys of a dict are distinct. -/
def Dict.Distinct (d : Dict α) : Prop := (d.map Prod.fst).Nodup

section Dicts

variable (d : Dict α) (key k : Str) (value : α)

theorem Dict.get_cons (p : Str × α) : Dict.get (p :: d) k =
    if k = p.1 then some p.2 else d.get k := by
  obtain ⟨a, v⟩ := p
  by_cases h : k = a
  · subst h
    simp [Dict.get]
  · have hne : (k == a) = false := by simpa using h
    simp [Dict.get, List.lookup_cons, hne, h]

theorem Dict.get_none (h : ∀ p ∈ d, p.1 ≠ k) : d.get k = none := by
  induction d with
  | nil => rfl
  | cons p d ih =>
    obtain ⟨hp, hd⟩ := List.forall_mem_cons.mp h
    rw [Dict.get_cons, if_neg (Ne.symm hp), ih hd]

theorem Dict.get_append (h : ∀ p ∈ d, p.1 ≠ key) :
    Dict.get (d ++ [(key, value)]) k = if k = key then some value else d.get k := by
  induction d with
  | nil => rw [List.nil_append, Dict.get_cons]
  | cons p d ih =>
    obtain ⟨hp, hd⟩ := List.forall_mem_cons.mp h
    rw [List.cons_append, Dict.get_cons, Dict.get_cons, ih hd]
    by_cases hk : k = key
    · rw [if_neg (hk ▸ Ne.symm hp), if_pos hk, if_pos hk]
    · rw [if_neg hk, if_neg hk]

theorem Dict.get_replace : Dict.get (d.map (fun p => if p.1 == key then (key, value) else p)) k =
    if k = key then (d.get k).map (fun _ => value) else d.get k := by
  induction d with
  | nil => simp [Dict.get]
  | cons p d ih =>
    rw [List.map_cons, Dict.get_cons, Dict.get_cons, ih]
    by_cases hp : p.1 = key
    · by_cases hk : k = key <;> simp [hp, hk]
    · by_cases hk : k = key
      · simp [hp, hk, Ne.symm hp]
      · simp [hp, hk]

theorem Dict.get_set : (d.set key value).get k = if k = key then some value else d.get k := by
  unfold Dict.set
  by_cases hany : ∃ p ∈ d, p.1 = key
  · have hsome : ∃ v, d.get key = some v := by
      obtain ⟨p, hp, hkey⟩ := hany
      induction d with
      | nil => cases hp
      | cons q d ih =>
        rw [Dict.get_cons]
        by_cases hq : key = q.1
        · exact ⟨q.2, if_pos hq⟩
        · rw [if_neg hq]
          rcases List.mem_cons.mp hp with rfl | hp
          · exact absurd hkey.symm hq
          · exact ih hp
    obtain ⟨v, hv⟩ := hsome
    rw [if_pos (by simpa using hany), Dict.get_replace]
    by_cases hk : k = key
    · rw [if_pos hk, if_pos hk, hk, hv]
      rfl
    · rw [if_neg hk, if_neg hk]
  · rw [if_neg (by simpa using hany)]
    apply Dict.get_append
    intro p hp he
    exact hany ⟨p, hp, he⟩

/-- An update overlays the entries of the other dict, key by key. -/
theorem Dict.get_update (other : Dict α) (h : other.Distinct) :
    (d.update other).get k = (other.get k).or (d.get k) := by
  induction other generalizing d with
  | nil => rfl
  | cons p other ih =>
    obtain ⟨hp, hother⟩ := List.nodup_cons.mp h
    have hrest := ih (d.set p.1 p.2) hother
    simp only [Dict.update, List.foldl_cons] at hrest ⊢
    rw [hrest, Dict.get_set, Dict.get_cons]
    by_cases hk : k = p.1
    · have hnone : Dict.get other k = none := by
        apply Dict.get_none
        intro q hq he
        exact hp (hk ▸ he ▸ List.mem_map_of_mem hq)
      rw [hnone, if_pos hk, if_pos hk]
      rfl
    · rw [if_neg hk, if_neg hk]

end Dicts

/-- `value == text` in Python. -/
def Json.eqStr : Json → Str → Bool
  | .str s, text => s == text
  | _, _ => false

/-- `value == 0` in Python, where `False` and both float zeros equal `0`. -/
def Json.eqZero : Json → Bool
  | .int n => n == 0
  | .bool b => !b
  | .float x => x.isZero
  | _ => false

/-! ### `json.dumps(value, separators=(",", ":"))`

An integer beyond the limit on digits has no text, and `dumps` raises a `ValueError`: the values here
are those within the limit. -/

/-- `\uXXXX` for one 16-bit unit. -/
def escapeUnit (n : Nat) : Str :=
  let hex (d : Nat) : CodePoint := chr (if d < 10 then 0x30 + d else 0x57 + d)
  [ofChar '\\', ofChar 'u', hex (n / 4096 % 16), hex (n / 256 % 16), hex (n / 16 % 16),
    hex (n % 16)]

def escapeChar (c : CodePoint) : Str :=
  let n := c.val
  if n = 0x22 then str "\\\""
  else if n = 0x5C then str "\\\\"
  else if n = 0x0A then str "\\n"
  else if n = 0x0D then str "\\r"
  else if n = 0x09 then str "\\t"
  else if n = 0x0C then str "\\f"
  else if n = 0x08 then str "\\b"
  else if 0x20 ≤ n ∧ n ≤ 0x7E then [c]
  else if n < 0x10000 then escapeUnit n
  else escapeUnit (0xD800 + (n - 0x10000) / 1024) ++ escapeUnit (0xDC00 + (n - 0x10000) % 1024)

def dumpsStr (s : Str) : Str := ofChar '"' :: (s.flatMap escapeChar ++ [ofChar '"'])

/-- What the code leaves to the interpreter it runs on: the two limits of `json.loads`, how floats,
durations and dicts print, and which hosts beyond ASCII it can turn into IDNA. A dict that is nested
too deep for its `repr`, which is a `RecursionError`, has no text. -/
structure Interpreter where
  maxStrDigits : Nat
  maxDepth : Nat
  floatText : PyFloat → Str
  durationText : ℚ → Str
  dictText : Dict Json → Option Str
  otherHost : Str → Bool

/-- The limits CPython starts with, and nothing about how values print. -/
def Interpreter.plain : Interpreter :=
  ⟨4300, 1000, fun _ => [], fun _ => [], fun _ => some [], fun _ => false⟩

variable (py : Interpreter)

mutual
def dumps : Json → Str
  | .null => str "null"
  | .bool true => str "true"
  | .bool false => str "false"
  | .int n => intText n
  | .float x => py.floatText x
  | .str s => dumpsStr s
  | .arr items => ofChar '[' :: (dumpsItems items ++ [ofChar ']'])
  | .obj fields => ofChar '{' :: (dumpsFields fields ++ [ofChar '}'])

def dumpsItems : List Json → Str
  | [] => []
  | x :: [] => dumps x
  | x :: xs => dumps x ++ ofChar ',' :: dumpsItems xs

def dumpsFields : List (Str × Json) → Str
  | [] => []
  | (k, v) :: [] => dumpsStr k ++ ofChar ':' :: dumps v
  | (k, v) :: kvs => dumpsStr k ++ ofChar ':' :: (dumps v ++ ofChar ',' :: dumpsFields kvs)
end

/-! ### `json.loads(text)` -/

/-- The exceptions of `json.loads`: `JSONDecodeError`, the `ValueError` of an integer literal over
the digit limit, and the `RecursionError` of a value nested too deep. -/
inductive LoadsError
  | decode
  | digits
  | recursion
  deriving DecidableEq, Repr

def isJsonSpace (c : CodePoint) : Bool :=
  c.val == 0x20 || c.val == 0x09 || c.val == 0x0A || c.val == 0x0D

def skipSpace (s : Str) : Str := s.dropWhile isJsonSpace

/-- Four hex digits at the head of `s`. -/
def hex4 : Str → Option (Nat × Str)
  | a :: b :: c :: d :: rest =>
    match hexValue a, hexValue b, hexValue c, hexValue d with
    | some a, some b, some c, some d => some (((a * 16 + b) * 16 + c) * 16 + d, rest)
    | _, _, _, _ => none
  | _ => none

/-- The low half of a surrogate pair, when `s` starts with its escape. -/
def lowSurrogate : Str → Option (Nat × Str)
  | a :: b :: rest =>
    if a = ofChar '\\' ∧ b = ofChar 'u' then
      match hex4 rest with
      | some (n, rest) => if 0xDC00 ≤ n ∧ n ≤ 0xDFFF then some (n, rest) else none
      | none => none
    else none
  | _ => none

def simpleEscape (c : CodePoint) : Option CodePoint :=
  if c = ofChar '"' ∨ c = ofChar '\\' ∨ c = ofChar '/' then some c
  else if c = ofChar 'b' then some (chr 0x08)
  else if c = ofChar 'f' then some (chr 0x0C)
  else if c = ofChar 'n' then some (chr 0x0A)
  else if c = ofChar 'r' then some (chr 0x0D)
  else if c = ofChar 't' then some (chr 0x09)
  else none

/-- The rest of a string literal, after its opening quote. Each turn takes at least one character
off `s`, so `fuel` as long as the text never runs out. -/
def scanString : Nat → Str → Except LoadsError (Str × Str)
  | 0, _ => .error .decode
  | _ + 1, [] => .error .decode
  | fuel + 1, c :: rest =>
    if c = ofChar '"' then .ok ([], rest)
    else if c.val < 0x20 then .error .decode
    else if c ≠ ofChar '\\' then (scanString fuel rest).map (fun p => (c :: p.1, p.2))
    else match rest with
      | [] => .error .decode
      | e :: rest =>
        if e = ofChar 'u' then
          match hex4 rest with
          | none => .error .decode
          | some (n, rest) =>
            match (if 0xD800 ≤ n ∧ n ≤ 0xDBFF then lowSurrogate rest else none) with
            | some (low, rest) =>
              let joined := 0x10000 + (n - 0xD800) * 1024 + (low - 0xDC00)
              (scanString fuel rest).map (fun p => (chr joined :: p.1, p.2))
            | none => (scanString fuel rest).map (fun p => (chr n :: p.1, p.2))
        else match simpleEscape e with
          | some x => (scanString fuel rest).map (fun p => (x :: p.1, p.2))
          | none => .error .decode

/-- The digits at the head of `s`, and what follows them. -/
def spanDigits (s : Str) : Str × Str := s.span isDigit

/-- A fraction at the head of `s`: a point needs a digit after it to belong to the number. -/
def scanFraction : Str → Str × Str
  | c :: rest =>
    if c = ofChar '.' ∧ (spanDigits rest).1 ≠ [] then spanDigits rest else ([], c :: rest)
  | [] => ([], [])

def scanExponent : Str → Option Int × Str
  | c :: rest =>
    if c = ofChar 'e' ∨ c = ofChar 'E' then
      let (negative, unsigned) := match rest with
        | s :: more =>
          if s = ofChar '-' then (true, more)
          else if s = ofChar '+' then (false, more) else (false, rest)
        | [] => (false, [])
      match spanDigits unsigned with
      | ([], _) => (none, c :: rest)
      | (ds, after) => (some (if negative then -(digitsValue ds : Int) else digitsValue ds), after)
    else (none, c :: rest)
  | [] => (none, [])

/-- A number whose sign has been taken off. An integer over the digit limit is refused with a plain
`ValueError`; a float is not, however long. -/
def scanNumber (negative : Bool) (s : Str) : Except LoadsError (Json × Str) :=
  let (whole, rest) := match s with
    | c :: more => if c = ofChar '0' then ([c], more) else spanDigits s
    | [] => ([], [])
  if whole = [] then .error .decode
  else
    let (fraction, rest) := scanFraction rest
    let (exponent, rest) := scanExponent rest
    if fraction = [] ∧ exponent = none then
      if 0 < py.maxStrDigits ∧ py.maxStrDigits < whole.length then .error .digits
      else
        let n : Int := digitsValue whole
        .ok (.int (if negative then -n else n), rest)
    else
      let k : Int := exponent.getD 0 - fraction.length
      .ok (.float (PyFloat.ofDecimal negative (digitsValue (whole ++ fraction)) k), rest)

/-- `rest` after the literal `word`, when `s` starts with it. -/
def literal (word s : Str) : Option Str :=
  if word.isPrefixOf s then some (s.drop word.length) else none

def scanConstant (s : Str) : Except LoadsError (Json × Str) :=
  match literal (str "null") s with
  | some rest => .ok (.null, rest)
  | none => match literal (str "true") s with
    | some rest => .ok (.bool true, rest)
    | none => match literal (str "false") s with
      | some rest => .ok (.bool false, rest)
      | none => match literal (str "NaN") s with
        | some rest => .ok (.float .nan, rest)
        | none => match literal (str "Infinity") s with
          | some rest => .ok (.float (.infinity false), rest)
          | none => match literal (str "-Infinity") s with
            | some rest => .ok (.float (.infinity true), rest)
            | none => match s with
              | c :: rest =>
                if c = ofChar '-' then scanNumber py true rest else scanNumber py false s
              | [] => .error .decode

mutual
/-- One value at the head of `s`, which has no leading whitespace. `depth` counts down the nesting
the interpreter still allows; between two calls on values a character is taken, so `fuel` of twice
the length of the text never runs out. -/
def scanOnce : (fuel depth : Nat) → Str → Except LoadsError (Json × Str)
  | 0, _, _ => .error .decode
  | fuel + 1, depth, s =>
    match s with
    | [] => .error .decode
    | c :: rest =>
      if c = ofChar '"' then (scanString rest.length.succ rest).map (fun p => (.str p.1, p.2))
      else if c = ofChar '{' then
        match depth with
        | 0 => .error .recursion
        | depth + 1 =>
          match skipSpace rest with
          | d :: after =>
            if d = ofChar '}' then .ok (.obj [], after)
            else (scanFields fuel depth [] (d :: after)).map (fun p => (.obj p.1, p.2))
          | [] => .error .decode
      else if c = ofChar '[' then
        match depth with
        | 0 => .error .recursion
        | depth + 1 =>
          match skipSpace rest with
          | d :: after =>
            if d = ofChar ']' then .ok (.arr [], after)
            else (scanItems fuel depth (d :: after)).map (fun p => (.arr p.1, p.2))
          | [] => .error .decode
      else scanConstant py s

/-- The items of an array up to its closing bracket. -/
def scanItems : (fuel depth : Nat) → Str → Except LoadsError (List Json × Str)
  | 0, _, _ => .error .decode
  | fuel + 1, depth, s =>
    match scanOnce fuel depth s with
    | .error e => .error e
    | .ok (value, rest) =>
      match skipSpace rest with
      | [] => .error .decode
      | d :: after =>
        if d = ofChar ']' then .ok ([value], after)
        else if d = ofChar ',' then
          (scanItems fuel depth (skipSpace after)).map (fun p => (value :: p.1, p.2))
        else .error .decode

/-- The members of an object up to its closing brace, added to those read so far. -/
def scanFields : (fuel depth : Nat) → Dict Json → Str → Except LoadsError (Dict Json × Str)
  | 0, _, _, _ => .error .decode
  | fuel + 1, depth, done, s =>
    match s with
    | [] => .error .decode
    | q :: body =>
      if q ≠ ofChar '"' then .error .decode
      else match scanString body.length.succ body with
        | .error e => .error e
        | .ok (key, rest) =>
          match skipSpace rest with
          | [] => .error .decode
          | colon :: after =>
            if colon ≠ ofChar ':' then .error .decode
            else match scanOnce fuel depth (skipSpace after) with
              | .error e => .error e
              | .ok (value, rest) =>
                match skipSpace rest with
                | [] => .error .decode
                | d :: after =>
                  if d = ofChar '}' then .ok (done.set key value, after)
                  else if d = ofChar ',' then
                    scanFields fuel depth (done.set key value) (skipSpace after)
                  else .error .decode
end

/-- A leading byte-order mark is refused, and so is anything after the value. -/
def loads (text : Str) : Except LoadsError Json :=
  if text.head? = some (chr 0xFEFF) then .error .decode
  else match scanOnce py (2 * text.length + 1) py.maxDepth (skipSpace text) with
    | .error e => .error e
    | .ok (value, rest) => if skipSpace rest = [] then .ok value else .error .decode

end CozyLife.Python
