import Mathlib.Data.Nat.Digits.Defs
import Mathlib.Data.List.Basic

namespace CozyLife.Python

/-! The parts of Python's `str` and `bytes` the integration relies on. A string is a list of code
points, lone surrogates included: `json.loads` produces them and `str.encode` refuses them. -/

abbrev Bytes := List UInt8

abbrev CodePoint := Fin 0x110000

abbrev Str := List CodePoint

/-- `chr(n)`. -/
def chr (n : Nat) : CodePoint := Fin.ofNat 0x110000 n

def ofChar (c : Char) : CodePoint := Fin.ofNat 0x110000 c.toNat

/-- A literal of the source. -/
def str (s : String) : Str := s.toList.map ofChar

/-- A literal of the source that is ASCII, as the bytes it encodes to. -/
def ascii (s : String) : Bytes := s.toList.map (fun c => UInt8.ofNat c.toNat)

def isSurrogate (c : CodePoint) : Bool := 0xD800 ≤ c.val && c.val ≤ 0xDFFF

def isDigit (c : CodePoint) : Bool := 0x30 ≤ c.val && c.val ≤ 0x39

/-- `str.strip()` drops these at both ends. JSON knows only four of them. -/
def isSpace (c : CodePoint) : Bool :=
  (0x09 ≤ c.val && c.val ≤ 0x0D) || (0x1C ≤ c.val && c.val ≤ 0x20) || c.val == 0x85 ||
    c.val == 0xA0 || c.val == 0x1680 || (0x2000 ≤ c.val && c.val ≤ 0x200A) || c.val == 0x2028 ||
    c.val == 0x2029 || c.val == 0x202F || c.val == 0x205F || c.val == 0x3000

def strip (s : Str) : Str := ((s.dropWhile isSpace).reverse.dropWhile isSpace).reverse

theorem strip_length (s : Str) : (strip s).length ≤ s.length := by
  rw [strip, List.length_reverse]
  refine (List.dropWhile_sublist isSpace).length_le.trans ?_
  rw [List.length_reverse]
  exact (List.dropWhile_sublist isSpace).length_le

def ofDigit (d : Nat) : CodePoint := Fin.ofNat 0x110000 (0x30 + d)

def natText (n : Nat) : Str :=
  if n = 0 then [ofDigit 0] else ((Nat.digits 10 n).map ofDigit).reverse

/-- `str(n)`, of an integer within the limit on digits. -/
def intText : Int → Str
  | .ofNat n => natText n
  | .negSucc n => ofChar '-' :: natText (n + 1)

/-- The value of a run of ASCII digits. -/
def digitsValue (ds : Str) : Nat := ds.foldl (fun acc d => acc * 10 + (d.val - 0x30)) 0

theorem ofDigit_val (h : d < 10) : (ofDigit d).val = 0x30 + d := by
  simp only [ofDigit, Fin.ofNat]
  omega

theorem natText_digits (n : Nat) : ∀ c ∈ natText n, 0x30 ≤ c.val := by
  intro c hc
  unfold natText at hc
  split at hc
  · rw [List.mem_singleton.mp hc]
    decide
  · obtain ⟨d, hd, rfl⟩ := List.mem_map.mp (List.mem_reverse.mp hc)
    rw [ofDigit_val (Nat.digits_lt_base (by decide) hd)]
    omega

/-- A number printed and read again is the same number. -/
theorem digitsValue_natText (n : Nat) : digitsValue (natText n) = n := by
  have hfold : ∀ ds : List Nat, (∀ d ∈ ds, d < 10) →
      digitsValue (ds.map ofDigit).reverse = Nat.ofDigits 10 ds := by
    intro ds hds
    induction ds with
    | nil => rfl
    | cons d ds ih =>
      obtain ⟨hd, hds⟩ := List.forall_mem_cons.mp hds
      have htail := ih hds
      simp only [digitsValue, List.foldl_reverse, List.map_cons, List.foldr_cons] at htail ⊢
      rw [htail, ofDigit_val hd, Nat.ofDigits_cons]
      omega
  unfold natText
  split
  · rename_i h
    rw [h]
    rfl
  · rw [hfold _ (fun d hd => Nat.digits_lt_base (by decide) hd), Nat.ofDigits_digits]

theorem intText_injective {m n : Int} (h : intText m = intText n) : m = n := by
  -- a digit is not a minus sign
  have hsign : ∀ a b, natText a ≠ ofChar '-' :: natText b := by
    intro a b he
    have := natText_digits a (ofChar '-') (he ▸ List.mem_cons_self)
    exact absurd this (by decide)
  cases m with
  | ofNat a =>
    cases n with
    | ofNat b =>
      have hv : digitsValue (natText a) = digitsValue (natText b) := congrArg digitsValue h
      rw [digitsValue_natText, digitsValue_natText] at hv
      rw [hv]
    | negSucc b => exact absurd h (hsign a (b + 1))
  | negSucc a =>
    cases n with
    | ofNat b => exact absurd h.symm (hsign b (a + 1))
    | negSucc b =>
      have hv : digitsValue (natText (a + 1)) = digitsValue (natText (b + 1)) :=
        congrArg digitsValue (List.cons.inj h).2
      rw [digitsValue_natText, digitsValue_natText] at hv
      rw [Nat.succ_injective hv]

/-! ### UTF-8 -/

def utf8Char (c : CodePoint) : Bytes :=
  let n := c.val
  if n < 0x80 then [.ofNat n]
  else if n < 0x800 then [.ofNat (0xC0 + n / 64), .ofNat (0x80 + n % 64)]
  else if n < 0x10000 then
    [.ofNat (0xE0 + n / 4096), .ofNat (0x80 + n / 64 % 64), .ofNat (0x80 + n % 64)]
  else
    [.ofNat (0xF0 + n / 262144), .ofNat (0x80 + n / 4096 % 64), .ofNat (0x80 + n / 64 % 64),
      .ofNat (0x80 + n % 64)]

/-- `s.encode()`; `none` stands for the `UnicodeEncodeError` a lone surrogate raises. -/
def encodeUtf8 (s : Str) : Option Bytes :=
  if s.any isSurrogate then none else some (s.flatMap utf8Char)

/-- Between two characters, or owing `more + 1` continuation bytes of which the next one lies
between `low` and `high`. -/
inductive Utf8State
  | start
  | tail (more low high acc : Nat)

/-- What a byte at the start of a character opens: the character itself, a longer one, or nothing. -/
def utf8Lead (b : UInt8) : Option (CodePoint ⊕ Utf8State) :=
  let n := b.toNat
  if n < 0x80 then some (.inl (Fin.ofNat 0x110000 n))
  else if n < 0xC2 then none
  else if n < 0xE0 then some (.inr (.tail 0 0x80 0xBF (n - 0xC0)))
  else if n = 0xE0 then some (.inr (.tail 1 0xA0 0xBF 0))
  else if n = 0xED then some (.inr (.tail 1 0x80 0x9F 0xD))
  else if n < 0xF0 then some (.inr (.tail 1 0x80 0xBF (n - 0xE0)))
  else if n = 0xF0 then some (.inr (.tail 2 0x90 0xBF 0))
  else if n < 0xF4 then some (.inr (.tail 2 0x80 0xBF (n - 0xF0)))
  else if n = 0xF4 then some (.inr (.tail 2 0x80 0x8F 4))
  else none

/-- The characters of a byte string, with `none` for each maximal malformed piece. -/
def utf8Units : Utf8State → Bytes → List (Option CodePoint)
  | .start, [] => []
  | .tail _ _ _ _, [] => [none]
  | .start, b :: bs =>
    match utf8Lead b with
    | some (.inl c) => some c :: utf8Units .start bs
    | some (.inr st) => utf8Units st bs
    | none => none :: utf8Units .start bs
  | .tail more low high acc, b :: bs =>
    if low ≤ b.toNat ∧ b.toNat ≤ high then
      let acc := acc * 64 + (b.toNat - 0x80)
      match more with
      | 0 => some (Fin.ofNat 0x110000 acc) :: utf8Units .start bs
      | more + 1 => utf8Units (.tail more 0x80 0xBF acc) bs
    else
      -- the piece ends before this byte, which starts a character of its own
      none :: match utf8Lead b with
        | some (.inl c) => some c :: utf8Units .start bs
        | some (.inr st) => utf8Units st bs
        | none => none :: utf8Units .start bs

/-- `raw.decode("utf-8")`; `none` stands for `UnicodeDecodeError`. -/
def decodeUtf8 (raw : Bytes) : Option Str := (utf8Units .start raw).mapM id

/-- Every character takes a byte. -/
theorem utf8Units_length (st : Utf8State) (raw : Bytes) :
    (utf8Units st raw).length ≤ raw.length + 1 ∧
      (st = .start → (utf8Units st raw).length ≤ raw.length) := by
  induction raw generalizing st with
  | nil => cases st <;> simp [utf8Units]
  | cons b bs ih =>
    have hstart := (ih .start).2 rfl
    have hlead : (match utf8Lead b with
        | some (.inl c) => some c :: utf8Units .start bs
        | some (.inr st) => utf8Units st bs
        | none => none :: utf8Units .start bs).length ≤ bs.length + 1 := by
      rcases utf8Lead b with _ | c | st
      · simpa using hstart
      · simpa using hstart
      · exact (ih st).1
    cases st with
    | start => exact ⟨hlead.trans (Nat.le_succ _), fun _ => hlead⟩
    | tail more low high acc =>
      refine ⟨?_, fun h => nomatch h⟩
      rw [utf8Units]
      split
      · cases more with
        | zero => simp only [List.length_cons]; omega
        | succ more => exact ((ih _).1).trans (Nat.le_succ _)
      · rw [List.length_cons]
        exact Nat.succ_le_succ hlead

theorem decodeUtf8_length {raw : Bytes} {text : Str} (h : decodeUtf8 raw = some text) :
    text.length ≤ raw.length := by
  have hunits := (utf8Units_length .start raw).2 rfl
  rw [decodeUtf8] at h
  have hmap : (utf8Units .start raw).length = text.length := by
    generalize utf8Units .start raw = units at h
    induction units generalizing text with
    | nil => cases h; rfl
    | cons u units ih =>
      rw [List.mapM_cons] at h
      obtain ⟨_, _, h⟩ := Option.bind_eq_some_iff.mp h
      obtain ⟨cs, hcs, h⟩ := Option.bind_eq_some_iff.mp h
      cases h
      rw [List.length_cons, List.length_cons, ih hcs]
  omega

/-- `raw.decode("utf-8", "replace")`. -/
def decodeReplace (raw : Bytes) : Str :=
  (utf8Units .start raw).map (fun c => c.getD (Fin.ofNat 0x110000 0xFFFD))

/-! ### Separators -/

/-- `s.split(sep)` for a one-character separator. -/
def splitOn (sep : CodePoint) : Str → List Str
  | [] => [[]]
  | c :: cs =>
    if c = sep then [] :: splitOn sep cs
    else match splitOn sep cs with
      | [] => [[c]]
      | part :: parts => (c :: part) :: parts

/-- `s.partition(sep)`: `none` when the separator is absent. -/
def partition (sep : CodePoint) : Str → Option (Str × Str)
  | [] => none
  | c :: cs => if c = sep then some ([], cs) else (partition sep cs).map (fun p => (c :: p.1, p.2))

/-! ### Percent-encoding -/

def hexDigit (n : Nat) : CodePoint := Fin.ofNat 0x110000 (if n < 10 then 0x30 + n else 0x37 + n)

def hexValue (c : CodePoint) : Option Nat :=
  let n := c.val
  if 0x30 ≤ n ∧ n ≤ 0x39 then some (n - 0x30)
  else if 0x41 ≤ n ∧ n ≤ 0x46 then some (n - 0x37)
  else if 0x61 ≤ n ∧ n ≤ 0x66 then some (n - 0x57)
  else none

/-- The characters `urllib.parse.quote` never encodes. -/
def alwaysSafe (n : Nat) : Bool :=
  (0x30 ≤ n && n ≤ 0x39) || (0x41 ≤ n && n ≤ 0x5A) || (0x61 ≤ n && n ≤ 0x7A) ||
    n == 0x5F || n == 0x2E || n == 0x2D || n == 0x7E

def quoteByte (b : UInt8) : Str :=
  if alwaysSafe b.toNat then [Fin.ofNat 0x110000 b.toNat]
  else [ofChar '%', hexDigit (b.toNat / 16), hexDigit (b.toNat % 16)]

/-- `urllib.parse.quote(s, safe="")` on the bytes of `s`. -/
def quote (raw : Bytes) : Str := raw.flatMap quoteByte

/-- `urllib.parse.quote_plus(s)`; `none` stands for the `UnicodeEncodeError` of a lone surrogate. -/
def quotePlus (s : Str) : Option Str :=
  (encodeUtf8 s).map (fun raw => raw.flatMap (fun b => if b = 0x20 then str "+" else quoteByte b))

/-- One `key=value` of a query string. -/
def quoteField (field : Str × Str) : Option Str := do
  return (← quotePlus field.1) ++ str "=" ++ (← quotePlus field.2)

/-- `urllib.parse.urlencode(fields)`. -/
def urlencode (fields : List (Str × Str)) : Option Str :=
  (fields.mapM quoteField).map (fun parts => (str "&").intercalate parts)

/-- `urllib.parse.unquote_to_bytes` on ASCII text: a `%` not followed by two hex digits stays. -/
def unquoteBytes : Str → Bytes
  | [] => []
  | [c] => [.ofNat c.val]
  | [c, d] => [.ofNat c.val, .ofNat d.val]
  | c :: h :: l :: rest =>
    if c = ofChar '%' then
      match hexValue h, hexValue l with
      | some hi, some lo => .ofNat (hi * 16 + lo) :: unquoteBytes rest
      | _, _ => .ofNat c.val :: unquoteBytes (h :: l :: rest)
    else .ofNat c.val :: unquoteBytes (h :: l :: rest)

/-- Walk a string by its maximal ASCII runs: `run` is the run being collected, in order. -/
def unquoteRuns (run : Str) : Str → Str
  | [] => decodeReplace (unquoteBytes run)
  | c :: cs =>
    if c.val < 0x80 then unquoteRuns (run ++ [c]) cs
    else decodeReplace (unquoteBytes run) ++ c :: unquoteRuns [] cs

/-- `urllib.parse.unquote(s)`: each ASCII run is unquoted and decoded on its own. -/
def unquote (s : Str) : Str := unquoteRuns [] s

end CozyLife.Python
