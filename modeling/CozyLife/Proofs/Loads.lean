import CozyLife.Python.Json
import Mathlib.Data.List.TakeDrop

/-! `json.loads` scans on fuel. Whatever it scans takes a character off the text, so the fuel it
starts with is never used up. -/

namespace CozyLife.Python

theorem skipSpace_length (s : Str) : (skipSpace s).length ≤ s.length :=
  (List.dropWhile_suffix _).length_le

theorem spanDigits_length (s : Str) : (spanDigits s).2.length ≤ s.length := by
  rw [spanDigits, List.span_eq_takeWhile_dropWhile]
  exact (List.dropWhile_suffix _).length_le

/-- Digits that are there are taken off the text. -/
theorem spanDigits_shorter (h : (spanDigits s).1 ≠ []) : (spanDigits s).2.length < s.length := by
  rw [spanDigits, List.span_eq_takeWhile_dropWhile] at h ⊢
  dsimp only at h ⊢
  have hsplit := congrArg List.length (List.takeWhile_append_dropWhile (p := isDigit) (l := s))
  have hpos := List.length_pos_iff.mpr h
  rw [List.length_append] at hsplit
  omega

theorem hex4_shorter (h : hex4 s = some (n, rest)) : rest.length < s.length := by
  unfold hex4 at h
  split at h
  · split at h
    · simp only [Option.some.injEq, Prod.mk.injEq] at h
      obtain ⟨_, rfl⟩ := h
      simp only [List.length_cons]
      omega
    · cases h
  · cases h

theorem lowSurrogate_shorter (h : lowSurrogate s = some (n, rest)) : rest.length < s.length := by
  unfold lowSurrogate at h
  split at h
  · split at h
    · split at h
      · rename_i hhex
        have := hex4_shorter hhex
        split at h
        · simp only [Option.some.injEq, Prod.mk.injEq] at h
          obtain ⟨_, rfl⟩ := h
          simp only [List.length_cons]
          omega
        · cases h
      · cases h
    · cases h
  · cases h

/-! ### Strings -/

/-- One turn of the scan of a string: it refuses the text, it is at the closing quote, or it takes a
character and goes on. Which of these it is does not depend on the fuel. -/
inductive StringTurn (s : Str) : Prop
  | refused (h : ∀ fuel, scanString (fuel + 1) s = .error .decode)
  | closed (rest : Str) (hr : rest.length < s.length)
      (h : ∀ fuel, scanString (fuel + 1) s = .ok ([], rest))
  | taken (c : CodePoint) (rest : Str) (hr : rest.length < s.length)
      (h : ∀ fuel, scanString (fuel + 1) s =
        (scanString fuel rest).map (fun p => (c :: p.1, p.2)))

theorem scanString_turn (s : Str) : StringTurn s := by
  cases s with
  | nil => exact .refused (fun _ => rfl)
  | cons c rest =>
    by_cases hquote : c = ofChar '"'
    · refine .closed rest (by simp) (fun _ => ?_)
      rw [scanString.eq_def]
      simp only [if_pos hquote]
    by_cases hcontrol : c.val < 0x20
    · refine .refused (fun _ => ?_)
      rw [scanString.eq_def]
      simp only [if_neg hquote, if_pos hcontrol]
    by_cases hslash : c ≠ ofChar '\\'
    · refine .taken c rest (by simp) (fun _ => ?_)
      rw [scanString.eq_def]
      simp only [if_neg hquote, if_neg hcontrol, if_pos hslash]
    cases rest with
    | nil =>
      refine .refused (fun _ => ?_)
      rw [scanString.eq_def]
      simp only [if_neg hquote, if_neg hcontrol, if_neg hslash]
    | cons e rest =>
      have hopen := fun fuel => scanString.eq_def (fuel + 1) (c :: e :: rest)
      simp only [if_neg hquote, if_neg hcontrol, if_neg hslash] at hopen
      by_cases hu : e = ofChar 'u'
      · simp only [if_pos hu] at hopen
        cases hhex : hex4 rest with
        | none =>
          simp only [hhex] at hopen
          exact .refused hopen
        | some p =>
          obtain ⟨n, after⟩ := p
          have hafter := hex4_shorter hhex
          simp only [hhex] at hopen
          cases hlow : (if 0xD800 ≤ n ∧ n ≤ 0xDBFF then lowSurrogate after else none) with
          | none =>
            simp only [hlow] at hopen
            exact .taken _ after (by simp only [List.length_cons]; omega) hopen
          | some q =>
            obtain ⟨low, after'⟩ := q
            have hless : after'.length < after.length := by
              split at hlow
              · exact lowSurrogate_shorter hlow
              · cases hlow
            simp only [hlow] at hopen
            exact .taken _ after' (by simp only [List.length_cons]; omega) hopen
      · simp only [if_neg hu] at hopen
        cases hx : simpleEscape e with
        | none =>
          simp only [hx] at hopen
          exact .refused hopen
        | some x =>
          simp only [hx] at hopen
          exact .taken x rest (by simp only [List.length_cons]; omega) hopen

theorem scanString_shorter (h : scanString fuel s = .ok (text, rest)) :
    rest.length < s.length := by
  induction fuel generalizing s text with
  | zero => cases h
  | succ fuel ih =>
    cases scanString_turn s with
    | refused hturn =>
      rw [hturn] at h
      cases h
    | closed rest' hr hturn =>
      rw [hturn] at h
      cases h
      exact hr
    | taken c rest' hr hturn =>
      rw [hturn] at h
      cases hrest : scanString fuel rest' with
      | error e =>
        rw [hrest] at h
        cases h
      | ok p =>
        rw [hrest] at h
        cases h
        exact (ih hrest).trans hr

/-- Fuel beyond the length of the text makes no difference. -/
theorem scanString_fuel (fuel fuel' : Nat) (s : Str) (h : s.length < fuel)
    (h' : s.length < fuel') : scanString fuel s = scanString fuel' s := by
  induction fuel generalizing fuel' s with
  | zero => omega
  | succ fuel ih =>
    obtain ⟨fuel', rfl⟩ : ∃ k, fuel' = k + 1 := ⟨fuel' - 1, by omega⟩
    cases scanString_turn s with
    | refused hturn | closed rest' hr hturn => rw [hturn, hturn]
    | taken c rest' hr hturn => rw [hturn, hturn, ih fuel' rest' (by omega) (by omega)]

/-! ### Numbers and constants -/

theorem scanFraction_length (s : Str) : (scanFraction s).2.length ≤ s.length := by
  unfold scanFraction
  split
  · rename_i c rest
    split
    · exact (spanDigits_length rest).trans (Nat.le_succ _)
    · exact le_rfl
  · exact le_rfl

theorem scanExponent_length (s : Str) : (scanExponent s).2.length ≤ s.length := by
  unfold scanExponent
  split
  · rename_i c rest
    split
    · split
      rename_i negative unsigned hsign
      have hunsigned : unsigned.length ≤ rest.length := by
        split at hsign
        · split at hsign
          · cases hsign
            exact Nat.le_succ _
          · split at hsign <;> cases hsign
            · exact Nat.le_succ _
            · exact le_rfl
        · cases hsign
          exact le_rfl
      have hspan := (spanDigits_length unsigned).trans hunsigned
      split
      · exact le_rfl
      · rename_i hdigits
        rw [hdigits] at hspan
        exact hspan.trans (Nat.le_succ _)
    · exact le_rfl
  · exact le_rfl

section Scan

variable {py : Interpreter}

theorem scanNumber_shorter (h : scanNumber py negative s = .ok (value, rest)) :
    rest.length < s.length := by
  cases s with
  | nil => cases h
  | cons c more =>
    rcases hw : (if c = ofChar '0' then ([c], more) else spanDigits (c :: more)) with
      ⟨whole, after⟩
    simp only [scanNumber, hw] at h
    split at h
    · cases h
    · rename_i hne
      have hlt : after.length < (c :: more).length := by
        split at hw
        · cases hw
          exact Nat.lt_succ_self _
        · have := spanDigits_shorter (s := c :: more) (by rw [hw]; exact hne)
          rwa [hw] at this
      have hfraction := scanFraction_length after
      have hexponent := scanExponent_length (scanFraction after).2
      split at h
      · split at h
        · cases h
        · cases h
          omega
      · cases h
        omega

theorem literal_shorter (h : literal word s = some rest) (hw : word ≠ []) :
    rest.length < s.length := by
  unfold literal at h
  split at h
  · rename_i hpre
    cases h
    have hle := (List.isPrefixOf_iff_prefix.mp hpre).length_le
    have hpos := List.length_pos_iff.mpr hw
    rw [List.length_drop]
    omega
  · cases h

theorem scanConstant_shorter (h : scanConstant py s = .ok (value, rest)) :
    rest.length < s.length := by
  unfold scanConstant at h
  split at h
  · cases h
    exact literal_shorter ‹_› (List.cons_ne_nil _ _)
  split at h
  · cases h
    exact literal_shorter ‹_› (List.cons_ne_nil _ _)
  split at h
  · cases h
    exact literal_shorter ‹_› (List.cons_ne_nil _ _)
  split at h
  · cases h
    exact literal_shorter ‹_› (List.cons_ne_nil _ _)
  split at h
  · cases h
    exact literal_shorter ‹_› (List.cons_ne_nil _ _)
  split at h
  · cases h
    exact literal_shorter ‹_› (List.cons_ne_nil _ _)
  split at h
  · split at h
    · exact (scanNumber_shorter h).trans (Nat.lt_succ_self _)
    · exact scanNumber_shorter h
  · cases h

theorem scanNumber_flat (h : scanNumber py negative s = .ok (value, rest)) : value.depth = 0 := by
  unfold scanNumber at h
  grind [Json.depth]

theorem scanConstant_flat (h : scanConstant py s = .ok (value, rest)) : value.depth = 0 := by
  unfold scanConstant at h
  iterate 6
    split at h
    · cases h
      rfl
  split at h
  · split at h
    · exact scanNumber_flat h
    · exact scanNumber_flat h
  · cases h

/-! ### Values -/

/-- The head of a value: it is decided without looking into anything, or a container starts whose
members or items are scanned next. -/
inductive ValueTurn (py : Interpreter) (depth : Nat) (s : Str) : Prop
  | done (r : Except LoadsError (Json × Str))
      (hr : ∀ value rest, r = .ok (value, rest) → rest.length < s.length ∧ value.depth ≤ 1)
      (h : ∀ fuel, scanOnce py (fuel + 1) depth s = r)
  | fields (depth' : Nat) (body : Str) (hb : body.length < s.length)
      (h : ∀ fuel, scanOnce py (fuel + 1) depth s =
        (scanFields py fuel depth' [] body).map (fun p => (.obj p.1, p.2)))
  | items (depth' : Nat) (body : Str) (hb : body.length < s.length)
      (h : ∀ fuel, scanOnce py (fuel + 1) depth s =
        (scanItems py fuel depth' body).map (fun p => (.arr p.1, p.2)))

theorem scanOnce_turn (py : Interpreter) (depth : Nat) (s : Str) : ValueTurn py depth s := by
  cases s with
  | nil => exact .done _ (fun _ _ h => by cases h) (fun fuel => scanOnce.eq_def py (fuel + 1) _ _)
  | cons c rest =>
    have hopen := fun fuel => scanOnce.eq_def py (fuel + 1) depth (c :: rest)
    by_cases hquote : c = ofChar '"'
    · simp only [if_pos hquote] at hopen
      refine .done _ ?_ hopen
      intro value rest' h
      cases hs : scanString rest.length.succ rest with
      | error e =>
        rw [hs] at h
        cases h
      | ok p =>
        rw [hs] at h
        cases h
        exact ⟨(scanString_shorter hs).trans (Nat.lt_succ_self _), Nat.zero_le _⟩
    have hskip := skipSpace_length rest
    by_cases hbrace : c = ofChar '{'
    · simp only [if_neg hquote, if_pos hbrace] at hopen
      cases depth with
      | zero => exact .done _ (fun _ _ h => by cases h) hopen
      | succ depth =>
        cases hrest : skipSpace rest with
        | nil =>
          simp only [hrest] at hopen
          exact .done _ (fun _ _ h => by cases h) hopen
        | cons d after =>
          rw [hrest, List.length_cons] at hskip
          by_cases hclose : d = ofChar '}'
          · simp only [hrest, if_pos hclose] at hopen
            refine .done _ (fun _ _ h => ?_) hopen
            cases h
            simp only [List.length_cons]
            exact ⟨by omega, le_refl 1⟩
          · simp only [hrest, if_neg hclose] at hopen
            refine .fields depth (d :: after) ?_ hopen
            simp only [List.length_cons]
            omega
    by_cases hbracket : c = ofChar '['
    · simp only [if_neg hquote, if_neg hbrace, if_pos hbracket] at hopen
      cases depth with
      | zero => exact .done _ (fun _ _ h => by cases h) hopen
      | succ depth =>
        cases hrest : skipSpace rest with
        | nil =>
          simp only [hrest] at hopen
          exact .done _ (fun _ _ h => by cases h) hopen
        | cons d after =>
          rw [hrest, List.length_cons] at hskip
          by_cases hclose : d = ofChar ']'
          · simp only [hrest, if_pos hclose] at hopen
            refine .done _ (fun _ _ h => ?_) hopen
            cases h
            simp only [List.length_cons]
            exact ⟨by omega, le_refl 1⟩
          · simp only [hrest, if_neg hclose] at hopen
            refine .items depth (d :: after) ?_ hopen
            simp only [List.length_cons]
            omega
    simp only [if_neg hquote, if_neg hbrace, if_neg hbracket] at hopen
    exact .done _ (fun _ _ h => ⟨scanConstant_shorter h, by rw [scanConstant_flat h]; omega⟩) hopen

/-- What comes after an item: the end of its container, another item, or neither. -/
inductive Separator
  | closed (after : Str)
  | next (after : Str)
  | missing

def separator (close : CodePoint) (s : Str) : Separator :=
  match skipSpace s with
  | [] => .missing
  | d :: after =>
    if d = close then .closed after
    else if d = ofChar ',' then .next (skipSpace after)
    else .missing

theorem separator_closed (h : separator close s = .closed after) : after.length < s.length := by
  have hskip := skipSpace_length s
  unfold separator at h
  split at h
  · cases h
  · rename_i d more hmore
    rw [hmore, List.length_cons] at hskip
    split at h
    · cases h
      omega
    · split at h <;> cases h

theorem separator_next (h : separator close s = .next after) : after.length < s.length := by
  have hskip := skipSpace_length s
  unfold separator at h
  split at h
  · cases h
  · rename_i d more hmore
    rw [hmore, List.length_cons] at hskip
    have hspace := skipSpace_length more
    split at h
    · cases h
    · split at h
      · cases h
        omega
      · cases h

/-- The key of a member, and the text its value starts at. -/
def memberKey : Str → Except LoadsError (Str × Str)
  | [] => .error .decode
  | q :: body =>
    if q ≠ ofChar '"' then .error .decode
    else match scanString body.length.succ body with
      | .error e => .error e
      | .ok (key, rest) => match skipSpace rest with
        | [] => .error .decode
        | colon :: after =>
          if colon ≠ ofChar ':' then .error .decode else .ok (key, skipSpace after)

theorem memberKey_shorter (h : memberKey s = .ok (key, body)) : body.length < s.length := by
  unfold memberKey at h
  split at h
  · cases h
  split at h
  · cases h
  split at h
  · cases h
  rename_i key' rest hkey
  have hrest := scanString_shorter hkey
  have hskip := skipSpace_length rest
  split at h
  · cases h
  rename_i colon after hafter
  rw [hafter, List.length_cons] at hskip
  have hspace := skipSpace_length after
  split at h
  · cases h
  · cases h
    simp only [List.length_cons]
    omega

theorem scanItems_succ (py : Interpreter) (fuel depth : Nat) (s : Str) :
    scanItems py (fuel + 1) depth s =
      match scanOnce py fuel depth s with
      | .error e => .error e
      | .ok (value, rest) => match separator (ofChar ']') rest with
        | .closed after => .ok ([value], after)
        | .next after => (scanItems py fuel depth after).map (fun p => (value :: p.1, p.2))
        | .missing => .error .decode := by
  rw [scanItems.eq_def]
  dsimp only
  rcases scanOnce py fuel depth s with e | ⟨value, rest⟩
  · rfl
  · simp only [separator]
    cases skipSpace rest with
    | nil => rfl
    | cons d after =>
      by_cases hclose : d = ofChar ']'
      · simp only [if_pos hclose]
      · by_cases hcomma : d = ofChar ','
        · simp only [if_neg hclose, if_pos hcomma]
        · simp only [if_neg hclose, if_neg hcomma]

theorem scanFields_succ (py : Interpreter) (fuel depth : Nat) (done : Dict Json) (s : Str) :
    scanFields py (fuel + 1) depth done s =
      match memberKey s with
      | .error e => .error e
      | .ok (key, body) => match scanOnce py fuel depth body with
        | .error e => .error e
        | .ok (value, rest) => match separator (ofChar '}') rest with
          | .closed after => .ok (done.set key value, after)
          | .next after => scanFields py fuel depth (done.set key value) after
          | .missing => .error .decode := by
  rw [scanFields.eq_def]
  cases s with
  | nil => rfl
  | cons q body =>
    by_cases hquote : q ≠ ofChar '"'
    · simp only [memberKey, if_pos hquote]
    simp only [memberKey, if_neg hquote]
    rcases scanString body.length.succ body with e | ⟨key, rest⟩
    · rfl
    dsimp only
    cases skipSpace rest with
    | nil => rfl
    | cons colon after =>
      by_cases hcolon : colon ≠ ofChar ':'
      · simp only [if_pos hcolon]
      simp only [if_neg hcolon]
      rcases scanOnce py fuel depth (skipSpace after) with e | ⟨value, behind⟩
      · rfl
      simp only [separator]
      cases skipSpace behind with
      | nil => rfl
      | cons d more =>
        by_cases hclose : d = ofChar '}'
        · simp only [if_pos hclose]
        · by_cases hcomma : d = ofChar ','
          · simp only [if_neg hclose, if_pos hcomma]
          · simp only [if_neg hclose, if_neg hcomma]

theorem map_ok {f : α → β} {r : Except ε α} (h : r.map f = .ok b) : ∃ a, r = .ok a ∧ f a = b := by
  cases r with
  | error e => cases h
  | ok a => exact ⟨a, rfl, Except.ok.inj h⟩

/-- A container is no deeper than what is in it. -/
theorem depthFields_set (d : Dict Json) (key : Str) (value : Json) :
    depthFields (d.set key value) ≤ max (depthFields d) value.depth := by
  have hmap (d : Dict Json) : depthFields (d.map (fun p => if p.1 == key then (key, value) else p)) ≤
      max (depthFields d) value.depth := by
    induction d with
    | nil => exact Nat.zero_le _
    | cons p d ih =>
      rw [List.map_cons]
      by_cases hk : (p.1 == key) = true
      · rw [if_pos hk]
        simp only [depthFields]
        omega
      · rw [if_neg hk]
        simp only [depthFields]
        omega
  have happend (d : Dict Json) :
      depthFields (d ++ [(key, value)]) ≤ max (depthFields d) value.depth := by
    induction d with
    | nil => simp only [List.nil_append, depthFields]; omega
    | cons p d ih =>
      simp only [List.cons_append, depthFields]
      omega
  unfold Dict.set
  split
  · exact hmap d
  · exact happend d

/-- Whatever is scanned takes a character off the text, and one for each container it is nested in. -/
structure Consumes (py : Interpreter) (fuel : Nat) : Prop where
  value : ∀ depth s value rest, scanOnce py fuel depth s = .ok (value, rest) →
    rest.length < s.length ∧ rest.length + value.depth ≤ s.length
  items : ∀ depth s values rest, scanItems py fuel depth s = .ok (values, rest) →
    rest.length < s.length ∧ rest.length + depthItems values ≤ s.length
  fields : ∀ depth done s fields rest, scanFields py fuel depth done s = .ok (fields, rest) →
    rest.length < s.length ∧ (depthFields fields ≤ depthFields done ∨
      rest.length + depthFields fields ≤ s.length)

theorem scan_consumes (py : Interpreter) (fuel : Nat) : Consumes py fuel := by
  induction fuel with
  | zero =>
    constructor
    · intro depth s value rest h
      simp [scanOnce] at h
    · intro depth s values rest h
      simp [scanItems] at h
    · intro depth done s fields rest h
      simp [scanFields] at h
  | succ fuel ih =>
    constructor
    · intro depth s value rest h
      cases scanOnce_turn py depth s with
      | done r hr hturn =>
        obtain ⟨hshorter, hflat⟩ := hr value rest ((hturn fuel).symm.trans h)
        exact ⟨hshorter, by omega⟩
      | fields depth' body hb hturn =>
        rw [hturn] at h
        obtain ⟨p, hp, he⟩ := map_ok h
        cases he
        obtain ⟨hshorter, hdeep⟩ := ih.fields _ _ _ _ _ hp
        simp only [Json.depth]
        simp only [depthFields] at hdeep
        omega
      | items depth' body hb hturn =>
        rw [hturn] at h
        obtain ⟨p, hp, he⟩ := map_ok h
        cases he
        obtain ⟨hshorter, hdeep⟩ := ih.items _ _ _ _ hp
        simp only [Json.depth]
        omega
    · intro depth s values rest h
      rw [scanItems_succ] at h
      rcases hvalue : scanOnce py fuel depth s with e | ⟨value, behind⟩
      · rw [hvalue] at h
        cases h
      obtain ⟨hbehind, hdeep⟩ := ih.value _ _ _ _ hvalue
      simp only [hvalue] at h
      cases hsep : separator (ofChar ']') behind with
      | closed after =>
        simp only [hsep] at h
        cases h
        have hafter := separator_closed hsep
        simp only [depthItems]
        omega
      | next after =>
        simp only [hsep] at h
        obtain ⟨p, hp, he⟩ := map_ok h
        cases he
        have hafter := separator_next hsep
        obtain ⟨hshorter, hitems⟩ := ih.items _ _ _ _ hp
        simp only [depthItems]
        omega
      | missing =>
        simp only [hsep] at h
        cases h
    · intro depth done s fields rest h
      rw [scanFields_succ] at h
      rcases hkey : memberKey s with e | ⟨key, body⟩
      · rw [hkey] at h
        cases h
      have hbody := memberKey_shorter hkey
      simp only [hkey] at h
      rcases hvalue : scanOnce py fuel depth body with e | ⟨value, behind⟩
      · rw [hvalue] at h
        cases h
      obtain ⟨hbehind, hdeep⟩ := ih.value _ _ _ _ hvalue
      have hset := depthFields_set done key value
      simp only [hvalue] at h
      cases hsep : separator (ofChar '}') behind with
      | closed after =>
        simp only [hsep] at h
        cases h
        have hafter := separator_closed hsep
        omega
      | next after =>
        simp only [hsep] at h
        have hafter := separator_next hsep
        obtain ⟨hshorter, hfields⟩ := ih.fields _ _ _ _ _ h
        omega
      | missing =>
        simp only [hsep] at h
        cases h

/-- With twice the fuel there are characters, what is scanned does not depend on how much it is. An
item needs one more, as it is not yet a character into the text. -/
structure Fueled (py : Interpreter) (fuel : Nat) : Prop where
  value : ∀ fuel' depth s, 2 * s.length < fuel → 2 * s.length < fuel' →
    scanOnce py fuel depth s = scanOnce py fuel' depth s
  items : ∀ fuel' depth s, 2 * s.length + 1 < fuel → 2 * s.length + 1 < fuel' →
    scanItems py fuel depth s = scanItems py fuel' depth s
  fields : ∀ fuel' depth done s, 2 * s.length + 1 < fuel → 2 * s.length + 1 < fuel' →
    scanFields py fuel depth done s = scanFields py fuel' depth done s

theorem scan_fueled (py : Interpreter) (fuel : Nat) : Fueled py fuel := by
  induction fuel with
  | zero => constructor <;> intros <;> omega
  | succ fuel ih =>
    have hsucc : ∀ {n fuel'}, n < fuel' → ∃ k, fuel' = k + 1 := fun {n fuel'} h =>
      ⟨fuel' - 1, by omega⟩
    constructor
    · intro fuel' depth s h h'
      obtain ⟨fuel', rfl⟩ := hsucc h'
      cases scanOnce_turn py depth s with
      | done r hr hturn => rw [hturn, hturn]
      | fields depth' body hb hturn =>
        rw [hturn, hturn, ih.fields fuel' depth' [] body (by omega) (by omega)]
      | items depth' body hb hturn =>
        rw [hturn, hturn, ih.items fuel' depth' body (by omega) (by omega)]
    · intro fuel' depth s h h'
      obtain ⟨fuel', rfl⟩ := hsucc h'
      rw [scanItems_succ, scanItems_succ, ih.value fuel' depth s (by omega) (by omega)]
      rcases hvalue : scanOnce py fuel' depth s with e | ⟨value, behind⟩
      · rfl
      have hbehind := ((scan_consumes py fuel').value _ _ _ _ hvalue).1
      dsimp only
      cases hsep : separator (ofChar ']') behind with
      | closed | missing => rfl
      | next after =>
        have hafter := separator_next hsep
        dsimp only
        rw [ih.items fuel' depth after (by omega) (by omega)]
    · intro fuel' depth done s h h'
      obtain ⟨fuel', rfl⟩ := hsucc h'
      rw [scanFields_succ, scanFields_succ]
      rcases hkey : memberKey s with e | ⟨key, body⟩
      · rfl
      have hbody := memberKey_shorter hkey
      dsimp only
      rw [ih.value fuel' depth body (by omega) (by omega)]
      rcases hvalue : scanOnce py fuel' depth body with e | ⟨value, behind⟩
      · rfl
      have hbehind := ((scan_consumes py fuel').value _ _ _ _ hvalue).1
      dsimp only
      cases hsep : separator (ofChar '}') behind with
      | closed | missing => rfl
      | next after =>
        have hafter := separator_next hsep
        exact ih.fields fuel' depth _ after (by omega) (by omega)

/-- Nothing is nested deeper than the text it is read from is long. -/
theorem loads_depth (h : loads py text = .ok value) : value.depth ≤ text.length := by
  unfold loads at h
  split at h
  · cases h
  · rcases hscan : scanOnce py (2 * text.length + 1) py.maxDepth (skipSpace text) with e | ⟨v, rest⟩
    · rw [hscan] at h
      cases h
    · have hskip := skipSpace_length text
      obtain ⟨_, hdeep⟩ := (scan_consumes py _).value _ _ _ _ hscan
      simp only [hscan] at h
      split at h
      · cases h
        omega
      · cases h

/-- The fuel `json.loads` starts with is never used up: with more of it, the scan is the same. -/
theorem loads_fueled (py : Interpreter) (text : Str) (fuel : Nat) (h : 2 * text.length < fuel) :
    scanOnce py (2 * text.length + 1) py.maxDepth (skipSpace text) =
      scanOnce py fuel py.maxDepth (skipSpace text) := by
  have hskip := skipSpace_length text
  apply (scan_fueled py _).value <;> omega

end Scan

end CozyLife.Python
