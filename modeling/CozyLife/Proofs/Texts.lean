import CozyLife.Python.Text
import Mathlib.Tactic.IntervalCases

namespace CozyLife.Python

/-! ### UTF-8 -/

section Utf8

theorem ofNat_val (c : CodePoint) : Fin.ofNat 0x110000 c.val = c := by
  apply Fin.ext
  exact Nat.mod_eq_of_lt c.isLt

theorem toNat_ofNat (h : n < 256) : (UInt8.ofNat n).toNat = n := UInt8.toNat_ofNat_of_lt h

/-- The last byte of a character. -/
theorem utf8Units_last (hn : n < 256) (hlow : low ≤ n) (hhigh : n ≤ high) (bs : Bytes) :
    utf8Units (.tail 0 low high acc) (.ofNat n :: bs) =
      some (Fin.ofNat 0x110000 (acc * 64 + (n - 0x80))) :: utf8Units .start bs := by
  simp only [utf8Units, toNat_ofNat hn, hlow, hhigh, and_self, ↓reduceIte]

/-- A byte in the middle of one. -/
theorem utf8Units_more (hn : n < 256) (hlow : low ≤ n) (hhigh : n ≤ high) (bs : Bytes) :
    utf8Units (.tail (more + 1) low high acc) (.ofNat n :: bs) =
      utf8Units (.tail more 0x80 0xBF (acc * 64 + (n - 0x80))) bs := by
  simp only [utf8Units, toNat_ofNat hn, hlow, hhigh, and_self, ↓reduceIte]

theorem utf8Units_lead {b : UInt8} (h : utf8Lead b = some (.inr st)) (bs : Bytes) :
    utf8Units .start (b :: bs) = utf8Units st bs := by
  simp only [utf8Units, h]

/-- The bounds a first byte of three or four sets for the second one. -/
theorem utf8Lead_three (h : k < 16) : ∃ low high,
    utf8Lead (.ofNat (0xE0 + k)) = some (.inr (.tail 1 low high k)) ∧
      low = (if k = 0 then 0xA0 else 0x80) ∧ high = (if k = 13 then 0x9F else 0xBF) := by
  have h256 : 0xE0 + k < 256 := by omega
  simp only [utf8Lead, toNat_ofNat h256]
  interval_cases k <;> simp

theorem utf8Lead_four (h : k < 5) : ∃ low high,
    utf8Lead (.ofNat (0xF0 + k)) = some (.inr (.tail 2 low high k)) ∧
      low = (if k = 0 then 0x90 else 0x80) ∧ high = (if k = 4 then 0x8F else 0xBF) := by
  have h256 : 0xF0 + k < 256 := by omega
  simp only [utf8Lead, toNat_ofNat h256]
  interval_cases k <;> simp

/-- A character that is written is read back, whatever follows it. -/
theorem utf8Units_char (h : isSurrogate c = false) (bs : Bytes) :
    utf8Units .start (utf8Char c ++ bs) = some c :: utf8Units .start bs := by
  have hlt := c.isLt
  simp only [isSurrogate, Bool.and_eq_false_iff, decide_eq_false_iff_not] at h
  unfold utf8Char
  simp only
  split
  · rename_i h1
    have h256 : c.val < 256 := by omega
    simp only [List.cons_append, List.nil_append, utf8Units, utf8Lead, toNat_ofNat h256, h1,
      ↓reduceIte, ofNat_val]
  · split
    · have h256 : 0xC0 + c.val / 64 < 256 := by omega
      have hlead : utf8Lead (.ofNat (0xC0 + c.val / 64)) =
          some (.inr (.tail 0 0x80 0xBF (c.val / 64))) := by
        simp only [utf8Lead, toNat_ofNat h256]
        rw [if_neg (by omega), if_neg (by omega), if_pos (by omega), Nat.add_sub_cancel_left]
      rw [List.cons_append, List.cons_append, utf8Units_lead hlead,
        utf8Units_last (by omega) (by omega) (by omega),
        show c.val / 64 * 64 + (0x80 + c.val % 64 - 0x80) = c.val by omega, ofNat_val]
      rfl
    · split
      · obtain ⟨low, high, hlead, hlow, hhigh⟩ := utf8Lead_three (k := c.val / 4096) (by omega)
        rw [List.cons_append, List.cons_append, List.cons_append, utf8Units_lead hlead,
          utf8Units_more (by omega) (by split at hlow <;> omega) (by split at hhigh <;> omega),
          utf8Units_last (by omega) (by omega) (by omega),
          show (c.val / 4096 * 64 + (0x80 + c.val / 64 % 64 - 0x80)) * 64 +
            (0x80 + c.val % 64 - 0x80) = c.val by omega, ofNat_val]
        rfl
      · obtain ⟨low, high, hlead, hlow, hhigh⟩ := utf8Lead_four (k := c.val / 262144) (by omega)
        rw [List.cons_append, List.cons_append, List.cons_append, List.cons_append,
          utf8Units_lead hlead,
          utf8Units_more (by omega) (by split at hlow <;> omega) (by split at hhigh <;> omega),
          utf8Units_more (by omega) (by omega) (by omega),
          utf8Units_last (by omega) (by omega) (by omega),
          show ((c.val / 262144 * 64 + (0x80 + c.val / 4096 % 64 - 0x80)) * 64 +
            (0x80 + c.val / 64 % 64 - 0x80)) * 64 + (0x80 + c.val % 64 - 0x80) = c.val by omega,
          ofNat_val]
        rfl

/-- No character of the text is a lone surrogate. -/
def WellFormed (s : Str) : Prop := s.any isSurrogate = false

theorem wellFormed_cons : WellFormed (c :: s) ↔ isSurrogate c = false ∧ WellFormed s := by
  simp only [WellFormed, List.any_cons, Bool.or_eq_false_iff]

theorem utf8Units_text (h : WellFormed s) :
    utf8Units .start (s.flatMap utf8Char) = s.map some := by
  induction s with
  | nil => rfl
  | cons c s ih =>
    obtain ⟨hc, hs⟩ := wellFormed_cons.mp h
    rw [List.flatMap_cons, utf8Units_char hc, ih hs, List.map_cons]

/-- A text that is written is read back. -/
theorem decodeUtf8_text (h : WellFormed s) : decodeUtf8 (s.flatMap utf8Char) = some s := by
  have hall : (s.map some).mapM id = some s := by
    clear h
    induction s with
    | nil => rfl
    | cons c s ih => rw [List.map_cons, List.mapM_cons, ih]; rfl
  rw [decodeUtf8, utf8Units_text h, hall]

theorem decodeReplace_text (h : WellFormed s) : decodeReplace (s.flatMap utf8Char) = s := by
  rw [decodeReplace, utf8Units_text h]
  simp

/-- A byte below 0x80 stands for itself only. -/
theorem mem_utf8Char {b : UInt8} (h : b ∈ utf8Char c) (hb : b.toNat < 0x80) : b.toNat = c.val := by
  have hlt := c.isLt
  unfold utf8Char at h
  simp only at h
  split at h
  · rw [List.mem_singleton.mp h, toNat_ofNat (by omega)]
  · exfalso
    split at h
    · simp only [List.mem_cons, List.not_mem_nil, or_false] at h
      rcases h with rfl | rfl <;> (rw [toNat_ofNat (by omega)] at hb; omega)
    · split at h
      · simp only [List.mem_cons, List.not_mem_nil, or_false] at h
        rcases h with rfl | rfl | rfl <;> (rw [toNat_ofNat (by omega)] at hb; omega)
      · simp only [List.mem_cons, List.not_mem_nil, or_false] at h
        rcases h with rfl | rfl | rfl | rfl <;> (rw [toNat_ofNat (by omega)] at hb; omega)

theorem mem_utf8_text {s : Str} {b : UInt8} (hb : b.toNat < 0x80) (h : b ∈ s.flatMap utf8Char) :
    Fin.ofNat 0x110000 b.toNat ∈ s := by
  obtain ⟨c, hc, hbc⟩ := List.mem_flatMap.mp h
  rw [mem_utf8Char hbc hb, ofNat_val]
  exact hc

theorem utf8Char_ne_nil (c : CodePoint) : utf8Char c ≠ [] := by
  unfold utf8Char
  simp only
  split
  · simp
  · split
    · simp
    · split <;> simp

end Utf8

/-! ### Separators -/

section Separators

variable {sep : CodePoint}

theorem splitOn_eq (s : Str) : splitOn sep s = List.splitOn sep s := by
  induction s with
  | nil => rfl
  | cons c s ih =>
    rw [splitOn, ih, List.splitOn, List.splitOn, List.splitOnP_cons_eq_if_modifyHead]
    simp only [beq_iff_eq]
    split
    · rfl
    · split
      · rename_i h
        exact absurd h (List.splitOnP_ne_nil _ s)
      · rename_i h
        rw [h, List.modifyHead_cons]

/-- Parts without the separator are found again. -/
theorem splitOn_intercalate {parts : List Str} (h : ∀ part ∈ parts, sep ∉ part)
    (hne : parts ≠ []) : splitOn sep ([sep].intercalate parts) = parts := by
  rw [splitOn_eq]
  exact List.splitOn_intercalate sep h hne

theorem partition_append {key : Str} (h : sep ∉ key) (value : Str) :
    partition sep (key ++ sep :: value) = some (key, value) := by
  induction key with
  | nil => simp [partition]
  | cons c key ih =>
    rw [List.mem_cons, not_or] at h
    rw [List.cons_append, partition, if_neg (Ne.symm h.1), ih h.2]
    rfl

end Separators

/-! ### Percent-encoding -/

section Percent

/-- Bytes as percent codes, in digits of either case. -/
inductive Codes : Bytes → Str → Prop
  | nil : Codes [] []
  | cons {b : UInt8} {high low : CodePoint} (hh : hexValue high = some (b.toNat / 16))
      (hl : hexValue low = some (b.toNat % 16)) (h : Codes bs code) :
      Codes (b :: bs) (ofChar '%' :: high :: low :: code)

/-- The second text is the first with each character left as it is or replaced by the codes of its
UTF-8 bytes. The four characters that the framing of a line gives a meaning are always replaced. -/
inductive Encoded : Str → Str → Prop
  | nil : Encoded [] []
  | kept (hpercent : c ≠ ofChar '%') (hamp : c ≠ ofChar '&') (hcr : c ≠ chr 0x0D)
      (hlf : c ≠ chr 0x0A) (h : Encoded text enc) : Encoded (c :: text) (c :: enc)
  | replaced (hc : isSurrogate c = false) (hcode : Codes (utf8Char c) code)
      (h : Encoded text enc) : Encoded (c :: text) (code ++ enc)

theorem Encoded.append {text text' enc enc' : Str} (h : Encoded text enc) (h' : Encoded text' enc') :
    Encoded (text ++ text') (enc ++ enc') := by
  induction h with
  | nil => exact h'
  | kept hpercent hamp hcr hlf h ih => exact .kept hpercent hamp hcr hlf ih
  | replaced hc hcode h ih =>
    rw [List.append_assoc]
    exact .replaced hc hcode ih

theorem unquoteBytes_plain (h : c ≠ ofChar '%') (rest : Str) :
    unquoteBytes (c :: rest) = .ofNat c.val :: unquoteBytes rest := by
  rcases rest with _ | ⟨a, _ | ⟨b, rest⟩⟩
  · rfl
  · rfl
  · rw [unquoteBytes, if_neg h]

/-- A hex digit is ASCII, and neither a separator nor a line end. -/
theorem hexValue_range (h : hexValue c = some n) :
    (0x30 ≤ c.val ∧ c.val ≤ 0x39) ∨ (0x41 ≤ c.val ∧ c.val ≤ 0x46) ∨
      (0x61 ≤ c.val ∧ c.val ≤ 0x66) := by
  unfold hexValue at h
  simp only at h
  split at h
  · exact .inl ‹_›
  · split at h
    · exact .inr (.inl ‹_›)
    · split at h
      · exact .inr (.inr ‹_›)
      · cases h

theorem unquoteBytes_codes (h : Codes bs code) (rest : Str) :
    unquoteBytes (code ++ rest) = bs ++ unquoteBytes rest := by
  induction h with
  | nil => rfl
  | @cons bs code b high low hh hl h ih =>
    have hb : UInt8.ofNat (b.toNat / 16 * 16 + b.toNat % 16) = b := by
      rw [Nat.div_add_mod']
      exact UInt8.ofNat_toNat
    simp only [List.cons_append, unquoteBytes, ↓reduceIte, hh, hl, hb, ih]

theorem codes_ascii (h : Codes bs code) : ∀ c ∈ code, c.val < 0x80 := by
  induction h with
  | nil => simp
  | cons hh hl h ih =>
    intro c hc
    simp only [List.mem_cons] at hc
    rcases hc with rfl | rfl | rfl | hc
    · decide
    · rcases hexValue_range hh with h | h | h <;> omega
    · rcases hexValue_range hl with h | h | h <;> omega
    · exact ih c hc

/-- A run of ASCII decodes to the bytes of the text it encodes. -/
theorem unquoteBytes_encoded (h : Encoded text run) (hascii : ∀ c ∈ run, c.val < 0x80) :
    unquoteBytes run = text.flatMap utf8Char ∧ WellFormed text := by
  induction h with
  | nil => exact ⟨rfl, rfl⟩
  | @kept c text enc hpercent _ _ _ h ih =>
    obtain ⟨hc, henc⟩ := List.forall_mem_cons.mp hascii
    obtain ⟨hbytes, hwell⟩ := ih henc
    have hplain : isSurrogate c = false := by
      simp only [isSurrogate, Bool.and_eq_false_iff, decide_eq_false_iff_not]
      omega
    refine ⟨?_, wellFormed_cons.mpr ⟨hplain, hwell⟩⟩
    rw [unquoteBytes_plain hpercent, hbytes, List.flatMap_cons]
    simp only [utf8Char, hc, ↓reduceIte, List.singleton_append]
  | replaced hc hcode h ih =>
    obtain ⟨hbytes, hwell⟩ := ih (fun c hm => hascii c (List.mem_append_right _ hm))
    refine ⟨?_, wellFormed_cons.mpr ⟨hc, hwell⟩⟩
    rw [unquoteBytes_codes hcode, hbytes, List.flatMap_cons]

theorem unquoteRuns_ascii (run more rest : Str) (h : ∀ c ∈ more, c.val < 0x80) :
    unquoteRuns run (more ++ rest) = unquoteRuns (run ++ more) rest := by
  induction more generalizing run with
  | nil => rw [List.nil_append, List.append_nil]
  | cons c more ih =>
    obtain ⟨hc, hmore⟩ := List.forall_mem_cons.mp h
    rw [List.cons_append, unquoteRuns, if_pos hc, ih _ hmore, List.append_assoc,
      List.singleton_append]

theorem unquoteRuns_encoded {before run text enc : Str} (h : Encoded text enc)
    (hrun : Encoded before run) (hascii : ∀ c ∈ run, c.val < 0x80) :
    unquoteRuns run enc = before ++ text := by
  induction h generalizing before run with
  | nil =>
    obtain ⟨hbytes, hwell⟩ := unquoteBytes_encoded hrun hascii
    rw [unquoteRuns, hbytes, decodeReplace_text hwell, List.append_nil]
  | @kept c text enc hpercent hamp hcr hlf h ih =>
    rw [unquoteRuns]
    split
    · rename_i hc
      rw [ih (hrun.append (.kept hpercent hamp hcr hlf .nil)) ?_, List.append_assoc,
        List.singleton_append]
      intro d hd
      rcases List.mem_append.mp hd with hd | hd
      · exact hascii d hd
      · rwa [List.mem_singleton.mp hd]
    · -- the run ends before a character beyond ASCII
      obtain ⟨hbytes, hwell⟩ := unquoteBytes_encoded hrun hascii
      rw [hbytes, decodeReplace_text hwell, ih .nil (by simp), List.nil_append]
  | @replaced c code text enc hc hcode h ih =>
    have hone : Encoded [c] (code ++ []) := .replaced hc hcode .nil
    rw [List.append_nil] at hone
    have hmore : ∀ d ∈ run ++ code, d.val < 0x80 := by
      intro d hd
      rcases List.mem_append.mp hd with hd | hd
      · exact hascii d hd
      · exact codes_ascii hcode d hd
    rw [unquoteRuns_ascii _ _ _ (codes_ascii hcode), ih (hrun.append hone) hmore,
      List.append_assoc, List.singleton_append]

/-- However a text is percent-encoded character by character, `unquote` gives it back. -/
theorem unquote_encoded {text enc : Str} (h : Encoded text enc) : unquote enc = text :=
  unquoteRuns_encoded h .nil (by simp)

theorem codes_mem (h : Codes bs code) (hc : c ∈ code) :
    c ≠ ofChar '&' ∧ c ≠ chr 0x0D ∧ c ≠ chr 0x0A := by
  have hrange : c.val = 0x25 ∨ (0x30 ≤ c.val ∧ c.val ≤ 0x39) ∨ (0x41 ≤ c.val ∧ c.val ≤ 0x46) ∨
      (0x61 ≤ c.val ∧ c.val ≤ 0x66) := by
    induction h with
    | nil => cases hc
    | cons hh hl h ih =>
      simp only [List.mem_cons] at hc
      rcases hc with rfl | rfl | rfl | hc
      · exact .inl rfl
      · exact .inr (hexValue_range hh)
      · exact .inr (hexValue_range hl)
      · exact ih hc
  have hne : ∀ d : CodePoint, d.val < 0x25 ∨ d.val = 0x26 → c ≠ d := by
    intro d hd he
    subst he
    omega
  exact ⟨hne _ (.inr rfl), hne _ (by decide), hne _ (by decide)⟩

/-- An encoded text fits into a field of a line. -/
theorem encoded_mem {text enc : Str} (h : Encoded text enc) (hc : c ∈ enc) :
    c ≠ ofChar '&' ∧ c ≠ chr 0x0D ∧ c ≠ chr 0x0A := by
  induction h with
  | nil => cases hc
  | kept _ hamp hcr hlf _ ih =>
    rcases List.mem_cons.mp hc with rfl | hc
    · exact ⟨hamp, hcr, hlf⟩
    · exact ih hc
  | replaced _ hcode _ ih =>
    rcases List.mem_append.mp hc with hc | hc
    · exact codes_mem hcode hc
    · exact ih hc

theorem hexValue_hexDigit : ∀ n < 16, hexValue (hexDigit n) = some n := by decide

theorem codes_unsafe (bs : Bytes) (h : ∀ b ∈ bs, alwaysSafe b.toNat = false) :
    Codes bs (bs.flatMap quoteByte) := by
  induction bs with
  | nil => exact .nil
  | cons b bs ih =>
    obtain ⟨hb, hbs⟩ := List.forall_mem_cons.mp h
    have hlt := b.toNat_lt
    rw [List.flatMap_cons, quoteByte, hb]
    exact .cons (hexValue_hexDigit _ (by omega)) (hexValue_hexDigit _ (by omega)) (ih hbs)

/-- `quote` encodes character by character. -/
theorem quote_encoded {text : Str} (h : WellFormed text) :
    Encoded text (quote (text.flatMap utf8Char)) := by
  induction text with
  | nil => exact .nil
  | cons c text ih =>
    obtain ⟨hc, htext⟩ := wellFormed_cons.mp h
    have hrest := ih htext
    rw [List.flatMap_cons, quote, List.flatMap_append]
    cases hsafe : alwaysSafe c.val with
    | true =>
      have hlt : c.val < 0x80 := by
        simp only [alwaysSafe, Bool.or_eq_true, Bool.and_eq_true, decide_eq_true_eq,
          beq_iff_eq] at hsafe
        omega
      have hself : (utf8Char c).flatMap quoteByte = [c] := by
        simp only [utf8Char, hlt, ↓reduceIte, List.flatMap_cons, List.flatMap_nil, quoteByte,
          toNat_ofNat (show c.val < 256 by omega), hsafe, ofNat_val, List.append_nil]
      rw [hself]
      have hne : ∀ d : CodePoint, alwaysSafe d.val = false → c ≠ d := by
        rintro d hd rfl
        rw [hsafe] at hd
        cases hd
      exact .kept (hne _ rfl) (hne _ rfl) (hne _ rfl) (hne _ rfl) hrest
    | false =>
      apply Encoded.replaced hc
      · apply codes_unsafe
        intro b hb
        by_cases hlt : b.toNat < 0x80
        · rw [mem_utf8Char hb hlt, hsafe]
        · simp only [alwaysSafe, Bool.or_eq_false_iff, Bool.and_eq_false_iff,
            decide_eq_false_iff_not, beq_eq_false_iff_ne]
          omega
      · exact hrest

end Percent

end CozyLife.Python
