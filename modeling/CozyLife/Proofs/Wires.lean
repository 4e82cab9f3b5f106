import CozyLife.Proofs.Relay
import CozyLife.Proofs.Texts
import Mathlib.Data.List.Forall2

namespace CozyLife
open Python Effects Lines

/-! ### Loops over a stream that arrives -/

/-- A turn that ends the lines without an exception: it is too late, nothing comes, or the peer has
closed. -/
def Turn.Ends (deadline : ℚ) (turn : Turn) : Prop :=
  deadline ≤ turn.now ∨ turn.read = .timedOut ∨ turn.read = .received []

/-- The turns bring these bytes, cut into chunks anywhere, and then nothing more. -/
inductive Carries (deadline : ℚ) : List Turn → Bytes → Prop
  | done : Carries deadline [] []
  | ends {turn : Turn} (h : turn.Ends deadline) (turns : List Turn) :
      Carries deadline (turn :: turns) []
  | chunk {turn : Turn} {chunk : Bytes} (hnow : turn.now < deadline)
      (hread : turn.read = .received chunk) (hne : chunk ≠ [])
      (h : Carries deadline turns rest) : Carries deadline (turn :: turns) (chunk ++ rest)

theorem Turn.Ends.pull {turn : Turn} {deadline : ℚ} (h : turn.Ends deadline) (conn : LineSocket) :
    (conn.pull deadline turn).2.2 = .ended ∧
      (conn.pull deadline turn).2.1.buffer = conn.buffer := by
  by_cases hlate : deadline - turn.now ≤ 0
  · simp only [LineSocket.pull, hlate, ↓reduceIte, and_self]
  · obtain h | h | h := h
    · exact absurd (sub_nonpos.mpr h) hlate
    · simp only [LineSocket.pull, hlate, h, ↓reduceIte, and_self]
    · simp only [LineSocket.pull, hlate, h, ↓reduceIte, List.append_nil, and_self]

theorem drain_folds {body : β → Bytes → Verdict β α} {f : β → Bytes → β} {b : β} {s : Bytes}
    (hbody : ∀ line ∈ completeLines s, ∀ b, body b line = .next (f b line)) :
    drain body b s = (completeLines s, unterminated s, .next ((completeLines s).foldl f b)) := by
  induction s using Delimited.cut_induction (x := (0x0D : UInt8)) (y := 0x0A) generalizing b with
  | stop s h =>
    rw [drain_none h]
    simp [completeLines, unterminated, Delimited.records_none h, Delimited.tail_none h]
  | step s l r h ih =>
    rw [completeLines_cut h] at hbody ⊢
    rw [show unterminated s = unterminated r from Delimited.tail_some h]
    by_cases hl : l = []
    · subst hl
      rw [if_pos rfl, List.nil_append] at hbody ⊢
      rw [drain_blank h, ih hbody]
    · rw [if_neg hl, List.singleton_append] at hbody ⊢
      obtain ⟨hfirst, hrest⟩ := List.forall_mem_cons.mp hbody
      rw [drain_next h hl (hfirst b), ih hrest]
      rfl

/-- However the bytes are cut, a body that asks for more after every line is given each complete
line once and in order. -/
theorem lines_carried (body : β → Bytes → Verdict β α) (f : β → Bytes → β) {deadline : ℚ}
    {turns : List Turn} {s : Bytes} (h : Carries deadline turns s) (conn : LineSocket) (b : β)
    (hbody : ∀ line ∈ completeLines (conn.buffer ++ s), ∀ b, body b line = .next (f b line)) :
    (conn.lines body deadline turns b).given = completeLines (conn.buffer ++ s) ∧
      (conn.lines body deadline turns b).exit =
        .ended ((completeLines (conn.buffer ++ s)).foldl f b) ∧
      (conn.lines body deadline turns b).conn.buffer = unterminated (conn.buffer ++ s) := by
  induction h generalizing conn b with
  | done =>
    rw [List.append_nil] at hbody ⊢
    rw [LineSocket.lines]
    simp only [drain_folds hbody, and_self]
  | @ends turn h turns =>
    rw [List.append_nil] at hbody ⊢
    obtain ⟨hstop, hbuffer⟩ := h.pull { conn with buffer := unterminated conn.buffer }
    rcases hp : LineSocket.pull { conn with buffer := unterminated conn.buffer } deadline turn
      with ⟨evs, conn', stop⟩
    rw [hp] at hstop hbuffer
    obtain rfl : stop = .ended := hstop
    have hleft : conn'.buffer = unterminated conn.buffer := hbuffer
    rw [LineSocket.lines]
    simp only [drain_folds hbody, hp, hleft, and_self]
  | @chunk turns rest turn chunk hnow hread hne h ih =>
    have hfirst : ∀ line ∈ completeLines conn.buffer, ∀ b, body b line = .next (f b line) := by
      intro line hl
      apply hbody
      rw [completeLines_append]
      exact List.mem_append_left _ hl
    have hpull : LineSocket.pull { conn with buffer := unterminated conn.buffer } deadline turn =
        ([.read conn.sock (some (deadline - turn.now)) chunk],
          { conn with timeout := some (deadline - turn.now),
                      buffer := unterminated conn.buffer ++ chunk }, .more) := by
      have hopen : ¬ deadline - turn.now ≤ 0 := by
        rw [sub_nonpos]
        exact not_le.mpr hnow
      simp only [LineSocket.pull, hopen, hread, hne, ↓reduceIte]
    have hlater := ih
      { conn with timeout := some (deadline - turn.now),
                  buffer := unterminated conn.buffer ++ chunk }
      ((completeLines conn.buffer).foldl f b)
    simp only [List.append_assoc] at hlater
    obtain ⟨hgiven, hexit, hbuffer⟩ := hlater (by
      intro line hl
      apply hbody
      rw [completeLines_append]
      exact List.mem_append_right _ hl)
    rw [LineSocket.lines]
    simp only [drain_folds hfirst, hpull, hgiven, hexit, hbuffer, completeLines_append conn.buffer,
      unterminated_append conn.buffer, List.foldl_append, and_self]

/-- Lines without a carriage return, each with its terminator. -/
theorem completeLines_join {ls : List Bytes} (h : ∀ l ∈ ls, 0x0D ∉ l ∧ l ≠ []) :
    completeLines (ls.flatMap (fun l => l ++ TERMINATOR)) = ls := by
  have hjoin := (Delimited.split_join (x := (0x0D : UInt8)) (y := 0x0A) ls
    (fun l hl => (h l hl).1)).1
  rw [completeLines, show TERMINATOR = [0x0D, 0x0A] from rfl, hjoin]
  apply List.filter_eq_self.mpr
  intro l hl
  simpa using (h l hl).2

/-! ### The text of a frame -/

/-- The character prints, and is ASCII. -/
def isPrintable (c : CodePoint) : Bool := 0x20 ≤ c.val && c.val ≤ 0x7E

def Printable (s : Str) : Prop := ∀ c ∈ s, isPrintable c = true

section Printable

theorem isPrintable_iff (c : CodePoint) :
    isPrintable c = true ↔ 0x20 ≤ c.val ∧ c.val ≤ 0x7E := by
  simp only [isPrintable, Bool.and_eq_true, decide_eq_true_eq]

theorem Printable.append {s t : Str} (hs : Printable s) (ht : Printable t) :
    Printable (s ++ t) := by
  intro c hc
  rcases List.mem_append.mp hc with hc | hc
  · exact hs c hc
  · exact ht c hc

theorem Printable.cons {s : Str} {c : CodePoint} (hc : isPrintable c = true) (hs : Printable s)
    : Printable (c :: s) :=
  List.forall_mem_cons.mpr ⟨hc, hs⟩

theorem printable_escapeUnit (n : Nat) : Printable (escapeUnit n) := by
  have hhex : ∀ d < 16, isPrintable (chr (if d < 10 then 0x30 + d else 0x57 + d)) = true := by
    decide
  apply Printable.cons rfl
  apply Printable.cons rfl
  apply Printable.cons (hhex _ (Nat.mod_lt _ (Nat.succ_pos 15)))
  apply Printable.cons (hhex _ (Nat.mod_lt _ (Nat.succ_pos 15)))
  apply Printable.cons (hhex _ (Nat.mod_lt _ (Nat.succ_pos 15)))
  apply Printable.cons (hhex _ (Nat.mod_lt _ (Nat.succ_pos 15)))
  exact List.forall_mem_nil _

theorem printable_escapeChar (c : CodePoint) : Printable (escapeChar c) := by
  unfold escapeChar
  simp only
  -- the seven characters with an escape of their own
  iterate 7
    split
    · exact List.all_eq_true.mp rfl
  split
  · rename_i h
    exact Printable.cons ((isPrintable_iff c).mpr h) (List.forall_mem_nil _)
  · split
    · exact printable_escapeUnit _
    · exact (printable_escapeUnit _).append (printable_escapeUnit _)

theorem printable_dumpsStr (s : Str) : Printable (dumpsStr s) := by
  apply Printable.cons rfl
  apply Printable.append
  · intro c hc
    obtain ⟨d, _, hd⟩ := List.mem_flatMap.mp hc
    exact printable_escapeChar d c hd
  · exact Printable.cons rfl (List.forall_mem_nil _)

theorem printable_intText (n : Int) : Printable (intText n) := by
  have hnat : ∀ n, Printable (natText n) := by
    intro n c hc
    unfold natText at hc
    split at hc
    · rw [List.mem_singleton.mp hc]
      rfl
    · obtain ⟨d, hd, rfl⟩ := List.mem_map.mp (List.mem_reverse.mp hc)
      have hlt : d < 10 := Nat.digits_lt_base (by omega) hd
      rw [isPrintable_iff, ofDigit_val hlt]
      omega
  cases n with
  | ofNat n => exact hnat n
  | negSucc n => exact Printable.cons rfl (hnat _)

variable (py : Interpreter)

theorem printable_arr {items : List Json} (h : ∀ v ∈ items, Printable (dumps py v)) :
    Printable (dumps py (.arr items)) := by
  have hitems : Printable (dumpsItems py items) := by
    induction items with
    | nil => exact List.forall_mem_nil _
    | cons v items ih =>
      obtain ⟨hv, hrest⟩ := List.forall_mem_cons.mp h
      cases items with
      | nil => exact hv
      | cons w items => exact hv.append (Printable.cons rfl (ih hrest))
  rw [dumps]
  apply Printable.cons rfl
  apply hitems.append
  exact Printable.cons rfl (List.forall_mem_nil _)

theorem printable_obj {fields : Dict Json} (h : ∀ p ∈ fields, Printable (dumps py p.2)) :
    Printable (dumps py (.obj fields)) := by
  have hfields : Printable (dumpsFields py fields) := by
    induction fields with
    | nil => exact List.forall_mem_nil _
    | cons p fields ih =>
      obtain ⟨key, value⟩ := p
      obtain ⟨hv, hrest⟩ := List.forall_mem_cons.mp h
      cases fields with
      | nil => exact (printable_dumpsStr key).append (Printable.cons rfl hv)
      | cons q fields =>
        apply (printable_dumpsStr key).append
        apply Printable.cons rfl
        apply Printable.append hv
        exact Printable.cons rfl (ih hrest)
  rw [dumps]
  apply Printable.cons rfl
  apply hfields.append
  exact Printable.cons rfl (List.forall_mem_nil _)

/-- The frames `query_frame` and `set_frame` build of a sequence number that is not empty. -/
def Built (f : Frame) : Prop :=
  ∃ sn, sn ≠ [] ∧ ((∃ attrs, f = queryFrameOf attrs sn) ∨ ∃ payload, f = setFrameOf payload sn)

theorem printable_frame {f : Frame} (h : Built f) : Printable (frameText py f) := by
  have hint : ∀ n : Int, Printable (dumps py (.int n)) := by
    intro n
    rw [dumps]
    exact printable_intText n
  have hints : ∀ ns : List Int, Printable (dumps py (.arr (ns.map .int))) := by
    intro ns
    apply printable_arr
    intro v hv
    obtain ⟨n, _, rfl⟩ := List.mem_map.mp hv
    exact hint n
  have hframe : ∀ pv cmd sn msg, Printable (dumps py (.obj msg)) →
      Printable (frameText py ⟨pv, cmd, sn, msg⟩) := by
    intro pv cmd sn msg hmsg
    apply printable_obj
    simp only [Frame.toDict, List.forall_mem_cons, hint, hmsg, true_and]
    refine ⟨?_, List.forall_mem_nil _⟩
    rw [dumps]
    exact printable_dumpsStr sn
  obtain ⟨sn, _, ⟨attrs, rfl⟩ | ⟨payload, rfl⟩⟩ := h
  · apply hframe
    apply printable_obj
    rw [List.forall_mem_singleton]
    exact hints _
  · apply hframe
    apply printable_obj
    rw [List.forall_mem_cons, List.forall_mem_singleton]
    constructor
    · have h := hints ((payloadData payload).map (fun p => decimalValue p.1))
      rwa [List.map_map] at h
    · apply printable_obj
      intro p hp
      obtain ⟨q, _, rfl⟩ := List.mem_map.mp hp
      exact hint q.2

end Printable

section Frames

variable (py : Interpreter)

/-- What follows from being printable: the text is well formed, one byte a character, and none of
these bytes is a line end. -/
theorem Printable.wellFormed {s : Str} (h : Printable s) : WellFormed s := by
  unfold WellFormed
  rw [List.any_eq_false]
  intro c hc
  simp only [isSurrogate, Bool.and_eq_true, decide_eq_true_eq]
  have hprint := (isPrintable_iff c).mp (h c hc)
  omega

/-- A text without a carriage return, as a line. -/
theorem no_return {s : Str} (h : chr 0x0D ∉ s) : 0x0D ∉ s.flatMap utf8Char := by
  intro hmem
  exact h (mem_utf8_text (by decide) hmem)

theorem text_ne_nil {s : Str} (h : s ≠ []) : s.flatMap utf8Char ≠ [] := by
  cases s with
  | nil => exact absurd rfl h
  | cons c s =>
    rw [List.flatMap_cons]
    intro hnil
    exact utf8Char_ne_nil c (List.append_eq_nil_iff.mp hnil).1

theorem strip_frame (f : Frame) : strip (frameText py f) = frameText py f := by
  have hopen : isSpace (ofChar '\x7b') = false := rfl
  have hclose : isSpace (ofChar '\x7d') = false := rfl
  unfold frameText
  rw [dumps, strip, List.dropWhile_cons, hopen]
  simp only [Bool.false_eq_true, ↓reduceIte]
  rw [List.reverse_cons, List.reverse_append, List.reverse_singleton, List.singleton_append,
    List.cons_append, List.dropWhile_cons, hclose]
  simp

/-- `json.loads` gives back the frame that `json.dumps` printed. -/
def Inverts (f : Frame) : Prop := loads py (frameText py f) = .ok (.obj f.toDict)

variable {py}

theorem decodeText_frame {f : Frame} (h : Inverts py f) :
    decodeText py (frameText py f) = .ok (some f.toDict) := by
  unfold decodeText
  rw [strip_frame, h]

theorem decode_frame {f : Frame} (hbuilt : Built f) (h : Inverts py f) :
    decode py ((frameText py f).flatMap utf8Char) = .ok (some f.toDict) := by
  unfold decode
  rw [decodeUtf8_text (printable_frame py hbuilt).wellFormed]
  exact decodeText_frame h

theorem frame_line {f : Frame} (hbuilt : Built f) :
    0x0D ∉ (frameText py f).flatMap utf8Char ∧ (frameText py f).flatMap utf8Char ≠ [] := by
  constructor
  · apply no_return
    intro hmem
    cases printable_frame py hbuilt _ hmem
  · apply text_ne_nil
    unfold frameText
    rw [dumps]
    exact List.cons_ne_nil _ _

end Frames

/-! ### The fields of a relay line -/

/-- `"&".join(f"{k}={v}" ...)`. -/
def lineText (fields : Dict Str) : Str :=
  (str "&").intercalate (fields.map (fun p => p.1 ++ str "=" ++ p.2))

/-- The fields a line can carry: their names are distinct, and no separator is in a wrong place. -/
structure Fielded (fields : Dict Str) : Prop where
  distinct : fields.Distinct
  names : ∀ p ∈ fields, ofChar '=' ∉ p.1 ∧ ofChar '&' ∉ p.1
  values : ∀ p ∈ fields, ofChar '&' ∉ p.2

section Fields

theorem set_fresh {d : Dict Str} {key value : Str} (h : key ∉ d.map Prod.fst) :
    d.set key value = d ++ [(key, value)] := by
  unfold Dict.set
  rw [if_neg]
  intro hany
  obtain ⟨p, hp, hkey⟩ := List.any_eq_true.mp hany
  exact h (List.mem_map.mpr ⟨p, hp, by simpa using hkey⟩)

/-- What the loop of `_parse_line` does with one part. -/
def addPart (fields : Dict Str) (part : Str) : Dict Str :=
  match partition (ofChar '=') part with
  | some (key, value) => fields.set key value
  | none => fields

theorem addPart_field {p : Str × Str} (h : ofChar '=' ∉ p.1) (fields : Dict Str) :
    addPart fields (p.1 ++ str "=" ++ p.2) = fields.set p.1 p.2 := by
  have hpart : partition (ofChar '=') (p.1 ++ str "=" ++ p.2) = some (p.1, p.2) := by
    rw [List.append_assoc]
    exact partition_append h p.2
  unfold addPart
  rw [hpart]

/-- A line is parsed into the fields it was put together from. -/
theorem parseLine_fields {fields : Dict Str} (h : Fielded fields) (hne : fields ≠ [])
    (hwell : WellFormed (lineText fields)) :
    parseLine ((lineText fields).flatMap utf8Char) = fields := by
  have hparts : ∀ part ∈ fields.map (fun p => p.1 ++ str "=" ++ p.2), ofChar '&' ∉ part := by
    intro part hpart
    obtain ⟨p, hp, rfl⟩ := List.mem_map.mp hpart
    have hname := (h.names p hp).2
    have hvalue := h.values p hp
    simp only [List.mem_append, not_or]
    exact ⟨⟨hname, by decide⟩, hvalue⟩
  have hsplit : splitOn (ofChar '&') (lineText fields) =
      fields.map (fun p => p.1 ++ str "=" ++ p.2) :=
    splitOn_intercalate hparts (by simpa using hne)
  have hfold : ∀ rest before : Dict Str, (before ++ rest).Distinct →
      (∀ p ∈ rest, ofChar '=' ∉ p.1) →
      (rest.map (fun p => p.1 ++ str "=" ++ p.2)).foldl addPart before = before ++ rest := by
    intro rest
    induction rest with
    | nil =>
      intro before _ _
      simp
    | cons p rest ih =>
      intro before hdistinct hnames
      obtain ⟨hp, hrest⟩ := List.forall_mem_cons.mp hnames
      have hfresh : p.1 ∉ before.map Prod.fst := by
        unfold Dict.Distinct at hdistinct
        rw [List.map_append, List.nodup_append] at hdistinct
        intro hmem
        exact hdistinct.2.2 p.1 hmem p.1 (by simp) rfl
      rw [List.map_cons, List.foldl_cons, addPart_field hp, set_fresh hfresh, ih _ ?_ hrest,
        List.append_assoc, List.singleton_append]
      rwa [List.append_assoc, List.singleton_append]
  unfold parseLine
  rw [decodeReplace_text hwell, hsplit]
  exact hfold fields [] h.distinct (fun p hp => (h.names p hp).1)

end Fields

/-! ### Both wires -/

/-- A text that fits into a field of a line. -/
def Lineable (s : Str) : Prop := WellFormed s ∧ ofChar '&' ∉ s ∧ chr 0x0D ∉ s ∧ chr 0x0A ∉ s

section Wires

variable {py : Interpreter}

/-- Collect the frames on the lines. -/
def readFrame (py : Interpreter) (got : List (Dict Json)) (line : Bytes) :
    Verdict (List (Dict Json)) Empty :=
  match decode py line with
  | .ok (some frame) => .next (got ++ [frame])
  | .ok none => .next got
  | .error e => .raise e

/-- The frame on a line that decodes to one. -/
def frameOn (py : Interpreter) (line : Bytes) : Dict Json :=
  match decode py line with
  | .ok (some frame) => frame
  | _ => []

/-- Collect the fields of the lines. -/
def readFields (got : List (Dict Str)) (line : Bytes) : Verdict (List (Dict Str)) Empty :=
  .next (got ++ [parseLine line])

theorem foldl_collect (f : γ → δ) (xs : List γ) (got : List δ) :
    xs.foldl (fun got x => got ++ [f x]) got = got ++ xs.map f := by
  induction xs generalizing got with
  | nil => simp
  | cons x xs ih => rw [List.foldl_cons, ih, List.map_cons, List.append_assoc,
      List.singleton_append]

theorem encode_flatMap (frames : List Frame) : frames.flatMap (encode py) =
    (frames.map (fun f => (frameText py f).flatMap utf8Char)).flatMap (fun l => l ++ TERMINATOR) := by
  rw [List.flatMap_map]
  rfl

/-- The frames that were sent are the frames that are read, however the bytes are cut. -/
theorem frames_read {frames : List Frame} (hbuilt : ∀ f ∈ frames, Built f)
    (hjson : ∀ f ∈ frames, Inverts py f) {conn : LineSocket} {deadline : ℚ} {turns : List Turn}
    (hconn : conn.buffer = []) (h : Carries deadline turns (frames.flatMap (encode py))) :
    (conn.lines (readFrame py) deadline turns []).exit = .ended (frames.map Frame.toDict) := by
  have hlines : completeLines (conn.buffer ++ frames.flatMap (encode py)) =
      frames.map (fun f => (frameText py f).flatMap utf8Char) := by
    rw [hconn, List.nil_append, encode_flatMap]
    apply completeLines_join
    intro l hl
    obtain ⟨f, hf, rfl⟩ := List.mem_map.mp hl
    exact frame_line (hbuilt f hf)
  have hdecode : ∀ f ∈ frames, decode py ((frameText py f).flatMap utf8Char) =
      .ok (some f.toDict) := by
    intro f hf
    exact decode_frame (hbuilt f hf) (hjson f hf)
  have hbody : ∀ line ∈ completeLines (conn.buffer ++ frames.flatMap (encode py)), ∀ got,
      readFrame py got line = .next (got ++ [frameOn py line]) := by
    intro line hl got
    rw [hlines] at hl
    obtain ⟨f, hf, rfl⟩ := List.mem_map.mp hl
    simp only [readFrame, frameOn, hdecode f hf]
  obtain ⟨-, hexit, -⟩ := lines_carried (readFrame py) (fun got line => got ++ [frameOn py line]) h
    conn [] hbody
  rw [hexit, hlines, foldl_collect, List.nil_append, List.map_map]
  apply congrArg Exit.ended
  apply List.map_congr_left
  intro f hf
  simp only [Function.comp, frameOn, hdecode f hf]

/-- The fields of a publication. -/
def published (self : CloudRelayTransport) (py : Interpreter) (f : Frame) : Dict Str :=
  [(str "cmd", str "publish"), (str "topic", self.controlTopic),
    (str "message", quote ((frameText py f).flatMap utf8Char)), (str "device_id", self.deviceId),
    (str "device_key", self.deviceKey)]

theorem encode_text (f : Frame) :
    (encode py f).dropLast.dropLast = (frameText py f).flatMap utf8Char := by
  unfold encode TERMINATOR
  rw [List.dropLast_append_of_ne_nil (by simp)]
  exact List.dropLast_concat

theorem publishText_fields (self : CloudRelayTransport) (f : Frame) :
    self.publishText py f = lineText (published self py f) := by
  simp only [lineText, published, List.intercalate, List.map, List.intersperse, List.flatten,
    CloudRelayTransport.controlTopic, CloudRelayTransport.publishText, encode_text,
    List.append_eq, List.append_assoc, List.append_nil]
  rfl

variable {self : CloudRelayTransport}

/-- What is published fits into its line: the message is quoted, the rest is as the account has it. -/
theorem published_fielded (hid : Lineable self.deviceId) (hkey : Lineable self.deviceKey)
    {f : Frame} (hbuilt : Built f) : Fielded (published self py f) := by
  have hmessage := quote_encoded (printable_frame py hbuilt).wellFormed
  refine ⟨?_, ?_, ?_⟩
  · unfold Dict.Distinct published
    simp only [List.map_cons, List.map_nil]
    decide
  · have hnames : ∀ name ∈ (published self py f).map Prod.fst,
        ofChar '=' ∉ name ∧ ofChar '&' ∉ name := by
      simp only [published, List.map_cons, List.map_nil]
      decide
    intro p hp
    exact hnames p.1 (List.mem_map_of_mem hp)
  · simp only [published, List.forall_mem_cons]
    refine ⟨by decide, ?_, ?_, hid.2.1, hkey.2.1, List.forall_mem_nil _⟩
    · simp only [CloudRelayTransport.controlTopic, List.mem_append, not_or]
      exact ⟨by decide, hid.2.1⟩
    · intro hmem
      exact (encoded_mem hmessage hmem).1 rfl

theorem published_encodable (hid : Lineable self.deviceId) (hkey : Lineable self.deviceKey) :
    self.encodable = true := by
  unfold CloudRelayTransport.encodable
  rw [hid.1, hkey.1]
  rfl

theorem publishText_wellFormed (hid : Lineable self.deviceId) (hkey : Lineable self.deviceKey)
    (f : Frame) : WellFormed (self.publishText py f) := by
  unfold WellFormed
  rw [self.publishText_plain, published_encodable hid hkey]
  rfl

theorem published_line (hid : Lineable self.deviceId) (hkey : Lineable self.deviceKey) {f : Frame}
    (hbuilt : Built f) : 0x0D ∉ (self.publishText py f).flatMap utf8Char ∧
      (self.publishText py f).flatMap utf8Char ≠ [] := by
  constructor
  · apply no_return
    simp only [CloudRelayTransport.publishText, encode_text, List.mem_append, not_or]
    refine ⟨⟨⟨⟨⟨⟨⟨by decide, hid.2.2.1⟩, by decide⟩, ?_⟩, by decide⟩, hid.2.2.1⟩, by decide⟩,
      hkey.2.2.1⟩
    intro hmem
    exact (encoded_mem (quote_encoded (printable_frame py hbuilt).wellFormed) hmem).2.1 rfl
  · apply text_ne_nil
    simp only [CloudRelayTransport.publishText, ne_eq, List.append_eq_nil_iff, not_and]
    intro h
    exact absurd h.1.1.1.1.1.1 (List.cons_ne_nil _ _)

theorem parseLine_published (hid : Lineable self.deviceId) (hkey : Lineable self.deviceKey)
    {f : Frame} (hbuilt : Built f) :
    parseLine ((self.publishText py f).flatMap utf8Char) = published self py f := by
  have hwell : WellFormed (self.publishText py f) := publishText_wellFormed hid hkey f
  rw [publishText_fields] at hwell ⊢
  exact parseLine_fields (published_fielded hid hkey hbuilt) (List.cons_ne_nil _ _) hwell

/-- The lines of these frames for the relay. -/
def publications (self : CloudRelayTransport) (py : Interpreter) (frames : List Frame) :
    List Bytes :=
  frames.map (fun f => (self.publishText py f).flatMap utf8Char)

theorem publishLines_eq (hid : Lineable self.deviceId) (hkey : Lineable self.deviceKey)
    (frames : List Frame) : frames.mapM (self.publishLine py) =
      .ok ((publications self py frames).map (fun l => l ++ TERMINATOR)) := by
  induction frames with
  | nil => rfl
  | cons f frames ih =>
    rw [List.mapM_cons, ih, self.publishLine_cases, published_encodable hid hkey]
    rfl

/-- The publications that were sent are read with their fields as put in. -/
theorem published_read {frames : List Frame} (hbuilt : ∀ f ∈ frames, Built f)
    (hid : Lineable self.deviceId) (hkey : Lineable self.deviceKey) {conn : LineSocket}
    {deadline : ℚ} {turns : List Turn} (hconn : conn.buffer = [])
    (h : Carries deadline turns
      ((publications self py frames).map (fun l => l ++ TERMINATOR)).flatten) :
    (conn.lines readFields deadline turns []).exit = .ended (frames.map (published self py)) := by
  have hlines : completeLines (conn.buffer ++
      ((publications self py frames).map (fun l => l ++ TERMINATOR)).flatten) =
        publications self py frames := by
    rw [hconn, List.nil_append, ← List.flatMap_def]
    apply completeLines_join
    intro l hl
    obtain ⟨f, hf, rfl⟩ := List.mem_map.mp hl
    exact published_line hid hkey (hbuilt f hf)
  obtain ⟨-, hexit, -⟩ := lines_carried readFields (fun got line => got ++ [parseLine line]) h
    conn [] (fun _ _ _ => rfl)
  rw [hexit, hlines, foldl_collect, List.nil_append, publications, List.map_map]
  apply congrArg Exit.ended
  apply List.map_congr_left
  intro f hf
  simp only [Function.comp]
  exact parseLine_published hid hkey (hbuilt f hf)

/-- What is sent is what is read. Over the listener the frames come back; over the relay each comes
back in a line of its own, with its five fields as put in and a message that unquotes to the frame. -/
theorem sent_is_read (py : Interpreter) (frames : List Frame) (hbuilt : ∀ f ∈ frames, Built f)
    (hjson : ∀ f ∈ frames, Inverts py f) :
    (∀ conn deadline turns, LineSocket.buffer conn = [] →
      Carries deadline turns (frames.flatMap (encode py)) →
        (conn.lines (readFrame py) deadline turns []).exit = .ended (frames.map Frame.toDict)) ∧
    ∀ self : CloudRelayTransport, Lineable self.deviceId → Lineable self.deviceKey →
      ∃ lines, frames.mapM (self.publishLine py) = .ok lines ∧
        ∀ conn deadline turns, LineSocket.buffer conn = [] → Carries deadline turns lines.flatten →
          ∃ parsed, (conn.lines readFields deadline turns []).exit = .ended parsed ∧
            List.Forall₂ (fun f fields => ∃ message,
              fields = [(str "cmd", str "publish"), (str "topic", self.controlTopic),
                (str "message", message), (str "device_id", self.deviceId),
                (str "device_key", self.deviceKey)] ∧
              decodeText py (unquote message) = .ok (some (Frame.toDict f))) frames parsed := by
  constructor
  · intro conn deadline turns hconn h
    exact frames_read hbuilt hjson hconn h
  · intro self hid hkey
    refine ⟨_, publishLines_eq hid hkey frames, ?_⟩
    intro conn deadline turns hconn h
    refine ⟨_, published_read hbuilt hid hkey hconn h, ?_⟩
    rw [List.forall₂_map_right_iff, List.forall₂_same]
    intro f hf
    refine ⟨_, rfl, ?_⟩
    rw [unquote_encoded (quote_encoded (printable_frame py (hbuilt f hf)).wellFormed)]
    exact decodeText_frame (hjson f hf)

/-- A query and a command whose sequence numbers hold the characters each layer gives a meaning. -/
def awkwardFrames : List Frame :=
  [queryFrameOf none (str "a\r\n\"&=%+" ++ [chr 0xE9, chr 0x1F50C]),
    setFrameOf [(.int 1, 255), (.text false (str "028") (by decide), -7)] (str "a=1&b")]

theorem sent_is_read_awkward :
    (LineSocket.lines (readFrame .plain) 1
      [⟨0, .received (awkwardFrames.flatMap (encode .plain))⟩] [] ⟨0, [], none⟩).exit =
        .ended (awkwardFrames.map Frame.toDict) ∧
    ∃ lines, awkwardFrames.mapM (CloudRelayTransport.publishLine
      ⟨str "id=1", [chr 0xE9], str "relay", 8898, 5⟩ .plain) = .ok lines := by
  have hbuilt : ∀ f ∈ awkwardFrames, Built f := by
    simp only [awkwardFrames, List.forall_mem_cons]
    exact ⟨⟨_, by decide, .inl ⟨none, rfl⟩⟩, ⟨_, by decide, .inr ⟨_, rfl⟩⟩, List.forall_mem_nil _⟩
  have hjson : ∀ f ∈ awkwardFrames, Inverts .plain f := by
    simp only [awkwardFrames, List.forall_mem_cons]
    exact ⟨rfl, rfl, List.forall_mem_nil _⟩
  have hbytes : awkwardFrames.flatMap (encode .plain) ≠ [] := by
    simp [awkwardFrames, encode, TERMINATOR]
  obtain ⟨hlistener, hrelay⟩ := sent_is_read .plain awkwardFrames hbuilt hjson
  constructor
  · apply hlistener _ _ _ rfl
    have h : Carries 1 [⟨0, .received (awkwardFrames.flatMap (encode .plain))⟩]
        (awkwardFrames.flatMap (encode .plain) ++ []) :=
      .chunk (by norm_num) rfl hbytes .done
    rwa [List.append_nil] at h
  · obtain ⟨lines, hlines, -⟩ := hrelay ⟨str "id=1", [chr 0xE9], str "relay", 8898, 5⟩
      ⟨rfl, by decide, by decide, by decide⟩ ⟨rfl, by decide, by decide, by decide⟩
    exact ⟨lines, hlines⟩

end Wires

end CozyLife
