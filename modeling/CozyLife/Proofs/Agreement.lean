import CozyLife.Proofs.Wires
import CozyLife.Proofs.Decisive

namespace CozyLife
open Python Effects Lines

/-! ### What a device sends, on either path -/

/-- Two frames of a device that say the same in answer to the requests `f` and `g`: they echo the
number of their request or both do not, and all their other fields are the same. -/
def Alike (f g : Frame) (d e : Dict Json) : Prop :=
  answers f d = answers g e ∧ ∀ key, key ≠ str "sn" → d.get key = e.get key

/-- A text without a line end that spells this JSON object. -/
def Spells (py : Interpreter) (text : Str) (d : Dict Json) : Prop :=
  WellFormed text ∧ chr 0x0D ∉ text ∧ chr 0x0A ∉ text ∧ decodeText py text = .ok (some d)

/-- Two spellings of such frames. -/
def Echoed (py : Interpreter) (f g : Frame) (text text' : Str) : Prop :=
  ∃ d e, Spells py text d ∧ Spells py text' e ∧ Alike f g d e

/-- The lines of the listener: each frame is one. -/
def listenerLines (texts : List Str) : List Bytes := texts.map (fun text => text.flatMap utf8Char)

/-- A line with these fields. -/
structure LineWith (fields : Dict Str) (line : Bytes) : Prop where
  fielded : Fielded fields
  wellFormed : WellFormed (lineText fields)
  unbroken : chr 0x0D ∉ lineText fields ∧ chr 0x0A ∉ lineText fields
  some_field : fields ≠ []
  spelled : line = (lineText fields).flatMap utf8Char

/-- The lines of the relay: reports that bring these frames in order, each with its message
percent-encoded in some way, and anywhere among them acknowledgements that reached somebody. -/
inductive RelayLines (self : CloudRelayTransport) : List Str → List Bytes → Prop
  | nil : RelayLines self [] []
  | ack {fields : Dict Str} {line : Bytes} (hline : LineWith fields line)
      (hcmd : fields.get (str "cmd") = some (str "subscribe") ∨
        fields.get (str "cmd") = some (str "publish"))
      (hnum : fields.get (str "num") ≠ some (str "0"))
      (hmessage : fields.get (str "message") = none)
      (h : RelayLines self texts lines) : RelayLines self texts (line :: lines)
  | report {fields : Dict Str} {line : Bytes} {text enc : Str} (hline : LineWith fields line)
      (htopic : fields.get (str "topic") = some self.reportTopic)
      (hmessage : fields.get (str "message") = some enc) (henc : Encoded text enc)
      (hack : CloudRelayTransport.isUndeliveredAck fields = false)
      (h : RelayLines self texts lines) : RelayLines self (text :: texts) (line :: lines)

/-- Bytes of lines with their terminators. -/
def streamOf (lines : List Bytes) : Bytes := lines.flatMap (fun l => l ++ TERMINATOR)

/-- The frame gets out on both paths, and the same answers come back in time: over a connection of
the listener with nothing left in its buffer, and over the relay. -/
structure BothAnswer (py : Interpreter) (t : LocalTransport) (cloud : CloudRelayTransport)
    (env : ExchangeEnv) (renv : RelayEnv) (n : Nat) (f g : Frame) (texts texts' : List Str)
    (lines : List Bytes) : Prop where
  echoed : List.Forall₂ (Echoed py f g) texts texts'
  listener : ∃ conn c, (LocalTransport.deliver py t env (encode py f) n).line = .ok (conn, c) ∧
    conn.buffer = [] ∧ Carries (c.started + t.timeout) c.turns (streamOf (listenerLines texts))
  relay : cloud.Takes py renv
  reported : RelayLines cloud texts' lines
  relayed : Carries (renv.started + cloud.timeout) renv.turns (streamOf lines)

/-- Two calls return the same, or neither gets through to the device. -/
def SameAnswer (r r' : Except Exn α) : Prop :=
  (∃ a, r = .ok a ∧ r' = .ok a) ∨ ∃ e e', r = .error (.transport e) ∧ r' = .error (.transport e')

/-- Each frame without a data map, which a query puts into the text of its error, can be printed. -/
def AllReadable (py : Interpreter) (texts : List Str) : Prop :=
  ∀ text ∈ texts, ∀ d, Spells py text d → Readable py d

/-! ### The first answer -/

section First

/-- The verdict on a line that brings this reply, or none. -/
def verdictOf : Option α → Verdict Unit α
  | some a => .leave a
  | none => .next ()

/-- The end of a loop over lines that bring this reply, or none. -/
def exitOf : Option α → Exit Unit α
  | some a => .left a
  | none => .ended ()

/-- What an exchange comes to that got this reply, or none. -/
def Answers (r : Except Exn α) : Option α → Prop
  | some a => r = .ok a
  | none => ∃ e, r = .error (.transport e)

/-- A loop whose body is ended by some lines and passes over the others ends at the first of these,
and without one it ends with the lines. -/
theorem lines_first {v : Unit → Bytes → Verdict Unit α} {picks : Bytes → Option α}
    {conn : LineSocket} {deadline : ℚ} {turns : List Turn} {s : Bytes} (hbuffer : conn.buffer = [])
    (h : Carries deadline turns s)
    (hv : ∀ line ∈ completeLines s, v () line = verdictOf (picks line)) :
    (conn.lines v deadline turns ()).exit = exitOf ((completeLines s).findSome? picks) := by
  have hpick : ∀ line ∈ completeLines s, ∀ a, picks line = some a → v () line = .leave a := by
    intro line hline a ha
    rw [hv line hline, ha, verdictOf]
  obtain ⟨hgiven, hexit, -⟩ := lines_carried listen (fun _ _ => ()) h conn () (fun _ _ _ => rfl)
  rw [hbuffer, List.nil_append] at hgiven hexit
  have hheard : heard conn deadline turns = completeLines s := hgiven
  have hsilence : silence conn deadline turns = none := by
    unfold silence
    rw [hexit]
  cases lines_decision v conn deadline turns with
  | undecided hall _ hend =>
    have hnone : (completeLines s).findSome? picks = none := by
      rw [List.findSome?_eq_none_iff]
      intro line hline
      cases hp : picks line with
      | none => rfl
      | some a =>
        have hnext := hall line (hheard ▸ hline)
        rw [hpick line hline a hp] at hnext
        cases hnext
    rw [hend, hsilence, hnone]
    rfl
  | decided pre line post hcut hpre _ hend =>
    have hmem : ∀ l ∈ pre ++ line :: post, l ∈ completeLines s := by
      intro l hl
      rwa [← hheard, hcut]
    have hskip : pre.findSome? picks = none := by
      rw [List.findSome?_eq_none_iff]
      intro l hl
      cases hp : picks l with
      | none => rfl
      | some a =>
        have hnext := hpre l hl
        rw [hpick l (hmem l (List.mem_append_left _ hl)) a hp] at hnext
        cases hnext
    have hline := hmem line (by simp)
    rw [← hheard, hcut, List.findSome?_append, hskip, Option.none_or, List.findSome?_cons]
    cases hp : picks line with
    | none =>
      have hnext := hv line hline
      rw [hp, verdictOf] at hnext
      rcases hend with ⟨a, hv, _⟩ | ⟨e, hv, _⟩ <;> (rw [hnext] at hv; cases hv)
    | some a =>
      have hleave := hpick line hline a hp
      rcases hend with ⟨a', hv, hx⟩ | ⟨e, hv, _⟩
      · rw [hleave] at hv
        cases hv
        exact hx
      · rw [hleave] at hv
        cases hv

variable (py : Interpreter)

/-- The reply a text brings to a request, if it does. -/
def replyTo (f : Frame) (text : Str) : Option (Dict Json) :=
  match decodeText py text with
  | .ok (some reply) => if answers f reply then some reply else none
  | _ => none

/-- The reply on a line of the listener. -/
def localReply (f : Frame) (line : Bytes) : Option (Dict Json) :=
  match decode py line with
  | .ok (some reply) => if answers f reply then some reply else none
  | _ => none

/-- The reply on a line of the relay. -/
def relayReply (self : CloudRelayTransport) (f : Frame) (line : Bytes) : Option (Dict Json) :=
  match self.extractReport py (parseLine line) with
  | .ok (some reply) => if answers f reply then some reply else none
  | _ => none

variable {py}

theorem localReply_text {f : Frame} {text : Str} (h : WellFormed text) :
    localReply py f (text.flatMap utf8Char) = replyTo py f text := by
  unfold localReply replyTo decode
  rw [decodeUtf8_text h]

theorem LineWith.parsed {fields : Dict Str} {line : Bytes} (h : LineWith fields line) :
    parseLine line = fields := by
  rw [h.spelled]
  exact parseLine_fields h.fielded h.some_field h.wellFormed

theorem LineWith.unended {fields : Dict Str} {line : Bytes} (h : LineWith fields line) :
    0x0D ∉ line ∧ line ≠ [] := by
  constructor
  · rw [h.spelled]
    exact no_return h.unbroken.1
  · intro hnil
    have hparsed := h.parsed
    rw [hnil] at hparsed
    exact h.some_field hparsed.symm

/-- The frames on the lines of the listener, in order, are the replies. -/
theorem listener_replies (f : Frame) {texts : List Str} (h : ∀ text ∈ texts, WellFormed text) :
    (listenerLines texts).findSome? (localReply py f) = texts.findSome? (replyTo py f) := by
  induction texts with
  | nil => rfl
  | cons text texts ih =>
    obtain ⟨htext, htexts⟩ := List.forall_mem_cons.mp h
    have hrest := ih htexts
    unfold listenerLines at hrest ⊢
    rw [List.map_cons, List.findSome?_cons, List.findSome?_cons, localReply_text htext, hrest]

variable {self : CloudRelayTransport} {texts : List Str} {lines : List Bytes}

theorem RelayLines.unended (h : RelayLines self texts lines) :
    ∀ line ∈ lines, 0x0D ∉ line ∧ line ≠ [] := by
  induction h with
  | nil => exact List.forall_mem_nil _
  | ack hline _ _ _ _ ih => exact List.forall_mem_cons.mpr ⟨hline.unended, ih⟩
  | report hline _ _ _ _ _ ih => exact List.forall_mem_cons.mpr ⟨hline.unended, ih⟩

/-- An acknowledgement is no report. -/
theorem extractReport_ack {fields : Dict Str} (h : fields.get (str "message") = none) :
    self.extractReport py fields = .ok none := by
  unfold CloudRelayTransport.extractReport
  split
  · rfl
  · rw [h]

/-- A report brings the text it was made of. -/
theorem extractReport_report {fields : Dict Str} {text enc : Str}
    (htopic : fields.get (str "topic") = some self.reportTopic)
    (hmessage : fields.get (str "message") = some enc) (henc : Encoded text enc) :
    self.extractReport py fields = decodeText py text := by
  unfold CloudRelayTransport.extractReport
  rw [if_neg (not_not.mpr htopic), hmessage]
  simp only
  rw [unquote_encoded henc]

/-- The frames of the reports, in order, are the replies of the lines. -/
theorem RelayLines.replies (h : RelayLines self texts lines) (g : Frame) :
    lines.findSome? (relayReply py self g) = texts.findSome? (replyTo py g) := by
  induction h with
  | nil => rfl
  | @ack texts lines fields line hline hcmd hnum hmessage h ih =>
    have hnone : relayReply py self g line = none := by
      unfold relayReply
      rw [hline.parsed, extractReport_ack hmessage]
    rw [List.findSome?_cons, hnone, ih]
  | @report texts lines fields line text enc hline htopic hmessage henc hack h ih =>
    have hsame : relayReply py self g line = replyTo py g text := by
      unfold relayReply replyTo
      rw [hline.parsed, extractReport_report htopic hmessage henc]
    rw [List.findSome?_cons, List.findSome?_cons, hsame, ih]

/-- The loop over relay lines is ended by a reply and passes over every other line. -/
theorem RelayLines.verdict (h : RelayLines self texts lines) (g : Frame)
    (htexts : ∀ text ∈ texts, ∃ d, Spells py text d) :
    ∀ line ∈ lines, self.relayVerdict py g () line = verdictOf (relayReply py self g line) := by
  induction h with
  | nil => exact List.forall_mem_nil _
  | @ack texts lines fields line hline hcmd hnum hmessage h ih =>
    refine List.forall_mem_cons.mpr ⟨?_, ih htexts⟩
    have hack : CloudRelayTransport.isUndeliveredAck fields = false := by
      unfold CloudRelayTransport.isUndeliveredAck
      simp [hnum]
    simp only [CloudRelayTransport.relayVerdict, relayReply, hline.parsed, hack,
      extractReport_ack hmessage, Bool.false_eq_true, ↓reduceIte, verdictOf]
  | @report texts lines fields line text enc hline htopic hmessage henc hack h ih =>
    obtain ⟨htext, htexts⟩ := List.forall_mem_cons.mp htexts
    refine List.forall_mem_cons.mpr ⟨?_, ih htexts⟩
    obtain ⟨d, -, -, -, hd⟩ := htext
    simp only [CloudRelayTransport.relayVerdict, relayReply, hline.parsed, hack,
      extractReport_report htopic hmessage henc, hd, Bool.false_eq_true, ↓reduceIte]
    cases answers g d <;> rfl

/-- So is the loop over the lines of the listener. -/
theorem listener_verdict {f : Frame} {text : Str} {d : Dict Json} (h : Spells py text d) :
    LocalTransport.replyVerdict py f () (text.flatMap utf8Char) =
      verdictOf (localReply py f (text.flatMap utf8Char)) := by
  obtain ⟨hwell, -, -, hd⟩ := h
  simp only [LocalTransport.replyVerdict, localReply, decode, decodeUtf8_text hwell, hd]
  cases answers f d <;> rfl

theorem replyTo_spelled {f : Frame} {text : Str} {d : Dict Json} (h : Spells py text d) :
    replyTo py f text = if answers f d then some d else none := by
  obtain ⟨-, -, -, hd⟩ := h
  unfold replyTo
  rw [hd]

theorem echoed_spell {f g : Frame} {texts' : List Str}
    (h : List.Forall₂ (Echoed py f g) texts texts') :
    (∀ text ∈ texts, ∃ d, Spells py text d) ∧ ∀ text ∈ texts', ∃ d, Spells py text d := by
  induction h with
  | nil => exact ⟨List.forall_mem_nil _, List.forall_mem_nil _⟩
  | cons hecho _ ih =>
    obtain ⟨d, e, hd, he, -⟩ := hecho
    exact ⟨List.forall_mem_cons.mpr ⟨⟨d, hd⟩, ih.1⟩, List.forall_mem_cons.mpr ⟨⟨e, he⟩, ih.2⟩⟩

/-- The first reply is one that a frame spells. -/
theorem first_spelled {f : Frame} {d : Dict Json} (h : ∀ text ∈ texts, ∃ d, Spells py text d)
    (hd : texts.findSome? (replyTo py f) = some d) : ∃ text ∈ texts, Spells py text d := by
  obtain ⟨text, htext, hreply⟩ := List.exists_of_findSome?_eq_some hd
  obtain ⟨e, he⟩ := h text htext
  rw [replyTo_spelled he] at hreply
  split at hreply
  · cases hreply
    exact ⟨text, htext, he⟩
  · cases hreply

/-- The first replies on both paths are alike, or there is none on either. -/
theorem first_alike {f g : Frame} {texts' : List Str}
    (h : List.Forall₂ (Echoed py f g) texts texts') :
    (texts.findSome? (replyTo py f) = none ∧ texts'.findSome? (replyTo py g) = none) ∨
      ∃ d e, texts.findSome? (replyTo py f) = some d ∧
        texts'.findSome? (replyTo py g) = some e ∧ Alike f g d e := by
  induction h with
  | nil => exact .inl ⟨rfl, rfl⟩
  | @cons text text' texts texts' hecho h ih =>
    obtain ⟨d, e, hd, he, halike⟩ := hecho
    rw [List.findSome?_cons, List.findSome?_cons, replyTo_spelled hd, replyTo_spelled he,
      ← halike.1]
    cases answers f d with
    | true => exact .inr ⟨d, e, rfl, rfl, halike⟩
    | false => exact ih

end First

/-! ### Both answers -/

section Answers

variable {py : Interpreter} {t : LocalTransport} {cloud : CloudRelayTransport} {env : ExchangeEnv}
  {renv : RelayEnv} {n : Nat} {f g : Frame} {texts texts' : List Str} {lines : List Bytes}

theorem listener_answer (h : BothAnswer py t cloud env renv n f g texts texts' lines) :
    Answers (LocalTransport.outcome py t env f n).answer (texts.findSome? (replyTo py f)) := by
  obtain ⟨conn, c, hline, hbuffer, hcarries⟩ := h.listener
  have htexts := (echoed_spell h.echoed).1
  have hlines : completeLines (streamOf (listenerLines texts)) = listenerLines texts := by
    apply completeLines_join
    intro line hl
    obtain ⟨text, htext, rfl⟩ := List.mem_map.mp hl
    obtain ⟨d, -, hcr, -, hd⟩ := htexts text htext
    refine ⟨no_return hcr, text_ne_nil ?_⟩
    rintro rfl
    cases hd
  have hverdict : ∀ line ∈ completeLines (streamOf (listenerLines texts)),
      LocalTransport.replyVerdict py f () line = verdictOf (localReply py f line) := by
    rw [hlines]
    intro line hl
    obtain ⟨text, htext, rfl⟩ := List.mem_map.mp hl
    obtain ⟨d, hd⟩ := htexts text htext
    exact listener_verdict hd
  have hwell : ∀ text ∈ texts, WellFormed text := by
    intro text htext
    obtain ⟨d, hwell, -⟩ := htexts text htext
    exact hwell
  have hexit := lines_first hbuffer hcarries hverdict
  rw [hlines, listener_replies f hwell] at hexit
  unfold LocalTransport.outcome LocalTransport.settle
  rw [hline]
  simp only [LocalTransport.conclude, LocalTransport.listenFor, hexit]
  cases texts.findSome? (replyTo py f) with
  | none => exact ⟨_, rfl⟩
  | some reply => rfl

theorem relay_answer (h : BothAnswer py t cloud env renv n f g texts texts' lines) (m : Nat) :
    Answers (cloud.outcome py renv g m).answer (texts'.findSome? (replyTo py g)) := by
  have hlines : completeLines (streamOf lines) = lines := completeLines_join h.reported.unended
  have hverdict : ∀ line ∈ completeLines (streamOf lines),
      cloud.relayVerdict py g () line = verdictOf (relayReply py cloud g line) := by
    rw [hlines]
    exact h.reported.verdict g (echoed_spell h.echoed).2
  have hexit : (cloud.hear py renv g m).exit =
      exitOf ((completeLines (streamOf lines)).findSome? (relayReply py cloud g)) :=
    lines_first rfl h.relayed hverdict
  rw [hlines, h.reported.replies g] at hexit
  have hheard := cloud.outcome_heard py h.relay g m
  rw [hexit] at hheard
  cases hreply : texts'.findSome? (replyTo py g) with
  | none =>
    rw [hreply] at hheard
    exact hheard
  | some reply =>
    rw [hreply] at hheard
    exact hheard

theorem alike_data {d e : Dict Json} (h : Alike f g d e) :
    LocalTransport.dataMap d = LocalTransport.dataMap e := by
  unfold LocalTransport.dataMap
  rw [h.2 _ (by decide)]

theorem alike_accepted {d e : Dict Json} (h : Alike f g d e) :
    LocalTransport.accepted d = LocalTransport.accepted e := by
  unfold LocalTransport.accepted
  rw [h.2 _ (by decide)]

/-- The replies both exchanges end with are alike, or neither gets one. -/
theorem exchanges_alike (h : BothAnswer py t cloud env renv n f g texts texts' lines) (m : Nat) :
    (∃ d e, (LocalTransport.outcome py t env f n).answer = .ok d ∧
      (cloud.outcome py renv g m).answer = .ok e ∧ Alike f g d e ∧
      (∃ text ∈ texts, Spells py text d) ∧ ∃ text ∈ texts', Spells py text e) ∨
    ∃ e e', (LocalTransport.outcome py t env f n).answer = .error (.transport e) ∧
      (cloud.outcome py renv g m).answer = .error (.transport e') := by
  have hlocal := listener_answer h
  have hrelay := relay_answer h m
  rcases first_alike h.echoed with ⟨hnone, hnone'⟩ | ⟨d, e, hd, he, halike⟩
  · rw [hnone] at hlocal
    rw [hnone'] at hrelay
    obtain ⟨e, hlocal⟩ := hlocal
    obtain ⟨e', hrelay⟩ := hrelay
    exact .inr ⟨e, e', hlocal, hrelay⟩
  · rw [hd] at hlocal
    rw [he] at hrelay
    obtain ⟨hspelled, hspelled'⟩ := echoed_spell h.echoed
    exact .inl ⟨d, e, hlocal, hrelay, halike, first_spelled hspelled hd, first_spelled hspelled' he⟩

/-- Delivered on either path, the same frames of the device make the same answer. -/
theorem paths_agree (py : Interpreter) (t : LocalTransport) (cloud : CloudRelayTransport)
    (env : LocalEnv) (renv : RelayEnv) (w w' : World) (texts texts' : List Str)
    (lines : List Bytes) :
    let sn := intText (nextSn w.lastSn env.time)
    let sn' := intText (nextSn w'.lastSn renv.time)
    (AllReadable py (texts ++ texts') → ∀ attrs, BothAnswer py t cloud env.exchange renv w.sockets
      (queryFrameOf attrs sn) (queryFrameOf attrs sn') texts texts' lines →
        SameAnswer (answer (LocalTransport.query py env attrs) (t, w))
          (answer (cloud.query py renv attrs) w')) ∧
    ∀ payload, BothAnswer py t cloud env.exchange renv w.sockets (setFrameOf payload sn)
      (setFrameOf payload sn') texts texts' lines →
        SameAnswer (answer (LocalTransport.control py env payload) (t, w))
          (answer (cloud.control py renv payload) w') := by
  intro sn sn'
  constructor
  · intro hreadable attrs h
    rw [LocalTransport.query_answer, CloudRelayTransport.query_answer]
    rcases exchanges_alike h w'.sockets with
      ⟨d, e, hd, he, halike, ⟨text, htext, hspells⟩, text', htext', hspells'⟩ | ⟨e, e', he, he'⟩
    · rw [hd, he]
      have hprints := hreadable text (List.mem_append_left _ htext) d hspells
      have hprints' := hreadable text' (List.mem_append_right _ htext') e hspells'
      rw [Readable, alike_data halike] at hprints
      rw [Readable] at hprints'
      simp only [Except.bind, LocalTransport.readData, CloudRelayTransport.readData,
        LocalTransport.noDataMap, alike_data halike]
      cases hdata : LocalTransport.dataMap e with
      | none =>
        rw [hdata] at hprints hprints'
        obtain ⟨printed, hp⟩ := Option.isSome_iff_exists.mp (hprints.resolve_left (by simp))
        obtain ⟨printed', hp'⟩ := Option.isSome_iff_exists.mp (hprints'.resolve_left (by simp))
        rw [hp, hp']
        exact .inr ⟨_, _, rfl, rfl⟩
      | some data => exact .inl ⟨data, rfl, rfl⟩
    · rw [he, he']
      exact .inr ⟨e, e', rfl, rfl⟩
  · intro payload h
    rw [LocalTransport.control_answer, CloudRelayTransport.control_answer]
    rcases exchanges_alike h w'.sockets with ⟨d, e, hd, he, halike, -⟩ | ⟨e, e', he, he'⟩
    · rw [hd, he]
      exact .inl ⟨_, rfl, by rw [alike_accepted halike]; rfl⟩
    · rw [he, he']
      exact .inr ⟨e, e', rfl, rfl⟩

/-- A frame of the device, and the fields of an acknowledgement and a report of it. -/
def onFrame : Frame := setFrameOf [(.int 1, 255)] (str "1000")

def onText : Str := frameText .plain onFrame

def ackFields : Dict Str := [(str "cmd", str "publish"), (str "res", str "1"), (str "num", str "1")]

def onReport : Dict Str :=
  [(str "cmd", str "publish"), (str "topic", str "device_plug"),
    (str "message", quote (onText.flatMap utf8Char))]

def onLines : List Bytes :=
  [(lineText ackFields).flatMap utf8Char, (lineText onReport).flatMap utf8Char]

def onListener : LocalEnv :=
  ⟨1, ⟨.wouldBlock, true⟩, ⟨.accepted, 0, []⟩, .opened,
    ⟨.accepted, 0, [⟨0, .received (streamOf (listenerLines [onText]))⟩]⟩⟩

def onRelay : RelayEnv :=
  ⟨1, 0, .opened, .accepted, .accepted, [⟨0, .received (streamOf onLines)⟩]⟩

theorem paths_agree_on :
    SameAnswer
      (answer (LocalTransport.query .plain onListener none) (⟨str "plug", 5555, 5, none⟩, .initial))
      (answer (CloudRelayTransport.query ⟨str "plug", str "key", str "relay", 8898, 5⟩ .plain onRelay
        none) .initial) := by
  have hbuilt : Built onFrame := ⟨_, by decide, .inr ⟨_, rfl⟩⟩
  have hinverts : Inverts .plain onFrame := rfl
  have hspells : Spells .plain onText onFrame.toDict :=
    ⟨(printable_frame .plain hbuilt).wellFormed, by decide +kernel, by decide +kernel,
      decodeText_frame hinverts⟩
  have hcarries : ∀ s : Bytes, s ≠ [] → Carries (0 + 5) [⟨0, .received s⟩] s := by
    intro s hs
    have h : Carries (0 + 5) [⟨0, .received s⟩] (s ++ []) := .chunk (by norm_num) rfl hs .done
    rwa [List.append_nil] at h
  have hfields : ∀ fields, fields = ackFields ∨ fields = onReport →
      LineWith fields ((lineText fields).flatMap utf8Char) := by
    rintro fields (rfl | rfl) <;>
      exact ⟨⟨by unfold Dict.Distinct; decide +kernel, by decide +kernel, by decide +kernel⟩,
        by unfold WellFormed; decide +kernel, by decide +kernel, List.cons_ne_nil _ _, rfl⟩
  have halike : Echoed .plain
      (queryFrameOf none (intText (nextSn World.initial.lastSn onListener.time)))
      (queryFrameOf none (intText (nextSn World.initial.lastSn onRelay.time))) onText onText :=
    ⟨_, _, hspells, hspells, rfl, fun _ _ => rfl⟩
  have hlisten : Carries (0 + 5) [⟨0, .received (streamOf (listenerLines [onText]))⟩]
      (streamOf (listenerLines [onText])) :=
    hcarries _ (by simp [streamOf, listenerLines, TERMINATOR])
  have hrelay : Carries (0 + 5) [⟨0, .received (streamOf onLines)⟩] (streamOf onLines) :=
    hcarries _ (by simp [streamOf, onLines, TERMINATOR])
  have hlines : RelayLines ⟨str "plug", str "key", str "relay", 8898, 5⟩ [onText] onLines := by
    apply RelayLines.ack (hfields _ (.inl rfl)) (.inr rfl) (by decide) rfl
    apply RelayLines.report (hfields _ (.inr rfl)) rfl rfl _ rfl .nil
    exact quote_encoded hspells.1
  have htakes : CloudRelayTransport.Takes .plain
      ⟨str "plug", str "key", str "relay", 8898, 5⟩ onRelay := ⟨by decide, rfl, rfl, rfl, rfl⟩
  have hreadable : AllReadable .plain ([onText] ++ [onText]) := fun _ _ _ _ => .inr rfl
  apply (paths_agree .plain _ _ onListener onRelay .initial .initial [onText] [onText] onLines).1
    hreadable none
  exact ⟨.cons halike .nil, ⟨⟨0, [], some 5⟩, onListener.exchange.fresh, rfl, rfl, hlisten⟩, htakes,
    hlines, hrelay⟩

end Answers

end CozyLife
