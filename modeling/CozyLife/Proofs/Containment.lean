import CozyLife.Proofs.Relay

/-! Which exceptions leave the two transports. `FallbackClient` catches only `TransportError`. -/

namespace CozyLife
open Python Effects Lines

/-- What is raised, if anything is, is a `TransportError`. -/
def Contained (r : Except Exn α) : Prop := ∀ e, r = .error e → e.isTransport = true

theorem contained_ok (a : α) : Contained (.ok a : Except Exn α) := by
  intro e h
  cases h

theorem contained_error (e : Exn) :
    Contained (.error e : Except Exn α) ↔ e.isTransport = true := by
  constructor
  · intro h
    exact h e rfl
  · intro h e' he
    cases he
    exact h

/-- What was returned is worked on further. -/
theorem contained_bind (r : Except Exn α) (f : α → Except Exn β) :
    Contained (r.bind f) ↔ Contained r ∧ ∀ a, r = .ok a → Contained (f a) := by
  cases r with
  | error e => simp [Except.bind, contained_error]
  | ok a => simp [Except.bind, contained_ok]

theorem contained_map (r : Except Exn α) (f : α → β) : Contained (r.map f) ↔ Contained r := by
  cases r with
  | error e => exact (contained_error e).trans (contained_error e).symm
  | ok a => exact iff_of_true (contained_ok _) (contained_ok a)

/-- Of the lines that are to come, one that `ends` the exchange stands before each that `exceeds` a
limit of the interpreter, and stands among them if the socket ends up refusing to be waited on. -/
structure Tame (exceeds ends : Bytes → Prop) (lines : List Bytes) (fault : Option Exn) : Prop where
  parsing : ∀ pre line post, lines = pre ++ line :: post → exceeds line → ∃ p ∈ pre, ends p
  waiting : (∃ text, fault = some (.os text)) → ∃ line ∈ lines, ends line

/-- A loop raises nothing but transport errors exactly when what it reads is tame. -/
theorem lines_tame {v : Unit → Bytes → Verdict Unit α} {exceeds ends : Bytes → Prop}
    (hnext : ∀ l, v () l = .next () ↔ ¬ exceeds l ∧ ¬ ends l) (hends : ∀ l, ends l → ¬ exceeds l)
    (hexceeds : ∀ l, exceeds l ↔ ∃ e, v () l = .raise e ∧ e.isTransport = false)
    (conn : LineSocket) (deadline : ℚ) (turns : List Turn) :
    (∀ e, (conn.lines v deadline turns ()).exit = .raised e → e.isTransport = true) ↔
      Tame exceeds ends (heard conn deadline turns) (silence conn deadline turns) := by
  cases lines_decision v conn deadline turns with
  | undecided hall hgiven hexit =>
    constructor
    · intro h
      refine ⟨?_, ?_⟩
      · intro pre line post he ho
        exact absurd ho ((hnext line).mp (hall line (he ▸ by simp))).1
      · intro hfault
        obtain ⟨text, hs⟩ := hfault
        rw [hs] at hexit
        exact absurd (h _ hexit) (by simp [Exn.isTransport])
    · intro h e he
      cases hs : silence conn deadline turns with
      | none => simp [hexit, hs] at he
      | some e' =>
        simp only [hexit, hs, Exit.raised.injEq] at he
        subst he
        rcases silence_error hs with ht | ⟨text, rfl⟩
        · exact ht
        · obtain ⟨line, hl, hd⟩ := h.waiting ⟨text, hs⟩
          exact absurd hd ((hnext line).mp (hall line hl)).2
  | decided pre l post hheard hpre hgiven hexit =>
    constructor
    · intro h
      -- the decisive line is not over a limit, so it is one that ends the exchange
      have hl : ends l := by
        by_contra hne
        rcases hexit with ⟨a, hv, _⟩ | ⟨e, hv, he⟩
        · have hno : ¬ exceeds l := by
            intro ho
            obtain ⟨e, hr, _⟩ := (hexceeds l).mp ho
            simp [hv] at hr
          simp [(hnext l).mpr ⟨hno, hne⟩] at hv
        · have hno : ¬ exceeds l := by
            intro ho
            obtain ⟨e', hr, ht⟩ := (hexceeds l).mp ho
            rw [hv] at hr
            cases hr
            simp [h e he] at ht
          simp [(hnext l).mpr ⟨hno, hne⟩] at hv
      refine ⟨?_, fun _ => ⟨l, hheard ▸ by simp, hl⟩⟩
      intro pre' line post' he ho
      rcases mem_of_cut (hheard.symm.trans he) with rfl | hm | hm
      · exact absurd ho (hends l hl)
      · exact ⟨l, hm, hl⟩
      · exact absurd ho ((hnext line).mp (hpre line hm)).1
    · intro h e he
      rcases hexit with ⟨a, _, hx⟩ | ⟨e', hv, hx⟩
      · rw [he] at hx; cases hx
      · rw [he] at hx
        cases hx
        by_contra ht
        obtain ⟨p, hp, hd⟩ := h.parsing pre l post hheard
          ((hexceeds l).mpr ⟨e, hv, by simpa using ht⟩)
        exact absurd hd ((hnext p).mp (hpre p hp)).2

/-- A text that `json.loads` refuses with an exception `decode` lets through. -/
def OverLimit (py : Interpreter) (text : Str) : Prop :=
  ∃ e, loads py (strip text) = .error e ∧ e ≠ .decode

theorem decodeText_error (py : Interpreter) (text : Str) :
    (∃ e, decodeText py text = .error e) ↔ OverLimit py text := by
  unfold decodeText OverLimit
  rcases h : loads py (strip text) with (_ | _ | _) | j
  · simp
  · simp
  · simp
  · cases j <;> simp

theorem decodeText_foreign (h : decodeText py text = .error e) : e.isTransport = false := by
  unfold decodeText at h
  split at h <;> cases h <;> rfl

theorem addressError_foreign (py : Interpreter) (host : Str) :
    (addressError py host).isTransport = false := by
  unfold addressError
  split <;> rfl

/-- A reply with a data map, or one that can be put into the text of an error. -/
def Readable (py : Interpreter) (reply : Dict Json) : Prop :=
  (LocalTransport.dataMap reply).isSome = true ∨ (py.dictText reply).isSome = true

theorem noDataMap_transport (py : Interpreter) (lead : Str) (reply : Dict Json) :
    (LocalTransport.noDataMap py lead reply).isTransport = (py.dictText reply).isSome := by
  unfold LocalTransport.noDataMap
  cases py.dictText reply <;> rfl

/-- The frame a query made at `time` sends. -/
def nextQuery (attrs : Option (List Int)) (time : ℚ) (w : World) : Frame :=
  queryFrameOf attrs (intText (nextSn w.lastSn time))

namespace LocalTransport

variable (py : Interpreter)

/-- A line in UTF-8 that is over a limit. -/
def OverLimitLine (line : Bytes) : Prop := ∃ text, decodeUtf8 line = some text ∧ OverLimit py text

def IsAnswer (frame : Frame) (line : Bytes) : Prop :=
  ∃ reply, decode py line = .ok (some reply) ∧ answers frame reply = true

theorem decode_error (line : Bytes) :
    (∃ e, decode py line = .error e) ↔ OverLimitLine py line := by
  unfold decode OverLimitLine
  cases decodeUtf8 line with
  | none => simp
  | some text => simpa using decodeText_error py text

theorem decode_foreign (h : decode py line = .error e) : e.isTransport = false := by
  unfold decode at h
  split at h
  · cases h
  · exact decodeText_foreign h

theorem replyVerdict_raise (frame : Frame) (line : Bytes) (e : Exn) :
    replyVerdict py frame () line = .raise e ↔ decode py line = .error e := by
  unfold replyVerdict
  rcases decode py line with e | _ | reply
  · simp
  · simp
  · cases h : answers frame reply <;> simp [h]

theorem replyVerdict_next (frame : Frame) (line : Bytes) :
    replyVerdict py frame () line = .next () ↔
      ¬ OverLimitLine py line ∧ ¬ IsAnswer py frame line := by
  rw [← decode_error]
  unfold replyVerdict IsAnswer
  rcases decode py line with e | _ | reply
  · simp
  · simp
  · cases h : answers frame reply <;> simp [h]

/-- The lines that come over `conn` do not make the exchange raise anything foreign. -/
def TameReading (t : LocalTransport) (frame : Frame) (conn : LineSocket) (c : Conversation) :
    Prop :=
  Tame (OverLimitLine py) (IsAnswer py frame) (heard conn (c.started + t.timeout) c.turns)
    (silence conn (c.started + t.timeout) c.turns)

theorem conclude_contained (t : LocalTransport) (frame : Frame) (conn : LineSocket)
    (c : Conversation) : Contained (conclude py t (listenFor py t frame conn c)).answer ↔
      TameReading py t frame conn c := by
  rw [TameReading, ← lines_tame (v := replyVerdict py frame) (replyVerdict_next py frame)]
  · unfold conclude listenFor
    split <;> rename_i hx <;> rw [hx]
    · exact iff_of_true (contained_ok _) (fun _ h => by cases h)
    · exact (contained_error _).trans ⟨fun h _ he => by cases he; exact h, fun h => h _ rfl⟩
    · exact iff_of_true ((contained_error _).mpr rfl) (fun _ h => by cases h)
  · intro l hanswer ho
    obtain ⟨reply, hd, _⟩ := hanswer
    obtain ⟨e, he⟩ := (decode_error py l).mpr ho
    rw [hd] at he
    cases he
  · intro l
    simp only [replyVerdict_raise, ← decode_error]
    constructor
    · intro hraised
      obtain ⟨e, he⟩ := hraised
      exact ⟨e, he, decode_foreign py he⟩
    · intro hforeign
      obtain ⟨e, he, _⟩ := hforeign
      exact ⟨e, he⟩

/-- The held connection, as the look at it leaves it, if it takes the whole frame. -/
def takesHeld (t : LocalTransport) (env : ExchangeEnv) : Option LineSocket :=
  match t.conn with
  | some conn =>
    if (conn.peerHasClosed env.peek).1 = false ∧ env.held.send.isAccepted = true then
      some (conn.peerHasClosed env.peek).2
    else none
  | none => none

/-- What keeps an exchange from raising anything foreign: a host that can be encoded, should a new
connection be needed, and tame lines on the connection that takes the frame. -/
def Safe (t : LocalTransport) (env : ExchangeEnv) (frame : Frame) (n : Nat) : Prop :=
  match t.takesHeld env with
  | some conn => TameReading py t frame conn env.held
  | none => addressable py t.host t.port = true ∧
      (env.connect = .opened → env.fresh.send.isAccepted = true →
        TameReading py t frame ⟨n, [], some t.timeout⟩ env.fresh)

theorem takesHeld_of_givesUp {t : LocalTransport} (h : GivesUp t env packet evs) :
    t.takesHeld env = none := by
  unfold takesHeld
  cases h with
  | idle h => rw [h]
  | hungUp conn h hc => simp [h, hc]
  | broken conn k fault h hc hs => simp [h, hs, SendOutcome.isAccepted]

theorem outcome_contained (t : LocalTransport) (env : ExchangeEnv) (frame : Frame) (n : Nat) :
    Contained (outcome py t env frame n).answer ↔ Safe py t env frame n := by
  unfold outcome Safe
  rcases deliver_cases py t env (encode py frame) n with ⟨conn, h, hc, hs, hd⟩ | ⟨evs, hg, hd⟩
  · have htake : t.takesHeld env = some (conn.peerHasClosed env.peek).2 := by
      simp [takesHeld, h, hc, hs, SendOutcome.isAccepted]
    rw [hd, htake]
    exact conclude_contained py t frame _ env.held
  · have hf := deliverFresh_dials py t env (encode py frame) n
    rw [hd, takesHeld_of_givesUp hg, (settle_lead py t frame evs _).2]
    generalize deliverFresh py t env (encode py frame) n = d at hf
    cases hf with
    | refused text hi hc => exact iff_of_true ((contained_error _).mpr rfl) ⟨hi, by simp [hc]⟩
    | unaddressable hi => simp [settle, contained_error, addressError_foreign, hi]
    | broken k fault hi hc hs =>
      exact iff_of_true ((contained_error _).mpr rfl) ⟨hi, by simp [hs, SendOutcome.isAccepted]⟩
    | taken hi hc hs =>
      simpa [settle, hi, hc, hs, SendOutcome.isAccepted] using
        conclude_contained py t frame ⟨n, [], some t.timeout⟩ env.fresh

/-- The connection that takes the whole frame, if one does, and the conversation that follows. -/
def takes (t : LocalTransport) (env : ExchangeEnv) (n : Nat) :
    Option (LineSocket × Conversation) :=
  match t.takesHeld env with
  | some conn => some (conn, env.held)
  | none => match env.connect with
    | .opened =>
      if addressable py t.host t.port ∧ env.fresh.send.isAccepted then
        some (⟨n, [], some t.timeout⟩, env.fresh)
      else none
    | .refused _ => none

theorem deliver_takes (t : LocalTransport) (env : ExchangeEnv) (packet : Bytes) (n : Nat) :
    match t.takes py env n with
    | some p => (deliver py t env packet n).line = .ok p
    | none => ∃ e, (deliver py t env packet n).line = .error e := by
  unfold takes
  rcases deliver_cases py t env packet n with ⟨conn, h, hc, hs, hd⟩ | ⟨evs, hg, hd⟩
  · have htake : t.takesHeld env = some (conn.peerHasClosed env.peek).2 := by
      simp [takesHeld, h, hc, hs, SendOutcome.isAccepted]
    rw [hd, htake]
  · have hf := deliverFresh_dials py t env packet n
    rw [hd, takesHeld_of_givesUp hg]
    generalize deliverFresh py t env packet n = d at hf
    cases hf with
    | refused text hi hc => simp [hc, Delivery.after]
    | unaddressable hi => cases env.connect <;> simp [hi, Delivery.after]
    | broken k fault hi hc hs => simp [hc, hs, SendOutcome.isAccepted, Delivery.after]
    | taken hi hc hs => simp [hi, hc, hs, SendOutcome.isAccepted, Delivery.after]

/-- The first line that answers the frame says `reply`, and none before it is over a limit. -/
def FirstAnswer (frame : Frame) (lines : List Bytes) (reply : Dict Json) : Prop :=
  ∃ pre line post, lines = pre ++ line :: post ∧
    (∀ l ∈ pre, ¬ OverLimitLine py l ∧ ¬ IsAnswer py frame l) ∧
    decode py line = .ok (some reply) ∧ answers frame reply = true

theorem conclude_answered (t : LocalTransport) (frame : Frame) (conn : LineSocket)
    (c : Conversation) (reply : Dict Json) :
    (conclude py t (listenFor py t frame conn c)).answer = .ok reply ↔
      FirstAnswer py frame (heard conn (c.started + t.timeout) c.turns) reply := by
  have hleft := lines_left_iff (replyVerdict py frame) conn (c.started + t.timeout) c.turns reply
  simp only [replyVerdict_next, replyVerdict_leave] at hleft
  rw [FirstAnswer, ← hleft]
  unfold conclude listenFor
  split <;> rename_i hexit <;> simp [hexit]

theorem outcome_answered (t : LocalTransport) (env : ExchangeEnv) (frame : Frame) (n : Nat)
    (reply : Dict Json) : (outcome py t env frame n).answer = .ok reply ↔
      ∃ conn c, t.takes py env n = some (conn, c) ∧
        FirstAnswer py frame (heard conn (c.started + t.timeout) c.turns) reply := by
  have htakes := deliver_takes py t env (encode py frame) n
  unfold outcome
  cases htake : t.takes py env n with
  | none =>
    obtain ⟨e, hl⟩ : ∃ e, (deliver py t env (encode py frame) n).line = .error e := by
      simpa [htake] using htakes
    simp [settle, hl]
  | some p =>
    have hl : (deliver py t env (encode py frame) n).line = .ok p := by simpa [htake] using htakes
    simp only [settle, hl, conclude_answered, Option.some.injEq]
    constructor
    · intro hfirst
      exact ⟨p.1, p.2, rfl, hfirst⟩
    · intro hsome
      obtain ⟨conn, c, rfl, hfirst⟩ := hsome
      exact hfirst

/-- What keeps a query from raising anything foreign: a safe exchange whose reply can be read. -/
def SafeQuery (t : LocalTransport) (env : ExchangeEnv) (frame : Frame) (n : Nat) : Prop :=
  t.Safe py env frame n ∧ ∀ conn c reply, t.takes py env n = some (conn, c) →
    FirstAnswer py frame (heard conn (c.started + t.timeout) c.turns) reply → Readable py reply

theorem readData_contained (t : LocalTransport) (reply : Dict Json) :
    Contained (t.readData py reply) ↔ Readable py reply := by
  unfold readData Readable
  cases dataMap reply with
  | some data => simp [contained_ok]
  | none => simp [contained_error, noDataMap_transport]

theorem query_contained (env : LocalEnv) (attrs : Option (List Int)) (t : LocalTransport)
    (w : World) : Contained (answer (query py env attrs) (t, w)) ↔
      t.SafeQuery py env.exchange (nextQuery attrs env.time w) w.sockets := by
  rw [nextQuery, query_answer, contained_bind, outcome_contained, SafeQuery]
  apply and_congr_right
  intro _
  simp only [outcome_answered, readData_contained]
  constructor
  · intro h conn c reply htake hfirst
    exact h reply ⟨conn, c, htake, hfirst⟩
  · rintro h reply ⟨conn, c, htake, hfirst⟩
    exact h conn c reply htake hfirst

end LocalTransport

namespace CloudRelayTransport

variable (py : Interpreter) (self : CloudRelayTransport)

/-- A line of the relay that carries a report over a limit. An acknowledgement is not looked into. -/
def OverLimitLine (line : Bytes) : Prop :=
  isUndeliveredAck (parseLine line) = false ∧
    (parseLine line).get (str "topic") = some self.reportTopic ∧
    ∃ raw, (parseLine line).get (str "message") = some raw ∧ OverLimit py (unquote raw)

/-- A line that ends the exchange: the frame reached nobody, or the report that answers it. -/
def EndsLine (frame : Frame) (line : Bytes) : Prop :=
  isUndeliveredAck (parseLine line) = true ∨
    ∃ reply, self.extractReport py (parseLine line) = .ok (some reply) ∧ answers frame reply = true

theorem extractReport_error (fields : Dict Str) :
    (∃ e, self.extractReport py fields = .error e) ↔
      fields.get (str "topic") = some self.reportTopic ∧
        ∃ raw, fields.get (str "message") = some raw ∧ OverLimit py (unquote raw) := by
  unfold extractReport
  by_cases ht : fields.get (str "topic") = some self.reportTopic
  · cases hm : fields.get (str "message") with
    | none => simp [ht]
    | some raw => simpa [ht] using decodeText_error py (unquote raw)
  · simp [ht]

theorem extractReport_foreign (h : self.extractReport py fields = .error e) :
    e.isTransport = false := by
  unfold extractReport at h
  split at h
  · cases h
  · split at h
    · cases h
    · exact decodeText_foreign h

theorem relayVerdict_next (frame : Frame) (line : Bytes) :
    self.relayVerdict py frame () line = .next () ↔
      ¬ self.OverLimitLine py line ∧ ¬ self.EndsLine py frame line := by
  rw [OverLimitLine, ← extractReport_error]
  unfold relayVerdict EndsLine
  cases ha : isUndeliveredAck (parseLine line) with
  | true => simp [ha]
  | false =>
    rcases hr : self.extractReport py (parseLine line) with e | _ | reply
    · simp [ha, hr]
    · simp [ha, hr]
    · cases h : answers frame reply <;> simp [h, ha, hr]

theorem relayVerdict_foreign (frame : Frame) (line : Bytes) : self.OverLimitLine py line ↔
    ∃ e, self.relayVerdict py frame () line = .raise e ∧ e.isTransport = false := by
  rw [OverLimitLine, ← extractReport_error]
  unfold relayVerdict
  cases ha : isUndeliveredAck (parseLine line) with
  | true => simp [ha, Exn.isTransport]
  | false =>
    rcases hr : self.extractReport py (parseLine line) with e | _ | reply
    · simpa [ha, hr] using self.extractReport_foreign py hr
    · simp [ha, hr]
    · cases h : answers frame reply <;> simp [h, ha, hr]

/-- What keeps an exchange with the relay from raising anything foreign. -/
def Safe (env : RelayEnv) (frame : Frame) (n : Nat) : Prop :=
  addressable py self.host self.port = true ∧ (env.connect = .opened → self.encodable = true ∧
    (env.subscribe.isAccepted = true → env.publish.isAccepted = true →
      Tame (self.OverLimitLine py) (self.EndsLine py frame)
        (heard ⟨n, [], some self.timeout⟩ (env.started + self.timeout) env.turns)
        (silence ⟨n, [], some self.timeout⟩ (env.started + self.timeout) env.turns)))

theorem hear_contained (env : RelayEnv) (frame : Frame) (n : Nat) :
    (∀ e, (self.hear py env frame n).exit = .raised e → e.isTransport = true) ↔
      Tame (self.OverLimitLine py) (self.EndsLine py frame)
        (heard ⟨n, [], some self.timeout⟩ (env.started + self.timeout) env.turns)
        (silence ⟨n, [], some self.timeout⟩ (env.started + self.timeout) env.turns) := by
  apply lines_tame (self.relayVerdict_next py frame) ?_ (self.relayVerdict_foreign py frame)
  intro l hends hexceeds
  obtain ⟨hno, ho⟩ := hexceeds
  rcases hends with ha | ⟨reply, hr, _⟩
  · simp [ha] at hno
  · obtain ⟨e, he⟩ := (self.extractReport_error py (parseLine l)).mpr ho
    rw [hr] at he
    cases he

theorem outcome_contained (env : RelayEnv) (frame : Frame) (n : Nat) :
    Contained (self.outcome py env frame n).answer ↔ self.Safe py env frame n := by
  unfold Safe
  rw [← hear_contained]
  unfold outcome
  cases hi : addressable py self.host self.port with
  | false => simp [contained_error, addressError_foreign]
  | true =>
    cases hc : env.connect with
    | refused text => simp [contained_error, connectError, Exn.isTransport]
    | opened =>
      cases henc : self.encodable with
      | false => simp [talk, subscribeLine_cases, henc, contained_error, Exn.isTransport]
      | true =>
        cases hs : env.subscribe with
        | failed k fault =>
          simp [talk, subscribeLine_cases, henc, hs, contained_error, sendError, Exn.isTransport,
            SendOutcome.isAccepted]
        | accepted =>
          cases hp : env.publish with
          | failed k fault =>
            simp [talk, subscribeLine_cases, publishLine_cases, henc, hs, hp, contained_error,
              sendError, Exn.isTransport, SendOutcome.isAccepted]
          | accepted =>
            simp only [talk, subscribeLine_cases, publishLine_cases, henc, hs, hp, ↓reduceIte,
              SendOutcome.isAccepted, true_and, forall_const]
            cases (self.hear py env frame n).exit <;>
              simp [contained_ok, contained_error, Exn.isTransport]

/-- The relay connection takes the line with the frame. -/
def Takes (env : RelayEnv) : Prop :=
  addressable py self.host self.port = true ∧ env.connect = .opened ∧ self.encodable = true ∧
    env.subscribe.isAccepted = true ∧ env.publish.isAccepted = true

/-- What comes of the lines, once both lines to the relay are out. -/
theorem outcome_heard {env : RelayEnv} (h : self.Takes py env) (frame : Frame) (n : Nat) :
    match (self.hear py env frame n).exit with
    | .left reply => (self.outcome py env frame n).answer = .ok reply
    | .raised e => (self.outcome py env frame n).answer = .error e
    | .ended _ => ∃ e, (self.outcome py env frame n).answer = .error (.transport e) := by
  obtain ⟨hi, hc, henc, hs, hp⟩ := h
  cases hsub : env.subscribe with
  | failed k fault => simp [hsub, SendOutcome.isAccepted] at hs
  | accepted =>
    cases hpub : env.publish with
    | failed k fault => simp [hpub, SendOutcome.isAccepted] at hp
    | accepted =>
      simp only [outcome, hi, hc, ↓reduceIte, talk, subscribeLine_cases, publishLine_cases, henc,
        hsub, hpub]
      cases (self.hear py env frame n).exit <;> simp

/-- The first line that ends the exchange is a report that says `reply`, and none before it is over a
limit. -/
def FirstReport (frame : Frame) (lines : List Bytes) (reply : Dict Json) : Prop :=
  ∃ pre line post, lines = pre ++ line :: post ∧
    (∀ l ∈ pre, ¬ self.OverLimitLine py l ∧ ¬ self.EndsLine py frame l) ∧
    isUndeliveredAck (parseLine line) = false ∧
    self.extractReport py (parseLine line) = .ok (some reply) ∧ answers frame reply = true

theorem relayVerdict_leave (frame : Frame) (line : Bytes) (reply : Dict Json) :
    self.relayVerdict py frame () line = .leave reply ↔ isUndeliveredAck (parseLine line) = false ∧
      self.extractReport py (parseLine line) = .ok (some reply) ∧ answers frame reply = true := by
  unfold relayVerdict
  cases ha : isUndeliveredAck (parseLine line) with
  | true => simp [ha]
  | false =>
    rcases hr : self.extractReport py (parseLine line) with e | _ | got
    · simp [ha, hr]
    · simp [ha, hr]
    · by_cases hgot : got = reply
      · cases h : answers frame reply <;> simp [ha, hr, hgot, h]
      · cases h : answers frame got <;> simp [ha, hr, hgot, h]

theorem outcome_answered (env : RelayEnv) (frame : Frame) (n : Nat) (reply : Dict Json) :
    (self.outcome py env frame n).answer = .ok reply ↔ self.Takes py env ∧
      self.FirstReport py frame
        (heard ⟨n, [], some self.timeout⟩ (env.started + self.timeout) env.turns) reply := by
  have hleft := lines_left_iff (self.relayVerdict py frame) ⟨n, [], some self.timeout⟩
    (env.started + self.timeout) env.turns reply
  simp only [relayVerdict_next, relayVerdict_leave] at hleft
  rw [FirstReport, ← hleft]
  by_cases htakes : self.Takes py env
  · have hheard := self.outcome_heard py htakes frame n
    rw [and_iff_right htakes]
    unfold hear at hheard
    split at hheard <;> rename_i hexit
    · rw [hheard, hexit]
      simp
    · rw [hheard, hexit]
      simp
    · obtain ⟨e, he⟩ := hheard
      rw [he, hexit]
      simp
  · refine iff_of_false ?_ (fun h => htakes h.1)
    intro hanswer
    apply htakes
    unfold outcome at hanswer
    cases hi : addressable py self.host self.port with
    | false => simp [hi] at hanswer
    | true =>
      cases hc : env.connect with
      | refused text => simp [hi, hc] at hanswer
      | opened =>
        cases henc : self.encodable with
        | false => simp [hi, hc, talk, subscribeLine_cases, henc] at hanswer
        | true =>
          cases hs : env.subscribe with
          | failed k fault => simp [hi, hc, talk, subscribeLine_cases, henc, hs] at hanswer
          | accepted =>
            cases hp : env.publish with
            | failed k fault =>
              simp [hi, hc, talk, subscribeLine_cases, publishLine_cases, henc, hs, hp] at hanswer
            | accepted => exact ⟨hi, hc, henc, by rw [hs]; rfl, by rw [hp]; rfl⟩

/-- What keeps a query from raising anything foreign: a safe exchange whose reply can be read. -/
def SafeQuery (env : RelayEnv) (frame : Frame) (n : Nat) : Prop :=
  self.Safe py env frame n ∧ ∀ reply, self.Takes py env → self.FirstReport py frame
    (heard ⟨n, [], some self.timeout⟩ (env.started + self.timeout) env.turns) reply →
      Readable py reply

theorem readData_contained (reply : Dict Json) :
    Contained (self.readData py reply) ↔ Readable py reply := by
  unfold readData Readable
  cases LocalTransport.dataMap reply with
  | some data => simp [contained_ok]
  | none => simp [contained_error, noDataMap_transport]

theorem query_contained (env : RelayEnv) (attrs : Option (List Int)) (w : World) :
    Contained (answer (self.query py env attrs) w) ↔
      self.SafeQuery py env (nextQuery attrs env.time w) w.sockets := by
  rw [nextQuery, self.query_answer, contained_bind, self.outcome_contained, SafeQuery]
  apply and_congr_right
  intro _
  simp only [outcome_answered, readData_contained]
  constructor
  · intro h reply htakes hfirst
    exact h reply ⟨htakes, hfirst⟩
  · rintro h reply ⟨htakes, hfirst⟩
    exact h reply htakes hfirst

end CloudRelayTransport

/-- Exactly when the four methods return or raise a `TransportError`. The sequence number in their
frames is the one the call is given. -/
theorem contained_iff (py : Interpreter) (t : LocalTransport) (self : CloudRelayTransport)
    (env : LocalEnv) (relay : RelayEnv) (attrs : Option (List Int)) (payload : Payload) (w : World) :
    (Contained (answer (LocalTransport.query py env attrs) (t, w)) ↔
      t.SafeQuery py env.exchange (nextQuery attrs env.time w) w.sockets) ∧
    (Contained (answer (LocalTransport.control py env payload) (t, w)) ↔
      t.Safe py env.exchange (setFrameOf payload (intText (nextSn w.lastSn env.time))) w.sockets) ∧
    (Contained (answer (self.query py relay attrs) w) ↔
      self.SafeQuery py relay (nextQuery attrs relay.time w) w.sockets) ∧
    (Contained (answer (self.control py relay payload) w) ↔
      self.Safe py relay (setFrameOf payload (intText (nextSn w.lastSn relay.time))) w.sockets) := by
  refine ⟨LocalTransport.query_contained py env attrs t w, ?_,
    self.query_contained py relay attrs w, ?_⟩
  · rw [LocalTransport.control_answer, contained_map, LocalTransport.outcome_contained]
  · rw [self.control_answer, contained_map, self.outcome_contained]

/-- A name with an empty label in it cannot be encoded, and the error is not an `OSError`. -/
theorem unicode_escapes : ¬ Contained (answer
    (LocalTransport.control .plain ⟨0, ⟨⟨.wouldBlock, true⟩, ⟨.accepted, 0, []⟩, .opened,
      ⟨.accepted, 0, []⟩⟩⟩ [(.int 1, 1)]) (⟨str "a..b", 5555, 5, none⟩, World.initial)) := by
  intro h
  have he : answer (LocalTransport.control .plain ⟨0, ⟨⟨.wouldBlock, true⟩, ⟨.accepted, 0, []⟩,
      .opened, ⟨.accepted, 0, []⟩⟩⟩ [(.int 1, 1)])
        (⟨str "a..b", 5555, 5, none⟩, World.initial) = .error .unicode := by decide +kernel
  exact absurd (h _ he) (by decide)

end CozyLife
