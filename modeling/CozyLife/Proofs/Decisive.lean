import CozyLife.Proofs.WriteOnce

/-! Which line decides an exchange with the relay. -/

namespace CozyLife
open Python Effects Lines

/-- What a socket is given to send, and how much of it it takes. -/
def Event.write : Event → Option (Bytes × Bytes)
  | .sent _ _ raw taken => some (raw, taken)
  | _ => none

/-- What may have been written of two lines, of which the second follows the whole of the first. -/
inductive InTurn (first second : Bytes) : List (Bytes × Bytes) → Prop
  | neither : InTurn first second []
  | one (taken : Bytes) : InTurn first second [(first, taken)]
  | both (taken : Bytes) : InTurn first second [(first, first), (second, taken)]

namespace CloudRelayTransport

variable (py : Interpreter) (self : CloudRelayTransport)

/-- What a line makes of the exchange, if it decides it: the receipt of a command that reached nobody
fails it, the report that answers the frame is its reply. -/
def ruling (frame : Frame) (line : Bytes) : Option (Except Exn (Dict Json)) :=
  if isUndeliveredAck (parseLine line) then
    some (.error (.transport ⟨self.repr ++ str " accepted the command but reached no subscriber " ++
      str "(device offline, or registered on a different relay port)"⟩))
  else match self.extractReport py (parseLine line) with
    | .ok (some reply) => if answers frame reply then some (.ok reply) else none
    | _ => none

/-- The lines that come over the relay connection `n`. -/
def hears (env : RelayEnv) (n : Nat) : List Bytes :=
  heard ⟨n, [], some self.timeout⟩ (env.started + self.timeout) env.turns

/-- The publication follows the whole subscription. Once both are out, the exchange is decided by the
first line that decides anything, whatever lines stand around it, and without one it fails. -/
structure DecidedByFirst (env : RelayEnv) (frame : Frame) (w : World) : Prop where
  written : ∃ evs, (after (self.exchange py env frame) w).trace = w.trace ++ evs ∧
    ∀ sub pub, self.subscribeLine = .ok sub → self.publishLine py frame = .ok pub →
      InTurn sub pub (evs.filterMap Event.write)
  first : self.Takes py env → ∀ pre line post r,
    self.hears env w.sockets = pre ++ line :: post →
    (∀ p ∈ pre, self.ruling py frame p = none) → self.ruling py frame line = some r →
    answer (self.exchange py env frame) w = r
  silent : self.Takes py env →
    (∀ line ∈ self.hears env w.sockets, self.ruling py frame line = none) →
    ∃ e, answer (self.exchange py env frame) w = .error (.transport e)
  replied : self.Takes py env → ∀ reply, answer (self.exchange py env frame) w = .ok reply →
    ∃ line ∈ self.hears env w.sockets, isUndeliveredAck (parseLine line) = false ∧
      self.extractReport py (parseLine line) = .ok (some reply) ∧ answers frame reply = true

/-! ### What a line decides -/

theorem ruling_none (frame : Frame) (line : Bytes) :
    self.ruling py frame line = none ↔ ¬ self.EndsLine py frame line := by
  unfold ruling EndsLine
  cases ha : isUndeliveredAck (parseLine line) with
  | true => simp
  | false =>
    rcases hr : self.extractReport py (parseLine line) with e | _ | reply
    · simp
    · simp
    · cases h : answers frame reply <;> simp [h]

theorem ruling_ok (frame : Frame) (line : Bytes) (reply : Dict Json) :
    self.ruling py frame line = some (.ok reply) ↔ isUndeliveredAck (parseLine line) = false ∧
      self.extractReport py (parseLine line) = .ok (some reply) ∧ answers frame reply = true := by
  unfold ruling
  cases ha : isUndeliveredAck (parseLine line) with
  | true => simp
  | false =>
    rcases hr : self.extractReport py (parseLine line) with e | _ | got
    · simp
    · simp
    · cases h : answers frame got with
      | true =>
        simp only [Bool.false_eq_true, ↓reduceIte, h, Option.some.injEq, Except.ok.injEq, true_and]
        constructor
        · intro he
          exact ⟨he, he ▸ h⟩
        · intro he
          exact he.1
      | false =>
        simp only [Bool.false_eq_true, ↓reduceIte, h, reduceCtorEq, Except.ok.injEq,
          Option.some.injEq, true_and, false_iff, not_and]
        intro he
        simp [← he, h]

/-- A line that decides ends the loop the way it decides. -/
theorem ruling_verdict {frame : Frame} {line : Bytes} (h : self.ruling py frame line = some r) :
    (∃ reply, r = .ok reply ∧ self.relayVerdict py frame () line = .leave reply) ∨
      ∃ e, r = .error e ∧ e.isTransport = true ∧
        self.relayVerdict py frame () line = .raise e := by
  unfold ruling at h
  unfold relayVerdict
  cases ha : isUndeliveredAck (parseLine line) with
  | true =>
    simp only [ha, ↓reduceIte, Option.some.injEq] at h ⊢
    exact .inr ⟨_, h.symm, rfl, rfl⟩
  | false =>
    simp only [ha, Bool.false_eq_true, ↓reduceIte] at h ⊢
    rcases hr : self.extractReport py (parseLine line) with e | _ | reply
    · simp [hr] at h
    · simp [hr] at h
    · simp only [hr] at h ⊢
      split at h
      · rename_i hanswers
        cases h
        exact .inl ⟨reply, rfl, by simp [hanswers]⟩
      · cases h

/-! ### The exchange -/

theorem exchange_answer (env : RelayEnv) (frame : Frame) (w : World) :
    answer (self.exchange py env frame) w = (self.outcome py env frame w.sockets).answer := by
  simp only [answer, exchange_run]
  cases (self.outcome py env frame w.sockets).answer <;> rfl

theorem exchange_after (env : RelayEnv) (frame : Frame) (w : World) :
    after (self.exchange py env frame) w = (self.outcome py env frame w.sockets).world w := by
  simp only [after, exchange_run]
  cases (self.outcome py env frame w.sockets).answer <;> rfl

/-- Nothing is written of the publication before the subscription is out whole. -/
theorem outcome_written (env : RelayEnv) (frame : Frame) (n : Nat)
    (hsub : self.subscribeLine = .ok sub) (hpub : self.publishLine py frame = .ok pub) :
    InTurn sub pub ((self.outcome py env frame n).events.filterMap Event.write) := by
  have hread : (self.hear py env frame n).events.filterMap Event.write = [] := by
    apply List.filterMap_eq_nil_iff.mpr
    intro e he
    obtain ⟨_, _, rfl⟩ := self.hear_events py env frame n e he
    rfl
  unfold outcome
  cases addressable py self.host self.port with
  | false => exact .neither
  | true =>
    cases env.connect with
    | refused text => exact .neither
    | opened =>
      simp only [↓reduceIte, talk, hsub, hpub]
      cases env.subscribe with
      | failed k fault => exact .one _
      | accepted =>
        cases env.publish with
        | failed k fault => exact .both _
        | accepted =>
          simp only [List.cons_append, List.filterMap_cons, List.filterMap_append, Event.write,
            hread, List.filterMap_nil, List.append_nil]
          exact .both _

/-- The loop over the lines of the relay. -/
theorem hear_decision (env : RelayEnv) (frame : Frame) (n : Nat) :
    Decision (self.relayVerdict py frame) ⟨n, [], some self.timeout⟩ (env.started + self.timeout)
      env.turns (self.hear py env frame n) :=
  lines_decision (self.relayVerdict py frame) ⟨n, [], some self.timeout⟩
    (env.started + self.timeout) env.turns

/-- A reply is what a line that was heard decided. -/
theorem outcome_replied {env : RelayEnv} (frame : Frame) (n : Nat)
    (hr : (self.outcome py env frame n).answer = .ok reply) :
    ∃ line ∈ self.hears env n, self.ruling py frame line = some (.ok reply) := by
  obtain ⟨_, pre, line, post, hlines, _, hreport⟩ := (self.outcome_answered py env frame n reply).mp hr
  exact ⟨line, by simp [hears, hlines], (self.ruling_ok py frame line reply).mpr hreport⟩

/-- Tame lines up to one that decides are passed over, and it decides. -/
theorem outcome_first {env : RelayEnv} (h : self.Takes py env) (frame : Frame) (n : Nat)
    (ht : Tame (self.OverLimitLine py) (self.EndsLine py frame) (self.hears env n)
      (silence ⟨n, [], some self.timeout⟩ (env.started + self.timeout) env.turns))
    (hlines : self.hears env n = pre ++ line :: post)
    (hpre : ∀ p ∈ pre, self.ruling py frame p = none)
    (hr : self.ruling py frame line = some r) : (self.outcome py env frame n).answer = r := by
  have hheard := self.outcome_heard py h frame n
  have hstops : self.relayVerdict py frame () line ≠ .next () := by
    rcases self.ruling_verdict py hr with ⟨_, _, hv⟩ | ⟨_, _, _, hv⟩ <;> simp [hv]
  have hpassed : ∀ p ∈ pre, self.relayVerdict py frame () p = .next () := by
    intro p hp
    obtain ⟨before, behind, rfl⟩ := List.append_of_mem hp
    apply (self.relayVerdict_next py frame p).mpr
    refine ⟨?_, (self.ruling_none py frame p).mp (hpre p hp)⟩
    intro hover
    obtain ⟨q, hq, hends⟩ := ht.parsing before p (behind ++ line :: post) (by simp [hlines]) hover
    exact (self.ruling_none py frame q).mp (hpre q (List.mem_append_left _ hq)) hends
  cases self.hear_decision py env frame n with
  | undecided hall hgiven hexit =>
    exact absurd (hall line (by rw [← hears, hlines]; simp)) hstops
  | decided pre' l post' hlines' hpre' hgiven hexit =>
    -- the line that ends the loop is the first that decides
    have hsame : l = line := by
      rcases mem_of_cut (hlines'.symm.trans hlines) with he | hl | hl
      · exact he
      · have hv := hpassed l hl
        rcases hexit with ⟨_, ha, _⟩ | ⟨_, ha, _⟩ <;> simp [hv] at ha
      · exact absurd (hpre' line hl) hstops
    subst hsame
    rcases self.ruling_verdict py hr with ⟨reply, rfl, hv⟩ | ⟨e, rfl, _, hv⟩
    · rcases hexit with ⟨a, ha, hx⟩ | ⟨e, he, _⟩
      · rw [hv] at ha
        cases ha
        simpa [hx] using hheard
      · simp [hv] at he
    · rcases hexit with ⟨a, ha, _⟩ | ⟨e', he, hx⟩
      · simp [hv] at ha
      · rw [hv] at he
        cases he
        simpa [hx] using hheard

/-- Tame lines that decide nothing end in a transport error. -/
theorem outcome_silent {env : RelayEnv} (h : self.Takes py env) (frame : Frame) (n : Nat)
    (ht : Tame (self.OverLimitLine py) (self.EndsLine py frame) (self.hears env n)
      (silence ⟨n, [], some self.timeout⟩ (env.started + self.timeout) env.turns))
    (hnone : ∀ line ∈ self.hears env n, self.ruling py frame line = none) :
    ∃ e, (self.outcome py env frame n).answer = .error (.transport e) := by
  have hcontained := (self.outcome_contained py env frame n).mpr
    ⟨h.1, fun _ => ⟨h.2.2.1, fun _ _ => ht⟩⟩
  cases ha : (self.outcome py env frame n).answer with
  | ok reply =>
    obtain ⟨line, hl, hr⟩ := self.outcome_replied py frame n ha
    simp [hnone line hl] at hr
  | error e =>
    rw [ha] at hcontained
    cases e with
    | transport e => exact ⟨e, rfl⟩
    | _ => exact absurd (hcontained _ rfl) (by simp [Exn.isTransport])

/-- An exchange with the relay is decided by the first line that decides anything, exactly when, once
both lines to the relay are out, what comes before that line is within the limits of the
interpreter. -/
theorem decided_iff (env : RelayEnv) (frame : Frame) (w : World) :
    self.DecidedByFirst py env frame w ↔ (self.Takes py env →
      Tame (self.OverLimitLine py) (self.EndsLine py frame) (self.hears env w.sockets)
        (silence ⟨w.sockets, [], some self.timeout⟩ (env.started + self.timeout) env.turns)) := by
  constructor
  · intro hdecided h
    obtain ⟨_, hdecides, hsilent, _⟩ := hdecided
    have hcontained : Contained (self.outcome py env frame w.sockets).answer := by
      rw [← exchange_answer]
      intro e he
      cases hfirst : (self.hears env w.sockets).findSome? (self.ruling py frame) with
      | none =>
        obtain ⟨e', he'⟩ := hsilent h (List.findSome?_eq_none_iff.mp hfirst)
        rw [he] at he'
        cases he'
        rfl
      | some r =>
        obtain ⟨pre, line, post, hlines, hr, hpre⟩ := List.findSome?_eq_some_iff.mp hfirst
        have hanswer := hdecides h pre line post r hlines hpre hr
        rw [he] at hanswer
        rcases self.ruling_verdict py hr with ⟨_, rfl, _⟩ | ⟨e', rfl, ht, _⟩
        · cases hanswer
        · cases hanswer
          exact ht
    have hsafe := (self.outcome_contained py env frame w.sockets).mp hcontained
    exact (hsafe.2 h.2.1).2 h.2.2.2.1 h.2.2.2.2
  · intro ht
    refine ⟨⟨_, by rw [exchange_after]; rfl, ?_⟩, ?_, ?_, ?_⟩
    · intro sub pub hsub hpub
      exact self.outcome_written py env frame w.sockets hsub hpub
    · intro h pre line post r hlines hpre hr
      rw [exchange_answer]
      exact self.outcome_first py h frame w.sockets (ht h) hlines hpre hr
    · intro h hnone
      rw [exchange_answer]
      exact self.outcome_silent py h frame w.sockets (ht h) hnone
    · intro h reply hr
      rw [exchange_answer] at hr
      obtain ⟨line, hl, hruling⟩ := self.outcome_replied py frame w.sockets hr
      exact ⟨line, hl, (self.ruling_ok py frame line reply).mp hruling⟩

/-- An interpreter whose digit limit is the lowest it can be set to. -/
def strict : Interpreter := { Interpreter.plain with maxStrDigits := 640 }

def relayed (message : Bytes) : Bytes := ascii "topic=device_dev&message=" ++ message

/-- A report with a number of more digits than that. -/
def longReport : Bytes := relayed (List.replicate 641 0x31)

def answerReport : Bytes := relayed (ascii "\x7b\"sn\":\"1\"\x7d")

/-- The device's answer arrives behind the long report. -/
def longNumber : RelayEnv := ⟨0, 0, .opened, .accepted, .accepted,
  [⟨1, .received (longReport ++ TERMINATOR ++ answerReport ++ TERMINATOR)⟩]⟩

/-- The report that decides nothing ends the exchange, and not with a transport error. -/
theorem long_number_decides : ¬ DecidedByFirst strict ⟨str "dev", str "key", str "relay", 8898, 10⟩
    longNumber (queryFrameOf none (str "1")) World.initial := by
  intro hdecided
  obtain ⟨_, hdecides, _, _⟩ := hdecided
  let relay : CloudRelayTransport := ⟨str "dev", str "key", str "relay", 8898, 10⟩
  have hlines : relay.hears longNumber 0 = [longReport] ++ answerReport :: [] := by
    decide +kernel
  have hpassed : (relay.ruling strict (queryFrameOf none (str "1")) longReport).isNone = true := by
    decide +kernel
  have hanswers : (relay.ruling strict (queryFrameOf none (str "1")) answerReport).isSome = true := by
    decide +kernel
  have hfails : (answer (relay.exchange strict longNumber (queryFrameOf none (str "1")))
      World.initial).map (fun _ => ()) = .error .value := by
    decide +kernel
  obtain ⟨r, hr⟩ := Option.isSome_iff_exists.mp hanswers
  have htakes : relay.Takes strict longNumber := ⟨by decide, rfl, by decide, rfl, rfl⟩
  have hanswer := hdecides htakes [longReport] answerReport [] r hlines
    (by simpa using hpassed) hr
  rw [hanswer] at hfails
  rcases relay.ruling_verdict strict hr with ⟨_, rfl, _⟩ | ⟨e, rfl, ht, _⟩
  · cases hfails
  · simp only [Except.map, Except.error.injEq] at hfails
    rw [hfails] at ht
    cases ht

end CloudRelayTransport

end CozyLife
