import CozyLife.Proofs.Polling
import CozyLife.Proofs.Wires
import CozyLife.Proofs.WriteOnce

/-! How often a device that does not measure is asked for its metering group. -/

namespace CozyLife
open Python Effects Lines

/-- A line that carries the query for the metering group: the device's own frame, or the relay's line
around it. -/
def IsMeteringQuery (py : Interpreter) (relay : Option CloudRelayTransport) (raw : Bytes) : Prop :=
  ∃ sn, raw = encode py (queryFrameOf (some METERING_DPIDS) sn) ∨
    ∃ c, relay = some c ∧ c.publishLine py (queryFrameOf (some METERING_DPIDS) sn) = .ok raw

/-- The metering query goes out whole at most once. -/
def AskedOnce (py : Interpreter) (relay : Option CloudRelayTransport) (evs : List Event) : Prop :=
  HandedOnce (IsMeteringQuery py relay) evs

/-! ### Which lines carry it -/

/-- Whether the frames of a query, and the relay's lines around them, are of a kind, and its
subscriptions are not. -/
structure Marks (py : Interpreter) (relay : Option CloudRelayTransport) (kind : Bytes → Prop)
    (attrs : Option (List Int)) (marked : Prop) : Prop where
  frame : ∀ sn, kind (encode py (queryFrameOf attrs sn)) ↔ marked
  publish : ∀ c, relay = some c → ∀ sn raw, c.publishLine py (queryFrameOf attrs sn) = .ok raw →
    (kind raw ↔ marked)
  subscribe : ∀ c, relay = some c → ∀ raw, c.subscribeLine = .ok raw → ¬ kind raw

section Lines

variable (py : Interpreter)

theorem queryFrame_text (wanted : List Int) (sn : Str) : ∃ front,
    frameText py ⟨PROTOCOL_VERSION, CMD_QUERY, sn, [(str "attr", .arr (wanted.map .int))]⟩ =
      front ++ (dumpsItems py (wanted.map .int) ++ str "]\x7d\x7d") := by
  refine ⟨str "\x7b\"pv\":0,\"cmd\":2,\"sn\":" ++ (dumpsStr sn ++ str ",\"msg\":\x7b\"attr\":["),
    ?_⟩
  simp only [frameText, Frame.toDict, dumps, dumpsFields, List.append_assoc, List.cons_append,
    List.nil_append]
  rfl

/-- A query for all datapoints ends as no query for the metering group does. -/
theorem queryFrame_ends (sn : Str) :
    (∃ front, frameText py (queryFrameOf none sn) = front ++ str "0]\x7d\x7d") ∧
      ∃ front, frameText py (queryFrameOf (some METERING_DPIDS) sn) = front ++ str "9]\x7d\x7d" := by
  obtain ⟨front, hall⟩ := queryFrame_text py [ATTR_ALL] sn
  obtain ⟨front', hgroup⟩ := queryFrame_text py METERING_DPIDS sn
  refine ⟨⟨front, hall⟩, front' ++ str "26,27,28,2", ?_⟩
  rw [List.append_assoc]
  exact hgroup

/-- Lines that end alike and end in different texts before that are different. -/
theorem append_ne {front front' last last' rest : Bytes} (hlast : last ≠ last')
    (hlength : last.length = last'.length) : front ++ last ++ rest ≠ front' ++ last' ++ rest := by
  intro h
  exact hlast (List.append_inj_right' (List.append_cancel_right h) hlength)

/-- The frame of a query ends in its last digit. -/
theorem encode_ends (sn : Str) :
    (∃ front, encode py (queryFrameOf none sn) = front ++ ascii "0]\x7d\x7d" ++ TERMINATOR) ∧
      ∃ front, encode py (queryFrameOf (some METERING_DPIDS) sn) =
        front ++ ascii "9]\x7d\x7d" ++ TERMINATOR := by
  obtain ⟨⟨front, hall⟩, front', hgroup⟩ := queryFrame_ends py sn
  refine ⟨⟨front.flatMap utf8Char, ?_⟩, front'.flatMap utf8Char, ?_⟩
  · rw [encode, hall, List.flatMap_append]
    rfl
  · rw [encode, hgroup, List.flatMap_append]
    rfl

/-- A line to the relay around such a frame, as the text of the line up to the identity. -/
theorem publishText_ends (c : CloudRelayTransport) (sn : Str) :
    (∃ front, c.publishText py (queryFrameOf none sn) = front ++ str "0%5D%7D%7D" ++
        (str "&device_id=" ++ c.deviceId ++ str "&device_key=" ++ c.deviceKey)) ∧
      ∃ front, c.publishText py (queryFrameOf (some METERING_DPIDS) sn) =
        front ++ str "9%5D%7D%7D" ++
          (str "&device_id=" ++ c.deviceId ++ str "&device_key=" ++ c.deviceKey) := by
  obtain ⟨⟨front, hall⟩, front', hgroup⟩ := queryFrame_ends py sn
  refine ⟨⟨str "cmd=publish&topic=control_" ++ c.deviceId ++ str "&message=" ++
      quote (front.flatMap utf8Char), ?_⟩, str "cmd=publish&topic=control_" ++ c.deviceId ++
      str "&message=" ++ quote (front'.flatMap utf8Char), ?_⟩
  · simp only [CloudRelayTransport.publishText, encode_text, hall, quote, List.flatMap_append,
      List.append_assoc]
    rfl
  · simp only [CloudRelayTransport.publishText, encode_text, hgroup, quote, List.flatMap_append,
      List.append_assoc]
    rfl

/-- Neither a frame that asks for all datapoints nor the relay's line around it asks for the metering
group. -/
theorem wildcard_marks (py : Interpreter) (relay : Option CloudRelayTransport) :
    Marks py relay (IsMeteringQuery py relay) none False := by
  have hdigit : ascii "0]\x7d\x7d" ≠ ascii "9]\x7d\x7d" := by decide
  have hquoted : (str "9%5D%7D%7D").flatMap utf8Char ≠ (str "0%5D%7D%7D").flatMap utf8Char := by
    decide
  refine ⟨fun sn => iff_of_false ?_ id, fun c hc sn raw hpub => iff_of_false ?_ id, ?_⟩
  · intro hmetering
    obtain ⟨⟨front, hall⟩, _⟩ := encode_ends py sn
    rcases hmetering with ⟨sn', hframe | ⟨c, _, hpub⟩⟩
    · obtain ⟨_, front', hgroup⟩ := encode_ends py sn'
      rw [hall, hgroup] at hframe
      exact append_ne hdigit rfl hframe
    · exact CloudRelayTransport.encode_ne_line py _ (c.publishLine_starts py hpub) rfl
  · intro hmetering
    have hstarts := c.publishLine_starts py hpub
    rcases hmetering with ⟨sn', hframe | ⟨c', hc', hpub'⟩⟩
    · exact CloudRelayTransport.encode_ne_line py _ hstarts hframe
    · obtain rfl := Option.some.inj (hc.symm.trans hc')
      rw [c.publishLine_cases] at hpub hpub'
      cases henc : c.encodable with
      | false => simp [henc] at hpub
      | true =>
        obtain ⟨⟨front, hall⟩, _⟩ := publishText_ends py c sn
        obtain ⟨_, front', hgroup⟩ := publishText_ends py c sn'
        simp only [henc, ↓reduceIte, Except.ok.injEq] at hpub hpub'
        rw [← hpub, hall, hgroup] at hpub'
        have htext := List.append_cancel_right hpub'
        simp only [List.flatMap_append] at htext
        exact append_ne hquoted (by decide) htext
  · intro c hc raw hsub hmetering
    have hstarts := c.subscribeLine_starts hsub
    rcases hmetering with ⟨sn', hframe | ⟨c', _, hpub⟩⟩
    · exact CloudRelayTransport.encode_ne_line py _ hstarts hframe
    · have hpublish := c'.publishLine_starts py hpub
      rw [hstarts] at hpublish
      exact absurd hpublish (by decide)

theorem metering_marks (py : Interpreter) (relay : Option CloudRelayTransport) :
    Marks py relay (IsMeteringQuery py relay) (some METERING_DPIDS) True := by
  refine ⟨?_, ?_, (wildcard_marks py relay).subscribe⟩
  · intro sn
    exact iff_of_true ⟨sn, .inl rfl⟩ trivial
  · intro c hc sn raw hpub
    exact iff_of_true ⟨sn, .inr ⟨c, hc, hpub⟩⟩ trivial

end Lines

/-! ### What a query meets -/

namespace LocalTransport

variable (py : Interpreter)

/-- A connection takes the frame, and the answer that comes over it has a data map. -/
def Served (t : LocalTransport) (env : ExchangeEnv) (frame : Frame) (n : Nat) : Prop :=
  ∃ conn c reply, t.takes py env n = some (conn, c) ∧
    FirstAnswer py frame (heard conn (c.started + t.timeout) c.turns) reply ∧
    (dataMap reply).isSome = true

/-- Nothing foreign is raised, and there is no data map. -/
def Fails (t : LocalTransport) (env : ExchangeEnv) (frame : Frame) (n : Nat) : Prop :=
  t.SafeQuery py env frame n ∧ ¬ t.Served py env frame n

/-- Exactly when a query returns, and when it fails with a transport error. -/
theorem query_served (env : LocalEnv) (attrs : Option (List Int)) (t : LocalTransport) (w : World) :
    (∃ data, answer (query py env attrs) (t, w) = .ok data) ↔
      t.Served py env.exchange (nextQuery attrs env.time w) w.sockets := by
  rw [query_answer, Served, nextQuery]
  constructor
  · intro hok
    obtain ⟨data, hok⟩ := hok
    cases hanswer : (outcome py t env.exchange
      (queryFrameOf attrs (intText (nextSn w.lastSn env.time))) w.sockets).answer with
    | error e => simp [hanswer, Except.bind] at hok
    | ok reply =>
      obtain ⟨conn, c, htake, hfirst⟩ := (outcome_answered py t _ _ _ reply).mp hanswer
      refine ⟨conn, c, reply, htake, hfirst, ?_⟩
      simp only [hanswer, Except.bind, readData] at hok
      split at hok
      · simp_all
      · cases hok
  · intro hserved
    obtain ⟨conn, c, reply, htake, hfirst, hdata⟩ := hserved
    obtain ⟨data, hdata⟩ := Option.isSome_iff_exists.mp hdata
    rw [(outcome_answered py t _ _ _ reply).mpr ⟨conn, c, htake, hfirst⟩]
    exact ⟨data, by simp only [Except.bind, readData, hdata]⟩

theorem query_fails (env : LocalEnv) (attrs : Option (List Int)) (t : LocalTransport) (w : World) :
    (∃ e, answer (query py env attrs) (t, w) = .error (.transport e)) ↔
      t.Fails py env.exchange (nextQuery attrs env.time w) w.sockets := by
  rw [Fails, ← query_contained, ← query_served]
  cases answer (query py env attrs) (t, w) with
  | ok data => simp
  | error e => cases e <;> simp [contained_error, Exn.isTransport]

end LocalTransport

namespace RediscoveringLocalTransport

variable (py : Interpreter) (factory : Factory) (env : RediscoverEnv LocalEnv)
  (attrs : Option (List Int)) (s : RediscoveringLocalTransport LocalTransport × World)

/-- The connection of the first call takes the frame. -/
def FirstTakes : Prop := (s.1.transport.takes py env.first.exchange s.2.sockets).isSome = true

def FirstFails : Prop :=
  s.1.transport.Fails py env.first.exchange (nextQuery attrs env.first.time s.2) s.2.sockets

/-- The search finds the device at another address. -/
def TurnsUp : Prop := s.1.searchDue env.search.now = true ∧
  ∃ found, env.search.found = .ok (some found) ∧ found ≠ [] ∧ found ≠ s.1.host

/-- The state after the first call. -/
def firstAsked : RediscoveringLocalTransport LocalTransport × World :=
  after (zoom (inner LocalTransport) (LocalTransport.query py env.first attrs)) s

/-- The state in which the call is made again. -/
def retryFrom : RediscoveringLocalTransport LocalTransport × World :=
  announced (after (relocate (LocalTransport.asTransport py) factory.build env.search)
    (firstAsked py env attrs s))

/-- The call is made again, and a connection there takes the frame. -/
def RetryTakes : Prop := FirstFails py env attrs s ∧ TurnsUp env s ∧
  ((retryFrom py factory env attrs s).1.transport.takes py env.retry.exchange
    (retryFrom py factory env attrs s).2.sockets).isSome = true

/-- A query fails with a transport error: the first call does, the search stays quiet, and so does
the call that is made again, if one is. -/
def QueryFails : Prop := FirstFails py env attrs s ∧ s.1.SearchesQuietly env.search ∧
  (TurnsUp env s → (retryFrom py factory env attrs s).1.transport.Fails py env.retry.exchange
    (nextQuery attrs env.retry.time (retryFrom py factory env attrs s).2)
    (retryFrom py factory env attrs s).2.sockets)

/-- A query raises nothing foreign. -/
def QuerySafe : Prop :=
  s.1.transport.SafeQuery py env.first.exchange (nextQuery attrs env.first.time s.2) s.2.sockets ∧
    (FirstFails py env attrs s → s.1.SearchesQuietly env.search ∧
      (TurnsUp env s → (retryFrom py factory env attrs s).1.transport.SafeQuery py env.retry.exchange
        (nextQuery attrs env.retry.time (retryFrom py factory env attrs s).2)
        (retryFrom py factory env attrs s).2.sockets))

theorem firstAsked_host : (firstAsked py env attrs s).1.host = s.1.host ∧
    (firstAsked py env attrs s).1.searchDue env.search.now = s.1.searchDue env.search.now := by
  rw [firstAsked, after_zoom]
  exact ⟨rfl, rfl⟩

/-- The ways a search after a failed call ends. -/
theorem relocate_ends (t : RediscoveringLocalTransport LocalTransport × World) (sought : SearchEnv) :
    answer (relocate (LocalTransport.asTransport py) factory.build sought) t = .ok true ↔
      t.1.searchDue sought.now = true ∧
        ∃ found, sought.found = .ok (some found) ∧ found ≠ [] ∧ found ≠ t.1.host := by
  simp only [answer, relocate_run]
  cases t.1.searchDue sought.now with
  | false => simp
  | true =>
    rcases sought.found with (_ | _ | _ | _ | _ | _) | _ | found
    case ok.some =>
      by_cases hf : found = [] ∨ found = t.1.host
      · simp only [hf, ↓reduceIte]
        refine iff_of_false (by simp) ?_
        rintro ⟨_, found', hfound, hne, hhost⟩
        cases hfound
        exact hf.elim hne hhost
      · simp only [hf, ↓reduceIte]
        exact iff_of_true trivial ⟨trivial, found, rfl, not_or.mp hf⟩
    all_goals simp

/-- The search after the first call finds the device elsewhere exactly when it turns up. -/
theorem search_finds : answer (relocate (LocalTransport.asTransport py) factory.build env.search)
    (firstAsked py env attrs s) = .ok true ↔ TurnsUp env s := by
  rw [relocate_ends, TurnsUp, (firstAsked_host py env attrs s).1,
    (firstAsked_host py env attrs s).2]

theorem search_quiet : s.1.SearchesQuietly env.search ↔ ∀ e,
    answer (relocate (LocalTransport.asTransport py) factory.build env.search)
      (firstAsked py env attrs s) = .error e → e.isTransport = true := by
  rw [← relocate_quiet, SearchesQuietly, SearchesQuietly, (firstAsked_host py env attrs s).2]

/-- The ways a query goes: what it comes to, and the state it leaves. -/
inductive Asks : Except Exn (Dict Json) →
    RediscoveringLocalTransport LocalTransport × World → Prop
  | once (h : ¬ FirstFails py env attrs s) (r)
      (hr : answer (LocalTransport.query py env.first attrs) (s.1.transport, s.2) = r) :
      Asks r (firstAsked py env attrs s)
  | stayed (h : FirstFails py env attrs s) (hup : ¬ TurnsUp env s)
      (hq : s.1.SearchesQuietly env.search) (e) : Asks (.error (.transport e))
      (after (relocate (LocalTransport.asTransport py) factory.build env.search)
        (firstAsked py env attrs s))
  | strayed (h : FirstFails py env attrs s) (hup : ¬ TurnsUp env s)
      (hq : ¬ s.1.SearchesQuietly env.search) (e) (he : e.isTransport = false) : Asks (.error e)
      (after (relocate (LocalTransport.asTransport py) factory.build env.search)
        (firstAsked py env attrs s))
  | again (h : FirstFails py env attrs s) (hup : TurnsUp env s)
      (hq : s.1.SearchesQuietly env.search) (t) (ht : retryFrom py factory env attrs s = t) :
      Asks (answer (LocalTransport.query py env.retry attrs) (t.1.transport, t.2))
        (after (zoom (inner LocalTransport) (LocalTransport.query py env.retry attrs)) t)

theorem query_asks : Asks py factory env attrs s
    (answer (query (LocalTransport.asTransport py) factory.build env attrs) s)
    (after (query (LocalTransport.asTransport py) factory.build env attrs) s) := by
  have hfails := LocalTransport.query_fails py env.first attrs s.1.transport s.2
  have hfirst := run_eq (zoom (inner LocalTransport) (LocalTransport.query py env.first attrs)) s
  rw [answer_zoom, show after _ s = firstAsked py env attrs s from rfl,
    show (inner LocalTransport).get s = (s.1.transport, s.2) from rfl] at hfirst
  have hfinds := search_finds py factory env attrs s
  have hquiet := search_quiet py factory env attrs s
  have hno : ∀ r, answer (LocalTransport.query py env.first attrs) (s.1.transport, s.2) = r →
      (∀ e, r ≠ .error (.transport e)) → ¬ FirstFails py env attrs s := by
    intro r hr hne h
    obtain ⟨e, he⟩ := hfails.mpr h
    exact hne e (hr.symm.trans he)
  rw [answer, after, query_run, hfirst]
  rcases ha : answer (LocalTransport.query py env.first attrs) (s.1.transport, s.2) with e | data
  · cases e with
    | transport e =>
      have hyes : FirstFails py env attrs s := hfails.mp ⟨e, ha⟩
      rcases run_cases (relocate (LocalTransport.asTransport py) factory.build env.search)
        (firstAsked py env attrs s) with ⟨found, t, hrun, hr, ht⟩ | ⟨e', t, hrun, hr, ht⟩
      · rw [hr] at hfinds hquiet
        simp only [hrun]
        cases found with
        | true =>
          have hretry : retryFrom py factory env attrs s = announced t := by rw [retryFrom, ht]
          rw [← answer, ← after, answer_zoom]
          exact .again hyes (hfinds.mp rfl) (hquiet.mpr (by simp)) (announced t) hretry
        | false =>
          rw [← ht]
          exact .stayed hyes (by simp [← hfinds]) (hquiet.mpr (by simp)) e
      · rw [hr] at hfinds hquiet
        simp only [hrun]
        rw [← ht]
        have hup : ¬ TurnsUp env s := by simp [← hfinds]
        cases e' with
        | transport e' => exact .stayed hyes hup (hquiet.mpr (by simp [Exn.isTransport])) e'
        | _ => exact .strayed hyes hup (by simp [hquiet, Exn.isTransport]) _ rfl
    | _ => exact .once (hno _ ha (by simp)) _ ha
  · exact .once (hno _ ha (by simp)) _ ha

section Tally

variable {py attrs} {kind : Bytes → Prop} {marked : Prop} {relay : Option CloudRelayTransport}

/-- One call of the inner transport hands its frame over at most once. -/
theorem inner_tally (hm : Marks py relay kind attrs marked) (call : LocalEnv)
    (t : RediscoveringLocalTransport LocalTransport × World) :
    ∃ evs, (after (zoom (inner LocalTransport) (LocalTransport.query py call attrs)) t).2.trace =
        t.2.trace ++ evs ∧
      Tally kind evs True
        (marked ∧ (t.1.transport.takes py call.exchange t.2.sockets).isSome = true) := by
  refine ⟨_, ?_, LocalTransport.outcome_hands py t.1.transport call.exchange
    (nextQuery attrs call.time t.2) t.2.sockets (hm.frame _)⟩
  rw [after_zoom]
  exact congrArg (fun t => t.2.trace) (LocalTransport.query_after py call attrs t.1.transport t.2)

/-- What a local query hands over: its frame goes out twice exactly when the first connection took it
and the one at the new address takes it again. -/
theorem query_tally (hm : Marks py relay kind attrs marked) :
    ∃ evs, (after (query (LocalTransport.asTransport py) factory.build env attrs) s).2.trace =
        s.2.trace ++ evs ∧
      Tally kind evs (¬ (marked ∧ FirstTakes py env s ∧ RetryTakes py factory env attrs s))
        (marked ∧ (FirstTakes py env s ∨ RetryTakes py factory env attrs s)) := by
  obtain ⟨first, hasked, hfirst⟩ := inner_tally hm env.first s
  obtain ⟨quiet, hq, htrace⟩ := relocate_trace py factory env.search (firstAsked py env attrs s)
  rw [firstAsked, hasked, List.append_assoc] at htrace
  have hquiet : Tally kind quiet True False := by
    apply Tally.quiet
    intro e he hk
    obtain ⟨n, rfl⟩ := hq e he
    exact hk
  have hasks := query_asks py factory env attrs s
  generalize after (query (LocalTransport.asTransport py) factory.build env attrs) s = left at hasks ⊢
  generalize answer (query (LocalTransport.asTransport py) factory.build env attrs) s = r at hasks
  cases hasks with
  | once h r hanswer =>
    refine ⟨first, hasked, hfirst.congr ?_ ?_⟩
    · simp [RetryTakes, h]
    · simp [RetryTakes, h, FirstTakes]
  | stayed h hup hq e | strayed h hup hq e =>
    refine ⟨first ++ quiet, htrace, (hfirst.append hquiet).congr ?_ ?_⟩
    · simp [RetryTakes, hup]
    · simp [RetryTakes, hup, FirstTakes]
  | again h hup hq t ht =>
    obtain ⟨retry, hagain, hretry⟩ := inner_tally hm env.retry t
    have hfrom : t.2.trace = s.2.trace ++ (first ++ quiet) := by
      rw [← ht]
      exact htrace
    rw [hfrom, List.append_assoc] at hagain
    have htakes : RetryTakes py factory env attrs s ↔
        (t.1.transport.takes py env.retry.exchange t.2.sockets).isSome = true := by
      simp only [RetryTakes, h, hup, true_and, ht]
    refine ⟨_, hagain, ((hfirst.append hquiet).append hretry).congr ?_ ?_⟩
    · rw [htakes, FirstTakes]
      grind
    · rw [htakes, FirstTakes]
      grind

end Tally

/-- Exactly when a local query fails with a transport error, and when nothing foreign leaves it. -/
theorem query_fails : (∃ e, answer (query (LocalTransport.asTransport py) factory.build env attrs) s =
      .error (.transport e)) ↔ QueryFails py factory env attrs s := by
  have hfails := LocalTransport.query_fails py env.first attrs s.1.transport s.2
  have hasks := query_asks py factory env attrs s
  generalize answer (query (LocalTransport.asTransport py) factory.build env attrs) s = r at hasks ⊢
  generalize after (query (LocalTransport.asTransport py) factory.build env attrs) s = left at hasks
  cases hasks with
  | once h r hanswer =>
    refine iff_of_false ?_ (fun hf => h hf.1)
    rw [← hanswer, hfails]
    exact h
  | stayed h hup hq e => exact iff_of_true ⟨e, rfl⟩ ⟨h, hq, fun h => absurd h hup⟩
  | strayed h hup hq e he =>
    refine iff_of_false ?_ (fun hf => hq hf.2.1)
    rintro ⟨e', heq⟩
    cases heq
    cases he
  | again h hup hq t ht =>
    subst ht
    rw [LocalTransport.query_fails]
    exact ⟨fun hf => ⟨h, hq, fun _ => hf⟩, fun hf => hf.2.2 hup⟩

theorem query_safe : Contained (answer (query (LocalTransport.asTransport py) factory.build env attrs)
    s) ↔ QuerySafe py factory env attrs s := by
  have hsafe := LocalTransport.query_contained py env.first attrs s.1.transport s.2
  have hasks := query_asks py factory env attrs s
  generalize answer (query (LocalTransport.asTransport py) factory.build env attrs) s = r at hasks ⊢
  generalize after (query (LocalTransport.asTransport py) factory.build env attrs) s = left at hasks
  cases hasks with
  | once h r hanswer =>
    rw [← hanswer, hsafe]
    exact ⟨fun hs => ⟨hs, fun hf => absurd hf h⟩, fun hs => hs.1⟩
  | stayed h hup hq e =>
    exact iff_of_true ((contained_error _).mpr rfl) ⟨h.1, fun _ => ⟨hq, fun hf => absurd hf hup⟩⟩
  | strayed h hup hq e he =>
    refine iff_of_false ?_ (fun hs => hq (hs.2 h).1)
    rw [contained_error, he]
    exact Bool.false_ne_true
  | again h hup hq t ht =>
    subst ht
    rw [LocalTransport.query_contained]
    exact ⟨fun hs => ⟨h.1, fun _ => ⟨hq, fun _ => hs⟩⟩, fun hs => (hs.2 h).2 hup⟩

end RediscoveringLocalTransport

/-- Going over to the cloud raises something foreign exactly when the call there does. -/
theorem FallbackClient.viaCloud_contained {L C α : Type} (cloudName : Str) (callCloud : Method C α)
    (localError : Option TransportError) (s : FallbackClient L C × World) (c : C)
    (h : s.1.cloud = some c) :
    Contained (answer (FallbackClient.viaCloud cloudName callCloud localError) s) ↔
      Contained (answer callCloud (c, s.2)) := by
  rw [answer, FallbackClient.viaCloud_run cloudName callCloud localError s c h, run_onCloud,
    answer]
  rcases callCloud.run (c, s.2) with ⟨a, t⟩ | ⟨e, t⟩
  · exact iff_of_true (contained_ok _) (contained_ok _)
  · cases e with
    | transport e =>
      have hfailure : (cloudFailure localError e).isTransport = true := by
        cases localError <;> rfl
      exact iff_of_true ((contained_error _).mpr hfailure) ((contained_error _).mpr rfl)
    | _ => exact (contained_error _).trans (contained_error _).symm

namespace Client

variable (py : Interpreter) (factory : Factory) (env : ClientEnv) (attrs : Option (List Int))
  (s : Client × World)

def TriesLocal : Prop :=
  (s.1.toBreaker.shouldTryLocal s.1.cloud.isSome env.readings.check env.readings.probe).1 = true

/-- A local connection takes the frame of a query, the first call's or that of the call made again. -/
def LocalTakes : Prop := TriesLocal env s ∧
  (RediscoveringLocalTransport.FirstTakes py env.local' (s.1.local', s.2) ∨
    RediscoveringLocalTransport.RetryTakes py factory env.local' attrs (s.1.local', s.2))

/-- Local is not tried, or fails with a transport error. -/
def TurnsToRelay : Prop := TriesLocal env s →
  RediscoveringLocalTransport.QueryFails py factory env.local' attrs (s.1.local', s.2)

/-- The relay is turned to, and takes the line with the frame. -/
def RelayTakes : Prop := TurnsToRelay py factory env attrs s ∧
  ∃ c, s.1.cloud = some c ∧ c.Takes py env.cloud

/-- The frame of a query goes out. -/
def GoesOut : Prop := LocalTakes py factory env attrs s ∨ RelayTakes py factory env attrs s

/-- The frame of a query goes out twice: local takes it for both calls, or for one of them before the
relay does. -/
def GoesOutTwice : Prop :=
  TriesLocal env s ∧ RediscoveringLocalTransport.FirstTakes py env.local' (s.1.local', s.2) ∧
      RediscoveringLocalTransport.RetryTakes py factory env.local' attrs (s.1.local', s.2) ∨
    LocalTakes py factory env attrs s ∧ RelayTakes py factory env attrs s

/-- The world in which the relay is asked, up to its log. -/
def relayWorld : World :=
  FallbackClient.worldAfterLocal env.readings ((localPath py factory).query env.local' attrs) s

/-- A query raises nothing foreign. -/
def QuerySafe : Prop :=
  (TriesLocal env s →
    RediscoveringLocalTransport.QuerySafe py factory env.local' attrs (s.1.local', s.2)) ∧
  (TurnsToRelay py factory env attrs s → ∀ c, s.1.cloud = some c →
    c.SafeQuery py env.cloud (nextQuery attrs env.cloud.time (relayWorld py factory env attrs s))
      (relayWorld py factory env attrs s).sockets)

theorem localFails_iff : FallbackClient.LocalFails ((localPath py factory).query env.local' attrs) s ↔
    RediscoveringLocalTransport.QueryFails py factory env.local' attrs (s.1.local', s.2) :=
  RediscoveringLocalTransport.query_fails py factory env.local' attrs (s.1.local', s.2)

theorem query_goes : FallbackClient.Attempted (CloudRelayTransport.asTransport py).name env.readings
    ((localPath py factory).query env.local' attrs)
    ((CloudRelayTransport.asTransport py).query env.cloud attrs) s
    (answer (query py factory env attrs) s) (after (query py factory env attrs) s) :=
  FallbackClient.attempt_goes _ _ _ _ s (localPath py factory).name

theorem relay_query (env : RelayEnv) (c : CloudRelayTransport) (w : World) :
    answer ((CloudRelayTransport.asTransport py).query env attrs) (c, w) =
        answer (c.query py env attrs) w ∧
      after ((CloudRelayTransport.asTransport py).query env attrs) (c, w) =
        (c, after (c.query py env attrs) w) :=
  ⟨answer_zoom _ (World.lens _) _, after_zoom _ (World.lens _) _⟩

section Tally

variable {py attrs} {kind : Bytes → Prop} {marked : Prop}

/-- Going over to the relay hands the frame over at most once. -/
theorem relay_tally {relay : Option CloudRelayTransport} (hm : Marks py relay kind attrs marked)
    {c : CloudRelayTransport} (hrelay : relay = some c) (localError : Option TransportError)
    (t : Client × World) (h : t.1.cloud = some c) :
    ∃ evs, (after (FallbackClient.viaCloud (CloudRelayTransport.asTransport py).name
        ((CloudRelayTransport.asTransport py).query env.cloud attrs) localError) t).2.trace =
        t.2.trace ++ evs ∧
      Tally kind evs True (marked ∧ c.Takes py env.cloud) := by
  refine ⟨_, ?_, c.outcome_hands py env.cloud (nextQuery attrs env.cloud.time t.2) t.2.sockets
    (hm.subscribe c hrelay) (hm.publish c hrelay _)⟩
  rw [(FallbackClient.viaCloud_after _ _ _ _ c h).2, (relay_query py attrs env.cloud c t.2).2,
    c.query_after]
  rfl

/-- What happens before the relay is turned to. -/
theorem local_tally (hm : Marks py s.1.cloud kind attrs marked) :
    ∃ evs, (relayWorld py factory env attrs s).trace = s.2.trace ++ evs ∧
      Tally kind evs (¬ (marked ∧ TriesLocal env s ∧
        RediscoveringLocalTransport.FirstTakes py env.local' (s.1.local', s.2) ∧
        RediscoveringLocalTransport.RetryTakes py factory env.local' attrs (s.1.local', s.2)))
        (marked ∧ LocalTakes py factory env attrs s) := by
  by_cases htries : TriesLocal env s
  · obtain ⟨evs, htrace, htally⟩ := RediscoveringLocalTransport.query_tally factory env.local'
      (s.1.local', s.2) hm
    have hworld : relayWorld py factory env attrs s =
        (after ((localPath py factory).query env.local' attrs) (s.1.local', s.2)).2 :=
      if_pos htries
    refine ⟨evs, by rw [hworld]; exact htrace, htally.congr ?_ ?_⟩
    · simp [htries]
    · simp [LocalTakes, htries]
  · have hworld : relayWorld py factory env attrs s = s.2 := if_neg htries
    refine ⟨[], by rw [hworld, List.append_nil], (Tally.quiet (by simp)).congr ?_ ?_⟩
    · simp [htries]
    · simp [LocalTakes, htries]

/-- What one query of the client hands over. -/
theorem query_tally (hm : Marks py s.1.cloud kind attrs marked) :
    ∃ evs, (after (query py factory env attrs) s).2.trace = s.2.trace ++ evs ∧
      Tally kind evs (¬ (marked ∧ GoesOutTwice py factory env attrs s))
        (marked ∧ GoesOut py factory env attrs s) := by
  obtain ⟨evs, htrace, htally⟩ := local_tally factory env s hm
  have hfails := localFails_iff py factory env attrs s
  have hgoes := query_goes py factory env attrs s
  generalize after (query py factory env attrs) s = left at hgoes ⊢
  generalize answer (query py factory env attrs) s = r at hgoes
  cases hgoes with
  | here h hends a ha t hc ht =>
    obtain ⟨log, ht⟩ := ht
    have hno : ¬ RelayTakes py factory env attrs s := by
      intro hrelay
      obtain ⟨hturns, c, hcloud, _⟩ := hrelay
      rw [hends (hfails.mpr (hturns h))] at hcloud
      cases hcloud
    refine ⟨evs, by rw [ht]; exact htrace, htally.congr ?_ ?_⟩
    · simp [GoesOutTwice, hno]
    · simp [GoesOut, hno]
  | relayed h c hc t htc ht localError =>
    obtain ⟨log, ht⟩ := ht
    obtain ⟨relayed, hrelayed, htally'⟩ := relay_tally env hm hc localError t htc
    have hfrom : t.2.trace = s.2.trace ++ evs := by
      rw [ht]
      exact htrace
    have hrelay : RelayTakes py factory env attrs s ↔ c.Takes py env.cloud := by
      simp only [RelayTakes, hc, Option.some.injEq, exists_eq_left']
      exact and_iff_right (fun htries => hfails.mp (h htries))
    rw [hfrom, List.append_assoc] at hrelayed
    refine ⟨_, hrelayed, (htally.append htally').congr ?_ ?_⟩
    · rw [GoesOutTwice, hrelay]
      grind
    · rw [GoesOut, hrelay]
      grind

end Tally

/-- Nothing foreign leaves a query exactly when nothing foreign leaves the calls it makes. -/
theorem query_safe : Contained (answer (query py factory env attrs) s) ↔
    QuerySafe py factory env attrs s := by
  have hfails := localFails_iff py factory env attrs s
  have hsafe : Contained (answer ((localPath py factory).query env.local' attrs) (s.1.local', s.2)) ↔
      RediscoveringLocalTransport.QuerySafe py factory env.local' attrs (s.1.local', s.2) :=
    RediscoveringLocalTransport.query_safe py factory env.local' attrs (s.1.local', s.2)
  have hgoes := query_goes py factory env attrs s
  generalize answer (query py factory env attrs) s = r at hgoes ⊢
  generalize after (query py factory env attrs) s = left at hgoes
  cases hgoes with
  | here h hends a ha t hc ht =>
    rw [← ha, hsafe]
    constructor
    · intro hs
      refine ⟨fun _ => hs, ?_⟩
      intro hturns c hcloud
      rw [hends (hfails.mpr (hturns h))] at hcloud
      cases hcloud
    · intro hs
      exact hs.1 h
  | relayed h c hc t htc ht localError =>
    obtain ⟨log, ht⟩ := ht
    have hturns : TurnsToRelay py factory env attrs s := fun htries => hfails.mp (h htries)
    have hlocal : TriesLocal env s → RediscoveringLocalTransport.QuerySafe py factory env.local' attrs
        (s.1.local', s.2) := by
      intro htries
      obtain ⟨e, he⟩ := h htries
      rw [← hsafe, he]
      exact (contained_error _).mpr rfl
    rw [FallbackClient.viaCloud_contained _ _ _ _ c htc, (relay_query py attrs env.cloud c t.2).1,
      c.query_contained, ht]
    constructor
    · intro hs
      refine ⟨hlocal, ?_⟩
      intro _ c' hc'
      obtain rfl := Option.some.inj (hc.symm.trans hc')
      exact hs
    · intro hs
      exact hs.2 hturns c hc

/-- A query leaves the relay it can turn to as it is. -/
theorem query_cloud : (after (query py factory env attrs) s).1.cloud = s.1.cloud := by
  have hgoes := query_goes py factory env attrs s
  generalize after (query py factory env attrs) s = left at hgoes ⊢
  generalize answer (query py factory env attrs) s = r at hgoes
  cases hgoes with
  | here h hends a ha t hc ht => exact hc
  | relayed h c hc t htc ht localError =>
    rw [(FallbackClient.viaCloud_after _ _ _ _ c htc).1, (relay_query py attrs env.cloud c t.2).2, hc]

end Client

namespace CozyLifeCoordinator

section Runs

variable {K ω : Type} (query : ω → Option (List Int) → Method K (Dict Json))

/-- The polls of a run, each with the state it starts from. -/
def starts : List (PollEnv ω) → CozyLifeCoordinator K × World →
    List (PollEnv ω × (CozyLifeCoordinator K × World))
  | [], _ => []
  | env :: envs, s => (env, s) :: starts envs (after (poll query env) s)

/-- The state a run of polls leaves. -/
def left : List (PollEnv ω) → CozyLifeCoordinator K × World → CozyLifeCoordinator K × World
  | [], s => s
  | env :: envs, s => left envs (after (poll query env) s)

end Runs

variable (py : Interpreter) (factory : Factory) (env : PollEnv ClientEnv)
  (s : CozyLifeCoordinator Client × World)

/-- The client in which a poll asks for the metering group, if it does. -/
def afterWildcard : Client × World :=
  after (Client.query py factory env.wildcard none) (s.1.client, s.2)

/-- A poll probes for metering: that is still open, and its wildcard query is answered. -/
def Probes : Prop := s.1.metering = none ∧
  ∃ data, answer (Client.query py factory env.wildcard none) (s.1.client, s.2) = .ok data

/-- The device does not answer the probe of a poll, if it makes one, with readings. -/
def Meterless : Prop := Probes py factory env s → ∀ readings,
  answer (Client.query py factory env.metering (some METERING_DPIDS))
    (afterWildcard py factory env s) = .ok readings → readings = []

/-- The probe of a poll goes out. -/
def Sends : Prop := Probes py factory env s ∧
  Client.GoesOut py factory env.metering (some METERING_DPIDS) (afterWildcard py factory env s)

/-- The probe of a poll goes out over two connections. -/
def SendsTwice : Prop := Probes py factory env s ∧
  Client.GoesOutTwice py factory env.metering (some METERING_DPIDS) (afterWildcard py factory env s)

/-- The probe of a poll goes out, and what it ends in is no transport error: that is not caught, and
leaves open whether there is metering. -/
def Reopens : Prop := Sends py factory env s ∧
  ¬ Client.QuerySafe py factory env.metering (some METERING_DPIDS) (afterWildcard py factory env s)

/-- No probe goes out over two connections, and none goes out after one that left the question open. -/
structure NeverRepeats (polls : List (PollEnv ClientEnv × (CozyLifeCoordinator Client × World))) :
    Prop where
  once : ∀ st ∈ polls, ¬ SendsTwice py factory st.1 st.2
  settled : polls.Pairwise (fun st later =>
    Reopens py factory st.1 st.2 → ¬ Sends py factory later.1 later.2)

section Steps

/-- The wildcard query does not ask for the metering group. -/
theorem wildcard_silent : ∃ evs, (afterWildcard py factory env s).2.trace = s.2.trace ++ evs ∧
    ∀ e ∈ evs, ¬ e.Hands (IsMeteringQuery py s.1.client.cloud) := by
  obtain ⟨evs, htrace, htally⟩ := Client.query_tally factory env.wildcard
    (s.1.client, s.2) (wildcard_marks py s.1.client.cloud)
  refine ⟨evs, htrace, ?_⟩
  intro e he hk
  exact (htally.any.mp ⟨e, he, hk⟩).1

theorem afterWildcard_cloud : (afterWildcard py factory env s).1.cloud = s.1.client.cloud :=
  Client.query_cloud py factory env.wildcard none (s.1.client, s.2)

/-- The metering query of a poll goes out as it does for the client. -/
theorem probe_tally : ∃ evs, (after (Client.query py factory env.metering (some METERING_DPIDS))
      (afterWildcard py factory env s)).2.trace = (afterWildcard py factory env s).2.trace ++ evs ∧
    Tally (IsMeteringQuery py s.1.client.cloud) evs
      (¬ Client.GoesOutTwice py factory env.metering (some METERING_DPIDS)
        (afterWildcard py factory env s))
      (Client.GoesOut py factory env.metering (some METERING_DPIDS)
        (afterWildcard py factory env s)) := by
  have hmarks := metering_marks py (afterWildcard py factory env s).1.cloud
  obtain ⟨evs, htrace, htally⟩ := Client.query_tally factory env.metering _ hmarks
  rw [afterWildcard_cloud] at htally
  exact ⟨evs, htrace, htally.congr (by rw [true_and]) (by rw [true_and])⟩

/-- What a poll hands over of the metering query, as long as no metering has been found. -/
theorem poll_tally (hknown : s.1.metering = none ∨ s.1.metering = some []) :
    (after (poll (Client.query py factory) env) s).1.client.cloud = s.1.client.cloud ∧
      ∃ evs, (after (poll (Client.query py factory) env) s).2.trace = s.2.trace ++ evs ∧
        Tally (IsMeteringQuery py s.1.client.cloud) evs (¬ SendsTwice py factory env s)
          (Sends py factory env s) := by
  have hcloud := afterWildcard_cloud py factory env s
  obtain ⟨wild, hwild, hsilent⟩ := wildcard_silent py factory env s
  have hunasked : ¬ Probes py factory env s → Tally (IsMeteringQuery py s.1.client.cloud) wild
      (¬ SendsTwice py factory env s) (Sends py factory env s) := by
    intro h
    exact (Tally.quiet hsilent).congr (by simp [SendsTwice, h]) (by simp [Sends, h])
  rw [after, poll_run]
  rcases run_cases (Client.query py factory env.wildcard none) (s.1.client, s.2) with
    ⟨data, t, hrun, hw, ht⟩ | ⟨e, t, hrun, hw, ht⟩
  · have hfrom : afterWildcard py factory env s = t := ht
    rcases hknown with hopen | hsettled
    · obtain ⟨evs, hprobe, htally⟩ := probe_tally py factory env s
      have hprobed := Client.query_cloud py factory env.metering (some METERING_DPIDS)
        (afterWildcard py factory env s)
      have hprobes : Probes py factory env s := ⟨hopen, data, hw⟩
      rw [hwild, List.append_assoc, hfrom] at hprobe
      rw [hcloud, hfrom] at hprobed
      have hall : Tally (IsMeteringQuery py s.1.client.cloud) (wild ++ evs)
          (¬ SendsTwice py factory env s) (Sends py factory env s) := by
        refine ((Tally.quiet hsilent).append htally).congr ?_ ?_
        · simp [SendsTwice, hprobes]
        · simp [Sends, hprobes]
      simp only [hrun, hopen]
      rcases run_cases (Client.query py factory env.metering (some METERING_DPIDS)) t with
        ⟨readings, t', hrun', _, ht'⟩ | ⟨e, t', hrun', _, ht'⟩
      · rw [ht'] at hprobe hprobed
        simp only [hrun']
        exact ⟨hprobed, wild ++ evs, hprobe, hall⟩
      · rw [ht'] at hprobe hprobed
        simp only [hrun']
        cases e <;> exact ⟨hprobed, wild ++ evs, hprobe, hall⟩
    · rw [hfrom] at hcloud hwild
      simp only [hrun, hsettled]
      exact ⟨hcloud, wild, hwild, hunasked (fun h => by simp [hsettled, Probes] at h)⟩
  · have hfrom : afterWildcard py factory env s = t := ht
    rw [hfrom] at hcloud hwild
    simp only [hrun]
    refine ⟨hcloud, wild, hwild, hunasked ?_⟩
    intro h
    obtain ⟨_, data, hdata⟩ := h
    rw [hw] at hdata
    cases hdata

/-- What a poll of a device without metering notes: a probe settles the matter, unless it goes out and
something foreign is raised. -/
theorem poll_notes (hmeterless : Meterless py factory env s) :
    (s.1.metering = some [] →
      (after (poll (Client.query py factory) env) s).1.metering = some []) ∧
    (s.1.metering = none →
      (after (poll (Client.query py factory) env) s).1.metering = some [] ∨
        (after (poll (Client.query py factory) env) s).1.metering = none ∧
          (Sends py factory env s → Reopens py factory env s)) := by
  have hsafe := Client.query_safe py factory env.metering (some METERING_DPIDS)
    (afterWildcard py factory env s)
  rw [after, poll_run]
  rcases run_cases (Client.query py factory env.wildcard none) (s.1.client, s.2) with
    ⟨data, t, hrun, hw, ht⟩ | ⟨e, t, hrun, hw, ht⟩
  · refine ⟨fun h => by simp only [hrun, h], ?_⟩
    intro hopen
    have hfrom : afterWildcard py factory env s = t := ht
    have hempty := hmeterless ⟨hopen, data, hw⟩
    rw [hfrom] at hsafe hempty
    simp only [hrun, hopen]
    rcases run_cases (Client.query py factory env.metering (some METERING_DPIDS)) t with
      ⟨readings, t', hrun', hm, _⟩ | ⟨e, t', hrun', hm, _⟩
    · simp only [hrun', hempty readings hm, verdict, ↓reduceIte, true_or]
    · rw [hm, contained_error] at hsafe
      simp only [hrun']
      cases e with
      | transport e => exact .inl rfl
      | _ =>
        refine .inr ⟨rfl, fun hsends => ⟨hsends, ?_⟩⟩
        rw [hfrom, ← hsafe]
        exact Bool.false_ne_true
  · simp only [hrun]
    refine ⟨id, fun hopen => .inr ⟨hopen, ?_⟩⟩
    intro h
    obtain ⟨⟨_, data, hdata⟩, _⟩ := h
    rw [hw] at hdata
    cases hdata

end Steps

/-! ### A run of polls -/

section Run

variable {py factory}

/-- Once it is settled that there is no metering, no poll of the run probes. -/
theorem settled_run {envs : List (PollEnv ClientEnv)} {s : CozyLifeCoordinator Client × World}
    (h : s.1.metering = some [])
    (hmeterless : ∀ st ∈ starts (Client.query py factory) envs s, Meterless py factory st.1 st.2) :
    ∀ st ∈ starts (Client.query py factory) envs s, ¬ Probes py factory st.1 st.2 := by
  induction envs generalizing s with
  | nil => simp [starts]
  | cons env envs ih =>
    obtain ⟨hnow, hlater⟩ := List.forall_mem_cons.mp hmeterless
    refine List.forall_mem_cons.mpr ⟨?_, ih ((poll_notes py factory env s hnow).1 h) hlater⟩
    intro hprobes
    rw [hprobes.1] at h
    cases h

/-- A probe that goes out is followed by another only if it left the question open. -/
theorem run_reopens (envs : List (PollEnv ClientEnv)) (s : CozyLifeCoordinator Client × World)
    (hknown : s.1.metering = none ∨ s.1.metering = some [])
    (hmeterless : ∀ st ∈ starts (Client.query py factory) envs s, Meterless py factory st.1 st.2) :
    (starts (Client.query py factory) envs s).Pairwise (fun st later =>
      Sends py factory st.1 st.2 → Sends py factory later.1 later.2 →
        Reopens py factory st.1 st.2) := by
  induction envs generalizing s with
  | nil => exact .nil
  | cons env envs ih =>
    obtain ⟨hnow, hlater⟩ := List.forall_mem_cons.mp hmeterless
    obtain ⟨hkeeps, hnotes⟩ := poll_notes py factory env s hnow
    have hleaves : (after (poll (Client.query py factory) env) s).1.metering = some [] →
        ∀ later ∈ starts (Client.query py factory) envs (after (poll (Client.query py factory) env) s),
          ¬ Sends py factory later.1 later.2 := by
      intro h later hl hsends
      exact settled_run h hlater later hl hsends.1
    rcases hknown with hopen | hsettled
    · rcases hnotes hopen with h | ⟨h, hreopens⟩
      · refine .cons ?_ (ih _ (.inr h) hlater)
        intro later hl _ hsends
        exact absurd hsends (hleaves h later hl)
      · refine .cons ?_ (ih _ (.inl h) hlater)
        intro later _ hsends _
        exact hreopens hsends
    · refine .cons ?_ (ih _ (.inr (hkeeps hsettled)) hlater)
      intro later hl _ hsends
      exact absurd hsends (hleaves (hkeeps hsettled) later hl)

/-- What a run of polls hands over of the metering query. -/
theorem run_tally (envs : List (PollEnv ClientEnv)) (s : CozyLifeCoordinator Client × World)
    (hknown : s.1.metering = none ∨ s.1.metering = some [])
    (hmeterless : ∀ st ∈ starts (Client.query py factory) envs s, Meterless py factory st.1 st.2) :
    ∃ evs, (left (Client.query py factory) envs s).2.trace = s.2.trace ++ evs ∧
      Tally (IsMeteringQuery py s.1.client.cloud) evs
        ((∀ st ∈ starts (Client.query py factory) envs s, ¬ SendsTwice py factory st.1 st.2) ∧
          (starts (Client.query py factory) envs s).Pairwise (fun st later =>
            ¬ (Sends py factory st.1 st.2 ∧ Sends py factory later.1 later.2)))
        (∃ st ∈ starts (Client.query py factory) envs s, Sends py factory st.1 st.2) := by
  induction envs generalizing s with
  | nil =>
    refine ⟨[], (List.append_nil _).symm, (Tally.quiet (by simp)).congr ?_ ?_⟩
    · simp [starts]
    · simp [starts]
  | cons env envs ih =>
    obtain ⟨hnow, hlater⟩ := List.forall_mem_cons.mp hmeterless
    obtain ⟨hcloud, evs, htrace, htally⟩ :=
      poll_tally py factory env s hknown
    have hnoted : (after (poll (Client.query py factory) env) s).1.metering = none ∨
        (after (poll (Client.query py factory) env) s).1.metering = some [] := by
      rcases hknown with h | h
      · exact ((poll_notes py factory env s hnow).2 h).elim .inr (fun h => .inl h.1)
      · exact .inr ((poll_notes py factory env s hnow).1 h)
    obtain ⟨later, hleft, htally'⟩ := ih _ hnoted hlater
    rw [htrace, List.append_assoc] at hleft
    rw [hcloud] at htally'
    refine ⟨evs ++ later, hleft, (htally.append htally').congr ?_ ?_⟩
    · have hpairs : ¬ (Sends py factory env s ∧ ∃ st ∈ starts (Client.query py factory) envs
          (after (poll (Client.query py factory) env) s), Sends py factory st.1 st.2) ↔
          ∀ st ∈ starts (Client.query py factory) envs
            (after (poll (Client.query py factory) env) s),
            ¬ (Sends py factory env s ∧ Sends py factory st.1 st.2) := by
        constructor
        · intro h st hst hboth
          exact h ⟨hboth.1, st, hst, hboth.2⟩
        · intro h hboth
          obtain ⟨hsends, st, hst, hlater⟩ := hboth
          exact h st hst ⟨hsends, hlater⟩
      simp only [starts, List.forall_mem_cons, List.pairwise_cons]
      rw [hpairs]
      grind
    · simp only [starts, List.exists_mem_cons_iff]

/-- Over the whole life of a coordinator, a device without metering is asked for the group at most
once exactly if no probe repeats. -/
theorem asked_once_iff (client : Client) (w : World) (envs : List (PollEnv ClientEnv))
    (hmeterless : ∀ st ∈ starts (Client.query py factory) envs (.new client, w),
      Meterless py factory st.1 st.2) :
    ∃ evs, (left (Client.query py factory) envs (.new client, w)).2.trace = w.trace ++ evs ∧
      (AskedOnce py client.cloud evs ↔
        NeverRepeats py factory (starts (Client.query py factory) envs (.new client, w))) := by
  obtain ⟨evs, htrace, htally⟩ := run_tally envs (.new client, w) (.inl rfl) hmeterless
  have hreopens := run_reopens envs (.new client, w) (.inl rfl) hmeterless
  refine ⟨evs, htrace, htally.once.trans ?_⟩
  constructor
  · intro h
    obtain ⟨honce, hpairs⟩ := h
    refine ⟨honce, hpairs.imp ?_⟩
    intro st later hnot hopened hsends
    exact hnot ⟨hopened.1, hsends⟩
  · intro h
    refine ⟨h.once, (hreopens.and h.settled).imp ?_⟩
    intro st later hboth hsends
    exact hboth.2 (hboth.1 hsends.1 hsends.2) hsends.2

end Run

/-- What the listener says at once on a new connection, and then on the one it holds. -/
def listenerSays (fresh held : List Turn) : ClientEnv :=
  { Client.silentListener with
    local' := { Client.silentListener.local' with
      first := ⟨0, ⟨.wouldBlock, true⟩, ⟨.accepted, 0, held⟩, .opened, ⟨.accepted, 0, fresh⟩⟩ } }

def saysLine (line : Bytes) : List Turn := [⟨0, .received (line ++ TERMINATOR)⟩]

/-- The listener answers the wildcard query, and then says nothing more; the relay says nothing
either. -/
def silentOnProbe : PollEnv ClientEnv where
  wildcard := listenerSays
    (saysLine (ascii "\x7b\"sn\":\"1\",\"msg\":\x7b\"data\":\x7b\"1\":0\x7d\x7d\x7d")) []
  metering := listenerSays [] []

/-- The listener answers the probe with an empty map. -/
def emptyOnProbe : PollEnv ClientEnv :=
  { silentOnProbe with
    metering := listenerSays []
      (saysLine (ascii "\x7b\"sn\":\"2\",\"msg\":\x7b\"data\":\x7b\x7d\x7d\x7d")) }

/-- A listener that knows no metering is asked once. -/
theorem empty_probe_asked_once :
    ∃ evs, (left (Client.query .plain (.standard 5)) [emptyOnProbe]
        (.new Client.bothPaths, World.initial)).2.trace = World.initial.trace ++ evs ∧
      AskedOnce .plain Client.bothPaths.cloud evs := by
  let t := afterWildcard .plain (.standard 5) emptyOnProbe (.new Client.bothPaths, World.initial)
  have hmeterless : ∀ st ∈ starts (Client.query .plain (.standard 5)) [emptyOnProbe]
      (.new Client.bothPaths, World.initial), Meterless .plain (.standard 5) st.1 st.2 := by
    intro st hst _ readings hreadings
    rw [List.mem_singleton.mp hst] at hreadings
    have hempty : (answer (Client.query .plain (.standard 5) emptyOnProbe.metering
        (some METERING_DPIDS)) t).map List.isEmpty = .ok true := by decide +kernel
    rw [hreadings] at hempty
    exact List.isEmpty_iff.mp (Except.ok.inj hempty)
  obtain ⟨evs, htrace, honce⟩ :=
    asked_once_iff Client.bothPaths World.initial [emptyOnProbe] hmeterless
  refine ⟨evs, htrace, honce.mpr ⟨?_, List.pairwise_singleton _ _⟩⟩
  intro st hst htwice
  rw [List.mem_singleton.mp hst] at htwice
  -- the first call is answered, so neither a second one nor the relay follows
  have hserved : ¬ RediscoveringLocalTransport.FirstFails .plain emptyOnProbe.metering.local'
      (some METERING_DPIDS) (t.1.local', t.2) := by
    intro hfails
    obtain ⟨e, he⟩ := (LocalTransport.query_fails .plain emptyOnProbe.metering.local'.first
      (some METERING_DPIDS) t.1.local'.transport t.2).mpr hfails
    have hok : (answer (LocalTransport.query .plain emptyOnProbe.metering.local'.first
        (some METERING_DPIDS)) (t.1.local'.transport, t.2)).isOk = true := by decide +kernel
    rw [he] at hok
    cases hok
  rcases htwice.2 with ⟨_, _, hretry⟩ | ⟨⟨htries, _⟩, hturns, _⟩
  · exact hserved hretry.1
  · exact hserved (hturns htries).1

/-- A device that says nothing to the probe is asked a second time over the relay. -/
theorem silent_probe_repeats :
    (∀ st ∈ starts (Client.query .plain (.standard 5)) [silentOnProbe]
      (.new Client.bothPaths, World.initial), Meterless .plain (.standard 5) st.1 st.2) ∧
    ¬ ∃ evs, (left (Client.query .plain (.standard 5)) [silentOnProbe]
        (.new Client.bothPaths, World.initial)).2.trace = World.initial.trace ++ evs ∧
      AskedOnce .plain Client.bothPaths.cloud evs := by
  refine ⟨?_, ?_⟩
  · intro st hst _ readings hreadings
    rw [List.mem_singleton.mp hst] at hreadings
    have hraised : (answer (Client.query .plain (.standard 5) silentOnProbe.metering
        (some METERING_DPIDS)) (afterWildcard .plain (.standard 5) silentOnProbe
          (.new Client.bothPaths, World.initial))).isOk = false := by decide +kernel
    rw [hreadings] at hraised
    cases hraised
  · intro hasked
    obtain ⟨evs, htrace, honce⟩ := hasked
    let frame (sn : Str) : Frame := queryFrameOf (some METERING_DPIDS) sn
    let relay : CloudRelayTransport := ⟨str "dev", str "key", str "relay", 8898, 10⟩
    let packet := encode .plain (frame (str "2"))
    let pub := (relay.publishText .plain (frame (str "5000"))).flatMap utf8Char ++ TERMINATOR
    have hsub : [Event.sent 0 none packet packet, .sent 1 (some 10) pub pub].Sublist evs := by
      have hevs : _ = evs := htrace
      rw [← hevs]
      decide +kernel
    have hpair := honce.sublist hsub
    simp only [List.pairwise_cons, List.mem_singleton, forall_eq] at hpair
    refine hpair.1 ⟨⟨rfl, str "2", .inl rfl⟩, ⟨rfl, str "5000", .inr ⟨relay, rfl, ?_⟩⟩⟩
    decide +kernel

end CozyLifeCoordinator

end CozyLife
