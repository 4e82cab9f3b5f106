import CozyLife.Proofs.Paths
import Mathlib.Data.List.Forall2

/-! What one request does: which transports it calls, what it returns and what it announces. -/

namespace CozyLife
open Python Effects

/-- The lines that name the path of the requests. -/
def LogLine.isPath : LogLine → Bool
  | .servedOver _ => true
  | .switched _ _ => true
  | _ => false

namespace FallbackClient

variable {L C T α ωL ωC : Type}

/-- What a request returns. -/
inductive Reply
  | data (d : Dict Json)
  | accepted (b : Bool)

/-- A call on the transport of that name: the world it finds, what it returns or raises and the world
it leaves. -/
structure Call where
  path : Str
  found : World
  result : Except Exn Reply
  left : World

def Call.raises (call : Call) : Prop := ∃ e, call.result = .error e

/-! ### Keeping a record of the calls -/

/-- A transport with the calls made on it so far. -/
abbrev Watched (T : Type) := T × List Call

def Watched.inner : Lens (Watched T × World) (T × World) where
  get s := (s.1.1, s.2)
  set t s := ((t.1, s.1.2), t.2)
  get_set _ _ := rfl
  set_get _ := rfl

/-- A method that notes each of its calls. -/
def watched (path : Str) (reply : α → Reply) (m : Method T α) : Method (Watched T) α := do
  let found := (← get).2
  let r ← caught (zoom Watched.inner m)
  let left := (← get).2
  modifySelf (fun t => (t.1, t.2 ++ [⟨path, found, r.map reply, left⟩]))
  rethrow r

/-- The same transport, with a record. -/
def watching {ω : Type} (t : Transport ω T) : Transport ω (Watched T) where
  name := t.name
  query env attrs := watched t.name .data (t.query env attrs)
  control env payload := watched t.name .accepted (t.control env payload)
  close := t.close.map (zoom Watched.inner)

/-- The client with nothing on its records. -/
def watch (s : FallbackClient L C × World) : FallbackClient (Watched L) (Watched C) × World :=
  ({ s.1.toBreaker with
      local' := (s.1.local', []), cloud := s.1.cloud.map (fun c => (c, [])),
      activePath := s.1.activePath }, s.2)

/-- The client without its records. -/
def unwatch (s : FallbackClient (Watched L) (Watched C) × World) : FallbackClient L C × World :=
  ({ s.1.toBreaker with
      local' := s.1.local'.1, cloud := s.1.cloud.map (·.1), activePath := s.1.activePath }, s.2)

theorem unwatch_watch (s : FallbackClient L C × World) : unwatch (watch s) = s := by
  obtain ⟨⟨b, l, c, active⟩, w⟩ := s
  cases c <;> rfl

section Watched

variable (path : Str) (reply : α → Reply) (m : Method T α)

/-- The call as it is noted. -/
def callOn (s : T × World) : Call := ⟨path, s.2, (answer m s).map reply, (after m s).2⟩

/-- What a noted call leaves. -/
def kept (s : Watched T × World) : Watched T × World :=
  let inside := (s.1.1, s.2)
  (((after m inside).1, s.1.2 ++ [callOn path reply m inside]), (after m inside).2)

@[simp] theorem watched_run (s : Watched T × World) : (watched path reply m).run s =
    match answer m (s.1.1, s.2) with
    | .ok a => .ok a (kept path reply m s)
    | .error e => .error e (kept path reply m s) := by
  rcases run_cases m (s.1.1, s.2) with ⟨a, t, hrun, ha, ht⟩ | ⟨e, t, hrun, ha, ht⟩
  · simp [-bind_pure_comp, watched, Watched.inner, kept, callOn, hrun, ha, ht]
  · simp [watched, Watched.inner, kept, callOn, hrun, ha, ht]

theorem watched_answer (s : Watched T × World) :
    answer (watched path reply m) s = answer m (s.1.1, s.2) := by
  rw [answer, watched_run]
  cases answer m (s.1.1, s.2) <;> rfl

theorem watched_after (s : Watched T × World) :
    after (watched path reply m) s = kept path reply m s := by
  rw [after, watched_run]
  cases answer m (s.1.1, s.2) <;> rfl

end Watched

/-! ### The record changes nothing -/

section Unwatch

variable (localName cloudName : Str) (r : Readings) (reply : α → Reply) (callLocal : Method L α)
  (callCloud : Method C α)

/-- The end of a run without the records. -/
def unwatched : EStateM.Result Exn (FallbackClient (Watched L) (Watched C) × World) α →
    EStateM.Result Exn (FallbackClient L C × World) α
  | .ok a s => .ok a (unwatch s)
  | .error e s => .error e (unwatch s)

theorem locally_unwatch (s : FallbackClient (Watched L) (Watched C) × World) :
    unwatch (locally (watched localName reply callLocal) s) = locally callLocal (unwatch s) := by
  simp only [locally, watched_after]
  rfl

theorem viaCloud_unwatch (localError : Option TransportError)
    (s : FallbackClient (Watched L) (Watched C) × World) :
    (viaCloud cloudName callCloud localError).run (unwatch s) =
      unwatched ((viaCloud cloudName (watched cloudName reply callCloud) localError).run s) := by
  cases hc : s.1.cloud with
  | none =>
    have hcloud : (unwatch s).1.cloud = none := by simp [unwatch, hc]
    simp [viaCloud, hc, hcloud, unwatched]
  | some c =>
    have hcloud : (unwatch s).1.cloud = some c.1 := by simp [unwatch, hc]
    rw [viaCloud_run cloudName _ localError s c hc, viaCloud_run cloudName _ localError _ _ hcloud]
    have hworld : (unwatch s).2 = s.2 := rfl
    simp only [run_onCloud, watched_run, run_eq callCloud, hworld]
    cases answer callCloud (c.1, s.2) with
    | ok a => rfl
    | error e => cases e <;> rfl

theorem unwatch_isSome (s : FallbackClient (Watched L) (Watched C) × World) :
    (unwatch s).1.cloud.isSome = s.1.cloud.isSome := Option.isSome_map

theorem failed_unwatch (s : FallbackClient (Watched L) (Watched C) × World) :
    failed r (unwatch s) = unwatch (failed r s) := by
  rw [failed, unwatch_isSome]
  rfl

theorem decided_unwatch (s : FallbackClient (Watched L) (Watched C) × World) :
    decided r (unwatch s) = unwatch (decided r s) := by
  rw [decided, unwatch_isSome]
  rfl

/-- A request on watched transports is the request itself. -/
theorem attempt_unwatch (s : FallbackClient (Watched L) (Watched C) × World) :
    (attempt localName cloudName r callLocal callCloud).run (unwatch s) =
      unwatched ((attempt localName cloudName r (watched localName reply callLocal)
        (watched cloudName reply callCloud)).run s) := by
  have htry : (unwatch s).1.toBreaker.shouldTryLocal (unwatch s).1.cloud.isSome r.check r.probe =
      s.1.toBreaker.shouldTryLocal s.1.cloud.isSome r.check r.probe := by
    rw [unwatch_isSome]
    rfl
  have hlocal : answer (watched localName reply callLocal) (s.1.local', s.2) =
      answer callLocal ((unwatch s).1.local', (unwatch s).2) := watched_answer _ _ _ _
  rw [attempt_run, attempt_run, hlocal, htry, decided_unwatch, ← locally_unwatch localName reply]
  cases (s.1.toBreaker.shouldTryLocal s.1.cloud.isSome r.check r.probe).1 with
  | false => exact viaCloud_unwatch cloudName reply callCloud none (decided r s)
  | true =>
    cases answer callLocal ((unwatch s).1.local', (unwatch s).2) with
    | ok a => rfl
    | error e =>
      cases e with
      | transport e =>
        simp only [↓reduceIte, failed_unwatch]
        cases hc : s.1.cloud with
        | none =>
          have hcloud : (unwatch s).1.cloud = none := by simp [unwatch, hc]
          rw [hcloud]
          rfl
        | some c =>
          have hcloud : (unwatch s).1.cloud = some c.1 := by simp [unwatch, hc]
          rw [hcloud]
          exact viaCloud_unwatch cloudName reply callCloud (some e) _
      | _ => rfl

end Unwatch

/-! ### What a request comes to -/

/-- The calls on the cloud transport, if there is one. -/
def recorded (cloud : Option (Watched C)) : List Call := cloud.elim [] (·.2)

/-- From the world `w` on, a client makes these calls and logs these lines, in this order, and does
nothing else. -/
inductive Spans (w : World) : List Call → List LogLine → World → Prop
  | start : Spans w [] [] w
  | call (h : Spans w calls own w') (call : Call) (hfound : call.found = w') :
      Spans w (calls ++ [call]) own call.left
  | log (h : Spans w calls own w') (lines : List LogLine) :
      Spans w calls (own ++ lines) { w' with log := w'.log ++ lines }

/-- The announcement of a path, after a request that left the path `before` and one that leaves
`now`. -/
def announced : Option Str → Option Str → List LogLine
  | _, none => []
  | none, some now => [.servedOver now]
  | some before, some now => if now = before then [] else [.switched before now]

/-- What a call returned or raised is passed on, a transport error possibly under another text. -/
structure Conveys (call : Call) (result : Except Exn Reply) : Prop where
  returns : ∀ reply, result = .ok reply ↔ call.result = .ok reply
  raises : (∃ e, result = .error (.transport e)) ↔ call.raises

/-- What a request on watched transports comes to that finds `s` and leaves `t`: its calls, what it
returns or raises and the lines the client logs. -/
structure Accounted (localName cloudName : Str) (s : FallbackClient L C × World)
    (t : FallbackClient (Watched L) (Watched C) × World) (result : Except Exn Reply)
    (own : List LogLine) : Prop where
  named : (∀ call ∈ t.1.local'.2, call.path = localName) ∧
    ∀ call ∈ recorded t.1.cloud, call.path = cloudName
  once : t.1.local'.2.length ≤ 1 ∧ (recorded t.1.cloud).length ≤ 1
  spans : Spans s.2 (t.1.local'.2 ++ recorded t.1.cloud) own t.2
  overCloud : recorded t.1.cloud ≠ [] ↔ s.1.cloud.isSome = true ∧
    (t.1.local'.2 = [] ∨ ∃ call ∈ t.1.local'.2, call.raises)
  last : ∃ call, (t.1.local'.2 ++ recorded t.1.cloud).getLast? = some call ∧
    Conveys call result ∧ t.1.activePath = if result.isOk then some call.path else none
  announces : own.filter LogLine.isPath = announced s.1.activePath t.1.activePath

/-- What there is of a request that turns to the cloud. -/
structure Turned (localName : Str) (s : FallbackClient L C × World)
    (t : FallbackClient (Watched L) (Watched C) × World) (own : List LogLine) : Prop where
  named : ∀ call ∈ t.1.local'.2, call.path = localName
  once : t.1.local'.2.length ≤ 1
  spans : Spans s.2 t.1.local'.2 own t.2
  failed : t.1.local'.2 = [] ∨ ∃ call ∈ t.1.local'.2, call.raises
  active : t.1.activePath = s.1.activePath
  quiet : own.filter LogLine.isPath = []

theorem noteLines_announced (before : Option Str) (path : Str) :
    noteLines before path = announced before (some path) := by
  cases before with
  | none => rfl
  | some before =>
    simp only [noteLines, announced]
    split <;> simp_all

theorem announced_path (before now : Option Str) :
    (announced before now).filter LogLine.isPath = announced before now := by
  cases before <;> cases now
  case some.some =>
    simp only [announced]
    split <;> rfl
  all_goals rfl

/-- The breaker names no path in what it logs. -/
theorem failed_quiet (r : Readings) (s : FallbackClient L C × World) :
    ∃ lines : List LogLine, lines.filter LogLine.isPath = [] ∧
      (failed r s).2 = { s.2 with log := s.2.log ++ lines } := by
  rcases h : s.1.toBreaker.recordLocalFailure s.1.cloud.isSome r.trip with ⟨announce, b⟩
  refine ⟨_, ?_, by simp only [failed, h]; rfl⟩
  cases announce <;> rfl

theorem succeeded_quiet (s : FallbackClient L C × World) :
    ∃ lines : List LogLine, lines.filter LogLine.isPath = [] ∧
      (succeeded s).2 = { s.2 with log := s.2.log ++ lines } := by
  rcases h : s.1.toBreaker.recordLocalSuccess with ⟨announce, b⟩
  refine ⟨_, ?_, by simp only [succeeded, h]; rfl⟩
  cases announce <;> rfl

theorem conveys_relayed {call : Call} {x : Except Exn α} {reply : α → Reply}
    (localError : Option TransportError) (h : Contained x) (hcall : call.result = x.map reply) :
    Conveys call ((relayed localError x).map reply) := by
  rcases x with e | a
  · have he := h e rfl
    cases e with
    | transport e =>
      constructor
      · simp [hcall, Except.map, relayed]
      · cases localError <;> simp [Call.raises, hcall, Except.map, relayed, cloudFailure]
    | _ => cases he
  · constructor <;> simp [Call.raises, hcall, Except.map, relayed]

section Account

variable {localName cloudName : Str} {reply : α → Reply} {callLocal : Method L α}
  {callCloud : Method C α} {s : FallbackClient L C × World}
  {t : FallbackClient (Watched L) (Watched C) × World} {own : List LogLine}

theorem viaCloud_leaves {c : Watched C} (hc : t.1.cloud = some c)
    (hcontained : Contained (answer callCloud (c.1, t.2))) (localError : Option TransportError) :
    after (viaCloud cloudName (watched cloudName reply callCloud) localError) t =
      let k := kept cloudName reply callCloud (c, t.2)
      let u := ({ t.1 with cloud := some k.1 }, k.2)
      if (answer callCloud (c.1, t.2)).isOk then noted cloudName u else lost u := by
  have hrun := viaCloud_run cloudName (watched cloudName reply callCloud) localError t c hc
  simp only [run_onCloud, watched_run] at hrun
  rcases ha : answer callCloud (c.1, t.2) with e | a
  · have he := hcontained e ha
    rw [ha] at hrun
    cases e with
    | transport e => rw [after, hrun]; rfl
    | _ => cases he
  · rw [ha] at hrun
    rw [after, hrun]
    rfl

/-- The cloud call is the last of a request that makes it, and what it returns or raises is what the
request does. -/
theorem Turned.viaCloud (h : Turned localName s t own) {c : C} (hc : t.1.cloud = some (c, []))
    (hcloud : s.1.cloud = some c) (hcontained : Contained (answer callCloud (c, t.2)))
    (localError : Option TransportError) :
    let request := viaCloud cloudName (watched cloudName reply callCloud) localError
    Accounted localName cloudName s (after request t) ((answer request t).map reply)
      (own ++ announced s.1.activePath (after request t).1.activePath) := by
  intro request
  let call := callOn cloudName reply callCloud (c, t.2)
  have hanswer : answer request t = relayed localError (answer callCloud (c, t.2)) := by
    rw [viaCloud_answer _ _ _ _ _ hc, watched_answer]
  have hleaves : after request t = _ := viaCloud_leaves hc hcontained localError
  have hlocal : (after request t).1.local' = t.1.local' := by
    rw [hleaves]
    cases (answer callCloud (c, t.2)).isOk <;> rfl
  have hcalls : recorded (after request t).1.cloud = [call] := by
    rw [hleaves]
    cases (answer callCloud (c, t.2)).isOk <;> rfl
  have hactive : (after request t).1.activePath =
      if ((answer request t).map reply).isOk then some cloudName else none := by
    rw [hleaves, hanswer]
    rcases answer callCloud (c, t.2) with e | a
    · cases e <;> rfl
    · rfl
  have hworld : (after request t).2 = { call.left with
      log := call.left.log ++ announced s.1.activePath (after request t).1.activePath } := by
    rw [hleaves, ← h.active]
    cases (answer callCloud (c, t.2)).isOk with
    | true => simp only [↓reduceIte, noted, noteLines_announced]; rfl
    | false => simp [lost, announced, kept, call, callOn]
  have hspans := (h.spans.call call rfl).log
    (announced s.1.activePath (after request t).1.activePath)
  rw [← hworld] at hspans
  constructor
  · simpa [hlocal, hcalls, call, callOn] using h.named
  · simpa [hlocal, hcalls] using h.once
  · rwa [hlocal, hcalls]
  · simpa [hlocal, hcalls, hcloud] using h.failed
  · refine ⟨call, by simp [hcalls], ?_, hactive⟩
    rw [hanswer]
    exact conveys_relayed localError hcontained rfl
  · rw [List.filter_append, h.quiet, announced_path, List.nil_append]

theorem recorded_watch (s : FallbackClient L C × World) : recorded (watch s).1.cloud = [] := by
  simp only [watch]
  cases s.1.cloud <;> rfl

/-- A request that ends with its local call. -/
theorem here_accounted {call : Call} {result : Except Exn Reply} (hcalls : t.1.local'.2 = [call])
    (hno : recorded t.1.cloud = []) (hname : call.path = localName)
    (hends : call.raises → s.1.cloud = none) (hspans : Spans s.2 [call] own t.2)
    (hconveys : Conveys call result)
    (hactive : t.1.activePath = if result.isOk then some localName else none)
    (hannounces : own.filter LogLine.isPath = announced s.1.activePath t.1.activePath) :
    Accounted localName cloudName s t result own := by
  constructor
  · simp [hcalls, hno, hname]
  · simp [hcalls, hno]
  · rwa [hcalls, hno]
  · simp only [hno, hcalls, ne_eq, not_true_eq_false, List.cons_ne_nil, List.mem_singleton,
      exists_eq_left, false_or, false_iff, not_and]
    intro hsome hraises
    simp [hends hraises] at hsome
  · exact ⟨call, by simp [hcalls, hno], hconveys, by rw [hname]; exact hactive⟩
  · exact hannounces

section Tried

variable (localName reply callLocal) (r : Readings) (s : FallbackClient L C × World)

/-- A watched client whose local call is over. -/
def tried : FallbackClient (Watched L) (Watched C) × World :=
  locally (watched localName reply callLocal) (decided r (watch s))

theorem tried_spans :
    let call := callOn localName reply callLocal (s.1.local', s.2)
    (tried localName reply callLocal r s).1.local'.2 = [call] ∧
      Spans s.2 [call] [] (tried localName reply callLocal r s).2 := by
  intro call
  have hleft : tried localName reply callLocal r s = ({ (decided r (watch s)).1 with
      local' := ((after callLocal (s.1.local', s.2)).1, [call]) }, call.left) := by
    simp only [tried, locally, watched_after]
    rfl
  rw [hleft]
  exact ⟨rfl, Spans.start.call call rfl⟩

/-- A failure is recorded before the cloud is called, if it is. -/
theorem failed_spans :
    let call := callOn localName reply callLocal (s.1.local', s.2)
    let t := failed r (tried localName reply callLocal r s)
    t.1.local'.2 = [call] ∧
      ∃ own : List LogLine, own.filter LogLine.isPath = [] ∧ Spans s.2 [call] own t.2 := by
  intro call t
  obtain ⟨hcalls, hspans⟩ := tried_spans localName reply callLocal r s
  obtain ⟨lines, hquiet, hfailed⟩ := failed_quiet r (tried localName reply callLocal r s)
  have hlogged := hspans.log lines
  rw [← hfailed] at hlogged
  exact ⟨hcalls, [] ++ lines, hquiet, hlogged⟩

theorem failed_turned (ha : answer callLocal (s.1.local', s.2) = .error (.transport e)) :
    ∃ own, Turned localName s (failed r (tried localName reply callLocal r s)) own := by
  obtain ⟨hcalls, own, hquiet, hspans⟩ := failed_spans localName reply callLocal r s
  refine ⟨own, ?_, ?_, ?_, ?_, rfl, hquiet⟩
  · simp [hcalls, callOn]
  · simp [hcalls]
  · rwa [hcalls]
  · simp [hcalls, Call.raises, callOn, ha, Except.map]

variable (cloudName)

theorem alone_accounted (ha : answer callLocal (s.1.local', s.2) = .error (.transport e))
    (hc : s.1.cloud = none) : ∃ own, Accounted localName cloudName s
      (lost (failed r (tried localName reply callLocal r s))) (.error (.transport e)) own := by
  obtain ⟨hcalls, own, hquiet, hspans⟩ := failed_spans localName reply callLocal r s
  refine ⟨own, here_accounted hcalls (recorded_watch s) rfl (fun _ => hc) hspans ?_ rfl ?_⟩
  · constructor <;> simp [Call.raises, callOn, ha, Except.map]
  · rw [hquiet]
    cases s.1.activePath <;> rfl

theorem served_accounted (ha : answer callLocal (s.1.local', s.2) = .ok a) :
    ∃ own, Accounted localName cloudName s
      (noted localName (succeeded (tried localName reply callLocal r s))) (.ok (reply a)) own := by
  obtain ⟨hcalls, hspans⟩ := tried_spans localName reply callLocal r s
  obtain ⟨lines, hquiet, hsucceeded⟩ := succeeded_quiet (tried localName reply callLocal r s)
  have hlogged := (hspans.log lines).log (noteLines s.1.activePath localName)
  rw [← hsucceeded] at hlogged
  refine ⟨_, here_accounted hcalls (recorded_watch s) rfl ?_ hlogged ?_ rfl ?_⟩
  · simp [Call.raises, callOn, ha, Except.map]
  · constructor <;> simp [Call.raises, callOn, ha, Except.map]
  · rw [List.filter_append, List.nil_append, hquiet, List.nil_append, noteLines_announced,
      announced_path]
    rfl

end Tried

theorem skipped_turned (r : Readings) (s : FallbackClient L C × World) :
    Turned localName s (decided r (watch s)) [] where
  named := by simp [decided, watch]
  once := by simp [decided, watch]
  spans := .start
  failed := .inl rfl
  active := rfl
  quiet := rfl

variable (localName cloudName reply) in
theorem attempt_accounted (r : Readings) (s : FallbackClient L C × World)
    (hl : ∀ t, Contained (answer callLocal t)) (hc : ∀ t, Contained (answer callCloud t)) :
    let request := attempt localName cloudName r (watched localName reply callLocal)
      (watched cloudName reply callCloud)
    ∃ own, Accounted localName cloudName s (after request (watch s))
      ((answer request (watch s)).map reply) own := by
  intro request
  have hrun : request.run (watch s) = _ := attempt_run ..
  have hlocal : answer (watched localName reply callLocal) ((watch s).1.local', (watch s).2) =
      answer callLocal (s.1.local', s.2) := watched_answer ..
  rw [hlocal] at hrun
  by_cases htry : ((watch s).1.toBreaker.shouldTryLocal (watch s).1.cloud.isSome r.check
      r.probe).1 = true
  · rw [if_pos htry] at hrun
    rcases ha : answer callLocal (s.1.local', s.2) with e | a
    · have he := hl _ e ha
      rw [ha] at hrun
      cases e with
      | transport e =>
        cases hcloud : s.1.cloud with
        | none =>
          have hno : (watch s).1.cloud = none := by simp [watch, hcloud]
          rw [hno] at hrun
          rw [answer, after, hrun]
          exact alone_accounted localName cloudName reply callLocal r s ha hcloud
        | some c =>
          have hsome : (watch s).1.cloud = some (c, []) := by simp [watch, hcloud]
          rw [hsome] at hrun
          obtain ⟨own, hturned⟩ := failed_turned localName reply callLocal r s ha
          rw [answer, after, hrun]
          exact ⟨_, hturned.viaCloud hsome hcloud (hc _) (some e)⟩
      | _ => cases he
    · rw [ha] at hrun
      rw [answer, after, hrun]
      exact served_accounted localName cloudName reply callLocal r s ha
  · rw [if_neg htry] at hrun
    obtain ⟨c, hcloud⟩ : ∃ c, s.1.cloud = some c := by
      cases hn : s.1.cloud with
      | none => simp [watch, hn, Breaker.shouldTryLocal] at htry
      | some c => exact ⟨c, rfl⟩
    have hsome : (decided r (watch s)).1.cloud = some (c, []) := by simp [decided, watch, hcloud]
    rw [answer, after, hrun]
    exact ⟨_, (skipped_turned r s).viaCloud hsome hcloud (hc _) none⟩

end Account

/-! ### Requests one after another -/

section Runs

variable (l : Transport ωL L) (c : Transport ωC C)

def replyOf (s : FallbackClient L C × World) : Request ωL ωC → Except Exn Reply
  | .query env attrs => (answer (query l c env attrs) s).map .data
  | .control env payload => (answer (control l c env payload) s).map .accepted

/-- The request with a record of its calls. -/
def recording (s : FallbackClient L C × World) (request : Request ωL ωC) :
    FallbackClient (Watched L) (Watched C) × World :=
  serve (watching l) (watching c) (watch s) request

/-- A request is accounted for by its calls and by the lines the client logs. -/
structure Serves (s : FallbackClient L C × World) (request : Request ωL ωC)
    (own : List LogLine) : Prop where
  same : unwatch (recording l c s request) = serve l c s request
  accounted : Accounted l.name c.name s (recording l c s request) (replyOf l c s request) own

/-- The request returns, and what it returns came over `path`. -/
def ServedOver (path : Str) (s : FallbackClient L C × World) (request : Request ωL ωC) : Prop :=
  let t := recording l c s request
  (replyOf l c s request).isOk = true ∧
    ∃ call ∈ (t.1.local'.2 ++ recorded t.1.cloud).getLast?, call.path = path

instance (path : Str) (s : FallbackClient L C × World) (request : Request ωL ωC) :
    Decidable (ServedOver l c path s request) :=
  inferInstanceAs (Decidable (_ ∧ ∃ call ∈ _, _))

/-- The requests of a run, each with the state it starts from. -/
def steps : List (Request ωL ωC) → FallbackClient L C × World →
    List ((FallbackClient L C × World) × Request ωL ωC)
  | [], _ => []
  | request :: requests, s => (s, request) :: steps requests (serve l c s request)

variable {l c}

theorem attempt_same (localName cloudName : Str) (r : Readings) (reply : α → Reply)
    (callLocal : Method L α) (callCloud : Method C α) (s : FallbackClient L C × World) :
    let request := attempt localName cloudName r (watched localName reply callLocal)
      (watched cloudName reply callCloud)
    answer request (watch s) = answer (attempt localName cloudName r callLocal callCloud) s ∧
      unwatch (after request (watch s)) =
        after (attempt localName cloudName r callLocal callCloud) s := by
  intro request
  have hrun := attempt_unwatch localName cloudName r reply callLocal callCloud (watch s)
  rw [unwatch_watch] at hrun
  simp only [answer, after, hrun, request]
  cases (attempt localName cloudName r (watched localName reply callLocal)
    (watched cloudName reply callCloud)).run (watch s) <;> exact ⟨rfl, rfl⟩

theorem request_serves (hl : l.Contained) (hc : c.Contained) (s : FallbackClient L C × World)
    (request : Request ωL ωC) : ∃ own, Serves l c s request own := by
  cases request with
  | query env attrs =>
    obtain ⟨hanswer, hafter⟩ := attempt_same l.name c.name env.readings .data
      (l.query env.local' attrs) (c.query env.cloud attrs) s
    obtain ⟨own, haccounted⟩ := attempt_accounted l.name c.name .data env.readings s
      (hl.query env.local' attrs) (hc.query env.cloud attrs)
    rw [hanswer] at haccounted
    exact ⟨own, hafter, haccounted⟩
  | control env payload =>
    obtain ⟨hanswer, hafter⟩ := attempt_same l.name c.name env.readings .accepted
      (l.control env.local' payload) (c.control env.cloud payload) s
    obtain ⟨own, haccounted⟩ := attempt_accounted l.name c.name .accepted env.readings s
      (hl.control env.local' payload) (hc.control env.cloud payload)
    rw [hanswer] at haccounted
    exact ⟨own, hafter, haccounted⟩

theorem Serves.active {own : List LogLine} (h : Serves l c s request own) :
    (serve l c s request).1.activePath = (recording l c s request).1.activePath := by
  rw [← h.same]
  rfl

/-- The path a request is served over is the path it leaves. -/
theorem Serves.over {own : List LogLine} (h : Serves l c s request own)
    (hover : ServedOver l c path s request) :
    (serve l c s request).1.activePath = some path := by
  obtain ⟨hok, call, hlast, rfl⟩ := hover
  obtain ⟨call', hlast', _, hactive⟩ := h.accounted.last
  obtain rfl := Option.some.inj (hlast.symm.trans hlast')
  rw [h.active, hactive, if_pos hok]

/-- Requests that stay on the path announce nothing. -/
theorem steady_quiet {requests : List (Request ωL ωC)} {owns : List (List LogLine)}
    {s : FallbackClient L C × World} (hactive : s.1.activePath = some path)
    (h : List.Forall₂ (fun st own => Serves l c st.1 st.2 own) (steps l c requests s) owns)
    (hover : ∀ st ∈ steps l c requests s, ServedOver l c path st.1 st.2) :
    owns.flatten.filter LogLine.isPath = [] := by
  induction requests generalizing s owns with
  | nil =>
    cases h
    rfl
  | cons request requests ih =>
    obtain ⟨hnow, hlater⟩ := List.forall_mem_cons.mp hover
    cases h with
    | cons hserves hrest =>
      have hleft := hserves.over hnow
      have hquiet := hserves.accounted.announces
      rw [← hserves.active, hleft, hactive] at hquiet
      rw [List.flatten_cons, List.filter_append, hquiet, ih hleft hrest hlater]
      simp [announced]

/-- A run that is served over one path from its first request on announces it once. -/
theorem first_announces {requests : List (Request ωL ωC)} {owns : List (List LogLine)}
    {s : FallbackClient L C × World} (hactive : s.1.activePath = none)
    (h : List.Forall₂ (fun st own => Serves l c st.1 st.2 own) (steps l c requests s) owns)
    (hne : requests ≠ []) (hover : ∀ st ∈ steps l c requests s, ServedOver l c path st.1 st.2) :
    owns.flatten.filter LogLine.isPath = [.servedOver path] := by
  cases requests with
  | nil => exact absurd rfl hne
  | cons request requests =>
    obtain ⟨hnow, hlater⟩ := List.forall_mem_cons.mp hover
    cases h with
    | cons hserves hrest =>
      have hleft := hserves.over hnow
      have hannounces := hserves.accounted.announces
      rw [← hserves.active, hleft, hactive] at hannounces
      rw [List.flatten_cons, List.filter_append, hannounces, steady_quiet hleft hrest hlater]
      rfl

/-- In every run, from any state, each request is accounted for. One that begins without a path and is
served over one path announces it once. -/
theorem requests_served (hl : l.Contained) (hc : c.Contained) (s : FallbackClient L C × World)
    (requests : List (Request ωL ωC)) :
    ∃ owns, List.Forall₂ (fun st own => Serves l c st.1 st.2 own) (steps l c requests s) owns ∧
      ∀ path, s.1.activePath = none → requests ≠ [] →
        (∀ st ∈ steps l c requests s, ServedOver l c path st.1 st.2) →
          owns.flatten.filter LogLine.isPath = [.servedOver path] := by
  choose own hown using request_serves hl hc
  have hserves : List.Forall₂ (fun st own => Serves l c st.1 st.2 own) (steps l c requests s)
      ((steps l c requests s).map (fun st => own st.1 st.2)) := by
    rw [List.forall₂_map_right_iff, List.forall₂_same]
    intro st _
    exact hown st.1 st.2
  exact ⟨_, hserves, fun path hactive => first_announces hactive hserves⟩

/-- Five queries that the listener answers. -/
def fivePolls : List (Request Script Script) :=
  List.replicate 5 (.query ⟨⟨0, 0, 0⟩, .answering, .failing⟩ none)

theorem fivePolls_announce_once :
    let l := Script.transport (str "local")
    let c := Script.transport (str "cloud")
    let run := steps l c fivePolls (initial () (some ()) 3 600, World.initial)
    ∃ owns, List.Forall₂ (fun st own => Serves l c st.1 st.2 own) run owns ∧
      owns.flatten.filter LogLine.isPath = [.servedOver (str "local")] := by
  intro l c run
  obtain ⟨owns, hserves, hannounces⟩ := requests_served
    (CozyLifeCoordinator.Script.contained (str "local"))
    (CozyLifeCoordinator.Script.contained (str "cloud"))
    (initial () (some ()) 3 600, World.initial) fivePolls
  exact ⟨owns, hserves, hannounces (str "local") rfl (by simp [fivePolls]) (by decide +kernel)⟩

end Runs

end FallbackClient

end CozyLife
