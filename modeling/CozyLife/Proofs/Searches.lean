import CozyLife.Proofs.Containment
import CozyLife.Proofs.Rediscover
import Mathlib.Tactic.Linarith

/-! When a transport whose device may have moved searches for it, and what it calls then. -/

namespace CozyLife
open Python Effects

namespace RediscoveringLocalTransport

variable {T ω : Type}

/-- What a call is made of: calls of the inner transport, a search, and going over to the transport of
another address. -/
inductive Deed (ω : Type)
  | query (env : ω) (attrs : Option (List Int))
  | control (env : ω) (payload : Payload)
  | close
  | search (env : SearchEnv)
  | move (host : Str)
  | announce

inductive Op (ω : Type)
  | query (env : RediscoverEnv ω) (attrs : Option (List Int))
  | control (env : RediscoverEnv ω) (payload : Payload)
  | close

/-- What the methods return. -/
inductive Reply
  | data (d : Dict Json)
  | accepted (b : Bool)
  | nothing

variable (inside : Transport ω T) (factory : Str → T)

def Deed.leaves (s : RediscoveringLocalTransport T × World) :
    Deed ω → RediscoveringLocalTransport T × World
  | .query env attrs => after (zoom (inner T) (inside.query env attrs)) s
  | .control env payload => after (zoom (inner T) (inside.control env payload)) s
  | .close => after (closeInner inside) s
  | .search env => ({ s.1 with lastSearch := some env.now }, probed env s.2)
  | .move host => ({ s.1 with host := host, transport := factory host }, s.2)
  | .announce => (s.1, { s.2 with log := s.2.log ++ [.moved s.1.deviceId s.1.host] })

/-- What an inner call comes to. -/
def Deed.result (s : RediscoveringLocalTransport T × World) : Deed ω → Except Exn Reply
  | .query env attrs => (answer (inside.query env attrs) (s.1.transport, s.2)).map .data
  | .control env payload => (answer (inside.control env payload) (s.1.transport, s.2)).map .accepted
  | _ => .ok .nothing

def Op.leaves (s : RediscoveringLocalTransport T × World) :
    Op ω → RediscoveringLocalTransport T × World
  | .query env attrs => after (RediscoveringLocalTransport.query inside factory env attrs) s
  | .control env payload => after (RediscoveringLocalTransport.control inside factory env payload) s
  | .close => after (closeInner inside) s

def Op.result (s : RediscoveringLocalTransport T × World) : Op ω → Except Exn Reply
  | .query env attrs =>
    (answer (RediscoveringLocalTransport.query inside factory env attrs) s).map .data
  | .control env payload =>
    (answer (RediscoveringLocalTransport.control inside factory env payload) s).map .accepted
  | .close => (answer (closeInner inside) s).map (fun _ => .nothing)

/-- The address a search leads to, if it is another one. -/
def elsewhere (env : SearchEnv) (host : Str) : Option Str :=
  match env.found with
  | .ok (some found) => if found = [] ∨ found = host then none else some found
  | _ => none

/-- What a failed call makes of the search after it. -/
def relocation (env : SearchEnv) (t : RediscoveringLocalTransport T) : List (Deed ω) :=
  if t.searchDue env.now then
    .search env :: match elsewhere env t.host with
      | some found => [.close, .move found]
      | none => []
  else []

/-- What a call is made of, by what its first inner call comes to. -/
def Op.deeds (s : RediscoveringLocalTransport T × World) : Op ω → List (Deed ω)
  | .query env attrs => match answer (inside.query env.first attrs) (s.1.transport, s.2) with
    | .ok _ => [.query env.first attrs]
    | .error _ => .query env.first attrs :: (relocation env.search s.1 ++
        if s.1.searchDue env.search.now ∧ (elsewhere env.search s.1.host).isSome then
          [.announce, .query env.retry attrs]
        else [])
  | .control env payload => match answer (inside.control env.first payload) (s.1.transport, s.2) with
    | .ok _ => [.control env.first payload]
    | .error _ => .control env.first payload :: relocation env.search s.1
  | .close => [.close]

def trail (ds : List (Deed ω)) (s : RediscoveringLocalTransport T × World) :
    RediscoveringLocalTransport T × World := ds.foldl (Deed.leaves inside factory) s

/-- Inner calls return or raise transport errors, and closing a transport returns. -/
structure Reliable : Prop where
  query : ∀ env attrs s, Contained (answer (inside.query env attrs) s)
  control : ∀ env payload s, Contained (answer (inside.control env payload) s)
  close : ∀ m, inside.close = some m → ∀ s, ∃ s', m.run s = .ok () s'

/-- Discovery finds an address, finds none or raises `OSError`. -/
def Quiet (env : SearchEnv) : Prop := ∀ e, env.found = .error e → ∃ text, e = .os text

def Op.Quiet : Op ω → Prop
  | .query env _ => RediscoveringLocalTransport.Quiet env.search
  | .control env _ => RediscoveringLocalTransport.Quiet env.search
  | .close => True

/-- The transport comes from the factory, and since then it has only been called. -/
inductive Grown (built : T) : T → Prop
  | new : Grown built built
  | query (env attrs w) (h : Grown built t) :
      Grown built (after (inside.query env attrs) (t, w)).1
  | control (env payload w) (h : Grown built t) :
      Grown built (after (inside.control env payload) (t, w)).1
  | close (m w) (hm : inside.close = some m) (h : Grown built t) : Grown built (after m (t, w)).1

/-- The current transport is the one built for the current host. -/
def Built (s : RediscoveringLocalTransport T × World) : Prop :=
  Grown inside (factory s.1.host) s.1.transport

def Deed.isCall : Deed ω → Bool
  | .query _ _ => true
  | .control _ _ => true
  | _ => false

/-- The inner calls among deeds, each with the state it is made in. -/
def callsOf : List (Deed ω) → RediscoveringLocalTransport T × World →
    List (Deed ω × (RediscoveringLocalTransport T × World))
  | [], _ => []
  | d :: ds, s => (if d.isCall then [(d, s)] else []) ++ callsOf ds (d.leaves inside factory s)

def Deed.searchedAt : Deed ω → Option ℚ
  | .search env => some env.now
  | _ => none

/-- When the searches among deeds start. -/
def searchesOf (ds : List (Deed ω)) : List ℚ := ds.filterMap Deed.searchedAt

/-- The first inner call, and the search there may be after it. -/
def Op.begins : Op ω → Option (Deed ω × SearchEnv)
  | .query env attrs => some (.query env.first attrs, env.search)
  | .control env payload => some (.control env.first payload, env.search)
  | .close => none

/-- When a call would search. -/
def Op.now (op : Op ω) : Option ℚ := op.begins.map (fun p => p.2.now)

/-- What one call does, made in the state `s` after searches at the times in `past`. -/
structure Performs (past : List ℚ) (s : RediscoveringLocalTransport T × World) (op : Op ω) :
    Prop where
  deeds : op.leaves inside factory s = trail inside factory (op.deeds inside s) s
  built : ∀ ds rest, op.deeds inside s = ds ++ rest → Built inside factory (trail inside factory ds s)
  searches : ∀ first env, op.begins = some (first, env) →
    ((∃ e, first.result inside s = .error e) ∧ (∀ t ∈ past, ¬ env.now - t < s.1.minInterval) →
      searchesOf (op.deeds inside s) = [env.now]) ∧
    (¬ ((∃ e, first.result inside s = .error e) ∧ ∀ t ∈ past, ¬ env.now - t < s.1.minInterval) →
      searchesOf (op.deeds inside s) = [])
  control : ∀ env payload, op = .control env payload →
    callsOf inside factory (op.deeds inside s) s = [(.control env.first payload, s)] ∧
      op.result inside factory s = (Deed.control env.first payload).result inside s
  once : ∀ env attrs, op = .query env attrs →
    ¬ (∃ found, .search env.search ∈ op.deeds inside s ∧ env.search.found = .ok (some found) ∧
      found ≠ [] ∧ found ≠ s.1.host) →
    callsOf inside factory (op.deeds inside s) s = [(.query env.first attrs, s)] ∧
      op.result inside factory s = (Deed.query env.first attrs).result inside s
  twice : ∀ env attrs found, op = .query env attrs → .search env.search ∈ op.deeds inside s →
    env.search.found = .ok (some found) → found ≠ [] → found ≠ s.1.host →
    ∃ s', callsOf inside factory (op.deeds inside s) s =
        [(.query env.first attrs, s), (.query env.retry attrs, s')] ∧
      s'.1.host = found ∧ s'.1.transport = factory found ∧
      op.result inside factory s = (Deed.query env.retry attrs).result inside s'
  close : op = .close → callsOf inside factory (op.deeds inside s) s = [] ∧
    searchesOf (op.deeds inside s) = []
  host : (op.leaves inside factory s).1.host ≠ s.1.host → ∃ env,
    .search env ∈ op.deeds inside s ∧
      env.found = .ok (some (op.leaves inside factory s).1.host) ∧
      (op.leaves inside factory s).1.host ≠ []

/-- The searches of a run of calls. -/
def searches : List (Op ω) → RediscoveringLocalTransport T × World → List ℚ
  | [], _ => []
  | op :: ops, s => searchesOf (op.deeds inside s) ++ searches ops (op.leaves inside factory s)

def runOps (ops : List (Op ω)) (s : RediscoveringLocalTransport T × World) :
    RediscoveringLocalTransport T × World := ops.foldl (Op.leaves inside factory) s

/-- The ways a call goes, with what it is made of and what it comes to. -/
inductive Goes (s : RediscoveringLocalTransport T × World) :
    Op ω → List (Deed ω) → Except Exn Reply → Prop
  | served (env attrs data)
      (hfirst : answer (inside.query env.first attrs) (s.1.transport, s.2) = .ok data) :
      Goes s (.query env attrs) [.query env.first attrs] (.ok (.data data))
  | failed (env attrs e)
      (hfirst : answer (inside.query env.first attrs) (s.1.transport, s.2) = .error e)
      (hm : ¬ (s.1.searchDue env.search.now = true ∧ (elsewhere env.search s.1.host).isSome)) :
      Goes s (.query env attrs) (.query env.first attrs :: relocation env.search s.1) (.error e)
  | moved (env attrs e found)
      (hfirst : answer (inside.query env.first attrs) (s.1.transport, s.2) = .error e)
      (hdue : s.1.searchDue env.search.now = true)
      (hfound : elsewhere env.search s.1.host = some found) :
      Goes s (.query env attrs) [.query env.first attrs, .search env.search, .close, .move found,
        .announce, .query env.retry attrs]
        ((Deed.query env.retry attrs).result inside (trail inside factory
          [.query env.first attrs, .search env.search, .close, .move found, .announce] s))
  | written (env payload accepted)
      (hfirst : answer (inside.control env.first payload) (s.1.transport, s.2) = .ok accepted) :
      Goes s (.control env payload) [.control env.first payload] (.ok (.accepted accepted))
  | unwritten (env payload e)
      (hfirst : answer (inside.control env.first payload) (s.1.transport, s.2) = .error e) :
      Goes s (.control env payload) (.control env.first payload :: relocation env.search s.1)
        (.error e)
  | closed : Goes s .close [.close] (.ok .nothing)

/-- The searches so far, of a transport that is in the state `s`. -/
structure Watched (past : List ℚ) (s : RediscoveringLocalTransport T × World) : Prop where
  built : Built inside factory s
  last : s.1.lastSearch = past.getLast?
  sorted : past.Pairwise (· ≤ ·)
  apart : past.Pairwise (fun earlier later => s.1.minInterval ≤ later - earlier)

/-! ### A call and what it is made of -/

section Deeds

variable {inside}

theorem closeInner_run (h : Reliable inside) (s : RediscoveringLocalTransport T × World) :
    (closeInner inside).run s = .ok () (after (closeInner inside) s) := by
  unfold closeInner
  cases hc : inside.close with
  | none => rfl
  | some m =>
    obtain ⟨s', hs'⟩ := h.close m hc ((inner T).get s)
    simp [after, hs']

theorem relocate_trail (h : Reliable inside) (env : SearchEnv) (hq : Quiet env)
    (s : RediscoveringLocalTransport T × World) : (relocate inside factory env).run s =
      .ok (s.1.searchDue env.now && (elsewhere env s.1.host).isSome)
        (trail inside factory (relocation env s.1) s) := by
  simp only [relocate, EStateM.run_bind, run_getSelf, relocation]
  cases s.1.searchDue env.now with
  | false => rfl
  | true =>
    simp only [Bool.not_true, Bool.false_eq_true, ↓reduceIte, EStateM.run_bind, run_modifySelf,
      run_caught, run_onWorld, rediscover_run, elsewhere]
    cases hf : env.found with
    | error e =>
      obtain ⟨text, rfl⟩ := hq e hf
      rfl
    | ok found =>
      cases found with
      | none => rfl
      | some found =>
        by_cases hm : found = [] ∨ found = s.1.host
        · simp only [hm, ↓reduceIte]
          rfl
        · simp only [hm, ↓reduceIte, EStateM.run_bind, closeInner_run h, run_modifySelf,
            EStateM.run_pure]
          rfl

/-- What follows a failed first call, for a query. -/
theorem query_failed (h : Reliable inside) (env : RediscoverEnv ω) (attrs : Option (List Int))
    (hq : Quiet env.search) (s : RediscoveringLocalTransport T × World)
    (hfirst : answer (inside.query env.first attrs) (s.1.transport, s.2) = .error e) :
    (query inside factory env attrs).run s =
      if s.1.searchDue env.search.now ∧ (elsewhere env.search s.1.host).isSome then
        (zoom (inner T) (inside.query env.retry attrs)).run (Deed.leaves inside factory
          (trail inside factory (.query env.first attrs :: relocation env.search s.1) s) .announce)
      else .error e
        (trail inside factory (.query env.first attrs :: relocation env.search s.1) s) := by
  have hcontained := h.query env.first attrs (s.1.transport, s.2) e hfirst
  have hrun := run_eq (zoom (inner T) (inside.query env.first attrs)) s
  rw [answer_zoom, show answer (inside.query env.first attrs) ((inner T).get s) = .error e from
    hfirst, after_zoom] at hrun
  have htrail : (relocate inside factory env.search).run
      ((inner T).set (after (inside.query env.first attrs) ((inner T).get s)) s) =
        .ok (s.1.searchDue env.search.now && (elsewhere env.search s.1.host).isSome)
          (trail inside factory (relocation env.search s.1)
            ((inner T).set (after (inside.query env.first attrs) ((inner T).get s)) s)) :=
    relocate_trail factory h env.search hq _
  have hnow : trail inside factory (.query env.first attrs :: relocation env.search s.1) s =
      trail inside factory (relocation env.search s.1)
        ((inner T).set (after (inside.query env.first attrs) ((inner T).get s)) s) := by
    simp [trail, List.foldl_cons, Deed.leaves]
  cases e with
  | transport e =>
    simp only [query, EStateM.run_bind, run_caught, hrun, htrail, hnow, ← Bool.and_eq_true]
    cases s.1.searchDue env.search.now && (elsewhere env.search s.1.host).isSome <;> rfl
  | _ => cases hcontained

/-- What follows a failed first call, for a command. -/
theorem control_failed (h : Reliable inside) (env : RediscoverEnv ω) (payload : Payload)
    (hq : Quiet env.search) (s : RediscoveringLocalTransport T × World)
    (hfirst : answer (inside.control env.first payload) (s.1.transport, s.2) = .error e) :
    (control inside factory env payload).run s =
      .error e (trail inside factory (.control env.first payload :: relocation env.search s.1) s) := by
  have hcontained := h.control env.first payload (s.1.transport, s.2) e hfirst
  have hrun := run_eq (zoom (inner T) (inside.control env.first payload)) s
  rw [answer_zoom, show answer (inside.control env.first payload) ((inner T).get s) = .error e from
    hfirst, after_zoom] at hrun
  have htrail := relocate_trail factory h env.search hq
    ((inner T).set (after (inside.control env.first payload) ((inner T).get s)) s)
  cases e with
  | transport e =>
    simp only [control, EStateM.run_bind, run_caught, hrun, htrail, run_throw, trail,
      List.foldl_cons, Deed.leaves, after_zoom]
    rfl
  | _ => cases hcontained

theorem query_returned (env : RediscoverEnv ω) (attrs : Option (List Int))
    (s : RediscoveringLocalTransport T × World)
    (hfirst : answer (inside.query env.first attrs) (s.1.transport, s.2) = .ok data) :
    (query inside factory env attrs).run s =
      .ok data (trail inside factory [.query env.first attrs] s) := by
  have hrun := run_eq (zoom (inner T) (inside.query env.first attrs)) s
  rw [answer_zoom, show answer (inside.query env.first attrs) ((inner T).get s) = .ok data from
    hfirst] at hrun
  rw [query, EStateM.run_bind, run_caught, hrun]
  rfl

theorem control_returned (env : RediscoverEnv ω) (payload : Payload)
    (s : RediscoveringLocalTransport T × World)
    (hfirst : answer (inside.control env.first payload) (s.1.transport, s.2) = .ok accepted) :
    (control inside factory env payload).run s =
      .ok accepted (trail inside factory [.control env.first payload] s) := by
  have hrun := run_eq (zoom (inner T) (inside.control env.first payload)) s
  rw [answer_zoom, show answer (inside.control env.first payload) ((inner T).get s) = .ok accepted
    from hfirst] at hrun
  rw [control, EStateM.run_bind, run_caught, hrun]
  rfl

theorem moved_goes (h : Reliable inside) (env : RediscoverEnv ω) (attrs : Option (List Int))
    (hq : Quiet env.search) (s : RediscoveringLocalTransport T × World) {found : Str}
    (hfirst : answer (inside.query env.first attrs) (s.1.transport, s.2) = .error e)
    (hdue : s.1.searchDue env.search.now = true)
    (hfound : elsewhere env.search s.1.host = some found) :
    Goes inside factory s (.query env attrs) ((Op.query env attrs).deeds inside s)
        ((Op.query env attrs).result inside factory s) ∧
      (Op.query env attrs).leaves inside factory s =
        trail inside factory ((Op.query env attrs).deeds inside s) s := by
  have hfailed := query_failed factory h env attrs hq s hfirst
  have hdeeds : (Op.query env attrs).deeds inside s = [.query env.first attrs,
      .search env.search, .close, .move found, .announce, .query env.retry attrs] := by
    simp only [Op.deeds, hfirst, relocation, hdue, ↓reduceIte, hfound, Option.isSome_some,
      and_self, List.cons_append, List.nil_append]
  have hrelocation : relocation (ω := ω) env.search s.1 =
      [.search env.search, .close, .move found] := by
    simp only [relocation, hdue, ↓reduceIte, hfound]
  rw [if_pos ⟨hdue, by simp [hfound]⟩, hrelocation] at hfailed
  have hresult : (Op.query env attrs).result inside factory s =
      (Deed.query env.retry attrs).result inside (trail inside factory
        [.query env.first attrs, .search env.search, .close, .move found, .announce] s) := by
    have hanswer : answer (query inside factory env attrs) s =
        answer (zoom (inner T) (inside.query env.retry attrs)) (Deed.leaves inside factory
          (trail inside factory
            [.query env.first attrs, .search env.search, .close, .move found] s)
          .announce) := by
      rw [answer, answer, hfailed]
    rw [Op.result, hanswer, answer_zoom]
    rfl
  rw [hdeeds, hresult]
  refine ⟨.moved env attrs e found hfirst hdue hfound, ?_⟩
  simp only [Op.leaves, after, hfailed]
  rfl

theorem query_goes (h : Reliable inside) (env : RediscoverEnv ω) (attrs : Option (List Int))
    (hq : Quiet env.search) (s : RediscoveringLocalTransport T × World) :
    Goes inside factory s (.query env attrs) ((Op.query env attrs).deeds inside s)
        ((Op.query env attrs).result inside factory s) ∧
      (Op.query env attrs).leaves inside factory s =
        trail inside factory ((Op.query env attrs).deeds inside s) s := by
  rcases hfirst : answer (inside.query env.first attrs) (s.1.transport, s.2) with e | data
  · by_cases hm : s.1.searchDue env.search.now = true ∧ (elsewhere env.search s.1.host).isSome
    · obtain ⟨found, hfound⟩ := Option.isSome_iff_exists.mp hm.2
      exact moved_goes factory h env attrs hq s hfirst hm.1 hfound
    · have hfailed := query_failed factory h env attrs hq s hfirst
      have hdeeds : (Op.query env attrs).deeds inside s =
          .query env.first attrs :: relocation env.search s.1 := by
        simp only [Op.deeds, hfirst, if_neg hm, List.append_nil]
      rw [if_neg hm] at hfailed
      have hresult : (Op.query env attrs).result inside factory s = .error e := by
        simp only [Op.result, answer, hfailed, Except.map]
      rw [hdeeds, hresult]
      refine ⟨.failed env attrs e hfirst hm, ?_⟩
      simp only [Op.leaves, after, hfailed]
  · have hreturned := query_returned factory env attrs s hfirst
    have hdeeds : (Op.query env attrs).deeds inside s = [.query env.first attrs] := by
      simp only [Op.deeds, hfirst]
    have hresult : (Op.query env attrs).result inside factory s = .ok (.data data) := by
      simp only [Op.result, answer, hreturned, Except.map]
    rw [hdeeds, hresult]
    refine ⟨.served env attrs data hfirst, ?_⟩
    simp only [Op.leaves, after, hreturned]

theorem control_goes (h : Reliable inside) (env : RediscoverEnv ω) (payload : Payload)
    (hq : Quiet env.search) (s : RediscoveringLocalTransport T × World) :
    Goes inside factory s (.control env payload) ((Op.control env payload).deeds inside s)
        ((Op.control env payload).result inside factory s) ∧
      (Op.control env payload).leaves inside factory s =
        trail inside factory ((Op.control env payload).deeds inside s) s := by
  rcases hfirst : answer (inside.control env.first payload) (s.1.transport, s.2) with e | accepted
  · have hfailed := control_failed factory h env payload hq s hfirst
    have hdeeds : (Op.control env payload).deeds inside s =
        .control env.first payload :: relocation env.search s.1 := by
      simp only [Op.deeds, hfirst]
    have hresult : (Op.control env payload).result inside factory s = .error e := by
      simp only [Op.result, answer, hfailed, Except.map]
    rw [hdeeds, hresult]
    refine ⟨.unwritten env payload e hfirst, ?_⟩
    simp only [Op.leaves, after, hfailed]
  · have hreturned := control_returned factory env payload s hfirst
    have hdeeds : (Op.control env payload).deeds inside s = [.control env.first payload] := by
      simp only [Op.deeds, hfirst]
    have hresult : (Op.control env payload).result inside factory s =
        .ok (.accepted accepted) := by
      simp only [Op.result, answer, hreturned, Except.map]
    rw [hdeeds, hresult]
    refine ⟨.written env payload accepted hfirst, ?_⟩
    simp only [Op.leaves, after, hreturned]

theorem op_goes (h : Reliable inside) (op : Op ω) (hq : op.Quiet)
    (s : RediscoveringLocalTransport T × World) :
    Goes inside factory s op (op.deeds inside s) (op.result inside factory s) ∧
      op.leaves inside factory s = trail inside factory (op.deeds inside s) s := by
  cases op with
  | query env attrs => exact query_goes factory h env attrs hq s
  | control env payload => exact control_goes factory h env payload hq s
  | close =>
    have hresult : (Op.close (ω := ω)).result inside factory s = .ok .nothing := by
      rw [Op.result, answer, closeInner_run h]
      rfl
    rw [hresult]
    exact ⟨.closed, rfl⟩

/-! ### What deeds do to the state -/

theorem leaves_built (d : Deed ω) {s : RediscoveringLocalTransport T × World}
    (hb : Built inside factory s) : Built inside factory (d.leaves inside factory s) := by
  cases d with
  | query env attrs =>
    simp only [Deed.leaves, after_zoom]
    exact .query env attrs s.2 hb
  | control env payload =>
    simp only [Deed.leaves, after_zoom]
    exact .control env payload s.2 hb
  | close =>
    unfold Deed.leaves closeInner
    cases hm : inside.close with
    | none => exact hb
    | some m =>
      simp only [after_zoom]
      exact .close m s.2 hm hb
  | search env => exact hb
  | move host => exact .new
  | announce => exact hb

theorem trail_built (ds : List (Deed ω)) {s : RediscoveringLocalTransport T × World}
    (hb : Built inside factory s) : Built inside factory (trail inside factory ds s) := by
  induction ds generalizing s with
  | nil => exact hb
  | cons d ds ih => exact ih (leaves_built factory d hb)

variable (inside) in
/-- Only a search is remembered, and nothing changes the interval. -/
theorem leaves_lastSearch (d : Deed ω) (s : RediscoveringLocalTransport T × World) :
    (d.leaves inside factory s).1.lastSearch = d.searchedAt.or s.1.lastSearch ∧
      (d.leaves inside factory s).1.minInterval = s.1.minInterval := by
  cases d with
  | query env attrs =>
    simp only [Deed.leaves, after_zoom]
    exact ⟨rfl, rfl⟩
  | control env payload =>
    simp only [Deed.leaves, after_zoom]
    exact ⟨rfl, rfl⟩
  | close =>
    unfold Deed.leaves closeInner
    cases inside.close with
    | none => exact ⟨rfl, rfl⟩
    | some m =>
      simp only [after_zoom]
      exact ⟨rfl, rfl⟩
  | search env => exact ⟨rfl, rfl⟩
  | move host => exact ⟨rfl, rfl⟩
  | announce => exact ⟨rfl, rfl⟩

variable (inside) in
theorem trail_lastSearch (ds : List (Deed ω)) (s : RediscoveringLocalTransport T × World) :
    (trail inside factory ds s).1.lastSearch = (searchesOf ds).getLast?.or s.1.lastSearch ∧
      (trail inside factory ds s).1.minInterval = s.1.minInterval := by
  induction ds generalizing s with
  | nil => exact ⟨rfl, rfl⟩
  | cons d ds ih =>
    obtain ⟨hlast, hinterval⟩ := leaves_lastSearch inside factory d s
    obtain ⟨hlast', hinterval'⟩ := ih (d.leaves inside factory s)
    refine ⟨?_, hinterval'.trans hinterval⟩
    refine hlast'.trans ?_
    rw [hlast, searchesOf, searchesOf, List.filterMap_cons]
    cases d.searchedAt with
    | none => rfl
    | some t =>
      rw [List.getLast?_cons]
      cases (ds.filterMap Deed.searchedAt).getLast? <;> rfl

/-- A search goes elsewhere only to an address it has returned. -/
theorem elsewhere_some {host : Str} (h : elsewhere env host = some found) :
    env.found = .ok (some found) ∧ found ≠ [] ∧ found ≠ host := by
  unfold elsewhere at h
  split at h
  · rename_i addr hfound
    split at h
    · cases h
    · rename_i hne
      cases h
      exact ⟨hfound, not_or.mp hne⟩
  · cases h

theorem elsewhere_of {host found : Str} (h : env.found = .ok (some found)) (hne : found ≠ [])
    (hother : found ≠ host) : elsewhere env host = some found := by
  simp only [elsewhere, h, hne, hother, or_self, ↓reduceIte]

/-- A relocation searches once if it is due, and calls nothing. -/
theorem relocation_searches (env : SearchEnv) (t : RediscoveringLocalTransport T) :
    searchesOf (relocation (ω := ω) env t) = if t.searchDue env.now then [env.now] else [] := by
  unfold relocation
  cases t.searchDue env.now with
  | false => rfl
  | true => cases elsewhere env t.host <;> rfl

theorem relocation_calls (env : SearchEnv) (t : RediscoveringLocalTransport T)
    (s : RediscoveringLocalTransport T × World) :
    callsOf inside factory (relocation env t) s = [] := by
  unfold relocation
  cases t.searchDue env.now with
  | false => rfl
  | true => cases elsewhere env t.host <;> rfl

variable (inside) in
theorem relocation_host (env : SearchEnv) (t : RediscoveringLocalTransport T)
    (s : RediscoveringLocalTransport T × World) :
    (trail inside factory (relocation env t) s).1.host = s.1.host ∨
      .search env ∈ relocation (ω := ω) env t ∧
        elsewhere env t.host = some (trail inside factory (relocation env t) s).1.host := by
  unfold relocation
  cases t.searchDue env.now with
  | false => exact .inl rfl
  | true =>
    cases he : elsewhere env t.host with
    | none => exact .inl rfl
    | some found => exact .inr ⟨List.mem_cons_self, rfl⟩

/-! ### A run of calls -/

/-- The time of the last search is all it takes to know whether another one is due. -/
theorem Watched.due {past : List ℚ} {s : RediscoveringLocalTransport T × World}
    (h : Watched inside factory past s) (now : ℚ) :
    s.1.searchDue now = true ↔ ∀ t ∈ past, ¬ now - t < s.1.minInterval := by
  rw [searchDue, h.last]
  cases hl : past.getLast? with
  | none =>
    rw [List.getLast?_eq_none_iff.mp hl]
    simp
  | some last =>
    obtain ⟨init, rfl⟩ := List.getLast?_eq_some_iff.mp hl
    obtain ⟨_, _, hle⟩ := List.pairwise_append.mp h.sorted
    simp only [decide_not, Bool.not_eq_eq_eq_not, Bool.not_true, decide_eq_false_iff_not]
    constructor
    · intro hdue t ht hlt
      rcases List.mem_append.mp ht with ht | ht
      · have := hle t ht last (by simp)
        exact hdue (by linarith)
      · rw [List.mem_singleton.mp ht] at hlt
        exact hdue hlt
    · intro hall
      exact hall last (by simp)

/-- A first call that fails is followed by a search exactly when one is due. -/
theorem Watched.searches {past : List ℚ} {s : RediscoveringLocalTransport T × World}
    (h : Watched inside factory past s) {first : Deed ω} {env : SearchEnv}
    {ds : List (Deed ω)}
    (hfails : (∃ e, first.result inside s = .error e) →
      searchesOf ds = if s.1.searchDue env.now then [env.now] else [])
    (hserves : (¬ ∃ e, first.result inside s = .error e) → searchesOf ds = []) :
    ((∃ e, first.result inside s = .error e) ∧ (∀ t ∈ past, ¬ env.now - t < s.1.minInterval) →
      searchesOf ds = [env.now]) ∧
    (¬ ((∃ e, first.result inside s = .error e) ∧ ∀ t ∈ past, ¬ env.now - t < s.1.minInterval) →
      searchesOf ds = []) := by
  constructor
  · intro hsearch
    obtain ⟨hfail, hdue⟩ := hsearch
    rw [hfails hfail, if_pos ((h.due factory env.now).mpr hdue)]
  · intro hno
    by_cases hfail : ∃ e, first.result inside s = .error e
    · rw [hfails hfail, if_neg]
      intro hdue
      exact hno ⟨hfail, (h.due factory env.now).mp hdue⟩
    · exact hserves hfail

theorem first_fails {m : Method T α} {f : α → Reply} {s : T × World} :
    (∃ e, (answer m s).map f = .error e) ↔ ∃ e, answer m s = .error e := by
  cases answer m s <;> simp [Except.map]

theorem search_mem_relocation {env env' : SearchEnv} {t : RediscoveringLocalTransport T}
    (h : Deed.search env' ∈ relocation (ω := ω) env t) : t.searchDue env.now = true := by
  unfold relocation at h
  split at h
  · assumption
  · cases h

section Goes

variable {s : RediscoveringLocalTransport T × World} {ds : List (Deed ω)} {r : Except Exn Reply}

/-- A call that goes on after its first inner call has failed searches if a search is due. -/
theorem Goes.searches {op : Op ω} {first : Deed ω} {env : SearchEnv}
    (h : Goes inside factory s op ds r) (hbegins : op.begins = some (first, env)) :
    ((∃ e, first.result inside s = .error e) →
        searchesOf ds = if s.1.searchDue env.now then [env.now] else []) ∧
      ((¬ ∃ e, first.result inside s = .error e) → searchesOf ds = []) := by
  cases h with
  | served env' attrs data hfirst | written env' payload accepted hfirst =>
    cases hbegins
    refine ⟨?_, fun _ => rfl⟩
    intro hfail
    obtain ⟨e, he⟩ := first_fails.mp hfail
    rw [hfirst] at he
    cases he
  | failed env' attrs e hfirst | unwritten env' payload e hfirst =>
    cases hbegins
    refine ⟨fun _ => relocation_searches env'.search s.1, ?_⟩
    intro hserves
    exact absurd (first_fails.mpr ⟨e, hfirst⟩) hserves
  | moved env' attrs e found hfirst hdue =>
    cases hbegins
    refine ⟨fun _ => (if_pos hdue).symm, ?_⟩
    intro hserves
    exact absurd (first_fails.mpr ⟨e, hfirst⟩) hserves
  | closed => cases hbegins

theorem Goes.control {env : RediscoverEnv ω} {payload : Payload}
    (h : Goes inside factory s (.control env payload) ds r) :
    callsOf inside factory ds s = [(.control env.first payload, s)] ∧
      r = (Deed.control env.first payload).result inside s := by
  cases h with
  | written _ _ accepted hfirst =>
    refine ⟨rfl, ?_⟩
    simp only [Deed.result, hfirst, Except.map]
  | unwritten _ _ e hfirst =>
    rw [callsOf, relocation_calls]
    refine ⟨rfl, ?_⟩
    simp only [Deed.result, hfirst, Except.map]

/-- A query whose search does not lead elsewhere is made once. -/
theorem Goes.once {env : RediscoverEnv ω} {attrs : Option (List Int)}
    (h : Goes inside factory s (.query env attrs) ds r)
    (hstays : ¬ ∃ found, .search env.search ∈ ds ∧ env.search.found = .ok (some found) ∧
      found ≠ [] ∧ found ≠ s.1.host) :
    callsOf inside factory ds s = [(.query env.first attrs, s)] ∧
      r = (Deed.query env.first attrs).result inside s := by
  cases h with
  | served _ _ data hfirst =>
    refine ⟨rfl, ?_⟩
    simp only [Deed.result, hfirst, Except.map]
  | failed _ _ e hfirst hm =>
    rw [callsOf, relocation_calls]
    refine ⟨rfl, ?_⟩
    simp only [Deed.result, hfirst, Except.map]
  | moved _ _ e found hfirst hdue hfound =>
    obtain ⟨hreturned, hne, hother⟩ := elsewhere_some hfound
    exact absurd ⟨found, by simp, hreturned, hne, hother⟩ hstays

/-- A query whose search leads elsewhere is made again there. -/
theorem Goes.twice {env : RediscoverEnv ω} {attrs : Option (List Int)} {found : Str}
    (h : Goes inside factory s (.query env attrs) ds r) (hsearch : .search env.search ∈ ds)
    (hfound : env.search.found = .ok (some found)) (hne : found ≠ [])
    (hother : found ≠ s.1.host) :
    ∃ s', callsOf inside factory ds s =
        [(.query env.first attrs, s), (.query env.retry attrs, s')] ∧
      s'.1.host = found ∧ s'.1.transport = factory found ∧
      r = (Deed.query env.retry attrs).result inside s' := by
  cases h with
  | served => simp at hsearch
  | failed _ _ e hfirst hm =>
    have hdue := search_mem_relocation (List.mem_of_ne_of_mem (by simp) hsearch)
    exact absurd ⟨hdue, by simp [elsewhere_of hfound hne hother]⟩ hm
  | moved _ _ e found' hfirst hdue hfound' =>
    obtain ⟨hreturned, _⟩ := elsewhere_some hfound'
    rw [hreturned] at hfound
    cases hfound
    exact ⟨_, rfl, rfl, rfl, rfl⟩

/-- A relocation moves only to an address its search has returned. -/
theorem relocated_host {first : Deed ω} {env : SearchEnv}
    (hfirst : (first.leaves inside factory s).1.host = s.1.host)
    (hhost : (trail inside factory (first :: relocation env s.1) s).1.host ≠ s.1.host) :
    ∃ env', .search env' ∈ first :: relocation env s.1 ∧
      env'.found = .ok (some (trail inside factory (first :: relocation env s.1) s).1.host) ∧
      (trail inside factory (first :: relocation env s.1) s).1.host ≠ [] := by
  rcases relocation_host inside factory env s.1 (first.leaves inside factory s) with
    hsame | ⟨hsearch, helse⟩
  · exact absurd (hsame.trans hfirst) hhost
  · obtain ⟨hreturned, hne, _⟩ := elsewhere_some helse
    exact ⟨env, List.mem_cons_of_mem _ hsearch, hreturned, hne⟩

theorem Goes.host {op : Op ω} (h : Goes inside factory s op ds r)
    (hhost : (trail inside factory ds s).1.host ≠ s.1.host) : ∃ env, .search env ∈ ds ∧
      env.found = .ok (some (trail inside factory ds s).1.host) ∧
      (trail inside factory ds s).1.host ≠ [] := by
  cases h with
  | served | written => simp [trail, Deed.leaves, inner] at hhost
  | failed env attrs | unwritten env payload =>
    refine relocated_host factory ?_ hhost
    simp only [Deed.leaves, after_zoom]
    rfl
  | moved env attrs e found hfirst hdue hfound =>
    obtain ⟨hreturned, hne, _⟩ := elsewhere_some hfound
    have hleft : (trail inside factory [.query env.first attrs, .search env.search, .close,
        .move found, .announce, .query env.retry attrs] s).1.host = found := by
      simp [trail, Deed.leaves, inner]
    rw [hleft]
    exact ⟨env.search, by simp, hreturned, hne⟩
  | closed =>
    refine absurd ?_ hhost
    rw [trail, List.foldl_cons, List.foldl_nil]
    unfold Deed.leaves closeInner
    cases inside.close with
    | none => rfl
    | some m =>
      simp only [after_zoom]
      rfl

end Goes

/-- One call, after the searches in `past`. -/
theorem op_performs (h : Reliable inside) (op : Op ω) (hq : op.Quiet) {past : List ℚ}
    {s : RediscoveringLocalTransport T × World}
    (hw : Watched inside factory past s) : Performs inside factory past s op := by
  obtain ⟨hgoes, htrail⟩ := op_goes factory h op hq s
  constructor
  · exact htrail
  · intro ds _ _
    exact trail_built factory ds hw.built
  · intro first env hbegins
    obtain ⟨hfails, hserves⟩ := hgoes.searches factory hbegins
    exact hw.searches factory hfails hserves
  · rintro env payload rfl
    exact hgoes.control
  · rintro env attrs rfl hstays
    exact hgoes.once factory hstays
  · rintro env attrs found rfl hsearch hfound hne hother
    exact hgoes.twice factory hsearch hfound hne hother
  · rintro rfl
    exact ⟨rfl, rfl⟩
  · intro hhost
    rw [htrail] at hhost ⊢
    exact hgoes.host factory hhost

/-- A call searches at its own time and when that is due, or not at all. -/
theorem Performs.searched {past : List ℚ} {s : RediscoveringLocalTransport T × World} {op : Op ω}
    (h : Performs inside factory past s op) : searchesOf (op.deeds inside s) = [] ∨
      ∃ now, op.now = some now ∧ searchesOf (op.deeds inside s) = [now] ∧
        ∀ t ∈ past, ¬ now - t < s.1.minInterval := by
  cases hb : op.begins with
  | none =>
    cases op with
    | query | control => cases hb
    | close => exact .inl (h.close rfl).2
  | some p =>
    obtain ⟨hsearch, hno⟩ := h.searches p.1 p.2 hb
    by_cases hdue : (∃ e, p.1.result inside s = .error e) ∧
        ∀ t ∈ past, ¬ p.2.now - t < s.1.minInterval
    · exact .inr ⟨p.2.now, by simp [Op.now, hb], hsearch hdue, hdue.2⟩
    · exact .inl (hno hdue)

theorem Watched.step {past : List ℚ} {s : RediscoveringLocalTransport T × World} {op : Op ω}
    (hw : Watched inside factory past s) (h : Performs inside factory past s op)
    (hclock : (past ++ op.now.toList).Pairwise (· ≤ ·)) :
    Watched inside factory (past ++ searchesOf (op.deeds inside s))
      (op.leaves inside factory s) := by
  have hbuilt := h.built (op.deeds inside s) [] (List.append_nil _).symm
  obtain ⟨hlast, hinterval⟩ := trail_lastSearch inside factory (op.deeds inside s) s
  rw [← h.deeds] at hbuilt hlast hinterval
  have hsearched := h.searched
  refine ⟨hbuilt, ?_, ?_, ?_⟩
  · rw [hlast, hw.last, List.getLast?_append]
  · rcases hsearched with hnone | ⟨now, hnow, hone, _⟩
    · rw [hnone, List.append_nil]
      exact hw.sorted
    · rw [hone]
      rwa [hnow] at hclock
  · rw [hinterval]
    rcases hsearched with hnone | ⟨now, _, hone, hdue⟩
    · rw [hnone, List.append_nil]
      exact hw.apart
    · rw [hone]
      refine List.pairwise_append.mpr ⟨hw.apart, List.pairwise_singleton _ _, ?_⟩
      intro t ht now' hnow'
      rw [List.mem_singleton.mp hnow']
      exact not_lt.mp (hdue t ht)

variable (inside) in
theorem new_watched (deviceId host : Str) (minInterval : ℚ) (w : World) :
    Watched inside factory [] (⟨deviceId, host, minInterval, none, factory host⟩, w) :=
  ⟨.new, rfl, .nil, .nil⟩

theorem leaves_interval {past : List ℚ} {s : RediscoveringLocalTransport T × World} {op : Op ω}
    (h : Performs inside factory past s op) :
    (op.leaves inside factory s).1.minInterval = s.1.minInterval := by
  rw [h.deeds]
  exact (trail_lastSearch inside factory (op.deeds inside s) s).2

theorem run_performs (h : Reliable inside) (ops : List (Op ω)) (hq : ∀ op ∈ ops, op.Quiet)
    {past : List ℚ} {s : RediscoveringLocalTransport T × World}
    (hw : Watched inside factory past s)
    (hclock : (past ++ ops.filterMap Op.now).Pairwise (· ≤ ·)) :
    (past ++ searches inside factory ops s).Pairwise
        (fun earlier later => s.1.minInterval ≤ later - earlier) ∧
      ∀ before op later, ops = before ++ op :: later →
        Performs inside factory (past ++ searches inside factory before s)
          (runOps inside factory before s) op := by
  induction ops generalizing past s with
  | nil =>
    refine ⟨?_, ?_⟩
    · rw [searches, List.append_nil]
      exact hw.apart
    · intro before op later hops
      simp at hops
  | cons op ops ih =>
    obtain ⟨hop, hrest⟩ := List.forall_mem_cons.mp hq
    have hperforms := op_performs factory h op hop hw
    have hnow : (past ++ op.now.toList).Pairwise (· ≤ ·) ∧
        ((past ++ searchesOf (op.deeds inside s)) ++ ops.filterMap Op.now).Pairwise (· ≤ ·) := by
      have hsplit : (op :: ops).filterMap Op.now = op.now.toList ++ ops.filterMap Op.now := by
        rw [List.filterMap_cons]
        cases op.now <;> rfl
      rw [hsplit, ← List.append_assoc] at hclock
      refine ⟨(List.pairwise_append.mp hclock).1, ?_⟩
      refine List.Pairwise.sublist ?_ hclock
      apply List.Sublist.append_right
      apply List.Sublist.append_left
      rcases hperforms.searched with hnone | ⟨now, hnow, hone, _⟩
      · rw [hnone]
        exact List.nil_sublist _
      · rw [hone, hnow]
        exact List.Sublist.refl _
    obtain ⟨hapart, hall⟩ := ih hrest (hw.step factory hperforms hnow.1) hnow.2
    rw [leaves_interval factory hperforms] at hapart
    refine ⟨?_, ?_⟩
    · rw [searches, ← List.append_assoc]
      exact hapart
    · intro before op' later hops
      cases before with
      | nil =>
        obtain ⟨rfl, rfl⟩ := List.cons.inj hops
        rw [searches, List.append_nil]
        exact hperforms
      | cons op'' before =>
        obtain ⟨rfl, rfl⟩ := List.cons.inj hops
        rw [searches, ← List.append_assoc]
        exact hall before op' later rfl

end Deeds

/-- In every run of calls of a new transport, on a clock that does not run backwards: any two searches
are at least the interval apart, and each call does what it may after the searches before it. -/
theorem searches_spaced (deviceId host : Str) (minInterval : ℚ) (w : World) (ops : List (Op ω))
    (h : Reliable inside) (hq : ∀ op ∈ ops, op.Quiet)
    (hclock : (ops.filterMap Op.now).Pairwise (· ≤ ·)) :
    (searches inside factory ops (⟨deviceId, host, minInterval, none, factory host⟩, w)).Pairwise
        (fun earlier later => minInterval ≤ later - earlier) ∧
      ∀ before op later, ops = before ++ op :: later → Performs inside factory
        (searches inside factory before (⟨deviceId, host, minInterval, none, factory host⟩, w))
        (runOps inside factory before (⟨deviceId, host, minInterval, none, factory host⟩, w)) op :=
  run_performs factory h ops hq (new_watched inside factory deviceId host minInterval w) hclock

/-- A transport that reaches the device at one address only. -/
def stub (reachableAt : Str) : Transport Unit Str where
  name := str "local"
  query _ _ s := if s.1 = reachableAt then .ok [(str "1", .int 1)] s
    else .error (.transport ⟨str "cannot connect to " ++ s.1⟩) s
  control _ _ s := if s.1 = reachableAt then .ok true s
    else .error (.transport ⟨str "cannot connect to " ++ s.1⟩) s
  close := none

theorem stub_reliable (reachableAt : Str) : Reliable (stub reachableAt) := by
  refine ⟨?_, ?_, ?_⟩
  · intro env attrs s
    by_cases hs : s.1 = reachableAt
    · simp only [stub, answer, EStateM.run, hs, ↓reduceIte]
      exact contained_ok _
    · simp only [stub, answer, EStateM.run, hs, ↓reduceIte]
      exact (contained_error _).mpr rfl
  · intro env payload s
    by_cases hs : s.1 = reachableAt
    · simp only [stub, answer, EStateM.run, hs, ↓reduceIte]
      exact contained_ok _
    · simp only [stub, answer, EStateM.run, hs, ↓reduceIte]
      exact (contained_error _).mpr rfl
  · intro m hm
    cases hm

/-- The device moves before a poll, moves again before a command, and the network is down at last. -/
def roaming : List (Op Unit) :=
  [.query ⟨(), ⟨0, some 0, .ok (some (str "10.0.0.9"))⟩, ()⟩ none,
    .control ⟨(), ⟨100, none, .ok none⟩, ()⟩ [(.int 1, 1)],
    .query ⟨(), ⟨300, none, .error (.os (str "network is unreachable"))⟩, ()⟩ none, .close]

theorem roaming_spaced :
    (searches (stub (str "10.0.0.9")) id roaming
        (⟨str "dev", str "10.0.0.7", 300, none, str "10.0.0.7"⟩, World.initial)).Pairwise
        (fun earlier later => 300 ≤ later - earlier) ∧
      ∀ before op later, roaming = before ++ op :: later → Performs (stub (str "10.0.0.9")) id
        (searches (stub (str "10.0.0.9")) id before
          (⟨str "dev", str "10.0.0.7", 300, none, str "10.0.0.7"⟩, World.initial))
        (runOps (stub (str "10.0.0.9")) id before
          (⟨str "dev", str "10.0.0.7", 300, none, str "10.0.0.7"⟩, World.initial)) op :=
  searches_spaced (stub (str "10.0.0.9")) id (str "dev") (str "10.0.0.7") 300 World.initial roaming
    (stub_reliable _) (by simp [roaming, Op.Quiet, Quiet]) (by decide +kernel)

end RediscoveringLocalTransport

end CozyLife
