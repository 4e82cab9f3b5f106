import CozyLife.Api.Client
import CozyLife.Proofs.Exchange

/-! What a failed local call does about a device that may have moved. -/

namespace CozyLife
open Python Effects

namespace RediscoveringLocalTransport

/-- The world after a search: its probe takes a sequence number. -/
def probed (env : SearchEnv) (w : World) : World :=
  match env.probe with
  | some time => { w with lastSn := nextSn w.lastSn time }
  | none => w

theorem probed_trace (env : SearchEnv) (w : World) : (probed env w).trace = w.trace := by
  unfold probed
  split <;> rfl

theorem probed_sockets (env : SearchEnv) (w : World) : (probed env w).sockets = w.sockets := by
  unfold probed
  split <;> rfl

@[simp] theorem rediscover_run (env : SearchEnv) (w : World) : (rediscover env).run w =
    match env.found with
    | .ok found => .ok found (probed env w)
    | .error e => .error e (probed env w) := by
  unfold rediscover probed
  cases env.probe with
  | none => cases env.found <;> simp
  | some time => cases env.found <;> simp [-bind_pure_comp]

variable (py : Interpreter) (factory : Factory)

/-- The state of a transport that has searched. -/
def searched (env : SearchEnv) (s : RediscoveringLocalTransport LocalTransport × World) :
    RediscoveringLocalTransport LocalTransport × World :=
  ({ s.1 with lastSearch := some env.now }, probed env s.2)

/-- The state of a transport that goes on at another address, its old connection released. -/
def moved (found : Str) (s : RediscoveringLocalTransport LocalTransport × World) :
    RediscoveringLocalTransport LocalTransport × World :=
  ({ s.1 with host := found, transport := factory.build found },
    { s.2 with trace := s.2.trace ++ s.1.transport.conn.toList.map (fun c => .closed c.sock) })

theorem relocate_run (env : SearchEnv) (s : RediscoveringLocalTransport LocalTransport × World) :
    (relocate (LocalTransport.asTransport py) factory.build env).run s =
      if s.1.searchDue env.now then
        match env.found with
        | .error (.os _) => .ok false (searched env s)
        | .error e => .error e (searched env s)
        | .ok none => .ok false (searched env s)
        | .ok (some found) =>
          if found = [] ∨ found = s.1.host then .ok false (searched env s)
          else .ok true (moved factory found (searched env s))
      else .ok false s := by
  simp only [relocate, EStateM.run_bind, run_getSelf]
  cases s.1.searchDue env.now with
  | false => simp
  | true =>
    simp only [Bool.not_true, Bool.false_eq_true, ↓reduceIte, EStateM.run_bind, run_modifySelf,
      run_caught, run_onWorld, rediscover_run]
    cases env.found with
    | error e => cases e <;> rfl
    | ok found =>
      cases found with
      | none => rfl
      | some found =>
        by_cases h : found = [] ∨ found = s.1.host
        · simp [h, searched]
        · simp only [h, ↓reduceIte, EStateM.run_bind, closeInner, LocalTransport.asTransport,
            run_zoom, inner, LocalTransport.disconnect_run, run_modifySelf, EStateM.run_pure]
          rfl

theorem control_run (env : RediscoverEnv LocalEnv) (payload : Payload)
    (s : RediscoveringLocalTransport LocalTransport × World) :
    (control (LocalTransport.asTransport py) factory.build env payload).run s =
      match (zoom (inner LocalTransport) (LocalTransport.control py env.first payload)).run s with
      | .ok a s => .ok a s
      | .error (.transport e) s =>
        match (relocate (LocalTransport.asTransport py) factory.build env.search).run s with
        | .ok _ s => .error (.transport e) s
        | .error e s => .error e s
      | .error e s => .error e s := by
  have hc : (LocalTransport.asTransport py).control = LocalTransport.control py := rfl
  simp only [control, EStateM.run_bind, run_caught, hc]
  cases (zoom (inner LocalTransport) (LocalTransport.control py env.first payload)).run s with
  | ok a s => rfl
  | error e s =>
    cases e with
    | transport e =>
      simp only [EStateM.run_bind, run_throw]
      cases (relocate (LocalTransport.asTransport py) factory.build env.search).run s <;> rfl
    | _ => rfl

/-- The state in which a query is made again, its new address announced. -/
def announced (s : RediscoveringLocalTransport LocalTransport × World) :
    RediscoveringLocalTransport LocalTransport × World :=
  (s.1, { s.2 with log := s.2.log ++ [.moved s.1.deviceId s.1.host] })

theorem query_run (env : RediscoverEnv LocalEnv) (attrs : Option (List Int))
    (s : RediscoveringLocalTransport LocalTransport × World) :
    (query (LocalTransport.asTransport py) factory.build env attrs).run s =
      match (zoom (inner LocalTransport) (LocalTransport.query py env.first attrs)).run s with
      | .ok data s => .ok data s
      | .error (.transport e) s =>
        match (relocate (LocalTransport.asTransport py) factory.build env.search).run s with
        | .ok true s =>
          (zoom (inner LocalTransport) (LocalTransport.query py env.retry attrs)).run (announced s)
        | .ok false s => .error (.transport e) s
        | .error e s => .error e s
      | .error e s => .error e s := by
  have hc : (LocalTransport.asTransport py).query = LocalTransport.query py := rfl
  simp only [query, EStateM.run_bind, run_caught, hc]
  cases (zoom (inner LocalTransport) (LocalTransport.query py env.first attrs)).run s with
  | ok data s => rfl
  | error e s =>
    cases e with
    | transport e =>
      simp only [EStateM.run_bind]
      cases (relocate (LocalTransport.asTransport py) factory.build env.search).run s with
      | ok found s => cases found <;> rfl
      | error e s => rfl
    | _ => rfl

end RediscoveringLocalTransport

end CozyLife
