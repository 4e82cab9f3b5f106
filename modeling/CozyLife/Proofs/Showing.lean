import CozyLife.Entities
import CozyLife.Proofs.Reporting
import CozyLife.Proofs.Rounding

/-! Which data maps the entities can show. -/

namespace CozyLife
open Python Effects
open Account (Numeric int_numeric)

section Values

variable (rt : Runtime)

/-- `int` raises for none of the whole floats, so a number a sensor has scaled is shown. -/
theorem nativeOf_ok (scaled : PyFloat) : ∃ value, nativeOf rt scaled = .ok value := by
  unfold nativeOf
  cases scaled with
  | nan => exact ⟨.fractional .nan, rfl⟩
  | infinity negative => exact ⟨.fractional (.infinity negative), rfl⟩
  | finite negative m e =>
    split
    · exact ⟨.whole (truncate negative m e), rfl⟩
    · exact ⟨.fractional (.finite negative m e), rfl⟩

/-- The one way `float` raises what a sensor does not catch. -/
theorem float_overflow (raw : Json) : rt.float raw = .error .overflow ↔
    ∃ n, raw = .int n ∧ FLOAT_LIMIT ≤ n.natAbs := by
  cases raw with
  | int n =>
    simp only [Runtime.float, Json.int.injEq, exists_eq_left', ← ofInt_none]
    cases PyFloat.ofInt n <;> simp
  | str s =>
    simp only [Runtime.float]
    cases rt.floatOfText s <;> simp
  | _ => simp [Runtime.float]

end Values

variable (rt : Runtime) (data : Option (Dict Json))

/-- What the data has for a datapoint. -/
def rawOf (dpid : Int) : Option Json := Dict.get (data.getD []) (intText dpid)

/-- Every entity shows something of the data, and a sensor shows no number where there is none to
read. -/
structure Shown : Prop where
  switch : ∃ on, CozyLifeSwitch.isOn rt data = .ok on
  sensors : ∀ d ∈ SENSORS, ∃ value, CozyLifeSensor.nativeValue rt d data = .ok value
  unreadable : ∀ d ∈ SENSORS, ∀ raw e, rawOf data d.dpid = some raw → rt.float raw = .error e →
    CozyLifeSensor.nativeValue rt d data = .ok none

/-- The relay's datapoint, if it is there, is a number or a text that `int` reads, and no metering
datapoint is an integer too large for a float. -/
structure Showable : Prop where
  relay : ∀ raw, rawOf data DPID_SWITCH = some raw → Numeric rt raw
  metering : ∀ d ∈ SENSORS, ∀ n, rawOf data d.dpid = some (.int n) → n.natAbs < FLOAT_LIMIT

theorem isOn_run : CozyLifeSwitch.isOn rt data =
    (rt.int ((rawOf data DPID_SWITCH).getD (.int 0))).map (fun n => decide (0 < n)) := rfl

theorem isOn_ok : (∃ on, CozyLifeSwitch.isOn rt data = .ok on) ↔
    ∀ raw, rawOf data DPID_SWITCH = some raw → Numeric rt raw := by
  rw [isOn_run]
  cases rawOf data DPID_SWITCH with
  | none => exact iff_of_true ⟨false, rfl⟩ (by simp)
  | some raw =>
    simp only [Option.getD_some, Option.some.injEq, forall_eq', ← int_numeric]
    cases rt.int raw <;> simp [Except.map]

variable (d : CozyLifeSensorDescription)

theorem nativeValue_run : CozyLifeSensor.nativeValue rt d data =
    match rawOf data d.dpid with
    | none => .ok none
    | some raw => scaledBy rt d.scale (rt.float raw) := by
  unfold CozyLifeSensor.nativeValue rawOf
  cases Dict.get (data.getD []) (intText d.dpid) with
  | none => rfl
  | some raw => cases raw <;> rfl

theorem scaledBy_ok (scale : PyFloat) (number : Except ConversionError PyFloat) :
    (∃ value, scaledBy rt scale number = .ok value) ↔ number ≠ .error .overflow := by
  rcases number with e | value
  · cases e <;> simp [scaledBy]
  · obtain ⟨shown, hshown⟩ := nativeOf_ok rt (value.mul scale)
    simp [scaledBy, hshown, Except.map]

theorem nativeValue_ok : (∃ value, CozyLifeSensor.nativeValue rt d data = .ok value) ↔
    ∀ n, rawOf data d.dpid = some (.int n) → n.natAbs < FLOAT_LIMIT := by
  rw [nativeValue_run]
  cases rawOf data d.dpid with
  | none => simp
  | some raw =>
    simp only [scaledBy_ok, ne_eq, float_overflow, Option.some.injEq]
    constructor
    · intro h n hn
      exact not_le.mp (fun hle => h ⟨n, hn, hle⟩)
    · intro h hover
      obtain ⟨n, hn, hle⟩ := hover
      exact not_lt.mpr hle (h n hn)

/-- A reading that is no number is shown as no number, unless it is an integer too large. -/
theorem nativeValue_unreadable (hraw : rawOf data d.dpid = some raw)
    (hfloat : rt.float raw = .error e)
    (hlimit : ∀ n, rawOf data d.dpid = some (.int n) → n.natAbs < FLOAT_LIMIT) :
    CozyLifeSensor.nativeValue rt d data = .ok none := by
  rw [nativeValue_run, hraw]
  dsimp only
  rw [hfloat]
  cases e with
  | type | value => rfl
  | overflow =>
    obtain ⟨n, rfl, hle⟩ := (float_overflow rt raw).mp hfloat
    exact absurd (hlimit n hraw) (not_lt.mpr hle)

/-- Every entity can show a data map exactly if `int` reads the relay's datapoint and no metering
datapoint is an integer too large for a float. -/
theorem shown_iff : Shown rt data ↔ Showable rt data := by
  constructor
  · intro h
    refine ⟨(isOn_ok rt data).mp h.switch, ?_⟩
    intro d hd
    exact (nativeValue_ok rt data d).mp (h.sensors d hd)
  · intro h
    refine ⟨(isOn_ok rt data).mpr h.relay, ?_, ?_⟩
    · intro d hd
      exact (nativeValue_ok rt data d).mpr (h.metering d hd)
    · intro d hd raw e hraw hfloat
      exact nativeValue_unreadable rt data d hraw hfloat (h.metering d hd)

/-- The listener answers the wildcard query with no state of the relay and an absurd power, and says
nothing to the probe. -/
def nullRelay : PollEnv LocalEnv where
  wildcard := ⟨0, ⟨.wouldBlock, true⟩, ⟨.accepted, 0, []⟩, .opened, ⟨.accepted, 0,
    [⟨0, .received (ascii "\x7b\"sn\":\"1\",\"msg\":\x7b\"data\":\x7b\"1\":null,\"28\":1" ++
      List.replicate 309 0x30 ++ ascii "\x7d\x7d\x7d" ++ TERMINATOR)⟩]⟩⟩
  metering := ⟨0, ⟨.wouldBlock, true⟩, ⟨.accepted, 0, []⟩, .opened, ⟨.accepted, 0, []⟩⟩

/-- The poll returns a map for which `is_on` raises `TypeError` and the power sensor
`OverflowError`. -/
theorem nullRelay_unshown : ∃ data,
    answer (CozyLifeCoordinator.poll (LocalTransport.query .plain) nullRelay)
      (.new ⟨str "10.0.0.7", 5555, 5, none⟩, World.initial) = .ok data ∧
    CozyLifeSwitch.isOn .plain (some data) = .error .type ∧
    CozyLifeSensor.nativeValue .plain POWER (some data) = .error .overflow ∧
    ¬ Shown .plain (some data) := by
  have hraises : (answer (CozyLifeCoordinator.poll (LocalTransport.query .plain) nullRelay)
      (.new ⟨str "10.0.0.7", 5555, 5, none⟩, World.initial)).toOption.map (fun data =>
        (CozyLifeSwitch.isOn .plain (some data),
          CozyLifeSensor.nativeValue .plain POWER (some data))) =
      some (.error .type, .error .overflow) := by decide +kernel
  cases hpoll : answer (CozyLifeCoordinator.poll (LocalTransport.query .plain) nullRelay)
      (.new ⟨str "10.0.0.7", 5555, 5, none⟩, World.initial) with
  | error e => simp [hpoll, Except.toOption] at hraises
  | ok data =>
    simp only [hpoll, Except.toOption, Option.map_some, Option.some.injEq, Prod.mk.injEq] at hraises
    refine ⟨data, rfl, hraises.1, hraises.2, ?_⟩
    intro h
    obtain ⟨on, hon⟩ := h.switch
    rw [hraises.1] at hon
    cases hon

end CozyLife
