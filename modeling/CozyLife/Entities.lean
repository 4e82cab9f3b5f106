import CozyLife.Coordinator
import CozyLife.Python.Values

/-! `switch.py` and `sensor.py`: what the entities show of the coordinator's data. -/

namespace CozyLife
open Python

def DPID_SWITCH : Int := 1

variable (rt : Runtime)

/-- `CozyLifeSwitch.is_on`. Before the first poll the coordinator has no data. -/
def CozyLifeSwitch.isOn (data : Option (Dict Json)) : Except ConversionError Bool := do
  let data := data.getD []
  return decide (0 < (← rt.int ((data.get (intText DPID_SWITCH)).getD (.int 0))))

/-- A sensor backed by one datapoint; `scale` leads from the device's unit to Home Assistant's. -/
structure CozyLifeSensorDescription where
  dpid : Int
  scale : PyFloat

/-- `1.0`, the scale of a sensor that does not name one. -/
def DEFAULT_SCALE : PyFloat := .ofDecimal false 10 (-1)

/-- `0.001`. -/
def MILLI : PyFloat := .ofDecimal false 1 (-3)

def POWER : CozyLifeSensorDescription := ⟨DPID_POWER, DEFAULT_SCALE⟩
def VOLTAGE : CozyLifeSensorDescription := ⟨DPID_VOLTAGE, DEFAULT_SCALE⟩
def CURRENT : CozyLifeSensorDescription := ⟨DPID_CURRENT, MILLI⟩
def ENERGY : CozyLifeSensorDescription := ⟨DPID_ENERGY, MILLI⟩

def SENSORS : List CozyLifeSensorDescription := [POWER, VOLTAGE, CURRENT, ENERGY]

/-- A number a sensor shows. -/
inductive NativeValue
  | whole (n : Int)
  | fractional (x : PyFloat)
  deriving DecidableEq

/-- `int(scaled) if scaled.is_integer() else scaled`. -/
def nativeOf (scaled : PyFloat) : Except ConversionError NativeValue :=
  if scaled.isInteger then (rt.int (.float scaled)).map .whole else .ok (.fractional scaled)

/-- What `native_value` makes of `float(raw)`: what is not read as a number is shown as none. -/
def scaledBy (scale : PyFloat) : Except ConversionError PyFloat →
    Except ConversionError (Option NativeValue)
  | .ok value => (nativeOf rt (value.mul scale)).map some
  | .error .type => .ok none
  | .error .value => .ok none
  | .error .overflow => .error .overflow

/-- `CozyLifeSensor.native_value`. -/
def CozyLifeSensor.nativeValue (description : CozyLifeSensorDescription)
    (data : Option (Dict Json)) : Except ConversionError (Option NativeValue) :=
  match (data.getD []).get (intText description.dpid) with
  | none => .ok none
  | some .null => .ok none
  | some raw => scaledBy rt description.scale (rt.float raw)

end CozyLife
