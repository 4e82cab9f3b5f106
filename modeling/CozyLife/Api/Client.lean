import CozyLife.Api.Fallback

/-! The client as the integration assembles it: `build_client` of `__init__.py`. -/

namespace CozyLife
open Python Effects

/-- `transport_factory`: it builds transports that hold no connection yet. -/
structure Factory where
  build : Str → LocalTransport
  idle : ∀ host, (build host).conn = none

/-- `lambda address: LocalTransport(address, timeout=timeout)`. -/
def Factory.standard (timeout : ℚ) : Factory where
  build host := ⟨host, LocalTransport.DEFAULT_PORT, timeout, none⟩
  idle _ := rfl

abbrev Client := FallbackClient (RediscoveringLocalTransport LocalTransport) CloudRelayTransport

abbrev ClientEnv := FallbackClient.RequestEnv (RediscoverEnv LocalEnv) RelayEnv

namespace Client

variable (py : Interpreter) (factory : Factory)

def localPath : Transport (RediscoverEnv LocalEnv) (RediscoveringLocalTransport LocalTransport) :=
  RediscoveringLocalTransport.asTransport (LocalTransport.asTransport py) factory.build

def query (env : ClientEnv) (attrs : Option (List Int)) : Method Client (Dict Json) :=
  FallbackClient.query (localPath py factory) (CloudRelayTransport.asTransport py) env attrs

def control (env : ClientEnv) (payload : Payload) : Method Client Bool :=
  FallbackClient.control (localPath py factory) (CloudRelayTransport.asTransport py) env payload

def close : Method Client Unit :=
  FallbackClient.close (localPath py factory) (CloudRelayTransport.asTransport py)

end Client

/-- A new `RediscoveringLocalTransport`. -/
def RediscoveringLocalTransport.new (factory : Factory) (deviceId host : Str) (minInterval : ℚ) :
    RediscoveringLocalTransport LocalTransport :=
  ⟨deviceId, host, minInterval, none, factory.build host⟩

/-- The data and options of a config entry that the client is built from. -/
structure ConfigEntry where
  deviceId : Str
  localIp : Str
  deviceKey : Option Str
  relayHost : Option Str
  relayPort : Int
  localTimeout : Option ℚ
  cloudTimeout : Option ℚ

def DEFAULT_LOCAL_TIMEOUT : ℚ := 5

def DEFAULT_CLOUD_TIMEOUT : ℚ := 10

/-- `build_client(entry, broadcast_targets)`. Where probes are sent is part of what a search meets. -/
def buildClient (entry : ConfigEntry) : Client :=
  let factory := Factory.standard (entry.localTimeout.getD DEFAULT_LOCAL_TIMEOUT)
  let local' := RediscoveringLocalTransport.new factory entry.deviceId entry.localIp
    RediscoveringLocalTransport.DEFAULT_REDISCOVERY_INTERVAL
  let cloud := match entry.relayHost, entry.deviceKey with
    | some host, some key =>
      if host ≠ [] ∧ key ≠ [] then
        some ⟨entry.deviceId, key, host, entry.relayPort,
          entry.cloudTimeout.getD DEFAULT_CLOUD_TIMEOUT⟩
      else none
    | _, _ => none
  FallbackClient.initial local' cloud Breaker.DEFAULT_FAILURE_THRESHOLD
    Breaker.DEFAULT_RECOVERY_INTERVAL

end CozyLife
