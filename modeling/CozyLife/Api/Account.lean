import CozyLife.Python.Values
import Mathlib.Algebra.Order.Ring.Rat

/-! `account.py`: the account's HTTP API, login and device list. -/

namespace CozyLife.Account
open Python

def API_BASE : Str := str "https://api-us.doiting.com"
def LOGIN_PATH : Str := str "/api/app/user/login"
def DEVICE_LIST_PATH : Str := str "/api/v2/app/device_with_group/list"
def PACKAGE_NAME : Str := str "app.cozylife.app"
def USER_TERM_VERSION : Str := str "1.0.0"
def USER_PRIVACY_VERSION : Str := str "1.0.0"
def USER_AGENT : Str := str "CozyLife/1.20.24 okhttp/4.9.0"
def PACKAGE_VERSION : Str := str "1200240553"

/-- `(35.1856, 33.3823)`. -/
def DEFAULT_COORDINATES : PyFloat × PyFloat :=
  (.ofDecimal false 351856 (-4), .ofDecimal false 333823 (-4))

/-- What a call on the account can raise: the two errors of the package, with their texts, and the
classes of Python's own that come out of it. -/
inductive AccountExn
  | cozyLife (message : Str)
  | auth (message : Str)
  | os
  | httpException
  | unicode
  | value
  | recursion
  | attribute
  | type
  | overflow

/-- A `CozyLifeError`, of which `AuthError` is one. -/
def AccountExn.isCozyLife : AccountExn → Bool
  | .cozyLife _ => true
  | .auth _ => true
  | _ => false

structure HttpRequest where
  url : Str
  data : Option Str
  headers : Dict Str

/-- How `urlopen` and the read of the body end. An `HTTPError` is a `URLError`, which is an
`OSError`; each case is the narrowest class that fits. -/
inductive HttpOutcome
  | httpError (code : Int)
  | urlError (reason : Str)
  | os
  | httpException
  | body (raw : Bytes)

/-- `urllib.request.urlopen(request, timeout=...)` and `response.read()`. -/
abbrev Http := HttpRequest → ℚ → HttpOutcome

structure CozyLifeDevice where
  deviceId : Str
  deviceKey : Str
  name : Str
  relayHost : Str
  relayPort : Int
  localIp : Option Json
  model : Option Json
  dpids : List Int
  online : Bool

structure CozyLifeAccount where
  baseUrl : Str
  timeout : ℚ

/-- `CozyLifeAccount(base_url, timeout=...)`. -/
def new (baseUrl : Str) (timeout : ℚ) : CozyLifeAccount :=
  ⟨(baseUrl.reverse.dropWhile (fun c => c = ofChar '/')).reverse, timeout⟩

variable (rt : Runtime)

/-! ### Values of any type -/

/-- What `value.get` is called on: only a dict has it. -/
def asDict : Json → Except AccountExn (Dict Json)
  | .obj fields => .ok fields
  | _ => .error .attribute

/-- `(d.get(key) or {})`, of which `get` is called next. -/
def dictOr (d : Dict Json) (key : Str) : Except AccountExn (Dict Json) :=
  match Dict.getTruthy d key with
  | some value => asDict value
  | none => .ok []

/-- What `for raw in value` goes through: a dict by its keys, a string by its characters. -/
def iterate : Json → Except AccountExn (List Json)
  | .arr items => .ok items
  | .obj fields => .ok (fields.map (fun p => .str p.1))
  | .str s => .ok (s.map (fun c => .str [c]))
  | _ => .error .type

/-- `int(value)`. -/
def intOf : Json → Except AccountExn Int
  | .bool b => .ok (if b then 1 else 0)
  | .int n => .ok n
  | .float .nan => .error .value
  | .float (.infinity _) => .error .overflow
  | .float (.finite negative m e) => .ok (truncate negative m e)
  | .str s => match rt.intOfText s with
    | some n => .ok n
    | none => .error .value
  | _ => .error .type

/-- `str(value)`. -/
def textOf (value : Json) : Except AccountExn Str :=
  match rt.text value with
  | some text => .ok text
  | none => .error .recursion

/-- `str(d.get(key) or default)`. -/
def textOr (d : Dict Json) (key default : Str) : Except AccountExn Str :=
  match Dict.getTruthy d key with
  | some value => textOf rt value
  | none => .ok default

/-! ### Requests -/

/-- `urllib.parse.unwrap(url)`. -/
def unwrap (url : Str) : Str :=
  let url := strip url
  let url := if url.head? = some (ofChar '<') ∧ url.getLast? = some (ofChar '>') then
    strip (url.drop 1).dropLast else url
  if url.take 4 = str "URL:" then strip (url.drop 4) else url

/-- What stands before the last `#`, if there is one. -/
def withoutFragment (url : Str) : Str :=
  if ofChar '#' ∈ url then ((url.reverse.dropWhile (fun c => c ≠ ofChar '#')).drop 1).reverse
  else url

/-- Whether `urllib.request.Request` finds a scheme in the URL: without one it is a `ValueError`. -/
def hasScheme (url : Str) : Bool :=
  let url := withoutFragment (unwrap url)
  let scheme := url.takeWhile (fun c => c ≠ ofChar ':' ∧ c ≠ ofChar '/')
  scheme ≠ [] && (url.drop scheme.length).head? = some (ofChar ':')

def encodeFields (fields : List (Str × Str)) : Except AccountExn Str :=
  match urlencode fields with
  | some text => .ok text
  | none => .error .unicode

/-- The bodies `json.loads` takes, and what it builds of them. -/
def decodeBody (path : Str) (raw : Bytes) : Except AccountExn (Dict Json) :=
  match loads rt.toInterpreter (decodeReplace raw) with
  | .error .decode => .error (.cozyLife (str "CozyLife returned a non-JSON body for " ++ path))
  | .error .digits => .error .value
  | .error .recursion => .error .recursion
  | .ok (.obj decoded) => .ok decoded
  | .ok _ => .error (.cozyLife (str "CozyLife returned an unexpected body for " ++ path))

/-- What `_request` makes of the outcome of its call. -/
def conclude (path : Str) : HttpOutcome → Except AccountExn (Dict Json)
  | .httpError code =>
    if 500 ≤ code then
      .error (.cozyLife (str "CozyLife rejected the request with HTTP " ++ intText code ++
        str ". Their server errors rather than validating when a login " ++
        str "field is missing or a value is one it cannot handle."))
    else .error (.cozyLife (str "CozyLife returned HTTP " ++ intText code ++ str " for " ++ path))
  | .urlError reason =>
    .error (.cozyLife (str "cannot reach CozyLife at " ++ path ++ str ": " ++ reason))
  | .os => .error .os
  | .httpException => .error .httpException
  | .body raw => decodeBody rt path raw

/-- The URL of `_request(path, params=...)`. -/
def CozyLifeAccount.url (account : CozyLifeAccount) (path : Str)
    (params : Option (List (Str × Str))) : Except AccountExn Str :=
  let url := account.baseUrl ++ path
  match params with
  | some (p :: ps) => do return url ++ str "?" ++ (← encodeFields (p :: ps))
  | _ => return url

/-- The `Request` of `_request(path, form=..., params=...)`. -/
def CozyLifeAccount.prepare (account : CozyLifeAccount) (path : Str)
    (form params : Option (List (Str × Str))) : Except AccountExn HttpRequest := do
  let url ← account.url path params
  let headers : Dict Str := [(str "Accept", str "application/json"), (str "User-Agent", USER_AGENT)]
  let request : HttpRequest ← match form with
    | some fields => do
      pure ⟨url, some (← encodeFields fields),
        headers.set (str "Content-Type") (str "application/x-www-form-urlencoded")⟩
    | none => pure ⟨url, none, headers⟩
  if hasScheme url then return request else throw .value

/-- `_request(path, form=..., params=...)`. -/
def CozyLifeAccount.request (account : CozyLifeAccount) (http : Http) (path : Str)
    (form params : Option (List (Str × Str))) : Except AccountExn (Dict Json) := do
  let request ← account.prepare path form params
  conclude rt path (http request account.timeout)

/-- `_raise_for_ret(response, context=...)`. -/
def raiseForRet (response : Dict Json) (context : Str) : Except AccountExn Unit := do
  let ret ← textOf rt ((response.get (str "ret")).getD (.str []))
  if ret = str "1" then return ()
  else
    let description := strip (← textOr rt response (str "desc") [])
    if ret = str "1001" then
      throw (.auth (str "CozyLife rejected the password (" ++ description ++ str ")"))
    else if ret = str "2006" then
      throw (.auth (str "No account exists for that email address (" ++ description ++ str ")"))
    else
      throw (.auth (str "CozyLife " ++ context ++ str " failed [" ++ ret ++ str "] " ++
        description))

/-! ### Login -/

def loginForm (email password imei : Str) (coordinates : PyFloat × PyFloat) : List (Str × Str) :=
  [(str "mail", email), (str "passwd", password), (str "imei", imei), (str "lang", str "en"),
    (str "platform", str "android"), (str "lat", rt.textOfFloat coordinates.1),
    (str "lng", rt.textOfFloat coordinates.2), (str "package_name", PACKAGE_NAME),
    (str "package_version", PACKAGE_VERSION), (str "user_term_version", USER_TERM_VERSION),
    (str "user_privacy_version", USER_PRIVACY_VERSION)]

/-- `login(email, password, coordinates=...)`; `imei` is the `uuid4` it draws. -/
def CozyLifeAccount.login (account : CozyLifeAccount) (http : Http) (email password imei : Str)
    (coordinates : PyFloat × PyFloat) : Except AccountExn Str := do
  let response ← account.request rt http LOGIN_PATH
    (some (loginForm rt email password imei coordinates)) none
  raiseForRet rt response (str "login")
  let info ← dictOr response (str "info")
  match Dict.getTruthy info (str "token") with
  | some token => textOf rt token
  | none => throw (.auth (str "CozyLife accepted the login but returned no session token"))

/-! ### Devices -/

/-- `_parse_device(raw)`. -/
def parseDevice (raw : Json) : Except AccountExn (Option CozyLifeDevice) := do
  let fields ← asDict raw
  match Dict.getTruthy fields (str "device_id"), Dict.getTruthy fields (str "device_key") with
  | some deviceId, some deviceKey =>
    let deviceId ← textOf rt deviceId
    let deviceKey ← textOf rt deviceKey
    let name ← textOr rt fields (str "device_name") deviceId
    let relayHost ← textOr rt fields (str "ip") []
    let relayPort ← intOf rt ((Dict.getTruthy fields (str "port")).getD (.int 0))
    return some {
      deviceId, deviceKey, name, relayHost, relayPort
      localIp := Dict.getTruthy fields (str "local_ip")
      model := Dict.getTruthy fields (str "device_model_name")
      -- `isinstance(d, int)` holds of the two booleans as well
      dpids := match fields.get (str "dpid") with
        | some (.arr items) => items.filterMap (fun d => match d with
          | .int n => some n
          | .bool b => some (if b then 1 else 0)
          | _ => none)
        | _ => []
      online := ((fields.get (str "is_online")).getD (.int 1)).truthy }
  | _, _ => return none

/-- The devices of one section of the list. -/
def sectionDevices (info : Dict Json) (name : Str) : Except AccountExn (List CozyLifeDevice) := do
  let content ← dictOr info name
  let items ← match Dict.getTruthy content (str "list") with
    | some list => iterate list
    | none => pure []
  return (← items.mapM (parseDevice rt)).filterMap id

def SECTIONS : List Str := [str "device_bind", str "device_share"]

def deviceParams (token : Str) : List (Str × Str) :=
  [(str "token", token), (str "platform", str "android"), (str "lang", str "en")]

/-- `devices(token)`. -/
def CozyLifeAccount.devices (account : CozyLifeAccount) (http : Http) (token : Str) :
    Except AccountExn (List CozyLifeDevice) := do
  let response ← account.request rt http DEVICE_LIST_PATH none (some (deviceParams token))
  raiseForRet rt response (str "device list")
  let info ← dictOr response (str "info")
  return (← SECTIONS.mapM (sectionDevices rt info)).flatten

end CozyLife.Account
