import CozyLife.Api.Account
import Mathlib.Data.List.TakeWhile

namespace CozyLife.Account
open Python

/-! ### What a call raises -/

variable {α β : Type}

/-- What is raised, if anything is, is a `CozyLifeError`. -/
def Reports (r : Except AccountExn α) : Prop := ∀ e, r = .error e → e.isCozyLife = true

/-- What is raised, if anything is, is none. -/
def Unreported (r : Except AccountExn α) : Prop := ∀ e, r = .error e → e.isCozyLife = false

section Outcomes

variable {r : Except AccountExn α} {f : α → Except AccountExn β}

theorem reports_ok (a : α) : Reports (.ok a) := by
  intro e h
  cases h

theorem reports_error (e : AccountExn) :
    Reports (.error e : Except AccountExn α) ↔ e.isCozyLife = true := by
  constructor
  · intro h
    exact h e rfl
  · intro h e' he
    cases he
    exact h

theorem unreported_ok (a : α) : Unreported (.ok a) := by
  intro e h
  cases h

theorem unreported_error (e : AccountExn) (h : e.isCozyLife = false) :
    Unreported (.error e : Except AccountExn α) := by
  intro e' he
  cases he
  exact h

theorem reports_bind : Reports (r >>= f) ↔ Reports r ∧ ∀ a, r = .ok a → Reports (f a) := by
  cases r with
  | error e =>
    rw [reports_error, and_iff_left (fun a h => by cases h)]
    exact reports_error e
  | ok a =>
    constructor
    · intro h
      refine ⟨reports_ok a, ?_⟩
      intro a' ha
      cases ha
      exact h
    · intro h
      exact h.2 a rfl

theorem reports_map (g : α → β) : Reports (r >>= fun a => pure (g a)) ↔ Reports r := by
  rw [reports_bind]
  exact and_iff_left (fun a _ => reports_ok _)

theorem Unreported.bind (hr : Unreported r) (hf : ∀ a, Unreported (f a)) :
    Unreported (r >>= f) := by
  cases r with
  | error e => exact fun e' he => hr e' (by cases he; rfl)
  | ok a => exact hf a

/-- Without an error to report, only a call that returns has nothing unreported. -/
theorem Unreported.returns (h : Unreported r) (hr : Reports r) : ∃ a, r = .ok a := by
  cases r with
  | error e => exact absurd (hr e rfl) (by rw [h e rfl]; decide)
  | ok a => exact ⟨a, rfl⟩

theorem unreported_mapM {f : α → Except AccountExn β} (hf : ∀ a, Unreported (f a)) (l : List α) :
    Unreported (l.mapM f) := by
  induction l with
  | nil => exact unreported_ok _
  | cons a l ih =>
    rw [List.mapM_cons]
    apply (hf a).bind
    intro b
    apply ih.bind
    intro bs
    exact unreported_ok _

theorem reports_mapM {f : α → Except AccountExn β} (hf : ∀ a, Unreported (f a)) (l : List α) :
    Reports (l.mapM f) ↔ ∀ a ∈ l, Reports (f a) := by
  induction l with
  | nil =>
    constructor
    · intro _ a ha
      cases ha
    · intro _
      exact reports_ok _
  | cons a l ih =>
    rw [List.mapM_cons, List.forall_mem_cons, ← ih, reports_bind]
    constructor
    · intro h
      obtain ⟨ha, hl⟩ := h
      obtain ⟨b, hb⟩ := (hf a).returns ha
      exact ⟨ha, (reports_bind.mp (hl b hb)).1⟩
    · intro h
      refine ⟨h.1, ?_⟩
      intro b _
      exact reports_bind.mpr ⟨h.2, fun bs _ => reports_ok _⟩

end Outcomes

/-! ### Requests -/

/-- No field holds a lone surrogate. -/
def Encodable (fields : List (Str × Str)) : Prop :=
  ∀ field ∈ fields, field.1.any isSurrogate = false ∧ field.2.any isSurrogate = false

theorem quotePlus_isSome (s : Str) : (∃ t, quotePlus s = some t) ↔ s.any isSurrogate = false := by
  unfold quotePlus encodeUtf8
  cases s.any isSurrogate <;> simp

theorem quoteField_isSome (field : Str × Str) : (∃ t, quoteField field = some t) ↔
    field.1.any isSurrogate = false ∧ field.2.any isSurrogate = false := by
  rw [← quotePlus_isSome, ← quotePlus_isSome]
  unfold quoteField
  cases quotePlus field.1 <;> cases quotePlus field.2 <;> simp

theorem urlencode_isSome (fields : List (Str × Str)) :
    (∃ text, urlencode fields = some text) ↔ Encodable fields := by
  have hparts : (∃ parts, fields.mapM quoteField = some parts) ↔ Encodable fields := by
    induction fields with
    | nil => simp [Encodable]
    | cons field fields ih =>
      unfold Encodable at ih ⊢
      rw [List.forall_mem_cons, ← ih, ← quoteField_isSome, List.mapM_cons]
      cases quoteField field <;> cases fields.mapM quoteField <;> simp
  rw [← hparts]
  unfold urlencode
  cases fields.mapM quoteField <;> simp

theorem reports_encodeFields (fields : List (Str × Str)) :
    Reports (encodeFields fields) ↔ Encodable fields := by
  rw [← urlencode_isSome]
  unfold encodeFields
  cases h : urlencode fields with
  | none => simp [reports_error, AccountExn.isCozyLife]
  | some text => simp [reports_ok]

section Requests

variable (rt : Runtime) (account : CozyLifeAccount) (path : Str)

/-- The HTTP layer ends in a way `_request` has a handler for. -/
def Known : HttpOutcome → Prop
  | .os => False
  | .httpException => False
  | .body raw => ∀ e, loads rt.toInterpreter (decodeReplace raw) = .error e → e = .decode
  | _ => True

/-- The body is this JSON object. -/
def Answered (outcome : HttpOutcome) (response : Dict Json) : Prop :=
  ∃ raw, outcome = .body raw ∧ loads rt.toInterpreter (decodeReplace raw) = .ok (.obj response)

theorem reports_conclude (outcome : HttpOutcome) :
    Reports (conclude rt path outcome) ↔ Known rt outcome := by
  cases outcome with
  | httpError code =>
    simp only [conclude, Known, iff_true]
    split <;> exact (reports_error _).mpr rfl
  | urlError reason => exact iff_of_true ((reports_error _).mpr rfl) trivial
  | os => simp [conclude, Known, reports_error, AccountExn.isCozyLife]
  | httpException => simp [conclude, Known, reports_error, AccountExn.isCozyLife]
  | body raw =>
    simp only [conclude, decodeBody, Known]
    rcases loads rt.toInterpreter (decodeReplace raw) with (_ | _ | _) | (_ | _ | _ | _ | _ | _ | _) <;>
      simp [reports_error, reports_ok, AccountExn.isCozyLife]

theorem conclude_ok (outcome : HttpOutcome) (response : Dict Json) :
    conclude rt path outcome = .ok response ↔ Answered rt outcome response := by
  unfold Answered
  cases outcome with
  | httpError code =>
    simp only [conclude]
    split <;> simp
  | urlError reason => simp [conclude]
  | os => simp [conclude]
  | httpException => simp [conclude]
  | body raw =>
    simp only [conclude, decodeBody, HttpOutcome.body.injEq, exists_eq_left']
    rcases loads rt.toInterpreter (decodeReplace raw) with (_ | _ | _) | (_ | _ | _ | _ | _ | _ | _) <;>
      simp

/-- The URL of a call has a scheme, as every URL under `API_BASE` has. -/
def Addressed (params : Option (List (Str × Str))) : Prop :=
  ∀ url, account.url path params = .ok url → hasScheme url = true

/-- What ends `prepare`: the request goes out if its URL has a scheme. -/
theorem reports_schemed (url : Str) (request : HttpRequest) :
    Reports (if hasScheme url then pure request else throw .value : Except AccountExn HttpRequest) ↔
      hasScheme url = true := by
  cases hasScheme url with
  | true => exact iff_of_true (reports_ok request) rfl
  | false =>
    apply iff_of_false
    · intro h
      exact absurd ((reports_error _).mp h) (by decide)
    · decide

/-- A request for a form, or one with parameters, that can be encoded. -/
theorem prepare_form (form : List (Str × Str)) :
    Reports (account.prepare path (some form) none) ↔
      Encodable form ∧ Addressed account path none := by
  simp only [CozyLifeAccount.prepare, Addressed, CozyLifeAccount.url, pure_bind]
  rw [reports_bind, reports_encodeFields]
  apply and_congr_right
  intro hform
  obtain ⟨text, ht⟩ := (urlencode_isSome form).mpr hform
  simp only [encodeFields, ht, Except.ok.injEq, forall_eq']
  refine (reports_schemed _ _).trans ?_
  simp [pure, Except.pure]

theorem prepare_params (params : List (Str × Str)) (h : params ≠ []) :
    Reports (account.prepare path none (some params)) ↔
      Encodable params ∧ Addressed account path (some params) := by
  cases params with
  | nil => exact absurd rfl h
  | cons p ps =>
    simp only [CozyLifeAccount.prepare, Addressed, CozyLifeAccount.url, pure_bind, bind_assoc]
    rw [reports_bind, reports_encodeFields]
    apply and_congr_right
    intro hparams
    obtain ⟨text, ht⟩ := (urlencode_isSome (p :: ps)).mpr hparams
    simp only [encodeFields, ht, Except.ok.injEq, forall_eq']
    refine (reports_schemed _ _).trans ?_
    simp [pure, Except.pure, bind, Except.bind]

/-- Cutting blanks off the end leaves a scheme at the front. -/
theorem strip_https (rest : Str) : ∃ rest', strip (str "https:" ++ rest) = str "https:" ++ rest' := by
  have hfront : (str "https:" ++ rest).dropWhile isSpace = str "https:" ++ rest := rfl
  rw [strip, hfront, List.reverse_append, List.dropWhile_append]
  split
  · exact ⟨[], by decide⟩
  · exact ⟨(rest.reverse.dropWhile isSpace).reverse, by
      rw [List.reverse_append, List.reverse_reverse]⟩

/-- So does cutting a fragment off. -/
theorem withoutFragment_https (rest : Str) :
    ∃ rest', withoutFragment (str "https:" ++ rest) = str "https:" ++ rest' := by
  unfold withoutFragment
  split
  · rename_i htag
    have hrest : ofChar '#' ∈ rest := by
      rcases List.mem_append.mp htag with h | h
      · exact absurd h (by decide)
      · exact h
    have hne : rest.reverse.dropWhile (fun c => c ≠ ofChar '#') ≠ [] := by
      intro h
      have hall := List.dropWhile_eq_nil_iff.mp h _ (List.mem_reverse.mpr hrest)
      simp at hall
    obtain ⟨c, cs, hcs⟩ := List.exists_cons_of_ne_nil hne
    refine ⟨cs.reverse, ?_⟩
    rw [List.reverse_append, List.dropWhile_append, hcs]
    simp
  · exact ⟨rest, rfl⟩

theorem hasScheme_https (rest : Str) : hasScheme (str "https:" ++ rest) = true := by
  obtain ⟨stripped, hs⟩ := strip_https rest
  obtain ⟨rest', hf⟩ := withoutFragment_https stripped
  have hunwrap : unwrap (str "https:" ++ rest) = str "https:" ++ stripped := by
    rw [unwrap, hs]
    rfl
  rw [hasScheme, hunwrap, hf]
  rfl

/-- Every URL under `API_BASE` has a scheme. -/
theorem addressed_api (timeout : ℚ) (path : Str) (params : Option (List (Str × Str))) :
    Addressed (new API_BASE timeout) path params := by
  have hbase : (new API_BASE timeout).baseUrl = str "https:" ++ str "//api-us.doiting.com" := rfl
  intro url hurl
  suffices h : ∃ rest, url = str "https:" ++ rest by
    obtain ⟨rest, rfl⟩ := h
    exact hasScheme_https rest
  unfold CozyLifeAccount.url at hurl
  rw [hbase] at hurl
  split at hurl
  · rename_i p ps
    cases he : encodeFields (p :: ps) with
    | error e => rw [he] at hurl; cases hurl
    | ok text => rw [he] at hurl; cases hurl; exact ⟨_, by simp only [List.append_assoc]; rfl⟩
  · cases hurl
    exact ⟨_, List.append_assoc _ _ _⟩
end Requests

/-! ### Values -/

section Values

variable (rt : Runtime)

/-- `int` reads the value. -/
def Numeric : Json → Prop
  | .bool _ => True
  | .int _ => True
  | .float (.finite _ _ _) => True
  | .str s => ∃ n, rt.intOfText s = some n
  | _ => False

/-- The value under a key is missing or false, or else it is a dict with this property. -/
def DictOr (d : Dict Json) (key : Str) (P : Dict Json → Prop) : Prop :=
  ∀ value, Dict.getTruthy d key = some value → ∃ fields, value = .obj fields ∧ P fields

/-- `str` prints the value. -/
def Prints (value : Json) : Prop := ∃ text, rt.text value = some text

/-- The value under a key is missing or false, or else `str` prints it. -/
def PrintsAt (d : Dict Json) (key : Str) : Prop :=
  ∀ value, Dict.getTruthy d key = some value → Prints rt value

/-- `_parse_device` builds a device of the entry or skips it. -/
def Entry (raw : Json) : Prop :=
  ∃ fields, raw = .obj fields ∧
    ∀ deviceId, Dict.getTruthy fields (str "device_id") = some deviceId →
    ∀ deviceKey, Dict.getTruthy fields (str "device_key") = some deviceKey →
    Prints rt deviceId ∧ Prints rt deviceKey ∧ PrintsAt rt fields (str "device_name") ∧
      PrintsAt rt fields (str "ip") ∧
      ∀ port, Dict.getTruthy fields (str "port") = some port → Numeric rt port

/-- A `list` that is missing or false, or else a list of such entries. -/
def Entries (content : Dict Json) : Prop :=
  ∀ value, Dict.getTruthy content (str "list") = some value →
    ∃ items, value = .arr items ∧ ∀ raw ∈ items, Entry rt raw

variable {rt}

theorem unreported_asDict (value : Json) : Unreported (asDict value) := by
  cases value with
  | obj fields => exact unreported_ok fields
  | _ => exact unreported_error _ rfl

theorem reports_asDict (value : Json) : Reports (asDict value) ↔ ∃ fields, value = .obj fields := by
  cases value <;> simp [asDict, reports_error, reports_ok, AccountExn.isCozyLife]

theorem unreported_dictOr (d : Dict Json) (key : Str) : Unreported (dictOr d key) := by
  unfold dictOr
  cases Dict.getTruthy d key with
  | none => exact unreported_ok []
  | some value => exact unreported_asDict value

/-- What comes after a look into a dict that may be missing. -/
theorem reports_dictOr (d : Dict Json) (key : Str) {f : Dict Json → Except AccountExn α}
    {P : Dict Json → Prop} (hf : ∀ fields, Reports (f fields) ↔ P fields) (hempty : P []) :
    Reports (dictOr d key >>= f) ↔ DictOr d key P := by
  unfold dictOr DictOr
  cases Dict.getTruthy d key with
  | none =>
    apply iff_of_true
    · exact (hf []).mpr hempty
    · intro value h
      cases h
  | some value =>
    rw [reports_bind, reports_asDict]
    constructor
    · intro h value' hv
      cases hv
      obtain ⟨⟨fields, rfl⟩, hrest⟩ := h
      exact ⟨fields, rfl, (hf fields).mp (hrest fields rfl)⟩
    · intro h
      obtain ⟨fields, rfl, hP⟩ := h value rfl
      refine ⟨⟨fields, rfl⟩, ?_⟩
      intro fields' he
      cases he
      exact (hf fields).mpr hP

/-- `int` turns exactly these values into a number. -/
theorem int_numeric (value : Json) : (∃ n, rt.int value = .ok n) ↔ Numeric rt value := by
  cases value with
  | float x => cases x <;> simp [Runtime.int, Numeric]
  | str s =>
    simp only [Runtime.int, Numeric]
    cases rt.intOfText s <;> simp
  | _ => simp [Runtime.int, Numeric]

/-- What `int` raises, among all that a call on the account can raise. -/
def ofConversion : ConversionError → AccountExn
  | .type => .type
  | .value => .value
  | .overflow => .overflow

theorem intOf_int (value : Json) : intOf rt value = (rt.int value).mapError ofConversion := by
  cases value with
  | float x => cases x <;> rfl
  | str s =>
    simp only [intOf, Runtime.int]
    cases rt.intOfText s <;> rfl
  | _ => rfl

theorem unreported_intOf (value : Json) : Unreported (intOf rt value) := by
  rw [intOf_int]
  cases rt.int value with
  | ok n => exact unreported_ok n
  | error e => cases e <;> exact unreported_error _ rfl

theorem reports_intOf (value : Json) : Reports (intOf rt value) ↔ Numeric rt value := by
  rw [intOf_int, ← int_numeric]
  cases rt.int value with
  | ok n => exact iff_of_true (reports_ok n) ⟨n, rfl⟩
  | error e =>
    refine iff_of_false ?_ (by simp)
    cases e <;> simp [Except.mapError, reports_error, ofConversion, AccountExn.isCozyLife]

theorem unreported_textOf (value : Json) : Unreported (textOf rt value) := by
  unfold textOf
  cases rt.text value with
  | some text => exact unreported_ok text
  | none => exact unreported_error _ rfl

theorem reports_textOf (value : Json) : Reports (textOf rt value) ↔ Prints rt value := by
  unfold textOf Prints
  cases rt.text value with
  | some text => exact iff_of_true (reports_ok text) ⟨text, rfl⟩
  | none => simp [reports_error, AccountExn.isCozyLife]

theorem unreported_textOr (d : Dict Json) (key default : Str) :
    Unreported (textOr rt d key default) := by
  unfold textOr
  cases Dict.getTruthy d key with
  | some value => exact unreported_textOf value
  | none => exact unreported_ok default

theorem reports_textOr (d : Dict Json) (key default : Str) :
    Reports (textOr rt d key default) ↔ PrintsAt rt d key := by
  unfold textOr PrintsAt
  cases Dict.getTruthy d key with
  | some value => simp [reports_textOf]
  | none => simp [reports_ok]

theorem unreported_parseDevice (raw : Json) : Unreported (parseDevice rt raw) := by
  apply (unreported_asDict raw).bind
  intro fields
  cases Dict.getTruthy fields (str "device_id") with
  | none => exact unreported_ok none
  | some deviceId =>
    cases Dict.getTruthy fields (str "device_key") with
    | none => exact unreported_ok none
    | some deviceKey =>
      apply (unreported_textOf deviceId).bind
      intro id
      apply (unreported_textOf deviceKey).bind
      intro key
      apply (unreported_textOr fields _ id).bind
      intro name
      apply (unreported_textOr fields _ []).bind
      intro host
      apply (unreported_intOf _).bind
      intro port
      exact unreported_ok _

/-- A value that is printed, of which the text makes no difference to what else goes wrong. -/
theorem Unreported.reports_bind {r : Except AccountExn α} {f : α → Except AccountExn β} {P : Prop}
    (hr : Unreported r) (hf : ∀ a, Reports (f a) ↔ P) : Reports (r >>= f) ↔ Reports r ∧ P := by
  rw [Account.reports_bind]
  apply and_congr_right
  intro h
  obtain ⟨a, rfl⟩ := hr.returns h
  constructor
  · intro hall
    exact (hf a).mp (hall a rfl)
  · intro hP a' _
    exact (hf a').mpr hP

/-- What `_parse_device` asks of the port of an entry. -/
theorem reports_port (fields : Dict Json) :
    Reports (intOf rt ((Dict.getTruthy fields (str "port")).getD (.int 0))) ↔
      ∀ port, Dict.getTruthy fields (str "port") = some port → Numeric rt port := by
  rw [reports_intOf]
  cases Dict.getTruthy fields (str "port") with
  | none => simp [Numeric]
  | some port => simp

theorem reports_parseDevice (raw : Json) : Reports (parseDevice rt raw) ↔ Entry rt raw := by
  unfold Entry
  rw [parseDevice, reports_bind, reports_asDict, ← exists_and_right]
  apply exists_congr
  intro fields
  apply and_congr_right
  rintro rfl
  simp only [asDict, Except.ok.injEq, forall_eq']
  cases hid : Dict.getTruthy fields (str "device_id") with
  | none => simp [reports_ok, pure, Except.pure]
  | some deviceId =>
    cases hkey : Dict.getTruthy fields (str "device_key") with
    | none => simp [reports_ok, pure, Except.pure]
    | some deviceKey =>
      simp only [Option.some.injEq, forall_eq', ← reports_textOf]
      apply (unreported_textOf deviceId).reports_bind
      intro id
      apply (unreported_textOf deviceKey).reports_bind
      intro key
      rw [← reports_textOr fields (str "device_name") id]
      apply (unreported_textOr fields _ id).reports_bind
      intro name
      rw [← reports_textOr fields (str "ip") []]
      apply (unreported_textOr fields _ []).reports_bind
      intro host
      rw [reports_map, reports_port]

/-- The value of `d.get(key) or ...` is not a false one. -/
theorem getTruthy_truthy {d : Dict Json} {key : Str} {value : Json}
    (h : Dict.getTruthy d key = some value) : value.truthy = true :=
  (Option.filter_eq_some_iff.mp h).2

/-- A string and a dict give strings to the loop, which are no entries. -/
theorem reports_iterate (value : Json) (htruthy : value.truthy = true) :
    Reports (iterate value >>= fun items => items.mapM (parseDevice rt)) ↔
      ∃ items, value = .arr items ∧ ∀ raw ∈ items, Entry rt raw := by
  have hitems : ∀ items : List Json, Reports (items.mapM (parseDevice rt)) ↔
      ∀ raw ∈ items, Entry rt raw := by
    intro items
    rw [reports_mapM unreported_parseDevice]
    simp only [reports_parseDevice]
  have hstr : ∀ s, ¬ Entry rt (.str s) := by
    intro s h
    obtain ⟨fields, he, -⟩ := h
    cases he
  cases value with
  | arr items =>
    refine (hitems items).trans ?_
    simp
  | obj fields =>
    apply iff_of_false
    · intro h
      cases fields with
      | nil => cases htruthy
      | cons p fields => exact hstr p.1 ((hitems _).mp h (.str p.1) (by simp))
    · simp
  | str s =>
    apply iff_of_false
    · intro h
      cases s with
      | nil => cases htruthy
      | cons c s => exact hstr [c] ((hitems _).mp h (.str [c]) (by simp))
    · simp
  | _ =>
    apply iff_of_false
    · intro h
      exact absurd ((reports_bind.mp h).1 _ rfl) (by decide)
    · simp

theorem unreported_sectionDevices (info : Dict Json) (name : Str) :
    Unreported (sectionDevices rt info name) := by
  have hdevices : ∀ items : List Json, Unreported (do
      return (← items.mapM (parseDevice rt)).filterMap id) := by
    intro items
    apply (unreported_mapM unreported_parseDevice items).bind
    intro devices
    exact unreported_ok _
  apply (unreported_dictOr info name).bind
  intro content
  cases Dict.getTruthy content (str "list") with
  | none => exact hdevices []
  | some value =>
    apply Unreported.bind
    · cases value <;> first | exact unreported_ok _ | exact unreported_error _ rfl
    · exact hdevices

theorem reports_sectionDevices (info : Dict Json) (name : Str) :
    Reports (sectionDevices rt info name) ↔ DictOr info name (Entries rt) := by
  apply reports_dictOr
  · intro content
    unfold Entries
    cases hlist : Dict.getTruthy content (str "list") with
    | none =>
      apply iff_of_true
      · exact reports_ok _
      · intro value h
        cases h
    | some value =>
      simp only
      rw [← bind_assoc, reports_map, reports_iterate value (getTruthy_truthy hlist)]
      simp
  · intro value h
    cases h

end Values

/-! ### Calls -/

section Calls

variable (rt : Runtime)

/-- The API says that the request succeeded. -/
def Succeeds (response : Dict Json) : Prop :=
  rt.text ((response.get (str "ret")).getD (.str [])) = some (str "1")

/-- What the API says of a request that did not succeed can be put into words. -/
def Worded (response : Dict Json) : Prop :=
  Prints rt ((response.get (str "ret")).getD (.str [])) ∧
  (¬ Succeeds rt response → PrintsAt rt response (str "desc"))

theorem reports_raiseForRet (response : Dict Json) (context : Str) :
    Reports (raiseForRet rt response context) ↔ Worded rt response := by
  unfold raiseForRet Worded Succeeds
  rw [reports_bind, reports_textOf]
  apply and_congr_right
  rintro ⟨ret, ht⟩
  simp only [textOf, ht, Except.ok.injEq, forall_eq', Option.some.injEq]
  split
  · rename_i hret
    exact iff_of_true (reports_ok ()) (fun h => absurd hret h)
  · rename_i hret
    rw [reports_bind, reports_textOr, forall_prop_of_true hret]
    apply and_iff_left
    intro description _
    split
    · exact (reports_error _).mpr rfl
    · split <;> exact (reports_error _).mpr rfl

theorem raiseForRet_ok (response : Dict Json) (context : Str) :
    raiseForRet rt response context = .ok () ↔ Succeeds rt response := by
  unfold raiseForRet Succeeds
  simp only [textOf]
  cases rt.text ((response.get (str "ret")).getD (.str [])) with
  | none => simp [bind, Except.bind]
  | some ret =>
    simp only [bind, Except.bind, Option.some.injEq]
    by_cases hret : ret = str "1"
    · simp [hret, pure, Except.pure]
    · simp only [hret, ↓reduceIte, iff_false]
      cases textOr rt response (str "desc") [] with
      | error e => simp
      | ok description =>
        simp only
        split
        · intro h
          cases h
        · split <;> (intro h; cases h)

/-- The HTTP layer ends in a way there is a handler for, what the API answers can be put into words,
and a response that reports success has this property. -/
structure Sound (outcome : HttpOutcome) (P : Dict Json → Prop) : Prop where
  known : Known rt outcome
  worded : ∀ response, Answered rt outcome response → Worded rt response
  shaped : ∀ response, Answered rt outcome response → Succeeds rt response → P response

variable {rt}

/-- A call reports what goes wrong exactly when its fields can be encoded and the exchange is sound
for what the call does with the response. -/
theorem reports_call {account : CozyLifeAccount} {http : Http} {path context : Str}
    {form params : Option (List (Str × Str))} {f : Dict Json → Except AccountExn α}
    {P : Dict Json → Prop} {E : Prop} (hprepare : Reports (account.prepare path form params) ↔ E)
    (hf : ∀ response, Reports (f response) ↔ P response) :
    Reports (do
      let response ← account.request rt http path form params
      raiseForRet rt response context
      f response) ↔
    E ∧ ∀ request, account.prepare path form params = .ok request →
      Sound rt (http request account.timeout) P := by
  unfold CozyLifeAccount.request
  rw [bind_assoc, reports_bind, hprepare]
  apply and_congr_right
  intro _
  apply forall_congr'
  intro request
  apply imp_congr_right
  intro _
  rw [reports_bind, reports_conclude]
  constructor
  · intro h
    have hrest : ∀ response, Answered rt _ response → _ :=
      fun response hanswer => h.2 response ((conclude_ok rt path _ response).mpr hanswer)
    refine ⟨h.1, ?_, ?_⟩
    · intro response hanswer
      exact (reports_raiseForRet rt response context).mp (reports_bind.mp (hrest response hanswer)).1
    · intro response hanswer hsucceeds
      apply (hf response).mp
      exact (reports_bind.mp (hrest response hanswer)).2 ()
        ((raiseForRet_ok rt response context).mpr hsucceeds)
  · intro h
    refine ⟨h.known, ?_⟩
    intro response hok
    have hanswer := (conclude_ok rt path _ response).mp hok
    rw [reports_bind]
    refine ⟨(reports_raiseForRet rt response context).mpr (h.worded response hanswer), ?_⟩
    intro _ hsucceeds
    apply (hf response).mpr
    exact h.shaped response hanswer ((raiseForRet_ok rt response context).mp hsucceeds)

/-- What `devices` needs of the `info` of a response. -/
def Sections (rt : Runtime) (info : Dict Json) : Prop :=
  ∀ name ∈ SECTIONS, DictOr info name (Entries rt)

variable (rt)

/-- A call on the account raises nothing but `CozyLifeError` exactly when no field it sends holds a
lone surrogate, its URL has a scheme, the HTTP layer ends in a handled way, and the response can be
printed where the call prints it and, if successful, has the shape the call goes on to read. -/
theorem account_reports_iff (account : CozyLifeAccount) (http : Http) :
    (∀ email password imei coordinates,
      Reports (account.login rt http email password imei coordinates) ↔
        (Encodable (loginForm rt email password imei coordinates) ∧
          Addressed account LOGIN_PATH none) ∧
        ∀ request, account.prepare LOGIN_PATH
            (some (loginForm rt email password imei coordinates)) none = .ok request →
          Sound rt (http request account.timeout)
            (fun response => DictOr response (str "info")
              (fun info => PrintsAt rt info (str "token")))) ∧
    ∀ token, Reports (account.devices rt http token) ↔
      (Encodable (deviceParams token) ∧
        Addressed account DEVICE_LIST_PATH (some (deviceParams token))) ∧
      ∀ request, account.prepare DEVICE_LIST_PATH none (some (deviceParams token)) = .ok request →
        Sound rt (http request account.timeout)
          (fun response => DictOr response (str "info") (Sections rt)) := by
  constructor
  · intro email password imei coordinates
    apply reports_call (prepare_form account LOGIN_PATH _)
    intro response
    apply reports_dictOr
    · intro info
      unfold PrintsAt
      cases Dict.getTruthy info (str "token") with
      | none => exact iff_of_true ((reports_error _).mpr rfl) (fun value h => by cases h)
      | some token => simp [reports_textOf]
    · intro value h
      cases h
  · intro token
    apply reports_call (prepare_params account DEVICE_LIST_PATH _ (List.cons_ne_nil _ _))
    intro response
    apply reports_dictOr
    · intro info
      rw [reports_map, reports_mapM (unreported_sectionDevices info)]
      apply forall_congr'
      intro name
      apply imp_congr_right
      intro _
      exact reports_sectionDevices info name
    · intro name _ value h
      cases h

/-- An exception leaves that the config flow does not catch. -/
def escapes (r : Except AccountExn α) : Bool :=
  match r with
  | .ok _ => false
  | .error e => !e.isCozyLife

theorem reports_iff_escapes (r : Except AccountExn α) : Reports r ↔ escapes r = false := by
  cases r with
  | ok a => exact iff_of_true (reports_ok a) rfl
  | error e => simp [reports_error, escapes]

/-- A body that takes too long, an `info` that is a list and a `port` that is no number. -/
theorem account_fails_unreported :
    ¬ Reports ((new API_BASE 20).login .plain (fun _ _ => .os) (str "a@b.de") (str "x") []
      DEFAULT_COORDINATES) ∧
    ¬ Reports ((new API_BASE 20).login .plain
      (fun _ _ => .body (ascii "\x7b\"ret\":\"1\",\"info\":[1]\x7d")) (str "a@b.de") (str "x") []
      DEFAULT_COORDINATES) ∧
    ¬ Reports ((new API_BASE 20).devices .plain (fun _ _ => .body (ascii
      ("\x7b\"ret\":1,\"info\":\x7b\"device_bind\":\x7b\"list\":[\x7b\"device_id\":\"a\"," ++
        "\"device_key\":\"k\",\"port\":\"none\"\x7d]\x7d\x7d\x7d"))) (str "token")) := by
  simp only [reports_iff_escapes]
  decide +kernel

end Calls

end CozyLife.Account
