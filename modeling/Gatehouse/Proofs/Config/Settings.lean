import Gatehouse.Config.Environment
import Gatehouse.Proofs.Path.Prefixes

/-!
# Settings and their variables

A configuration is nothing but its settings, and each of them has a variable of its own: its name is
made of the prefix, the section and the key.  Here a `Setting` is a value, with what it holds
(`Value`), where it stands in a configuration (`get`, `put`), how its variable is called (`name`)
and how the text of that variable is read (`read`).

* `ext_of_get`, `get_ofValues` — a configuration is its settings, and they can be chosen freely.
* `get_put_self`, `get_put_of_ne` — to change one setting changes no other.
* `override_name` — the variable of a setting changes that setting, if its text can be read.
* `override_of_foreign` — a variable of no setting changes nothing.
-/

set_option autoImplicit false

namespace Gatehouse
namespace Config

/-- The settings of a configuration, section by section. -/
inductive Setting where
  | listenAddr
  | pagesUrl
  | pagesTimeout
  | apiUrl
  | requestTimeout
  | ruleTimeout
  | secret
  | cookieNames
  | allowBearer
  | app
  | basePath
  | onboardingPath
  | exemptPrefixes
  | serviceName
  | logLevel
  | logFormat
  | metricsEnabled
deriving Repr, DecidableEq

namespace Setting

/-! ## Settings of a configuration -/

/-- What a setting holds. -/
def Value : Setting → Type
  | .listenAddr | .pagesUrl | .apiUrl | .secret | .onboardingPath | .serviceName | .logLevel =>
    String
  | .pagesTimeout | .requestTimeout | .ruleTimeout => Nat
  | .cookieNames | .exemptPrefixes => List String
  | .allowBearer | .metricsEnabled => Bool
  | .app => App
  | .basePath => Option String
  | .logFormat => LogFormat

/-- What a configuration has for a setting. -/
def get : (s : Setting) → Config → s.Value
  | .listenAddr, c => c.gateway.listenAddr
  | .pagesUrl, c => c.gateway.pagesUrl
  | .pagesTimeout, c => c.gateway.pagesTimeout
  | .apiUrl, c => c.backend.apiUrl
  | .requestTimeout, c => c.backend.requestTimeout
  | .ruleTimeout, c => c.backend.ruleTimeout
  | .secret, c => c.session.secret
  | .cookieNames, c => c.session.cookieNames
  | .allowBearer, c => c.session.allowBearer
  | .app, c => c.app.app
  | .basePath, c => c.app.basePath
  | .onboardingPath, c => c.app.onboardingPath
  | .exemptPrefixes, c => c.app.exemptPrefixes
  | .serviceName, c => c.telemetry.serviceName
  | .logLevel, c => c.telemetry.logLevel
  | .logFormat, c => c.telemetry.logFormat
  | .metricsEnabled, c => c.telemetry.metricsEnabled

/-- A configuration with another value for a setting. -/
def put : (s : Setting) → Config → s.Value → Config
  | .listenAddr, c, x => { c with gateway.listenAddr := x }
  | .pagesUrl, c, x => { c with gateway.pagesUrl := x }
  | .pagesTimeout, c, x => { c with gateway.pagesTimeout := x }
  | .apiUrl, c, x => { c with backend.apiUrl := x }
  | .requestTimeout, c, x => { c with backend.requestTimeout := x }
  | .ruleTimeout, c, x => { c with backend.ruleTimeout := x }
  | .secret, c, x => { c with session.secret := x }
  | .cookieNames, c, x => { c with session.cookieNames := x }
  | .allowBearer, c, x => { c with session.allowBearer := x }
  | .app, c, x => { c with app.app := x }
  | .basePath, c, x => { c with app.basePath := x }
  | .onboardingPath, c, x => { c with app.onboardingPath := x }
  | .exemptPrefixes, c, x => { c with app.exemptPrefixes := x }
  | .serviceName, c, x => { c with telemetry.serviceName := x }
  | .logLevel, c, x => { c with telemetry.logLevel := x }
  | .logFormat, c, x => { c with telemetry.logFormat := x }
  | .metricsEnabled, c, x => { c with telemetry.metricsEnabled := x }

/-- The configuration of some values, one for each setting. -/
def ofValues (values : (s : Setting) → s.Value) : Config where
  gateway := ⟨values .listenAddr, values .pagesUrl, values .pagesTimeout⟩
  backend := ⟨values .apiUrl, values .requestTimeout, values .ruleTimeout⟩
  session := ⟨values .secret, values .cookieNames, values .allowBearer⟩
  app := ⟨values .app, values .basePath, values .onboardingPath, values .exemptPrefixes⟩
  telemetry :=
    ⟨values .serviceName, values .logLevel, values .logFormat, values .metricsEnabled⟩

@[simp] theorem get_ofValues (values : (s : Setting) → s.Value) (s : Setting) :
    s.get (ofValues values) = values s := by
  cases s <;> rfl

theorem ofValues_get (c : Config) : ofValues (fun s => s.get c) = c := rfl

/-- Configurations with the same settings are the same. -/
theorem ext_of_get {c c' : Config} (h : ∀ s : Setting, s.get c = s.get c') : c = c' := by
  have hvalues : (fun s : Setting => s.get c) = fun s => s.get c' := funext h
  rw [← ofValues_get c, hvalues, ofValues_get]

@[simp] theorem get_put_self (s : Setting) (c : Config) (x : s.Value) : s.get (s.put c x) = x := by
  cases s <;> rfl

theorem get_put_of_ne {s t : Setting} (h : s ≠ t) (c : Config) (x : t.Value) :
    s.get (t.put c x) = s.get c := by
  cases t <;> cases s <;> first | rfl | exact absurd rfl h

/-! ## Variables of settings -/

/-- The section of a setting and its key in that section, as they stand in the name of a
variable. -/
def address : Setting → String × String
  | .listenAddr => ("GATEWAY", "LISTEN_ADDR")
  | .pagesUrl => ("GATEWAY", "UPSTREAM_URL")
  | .pagesTimeout => ("GATEWAY", "UPSTREAM_TIMEOUT_MS")
  | .apiUrl => ("BACKEND", "API_URL")
  | .requestTimeout => ("BACKEND", "REQUEST_TIMEOUT_MS")
  | .ruleTimeout => ("BACKEND", "RULE_TIMEOUT_MS")
  | .secret => ("SESSION", "SECRET")
  | .cookieNames => ("SESSION", "COOKIE_NAMES")
  | .allowBearer => ("SESSION", "ALLOW_BEARER")
  | .app => ("APP", "PROFILE")
  | .basePath => ("APP", "BASE_PATH")
  | .onboardingPath => ("APP", "ONBOARDING_PATH")
  | .exemptPrefixes => ("APP", "EXEMPT_PREFIXES")
  | .serviceName => ("TELEMETRY", "SERVICE_NAME")
  | .logLevel => ("TELEMETRY", "LOG_LEVEL")
  | .logFormat => ("TELEMETRY", "LOG_FORMAT")
  | .metricsEnabled => ("TELEMETRY", "METRICS_ENABLED")

/-- The name of the variable of a setting. -/
def name (s : Setting) (start : String) : String :=
  start ++ "__" ++ (s.address.1 ++ "__" ++ s.address.2)

theorem toList_name (s : Setting) (start : String) :
    (s.name start).toList =
      start.toList ++ ['_', '_'] ++ (s.address.1 ++ "__" ++ s.address.2).toList := by
  rw [name, String.toList_append, String.toList_append]
  rfl

/-- The value that the text of a variable stands for. -/
def read : (s : Setting) → (name text : String) → Except ConfigError s.Value
  | .listenAddr, _, text => .ok text
  | .pagesUrl, _, text => .ok text
  | .pagesTimeout, name, text => readNumber name text
  | .apiUrl, _, text => .ok text
  | .requestTimeout, name, text => readNumber name text
  | .ruleTimeout, name, text => readNumber name text
  | .secret, _, text => .ok text
  | .cookieNames, _, text => .ok (readList text)
  | .allowBearer, name, text => readFlag name text
  | .app, name, text => readApp name text
  | .basePath, _, text => .ok (if text.isEmpty then none else some text)
  | .onboardingPath, _, text => .ok text
  | .exemptPrefixes, _, text => .ok (readList text)
  | .serviceName, _, text => .ok text
  | .logLevel, _, text => .ok text
  | .logFormat, name, text => readFormat name text
  | .metricsEnabled, name, text => readFlag name text

/-- The settings whose variables have a text of some form: limits of time, truth values, and
words. -/
def typed : List Setting :=
  [.pagesTimeout, .requestTimeout, .ruleTimeout, .allowBearer, .app, .logFormat, .metricsEnabled]

/-- Every other setting takes any text. -/
theorem exists_read_of_not_typed {s : Setting} (h : s ∉ typed) (name text : String) :
    ∃ x, s.read name text = .ok x := by
  cases s <;> first | exact ⟨_, rfl⟩ | exact absurd (by decide) h

/-- Two settings in the same place are the same. -/
theorem address_inj {s t : Setting} (h : s.address = t.address) : s = t := by
  revert h
  cases s <;> cases t <;> decide

end Setting

/-! ## Parts of a name -/

theorem parts_ne_nil (cs : List Char) : parts cs ≠ [] := by
  fun_cases parts cs <;> simp

/-- The parts of a text make it up again. -/
theorem intercalate_parts (cs : List Char) : ['_', '_'].intercalate (parts cs) = cs := by
  fun_induction parts cs with
  | case1 => rfl
  | case2 cs ih =>
    obtain ⟨p, ps, hparts⟩ := List.exists_cons_of_ne_nil (parts_ne_nil cs)
    rw [hparts] at ih ⊢
    rw [← ih]
    rfl
  | case3 c cs h hparts ih => exact absurd hparts (parts_ne_nil cs)
  | case4 c cs h p ps hparts ih =>
    rw [hparts] at ih
    rw [← ih]
    cases ps <;> rfl

/-- A text of two parts is these two with the underscores between them. -/
theorem eq_of_parts {cs : List Char} {front behind : String}
    (h : (parts cs).map String.ofList = [front, behind]) :
    cs = (front ++ "__" ++ behind).toList := by
  obtain ⟨x, l, hx, rfl, hl⟩ := List.map_eq_cons_iff.1 h
  obtain ⟨y, l, rfl, rfl, hnil⟩ := List.map_eq_cons_iff.1 hl
  have hparts := intercalate_parts cs
  rw [hx, List.map_eq_nil_iff.1 hnil] at hparts
  simp only [← hparts, String.toList_append, String.toList_ofList]
  show x ++ (['_', '_'] ++ (y ++ [])) = x ++ ['_', '_'] ++ y
  rw [List.append_nil, List.append_assoc]

theorem parts_address (s : Setting) :
    (parts (s.address.1 ++ "__" ++ s.address.2).toList).map String.ofList =
      [s.address.1, s.address.2] := by
  cases s <;> rfl

/-- No two settings have the same variable. -/
theorem name_inj {s t : Setting} {start : String} (h : s.name start = t.name start) : s = t := by
  have hplaces := congrArg String.toList h
  rw [Setting.toList_name, Setting.toList_name] at hplaces
  have hparts := parts_address s
  rw [List.append_cancel_left hplaces, parts_address t] at hparts
  simp only [List.cons.injEq, and_true] at hparts
  exact Setting.address_inj (Prod.ext hparts.1.symm hparts.2.symm)

/-! ## What a variable changes -/

/-- **The variable of a setting changes that setting**, if its text can be read. -/
theorem override_name (start : String) (c : Config) (s : Setting) (text : String) :
    override start c (s.name start, text) = (s.read (s.name start) text).map (s.put c) := by
  have hrest : Path.afterStart? (start.toList ++ ['_', '_']) (s.name start).toList =
      some (s.address.1 ++ "__" ++ s.address.2).toList := by
    rw [Setting.toList_name]
    exact Path.afterStart?_append _ _
  rw [override, hrest]
  dsimp only
  rw [parts_address]
  cases s <;> rfl

section Foreign

variable {c : Config} {name key value : String}

theorem setGateway_of_foreign (h : ∀ s : Setting, s.address ≠ ("GATEWAY", key)) :
    c.setGateway name key value = .ok c := by
  unfold setGateway
  split
  · exact absurd rfl (h .listenAddr)
  · exact absurd rfl (h .pagesUrl)
  · exact absurd rfl (h .pagesTimeout)
  · rfl

theorem setBackend_of_foreign (h : ∀ s : Setting, s.address ≠ ("BACKEND", key)) :
    c.setBackend name key value = .ok c := by
  unfold setBackend
  split
  · exact absurd rfl (h .apiUrl)
  · exact absurd rfl (h .requestTimeout)
  · exact absurd rfl (h .ruleTimeout)
  · rfl

theorem setSession_of_foreign (h : ∀ s : Setting, s.address ≠ ("SESSION", key)) :
    c.setSession name key value = .ok c := by
  unfold setSession
  split
  · exact absurd rfl (h .secret)
  · exact absurd rfl (h .cookieNames)
  · exact absurd rfl (h .allowBearer)
  · rfl

theorem setApp_of_foreign (h : ∀ s : Setting, s.address ≠ ("APP", key)) :
    c.setApp name key value = .ok c := by
  unfold setApp
  split
  · exact absurd rfl (h .app)
  · exact absurd rfl (h .basePath)
  · exact absurd rfl (h .onboardingPath)
  · exact absurd rfl (h .exemptPrefixes)
  · rfl

theorem setTelemetry_of_foreign (h : ∀ s : Setting, s.address ≠ ("TELEMETRY", key)) :
    c.setTelemetry name key value = .ok c := by
  unfold setTelemetry
  split
  · exact absurd rfl (h .serviceName)
  · exact absurd rfl (h .logLevel)
  · exact absurd rfl (h .logFormat)
  · exact absurd rfl (h .metricsEnabled)
  · rfl

end Foreign

/-- **The variable of no setting changes nothing.** -/
theorem override_of_foreign {start : String} {c : Config} {v : String × String}
    (hnext : (start.toList ++ ['_', '_']) <+: v.1.toList)
    (hforeign : ∀ s : Setting, v.1 ≠ s.name start) : override start c v = .ok c := by
  obtain ⟨rest, hrest⟩ := hnext
  -- a variable with the section and the key of a setting would be that of the setting
  have haddress {front key : String} (hparts : (parts rest).map String.ofList = [front, key])
      (s : Setting) : s.address ≠ (front, key) := by
    intro hs
    refine hforeign s (String.toList_inj.1 ?_)
    rw [← hrest, eq_of_parts hparts, Setting.toList_name, hs]
  rw [override, ← hrest, Path.afterStart?_append]
  dsimp only
  split
  · next key hparts => exact setGateway_of_foreign (haddress hparts)
  · next key hparts => exact setBackend_of_foreign (haddress hparts)
  · next key hparts => exact setSession_of_foreign (haddress hparts)
  · next key hparts => exact setApp_of_foreign (haddress hparts)
  · next key hparts => exact setTelemetry_of_foreign (haddress hparts)
  · rfl

end Config
end Gatehouse
