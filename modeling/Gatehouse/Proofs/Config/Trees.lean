import Gatehouse.Config.Record
import Gatehouse.Proofs.Config.Settings
import Gatehouse.Proofs.Json.Layouts

/-!
# What a tree says about settings

A configuration is read from a tree section by section and setting by setting, each setting under a
key of its own.  Here a setting knows its section and its key, and how its values are read and
written; then all that reading does is said in one sentence for every setting at once.

* `Setting.valueIn?` — what a tree says about a setting, if it mentions it.
* `ofJson?_eq_some_iff` — a tree is read just if it and its sections are records, and then every
  setting is what the tree says, or has its default.
* `Setting.ofJson?_toJson` — the value of a setting reads back as it was written.
-/

set_option autoImplicit false

namespace Gatehouse
namespace Config

open Json (Source)

/-! ## Places -/

/-- The sections of a configuration. -/
inductive Section where
  | gateway
  | backend
  | session
  | app
  | telemetry
deriving Repr, DecidableEq

namespace Section

/-- The key of a section. -/
def key : Section → String
  | .gateway => "gateway"
  | .backend => "backend"
  | .session => "session"
  | .app => "app"
  | .telemetry => "telemetry"

/-- The sections in their order. -/
def all : List Section :=
  [.gateway, .backend, .session, .app, .telemetry]

/-- The keys of the sections in their order. -/
def keys : List String :=
  all.map key

/-- The settings of a section in their order. -/
def settings : Section → List Setting
  | .gateway => [.listenAddr, .pagesUrl, .pagesTimeout]
  | .backend => [.apiUrl, .requestTimeout, .ruleTimeout]
  | .session => [.secret, .cookieNames, .allowBearer]
  | .app => [.app, .basePath, .onboardingPath, .exemptPrefixes]
  | .telemetry => [.serviceName, .logLevel, .logFormat, .metricsEnabled]

end Section

namespace Setting

/-- The section of a setting. -/
def home : Setting → Section
  | .listenAddr | .pagesUrl | .pagesTimeout => .gateway
  | .apiUrl | .requestTimeout | .ruleTimeout => .backend
  | .secret | .cookieNames | .allowBearer => .session
  | .app | .basePath | .onboardingPath | .exemptPrefixes => .app
  | .serviceName | .logLevel | .logFormat | .metricsEnabled => .telemetry

/-- The key of a setting in its section. -/
def key : Setting → String
  | .listenAddr => "listen_addr"
  | .pagesUrl => "upstream_url"
  | .pagesTimeout => "upstream_timeout_ms"
  | .apiUrl => "api_url"
  | .requestTimeout => "request_timeout_ms"
  | .ruleTimeout => "rule_timeout_ms"
  | .secret => "secret"
  | .cookieNames => "cookie_names"
  | .allowBearer => "allow_bearer"
  | .app => "profile"
  | .basePath => "base_path"
  | .onboardingPath => "onboarding_path"
  | .exemptPrefixes => "exempt_prefixes"
  | .serviceName => "service_name"
  | .logLevel => "log_level"
  | .logFormat => "log_format"
  | .metricsEnabled => "metrics_enabled"

theorem mem_settings (s : Setting) : s ∈ s.home.settings := by
  cases s <;> decide

theorem home_of_mem {s : Setting} {place : Section} (h : s ∈ place.settings) :
    s.home = place := by
  revert h
  cases place <;> cases s <;> decide

/-! ## Values -/

instance decidableEqValue : (s : Setting) → DecidableEq s.Value
  | .listenAddr | .pagesUrl | .apiUrl | .secret | .onboardingPath | .serviceName | .logLevel =>
    inferInstanceAs (DecidableEq String)
  | .pagesTimeout | .requestTimeout | .ruleTimeout => inferInstanceAs (DecidableEq Nat)
  | .cookieNames | .exemptPrefixes => inferInstanceAs (DecidableEq (List String))
  | .allowBearer | .metricsEnabled => inferInstanceAs (DecidableEq Bool)
  | .app => inferInstanceAs (DecidableEq App)
  | .basePath => inferInstanceAs (DecidableEq (Option String))
  | .logFormat => inferInstanceAs (DecidableEq LogFormat)

/-- The value that a tree stands for. -/
def ofJson? (source : Source) : (s : Setting) → Json → Option s.Value
  | .listenAddr | .pagesUrl | .apiUrl | .secret | .onboardingPath | .serviceName | .logLevel =>
    Json.text?
  | .pagesTimeout | .requestTimeout | .ruleTimeout => Json.word64?
  | .cookieNames | .exemptPrefixes => Json.texts?
  | .allowBearer | .metricsEnabled => Json.bool?
  | .app => fun v => (Json.vocabulary? source v : Option App)
  | .basePath => Json.nullable? Json.text?
  | .logFormat => fun v => (Json.vocabulary? source v : Option LogFormat)

/-- A value as a tree. -/
def toJson : (s : Setting) → s.Value → Json
  | .listenAddr | .pagesUrl | .apiUrl | .secret | .onboardingPath | .serviceName | .logLevel =>
    Json.str
  | .pagesTimeout | .requestTimeout | .ruleTimeout => Json.nat
  | .cookieNames | .exemptPrefixes => textsToJson
  | .allowBearer | .metricsEnabled => Json.bool
  | .app => fun (app : App) => Vocabulary.toJson app
  | .basePath => Json.ofOption Json.str
  | .logFormat => fun (format : LogFormat) => Vocabulary.toJson format

/-- A number fits in 64 bits. -/
def Fits : (s : Setting) → s.Value → Prop
  | .pagesTimeout | .requestTimeout | .ruleTimeout => fun (n : Nat) => n ≤ Json.maxWord
  | _ => fun _ => True

instance decidableFits : (s : Setting) → (x : s.Value) → Decidable (s.Fits x)
  | .pagesTimeout, n | .requestTimeout, n | .ruleTimeout, n => Nat.decLe n Json.maxWord
  | .listenAddr, _ | .pagesUrl, _ | .apiUrl, _ | .secret, _ | .cookieNames, _ | .allowBearer, _
  | .app, _ | .basePath, _ | .onboardingPath, _ | .exemptPrefixes, _ | .serviceName, _
  | .logLevel, _ | .logFormat, _ | .metricsEnabled, _ => .isTrue trivial

theorem texts?_textsToJson (texts : List String) :
    Json.texts? (textsToJson texts) = some texts := by
  show (texts.map Json.str).mapM Json.text? = some texts
  induction texts with
  | nil => rfl
  | cons text texts ih =>
    rw [List.map_cons, List.mapM_cons, ih]
    rfl

/-- **The value of a setting reads back as it was written.** -/
theorem ofJson?_toJson (source : Source) {s : Setting} {x : s.Value} (h : s.Fits x) :
    s.ofJson? source (s.toJson x) = some x := by
  cases s with
  | listenAddr | pagesUrl | apiUrl | secret | onboardingPath | serviceName | logLevel => rfl
  | pagesTimeout | requestTimeout | ruleTimeout => exact if_pos h
  | cookieNames | exemptPrefixes => exact texts?_textsToJson x
  | allowBearer | metricsEnabled => rfl
  | app => cases x <;> rfl
  | basePath => cases x <;> rfl
  | logFormat => cases x <;> rfl

end Setting

namespace Section

/-- The keys of the settings of a section in their order. -/
def fields (place : Section) : List String :=
  place.settings.map Setting.key

end Section

/-! ## Reading -/

/-- What a tree says about a section.  A section that is left out is as good as an empty one. -/
def Section.part (place : Section) (tree : Json) : Json :=
  (tree.field? Section.keys place.key).getD (.object [])

/-- What a tree says about a setting, if it mentions it. -/
def Setting.valueIn? (s : Setting) (tree : Json) : Option Json :=
  (s.home.part tree).field? s.home.fields s.key

/-- What a setting comes to if something is said about it, or nothing. -/
def Setting.settle? (source : Source) (s : Setting) : Option Json → Option s.Value
  | some v => s.ofJson? source v
  | none => some (s.get {})

/-- A tree has no other fields than a closed record, and none of them twice. -/
def IsRecord (source : Source) (names : List String) (v : Json) : Prop :=
  ∃ slots, Json.slots? source (layout names) v = some slots

/-- A section is read from a tree: the tree is a record, and every setting is what the tree says, or
has its default. -/
structure Section.IsReadFrom (place : Section) (source : Source) (v : Json) (c : Config) :
    Prop where
  record : IsRecord source place.fields v
  settings : ∀ s ∈ place.settings, s.settle? source (v.field? place.fields s.key) = some (s.get c)

/-- A configuration is read from a tree: the tree is a record, and every section is read from what
it says about that. -/
structure IsReadFrom (source : Source) (tree : Json) (c : Config) : Prop where
  record : IsRecord source Section.keys tree
  sections : ∀ place : Section, place.IsReadFrom source (place.part tree) c

section Sections

variable {source : Source} {v : Json} {c : Config} {place : Section}

/-- A setting with its default is read if the tree has a value for it. -/
theorem withDefault?_of_slots? {slots : Json.Slots}
    (h : Json.slots? source (layout place.fields) v = some slots) {i : Nat} {s : Setting}
    (hi : place.settings[i]? = some s) :
    slots.withDefault? i (s.get {}) (s.ofJson? source) =
      s.settle? source (v.field? place.fields s.key) := by
  have hnames : place.fields.Nodup := by cases place <;> decide
  have hkey : place.fields[i]? = some s.key := by rw [Section.fields, List.getElem?_map, hi]; rfl
  rw [Json.Slots.withDefault?_of_closed h hnames hkey]
  cases v.field? place.fields s.key with
  | none | some w => rfl

/-- What is made of the fields of a section is the section of a configuration just if the settings
are those of the configuration. -/
theorem Section.bind_slots?_eq_some_iff {α : Type} {read : Json.Slots → Option α} {a : α}
    (h : ∀ slots, Json.slots? source (layout place.fields) v = some slots →
      (read slots = some a ↔
        ∀ s ∈ place.settings, s.settle? source (v.field? place.fields s.key) = some (s.get c))) :
    (Json.slots? source (layout place.fields) v).bind read = some a ↔
      place.IsReadFrom source v c := by
  rw [Option.bind_eq_some_iff]
  constructor
  · rintro ⟨slots, hslots, hread⟩
    exact ⟨⟨slots, hslots⟩, (h slots hslots).1 hread⟩
  · rintro ⟨⟨slots, hslots⟩, hsettings⟩
    exact ⟨slots, hslots, (h slots hslots).2 hsettings⟩

/-- A section of three settings, which are put together. -/
theorem Section.bind_three_eq_some_iff {α : Type} {s₀ s₁ s₂ : Setting}
    (hplace : place.settings = [s₀, s₁, s₂]) (f : s₀.Value → s₁.Value → s₂.Value → α)
    (hf : ∀ x₀ x₁ x₂, f x₀ x₁ x₂ = f (s₀.get c) (s₁.get c) (s₂.get c) ↔
      x₀ = s₀.get c ∧ x₁ = s₁.get c ∧ x₂ = s₂.get c) :
    ((Json.slots? source (layout place.fields) v).bind fun slots =>
      (slots.withDefault? 0 (s₀.get {}) (s₀.ofJson? source)).bind fun x₀ =>
      (slots.withDefault? 1 (s₁.get {}) (s₁.ofJson? source)).bind fun x₁ =>
      (slots.withDefault? 2 (s₂.get {}) (s₂.ofJson? source)).bind fun x₂ =>
      some (f x₀ x₁ x₂)) = some (f (s₀.get c) (s₁.get c) (s₂.get c)) ↔
    place.IsReadFrom source v c := by
  refine bind_slots?_eq_some_iff fun slots h => ?_
  have h₀ := withDefault?_of_slots? h (s := s₀) (i := 0) (by rw [hplace]; rfl)
  have h₁ := withDefault?_of_slots? h (s := s₁) (i := 1) (by rw [hplace]; rfl)
  have h₂ := withDefault?_of_slots? h (s := s₂) (i := 2) (by rw [hplace]; rfl)
  simp [Option.bind_eq_some_iff, hf, hplace, ← h₀, ← h₁, ← h₂]

/-- A section of four settings, which are put together. -/
theorem Section.bind_four_eq_some_iff {α : Type} {s₀ s₁ s₂ s₃ : Setting}
    (hplace : place.settings = [s₀, s₁, s₂, s₃]) (f : s₀.Value → s₁.Value → s₂.Value → s₃.Value → α)
    (hf : ∀ x₀ x₁ x₂ x₃, f x₀ x₁ x₂ x₃ = f (s₀.get c) (s₁.get c) (s₂.get c) (s₃.get c) ↔
      x₀ = s₀.get c ∧ x₁ = s₁.get c ∧ x₂ = s₂.get c ∧ x₃ = s₃.get c) :
    ((Json.slots? source (layout place.fields) v).bind fun slots =>
      (slots.withDefault? 0 (s₀.get {}) (s₀.ofJson? source)).bind fun x₀ =>
      (slots.withDefault? 1 (s₁.get {}) (s₁.ofJson? source)).bind fun x₁ =>
      (slots.withDefault? 2 (s₂.get {}) (s₂.ofJson? source)).bind fun x₂ =>
      (slots.withDefault? 3 (s₃.get {}) (s₃.ofJson? source)).bind fun x₃ =>
      some (f x₀ x₁ x₂ x₃)) = some (f (s₀.get c) (s₁.get c) (s₂.get c) (s₃.get c)) ↔
    place.IsReadFrom source v c := by
  refine bind_slots?_eq_some_iff fun slots h => ?_
  have h₀ := withDefault?_of_slots? h (s := s₀) (i := 0) (by rw [hplace]; rfl)
  have h₁ := withDefault?_of_slots? h (s := s₁) (i := 1) (by rw [hplace]; rfl)
  have h₂ := withDefault?_of_slots? h (s := s₂) (i := 2) (by rw [hplace]; rfl)
  have h₃ := withDefault?_of_slots? h (s := s₃) (i := 3) (by rw [hplace]; rfl)
  simp [Option.bind_eq_some_iff, hf, hplace, ← h₀, ← h₁, ← h₂, ← h₃]

theorem GatewaySection.ofJson?_eq_some_iff :
    GatewaySection.ofJson? source v = some c.gateway ↔ Section.gateway.IsReadFrom source v c :=
  Section.bind_three_eq_some_iff
    (show Section.gateway.settings = [.listenAddr, .pagesUrl, .pagesTimeout] from rfl)
    GatewaySection.mk fun _ _ _ => iff_of_eq (GatewaySection.mk.injEq ..)

theorem BackendSection.ofJson?_eq_some_iff :
    BackendSection.ofJson? source v = some c.backend ↔ Section.backend.IsReadFrom source v c :=
  Section.bind_three_eq_some_iff
    (show Section.backend.settings = [.apiUrl, .requestTimeout, .ruleTimeout] from rfl)
    BackendSection.mk fun _ _ _ => iff_of_eq (BackendSection.mk.injEq ..)

theorem SessionSection.ofJson?_eq_some_iff :
    SessionSection.ofJson? source v = some c.session ↔ Section.session.IsReadFrom source v c :=
  Section.bind_three_eq_some_iff
    (show Section.session.settings = [.secret, .cookieNames, .allowBearer] from rfl)
    SessionSection.mk fun _ _ _ => iff_of_eq (SessionSection.mk.injEq ..)

theorem AppSection.ofJson?_eq_some_iff :
    AppSection.ofJson? source v = some c.app ↔ Section.app.IsReadFrom source v c :=
  Section.bind_four_eq_some_iff
    (show Section.app.settings = [.app, .basePath, .onboardingPath, .exemptPrefixes] from rfl)
    AppSection.mk fun _ _ _ _ => iff_of_eq (AppSection.mk.injEq ..)

theorem TelemetrySection.ofJson?_eq_some_iff :
    TelemetrySection.ofJson? source v = some c.telemetry ↔
      Section.telemetry.IsReadFrom source v c :=
  Section.bind_four_eq_some_iff
    (show Section.telemetry.settings = [.serviceName, .logLevel, .logFormat, .metricsEnabled]
      from rfl)
    TelemetrySection.mk fun _ _ _ _ => iff_of_eq (TelemetrySection.mk.injEq ..)

/-- A section that may be left out is read from what the tree says about it. -/
theorem Section.withDefault?_of_slots? {α : Type} (place : Section) (read : Json → Option α)
    {tree : Json} {slots : Json.Slots} {i : Nat} {default : α}
    (h : Json.slots? source (layout Section.keys) tree = some slots)
    (hi : Section.all[i]? = some place) (hdefault : read (.object []) = some default) :
    slots.withDefault? i default read = read (place.part tree) := by
  have hkey : Section.keys[i]? = some place.key := by rw [Section.keys, List.getElem?_map, hi]; rfl
  rw [Json.Slots.withDefault?_of_closed h (by decide) hkey, Section.part]
  cases tree.field? Section.keys place.key with
  | none => exact hdefault.symm
  | some v => rfl

theorem Section.forall_iff {p : Section → Prop} :
    (∀ place, p place) ↔ p .gateway ∧ p .backend ∧ p .session ∧ p .app ∧ p .telemetry := by
  refine ⟨fun h => ⟨h _, h _, h _, h _, h _⟩, fun h place => ?_⟩
  obtain ⟨hgateway, hbackend, hsession, happ, htelemetry⟩ := h
  cases place <;> assumption

/-- A tree that is a record is read part by part. -/
theorem ofJson?_of_slots? {tree : Json} {slots : Json.Slots}
    (h : Json.slots? source (layout Section.keys) tree = some slots) :
    ofJson? source tree =
      (GatewaySection.ofJson? source (Section.gateway.part tree)).bind fun gateway =>
      (BackendSection.ofJson? source (Section.backend.part tree)).bind fun backend =>
      (SessionSection.ofJson? source (Section.session.part tree)).bind fun session =>
      (AppSection.ofJson? source (Section.app.part tree)).bind fun app =>
      (TelemetrySection.ofJson? source (Section.telemetry.part tree)).bind fun telemetry =>
      some ⟨gateway, backend, session, app, telemetry⟩ := by
  rw [← Section.withDefault?_of_slots? .gateway (GatewaySection.ofJson? source) h (i := 0) rfl rfl,
    ← Section.withDefault?_of_slots? .backend (BackendSection.ofJson? source) h (i := 1) rfl rfl,
    ← Section.withDefault?_of_slots? .session (SessionSection.ofJson? source) h (i := 2) rfl rfl,
    ← Section.withDefault?_of_slots? .app (AppSection.ofJson? source) h (i := 3) rfl rfl,
    ← Section.withDefault?_of_slots? .telemetry (TelemetrySection.ofJson? source) h (i := 4)
      rfl rfl]
  exact congrArg (Option.bind · _) h

/-- **A tree is read just if it and its sections are records, and then every setting is what the
tree says, or has its default.** -/
theorem ofJson?_eq_some_iff {tree : Json} :
    ofJson? source tree = some c ↔ IsReadFrom source tree c := by
  have hparts {slots : Json.Slots}
      (h : Json.slots? source (layout Section.keys) tree = some slots) :
      ofJson? source tree = some c ↔
        ∀ place : Section, place.IsReadFrom source (place.part tree) c := by
    rw [ofJson?_of_slots? h, Section.forall_iff, ← GatewaySection.ofJson?_eq_some_iff,
      ← BackendSection.ofJson?_eq_some_iff, ← SessionSection.ofJson?_eq_some_iff,
      ← AppSection.ofJson?_eq_some_iff, ← TelemetrySection.ofJson?_eq_some_iff]
    cases c with
    | mk gateway backend session app telemetry => simp [Option.bind_eq_some_iff]
  constructor
  · intro h
    obtain ⟨slots, hslots, -⟩ := Option.bind_eq_some_iff.1 h
    exact ⟨⟨slots, hslots⟩, (hparts hslots).1 h⟩
  · rintro ⟨⟨slots, hslots⟩, h⟩
    exact (hparts hslots).2 h

/-- What is read for a setting is what the tree says, or the default. -/
theorem settle?_of_ofJson? {tree : Json} (h : ofJson? source tree = some c) (s : Setting) :
    s.settle? source (s.valueIn? tree) = some (s.get c) :=
  ((ofJson?_eq_some_iff.1 h).sections s.home).settings s (Setting.mem_settings s)

end Sections

end Config
end Gatehouse
