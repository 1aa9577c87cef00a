import Gatehouse.Config.Loader
import Gatehouse.Proofs.Config.Layers

/-!
# Variables of others

The environment of a process holds the variables of everybody, and most of them are no business of
the gateway: all but two, and those that are made of the prefix, a section and a key.  A variable
that is none of these is passed over, wherever it stands, with one exception.  The variables to look
at are picked by the prefix alone, and then the two underscores behind it are insisted on: of a
variable whose name goes on in another way it is not said that it is somebody else's, but that it is
bad, and nothing starts.

* `isOfSettings_of_mem_faults` — validation blames no variable.
* `Loader.load_filter` — variables that are passed over make no difference to what is loaded.
* `name_of_load_error` — a fault of a variable names a variable that is there.
* `Loader.load_unrelated_iff` — which variables of others make no difference.
* `Loader.stopped_by_stranger` — one that does.
-/

set_option autoImplicit false

namespace Gatehouse
namespace Config

variable {c : Config} {start name : String} {vars : Environment} {e : ConfigError}

/-! ## Names -/

/-- The name of a variable of somebody else: not one of the two names that always count, and not the
name of a setting with the prefix, if there is one. -/
structure IsUnrelated (start? : Option String) (name : String) : Prop where
  apiUrl : name ≠ "API_URL"
  secret : name ≠ "NEXTAUTH_SECRET"
  setting : ∀ start ∈ start?, ∀ s : Setting, name ≠ s.name start

/-- A name that starts with the prefix, but does not go on with two underscores. -/
structure IsCutShort (start name : String) : Prop where
  starts : start.toList <+: name.toList
  not_next : ¬ (start.toList ++ ['_', '_']) <+: name.toList

/-! ## What single variables do -/

/-- A variable whose name does not go on as it should is a fault. -/
theorem override_of_not_next {v : String × String}
    (h : ¬ (start.toList ++ ['_', '_']) <+: v.1.toList) :
    override start c v = .error (.variable v.1 "invalid key format") := by
  have hnone : Path.afterStart? (start.toList ++ ['_', '_']) v.1.toList = none := by
    cases hrest : Path.afterStart? (start.toList ++ ['_', '_']) v.1.toList with
    | none => rfl
    | some rest => exact absurd ⟨rest, (Path.eq_append_of_afterStart? hrest).symm⟩ h
  rw [override, hnone]

theorem of_readNumber_error {text : String} (h : readNumber name text = .error e) :
    e = .variable name "expected integer" := by
  rw [readNumber] at h
  split at h <;> split at h <;> cases h <;> rfl

theorem of_readFlag_error {text : String} (h : readFlag name text = .error e) :
    e = .variable name "expected boolean" := by
  rw [readFlag] at h
  split at h
  · cases h
  · split at h <;> cases h
    rfl

/-- A text that cannot be read is a fault of its variable. -/
theorem Setting.of_read_error {s : Setting} {text : String} (h : s.read name text = .error e) :
    ∃ reason, e = .variable name reason := by
  cases s with
  | pagesTimeout | requestTimeout | ruleTimeout => exact ⟨_, of_readNumber_error h⟩
  | allowBearer | metricsEnabled => exact ⟨_, of_readFlag_error h⟩
  | app =>
    simp only [read, readApp] at h
    split at h
    · cases h
    · cases h
      exact ⟨_, rfl⟩
  | logFormat =>
    simp only [read, readFormat] at h
    split at h
    · cases h
    · cases h
      exact ⟨_, rfl⟩
  | _ => cases h

/-- Whatever is wrong with a variable is said of that variable. -/
theorem of_override_error {v : String × String} (h : override start c v = .error e) :
    ∃ reason, e = .variable v.1 reason := by
  by_cases hnext : (start.toList ++ ['_', '_']) <+: v.1.toList
  · by_cases hknown : ∃ s : Setting, v.1 = s.name start
    · obtain ⟨s, hs⟩ := hknown
      obtain ⟨name, text⟩ := v
      obtain rfl : name = s.name start := hs
      rw [override_name] at h
      cases hread : s.read (s.name start) text with
      | ok x =>
        rw [hread] at h
        cases h
      | error cause =>
        rw [hread] at h
        cases h
        exact Setting.of_read_error hread
    · rw [override_of_foreign hnext (not_exists.1 hknown)] at h
      cases h
  · rw [override_of_not_next hnext] at h
    cases h
    exact ⟨_, rfl⟩

/-- A variable of somebody else is passed over, unless its name is cut short. -/
theorem override_of_unrelated {v : String × String} (hstart : start.toList <+: v.1.toList)
    (hunrelated : IsUnrelated (some start) v.1) (hwhole : ¬ IsCutShort start v.1) :
    override start c v = .ok c := by
  have hnext : (start.toList ++ ['_', '_']) <+: v.1.toList := by
    by_contra hnot
    exact hwhole ⟨hstart, hnot⟩
  exact override_of_foreign hnext (hunrelated.setting start rfl)

/-! ## What all of them do -/

/-- Of the variables that always count, only the two that there are matter. -/
theorem withOwnVariables_congr {own own' : String → Option String}
    (hapi : own "API_URL" = own' "API_URL")
    (hsecret : own "NEXTAUTH_SECRET" = own' "NEXTAUTH_SECRET") :
    c.withOwnVariables own = c.withOwnVariables own' := by
  rw [withOwnVariables, withOwnVariables, hapi, hsecret]

/-- With a prefix, the variables that start with it are applied one after the other. -/
theorem withEnvironment_some (c : Config) (vars : Environment) (start : String) :
    c.withEnvironment vars (some start) =
      (vars.filter fun v => start.toList.isPrefixOf v.1.toList).foldlM (override start)
        (c.withOwnVariables fun name => vars.lookup name) :=
  rfl

/-- Variables that are passed over can be left out. -/
theorem foldlM_override_filter {keep : String × String → Bool}
    (h : ∀ v ∈ vars, keep v = false → ∀ c, override start c v = .ok c) (c : Config) :
    (vars.filter keep).foldlM (override start) c = vars.foldlM (override start) c := by
  induction vars generalizing c with
  | nil => rfl
  | cons v vars ih =>
    have hlater := ih fun w hw => h w (List.mem_cons_of_mem v hw)
    cases hkeep : keep v with
    | true =>
      rw [List.filter_cons_of_pos hkeep, List.foldlM_cons, List.foldlM_cons]
      cases override start c v with
      | error e => rfl
      | ok next => exact hlater next
    | false =>
      rw [List.filter_cons_of_neg (by rw [hkeep]; exact Bool.false_ne_true), List.foldlM_cons,
        h v List.mem_cons_self hkeep]
      exact hlater c

/-- If a variable cannot be applied, it is one of those that there are. -/
theorem of_foldlM_override_error (h : vars.foldlM (override start) c = .error e) :
    ∃ v ∈ vars, ∃ reason, e = .variable v.1 reason := by
  induction vars generalizing c with
  | nil => cases h
  | cons v vars ih =>
    rw [List.foldlM_cons] at h
    cases hv : override start c v with
    | error cause =>
      rw [hv] at h
      cases h
      exact ⟨v, List.mem_cons_self, of_override_error hv⟩
    | ok next =>
      rw [hv] at h
      obtain ⟨w, hw, hreason⟩ := ih h
      exact ⟨w, List.mem_cons_of_mem v hw, hreason⟩

/-! ## Faults of settings -/

/-- A fault of the settings themselves, wherever they come from. -/
inductive IsOfSettings : ConfigError → Prop
  | invalidValue (field reason : String) : IsOfSettings (.invalidValue field reason)
  | missingField (field : String) : IsOfSettings (.missingField field)
  | inconsistent (reason : String) : IsOfSettings (.inconsistent reason)

theorem isOfSettings_of_urlFault {field value : String} (h : urlFault field value = some e) :
    IsOfSettings e := by
  rw [urlFault] at h
  split at h
  · cases h
    exact .invalidValue ..
  · split at h
    · cases h
    · cases h
      exact .invalidValue ..

theorem isOfSettings_of_apiUrlFault {value : String} (h : apiUrlFault value = some e) :
    IsOfSettings e := by
  rw [apiUrlFault] at h
  split at h
  · cases h
    exact .missingField _
  · exact isOfSettings_of_urlFault h

theorem isOfSettings_of_listenFault {value : String} (h : listenFault value = some e) :
    IsOfSettings e := by
  rw [listenFault] at h
  split at h
  · cases h
  · cases h
    exact .invalidValue ..

theorem isOfSettings_of_pathFault {field value : String} (h : pathFault field value = some e) :
    IsOfSettings e := by
  rw [pathFault] at h
  split at h
  · cases h
  · cases h
    exact .invalidValue ..

theorem isOfSettings_of_prefixFault {prefixes : List String} (h : prefixFault prefixes = some e) :
    IsOfSettings e := by
  rw [prefixFault] at h
  obtain ⟨p, -, rfl⟩ := Option.map_eq_some_iff.1 h
  exact .invalidValue ..

/-- A fault that is found under a condition is one of the settings if what is found is. -/
theorem isOfSettings_of_ite {p : Prop} [Decidable p] {fault : ConfigError}
    (hfault : IsOfSettings fault)
    (h : (if p then some fault else none) = some e) : IsOfSettings e := by
  split at h
  · cases h
    exact hfault
  · cases h

/-- **Validation finds faults of the settings only.** -/
theorem isOfSettings_of_mem_faults (h : e ∈ c.faults) : IsOfSettings e := by
  simp only [faults, List.mem_filterMap, List.mem_cons, List.not_mem_nil, or_false, id_eq,
    exists_eq_right] at h
  rcases h with h | h | h | h | h | h | h | h | h | h | h
  · exact isOfSettings_of_apiUrlFault h.symm
  · exact isOfSettings_of_ite (.missingField _) h.symm
  · exact isOfSettings_of_listenFault h.symm
  · exact isOfSettings_of_urlFault h.symm
  · exact isOfSettings_of_ite (.invalidValue ..) h.symm
  · exact isOfSettings_of_ite (.invalidValue ..) h.symm
  · exact isOfSettings_of_ite (.invalidValue ..) h.symm
  · exact isOfSettings_of_pathFault h.symm
  · exact isOfSettings_of_prefixFault h.symm
  · exact isOfSettings_of_pathFault h.symm
  · exact isOfSettings_of_ite (.inconsistent _) h.symm

end Config

namespace Loader

open Config

variable {l : Loader} {vars : Environment}

/-! ## Loading -/

/-- **Variables that are passed over make no difference to what is loaded.** -/
theorem load_filter {keep : String × String → Bool} (hnames : (vars.map Prod.fst).Nodup)
    (hother : ∀ v ∈ vars, keep v = false → IsUnrelated l.variablePrefix v.1)
    (hwhole : ∀ start ∈ l.variablePrefix, ∀ v ∈ vars, keep v = false → ¬ IsCutShort start v.1) :
    l.load (vars.filter keep) = l.load vars := by
  have hown {key : String} (hkey : ∀ v ∈ vars, v.1 = key → keep v = true) :
      (vars.filter keep).lookup key = vars.lookup key := by
    have hkept : ((vars.filter keep).map Prod.fst).Nodup :=
      hnames.sublist (List.filter_sublist.map Prod.fst)
    refine Option.ext fun text => ?_
    rw [lookup_eq_some_iff hkept, lookup_eq_some_iff hnames, List.mem_filter]
    exact and_iff_left_of_imp fun hmem => hkey _ hmem rfl
  have hkeep {v : String × String} (hv : v ∈ vars) (h : ¬ IsUnrelated l.variablePrefix v.1) :
      keep v = true := by
    by_contra hnot
    exact h (hother v hv (Bool.not_eq_true _ ▸ hnot))
  have happlied : l.config.withOwnVariables (fun name => (vars.filter keep).lookup name) =
      l.config.withOwnVariables fun name => vars.lookup name :=
    withOwnVariables_congr (hown fun v hv h => hkeep hv fun hunrelated => hunrelated.apiUrl h)
      (hown fun v hv h => hkeep hv fun hunrelated => hunrelated.secret h)
  have henvironment : l.config.withEnvironment (vars.filter keep) l.variablePrefix =
      l.config.withEnvironment vars l.variablePrefix := by
    cases hstart : l.variablePrefix with
    | none => exact congrArg Except.ok happlied
    | some start =>
      rw [hstart] at hother hwhole
      rw [withEnvironment_some, withEnvironment_some, happlied, List.filter_comm]
      refine foldlM_override_filter (fun v hv hdropped c => ?_) _
      obtain ⟨hmem, hstarts⟩ := List.mem_filter.1 hv
      exact override_of_unrelated (List.isPrefixOf_iff_prefix.1 hstarts) (hother v hmem hdropped)
        (hwhole start rfl v hmem hdropped)
  rw [load, load, henvironment]

/-- What cannot be loaded is either a variable that cannot be applied or a configuration with a
fault. -/
theorem of_load_error {e : ConfigError} (h : l.load vars = .error e) :
    l.config.withEnvironment vars l.variablePrefix = .error e ∨
      ∃ c, l.config.withEnvironment vars l.variablePrefix = .ok c ∧ e ∈ c.faults := by
  rw [load] at h
  cases hloaded : l.config.withEnvironment vars l.variablePrefix with
  | error cause =>
    rw [hloaded] at h
    cases h
    exact Or.inl rfl
  | ok c =>
    rw [hloaded] at h
    refine Or.inr ⟨c, rfl, ?_⟩
    replace h : (c.validate.bind fun _ => .ok c) = .error e := h
    rw [validate] at h
    cases hfaults : c.faults with
    | nil =>
      rw [hfaults] at h
      cases h
    | cons fault faults =>
      rw [hfaults] at h
      cases h
      exact List.mem_cons_self

/-- A fault of a variable is that of a variable that is there. -/
theorem name_of_load_error {name reason : String}
    (h : l.load vars = .error (.variable name reason)) :
    ∃ v ∈ vars, v.1 = name := by
  rcases of_load_error h with herror | ⟨c, -, hfault⟩
  · cases hstart : l.variablePrefix with
    | none =>
      rw [hstart] at herror
      cases herror
    | some start =>
      rw [hstart, withEnvironment_some] at herror
      obtain ⟨v, hv, r, hr⟩ := of_foldlM_override_error herror
      cases hr
      exact ⟨v, List.mem_of_mem_filter hv, rfl⟩
  · cases isOfSettings_of_mem_faults hfault

/-- A variable whose name is cut short is a fault if it comes first. -/
theorem load_cons_of_isCutShort {start : String} (hstart : l.variablePrefix = some start)
    {v : String × String} (h : IsCutShort start v.1) (vars : Environment) :
    l.load (v :: vars) = .error (.variable v.1 "invalid key format") := by
  have hpicked : ((v :: vars).filter fun w => start.toList.isPrefixOf w.1.toList) =
      v :: vars.filter fun w => start.toList.isPrefixOf w.1.toList :=
    List.filter_cons_of_pos (List.isPrefixOf_iff_prefix.2 h.starts)
  rw [load, hstart, withEnvironment_some, hpicked, List.foldlM_cons,
    override_of_not_next h.not_next]
  rfl

/-- **Variables of others make no difference to what is loaded,** whatever is loaded and in whatever
order the variables are listed, **just if none of their names is cut short** behind the prefix. -/
theorem load_unrelated_iff (l : Loader) {env extra : Environment}
    (hnames : ((env ++ extra).map Prod.fst).Nodup)
    (hextra : ∀ v ∈ extra, IsUnrelated l.variablePrefix v.1) :
    (∀ order : Environment, order.Perm (env ++ extra) →
        l.load order = l.load (order.filter fun v => env.contains v)) ↔
      ∀ start ∈ l.variablePrefix, ∀ v ∈ extra, ¬ IsCutShort start v.1 := by
  have hother {order : Environment} (horder : order.Perm (env ++ extra)) {v : String × String}
      (hv : v ∈ order) (hdropped : env.contains v = false) : v ∈ extra := by
    refine (List.mem_append.1 (horder.mem_iff.1 hv)).resolve_left fun hmem => ?_
    rw [List.contains_iff_mem.2 hmem] at hdropped
    cases hdropped
  constructor
  · rintro h start hstart v hv hcut
    obtain ⟨front, behind, rfl⟩ := List.append_of_mem hv
    have horder : (v :: (env ++ (front ++ behind))).Perm (env ++ (front ++ v :: behind)) := by
      rw [← List.append_assoc, ← List.append_assoc]
      exact List.perm_middle.symm
    have hfirst := load_cons_of_isCutShort (l := l) hstart hcut (env ++ (front ++ behind))
    -- the fault names the variable, and in the environment without it there is none of that name
    rw [h _ horder] at hfirst
    obtain ⟨w, hw, hname⟩ := name_of_load_error hfirst
    have hwenv : w ∈ env := List.contains_iff_mem.1 (List.mem_filter.1 hw).2
    rw [List.map_append, List.nodup_append] at hnames
    exact hnames.2.2 w.1 (List.mem_map_of_mem hwenv) v.1 (List.mem_map_of_mem hv) hname
  · intro h order horder
    have horderNames : (order.map Prod.fst).Nodup := (horder.map Prod.fst).nodup_iff.2 hnames
    refine (load_filter horderNames (fun v hv hdropped => hextra v (hother horder hv hdropped))
      fun start hstart v hv hdropped => h start hstart v (hother horder hv hdropped)).symm

/-- Names that share a few letters with the prefix, that stop behind the underscores, or that name
no section. -/
theorem load_unrelated_iff_portico :
    let l : Loader := { variablePrefix := some "PORTICO" }
    let env := [("API_URL", "http://backend"), ("NEXTAUTH_SECRET", "s3cret")]
    let extra := [("PORT", "80"), ("PORTICO__", ""), ("PORTICO__APP__PROFILE__X", "x"),
      ("PORTICO__app__PROFILE", "x"), ("HOME", "/root")]
    ((env ++ extra).map Prod.fst).Nodup ∧ (∀ v ∈ extra, IsUnrelated l.variablePrefix v.1) ∧
      l.load (extra ++ env) = l.load env := by
  intro l env extra
  have hnames : ((env ++ extra).map Prod.fst).Nodup := by decide
  have hextra : ∀ v ∈ extra, IsUnrelated l.variablePrefix v.1 := by
    intro v hv
    have hall : ∀ v ∈ extra, v.1 ≠ "API_URL" ∧ v.1 ≠ "NEXTAUTH_SECRET" := by decide
    refine ⟨(hall v hv).1, (hall v hv).2, fun start hstart s => ?_⟩
    cases hstart
    revert v
    cases s <;> decide
  refine ⟨hnames, hextra, ?_⟩
  have h := (load_unrelated_iff l hnames hextra).2 (fun start hstart v hv hcut => ?_)
    (extra ++ env) List.perm_append_comm
  · rw [h]
    exact congrArg l.load (by decide)
  · cases hstart
    have hwhole : ∀ v ∈ extra, "PORTICO".toList <+: v.1.toList →
        ("PORTICO".toList ++ ['_', '_']) <+: v.1.toList := by decide
    exact hcut.not_next (hwhole v hv hcut.starts)

/-- A variable of somebody else that happens to start with the prefix stops everything. -/
theorem stopped_by_stranger :
    let l : Loader := { variablePrefix := some "PORTICO" }
    let env := [("API_URL", "http://backend"), ("NEXTAUTH_SECRET", "s3cret")]
    IsUnrelated l.variablePrefix "PORTICO_HOME" ∧
      l.load env =
        .ok { backend := { apiUrl := "http://backend" }, session := { secret := "s3cret" } } ∧
      l.load (env ++ [("PORTICO_HOME", "/srv/portico")]) =
        .error (.variable "PORTICO_HOME" "invalid key format") := by
  intro l env
  refine ⟨⟨by decide, by decide, fun start hstart s => ?_⟩, by decide +kernel, by decide +kernel⟩
  cases hstart
  cases s <;> decide

end Loader
end Gatehouse
