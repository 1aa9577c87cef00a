import Gatehouse.Proofs.Config.Settings

/-!
# Where settings come from

A configuration is loaded in layers: what a file says, then the two variables with names of their
own, then the variables with the prefix.  These are applied one after the other, in an order that
nobody chooses, and the first that cannot be read ends it.  Since no two settings have the same
variable, the order cannot matter, and each setting can be told by itself: `Setting.settled` looks
only for its own variable.

* `foldlM_override_eq_ok_iff` — the induction over the variables: they are all applied just if every
  setting can be settled, and then each has the value that its own variable gives.
* `settled_by_layers` — the same of a whole environment, with the settings that can fail, and for
  every order of the variables.
-/

set_option autoImplicit false

namespace Gatehouse
namespace Config

/-! ## Looking variables up -/

section Lookup

variable {vars order : Environment} {key text : String}

theorem lookup_cons_of_ne {v : String × String} (h : v.1 ≠ key) :
    (v :: vars).lookup key = vars.lookup key := by
  rw [List.lookup_cons, beq_false_of_ne (Ne.symm h)]

theorem lookup_cons_self (v : String × String) : (v :: vars).lookup v.1 = some v.2 := by
  rw [List.lookup_cons, beq_self_eq_true]

theorem mem_of_lookup (h : vars.lookup key = some text) : (key, text) ∈ vars := by
  induction vars with
  | nil => cases h
  | cons v vars ih =>
    by_cases hv : v.1 = key
    · subst hv
      rw [lookup_cons_self, Option.some.injEq] at h
      rw [← h]
      exact List.mem_cons_self
    · rw [lookup_cons_of_ne hv] at h
      exact List.mem_cons_of_mem v (ih h)

theorem lookup_eq_none_of_not_mem (h : key ∉ vars.map Prod.fst) : vars.lookup key = none := by
  cases hfound : vars.lookup key with
  | none => rfl
  | some text => exact absurd (List.mem_map_of_mem (mem_of_lookup hfound)) h

/-- Where no name occurs twice, a variable is found under its name. -/
theorem lookup_eq_some_iff (hnames : (vars.map Prod.fst).Nodup) :
    vars.lookup key = some text ↔ (key, text) ∈ vars := by
  refine ⟨mem_of_lookup, fun hmem => ?_⟩
  induction vars with
  | nil => cases hmem
  | cons v vars ih =>
    rw [List.map_cons, List.nodup_cons] at hnames
    rcases List.mem_cons.1 hmem with rfl | hmem
    · exact lookup_cons_self (key, text)
    · have hne : v.1 ≠ key := fun heq => hnames.1 (heq ▸ List.mem_map_of_mem hmem)
      rw [lookup_cons_of_ne hne]
      exact ih hnames.2 hmem

/-- The order in which variables are listed does not matter to what is found. -/
theorem lookup_perm (hnames : (vars.map Prod.fst).Nodup) (h : order.Perm vars) (key : String) :
    order.lookup key = vars.lookup key := by
  have horder : (order.map Prod.fst).Nodup := (h.map Prod.fst).nodup_iff.2 hnames
  refine Option.ext fun text => ?_
  rw [lookup_eq_some_iff horder, lookup_eq_some_iff hnames, h.mem_iff]

/-- Leaving other variables out does not matter to what is found. -/
theorem lookup_filter {keep : String × String → Bool} (h : ∀ text, keep (key, text) = true)
    (hnames : (vars.map Prod.fst).Nodup) : (vars.filter keep).lookup key = vars.lookup key := by
  have hkept : ((vars.filter keep).map Prod.fst).Nodup :=
    hnames.sublist (List.filter_sublist.map Prod.fst)
  refine Option.ext fun text => ?_
  rw [lookup_eq_some_iff hkept, lookup_eq_some_iff hnames, List.mem_filter]
  exact and_iff_left (h text)

end Lookup

/-! ## Settling settings -/

namespace Setting

/-- What a setting is if its variable is not set: for two settings what the variable with a name of
its own says, if it has a value, and otherwise what the configuration says. -/
def unset (own : String → Option String) (c : Config) : (s : Setting) → s.Value
  | .apiUrl => ((own "API_URL").filter fun v => !Text.isAllBlank v).getD c.backend.apiUrl
  | .secret => ((own "NEXTAUTH_SECRET").filter fun v => !v.isEmpty).getD c.session.secret
  | s => s.get c

theorem get_withOwnVariables (own : String → Option String) (c : Config) (s : Setting) :
    s.get (c.withOwnVariables own) = s.unset own c := by
  cases s <;> rfl

/-- What a setting comes to, given what it is if its variable is not set. -/
def given (s : Setting) (start : String) (vars : Environment) (otherwise : s.Value) :
    Except ConfigError s.Value :=
  match vars.lookup (s.name start) with
  | some text => s.read (s.name start) text
  | none => .ok otherwise

/-- What a setting comes to in all layers. -/
def settled (s : Setting) (own : String → Option String) (c : Config) (start : String)
    (vars : Environment) : Except ConfigError s.Value :=
  s.given start vars (s.unset own c)

variable {s : Setting} {start : String} {vars : Environment} {otherwise : s.Value}

theorem given_of_lookup_none (h : vars.lookup (s.name start) = none) :
    s.given start vars otherwise = .ok otherwise := by
  rw [given, h]

theorem given_cons_of_ne {v : String × String} (h : v.1 ≠ s.name start) :
    s.given start (v :: vars) otherwise = s.given start vars otherwise := by
  rw [given, given, lookup_cons_of_ne h]

theorem given_cons_name {text : String} :
    s.given start ((s.name start, text) :: vars) otherwise = s.read (s.name start) text := by
  rw [given, lookup_cons_self (s.name start, text)]

/-- A setting cannot be settled if its variable is set and cannot be read, and only then. -/
theorem given_eq_error_iff (hnames : (vars.map Prod.fst).Nodup) {e : ConfigError} :
    s.given start vars otherwise = .error e ↔
      ∃ text, (s.name start, text) ∈ vars ∧ s.read (s.name start) text = .error e := by
  unfold given
  constructor
  · intro h
    split at h
    · next text hfound => exact ⟨text, mem_of_lookup hfound, h⟩
    · cases h
  · rintro ⟨text, hmem, hread⟩
    rw [(lookup_eq_some_iff hnames).2 hmem]
    exact hread

end Setting

/-! ## Applying variables -/

/-- **Variables are all applied just if every setting can be settled**, and then each setting has
what its own variable gives, or what it had. -/
theorem foldlM_override_eq_ok_iff {start : String} {vars : Environment} {c loaded : Config}
    (hnames : (vars.map Prod.fst).Nodup)
    (hnext : ∀ v ∈ vars, (start.toList ++ ['_', '_']) <+: v.1.toList) :
    vars.foldlM (override start) c = .ok loaded ↔
      ∀ s : Setting, s.given start vars (s.get c) = .ok (s.get loaded) := by
  induction vars generalizing c with
  | nil =>
    constructor
    · intro h s
      rw [show c = loaded from Except.ok.inj h]
      rfl
    · intro h
      exact congrArg Except.ok (Setting.ext_of_get fun s => Except.ok.inj (h s))
  | cons v vars ih =>
    rw [List.map_cons, List.nodup_cons] at hnames
    have hnext' : ∀ w ∈ vars, (start.toList ++ ['_', '_']) <+: w.1.toList :=
      fun w hw => hnext w (List.mem_cons_of_mem v hw)
    by_cases hknown : ∃ t : Setting, v.1 = t.name start
    · obtain ⟨t, ht⟩ := hknown
      obtain ⟨name, text⟩ := v
      obtain rfl : name = t.name start := ht
      have hlater : vars.lookup (t.name start) = none := lookup_eq_none_of_not_mem hnames.1
      have hothers {s : Setting} (hs : s ≠ t) : t.name start ≠ s.name start :=
        fun heq => hs (name_inj heq).symm
      rw [List.foldlM_cons, override_name]
      cases hread : t.read (t.name start) text with
      | error e =>
        refine iff_of_false (fun h => by cases h) fun h => ?_
        have htext := h t
        rw [Setting.given_cons_name, hread] at htext
        cases htext
      | ok x =>
        show vars.foldlM (override start) (t.put c x) = .ok loaded ↔ _
        rw [ih hnames.2 hnext']
        refine forall_congr' fun s => ?_
        by_cases hs : s = t
        · subst hs
          rw [Setting.given_of_lookup_none hlater, Setting.given_cons_name, hread,
            Setting.get_put_self]
        · rw [Setting.given_cons_of_ne (hothers hs), Setting.get_put_of_ne hs]
    · rw [not_exists] at hknown
      rw [List.foldlM_cons, override_of_foreign (hnext v List.mem_cons_self) hknown]
      show vars.foldlM (override start) c = .ok loaded ↔ _
      rw [ih hnames.2 hnext']
      exact forall_congr' fun s => by rw [Setting.given_cons_of_ne (hknown s)]

/-! ## Whole environments -/

section Whole

variable {c loaded : Config} {own : String → Option String} {start : String} {vars : Environment}
  (hnames : (vars.map Prod.fst).Nodup)
  (hnext : ∀ v ∈ vars, start.toList <+: v.1.toList → (start.toList ++ ['_', '_']) <+: v.1.toList)

include hnames hnext

theorem withVariables_eq_ok_iff :
    c.withVariables own (some start) vars = .ok loaded ↔
      ∀ s : Setting, s.settled own c start vars = .ok (s.get loaded) := by
  have hkept : ((vars.filter fun v => start.toList.isPrefixOf v.1.toList).map Prod.fst).Nodup :=
    hnames.sublist (List.filter_sublist.map Prod.fst)
  have hnext' : ∀ v ∈ vars.filter fun v => start.toList.isPrefixOf v.1.toList,
      (start.toList ++ ['_', '_']) <+: v.1.toList := by
    intro v hv
    obtain ⟨hmem, hstart⟩ := List.mem_filter.1 hv
    exact hnext v hmem (List.isPrefixOf_iff_prefix.1 hstart)
  rw [withVariables, foldlM_override_eq_ok_iff hkept hnext']
  refine forall_congr' fun s => ?_
  -- the variables of settings have the prefix, so they are among those that are looked at
  have hstart (text : String) :
      start.toList.isPrefixOf ((s.name start, text) : String × String).1.toList = true := by
    rw [List.isPrefixOf_iff_prefix, Setting.toList_name, List.append_assoc]
    exact List.prefix_append _ _
  rw [Setting.settled, Setting.given, Setting.given, lookup_filter hstart hnames,
    Setting.get_withOwnVariables]

/-- If every setting can be settled, there is a configuration with what they come to. -/
theorem exists_withVariables_eq_ok (h : ∀ s : Setting, ∃ x, s.settled own c start vars = .ok x) :
    ∃ loaded, c.withVariables own (some start) vars = .ok loaded := by
  choose values hvalues using h
  refine ⟨Setting.ofValues values, (withVariables_eq_ok_iff hnames hnext).2 fun s => ?_⟩
  rw [Setting.get_ofValues, hvalues]

/-- Loading fails just if a setting that takes only texts of some form is given another text. -/
theorem withVariables_fails_iff :
    (∃ e, c.withVariables own (some start) vars = .error e) ↔
      ∃ s ∈ Setting.typed, ∃ text, (s.name start, text) ∈ vars ∧
        ∃ e, s.read (s.name start) text = .error e := by
  constructor
  · rintro ⟨e, herror⟩
    by_contra hnone
    have hsettled (s : Setting) : ∃ x, s.settled own c start vars = .ok x := by
      cases hs : s.settled own c start vars with
      | ok x => exact ⟨x, rfl⟩
      | error e =>
        obtain ⟨text, hmem, hread⟩ := (Setting.given_eq_error_iff hnames).1 hs
        by_cases htyped : s ∈ Setting.typed
        · exact absurd ⟨s, htyped, text, hmem, e, hread⟩ hnone
        · obtain ⟨x, hx⟩ := Setting.exists_read_of_not_typed htyped (s.name start) text
          rw [hx] at hread
          cases hread
    obtain ⟨loaded, hok⟩ := exists_withVariables_eq_ok hnames hnext hsettled
    rw [hok] at herror
    cases herror
  · rintro ⟨s, -, text, hmem, e, hread⟩
    have hs : s.settled own c start vars = .error e :=
      (Setting.given_eq_error_iff hnames).2 ⟨text, hmem, hread⟩
    cases hloaded : c.withVariables own (some start) vars with
    | error e => exact ⟨e, rfl⟩
    | ok loaded =>
      have hok := (withVariables_eq_ok_iff hnames hnext).1 hloaded s
      rw [hs] at hok
      cases hok

/-- The order of the variables changes neither whether they can all be read nor what comes of
them. -/
theorem withVariables_perm {order : Environment} (h : order.Perm vars) :
    c.withVariables own (some start) order = .ok loaded ↔
      c.withVariables own (some start) vars = .ok loaded := by
  have hnames' : (order.map Prod.fst).Nodup := (h.map Prod.fst).nodup_iff.2 hnames
  have hnext' := fun v hv => hnext v (h.mem_iff.1 hv)
  rw [withVariables_eq_ok_iff hnames hnext, withVariables_eq_ok_iff hnames' hnext']
  refine forall_congr' fun s => ?_
  rw [Setting.settled, Setting.settled, Setting.given, Setting.given, lookup_perm hnames h]

end Whole

/-- **Every setting is settled by its own variable, whatever the order of the variables.**  Loading
fails just if the variable of a setting that takes only texts of some form is set to another text.
Otherwise each setting is what its variable says; if it is not set, what the variable with a name of
its own says, for the two settings that have one; and otherwise what the file says. -/
theorem settled_by_layers (c : Config) (own : String → Option String) (start : String)
    (vars : Environment) (hnames : (vars.map Prod.fst).Nodup)
    (hnext : ∀ v ∈ vars, start.toList <+: v.1.toList →
      (start.toList ++ ['_', '_']) <+: v.1.toList) :
    ((∃ e, c.withVariables own (some start) vars = .error e) ↔
        ∃ s ∈ Setting.typed, ∃ text, (s.name start, text) ∈ vars ∧
          ∃ e, s.read (s.name start) text = .error e) ∧
      (∀ loaded, c.withVariables own (some start) vars = .ok loaded ↔
        ∀ s : Setting, s.settled own c start vars = .ok (s.get loaded)) ∧
      ∀ order : Environment, order.Perm vars →
        (c.withVariables own (some start) order).toOption =
          (c.withVariables own (some start) vars).toOption := by
  refine ⟨withVariables_fails_iff hnames hnext, fun loaded => withVariables_eq_ok_iff hnames hnext,
    fun order horder => Option.ext fun loaded => ?_⟩
  have hmem {result : Except ConfigError Config} :
      result.toOption = some loaded ↔ result = .ok loaded := by
    cases result <;> simp [Except.toOption]
  rw [hmem, hmem, withVariables_perm hnames hnext horder]

/-- A variable with the prefix counts more than one with a name of its own, and that counts more
than the file, in both orders of the variables. -/
theorem settled_by_layers_portico :
    let own := fun name => [("API_URL", "http://own"), ("NEXTAUTH_SECRET", "s3cret")].lookup name
    let vars := [("PORTICO__BACKEND__API_URL", "http://override"),
      ("PORTICO__APP__PROFILE", "Dashboard"), ("PORTICO__NOPE__KEY", "x"), ("HOME", "/root")]
    let file : Config := { backend := { apiUrl := "http://file", ruleTimeout := 250 } }
    (vars.map Prod.fst).Nodup ∧
      (∀ v ∈ vars, "PORTICO".toList <+: v.1.toList →
        ("PORTICO".toList ++ ['_', '_']) <+: v.1.toList) ∧
      file.withVariables own (some "PORTICO") vars =
        .ok { backend := { apiUrl := "http://override", ruleTimeout := 250 }
              session := { secret := "s3cret" }
              app := { app := .dashboard } } ∧
      (file.withVariables own (some "PORTICO") vars.reverse).toOption =
        (file.withVariables own (some "PORTICO") vars).toOption := by
  intro own vars file
  have hnames : (vars.map Prod.fst).Nodup := by decide
  have hnext : ∀ v ∈ vars, "PORTICO".toList <+: v.1.toList →
      ("PORTICO".toList ++ ['_', '_']) <+: v.1.toList := by decide
  obtain ⟨-, hsettled, horder⟩ := settled_by_layers file own "PORTICO" vars hnames hnext
  refine ⟨hnames, hnext, (hsettled _).2 fun s => ?_, horder _ vars.reverse_perm⟩
  cases s <;> rfl

end Config
end Gatehouse
