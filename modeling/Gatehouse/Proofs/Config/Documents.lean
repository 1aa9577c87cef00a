import Gatehouse.Config.Loader
import Gatehouse.Proofs.Config.Trees
import Gatehouse.Proofs.Json.Printing
import Gatehouse.Proofs.Json.Reading

/-!
# Configurations written as JSON

A configuration may be written in part: some of its sections, in any order, and some settings of
each, in any order.  Such a document is read as the configuration with the defaults for everything
that it leaves out, and the document of the whole configuration as that configuration.  A key that
is not one of the section, or one that is there twice, is never passed over.

* `Config.excerpt` — the tree of a part of a configuration.
* `Config.ofJson?_excerpt`, `Config.ofJson?_toJson` — what is read from such a tree.
* `Config.ofJson?_of_not_isStrict` — what is not read.
* `Loader.withText_json` — all of that for the texts.
-/

set_option autoImplicit false

namespace Gatehouse
namespace Config

open Json (Source IsDocument Writes)

/-! ## Parts of a configuration -/

/-- A choice of sections, and of settings in each of them, in some order. -/
structure Choice where
  parts : List (Section × List Setting)
  sections : (parts.map Prod.fst).Nodup
  settings : ∀ part ∈ parts, part.2.Nodup
  home : ∀ part ∈ parts, ∀ s ∈ part.2, s.home = part.1

/-- A setting is among those that are chosen. -/
def Choice.Has (chosen : Choice) (s : Setting) : Prop :=
  ∃ part ∈ chosen.parts, s ∈ part.2

instance (chosen : Choice) (s : Setting) : Decidable (chosen.Has s) :=
  inferInstanceAs (Decidable (∃ part ∈ chosen.parts, s ∈ part.2))

/-- Everything, in its order. -/
def Choice.all : Choice where
  parts := Section.all.map fun place => (place, place.settings)
  sections := by decide
  settings := by decide
  home := by decide

theorem Choice.has_all (s : Setting) : Choice.all.Has s := by
  cases s <;> decide

variable {source : Source} {c : Config} {place : Section}

/-- Some settings of a configuration as a tree. -/
def settingsToJson (c : Config) (settings : List Setting) : Json :=
  Json.obj (settings.map fun s => (s.key, s.toJson (s.get c)))

/-- The chosen part of a configuration as a tree. -/
def excerpt (c : Config) (chosen : Choice) : Json :=
  Json.obj (chosen.parts.map fun part => (part.1.key, c.settingsToJson part.2))

theorem excerpt_all (c : Config) : c.excerpt Choice.all = c.toJson := rfl

/-- The numbers of a configuration fit in 64 bits. -/
def Fits (c : Config) : Prop :=
  ∀ s : Setting, s.Fits (s.get c)

/-! ## What is strict -/

/-- The keys of an object are among some names, and none of them is there twice. -/
structure IsStrict (names : List String) (ms : List (Option String × Json)) : Prop where
  known : ∀ m ∈ ms, ∃ name ∈ names, m.1 = some name
  distinct : (ms.map Prod.fst).Nodup

theorem isRecord_object_iff {names : List String} {ms : List (Option String × Json)} :
    IsRecord source names (.object ms) ↔ IsStrict names ms := by
  rw [IsRecord, layout, Json.exists_slots?_closed_iff]
  exact ⟨fun h => ⟨h.1, h.2⟩, fun h => ⟨h.known, h.distinct⟩⟩

/-- **What is not strict is not read,** neither the tree nor any of its sections. -/
theorem ofJson?_of_not_isStrict {ms : List (Option String × Json)}
    (h : ¬ IsStrict Section.keys ms ∨
      ∃ place fs, (some (Section.key place), .object fs) ∈ ms ∧ ¬ IsStrict place.fields fs) :
    ofJson? source (.object ms) = none := by
  refine Option.eq_none_iff_forall_ne_some.2 fun c hc => ?_
  have hread := ofJson?_eq_some_iff.1 hc
  have hstrict := isRecord_object_iff.1 hread.record
  obtain hroot | ⟨place, fs, hmem, hsection⟩ := h
  · exact hroot hstrict
  · have hpart : place.part (.object ms) = .object fs := by
      rw [Section.part, Json.field?_object, Json.head?_members_of_mem hstrict.distinct hmem]
      rfl
    have hrecord := (hread.sections place).record
    rw [hpart] at hrecord
    exact hsection (isRecord_object_iff.1 hrecord)

/-! ## What is read -/

theorem Section.key_inj {place place' : Section} (h : place.key = place'.key) : place = place' := by
  revert h
  cases place <;> cases place' <;> decide

theorem Setting.key_inj {s t : Setting} (hhome : s.home = t.home) (h : s.key = t.key) : s = t := by
  revert h hhome
  cases s <;> cases t <;> decide

theorem isStrict_obj {names : List String} {ms : List (String × Json)}
    (hknown : ∀ m ∈ ms, m.1 ∈ names)
    (hdistinct : (ms.map Prod.fst).Nodup) : IsStrict names (ms.map fun m => (some m.1, m.2)) := by
  constructor
  · intro m hm
    obtain ⟨n, hn, rfl⟩ := List.mem_map.1 hm
    exact ⟨n.1, hknown n hn, rfl⟩
  · have hsome := hdistinct.map (f := some) fun _ _ heq => Option.some.inj heq
    rwa [List.map_map] at hsome ⊢

section Settings

variable {settings : List Setting}

/-- The keys of some settings of a section, which are not repeated. -/
theorem nodup_keys (hnodup : settings.Nodup) (hhome : ∀ s ∈ settings, s.home = place) (c : Config) :
    ((settings.map fun s => (s.key, s.toJson (s.get c))).map Prod.fst).Nodup := by
  rw [List.map_map]
  exact hnodup.map_on fun s hs t ht heq =>
    Setting.key_inj ((hhome s hs).trans (hhome t ht).symm) heq

/-- Some settings of a section are read with the defaults for the others. -/
theorem isReadFrom_settingsToJson (hc : c.Fits) (hnodup : settings.Nodup)
    (hhome : ∀ s ∈ settings, s.home = place) {c' : Config}
    (hc' : ∀ s : Setting, s.home = place → s.get c' = if s ∈ settings then s.get c else s.get {}) :
    place.IsReadFrom source (c.settingsToJson settings) c' := by
  have hkeys := nodup_keys hnodup hhome c
  constructor
  · refine isRecord_object_iff.2 (isStrict_obj (fun m hm => ?_) hkeys)
    obtain ⟨s, hs, rfl⟩ := List.mem_map.1 hm
    exact List.mem_map_of_mem (hhome s hs ▸ Setting.mem_settings s)
  · intro s hs
    have hplace := Setting.home_of_mem hs
    rw [hc' s hplace, settingsToJson]
    by_cases hmem : s ∈ settings
    · rw [if_pos hmem, Json.field?_obj_of_mem hkeys (List.mem_map.2 ⟨s, hmem, rfl⟩)]
      exact Setting.ofJson?_toJson source (hc s)
    · rw [if_neg hmem, Json.field?_obj_of_not_mem]
      · rfl
      · intro hkey
        obtain ⟨m, hm, hkey⟩ := List.mem_map.1 hkey
        obtain ⟨t, ht, rfl⟩ := List.mem_map.1 hm
        exact hmem (Setting.key_inj ((hhome t ht).trans hplace.symm) hkey ▸ ht)

end Settings

/-- The keys of the chosen sections, which are not repeated. -/
theorem nodup_sectionKeys (c : Config) (chosen : Choice) :
    ((chosen.parts.map fun part => (part.1.key, c.settingsToJson part.2)).map Prod.fst).Nodup := by
  rw [List.map_map]
  have hnames := chosen.sections.map (f := Section.key) fun _ _ heq => Section.key_inj heq
  rwa [List.map_map] at hnames

/-- What an excerpt says about a section: the chosen settings of it. -/
theorem exists_part_excerpt (c : Config) (chosen : Choice) (place : Section) :
    ∃ settings : List Setting, place.part (c.excerpt chosen) = c.settingsToJson settings ∧
      settings.Nodup ∧ (∀ s ∈ settings, s.home = place) ∧
      ∀ s : Setting, s.home = place → (chosen.Has s ↔ s ∈ settings) := by
  have hkeys := nodup_sectionKeys c chosen
  by_cases hmem : ∃ part ∈ chosen.parts, part.1 = place
  · obtain ⟨part, hpart, rfl⟩ := hmem
    refine ⟨part.2, ?_, chosen.settings part hpart, chosen.home part hpart, fun s hs => ⟨?_, ?_⟩⟩
    · rw [Section.part, excerpt, Json.field?_obj_of_mem hkeys (List.mem_map.2 ⟨part, hpart, rfl⟩)]
      rfl
    · rintro ⟨other, hother, hin⟩
      have hsame : other = part :=
        List.inj_on_of_nodup_map chosen.sections hother hpart
          ((chosen.home other hother s hin).symm.trans hs)
      exact hsame ▸ hin
    · exact fun hin => ⟨part, hpart, hin⟩
  · refine ⟨[], ?_, List.nodup_nil, (fun s hs => by cases hs),
      fun s hs => iff_of_false ?_ List.not_mem_nil⟩
    · rw [Section.part, excerpt, Json.field?_obj_of_not_mem]
      · rfl
      · intro hkey
        obtain ⟨m, hm, hkey⟩ := List.mem_map.1 hkey
        obtain ⟨part, hpart, rfl⟩ := List.mem_map.1 hm
        exact hmem ⟨part, hpart, Section.key_inj hkey⟩
    · rintro ⟨part, hpart, hin⟩
      exact hmem ⟨part, hpart, (chosen.home part hpart s hin).symm.trans hs⟩

/-- **A part of a configuration is read with the defaults for everything else.** -/
theorem ofJson?_excerpt (source : Source) (hc : c.Fits) (chosen : Choice) {c' : Config}
    (hc' : ∀ s : Setting, s.get c' = if chosen.Has s then s.get c else s.get {}) :
    ofJson? source (c.excerpt chosen) = some c' := by
  refine ofJson?_eq_some_iff.2 ⟨?_, fun place => ?_⟩
  · refine isRecord_object_iff.2 (isStrict_obj (fun m hm => ?_) (nodup_sectionKeys c chosen))
    obtain ⟨part, hpart, rfl⟩ := List.mem_map.1 hm
    exact List.mem_map_of_mem (by cases part.1 <;> decide)
  · obtain ⟨settings, hpart, hnodup, hhome, hhas⟩ := exists_part_excerpt c chosen place
    rw [hpart]
    refine isReadFrom_settingsToJson hc hnodup hhome fun s hs => ?_
    rw [hc' s]
    exact if_congr (hhas s hs) rfl rfl

/-- **A whole configuration is read as it was written.** -/
theorem ofJson?_toJson (source : Source) (hc : c.Fits) : ofJson? source c.toJson = some c := by
  rw [← excerpt_all]
  exact ofJson?_excerpt source hc .all fun s => (if_pos (Choice.has_all s)).symm

/-! ## What is written -/

theorem Setting.writes_toJson (s : Setting) (x : s.Value) :
    Writes (.value (s.toJson x)) (Json.write (s.toJson x)) := by
  cases s with
  | listenAddr | pagesUrl | apiUrl | secret | onboardingPath | serviceName | logLevel =>
    exact Json.writes_str x
  | pagesTimeout | requestTimeout | ruleTimeout => exact Json.writes_nat x
  | cookieNames | exemptPrefixes =>
    refine Json.writes_array fun e he => ?_
    obtain ⟨text, -, rfl⟩ := List.mem_map.1 he
    exact Json.writes_str text
  | allowBearer | metricsEnabled => exact Json.writes_bool x
  | app => exact Json.writes_str _
  | basePath => exact Json.writes_ofOption Json.writes_str
  | logFormat => exact Json.writes_str _

/-- A part of a configuration as it is written is one of its texts. -/
theorem isDocument_render_excerpt (c : Config) (chosen : Choice) :
    IsDocument (c.excerpt chosen) (c.excerpt chosen).render := by
  refine Json.isDocument_render (Json.writes_obj fun m hm => ?_)
  obtain ⟨part, -, rfl⟩ := List.mem_map.1 hm
  refine Json.writes_obj fun m hm => ?_
  obtain ⟨s, -, rfl⟩ := List.mem_map.1 hm
  exact Setting.writes_toJson s (s.get c)

end Config

namespace Loader

open Config
open Json (IsDocument)

variable {tree : Json} {text : String}

theorem withText_json_eq (l : Loader) (text : String) :
    l.withText text "json" = (Loader.ofJson text).map fun c => { l with config := c } := by
  have hformat : Text.lower "json" = "json" := by decide
  simp [withText, hformat]

theorem withText_of_ofJson?_eq_some (l : Loader) (htext : IsDocument tree text) {c : Config}
    (h : Config.ofJson? .json tree = some c) :
    l.withText text "json" = .ok { l with config := c } := by
  rw [withText_json_eq, Loader.ofJson, Json.parse_of_isDocument htext, Option.bind_some, h]
  rfl

theorem withText_of_ofJson?_eq_none (l : Loader) (htext : IsDocument tree text)
    (h : Config.ofJson? .json tree = none) : l.withText text "json" = .error .json := by
  rw [withText_json_eq, Loader.ofJson, Json.parse_of_isDocument htext, Option.bind_some, h]
  rfl

/-- **What is written of a configuration is read back, and nothing else passes.**  A text of any
part of it is read as that part with the defaults for everything else, the texts of the whole as the
whole, and no text in which the document or a section has a key that it should not have, or has a
key twice. -/
theorem withText_json (l : Loader) {c : Config} (hc : c.Fits) :
    (∀ (chosen : Choice) (text : String), IsDocument (c.excerpt chosen) text →
      ∃ c', l.withText text "json" = .ok { l with config := c' } ∧
        ∀ s : Setting, s.get c' = if chosen.Has s then s.get c else s.get {}) ∧
    (∀ text, IsDocument c.toJson text → l.withText text "json" = .ok { l with config := c }) ∧
    l.withText c.toJson.render "json" = .ok { l with config := c } ∧
    ∀ (ms : List (Option String × Json)) (text : String), IsDocument (.object ms) text →
      (¬ IsStrict Section.keys ms ∨
        ∃ place fs, (some (Section.key place), .object fs) ∈ ms ∧ ¬ IsStrict place.fields fs) →
      l.withText text "json" = .error .json := by
  have hwhole (text : String) (htext : IsDocument c.toJson text) :
      l.withText text "json" = .ok { l with config := c } :=
    withText_of_ofJson?_eq_some l htext (ofJson?_toJson .json hc)
  refine ⟨fun chosen text htext => ?_, hwhole, hwhole _ (isDocument_render_excerpt c .all),
    fun ms text htext hstray => ?_⟩
  · have hget (s : Setting) := Setting.get_ofValues
      (fun s : Setting => if chosen.Has s then s.get c else s.get {}) s
    exact ⟨_, withText_of_ofJson?_eq_some l htext (ofJson?_excerpt .json hc chosen hget), hget⟩
  · exact withText_of_ofJson?_eq_none l htext (ofJson?_of_not_isStrict hstray)

/-- Two sections and three settings in another order than theirs, with a secret that has to be
escaped and the greatest number; and a section that is there twice. -/
theorem withText_json_reordered :
    let c : Config :=
      { gateway := { pagesTimeout := Json.maxWord }, session := { secret := "\"ü\\\n" },
        app := { basePath := some "/portal" } }
    let partly := "\x7b\"session\":\x7b\"allow_bearer\":true,\"secret\":\"\\\"ü\\\\\\n\"\x7d," ++
      "\"gateway\":\x7b\"upstream_timeout_ms\":18446744073709551615\x7d\x7d"
    let twice := "\x7b\"app\":\x7b\x7d,\"app\":\x7b\x7d\x7d"
    c.Fits ∧
      (∃ c', ({} : Loader).withText partly "json" = .ok { config := c' } ∧
        c'.session.secret = c.session.secret ∧ c'.gateway.pagesTimeout = c.gateway.pagesTimeout ∧
        c'.app.basePath = none) ∧
      ({} : Loader).withText twice "json" = .error .json := by
  intro c partly twice
  have hc : c.Fits := by
    intro s
    cases s <;> decide
  obtain ⟨hpart, -, -, hstray⟩ := withText_json {} hc
  let chosen : Choice :=
    ⟨[(.session, [.allowBearer, .secret]), (.gateway, [.pagesTimeout])],
      by decide, by decide, by decide⟩
  have hpartly : partly = (c.excerpt chosen).render := by decide +kernel
  obtain ⟨c', hload, hget⟩ := hpart chosen partly (hpartly ▸ isDocument_render_excerpt c chosen)
  let repeated : Json := Json.obj [("app", Json.obj []), ("app", Json.obj [])]
  have htwice : twice = repeated.render := by decide +kernel
  have hrepeated : IsDocument repeated twice := by
    refine htwice ▸ Json.isDocument_render (Json.writes_obj fun m hm => ?_)
    simp only [List.mem_cons, List.not_mem_nil, or_false, or_self] at hm
    subst hm
    exact Json.writes_obj fun m hm => by cases hm
  refine ⟨hc, ⟨c', hload, ?_, ?_, ?_⟩, hstray _ _ hrepeated (.inl fun h => ?_)⟩
  · exact (hget .secret).trans (if_pos (by decide))
  · exact (hget .pagesTimeout).trans (if_pos (by decide))
  · exact (hget .basePath).trans (if_neg (by decide))
  · exact absurd h.distinct (by decide)

end Loader
end Gatehouse
