import Gatehouse.Config.Loader
import Gatehouse.Proofs.Config.Trees
import Mathlib.Data.List.Induction

/-!
# Steps of loading

A configuration is loaded in steps: from a preset, then from documents, which are texts and files.
One would have it that a document changes the settings that it mentions and leaves the others as the
steps before it made them.  But every document is read by itself, so that what it leaves out has its
default, whatever was loaded before.

* `Setting.layered` — the value of a setting if every document changed what it mentions.
* `Step.cases_of_apply` — what a step does.
* `Loader.run_get_eq_layered_iff` — when the value that is loaded is that one.
* `Loader.preset_forgotten` — a preset of which nothing is left.
-/

set_option autoImplicit false

namespace Gatehouse
namespace Loader

open Config
open Json (Source)

/-! ## Steps -/

/-- A step of loading. -/
inductive Step where
  | defaults
  | development
  | text (content format : String)
  | file (path : String)
  | optionalFile (path : String)
deriving Repr, DecidableEq

/-- A document that was read: its tree, and the kind of text that it stood in. -/
structure Document where
  source : Source
  tree : Json

/-- A document in a format, if it is one. -/
def document? (content : String) : Option String → Option Document
  | some "toml" => (Toml.parse? content).map (Document.mk .toml)
  | some "json" => (Json.parse content).map (Document.mk .json)
  | _ => none

/-- The document in a file, if there is one. -/
def documentIn? (files : Directory) (path : String) : Option Document :=
  match files.entry? path with
  | some (.file content) =>
    (Text.Utf8.decode? content).bind fun text => document? text ((suffix? path).map Text.lower)
  | _ => none

namespace Step

/-- What a step does. -/
def apply (files : Directory) (l : Loader) : Step → Except ConfigError Loader
  | .defaults => .ok l.withDefaults
  | .development => .ok l.withDevelopment
  | .text content format => l.withText content format
  | .file path => l.withFile files path
  | .optionalFile path => l.withOptionalFile files path

/-- The configuration that a step starts again from. -/
def preset? : Step → Option Config
  | .defaults => some {}
  | .development => some .development
  | _ => none

/-- The document of a step. -/
def document? (files : Directory) : Step → Option Document
  | .text content format => Loader.document? content (some (Text.lower format))
  | .file path | .optionalFile path => documentIn? files path
  | _ => none

end Step

/-- The steps one after the other, as long as they succeed. -/
def run (files : Directory) (l : Loader) (steps : List Step) : Except ConfigError Loader :=
  steps.foldlM (Step.apply files) l

/-- What a document says about a setting, if it mentions it. -/
def Document.value? (d : Document) (s : Setting) : Option s.Value :=
  (s.valueIn? d.tree).bind (s.ofJson? d.source)

/-- A document mentions a setting. -/
def Document.Mentions (d : Document) (s : Setting) : Prop :=
  s.valueIn? d.tree ≠ none

/-- The value of a setting after a step that changes what it mentions: a preset mentions
everything. -/
def Step.settle (files : Directory) (s : Setting) (x : s.Value) (step : Step) : s.Value :=
  match step.preset? with
  | some c => s.get c
  | none => ((step.document? files).bind fun d => d.value? s).getD x

/-- The value that a setting has after some steps, if every document changes what it mentions: the
last document after the last preset that mentions it counts, and if there is none the preset. -/
def layered (files : Directory) (s : Setting) (x : s.Value) (steps : List Step) : s.Value :=
  steps.foldl (Step.settle files s) x

/-- The last document after the last preset. -/
def lastDocument? (files : Directory) (steps : List Step) : Option Document :=
  steps.foldl (fun last step =>
    if step.preset?.isSome then none else (step.document? files).or last) none

section Steps

variable {files : Directory} {l l' : Loader} {steps : List Step} {step : Step} {s : Setting}

/-! ## What one step does -/

theorem exists_of_map_eq_ok {α β : Type} {x : Except ConfigError α} {f : α → β} {b : β}
    (h : x.map f = .ok b) : ∃ a, x = .ok a ∧ f a = b := by
  cases x with
  | error e => cases h
  | ok a =>
    cases h
    exact ⟨a, rfl, rfl⟩

/-- What is read of a tree is read of a document. -/
theorem exists_document_of_bind {source : Source} {tree? : Option Json} {c : Config}
    (h : tree?.bind (Config.ofJson? source) = some c) :
    ∃ d, tree?.map (Document.mk source) = some d ∧ Config.ofJson? d.source d.tree = some c := by
  obtain ⟨tree, rfl, hc⟩ := Option.bind_eq_some_iff.1 h
  exact ⟨⟨source, tree⟩, rfl, hc⟩

theorem of_ofToml_eq_ok {content : String} {c : Config} (h : ofToml content = .ok c) :
    ∃ d, document? content (some "toml") = some d ∧ Config.ofJson? d.source d.tree = some c := by
  rw [ofToml] at h
  split at h
  · next c' hread =>
    cases h
    exact exists_document_of_bind hread
  · cases h

theorem of_ofJson_eq_ok {content : String} {c : Config} (h : ofJson content = .ok c) :
    ∃ d, document? content (some "json") = some d ∧ Config.ofJson? d.source d.tree = some c := by
  rw [ofJson] at h
  split at h
  · next c' hread =>
    cases h
    exact exists_document_of_bind hread
  · cases h

theorem of_withText_eq_ok {content format : String} (h : l.withText content format = .ok l') :
    ∃ d, document? content (some (Text.lower format)) = some d ∧
      Config.ofJson? d.source d.tree = some l'.config := by
  rw [withText] at h
  split at h
  · next hformat =>
    obtain ⟨c, hc, rfl⟩ := exists_of_map_eq_ok h
    rw [hformat]
    exact of_ofToml_eq_ok hc
  · next hformat =>
    obtain ⟨c, hc, rfl⟩ := exists_of_map_eq_ok h
    rw [hformat]
    exact of_ofJson_eq_ok hc
  · cases h

theorem of_ofFile_eq_ok {path content : String} {c : Config} (h : ofFile path content = .ok c) :
    ∃ d, document? content ((suffix? path).map Text.lower) = some d ∧
      Config.ofJson? d.source d.tree = some c := by
  rw [ofFile] at h
  split at h
  · next hsuffix =>
    rw [hsuffix]
    exact of_ofToml_eq_ok h
  · next hsuffix =>
    rw [hsuffix]
    exact of_ofJson_eq_ok h
  · cases h

theorem of_withFile_eq_ok {path : String} (h : l.withFile files path = .ok l') :
    ∃ d, documentIn? files path = some d ∧ Config.ofJson? d.source d.tree = some l'.config := by
  rw [withFile] at h
  split at h
  · cases h
  · cases h
  · next content hentry =>
    split at h
    · cases h
    · next text htext =>
      obtain ⟨c, hc, rfl⟩ := exists_of_map_eq_ok h
      rw [documentIn?, hentry]
      dsimp only
      rw [htext]
      exact of_ofFile_eq_ok hc

/-- **What a step does:** it starts again from a preset, or takes the place of everything with a
document, or does nothing. -/
theorem Step.cases_of_apply (h : step.apply files l = .ok l') :
    step.preset? = some l'.config ∨
    (step.preset? = none ∧ ∃ d, step.document? files = some d ∧
      Config.ofJson? d.source d.tree = some l'.config) ∨
    (step.preset? = none ∧ step.document? files = none ∧ l' = l) := by
  cases step with
  | defaults =>
    cases h
    exact .inl rfl
  | development =>
    cases h
    exact .inl rfl
  | text content format => exact .inr (.inl ⟨rfl, of_withText_eq_ok h⟩)
  | file path => exact .inr (.inl ⟨rfl, of_withFile_eq_ok h⟩)
  | optionalFile path =>
    simp only [apply, withOptionalFile] at h
    split at h
    · next hentry =>
      cases h
      exact .inr (.inr ⟨rfl, by rw [document?, documentIn?, hentry], rfl⟩)
    · exact .inr (.inl ⟨rfl, of_withFile_eq_ok h⟩)

/-! ## What the steps do -/

/-- What is true behind some steps: if there is a document behind the last preset, the last one is
the whole configuration, and otherwise every setting is as the preset has it. -/
structure IsBehind (files : Directory) (l : Loader) (steps : List Step) (l' : Loader) : Prop where
  read : ∀ d ∈ lastDocument? files steps, Config.ofJson? d.source d.tree = some l'.config
  said : ∀ d ∈ lastDocument? files steps, ∀ s : Setting, d.Mentions s →
    layered files s (s.get l.config) steps = s.get l'.config
  kept : lastDocument? files steps = none → ∀ s : Setting,
    layered files s (s.get l.config) steps = s.get l'.config

theorem value?_eq_some_of_mentions {d : Document} {c : Config}
    (h : Config.ofJson? d.source d.tree = some c) (hs : d.Mentions s) :
    d.value? s = some (s.get c) := by
  obtain ⟨v, hv⟩ := Option.ne_none_iff_exists'.1 hs
  have hsettle := settle?_of_ofJson? h s
  rw [hv] at hsettle
  rw [Document.value?, hv]
  exact hsettle

theorem get_eq_default_of_not_mentions {d : Document} {c : Config}
    (h : Config.ofJson? d.source d.tree = some c) (hs : ¬ d.Mentions s) : s.get c = s.get {} := by
  have hsettle := settle?_of_ofJson? h s
  rw [not_not.1 hs] at hsettle
  exact (Option.some.inj hsettle).symm

theorem layered_append (x : s.Value) :
    layered files s x (steps ++ [step]) = step.settle files s (layered files s x steps) := by
  rw [layered, layered, List.foldl_append]
  rfl

theorem lastDocument?_append :
    lastDocument? files (steps ++ [step]) =
      if step.preset?.isSome then none
      else (step.document? files).or (lastDocument? files steps) := by
  rw [lastDocument?, lastDocument?, List.foldl_append]
  rfl

theorem run_append :
    run files l (steps ++ [step]) = run files l steps >>= (step.apply files ·) := by
  simp [run]

theorem of_run_append_eq_ok (h : run files l (steps ++ [step]) = .ok l') :
    ∃ l₁, run files l steps = .ok l₁ ∧ step.apply files l₁ = .ok l' := by
  rw [run_append] at h
  cases hrun : run files l steps with
  | error e =>
    rw [hrun] at h
    cases h
  | ok l₁ =>
    rw [hrun] at h
    exact ⟨l₁, rfl, h⟩

/-- One step more. -/
theorem IsBehind.next {l₁ : Loader} (h : IsBehind files l steps l₁)
    (hstep : step.apply files l₁ = .ok l') : IsBehind files l (steps ++ [step]) l' := by
  obtain hpreset | ⟨hpreset, d, hd, hread⟩ | ⟨hpreset, hnone, rfl⟩ := Step.cases_of_apply hstep
  · have hlast : lastDocument? files (steps ++ [step]) = none := by
      rw [lastDocument?_append, hpreset]
      rfl
    refine ⟨by simp [hlast], by simp [hlast], fun _ s => ?_⟩
    rw [layered_append, Step.settle, hpreset]
  · have hlast : lastDocument? files (steps ++ [step]) = some d := by
      rw [lastDocument?_append, hpreset, hd]
      rfl
    refine ⟨?_, ?_, by simp [hlast]⟩
    · intro d' hd'
      cases hlast.symm.trans hd'
      exact hread
    · intro d' hd' s hs
      cases hlast.symm.trans hd'
      rw [layered_append, Step.settle, hpreset]
      dsimp only
      rw [hd, Option.bind_some, value?_eq_some_of_mentions hread hs, Option.getD_some]
  · have hlast : lastDocument? files (steps ++ [step]) = lastDocument? files steps := by
      rw [lastDocument?_append, hpreset, hnone]
      rfl
    have hlayered (s : Setting) (x : s.Value) :
        layered files s x (steps ++ [step]) = layered files s x steps := by
      rw [layered_append, Step.settle, hpreset, hnone]
      rfl
    refine ⟨?_, ?_, ?_⟩
    · rw [hlast]
      exact h.read
    · rw [hlast]
      intro d hd s hs
      rw [hlayered, h.said d hd s hs]
    · rw [hlast]
      intro hnone s
      rw [hlayered, h.kept hnone s]

/-- What is true behind any steps that succeed. -/
theorem isBehind_of_run (h : run files l steps = .ok l') : IsBehind files l steps l' := by
  induction steps using List.reverseRecOn generalizing l' with
  | nil =>
    cases h
    exact ⟨by simp [lastDocument?], by simp [lastDocument?], fun _ s => rfl⟩
  | append_singleton steps step ih =>
    obtain ⟨l₁, hrun, hstep⟩ := of_run_append_eq_ok h
    exact (ih hrun).next hstep

/-- **The value of a setting is the one of the last document that mentions it, or else of the last
preset, just if the last document mentions it, or if that value is the default,** or if there is no
document behind the last preset. -/
theorem run_get_eq_layered_iff (h : run files l steps = .ok l') (s : Setting) :
    s.get l'.config = layered files s (s.get l.config) steps ↔
      ∀ d ∈ lastDocument? files steps,
        d.Mentions s ∨ layered files s (s.get l.config) steps = s.get {} := by
  have hbehind := isBehind_of_run h
  cases hlast : lastDocument? files steps with
  | none => exact iff_of_true (hbehind.kept hlast s).symm (by simp)
  | some d =>
    have hread := hbehind.read d hlast
    by_cases hs : d.Mentions s
    · refine iff_of_true (hbehind.said d hlast s hs).symm fun d' hd' => ?_
      cases hd'
      exact .inl hs
    · rw [get_eq_default_of_not_mentions hread hs]
      constructor
      · intro hdefault d' hd'
        exact .inr hdefault.symm
      · intro hall
        exact ((hall d rfl).resolve_left hs).symm

/-- A document after the preset for development, and a file that is not there: the level of the log
is the one of the document. -/
theorem run_get_eq_layered_iff_warn :
    let steps : List Step :=
      [.development, .text "\x7b\"telemetry\":\x7b\"log_level\":\"warn\"\x7d\x7d" "JSON",
        .optionalFile "portico.toml"]
    let l' : Loader := { config := { telemetry := { logLevel := "warn" } } }
    run [] {} steps = .ok l' ∧
      Setting.logLevel.get l'.config = layered [] .logLevel (Setting.logLevel.get {}) steps := by
  intro steps l'
  have hrun : run [] {} steps = .ok l' := by decide +kernel
  refine ⟨hrun, (run_get_eq_layered_iff hrun .logLevel).2 fun d hd => .inl ?_⟩
  have hmentions :
      (lastDocument? [] steps).all fun d => (Setting.logLevel.valueIn? d.tree).isSome := by
    decide +kernel
  exact Option.isSome_iff_ne_none.1 (Option.all_eq_true _ _ |>.1 hmentions d hd)

/-- Behind a document, nothing is left of the preset for development. -/
theorem preset_forgotten :
    let steps : List Step :=
      [.development, .text "\x7b\"session\":\x7b\"secret\":\"s\"\x7d\x7d" "json"]
    let l' : Loader := { config := { session := { secret := "s" } } }
    run [] {} steps = .ok l' ∧
      layered [] .logLevel (Setting.logLevel.get {}) steps = Setting.logLevel.get .development ∧
      Setting.logLevel.get l'.config ≠ layered [] .logLevel (Setting.logLevel.get {}) steps := by
  intro steps l'
  have hpreset : layered [] .logLevel (Setting.logLevel.get {}) steps =
      Setting.logLevel.get .development := by decide +kernel
  refine ⟨by decide +kernel, hpreset, ?_⟩
  rw [hpreset]
  decide

end Steps

end Loader
end Gatehouse
