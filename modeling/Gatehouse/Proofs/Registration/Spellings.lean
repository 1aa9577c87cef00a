import Gatehouse.Proofs.Json.Layouts
import Gatehouse.Proofs.Registration.OverNetwork

/-!
# The spellings of a record

The registration backend does not always write a record in the same way.  The keys come in any order
and among others, each of them is in one or the other of two spellings, whatever the rest are in, an
operator's identifier is a number now and then, and an operator without a name may have none.  All
of these objects are the record (`Facts.Spells`).  What is not left to the reader is to choose: an
object that gives a field twice is no record, not even if it says the same both times
(`Facts.GivesTwice`).

* `Facts.ofJson?_of_spells`, `Facts.ofJson?_of_givesTwice` — what is made of such objects.
* `Remote.facts?_spellings` — what is found in a body that holds such an object.
-/

set_option autoImplicit false

namespace Gatehouse

namespace Facts

variable {facts : Facts} {ms : List (Option String × Json)}

/-! ## Objects that are a record -/

/-- The ways to give an operator's identifier: as a text, and as a number of at most 64 bits if its
digits are the identifier. -/
inductive SpellsId : String → Json → Prop
  | text (id : String) : SpellsId id (Json.str id)
  | number {n : Nat} (h : n ≤ Json.maxWord) : SpellsId (toString n) (Json.nat n)

/-- The ways to give an operator's name, of which one is not to give it. -/
inductive SpellsName : String → List (String × Json) → Prop
  | under {key : String} (name : String)
      (hkey : key ∈ ["operatorLegalName", "operator_legal_name"]) :
      SpellsName name [(key, Json.str name)]
  | omitted : SpellsName "" []

/-- The members of an object that is a record: the fields, each under one of its names, and any
others, in any order. -/
inductive Spells (facts : Facts) (ms : List (Option String × Json)) : Prop
  | members {idKey statusKey : String} {id : Json} {name others : List (String × Json)}
      (hidKey : idKey ∈ ["operatorId", "operator_id"]) (hid : SpellsId facts.operatorId id)
      (hstatusKey : statusKey ∈ ["operatorStatus", "operator_status"])
      (hname : SpellsName facts.legalName name)
      (hothers : ∀ m ∈ others, ∀ names ∈ layout.names, m.1 ∉ names)
      (hms : ms.Perm
        ((([("status", Vocabulary.toJson facts.access), (idKey, id),
          (statusKey, Vocabulary.toJson facts.operator)] ++ name) ++ others).map
            fun m => (some m.1, m.2)))

theorem operatorId?_of_spellsId {id : String} {v : Json} (h : SpellsId id v) :
    operatorId? v = some id := by
  cases h with
  | text => rfl
  | number h =>
    show (Json.word64? (Json.nat _)).map _ = _
    rw [Json.nat, Json.word64?, if_pos h, Option.map_some]

theorem withDefault?_of_spellsName {name : String} {named : List (String × Json)}
    {a b c : Option Json} (h : SpellsName name named) :
    Json.Slots.withDefault? ⟨[a, b, c, named.head?.map Prod.snd], false⟩ 3 "" Json.text? =
      some name := by
  cases h with
  | under | omitted => rfl

/-- Each value gets to the place of its field, under whichever key it is given. -/
theorem slots?_of_keys {idKey statusKey name : String} (access id status : Json)
    {named : List (String × Json)} (hidKey : idKey ∈ ["operatorId", "operator_id"])
    (hstatusKey : statusKey ∈ ["operatorStatus", "operator_status"])
    (hname : SpellsName name named) :
    Json.slots? .json layout
        (Json.obj ([("status", access), (idKey, id), (statusKey, status)] ++ named)) =
      some ⟨[some access, some id, some status, named.head?.map Prod.snd], false⟩ := by
  simp only [List.mem_cons, List.not_mem_nil, or_false] at hidKey hstatusKey
  cases hname with
  | omitted =>
    obtain rfl | rfl := hidKey
    all_goals
      obtain rfl | rfl := hstatusKey
      all_goals rfl
  | under _ hkey =>
    simp only [List.mem_cons, List.not_mem_nil, or_false] at hkey
    obtain rfl | rfl := hidKey
    all_goals
      obtain rfl | rfl := hstatusKey
      all_goals
        obtain rfl | rfl := hkey
        all_goals rfl

/-- A record is read if each of its fields is. -/
theorem ofJson?_of_fields {v : Json} {slots : Json.Slots}
    (h : Json.slots? .json layout v = some slots)
    (haccess : slots.required? 0 (Json.vocabulary? .json) = some facts.access)
    (hid : slots.required? 1 operatorId? = some facts.operatorId)
    (hstatus : slots.required? 2 (Json.vocabulary? .json) = some facts.operator)
    (hname : slots.withDefault? 3 "" Json.text? = some facts.legalName) :
    ofJson? v = some facts := by
  simp [ofJson?, h, haccess, hid, hstatus, hname]

/-- **Every spelling of a record is read as the record.** -/
theorem ofJson?_of_spells (h : facts.Spells ms) : ofJson? (.object ms) = some facts := by
  obtain @⟨idKey, statusKey, id, named, others, hidKey, hid, hstatusKey, hname, hothers, hms⟩ := h
  have hslots :=
    slots?_of_keys (Vocabulary.toJson facts.access) id (Vocabulary.toJson facts.operator)
    hidKey hstatusKey hname
  rw [Json.obj, ← Json.slots?_append_of_unnamed rfl hothers, ← List.map_append,
    ← Json.slots?_perm hms] at hslots
  have haccess : Json.vocabulary? .json (Vocabulary.toJson facts.access) = some facts.access := by
    cases facts.access with
    | pending | approved | declined => rfl
  have hoperator :
      Json.vocabulary? .json (Vocabulary.toJson facts.operator) = some facts.operator := by
    cases facts.operator with
    | draft | pending | approved | declined => rfl
  exact ofJson?_of_fields hslots haccess (operatorId?_of_spellsId hid) hoperator
    (withDefault?_of_spellsName hname)

/-- What is written for a record is one of its spellings. -/
theorem spells_toJson (facts : Facts) : ∃ ms, facts.toJson = .object ms ∧ facts.Spells ms := by
  exact ⟨_, rfl, .members List.mem_cons_self (.text _) List.mem_cons_self
    (.under _ List.mem_cons_self) (fun m hm => absurd hm List.not_mem_nil) (.refl _)⟩

/-! ## Objects that give a field twice -/

/-- Some field is given twice, under the same name or under both. -/
def GivesTwice (ms : List (Option String × Json)) : Prop :=
  ∃ names ∈ layout.names, ∃ a ∈ names, ∃ b ∈ names, ∃ v w : Json,
    [(some a, v), (some b, w)].Sublist ms

/-- **What gives a field twice is no record.** -/
theorem ofJson?_of_givesTwice (h : GivesTwice ms) : ofJson? (.object ms) = none := by
  obtain ⟨names, hnames, a, ha, b, hb, v, w, hsub⟩ := h
  rw [ofJson?, Json.slots?_eq_none_of_twice hnames ha hb hsub]
  rfl

end Facts

/-! ## Bodies -/

namespace Registration
namespace Remote

/-- What is found in every body that holds an object, however the object is written in it: in every
text of the object, and in all other bytes that are read as the object. -/
def Finds (ms : List (Option String × Json)) (found : Option Facts) : Prop :=
  (∀ text, Json.IsDocument (.object ms) text → facts? (Text.bytes text) = found) ∧
    ∀ body, Json.parseBytes body = some (.object ms) → facts? body = found

theorem finds_ofJson? (ms : List (Option String × Json)) :
    Finds ms (Facts.ofJson? (.object ms)) := by
  have hread : ∀ body, Json.parseBytes body = some (.object ms) →
      facts? body = Facts.ofJson? (.object ms) := by
    intro body hbody
    rw [facts?, hbody, Option.bind_some]
  refine ⟨fun text htext => hread _ ?_, hread⟩
  rw [Json.parseBytes_bytes, Json.parse_of_isDocument htext]

/-- **A record is found in every spelling of it, and none where a field is given twice.**  So it is
found in what is written for it. -/
theorem facts?_spellings (facts : Facts) :
    (∀ ms, facts.Spells ms → Finds ms (some facts)) ∧
    (∀ ms, Facts.GivesTwice ms → Finds ms none) ∧
    facts? (Text.bytes facts.toJson.render) = some facts := by
  have hspellings : ∀ ms, facts.Spells ms → Finds ms (some facts) := by
    intro ms hspells
    rw [← Facts.ofJson?_of_spells hspells]
    exact finds_ofJson? ms
  refine ⟨hspellings, fun ms htwice => ?_, ?_⟩
  · rw [← Facts.ofJson?_of_givesTwice htwice]
    exact finds_ofJson? ms
  · obtain ⟨ms, hms, hspells⟩ := facts.spells_toJson
    refine (hspellings ms hspells).2 _ ?_
    rw [← hms]
    exact Json.parseBytes_render facts.writes_toJson

end Remote
end Registration
end Gatehouse
