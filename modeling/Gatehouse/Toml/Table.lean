import Gatehouse.Json.Basic

/-!
# Tables under construction

A TOML document names its tables in headers and in keys with points, in almost any order, and a
table may be begun in one place and continued in another.  What may be continued depends on how the
table came about, which is its `Origin`:

* a table with a header of its own is complete: no second header may name it, and no key with points
  may reach into it from outside;
* a table that is only on the way to another header may still get a header of its own;
* a table made by a key with points may be continued by such keys, in the same table, and by nothing
  else.
-/

set_option autoImplicit false

namespace Gatehouse
namespace Toml

/-- How a table came about. -/
inductive Origin where
  /-- It has a header, or is the whole document. -/
  | header
  /-- It is named on the way to a header. -/
  | implied
  /-- It is named in a key with points. -/
  | dotted
deriving Repr, DecidableEq

/-- What stands under a key. -/
inductive Node where
  | value (v : Json)
  | table (origin : Origin) (items : List (String × Node))
  /-- A list of tables that have a header each. -/
  | tables (list : List (List (String × Node)))

/-- The contents of a table. -/
abbrev Items := List (String × Node)

namespace Node

mutual

/-- The value of a node. -/
def toJson : Node → Json
  | .value v => v
  | .table _ items => .object (itemsToJson items)
  | .tables list => .array (listToJson list)

/-- The members of a table. -/
def itemsToJson : List (String × Node) → List (Option String × Json)
  | [] => []
  | (key, node) :: rest => (some key, node.toJson) :: itemsToJson rest

/-- The values of some tables. -/
def listToJson : List (List (String × Node)) → List Json
  | [] => []
  | items :: rest => .object (itemsToJson items) :: listToJson rest

end

end Node

namespace Items

/-- The contents with something else under a key that is there. -/
def replace (items : Items) (key : String) (node : Node) : Items :=
  items.map fun item => if item.1 = key then (key, node) else item

/-- A change to the table at the end of a path; tables that are not there yet are made, with a given
origin.  Keys with points do not reach into a table that has a header. -/
def change (made : Origin) (f : Origin → Items → Option (Origin × Items)) :
    List String → Origin → Items → Option (Origin × Items)
  | [], origin, items => f origin items
  | key :: path, origin, items =>
    match items.lookup key with
    | none => (change made f path made []).map fun r => (origin, items ++ [(key, .table r.1 r.2)])
    | some (.value _) => none
    | some (.table inner contents) =>
      if made = .dotted ∧ inner = .header then none
      else
        (change made f path inner contents).map fun r =>
          (origin, items.replace key (.table r.1 r.2))
    | some (.tables list) =>
      match list.getLast? with
      | none => none
      | some contents =>
        (change made f path .header contents).map fun r =>
          (origin, items.replace key (.tables (list.dropLast ++ [r.2])))

/-- The contents after a value has been put under a key with points in front of its last part. -/
def assign (path : List String) (key : String) (v : Json) (origin : Origin) (items : Items) :
    Option (Origin × Items) :=
  change .dotted (fun inner contents =>
    if (inner = .dotted) = path.isEmpty then none
    else if (contents.lookup key).isSome then none
    else some (inner, contents ++ [(key, .value v)])) path origin items

/-- The contents after a header has named a table. -/
def openTable (key : String) (origin : Origin) (items : Items) : Option (Origin × Items) :=
  match items.lookup key with
  | none => some (origin, items ++ [(key, .table .header [])])
  | some (.table .implied contents) => some (origin, items.replace key (.table .header contents))
  | some _ => none

/-- The contents after a header has named one more table of a list. -/
def openElement (key : String) (origin : Origin) (items : Items) : Option (Origin × Items) :=
  match items.lookup key with
  | none => some (origin, items ++ [(key, .tables [[]])])
  | some (.tables list) => some (origin, items.replace key (.tables (list ++ [[]])))
  | some _ => none

end Items

/-! ## Statements -/

/-- One statement of a document.  Paths are given with their last key apart. -/
inductive Statement where
  | table (path : List String) (key : String)
  | element (path : List String) (key : String)
  | assign (path : List String) (key : String) (v : Json)

/-- A document under construction: its contents, and the path of the table that is being filled. -/
structure Draft where
  items : Items := []
  current : List String := []

namespace Draft

/-- The document after a change to one of its tables. -/
def change (d : Draft) (path : List String) (f : Origin → Items → Option (Origin × Items)) :
    Option Draft :=
  (Items.change .implied f path .header d.items).map fun r => { d with items := r.2 }

/-- The document after one more statement. -/
def add (d : Draft) : Statement → Option Draft
  | .table path key =>
    (d.change path (Items.openTable key)).map fun d => { d with current := path ++ [key] }
  | .element path key =>
    (d.change path (Items.openElement key)).map fun d => { d with current := path ++ [key] }
  | .assign path key v => d.change d.current (Items.assign path key v)

/-- The value of a list of statements. -/
def build? (statements : List Statement) : Option Json :=
  (statements.foldlM add {}).map fun d => .object (Node.itemsToJson d.items)

end Draft

/-- The value of the assignments in braces. -/
def inlineTable? (assignments : List (List String × String × Json)) : Option Json :=
  (assignments.foldlM (fun r a => Items.assign a.1 a.2.1 a.2.2 r.1 r.2) (Origin.header, [])).map
    fun r => .object (Node.itemsToJson r.2)

end Toml
end Gatehouse
