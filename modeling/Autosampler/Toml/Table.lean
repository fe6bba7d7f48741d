import Autosampler.Toml.Value

/-!
# Tables in the making

The tables of a settings file grow entry by entry, and a table that is finished in one place
cannot be continued in another.  So every table remembers how it came to be.

* `Key` — a key with dots;
* `Node`, `Entries`, `Node.value` — tables in the making, and the values that they become;
* `within` — a change of the table at the end of a path;
* `openTable`, `openElement`, `enter` — a header, a header of one more element, and a key with its
  value.
-/

namespace Autosampler.Toml

/-- A key: the names before the last, and the last. -/
structure Key where
  path : List String
  name : String
deriving DecidableEq

/-- All names of a key. -/
def Key.names (key : Key) : List String := key.path ++ [key.name]

/-! ### Nodes -/

/-- How a table came to be. -/
inductive Origin where
  /-- It has a header of its own. -/
  | header
  /-- It stands on the way to a table with a header. -/
  | path
  /-- It was named inside a key with dots. -/
  | dotted
deriving DecidableEq

/-- What an entry holds in the making. -/
inductive Node where
  | leaf (value : Value)
  | table (origin : Origin) (entries : List (String × Node))
  | tables (elements : List (List (String × Node)))

/-- The entries of a table in the making, in order and with different names. -/
abbrev Entries := List (String × Node)

mutual

/-- The value that a node becomes. -/
def Node.value : Node → Value
  | .leaf value => value
  | .table _ entries => .table (entryValues entries)
  | .tables elements => .list (elementValues elements)

/-- The values that entries become. -/
def entryValues : List (String × Node) → List (String × Value)
  | [] => []
  | (name, node) :: rest => (name, node.value) :: entryValues rest

/-- The values that elements become. -/
def elementValues : List (List (String × Node)) → List Value
  | [] => []
  | entries :: rest => .table (entryValues entries) :: elementValues rest

end

/-! ### Changes -/

/-- Change what a name holds; a name that is missing is added at the end. -/
def alter (name : String) (change : Option Node → Option Node) : Entries → Option Entries
  | [] => (change none).map fun node => [(name, node)]
  | (n, node) :: rest =>
    if n = name then (change (some node)).map fun node' => (n, node') :: rest
    else (alter name change rest).map fun rest' => (n, node) :: rest'

/-- Change the table at the end of a path that starts in a table of origin `here`.  A table that
is missing on the way is added with origin `made`, and of several elements the last one counts.  A
dotted key does not lead into a table with a header. -/
def within (made : Origin) (change : Origin → Entries → Option Entries) :
    List String → Origin → Entries → Option Entries
  | [], here, entries => change here entries
  | name :: path, _, entries =>
    entries |> alter name fun
      | none => (within made change path made []).map fun inner => .table made inner
      | some (.leaf _) => none
      | some (.table origin inner) =>
        if made = .dotted ∧ origin = .header then none
        else (within made change path origin inner).map fun inner' => .table origin inner'
      | some (.tables elements) =>
        match elements.getLast? with
        | none => none
        | some last =>
          (within made change path .header last).map fun last' =>
            .tables (elements.dropLast ++ [last'])

/-- Make an entry the last one. -/
def moveLast (name : String) (node : Node) (entries : Entries) : Entries :=
  (entries.filter fun e => e.1 ≠ name) ++ [(name, node)]

/-- A header: the table is new, or it stood on the way only.  It becomes the last entry. -/
def openTable (key : Key) (root : Entries) : Option Entries :=
  within .path (fun _ entries =>
    match (entries.find? fun e => e.1 = key.name).map Prod.snd with
    | none => some (moveLast key.name (.table .header []) entries)
    | some (.table .path inner) => some (moveLast key.name (.table .header inner) entries)
    | some _ => none) key.path .header root

/-- A header of one more element. -/
def openElement (key : Key) (root : Entries) : Option Entries :=
  within .path (fun _ => alter key.name fun
    | none => some (.tables [[]])
    | some (.tables elements) => some (.tables (elements ++ [[]]))
    | some _ => none) key.path .header root

/-- A key with its value, in a table of origin `here`.  Names are not given twice, and a table
that is named inside the key was not made in another way. -/
def enter (key : Key) (value : Value) (here : Origin) (entries : Entries) : Option Entries :=
  within .dotted (fun origin inner =>
    if key.path ≠ [] ∧ origin ≠ .dotted then none
    else
      inner |> alter key.name fun
        | none => some (.leaf value)
        | some _ => none) key.path here entries

/-- The table of keys with their values. -/
def inlineTable? (pairs : List (Key × Value)) : Option Value :=
  (pairs.foldlM (fun entries pair => enter pair.1 pair.2 .header entries) []).map fun entries =>
    .table (entryValues entries)

end Autosampler.Toml
