import Autosampler.Toml.Value

/-!
# Moments written as tables

A table whose first entry has a certain name is no table: it stands for the moment that the text of
this entry tells, and its other entries do not count.

* `momentMark` — the name;
* `Value.settle`, `settleItems`, `settleEntries` — values with the moments in place of such tables.
-/

namespace Autosampler.Toml

/-- The name that makes a table a moment. -/
def momentMark : String := "$__toml_private_datetime"

/-- The first entry has the name that makes a table a moment. -/
def isMarked (entries : List (String × Value)) : Bool :=
  match entries with
  | [] => false
  | (name, _) :: _ => name == momentMark

/-- The moment that the first entry tells. -/
def markedMoment? : List (String × Value) → Option Moment
  | (_, .text s) :: _ => Moment.ofText? s
  | _ => none

mutual

/-- The value with moments in place of the tables that stand for them, if all of those can be
read. -/
def Value.settle : Value → Option Value
  | .list items => (settleItems items).map .list
  | .table entries =>
    if isMarked entries then (markedMoment? entries).map .moment
    else (settleEntries entries).map .table
  | .text s => some (.text s)
  | .integer n => some (.integer n)
  | .real r => some (.real r)
  | .bool b => some (.bool b)
  | .moment m => some (.moment m)

/-- Items with moments in place of tables. -/
def settleItems : List Value → Option (List Value)
  | [] => some []
  | item :: items =>
    match item.settle, settleItems items with
    | some item', some items' => some (item' :: items')
    | _, _ => none

/-- Entries with moments in place of tables. -/
def settleEntries : List (String × Value) → Option (List (String × Value))
  | [] => some []
  | (name, value) :: entries =>
    match value.settle, settleEntries entries with
    | some value', some entries' => some ((name, value') :: entries')
    | _, _ => none

end

end Autosampler.Toml
