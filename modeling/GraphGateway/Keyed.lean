/-!
# Lists sorted by key

A map from texts to values is kept as a list of pairs whose keys strictly
increase in the order of code points, which is the order of their UTF-8
octets. So a map has one form, and two maps are equal exactly when their
lists are.

`Keyed.insert` and `Keyed.erase` keep the form, `List.lookup` looks a key
up.
-/

namespace GraphGateway.Keyed

variable {α : Type}

/-- **Puts a value under a key**, in place of the value that was there. -/
def insert (key : String) (value : α) : List (String × α) → List (String × α)
  | [] => [(key, value)]
  | (k, v) :: rest =>
    if k == key then (key, value) :: rest
    else if key < k then (key, value) :: (k, v) :: rest
    else (k, v) :: insert key value rest

/-- The list without a key. -/
def erase (key : String) (entries : List (String × α)) : List (String × α) :=
  entries.filter fun entry => entry.1 != key

/-- **The map of some pairs**; of pairs with one key the last counts. -/
def ofList (entries : List (String × α)) : List (String × α) :=
  entries.foldl (fun map entry => insert entry.1 entry.2 map) []

/-- The values, in the order of their keys. -/
def values (entries : List (String × α)) : List α := entries.map Prod.snd

end GraphGateway.Keyed
