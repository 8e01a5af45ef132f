/-!
# Tables

A table is a list of rows with different keys, in the order in which the keys came up
first.

* `ContractSchema.Table.insert` sets the value of a key.
* `ContractSchema.Table.ofRows` makes a table of rows with any keys: the last value of a
  key wins.
-/

namespace ContractSchema.Table

variable {α : Type}

/-- Sets the value of a key, in its row if there is one, and in a new row at the end if not. -/
def insert (key : String) (value : α) : List (String × α) → List (String × α)
  | [] => [(key, value)]
  | (k, v) :: rest => if k = key then (key, value) :: rest else (k, v) :: insert key value rest

/-- The table of the given rows. -/
def ofRows (rows : List (String × α)) : List (String × α) :=
  rows.foldl (fun table (key, value) => insert key value table) []

end ContractSchema.Table
