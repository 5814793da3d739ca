namespace SignedLedger

abbrev Table (κ α : Type) := List (κ × α)

namespace Table
variable {κ α : Type} [LT κ] [DecidableLT κ] [DecidableEq κ]

def find? (table : Table κ α) (key : κ) : Option α :=
  (List.find? (fun entry => entry.1 = key) table).map Prod.snd

def set (key : κ) (value : α) : Table κ α → Table κ α
  | [] => [(key, value)]
  | (k, old) :: rest =>
    if key < k then (key, value) :: (k, old) :: rest
    else if key = k then (key, value) :: rest
    else (k, old) :: set key value rest

def keys (table : Table κ α) : List κ := table.map Prod.fst

end Table
end SignedLedger
