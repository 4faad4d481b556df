/-!
# Registries

A registry is a list of keys with values that is kept in the order of its keys,
with each key once.
-/

namespace Atomistic

namespace Registry

variable {κ α : Type} [Ord κ]

/-- The value stored under a key. -/
def find? (entries : List (κ × α)) (key : κ) : Option α :=
  (entries.find? fun entry => compare key entry.1 == .eq).map Prod.snd

/-- Whether a key is present. -/
def contains (entries : List (κ × α)) (key : κ) : Bool := (find? entries key).isSome

/-- Store a value under a key, at its place in the order.  A key that is present
stays as it is, and its value is replaced. -/
def insert (key : κ) (value : α) : List (κ × α) → List (κ × α)
  | [] => [(key, value)]
  | (other, old) :: rest =>
    match compare key other with
    | .lt => (key, value) :: (other, old) :: rest
    | .eq => (other, value) :: rest
    | .gt => (other, old) :: insert key value rest

/-- The registry of a list of keys with values; the last value of a key
counts. -/
def ofList (entries : List (κ × α)) : List (κ × α) :=
  entries.foldl (fun registry entry => insert entry.1 entry.2 registry) []

end Registry

end Atomistic
