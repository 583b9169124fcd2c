/-!
# Entries by key

A list of entries, each a key and a value, in which a key stands once. An entry
keeps the place where its key came first, whatever becomes of its value later.
-/

namespace ShaderGraph.Keyed

variable {κ α : Type} [DecidableEq κ]

/-- The value of a key. -/
def find? (key : κ) (entries : List (κ × α)) : Option α :=
  (entries.find? (·.1 == key)).map (·.2)

/-- The value of a key changed. The change sees the value that is there, if there is
one; a key that is new comes last. -/
def change (key : κ) (f : Option α → α) : List (κ × α) → List (κ × α)
  | [] => [(key, f none)]
  | entry :: rest =>
    if entry.1 == key then (key, f (some entry.2)) :: rest
    else entry :: change key f rest

/-- A value set under a key, whatever was there. -/
def set (key : κ) (value : α) (entries : List (κ × α)) : List (κ × α) :=
  change key (fun _ => value) entries

/-- Entries set one after the other: each key once, at its first place, with its last
value. -/
def gather (entries : List (κ × α)) : List (κ × α) :=
  entries.foldl (fun gathered entry => set entry.1 entry.2 gathered) []

/-- How often each key comes, counted key by key. -/
def tally (keys : List κ) : List (κ × Nat) :=
  keys.foldl (fun counts key => change key (fun count => count.getD 0 + 1) counts) []

end ShaderGraph.Keyed
