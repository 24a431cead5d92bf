import SqlTree.Error
import SqlTree.Text.Integer
import SqlTree.Text.Quoted

/-!
Rebuilding groups from rows: consecutive rows with one key are folded into one group, and a group is
put out when the next one starts. A key must not come back once its group is complete.

Keys are checked as in a build with debug assertions. A build without them remembers no keys and
refuses none: there a key that comes back starts another group.
-/

namespace SqlTree

/-- The group in progress, the keys of the complete groups, and those groups. -/
structure Grouping (κ γ : Type) where
  current : Option (κ × γ)
  finished : List κ
  emitted : List γ

namespace Grouping

variable {κ γ : Type} [DecidableEq κ]

def empty : Grouping κ γ := ⟨none, [], []⟩

def opened (g : Grouping κ γ) (key : κ) (group : γ) : Grouping κ γ :=
  match g.current with
  | none => { g with current := some (key, group) }
  | some (done, before) =>
      { current := some (key, group)
        finished := g.finished ++ [done]
        emitted := g.emitted ++ [before] }

/-- Takes one row; one that holds no values is passed over. A key that came back is the error. -/
def feed (g : Grouping κ γ) (count : Nat) (key : κ) (start : γ) (fold : γ → γ) :
    Except κ (Grouping κ γ) :=
  if count = 0 then .ok g
  else match g.current with
    | some (current, group) =>
        if current = key then .ok { g with current := some (current, fold group) }
        else if key ∈ g.finished then .error key
        else .ok (g.opened key (fold start))
    | none =>
        if key ∈ g.finished then .error key
        else .ok (g.opened key (fold start))

/-- All groups, the one in progress included. -/
def finish (g : Grouping κ γ) : List γ :=
  match g.current with
  | none => g.emitted
  | some (_, group) => g.emitted ++ [group]

end Grouping

inductive GroupKey where
  | int (n : Int64)
  | maybeInt (n : Option Int64)
  | text (s : String)
  | maybeText (s : Option String)
  | bool (b : Bool)
  deriving DecidableEq

namespace GroupKey

def optionText {α : Type} (write : α → String) : Option α → String
  | none => "None"
  | some a => "Some(" ++ write a ++ ")"

def intText (n : Int64) : String := Text.integer n.toInt

def shown : GroupKey → String
  | int n => intText n
  | maybeInt n => optionText intText n
  | text s => Text.quoted s
  | maybeText s => optionText Text.quoted s
  | bool true => "true"
  | bool false => "false"

def reappeared (key : GroupKey) : Error :=
  .validation ("group key " ++ key.shown ++
    " reappeared after other keys; order the query by the grouping key")

end GroupKey

end SqlTree
