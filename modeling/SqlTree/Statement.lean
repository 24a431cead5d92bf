import SqlTree.Error
import SqlTree.Tree.Fields
import SqlTree.Tree.Rendering

namespace SqlTree

namespace Select

/-- Whether there is a row can be asked without output columns. -/
def asked (s : Select) : Select := if s.fields.isEmpty then { s with fields := [.raw "1"] } else s

def question (s : Select) : Rendering := do
  Rendering.text "SELECT EXISTS ("
  s.asked.render
  Rendering.text ")"

end Select

namespace Query

def build (d : Dialect) (q : Query) : Except Error Built :=
  (q.render.build d).mapError Fault.toError

/-- The fields that become the columns of the result. -/
def projection : Query → List Field
  | select s => s.fields
  | insert i => i.returning
  | update u => u.returning
  | delete d => d.returning

def withProjection (fields : List Field) : Query → Query
  | select s => select { s with fields := fields }
  | insert i => insert { i with returning := fields }
  | update u => update { u with returning := fields }
  | delete d => delete { d with returning := fields }

@[simp] theorem projection_withProjection (fields : List Field) (q : Query) :
    (q.withProjection fields).projection = fields := by
  cases q <;> rfl

@[simp] theorem withProjection_projection (fields : List Field) (q : Query) :
    (q.withProjection fields).withProjection q.projection = q := by
  cases q with
  | select s => cases s with | mk => rfl
  | insert i => cases i with | mk => rfl
  | update u => cases u with | mk => rfl
  | delete d => cases d with | mk => rfl

end Query

end SqlTree
