import SqlTree.Script

namespace SqlTree

structure Built where
  sql : String
  args : List Value

structure Renderer where
  dialect : Dialect
  sql : String
  args : List Value
  /-- the placeholder numbers of shared arguments, in numbered dialects only -/
  numbers : List (String × Nat)

namespace Renderer

def new (d : Dialect) : Renderer := ⟨d, "", [], []⟩

def push (r : Renderer) (text : String) : Renderer := { r with sql := r.sql ++ text }

def pushNumber (r : Renderer) (number : Nat) : Renderer := r.push ("$" ++ number.repr)

def bind (r : Renderer) (v : Value) : Renderer :=
  let bound := { r with args := r.args ++ [v] }
  if r.dialect.numbered then bound.pushNumber bound.args.length else bound.push "?"

/-- The first occurrence of a name allocates a number, later ones reuse it and bind nothing. -/
def bindShared (r : Renderer) (name : String) (v : Value) : Renderer :=
  if r.dialect.numbered then
    match r.numbers.lookup name with
    | some number => r.pushNumber number
    | none =>
        let bound := r.bind v
        { bound with numbers := r.numbers ++ [(name, bound.args.length)] }
  else r.bind v

def put (r : Renderer) : Piece → Renderer
  | .text s => r.push s
  | .value v => r.bind v
  | .shared name v => r.bindShared name v

def writePieces (r : Renderer) (pieces : List Piece) : Renderer := pieces.foldl put r

def write (r : Renderer) (s : Script) : Renderer := r.writePieces s.pieces

def finish (r : Renderer) : Built := ⟨r.sql, r.args⟩

@[simp] theorem writePieces_append (r : Renderer) (p q : List Piece) :
    r.writePieces (p ++ q) = (r.writePieces p).writePieces q := List.foldl_append

@[simp] theorem put_dialect (r : Renderer) (p : Piece) : (r.put p).dialect = r.dialect := by
  cases p with
  | text s => rfl
  | value v => simp only [put, bind]; split <;> rfl
  | shared name v =>
      simp only [put, bindShared]
      split
      · split
        · rfl
        · simp only [bind]; split <;> rfl
      · simp only [bind]; split <;> rfl

end Renderer

namespace Script

def build (d : Dialect) (s : Script) : Except Fault Built :=
  match s.fault with
  | some f => .error f
  | none => .ok ((Renderer.new d).write s).finish

theorem build_eq_ok {d : Dialect} {s : Script} {b : Built} :
    s.build d = .ok b ↔ s.fault = none ∧ ((Renderer.new d).write s).finish = b := by
  rcases s with ⟨pieces, _ | fault⟩ <;> simp [build]

theorem build_eq_error {d : Dialect} {s : Script} {fault : Fault} :
    s.build d = .error fault ↔ s.fault = some fault := by
  rcases s with ⟨pieces, _ | other⟩ <;> simp [build]

def shown (name : String) (s : Script) : String :=
  match s.build .standard with
  | .ok built => built.sql
  | .error _ => name

end Script

end SqlTree
