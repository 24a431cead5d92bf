namespace SqlTree.Steps

variable {ε σ α β : Type} {m : ExceptT ε (StateM σ) α} {next : α → ExceptT ε (StateM σ) β}
  {start middle : σ}

theorem get_run (start : σ) : (get : ExceptT ε (StateM σ) σ).run start = (.ok start, start) := rfl

theorem bind_ok {a : α} (run : m.run start = (.ok a, middle)) :
    (m >>= next).run start = (next a).run middle := by
  have after : (m >>= next).run start = ExceptT.bindCont next (m.run start).1 (m.run start).2 := rfl
  rw [after, run]
  rfl

theorem bind_error {e : ε} (run : m.run start = (.error e, middle)) :
    (m >>= next).run start = (.error e, middle) := by
  have after : (m >>= next).run start = ExceptT.bindCont next (m.run start).1 (m.run start).2 := rfl
  rw [after, run]
  rfl

end SqlTree.Steps
