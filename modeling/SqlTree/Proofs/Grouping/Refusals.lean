import SqlTree.Proofs.Grouping.Runs

/-!
Rows that a grouping refuses leave no trace: nothing runs for them, and the groups put out are those
of the rows that were taken. Each key has one group, with all rows of that key that were taken.
-/

namespace SqlTree.Grouping

/-! ### Groups that are made by running code -/

/-- What a grouping holds if its groups go elsewhere as soon as they are complete. -/
structure Progress (κ γ : Type) where
  current : Option (κ × γ)
  finished : List κ

def progress {κ γ : Type} (g : Grouping κ γ) : Progress κ γ := ⟨g.current, g.finished⟩

/-- A row whose group is started, and added to, by actions that may do anything besides. -/
structure Row (m : Type → Type) (κ γ : Type) where
  count : Nat
  key : κ
  start : m γ
  fold : γ → m γ

def Call.row {m : Type → Type} [Monad m] {κ γ : Type} (c : Call κ γ) : Row m κ γ :=
  ⟨c.count, c.key, pure c.start, fun whole => pure (c.fold whole)⟩

def record {γ : Type} (group : γ) : StateM (List γ) Unit := modify (· ++ [group])

/-- A row that holds values, with a key that is complete and not that of the group in progress. -/
def Progress.Refuses {κ γ : Type} (p : Progress κ γ) (count : Nat) (key : κ) : Prop :=
  0 < count ∧ (∀ current ∈ p.current, current.1 ≠ key) ∧ key ∈ p.finished

theorem Call.group_append_each {κ γ : Type} {run : List (Call κ γ)} {whole : γ}
    (more : List (Call κ γ)) (made : group run = some whole) :
    group (run ++ more) = some (more.foldl (fun whole c => c.fold whole) whole) := by
  induction more generalizing run whole with
  | nil => simpa using made
  | cons c rest ih =>
      have others := ih (group_append c made)
      rw [List.append_assoc] at others
      exact others

variable {κ γ : Type} [DecidableEq κ]

section Actions

variable {m : Type → Type} [Monad m]

/-- Takes one row, step by step: the group before is put out by `emit`, then the row starts its
own and is added to it. -/
def Progress.accumulate (emit : γ → m Unit) (p : Progress κ γ) (row : Row m κ γ) :
    m (Except κ Unit × Progress κ γ) :=
  if row.count = 0 then pure (.ok (), p)
  else match p.current with
    | some (key, group) =>
        if key = row.key then do
          let whole ← row.fold group
          pure (.ok (), { p with current := some (key, whole) })
        else if row.key ∈ p.finished then pure (.error row.key, p)
        else do
          emit group
          let first ← row.start
          let whole ← row.fold first
          pure (.ok (), ⟨some (row.key, whole), p.finished ++ [key]⟩)
    | none =>
        if row.key ∈ p.finished then pure (.error row.key, p)
        else do
          let first ← row.start
          let whole ← row.fold first
          pure (.ok (), { p with current := some (row.key, whole) })

variable (emit : γ → m Unit) {p : Progress κ γ} {row : Row m κ γ}

theorem Progress.accumulate_refused (refuses : p.Refuses row.count row.key) :
    p.accumulate emit row = pure (.error row.key, p) := by
  obtain ⟨holds, apart, complete⟩ := refuses
  have counted : row.count ≠ 0 := by omega
  rcases p with ⟨_ | ⟨key, group⟩, finished⟩
  · simp only [accumulate, if_neg counted, if_pos complete]
  · have differs : key ≠ row.key := apart _ rfl
    simp only [accumulate, if_neg counted, if_neg differs, if_pos complete]

theorem Progress.accumulate_taken [LawfulMonad m] (taken : ¬p.Refuses row.count row.key) :
    ∃ next : m (Progress κ γ), p.accumulate emit row = (fun after => (.ok (), after)) <$> next := by
  by_cases idle : row.count = 0
  · exact ⟨pure p, by simp [accumulate, idle]⟩
  have holds : 0 < row.count := by omega
  rcases p with ⟨_ | ⟨key, group⟩, finished⟩
  · have fresh : row.key ∉ finished := fun complete => taken ⟨holds, nofun, complete⟩
    refine ⟨row.start >>= row.fold >>= fun whole => pure ⟨some (row.key, whole), finished⟩, ?_⟩
    simp [accumulate, idle, fresh]
  · by_cases same : key = row.key
    · refine ⟨row.fold group >>= fun whole => pure ⟨some (key, whole), finished⟩, ?_⟩
      simp [accumulate, idle, same]
    · have fresh : row.key ∉ finished := by
        intro complete
        refine taken ⟨holds, ?_, complete⟩
        rintro _ ⟨rfl⟩
        exact same
      refine ⟨emit group >>= fun _ => row.start >>= row.fold >>= fun whole =>
        pure ⟨some (row.key, whole), finished ++ [key]⟩, ?_⟩
      simp [accumulate, idle, same, fresh]

end Actions

/-! ### What one row does -/

inductive Taking (g : Grouping κ γ) (c : Call κ γ) : Except κ Unit × Grouping κ γ → Prop
  | idle (nothing : c.count = 0) : Taking g c (.ok (), g)
  | joins {whole : γ} (holds : 0 < c.count) (current : g.current = some (c.key, whole)) :
      Taking g c (.ok (), { g with current := some (c.key, c.fold whole) })
  | opens (holds : 0 < c.count) (apart : ∀ current ∈ g.current, current.1 ≠ c.key)
      (fresh : c.key ∉ g.finished) : Taking g c (.ok (), g.opened c.key (c.fold c.start))
  | refused (refuses : g.progress.Refuses c.count c.key) : Taking g c (.error c.key, g)

theorem take_of_apart {g : Grouping κ γ} {c : Call κ γ} (holds : 0 < c.count)
    (apart : ∀ current ∈ g.current, current.1 ≠ c.key) :
    g.take c =
      if c.key ∈ g.finished then (.error c.key, g)
      else (.ok (), g.opened c.key (c.fold c.start)) := by
  have counted : c.count ≠ 0 := by omega
  rcases current : g.current with _ | ⟨key, whole⟩
  · by_cases complete : c.key ∈ g.finished <;> simp [take, feed, counted, current, complete]
  · have other : key ≠ c.key := apart _ current
    by_cases complete : c.key ∈ g.finished <;> simp [take, feed, counted, current, other, complete]

theorem taking (g : Grouping κ γ) (c : Call κ γ) : Taking g c (g.take c) := by
  by_cases idle : c.count = 0
  · have passed : g.take c = (.ok (), g) := by simp [take, feed, idle]
    rw [passed]
    exact .idle idle
  have holds : 0 < c.count := by omega
  -- the key in progress is never asked whether it is complete
  by_cases own : ∃ whole, g.current = some (c.key, whole)
  · obtain ⟨whole, current⟩ := own
    have joins : g.take c = (.ok (), { g with current := some (c.key, c.fold whole) }) := by
      simp [take, feed, idle, current]
    rw [joins]
    exact .joins holds current
  · have apart : ∀ current ∈ g.current, current.1 ≠ c.key := by
      rintro ⟨key, whole⟩ current rfl
      exact own ⟨whole, current⟩
    rw [take_of_apart holds apart]
    split
    · next complete => exact .refused ⟨holds, apart, complete⟩
    · next fresh => exact .opens holds apart fresh

/-- Where the actions only make groups, and a list takes the groups put out, a row is taken or
refused as `take` says. -/
theorem accumulate_eq_take (g : Grouping κ γ) (c : Call κ γ) :
    (g.progress.accumulate record c.row).run g.emitted =
      pure (((g.take c).1, (g.take c).2.progress), (g.take c).2.emitted) := by
  have step := g.taking c
  generalize g.take c = result at step ⊢
  cases step with
  | idle nothing => simp [Progress.accumulate, Call.row, nothing]
  | joins holds current =>
      have counted : c.count ≠ 0 := by omega
      simp [Progress.accumulate, progress, Call.row, counted, current]
  | opens holds apart fresh =>
      have counted : c.count ≠ 0 := by omega
      rcases g with ⟨_ | ⟨key, whole⟩, finished, emitted⟩
      · simp [Progress.accumulate, progress, Call.row, counted, fresh, opened]
      · have other : key ≠ c.key := apart _ rfl
        simp [Progress.accumulate, progress, Call.row, counted, fresh, other, opened, record]
  | refused refuses =>
      rw [Progress.accumulate_refused record refuses]
      rfl

/-- Exactly the rows that hold values, with a complete key that is not in progress, are refused, and
they change nothing. -/
theorem take_refused_iff (g : Grouping κ γ) (c : Call κ γ) :
    (g.take c = (.error c.key, g) ↔ g.progress.Refuses c.count c.key) ∧
      ((g.take c).1 = .ok () ↔ ¬g.progress.Refuses c.count c.key) := by
  have step := g.taking c
  generalize g.take c = result at step ⊢
  cases step with
  | idle nothing =>
      have holds : ¬0 < c.count := by omega
      simp [Progress.Refuses, holds]
  | joins holds current => simp [Progress.Refuses, progress, current]
  | opens holds apart fresh => simp [Progress.Refuses, progress, fresh]
  | refused refuses => simp [refuses]

/-! ### Runs without the rows refused -/

def accepted (g : Grouping κ γ) (calls : List (Call κ γ)) : List (Call κ γ) :=
  ((calls.zip (g.takeAll calls).1).filter fun row => row.2.isOk).map Prod.fst

theorem accepted_cons (g : Grouping κ γ) (c : Call κ γ) (rest : List (Call κ γ)) :
    g.accepted (c :: rest) =
      if (g.take c).1.isOk then c :: (g.take c).2.accepted rest
      else (g.take c).2.accepted rest := by
  simp only [accepted, takeAll, List.zip_cons_cons, List.filter_cons]
  split <;> rfl

theorem takeAll_cons (g : Grouping κ γ) (c : Call κ γ) (rest : List (Call κ γ)) :
    g.takeAll (c :: rest) =
      ((g.take c).1 :: ((g.take c).2.takeAll rest).1, ((g.take c).2.takeAll rest).2) := rfl

theorem takeAll_accepted (g : Grouping κ γ) (calls : List (Call κ γ)) :
    g.takeAll (g.accepted calls) =
      ((g.accepted calls).map fun _ => .ok (), (g.takeAll calls).2) := by
  induction calls generalizing g with
  | nil => rfl
  | cons c rest ih =>
      have step := g.taking c
      rw [accepted_cons, takeAll_cons]
      generalize taken : g.take c = result at step ⊢
      cases step with
      | refused refuses => exact ih g
      | _ => simp [Except.isOk, Except.toBool, takeAll_cons, taken, ih]

/-! ### One group for each key -/

def keys (g : Grouping κ γ) : List κ := g.finished ++ (g.current.map Prod.fst).toList

def groupOf (rows : List (Call κ γ)) (key : κ) : Option γ := Call.group (rows.filter (·.key = key))

theorem groupOf_append_other (rows : List (Call κ γ)) {c : Call κ γ} {key : κ}
    (other : c.key ≠ key) : groupOf (rows ++ [c]) key = groupOf rows key := by
  simp [groupOf, other]

theorem groupOf_append_own (rows : List (Call κ γ)) (c : Call κ γ) :
    groupOf (rows ++ [c]) c.key = Call.group (rows.filter (·.key = c.key) ++ [c]) := by
  simp [groupOf]

/-- Each key has one group, which all rows of that key make. -/
structure Tallies (rows : List (Call κ γ)) (g : Grouping κ γ) : Prop where
  once : g.keys.Nodup
  known : ∀ c ∈ rows, c.key ∈ g.keys
  complete : g.emitted.map some = g.finished.map (groupOf rows)
  current : ∀ p ∈ g.current, groupOf rows p.1 = some p.2

namespace Tallies

variable {rows : List (Call κ γ)} {g : Grouping κ γ} {c : Call κ γ}

theorem start : Tallies [] (empty : Grouping κ γ) where
  once := List.nodup_nil
  known := List.forall_mem_nil _
  complete := rfl
  current := nofun

theorem finish (tallies : Tallies rows g) : g.finish.map some = g.keys.map (groupOf rows) := by
  rcases g with ⟨_ | ⟨key, whole⟩, finished, emitted⟩
  · simpa [Grouping.finish, keys] using tallies.complete
  · have last := tallies.current _ rfl
    simpa [Grouping.finish, keys, last] using tallies.complete

theorem complete_append (tallies : Tallies rows g) (other : c.key ∉ g.finished) :
    g.emitted.map some = g.finished.map (groupOf (rows ++ [c])) := by
  rw [tallies.complete]
  refine List.map_congr_left ?_
  intro key member
  refine (groupOf_append_other rows ?_).symm
  rintro rfl
  exact other member

theorem joins (tallies : Tallies rows g) {whole : γ} (current : g.current = some (c.key, whole)) :
    Tallies (rows ++ [c]) { g with current := some (c.key, c.fold whole) } := by
  have same : keys { g with current := some (c.key, c.fold whole) } = g.keys := by
    simp [keys, current]
  have apart : c.key ∉ g.finished := by
    have once := tallies.once
    simp only [keys, current, Option.map_some, Option.toList_some, List.nodup_append,
      List.mem_singleton, ne_eq, forall_eq] at once
    exact fun member => once.2.2 _ member rfl
  refine ⟨?_, ?_, tallies.complete_append apart, ?_⟩
  · rw [same]
    exact tallies.once
  · rw [same, List.forall_mem_append, List.forall_mem_singleton]
    exact ⟨tallies.known, by simp [keys, current]⟩
  · rintro p ⟨rfl⟩
    rw [groupOf_append_own]
    exact Call.group_append c (tallies.current _ current)

theorem opens (tallies : Tallies rows g) (apart : ∀ p ∈ g.current, p.1 ≠ c.key)
    (fresh : c.key ∉ g.finished) : Tallies (rows ++ [c]) (g.opened c.key (c.fold c.start)) := by
  have unknown : c.key ∉ g.keys := by
    simp only [keys, List.mem_append, Option.mem_toList, Option.map_eq_some_iff, not_or,
      not_exists, not_and]
    exact ⟨fresh, apart⟩
  have grown : (g.opened c.key (c.fold c.start)).keys = g.keys ++ [c.key] := by
    rcases g with ⟨_ | ⟨key, whole⟩, finished, emitted⟩ <;> simp [opened, keys]
  have first : groupOf (rows ++ [c]) c.key = some (c.fold c.start) := by
    have none : rows.filter (·.key = c.key) = [] := by
      rw [List.filter_eq_nil_iff]
      intro x member same
      rw [← of_decide_eq_true same] at unknown
      exact unknown (tallies.known x member)
    rw [groupOf_append_own, none]
    rfl
  refine ⟨?_, ?_, ?_, ?_⟩
  · rw [grown, List.nodup_append]
    refine ⟨tallies.once, by simp, ?_⟩
    rintro x member y own rfl
    rw [List.mem_singleton.mp own] at member
    exact unknown member
  · rw [grown, List.forall_mem_append, List.forall_mem_singleton]
    exact ⟨fun x member => List.mem_append_left _ (tallies.known x member), by simp⟩
  · have before := tallies.complete_append fresh
    rcases g with ⟨_ | ⟨key, whole⟩, finished, emitted⟩
    · exact before
    · have last := tallies.current _ rfl
      have other : c.key ≠ key := (apart _ rfl).symm
      simp [opened, before, groupOf_append_other rows other, last]
  · intro p own
    have newest : (g.opened c.key (c.fold c.start)).current = some (c.key, c.fold c.start) := by
      rcases g with ⟨_ | ⟨key, whole⟩, finished, emitted⟩ <;> rfl
    obtain rfl := Option.some.inj (newest.symm.trans own)
    exact first

theorem take (tallies : Tallies rows g) (c : Call κ γ) :
    Tallies (rows ++ live (g.accepted [c])) (g.take c).2 := by
  have step := g.taking c
  rw [accepted_cons]
  generalize g.take c = result at step ⊢
  cases step with
  | idle nothing =>
      simpa [Except.isOk, Except.toBool, live, accepted, takeAll, nothing] using tallies
  | joins holds current =>
      simpa [Except.isOk, Except.toBool, live, accepted, takeAll, holds] using tallies.joins current
  | opens holds apart fresh =>
      simpa [Except.isOk, Except.toBool, live, accepted, takeAll, holds]
        using tallies.opens apart fresh
  | refused refuses => simpa [Except.isOk, Except.toBool, live, accepted, takeAll] using tallies

theorem takeAll (tallies : Tallies rows g) (calls : List (Call κ γ)) :
    Tallies (rows ++ live (g.accepted calls)) (g.takeAll calls).2 := by
  induction calls generalizing rows g with
  | nil => simpa [accepted, Grouping.takeAll, live] using tallies
  | cons c rest ih =>
      have others := ih (tallies.take c)
      have split : g.accepted (c :: rest) = g.accepted [c] ++ (g.take c).2.accepted rest := by
        rw [accepted_cons, accepted_cons]
        cases (g.take c).1 <;> rfl
      rw [split, live, List.filter_append, ← List.append_assoc]
      exact others

end Tallies

/-! ### The group in progress -/

theorem take_extends (g : Grouping κ γ) (c : Call κ γ) :
    g.keys <+: (g.take c).2.keys ∧ g.emitted <+: (g.take c).2.emitted := by
  have step := g.taking c
  generalize g.take c = result at step ⊢
  cases step with
  | joins holds current => simp [keys, current]
  | opens holds apart fresh =>
      rcases g with ⟨_ | ⟨key, whole⟩, finished, emitted⟩ <;> simp [opened, keys]
  | _ => exact ⟨List.prefix_rfl, List.prefix_rfl⟩

theorem takeAll_extends (g : Grouping κ γ) (calls : List (Call κ γ)) :
    g.keys <+: (g.takeAll calls).2.keys ∧ g.emitted <+: (g.takeAll calls).2.emitted := by
  induction calls generalizing g with
  | nil => exact ⟨List.prefix_rfl, List.prefix_rfl⟩
  | cons c rest ih =>
      obtain ⟨keys, groups⟩ := g.take_extends c
      obtain ⟨others, more⟩ := ih (g.take c).2
      exact ⟨keys.trans others, groups.trans more⟩

theorem emitted_prefix_finish {κ γ : Type} (g : Grouping κ γ) : g.emitted <+: g.finish := by
  rcases g with ⟨_ | ⟨key, whole⟩, finished, emitted⟩
  · exact List.prefix_rfl
  · exact List.prefix_append emitted [whole]

/-- The group in progress is put out behind those before it, with the rows of its key that are taken
until then. -/
theorem Tallies.current_emitted {rows : List (Call κ γ)} {g : Grouping κ γ}
    (tallies : Tallies rows g) {key : κ} {whole : γ} (current : g.current = some (key, whole))
    (later : List (Call κ γ)) :
    ∃ rest, (g.takeAll later).2.finish = g.emitted ++
      ((live (g.accepted later)).filter (·.key = key)).foldl (fun whole c => c.fold whole) whole ::
        rest := by
  have last := tallies.takeAll later
  obtain ⟨⟨newer, keys⟩, groups⟩ := g.takeAll_extends later
  obtain ⟨others, finish⟩ := groups.trans (emitted_prefix_finish _)
  have counted : g.emitted.length = g.finished.length := by
    simpa using congrArg List.length tallies.complete
  have own : groupOf (rows ++ live (g.accepted later)) key =
      some (((live (g.accepted later)).filter (·.key = key)).foldl
        (fun whole c => c.fold whole) whole) := by
    rw [groupOf, List.filter_append]
    exact Call.group_append_each _ (tallies.current _ current)
  have all := last.finish
  rw [← finish, ← keys, Grouping.keys, current] at all
  simp only [List.map_append, Option.map_some, Option.toList_some, List.map_cons,
    List.append_assoc, List.singleton_append, own] at all
  have behind := (List.append_inj all (by simpa using counted)).2
  obtain ⟨first, rest, rfl, same, -⟩ := List.map_eq_cons_iff.mp behind
  obtain rfl := Option.some.inj same
  exact ⟨rest, finish.symm⟩

/-- A row is refused exactly if it holds values and its key is complete and not that of the group in
progress. Whatever the code of its group would do, none of it runs then, and nothing changes. So any
run puts out the groups of the run without the rows refused: each key has one group at most, with all
rows of that key that were taken; and the group in progress when a row is refused is put out as if
that row had not been there. -/
theorem refusals_leave_no_trace (calls : List (Call κ γ)) :
    let g := ((empty : Grouping κ γ).takeAll calls).2
    let taken := (empty : Grouping κ γ).accepted calls
    (∀ (m : Type → Type) [Monad m] [LawfulMonad m] (emit : γ → m Unit) (p : Progress κ γ)
      (row : Row m κ γ),
      (p.Refuses row.count row.key → p.accumulate emit row = pure (.error row.key, p)) ∧
      (¬p.Refuses row.count row.key → ∃ next : m (Progress κ γ),
        p.accumulate emit row = (fun after => (.ok (), after)) <$> next)) ∧
    (∀ c, (g.progress.accumulate record c.row).run g.emitted =
        pure (((g.take c).1, (g.take c).2.progress), (g.take c).2.emitted) ∧
      (g.take c = (.error c.key, g) ↔ g.progress.Refuses c.count c.key) ∧
      ((g.take c).1 = .ok () ↔ ¬g.progress.Refuses c.count c.key)) ∧
    empty.takeAll taken = (taken.map fun _ => .ok (), g) ∧
    Tallies (live taken) g ∧ g.finish.map some = g.keys.map (groupOf (live taken)) ∧
    ∀ c later, g.progress.Refuses c.count c.key → ∀ p ∈ g.current,
      ∃ rest, (g.takeAll (c :: later)).2.finish = g.emitted ++
        ((live (g.accepted later)).filter (·.key = p.1)).foldl (fun whole c => c.fold whole) p.2 ::
          rest := by
  intro g taken
  have tallies : Tallies (live taken) g := Tallies.start.takeAll calls
  refine ⟨?_, fun c => ⟨g.accumulate_eq_take c, g.take_refused_iff c⟩, takeAll_accepted _ calls,
    tallies, tallies.finish, ?_⟩
  · intro m _ _ emit p row
    exact ⟨Progress.accumulate_refused emit, Progress.accumulate_taken emit⟩
  · intro c later refuses p current
    have refused := (g.take_refused_iff c).1.mpr refuses
    rw [takeAll_cons, refused]
    exact tallies.current_emitted current later

/-- The first key comes back while the second group is in progress: the row does not even get to the
code of its group, which would fail, and the second group is put out with the row behind. -/
theorem refusals_leave_no_trace_returning :
    let calls : List (Call Nat (List String)) :=
      [⟨1, 1, [], (· ++ ["rust"])⟩, ⟨2, 2, [], (· ++ ["sql"])⟩]
    let back : Call Nat (List String) := ⟨1, 1, [], (· ++ ["lost"])⟩
    let later : List (Call Nat (List String)) := [⟨1, 2, [], (· ++ ["go"])⟩]
    let g := (empty.takeAll calls).2
    g.progress.Refuses 1 1 ∧
      g.progress.accumulate (fun _ => none) ⟨1, 1, none, fun _ => none⟩ =
        some (.error 1, g.progress) ∧
      ∃ rest, (g.takeAll (back :: later)).2.finish = ["rust"] :: ["sql", "go"] :: rest := by
  intro calls back later g
  obtain ⟨runs, -, -, -, -, behind⟩ := refusals_leave_no_trace calls
  have refuses : g.progress.Refuses 1 1 := by
    refine ⟨by decide, ?_, List.mem_singleton_self 1⟩
    rintro _ ⟨rfl⟩
    decide
  exact ⟨refuses, (runs Option _ g.progress ⟨1, 1, none, fun _ => none⟩).1 refuses,
    behind back later refuses (2, ["sql"]) rfl⟩

end SqlTree.Grouping
