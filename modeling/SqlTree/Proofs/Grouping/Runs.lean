import Mathlib.Data.List.SplitBy
import SqlTree.Grouping

/-!
Groups are the runs of equal keys among the rows that hold values. All rows are taken exactly if no
key comes back behind another one, and then each run is one group.
-/

namespace SqlTree

/-- No other key stands between two occurrences of a key. -/
def Contiguous {κ : Type} (keys : List κ) : Prop :=
  ∀ key other, [key, other, key].Sublist keys → other = key

namespace Contiguous

variable {κ : Type} {keys : List κ}

theorem nil : Contiguous ([] : List κ) := by
  intro key other sub
  exact absurd (List.sublist_nil.mp sub) (List.cons_ne_nil _ _)

theorem of_append {more : List κ} (whole : Contiguous (keys ++ more)) : Contiguous keys := by
  intro key other sub
  apply whole
  exact sub.trans (List.sublist_append_left keys more)

theorem append_last {init : List κ} {key : κ} (before : Contiguous (init ++ [key])) :
    Contiguous (init ++ [key] ++ [key]) := by
  intro x y sub
  by_contra differs
  obtain ⟨first, second, split, left, right⟩ := List.sublist_append_iff.mp sub
  have whole : [x, y, x].Sublist (init ++ [key]) := by
    -- the last key is either not needed, or stands in for the one behind it
    rcases List.sublist_singleton.mp right with rfl | rfl
    · rw [List.append_nil] at split
      rwa [split]
    · have ends : [x, y] ++ [x] = first ++ [key] := split
      obtain ⟨rfl, same⟩ := List.append_inj' ends rfl
      obtain rfl : x = key := List.head_eq_of_cons_eq same
      obtain ⟨front, back, cut, inner, rest⟩ := List.sublist_append_iff.mp left
      rcases List.sublist_singleton.mp rest with rfl | rfl
      · rw [List.append_nil] at cut
        rw [← cut] at inner
        exact inner.append (List.Sublist.refl [x])
      · have last : [x] ++ [y] = front ++ [x] := cut
        exact absurd (List.head_eq_of_cons_eq (List.append_inj' last rfl).2) differs
  exact differs (before x y whole)

theorem append_new {key : κ} (before : Contiguous keys) (fresh : key ∉ keys) :
    Contiguous (keys ++ [key]) := by
  intro x y sub
  obtain ⟨first, second, split, left, right⟩ := List.sublist_append_iff.mp sub
  rcases List.sublist_singleton.mp right with rfl | rfl
  · rw [List.append_nil] at split
    rw [← split] at left
    exact before x y left
  · have ends : [x, y] ++ [x] = first ++ [key] := split
    obtain ⟨rfl, same⟩ := List.append_inj' ends rfl
    obtain rfl : x = key := List.head_eq_of_cons_eq same
    exact absurd (left.subset List.mem_cons_self) fresh

end Contiguous

namespace Grouping

/-- One row on its way into a grouping: how many values it holds, its key, the group that it would
start, and what it adds to one. -/
structure Call (κ γ : Type) where
  count : Nat
  key : κ
  start : γ
  fold : γ → γ

variable {κ γ : Type}

def Call.group : List (Call κ γ) → Option γ
  | [] => none
  | first :: rest => some ((first :: rest).foldl (fun whole c => c.fold whole) first.start)

theorem Call.group_append {run : List (Call κ γ)} {whole : γ} (c : Call κ γ)
    (made : group run = some whole) : group (run ++ [c]) = some (c.fold whole) := by
  cases run with
  | nil => exact nomatch made
  | cons first rest =>
      obtain rfl := Option.some.inj made
      simp [group]

variable [DecidableEq κ]

/-- Takes one row; a grouping that refuses it stays as it is. -/
def take (g : Grouping κ γ) (c : Call κ γ) : Except κ Unit × Grouping κ γ :=
  match g.feed c.count c.key c.start c.fold with
  | .ok next => (.ok (), next)
  | .error key => (.error key, g)

def takeAll (g : Grouping κ γ) : List (Call κ γ) → List (Except κ Unit) × Grouping κ γ
  | [] => ([], g)
  | c :: rest =>
      let (outcome, next) := g.take c
      let (outcomes, last) := next.takeAll rest
      (outcome :: outcomes, last)

def live (calls : List (Call κ γ)) : List (Call κ γ) := calls.filter (0 < ·.count)

/-- The longest runs of rows with one key. -/
def runs (rows : List (Call κ γ)) : List (List (Call κ γ)) :=
  rows.splitBy fun a b => a.key = b.key

theorem runs_opened {rows : List (Call κ γ)} {c : Call κ γ}
    (differs : ∀ x ∈ rows.getLast?, x.key ≠ c.key) : runs (rows ++ [c]) = runs rows ++ [[c]] := by
  refine List.splitBy_append_cons [] ?_
  intro x last
  exact decide_eq_false (differs x last)

theorem runs_extended {rows last : List (Call κ γ)} {before : List (List (Call κ γ))}
    {c : Call κ γ} (split : runs rows = before ++ [last]) (same : ∀ x ∈ last, x.key = c.key) :
    runs (rows ++ [c]) = before ++ [last ++ [c]] := by
  obtain ⟨joined, filled, chains, apart⟩ := List.splitBy_eq_iff.mp split
  refine List.splitBy_eq_iff.mpr ⟨?_, ?_, ?_, ?_⟩
  · simp [joined]
  · simp only [List.mem_append, List.mem_singleton, not_or] at filled ⊢
    exact ⟨filled.1, by simp⟩
  · intro run member
    rcases List.mem_append.mp member with earlier | own
    · exact chains run (List.mem_append_left _ earlier)
    · obtain rfl := List.mem_singleton.mp own
      refine List.isChain_append.mpr ⟨chains last (by simp), List.isChain_singleton _, ?_⟩
      intro x lastOne y first
      obtain rfl : c = y := by simpa using first
      exact decide_eq_true (same x (List.mem_of_mem_getLast? lastOne))
  · rw [List.isChain_append] at apart ⊢
    refine ⟨apart.1, List.isChain_singleton _, ?_⟩
    intro run lastRun next first
    obtain rfl : last ++ [c] = next := by simpa using first
    obtain ⟨some, others, differs⟩ := apart.2.2 run lastRun last (by simp)
    refine ⟨some, List.append_ne_nil_of_left_ne_nil others [c], ?_⟩
    rwa [List.head_append_of_ne_nil others]

/-- What a grouping holds behind live rows, all of which it took. -/
inductive Reflects : List (Call κ γ) → Grouping κ γ → Prop where
  | start : Reflects [] empty
  | within {rows last : List (Call κ γ)} {before : List (List (Call κ γ))} {key : κ} {whole : γ}
      {finished : List κ} {emitted : List γ} (split : runs rows = before ++ [last])
      (own : ∀ c ∈ last, c.key = key) (current : Call.group last = some whole)
      (complete : ∀ k, k ∈ finished ↔ ∃ c ∈ before.flatten, c.key = k)
      (groups : emitted.map some = before.map Call.group) :
      Reflects rows ⟨some (key, whole), finished, emitted⟩

namespace Reflects

variable {rows : List (Call κ γ)} {g : Grouping κ γ}

theorem finish (reflects : Reflects rows g) : g.finish.map some = (runs rows).map Call.group := by
  cases reflects with
  | start => rfl
  | within split own current complete groups => simp [Grouping.finish, split, current, groups]

theorem rows_eq {rows last : List (Call κ γ)} {before : List (List (Call κ γ))}
    (split : runs rows = before ++ [last]) : rows = before.flatten ++ last := by
  have joined := (List.splitBy_eq_iff.mp split).1
  simpa using joined

theorem last_ne_nil {rows last : List (Call κ γ)} {before : List (List (Call κ γ))}
    (split : runs rows = before ++ [last]) : last ≠ [] := by
  rintro rfl
  have filled := (List.splitBy_eq_iff.mp split).2.1
  simp at filled

theorem keys_eq {rows last : List (Call κ γ)} {before : List (List (Call κ γ))} {key : κ}
    (split : runs rows = before ++ [last]) (own : ∀ x ∈ last, x.key = key) :
    ∃ init, rows.map (·.key) = init ++ [key] := by
  have filled := last_ne_nil split
  refine ⟨(before.flatten ++ last.dropLast).map (·.key), ?_⟩
  calc
    rows.map (·.key) = (before.flatten ++ (last.dropLast ++ [last.getLast filled])).map (·.key) := by
      rw [List.dropLast_append_getLast, ← rows_eq split]
    _ = (before.flatten ++ last.dropLast).map (·.key) ++ [key] := by
      rw [← List.append_assoc, List.map_append, List.map_singleton,
        own _ (List.getLast_mem filled)]

section Within

variable {last : List (Call κ γ)} {before : List (List (Call κ γ))} {key : κ} {whole : γ}
  {finished : List κ} {emitted : List γ} {c : Call κ γ}

theorem joined (split : runs rows = before ++ [last]) (own : ∀ x ∈ last, x.key = c.key)
    (current : Call.group last = some whole)
    (complete : ∀ k, k ∈ finished ↔ ∃ x ∈ before.flatten, x.key = k)
    (groups : emitted.map some = before.map Call.group) :
    Reflects (rows ++ [c]) ⟨some (c.key, c.fold whole), finished, emitted⟩ := by
  refine .within (runs_extended split own) ?_ (Call.group_append c current) complete groups
  intro x member
  rcases List.mem_append.mp member with earlier | new
  · exact own x earlier
  · rw [List.mem_singleton.mp new]

theorem opened (split : runs rows = before ++ [last]) (own : ∀ x ∈ last, x.key = key)
    (current : Call.group last = some whole)
    (complete : ∀ k, k ∈ finished ↔ ∃ x ∈ before.flatten, x.key = k)
    (groups : emitted.map some = before.map Call.group) (differs : key ≠ c.key) :
    Reflects (rows ++ [c])
      ⟨some (c.key, c.fold c.start), finished ++ [key], emitted ++ [whole]⟩ := by
  have ends : ∀ x ∈ rows.getLast?, x.key ≠ c.key := by
    intro x lastOne
    rw [rows_eq split, List.getLast?_append_of_ne_nil _ (last_ne_nil split)] at lastOne
    rw [own x (List.mem_of_mem_getLast? lastOne)]
    exact differs
  have splitNow : runs (rows ++ [c]) = (before ++ [last]) ++ [[c]] := by
    rw [runs_opened ends, split]
  refine .within splitNow (by simp) rfl ?_ ?_
  · intro k
    obtain ⟨x, member⟩ := List.exists_mem_of_ne_nil last (last_ne_nil split)
    simp only [List.mem_append, List.mem_singleton, complete, List.flatten_append,
      List.flatten_singleton, or_and_right, exists_or]
    refine or_congr_right ⟨?_, ?_⟩
    · rintro rfl
      exact ⟨x, member, own x member⟩
    · rintro ⟨y, present, rfl⟩
      exact own y present
  · simp [groups, current]

theorem broken (split : runs rows = before ++ [last]) (own : ∀ x ∈ last, x.key = key)
    (known : ∃ x ∈ before.flatten, x.key = c.key) (differs : key ≠ c.key) :
    ¬Contiguous (rows.map (·.key) ++ [c.key]) := by
  intro contiguous
  obtain ⟨x, present, keyed⟩ := known
  obtain ⟨y, member⟩ := List.exists_mem_of_ne_nil last (last_ne_nil split)
  have first : [c.key].Sublist (before.flatten.map (·.key)) := by
    rw [List.singleton_sublist, ← keyed]
    exact List.mem_map_of_mem present
  have second : [key].Sublist (last.map (·.key)) := by
    rw [List.singleton_sublist, ← own y member]
    exact List.mem_map_of_mem member
  rw [rows_eq split, List.map_append] at contiguous
  exact differs (contiguous _ _ ((first.append second).append (List.Sublist.refl [c.key])))

theorem fresh (split : runs rows = before ++ [last]) (own : ∀ x ∈ last, x.key = key)
    (unknown : ¬∃ x ∈ before.flatten, x.key = c.key) (differs : key ≠ c.key) :
    c.key ∉ rows.map (·.key) := by
  intro member
  obtain ⟨x, present, keyed⟩ := List.mem_map.mp member
  rw [rows_eq split] at present
  rcases List.mem_append.mp present with earlier | inLast
  · exact unknown ⟨x, earlier, keyed⟩
  · exact differs ((own x inLast).symm.trans keyed)

end Within

end Reflects

/-- One live row: it is taken exactly if the keys stay contiguous, and then the grouping reflects it
as well. -/
theorem Reflects.feed {rows : List (Call κ γ)} {g : Grouping κ γ} (reflects : Reflects rows g)
    (before : Contiguous (rows.map (·.key))) {c : Call κ γ} (holds : 0 < c.count) :
    (∃ next, g.feed c.count c.key c.start c.fold = .ok next ∧
        Contiguous ((rows ++ [c]).map (·.key)) ∧ Reflects (rows ++ [c]) next) ∨
      (g.feed c.count c.key c.start c.fold = .error c.key ∧
        ¬Contiguous ((rows ++ [c]).map (·.key))) := by
  have counted : c.count ≠ 0 := by omega
  have keys : (rows ++ [c]).map (·.key) = rows.map (·.key) ++ [c.key] := by simp
  rw [keys]
  cases reflects with
  | start =>
      have split : runs [c] = [] ++ [[c]] := rfl
      have first : Reflects [c] (Grouping.opened (γ := γ) empty c.key (c.fold c.start)) :=
        .within split (by simp) rfl (by simp [empty]) rfl
      refine .inl ⟨_, ?_, before.append_new (by simp), first⟩
      simp [Grouping.feed, counted, empty]
  | @within _ last earlier key whole finished emitted split own current complete groups =>
      by_cases same : key = c.key
      · subst same
        obtain ⟨init, ends⟩ := Reflects.keys_eq split own
        refine .inl ⟨_, ?_, ?_, Reflects.joined split own current complete groups⟩
        · simp [Grouping.feed, counted]
        · rw [ends] at before ⊢
          exact before.append_last
      · by_cases known : c.key ∈ finished
        · refine .inr ⟨?_, Reflects.broken split own ((complete c.key).mp known) same⟩
          simp [Grouping.feed, counted, same, known]
        · have new := Reflects.fresh split own (mt (complete c.key).mpr known) same
          refine .inl ⟨_, ?_, before.append_new new,
            Reflects.opened split own current complete groups same⟩
          simp [Grouping.feed, counted, same, known, Grouping.opened]

/-- A whole run: from a grouping that reflects contiguous rows, all further rows are taken exactly
if the keys of the live ones stay contiguous. -/
theorem Reflects.takeAll {rows : List (Call κ γ)} {g : Grouping κ γ} (reflects : Reflects rows g)
    (before : Contiguous (rows.map (·.key))) (calls : List (Call κ γ)) :
    ((∀ o ∈ (g.takeAll calls).1, o = .ok ()) ↔
        Contiguous ((rows ++ live calls).map (·.key))) ∧
      (Contiguous ((rows ++ live calls).map (·.key)) →
        Reflects (rows ++ live calls) (g.takeAll calls).2) := by
  induction calls generalizing rows g with
  | nil => simpa [Grouping.takeAll, live] using ⟨before, fun _ => reflects⟩
  | cons c rest ih =>
      by_cases idle : c.count = 0
      · have passed : g.take c = (.ok (), g) := by simp [take, Grouping.feed, idle]
        have skipped : live (c :: rest) = live rest := by simp [live, idle]
        have others := ih reflects before
        rw [skipped]
        simpa [Grouping.takeAll, passed] using others
      · have holds : 0 < c.count := by omega
        have kept : rows ++ live (c :: rest) = rows ++ [c] ++ live rest := by simp [live, holds]
        rw [kept]
        rcases reflects.feed before holds with ⟨next, fed, contiguous, reflected⟩ | ⟨fed, broken⟩
        · have taken : g.take c = (.ok (), next) := by simp [take, fed]
          simpa [Grouping.takeAll, taken] using ih reflected contiguous
        · have refused : g.take c = (.error c.key, g) := by simp [take, fed]
          have never : ¬Contiguous ((rows ++ [c] ++ live rest).map (·.key)) := by
            intro whole
            rw [List.map_append] at whole
            exact broken whole.of_append
          refine ⟨iff_of_false ?_ never, fun whole => absurd whole never⟩
          intro taken
          exact nomatch taken (.error c.key) (by simp [Grouping.takeAll, refused])

/-- All rows are taken exactly if, among those that hold values, no key comes back behind another
one. Then the groups put out are the runs of equal keys in their order, which hold each live row
once: the first row of a run starts its group, and every row of the run adds to it. -/
theorem finish_groups_runs (calls : List (Call κ γ)) :
    ((∀ o ∈ ((empty : Grouping κ γ).takeAll calls).1, o = .ok ()) ↔
        Contiguous ((live calls).map (·.key))) ∧
      (Contiguous ((live calls).map (·.key)) →
        ((empty : Grouping κ γ).takeAll calls).2.finish.map some =
          (runs (live calls)).map Call.group) ∧
      (runs (live calls)).flatten = live calls ∧
      (∀ run ∈ runs (live calls), run.IsChain fun a b => a.key = b.key) ∧
      (runs (live calls)).IsChain fun run next =>
        ∃ a ∈ run.getLast?, ∃ b ∈ next.head?, a.key ≠ b.key := by
  have nothing : Contiguous (([] : List (Call κ γ)).map (·.key)) := Contiguous.nil
  obtain ⟨taken, reflected⟩ := Reflects.start.takeAll nothing calls
  obtain ⟨joined, -, chains, apart⟩ := List.splitBy_eq_iff.mp (rfl : runs (live calls) = _)
  refine ⟨taken, fun contiguous => (reflected contiguous).finish, joined.symm, ?_, ?_⟩
  · intro run member
    exact (chains run member).imp fun a b same => of_decide_eq_true same
  · refine apart.imp ?_
    rintro run next ⟨some, others, differs⟩
    exact ⟨_, List.getLast_mem_getLast? some, _, List.head_mem_head? others,
      of_decide_eq_false differs⟩

/-- A row without values does not interrupt a run. -/
theorem finish_groups_runs_interrupted :
    let calls : List (Call Nat (List String)) :=
      [⟨2, 1, [], (· ++ ["rust"])⟩, ⟨0, 7, ["lost"], id⟩, ⟨1, 1, [], (· ++ ["sql"])⟩,
        ⟨2, 3, ["go"], id⟩]
    Contiguous ((live calls).map (·.key)) ∧
      ((empty : Grouping Nat (List String)).takeAll calls).2.finish =
        [["rust", "sql"], ["go"]] := by
  intro calls
  obtain ⟨taken, groups, -⟩ := finish_groups_runs calls
  have contiguous : Contiguous ((live calls).map (·.key)) := by
    apply taken.mp
    intro o member
    have outcomes : (empty.takeAll calls).1 = [.ok (), .ok (), .ok (), .ok ()] := rfl
    rw [outcomes] at member
    simpa using member
  refine ⟨contiguous, ?_⟩
  have put := groups contiguous
  exact (List.map_inj_right fun _ _ => Option.some.inj).mp put

end Grouping

end SqlTree
