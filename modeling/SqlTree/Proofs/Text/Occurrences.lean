import Mathlib.Data.List.Infix

namespace SqlTree.Text

def occurrences (word : List Char) : List Char → List Nat
  | [] => []
  | c :: rest =>
      (if word <+: c :: rest then [0] else []) ++ (occurrences word rest).map (· + 1)

/-- No beginning of the word ends the first text while the rest of the word begins the second. -/
def Apart (word a b : List Char) : Prop :=
  ∀ u v, u ++ v = word → u ≠ [] → v ≠ [] → u <:+ a → ¬ v <+: b

variable {word a b : List Char}

theorem mem_occurrences (filled : word ≠ []) (text : List Char) (i : Nat) :
    i ∈ occurrences word text ↔ word <+: text.drop i := by
  induction text generalizing i with
  | nil => simp [occurrences, filled]
  | cons c rest ih =>
      cases i with
      | zero => by_cases here : word <+: c :: rest <;> simp [occurrences, here]
      | succ i => by_cases here : word <+: c :: rest <;> simp [occurrences, here, ih]

theorem occurrences_eq_nil_iff (filled : word ≠ []) (text : List Char) :
    occurrences word text = [] ↔ ¬ word <:+: text := by
  rw [List.eq_nil_iff_forall_not_mem]
  constructor
  · rintro none ⟨before, behind, rfl⟩
    refine none before.length ((mem_occurrences filled _ _).mpr ?_)
    rw [List.append_assoc, List.drop_left]
    exact List.prefix_append word behind
  · intro absent i occurs
    exact absent (((mem_occurrences filled _ _).mp occurs).isInfix.trans
      (List.drop_suffix i text).isInfix)

namespace Apart

theorem of_last (other : ∀ c ∈ a.getLast?, c ∉ word) : Apart word a b := by
  rintro u v rfl some - ⟨front, rfl⟩ -
  have last : u.getLast some ∈ (front ++ u).getLast? := by
    simp [List.getLast?_append, List.getLast?_eq_some_getLast some]
  exact other _ last (List.mem_append_left v (List.getLast_mem some))

theorem of_head (other : ∀ c ∈ b.head?, c ∉ word) : Apart word a b := by
  rintro u v rfl - some - ⟨behind, rfl⟩
  have first : v.head some ∈ (v ++ behind).head? := by
    simp [List.head?_append, List.head?_eq_some_head some]
  exact other _ first (List.mem_append_right u (List.head_mem some))

theorem of_suffix (front : List Char) (apart : Apart word (front ++ a) b) : Apart word a b :=
  fun u v whole before behind ends => apart u v whole before behind
    (ends.trans (List.suffix_append front a))

end Apart

theorem Apart.prefix_append_iff (apart : Apart word a b) (some : a ≠ []) :
    word <+: a ++ b ↔ word <+: a := by
  constructor
  · rintro ⟨behind, whole⟩
    rcases List.append_eq_append_iff.mp whole with ⟨rest, rfl, -⟩ | ⟨v, rfl, rfl⟩
    · exact List.prefix_append word rest
    · by_cases empty : v = []
      · simp [empty]
      · exact absurd (List.prefix_append v behind) (apart a v rfl some empty List.suffix_rfl)
  · exact fun within => within.trans (List.prefix_append a b)

theorem occurrences_append (apart : Apart word a b) :
    occurrences word (a ++ b) =
      occurrences word a ++ (occurrences word b).map (· + a.length) := by
  induction a with
  | nil => simp [occurrences]
  | cons c rest ih =>
      have within := apart.prefix_append_iff (List.cons_ne_nil c rest)
      rw [List.cons_append] at within
      rw [List.cons_append, occurrences, occurrences, if_congr within rfl rfl,
        ih (Apart.of_suffix [c] apart), List.map_append, List.map_map, List.append_assoc]
      rfl

end SqlTree.Text
