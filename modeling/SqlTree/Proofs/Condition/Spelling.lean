import SqlTree.Proofs.Condition.Reading

namespace SqlTree.Condition

inductive Segment where
  | sign (s : Sign)
  | atom (s : Script)

/-- Wherever the script is written, it writes a character that no sign has. -/
def Worded (s : Script) : Prop := ∀ r : Renderer, ∃ c ∈ r.written s, Sign.holds c = false

theorem worded_of_piece {s : Script} {k : String} (piece : .text k ∈ s.pieces)
    (other : k.toList.all Sign.holds = false) : Worded s := by
  intro r
  obtain ⟨c, member, unlike⟩ := List.all_eq_false.mp other
  exact ⟨c, Renderer.mem_written piece member r, eq_false_of_ne_true unlike⟩

namespace Segment

def script : Segment → Script
  | sign s => .text (String.ofList s.text)
  | atom s => s

def atoms : List Segment → List Script
  | [] => []
  | sign _ :: rest => atoms rest
  | atom s :: rest => s :: atoms rest

def tokens (n : Nat) : List Segment → List Token
  | [] => []
  | sign s :: rest => .sign s :: tokens n rest
  | atom _ :: rest => .atom n :: tokens (n + 1) rest

@[simp] theorem atoms_append (a b : List Segment) : atoms (a ++ b) = atoms a ++ atoms b := by
  induction a with
  | nil => rfl
  | cons first rest ih => cases first <;> simp [atoms, ih]

theorem tokens_append (n : Nat) (a b : List Segment) :
    tokens n (a ++ b) = tokens n a ++ tokens (n + (atoms a).length) b := by
  induction a generalizing n with
  | nil => rfl
  | cons first rest ih =>
      cases first with
      | sign s => simp [tokens, atoms, ih]
      | atom s => simp [tokens, atoms, ih, Nat.add_assoc, Nat.add_comm 1]

def spelled (r : Renderer) (list : List Segment) : List Char :=
  (r.writtenEach (list.map script)).flatten

theorem spelled_sign (r : Renderer) (s : Sign) (rest : List Segment) :
    spelled r (sign s :: rest) = s.text ++ spelled r rest := by
  have alike : (r.write (sign s).script).untexted = r.untexted := rfl
  rw [spelled, spelled, List.map_cons, Renderer.writtenEach, Renderer.writtenEach_congr alike]
  simp [script]

theorem spelled_atom (r : Renderer) (s : Script) (rest : List Segment) :
    spelled r (atom s :: rest) = r.written s ++ spelled (r.write s) rest := rfl

end Segment

/-! ### Splitting what is spelled -/

def lead (text : List Char) : Nat := (text.takeWhile Sign.holds).length

theorem lead_signs {signs : List Char} (all : signs.all Sign.holds = true) (rest : List Char) :
    lead (signs ++ rest) = signs.length + lead rest := by
  induction signs with
  | nil => simp [lead]
  | cons c more ih =>
      rw [List.all_cons, Bool.and_eq_true] at all
      have others := ih all.2
      simp only [lead, List.cons_append, List.takeWhile_cons, all.1, if_true, List.length_cons]
        at others ⊢
      omega

theorem lead_worded {text : List Char} (worded : ∃ c ∈ text, Sign.holds c = false)
    (rest : List Char) : lead (text ++ rest) = lead text := by
  induction text with
  | nil =>
      obtain ⟨c, member, -⟩ := worded
      exact nomatch member
  | cons first more ih =>
      cases own : Sign.holds first with
      | false => simp [lead, own]
      | true =>
          obtain ⟨c, member, other⟩ := worded
          have later : c ∈ more := by
            rcases List.mem_cons.mp member with rfl | later
            · rw [own] at other
              exact nomatch other
            · exact later
          have others := ih ⟨c, later, other⟩
          simp only [lead, List.cons_append, List.takeWhile_cons, own, if_true,
            List.length_cons] at others ⊢
          omega

theorem lead_first_atom {segments : List Segment} {first : Script} {more : List Script}
    (found : Segment.atoms segments = first :: more) (worded : Worded first) (r : Renderer) :
    lead (r.written first) ≤ lead (Segment.spelled r segments) := by
  induction segments with
  | nil => exact nomatch found
  | cons segment rest ih =>
      cases segment with
      | sign s =>
          have others := ih found
          rw [Segment.spelled_sign, lead_signs s.all_holds]
          omega
      | atom s =>
          obtain rfl : s = first := List.head_eq_of_cons_eq found
          exact Nat.le_of_eq (lead_worded (worded r) _).symm

theorem take?_sign {atoms : Atoms} {s : Sign} {rest : List Char}
    (apart : ∀ atom ∈ atoms.head?, (∃ c ∈ atom.1, Sign.holds c = false) ∧
      lead atom.1 ≤ lead rest) :
    Token.take? atoms (s.text ++ rest) = some (.sign s, atoms, rest) := by
  have other : Token.atom? atoms (s.text ++ rest) = none := by
    cases atoms with
    | nil => rfl
    | cons first more =>
        obtain ⟨worded, ahead⟩ := apart first rfl
        rw [Token.atom?, Option.map_eq_none_iff, Option.eq_none_iff_forall_not_mem]
        intro tail found
        have split := List.isPrefixOf?_eq_some_iff_append_eq.mp found
        have length := lead_worded worded tail
        rw [split, lead_signs s.all_holds] at length
        have filled : 0 < s.text.length := by cases s <;> decide
        omega
  rw [Token.take?, other, Sign.read?_text]
  rfl

theorem tokens?_spelled (segments : List Segment) (worded : ∀ s ∈ Segment.atoms segments, Worded s)
    (r : Renderer) (n : Nat) :
    tokens? ((r.writtenEach (Segment.atoms segments)).zipIdx n) (Segment.spelled r segments) =
      some (Segment.tokens n segments) := by
  induction segments generalizing r n with
  | nil => exact tokens?_nil _
  | cons segment rest ih =>
      cases segment with
      | sign s =>
          have apart : ∀ atom ∈ ((r.writtenEach (Segment.atoms rest)).zipIdx n).head?,
              (∃ c ∈ atom.1, Sign.holds c = false) ∧
                lead atom.1 ≤ lead (Segment.spelled r rest) := by
            intro atom found
            cases atoms : Segment.atoms rest with
            | nil => simp [atoms, Renderer.writtenEach] at found
            | cons first more =>
                have own : Worded first := worded first (by simp [Segment.atoms, atoms])
                simp only [atoms, Renderer.writtenEach, List.zipIdx_cons, List.head?_cons,
                  Option.mem_some_iff] at found
                subst found
                exact ⟨own r, lead_first_atom atoms own r⟩
          have filled : s.text ++ Segment.spelled r rest ≠ [] := by cases s <;> simp [Sign.text]
          rw [Segment.spelled_sign, Segment.atoms, tokens?_take (take?_sign apart) filled,
            ih worded r n]
          rfl
      | atom s =>
          obtain ⟨own, others⟩ := List.forall_mem_cons.mp worded
          have taken : Token.take? ((r.writtenEach (s :: Segment.atoms rest)).zipIdx n)
              (r.written s ++ Segment.spelled (r.write s) rest) =
              some (.atom n, ((r.write s).writtenEach (Segment.atoms rest)).zipIdx (n + 1),
                Segment.spelled (r.write s) rest) := by
            have cut := List.isPrefixOf?_eq_some_iff_append_eq.mpr
              (rfl : r.written s ++ Segment.spelled (r.write s) rest = _)
            simp [Token.take?, Token.atom?, Renderer.writtenEach, cut]
          have filled : r.written s ++ Segment.spelled (r.write s) rest ≠ [] := by
            obtain ⟨c, member, -⟩ := own r
            exact List.append_ne_nil_of_left_ne_nil (List.ne_nil_of_mem member) _
          rw [Segment.spelled_atom, Segment.atoms, tokens?_take taken filled,
            ih others (r.write s) (n + 1)]
          rfl

end SqlTree.Condition
