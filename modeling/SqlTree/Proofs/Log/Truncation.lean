import Mathlib.Data.List.Basic
import SqlTree.Log.Truncation
import SqlTree.Text.Utf8

/-!
Cut text is the longest part from the front that fits. It ends where a search for the end of a
character stops that goes backwards, byte by byte, from the limit.
-/

namespace SqlTree.Log

/-- The last place at or before a byte where a character ends or starts, searched backwards. -/
def lastBoundary (text : String) : Nat → Nat
  | 0 => 0
  | n + 1 => if (⟨n + 1⟩ : String.Pos.Raw).isValid text then n + 1 else lastBoundary text n

section Search

variable (text : String)

theorem lastBoundary_le (limit : Nat) : lastBoundary text limit ≤ limit := by
  induction limit with
  | zero => exact Nat.le_refl 0
  | succ n ih =>
      rw [lastBoundary]
      split
      · exact Nat.le_refl _
      · exact Nat.le_succ_of_le ih

theorem lastBoundary_isValid (limit : Nat) :
    (⟨lastBoundary text limit⟩ : String.Pos.Raw).IsValid text := by
  induction limit with
  | zero => exact String.Pos.Raw.isValid_zero
  | succ n ih =>
      rw [lastBoundary]
      split
      case isTrue valid => exact String.Pos.Raw.isValid_eq_true_iff.mp valid
      case isFalse => exact ih

/-- The search passes over no place where a character ends or starts. -/
theorem le_lastBoundary {text : String} {n limit : Nat} (valid : (⟨n⟩ : String.Pos.Raw).IsValid text)
    (within : n ≤ limit) : n ≤ lastBoundary text limit := by
  induction limit with
  | zero => exact within
  | succ m ih =>
      rw [lastBoundary]
      split
      case isTrue => exact within
      case isFalse invalid =>
        have earlier : n ≠ m + 1 := by
          rintro rfl
          exact invalid (String.Pos.Raw.isValid_eq_true_iff.mpr valid)
        exact ih (by omega)

theorem exists_lastBoundary (limit : Nat) :
    ∃ p rest : String, text = p ++ rest ∧ p.utf8ByteSize = lastBoundary text limit := by
  obtain ⟨p, rest, whole, stop⟩ :=
    String.Pos.Raw.isValid_iff_exists_append.mp (lastBoundary_isValid text limit)
  exact ⟨p, rest, whole, (congrArg String.Pos.Raw.byteIdx stop).symm⟩

end Search

section Fitting

variable {room : Nat} {text part : List Char}

theorem fitting_prefix (room : Nat) (text : List Char) : fitting room text <+: text := by
  induction text generalizing room with
  | nil => exact List.prefix_rfl
  | cons c rest ih =>
      rw [fitting]
      split
      case isTrue => exact (List.prefix_cons_inj c).mpr (ih _)
      case isFalse => exact List.nil_prefix

theorem size_ofList_cons (c : Char) (rest : List Char) :
    (String.ofList (c :: rest)).utf8ByteSize =
      c.utf8Size + (String.ofList rest).utf8ByteSize := by
  rw [← List.singleton_append, String.ofList_append, String.utf8ByteSize_append,
    ← String.singleton_eq_ofList, String.utf8ByteSize_singleton]

theorem size_fitting_le (room : Nat) (text : List Char) :
    (String.ofList (fitting room text)).utf8ByteSize ≤ room := by
  induction text generalizing room with
  | nil => exact Nat.zero_le room
  | cons c rest ih =>
      rw [fitting]
      split
      case isTrue fits =>
        have others := ih (room - c.utf8Size)
        rw [size_ofList_cons]
        omega
      case isFalse => exact Nat.zero_le room

theorem prefix_fitting (front : part <+: text) (fits : (String.ofList part).utf8ByteSize ≤ room) :
    part <+: fitting room text := by
  induction text generalizing room part with
  | nil => exact front
  | cons c rest ih =>
      rcases List.prefix_cons_iff.mp front with rfl | ⟨part, rfl, inner⟩
      · exact List.nil_prefix
      · rw [size_ofList_cons] at fits
        rw [fitting, if_pos (by omega)]
        exact (List.prefix_cons_inj c).mpr (ih inner (by omega))

theorem room_lt_of_cut (cut : fitting room text ≠ text) :
    room < (String.ofList (fitting room text)).utf8ByteSize + 4 := by
  induction text generalizing room with
  | nil => exact absurd rfl cut
  | cons c rest ih =>
      have largest := c.utf8Size_le_four
      rw [fitting] at cut ⊢
      split
      case isTrue fits =>
        rw [if_pos fits] at cut
        have others := @ih (room - c.utf8Size) fun whole => cut (by rw [whole])
        rw [size_ofList_cons]
        omega
      case isFalse => omega

end Fitting

theorem front_of_append {p rest text : String} (whole : text = p ++ rest) :
    p.toList <+: text.toList := by
  rw [whole, String.toList_append]
  exact List.prefix_append _ _

theorem size_fitting_eq (text : String) (limit : Nat) :
    (String.ofList (fitting limit text.toList)).utf8ByteSize = lastBoundary text limit := by
  apply Nat.le_antisymm
  · obtain ⟨rest, whole⟩ := fitting_prefix limit text.toList
    have front : text = String.ofList (fitting limit text.toList) ++ String.ofList rest := by
      rw [← String.ofList_append, whole, String.ofList_toList]
    have valid := String.Pos.Raw.isValid_iff_exists_append.mpr ⟨_, _, front, rfl⟩
    exact le_lastBoundary valid (size_fitting_le limit text.toList)
  · obtain ⟨p, rest, whole, stop⟩ := exists_lastBoundary text limit
    have fits : (String.ofList p.toList).utf8ByteSize ≤ limit := by
      rw [String.ofList_toList, stop]
      exact lastBoundary_le text limit
    obtain ⟨more, longest⟩ := prefix_fitting (front_of_append whole) fits
    rw [← stop, ← longest, String.ofList_append, String.utf8ByteSize_append, String.ofList_toList]
    exact Nat.le_add_right _ _

/-- Text within the limit stays as it is. Other text is cut behind the longest part from the front
that fits, at most three bytes short of the limit. That is the part before the byte at which the
search backwards from the limit ends, and that byte lies inside no character. -/
theorem truncated_keeps_longest (text : String) (most : Nat) :
    ∃ p rest : String, text = p ++ rest ∧
      truncated (some most) text = (if text.utf8ByteSize ≤ most then text else p ++ "...") ∧
      p.utf8ByteSize ≤ most ∧ (most < text.utf8ByteSize → most ≤ p.utf8ByteSize + 3) ∧
      (∀ q others : String, text = q ++ others → q.utf8ByteSize ≤ most → ∃ more, p = q ++ more) ∧
      (⟨lastBoundary text most⟩ : String.Pos.Raw).IsValid text ∧
      (Text.utf8 text).take (lastBoundary text most) = Text.utf8 p := by
  obtain ⟨rest, whole⟩ := fitting_prefix most text.toList
  have front : text = String.ofList (fitting most text.toList) ++ String.ofList rest := by
    rw [← String.ofList_append, whole, String.ofList_toList]
  refine ⟨_, _, front, rfl, size_fitting_le most text.toList, fun cut => ?_,
    fun q others split fits => ?_, lastBoundary_isValid text most, ?_⟩
  · have shorter : fitting most text.toList ≠ text.toList := by
      intro same
      have fits := size_fitting_le most text.toList
      rw [same, String.ofList_toList] at fits
      omega
    have room := room_lt_of_cut shorter
    omega
  · have short : (String.ofList q.toList).utf8ByteSize ≤ most := by
      rw [String.ofList_toList]
      exact fits
    obtain ⟨more, longest⟩ := prefix_fitting (front_of_append split) short
    refine ⟨String.ofList more, ?_⟩
    rw [← longest, String.ofList_append, String.ofList_toList]
  · calc
      (Text.utf8 text).take (lastBoundary text most) =
          (Text.utf8 (String.ofList (fitting most text.toList)) ++
            Text.utf8 (String.ofList rest)).take (lastBoundary text most) := by
        rw [← Text.utf8_append, ← front]
      _ = Text.utf8 (String.ofList (fitting most text.toList)) := by
        rw [← size_fitting_eq, ← Text.length_utf8]
        exact List.take_left

/-- A limit inside the two bytes of a character, and none at all. -/
theorem truncated_keeps_longest_accented :
    4 < "abcé".utf8ByteSize ∧ truncated (some 4) "abcé" = "abc..." ∧ lastBoundary "abcé" 4 = 3 ∧
      (∃ p rest, "abcé" = p ++ rest ∧ p.utf8ByteSize ≤ 4 ∧ 4 ≤ p.utf8ByteSize + 3 ∧
        (∃ more, p = "ab" ++ more) ∧ (Text.utf8 "abcé").take 3 = Text.utf8 p) ∧
      truncated (some 0) "é" = "..." := by
  have cut : 4 < "abcé".utf8ByteSize := by decide
  obtain ⟨p, rest, whole, -, fits, short, longest, -, bytes⟩ := truncated_keeps_longest "abcé" 4
  have front : ∃ more, p = "ab" ++ more := longest "ab" "cé" (by decide) (by decide)
  exact ⟨cut, by decide, by decide, ⟨p, rest, whole, fits, short cut, front, bytes⟩, by decide⟩

end SqlTree.Log
