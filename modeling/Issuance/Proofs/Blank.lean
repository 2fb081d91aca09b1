import Mathlib.Data.List.TakeWhile
import Issuance.Text.Blank

/-! What is left of a text when characters of a class are dropped from its front, or from both ends. -/

namespace Issuance.Text

/-- What is left begins with nothing that is dropped, and all that is dropped stands before it. -/
theorem dropWhile_eq_iff {α : Type} {drop : α → Bool} {items rest : List α} :
    items.dropWhile drop = rest ↔ (∃ front, items = front ++ rest ∧ ∀ item ∈ front, drop item = true) ∧
      ∀ item, rest.head? = some item → drop item = false := by
  constructor
  · rintro rfl
    refine ⟨⟨items.takeWhile drop, List.takeWhile_append_dropWhile.symm,
      fun item => List.mem_takeWhile_imp⟩, fun item first => ?_⟩
    have kept := List.head?_dropWhile_not drop items
    rw [first] at kept
    exact kept
  · rintro ⟨⟨front, rfl, dropped⟩, kept⟩
    rw [List.dropWhile_append_of_pos dropped]
    cases rest with
    | nil => rfl
    | cons item rest => exact List.dropWhile_cons_of_neg (by simp [kept item rfl])

variable {drop : Char → Bool} {cs middle : List Char}

/-- A text without a character of a class at its front or its back. -/
structure Trimmed (drop : Char → Bool) (cs : List Char) : Prop where
  front : ∀ c, cs.head? = some c → drop c = false
  back : ∀ c, cs.getLast? = some c → drop c = false

/-- A text that is another one between characters of a class. -/
def Padded (drop : Char → Bool) (middle cs : List Char) : Prop :=
  ∃ front back, cs = front ++ (middle ++ back) ∧ (∀ c ∈ front, drop c = true) ∧
    ∀ c ∈ back, drop c = true

theorem Trimmed.nil : Trimmed drop [] := ⟨nofun, nofun⟩

theorem Padded.refl (cs : List Char) : Padded drop cs cs :=
  ⟨[], [], (List.append_nil cs).symm, nofun, nofun⟩

theorem Padded.mem (padded : Padded drop middle cs) {c : Char} (member : c ∈ cs) :
    c ∈ middle ∨ drop c = true := by
  obtain ⟨front, back, rfl, blankFront, blankBack⟩ := padded
  simp only [List.mem_append] at member
  rcases member with member | member | member
  · exact .inr (blankFront c member)
  · exact .inl member
  · exact .inr (blankBack c member)

/-- Trimming a text leaves what the text is padded around, without anything more to drop. -/
theorem trimList_eq_iff :
    trimList drop cs = middle ↔ Trimmed drop middle ∧ Padded drop middle cs := by
  constructor
  · rintro rfl
    obtain ⟨⟨front, whole, dropped⟩, kept⟩ :=
      dropWhile_eq_iff.mp (rfl : cs.dropWhile drop = cs.dropWhile drop)
    obtain ⟨⟨back, whole', dropped'⟩, kept'⟩ := dropWhile_eq_iff.mp
      (rfl : (cs.dropWhile drop).reverse.dropWhile drop = (cs.dropWhile drop).reverse.dropWhile drop)
    -- The back has been dropped from the front of what was turned around.
    have turned : cs.dropWhile drop = trimList drop cs ++ back.reverse := by
      rw [trimList, ← List.reverse_append, ← whole', List.reverse_reverse]
    refine ⟨⟨fun c first => kept c ?_, fun c last => kept' c ?_⟩, front, back.reverse, ?_, dropped,
      fun c member => dropped' c (List.mem_reverse.mp member)⟩
    · rw [turned, List.head?_append, first, Option.some_or]
    · rw [trimList, List.getLast?_reverse] at last
      exact last
    · rw [← turned]
      exact whole
  · rintro ⟨trimmed, front, back, rfl, blankFront, blankBack⟩
    have turned (c : Char) (member : c ∈ back.reverse) : drop c = true :=
      blankBack c (List.mem_reverse.mp member)
    by_cases empty : middle = []
    · -- There is nothing but padding, all of which is dropped from the front.
      subst empty
      have nothing : (front ++ ([] ++ back)).dropWhile drop = [] := by
        refine dropWhile_eq_iff.mpr ⟨⟨front ++ back, by simp, fun c member => ?_⟩, nofun⟩
        exact (List.mem_append.mp member).elim (blankFront c) (blankBack c)
      rw [trimList, nothing]
      rfl
    · have left : (front ++ (middle ++ back)).dropWhile drop = middle ++ back := by
        refine dropWhile_eq_iff.mpr ⟨⟨front, rfl, blankFront⟩, fun c first => trimmed.front c ?_⟩
        obtain ⟨own, others, rfl⟩ := List.exists_cons_of_ne_nil empty
        exact first
      have right : (middle ++ back).reverse.dropWhile drop = middle.reverse := by
        refine dropWhile_eq_iff.mpr ⟨⟨back.reverse, List.reverse_append, turned⟩, fun c last => ?_⟩
        exact trimmed.back c (List.head?_reverse.symm.trans last)
      rw [trimList, left, right, List.reverse_reverse]

/-- Nothing is left of a text only if there is nothing but what is dropped. -/
theorem trimList_eq_nil : trimList drop cs = [] ↔ ∀ c ∈ cs, drop c = true := by
  constructor
  · intro nothing c member
    exact ((trimList_eq_iff.mp nothing).2.mem member).resolve_left List.not_mem_nil
  · intro blank
    exact trimList_eq_iff.mpr ⟨Trimmed.nil, cs, [], by simp, blank, nofun⟩

end Issuance.Text
