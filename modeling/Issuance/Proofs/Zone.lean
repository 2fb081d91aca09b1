import Issuance.Proofs.Blank
import Issuance.Zone

/-! Which texts name a zone, and that of all of them the zone's own text is the one normal form. -/

namespace Issuance

namespace Zone

open Text (Trimmed Padded isBlank)

/--
A zone in normal form.

It has an application, and neither part has blanks around it or a separator in it.
-/
structure Canonical (zone : Zone) : Prop where
  filled : zone.application ≠ ""
  application : Trimmed isBlank zone.application.toList ∧ separator ∉ zone.application.toList
  templateAlias : Trimmed isBlank zone.templateAlias.toList ∧ separator ∉ zone.templateAlias.toList

/-- The texts that name a zone: both of its parts with blanks around them, and a separator between. -/
inductive Named (zone : Zone) : List Char → Prop where
  /-- Without an alias the separator may be left out. -/
  | alone {cs : List Char} (unaliased : zone.templateAlias = "")
      (application : Padded isBlank zone.application.toList cs) : Named zone cs
  | aliased {front back : List Char} (application : Padded isBlank zone.application.toList front)
      (templateAlias : Padded isBlank zone.templateAlias.toList back) :
      Named zone (front ++ separator :: back)

/-- The separator is no blank. -/
theorem isBlank_separator : isBlank separator = false := by decide

/-- Blanks around a text bring no separator into it. -/
theorem separator_notMem_of_padded {middle cs : List Char} (padded : Padded isBlank middle cs)
    (bare : separator ∉ middle) : separator ∉ cs := by
  intro member
  rcases padded.mem member with inside | blank
  · exact bare inside
  · rw [isBlank_separator] at blank
    cases blank

section Segments

variable {front back : List Char}

/-- A text without a separator is one segment. -/
theorem segments_of_notMem {cs : List Char} (bare : separator ∉ cs) : segments cs = [cs] := by
  induction cs with
  | nil => rfl
  | cons c cs ih =>
    have other : c ≠ separator := (List.ne_of_not_mem_cons bare).symm
    rw [segments, if_neg other, ih (List.not_mem_of_not_mem_cons bare)]

/-- The first separator ends the first segment. -/
theorem segments_append (bare : separator ∉ front) :
    segments (front ++ separator :: back) = front :: segments back := by
  induction front with
  | nil => rw [List.nil_append, segments, if_pos rfl]
  | cons c front ih =>
    have other : c ≠ separator := (List.ne_of_not_mem_cons bare).symm
    rw [List.cons_append, segments, if_neg other, ih (List.not_mem_of_not_mem_cons bare)]

/-- Behind every separator there is a segment, if an empty one. -/
theorem segments_ne_nil (cs : List Char) : segments cs ≠ [] := by
  rcases cs with _ | ⟨c, cs⟩
  · exact List.cons_ne_nil _ _
  · rw [segments]
    split
    · exact List.cons_ne_nil _ _
    · split <;> exact List.cons_ne_nil _ _

/-- A text has no separator, one, or more of them. -/
theorem separators_cases (cs : List Char) :
    separator ∉ cs ∨
      (∃ front back, cs = front ++ separator :: back ∧ separator ∉ front ∧ separator ∉ back) ∨
      ∃ front middle back, cs = front ++ separator :: (middle ++ separator :: back) ∧
        separator ∉ front ∧ separator ∉ middle := by
  by_cases held : separator ∈ cs
  · obtain ⟨front, rest, rfl, bareFront⟩ := List.eq_append_cons_of_mem held
    by_cases more : separator ∈ rest
    · obtain ⟨middle, back, rfl, bareMiddle⟩ := List.eq_append_cons_of_mem more
      exact .inr (.inr ⟨front, middle, back, rfl, bareFront, bareMiddle⟩)
    · exact .inr (.inl ⟨front, rest, rfl, bareFront, more⟩)
  · exact .inl held

end Segments

section Parse

variable {text : String} {front middle back : List Char}

theorem trimmed_eq_empty {cs : List Char} : trimmed cs = "" ↔ ∀ c ∈ cs, isBlank c = true := by
  rw [trimmed, ← String.toList_inj, String.toList_ofList, ← Text.trimList_eq_nil]
  rfl

/-- What separates is there to be read, so that such a text is not all blank. -/
theorem strip_isEmpty_of_mem (member : separator ∈ text.toList) :
    (Text.strip text).isEmpty = false := by
  rw [String.isEmpty_eq_false_iff]
  intro empty
  have blank := trimmed_eq_empty.mp empty separator member
  rw [isBlank_separator] at blank
  cases blank

/-- A text without a separator is an application, unless there is nothing in it. -/
theorem parse_alone (bare : separator ∉ text.toList) :
    parse text = if trimmed text.toList = "" then .error .unspecified
      else .ok ⟨trimmed text.toList, ""⟩ := by
  have stripped : Text.strip text = trimmed text.toList := rfl
  rw [parse, stripped, segments_of_notMem bare]
  simp only [String.isEmpty_iff]

/-- A text with one separator is an application and an alias, unless there is nothing before it. -/
theorem parse_aliased (split : text.toList = front ++ separator :: back)
    (bareFront : separator ∉ front) (bareBack : separator ∉ back) :
    parse text = if trimmed front = "" then .error (.malformed text)
      else .ok ⟨trimmed front, trimmed back⟩ := by
  have held : separator ∈ text.toList := by simp [split]
  have filled := strip_isEmpty_of_mem held
  rw [parse, filled, split, segments_append bareFront, segments_of_notMem bareBack]
  simp only [String.isEmpty_iff, Bool.false_eq_true, if_false]

/-- A text with more separators names no zone. -/
theorem parse_crowded (split : text.toList = front ++ separator :: (middle ++ separator :: back))
    (bareFront : separator ∉ front) (bareMiddle : separator ∉ middle) :
    parse text = .error (.malformed text) := by
  have held : separator ∈ text.toList := by simp [split]
  have filled := strip_isEmpty_of_mem held
  rw [parse, filled, split, segments_append bareFront, segments_append bareMiddle]
  -- Whatever stands behind the second separator, it is at least a third segment.
  obtain ⟨third, more, shape⟩ := List.exists_cons_of_ne_nil (segments_ne_nil back)
  rw [shape]
  rfl

end Parse

variable {text : String} {zone : Zone}

/-- What is left of a segment is its trimmed text. -/
theorem trimmed_eq_iff {cs : List Char} {part : String} :
    trimmed cs = part ↔ Trimmed isBlank part.toList ∧ Padded isBlank part.toList cs := by
  rw [trimmed, ← String.toList_inj, String.toList_ofList, Text.trimList_eq_iff]

/-- What is left of a segment has no blanks around it, and the segment has no more than those. -/
theorem trimmed_padded (cs : List Char) :
    Trimmed isBlank (trimmed cs).toList ∧ Padded isBlank (trimmed cs).toList cs :=
  trimmed_eq_iff.mp rfl

/-- A part of a segment without separators has none itself. -/
theorem separator_notMem_trimmed {cs : List Char} (bare : separator ∉ cs) :
    separator ∉ (trimmed cs).toList := by
  obtain ⟨front, back, whole, _⟩ := (trimmed_padded cs).2
  intro member
  apply bare
  rw [whole]
  simp [member]

/-- The texts that name a zone are read as that zone, and no others are. -/
theorem parse_eq_ok : parse text = .ok zone ↔ zone.Canonical ∧ zone.Named text.toList := by
  constructor
  · intro parsed
    -- The shape of the text is that of the naming, unless there are too many separators.
    obtain bare | ⟨front, back, split, bareFront, bareBack⟩ |
      ⟨front, middle, back, split, bareFront, bareMiddle⟩ := separators_cases text.toList
    · -- Without a separator all of the text is the application.
      rw [parse_alone bare] at parsed
      split at parsed
      · cases parsed
      · next filled =>
        cases parsed
        obtain ⟨application, padded⟩ := trimmed_padded text.toList
        exact ⟨⟨filled, ⟨application, separator_notMem_trimmed bare⟩, Trimmed.nil, List.not_mem_nil⟩,
          .alone rfl padded⟩
    · -- With one, what stands behind it is the alias.
      rw [parse_aliased split bareFront bareBack] at parsed
      split at parsed
      · cases parsed
      · next filled =>
        cases parsed
        obtain ⟨application, padded⟩ := trimmed_padded front
        obtain ⟨templateAlias, padded'⟩ := trimmed_padded back
        rw [split]
        exact ⟨⟨filled, ⟨application, separator_notMem_trimmed bareFront⟩, templateAlias,
          separator_notMem_trimmed bareBack⟩, .aliased padded padded'⟩
    · rw [parse_crowded split bareFront bareMiddle] at parsed
      cases parsed
  · rintro ⟨canonical, named⟩
    generalize shape : text.toList = cs at named
    cases named with
    | alone unaliased application =>
      -- Blanks around the application make no second segment.
      have bare := separator_notMem_of_padded application canonical.application.2
      have left := trimmed_eq_iff.mpr ⟨canonical.application.1, application⟩
      rw [parse_alone (shape ▸ bare), shape, left, if_neg canonical.filled, ← unaliased]
    | aliased application templateAlias =>
      have bareFront := separator_notMem_of_padded application canonical.application.2
      have bareBack := separator_notMem_of_padded templateAlias canonical.templateAlias.2
      have left := trimmed_eq_iff.mpr ⟨canonical.application.1, application⟩
      have right := trimmed_eq_iff.mpr ⟨canonical.templateAlias.1, templateAlias⟩
      rw [parse_aliased shape bareFront bareBack, left, right, if_neg canonical.filled]

/-- The text of a zone names it. -/
theorem named_text (zone : Zone) : zone.Named zone.text.toList := by
  rw [text]
  split
  · next unaliased => exact .alone (String.isEmpty_iff.mp unaliased) (Padded.refl _)
  · rw [String.toList_append, String.toList_append, String.toList_singleton, List.append_assoc,
      List.singleton_append]
    exact .aliased (Padded.refl _) (Padded.refl _)

/-- A zone in normal form is read back from its text. -/
theorem parse_text (canonical : zone.Canonical) : parse zone.text = .ok zone :=
  parse_eq_ok.mpr ⟨canonical, named_text zone⟩

/-- A zone is read exactly if there is one separator at most, and more than blanks before it. -/
theorem exists_parse_eq_ok : (∃ zone, parse text = .ok zone) ↔
    text.toList.count separator ≤ 1 ∧
      ∃ c ∈ text.toList.takeWhile (· ≠ separator), isBlank c = false := by
  have before {front : List Char} (bare : separator ∉ front) (rest : List Char) :
      (front ++ separator :: rest).takeWhile (· ≠ separator) = front := by
    rw [List.takeWhile_append_of_pos, List.takeWhile_cons_of_neg (by simp), List.append_nil]
    intro c member
    rw [decide_eq_true_iff]
    rintro rfl
    exact bare member
  have filled {cs : List Char} : trimmed cs ≠ "" ↔ ∃ c ∈ cs, isBlank c = false := by
    simp [trimmed_eq_empty]
  obtain bare | ⟨front, back, split, bareFront, bareBack⟩ |
    ⟨front, middle, back, split, bareFront, bareMiddle⟩ := separators_cases text.toList
  · have whole : text.toList.takeWhile (· ≠ separator) = text.toList := by
      rw [List.takeWhile_eq_self_iff]
      intro c member
      rw [decide_eq_true_iff]
      rintro rfl
      exact bare member
    -- All of the text stands before the separator that it lacks.
    rw [parse_alone bare, whole, ← filled, List.count_eq_zero_of_not_mem bare]
    by_cases empty : trimmed text.toList = "" <;> simp [empty]
  · -- The one separator ends what has to hold more than blanks.
    rw [parse_aliased split bareFront bareBack, split, before bareFront, ← filled,
      List.count_append, List.count_cons_self, List.count_eq_zero_of_not_mem bareFront,
      List.count_eq_zero_of_not_mem bareBack]
    by_cases empty : trimmed front = "" <;> simp [empty]
  · -- With a second separator there is neither a zone nor a right number of them.
    rw [parse_crowded split bareFront bareMiddle, split]
    simp only [List.count_append, List.count_cons_self]
    constructor
    · rintro ⟨zone, parsed⟩
      cases parsed
    · intro few
      omega

/--
Reading a text as a zone and writing it again brings the text to normal form.

The texts that are read have one separator at most, and more than blanks before it.
Texts that name one zone have one normal form, which is read as that zone, and no others have it.
-/
theorem parse_canonical (text : String) :
    ((∃ zone, parse text = .ok zone) ↔
      text.toList.count separator ≤ 1 ∧
        ∃ c ∈ text.toList.takeWhile (· ≠ separator), isBlank c = false) ∧
    ∀ zone, parse text = .ok zone →
      zone.Canonical ∧ zone.Named text.toList ∧ parse zone.text = .ok zone ∧
      (parse zone.text).map Zone.text = .ok zone.text ∧
      ∀ other found, parse other = .ok found → (zone = found ↔ zone.text = found.text) := by
  refine ⟨exists_parse_eq_ok, fun zone parsed => ?_⟩
  obtain ⟨canonical, named⟩ := parse_eq_ok.mp parsed
  have back := parse_text canonical
  refine ⟨canonical, named, back, by rw [back]; rfl, fun other found parsed' => ?_⟩
  -- Zones with the same text are both read back from it.
  have back' := parse_text (parse_eq_ok.mp parsed').1
  constructor
  · exact congrArg Zone.text
  · intro same
    rw [same, back'] at back
    exact (Except.ok.inj back).symm

/-- Blanks of several kinds around the parts are gone from the text of the zone. -/
theorem parse_canonical_padded :
    ∃ zone, parse "\u2003Payments \\\t Default\n" = .ok zone ∧ zone.Canonical ∧
      zone.text = "Payments\\Default" ∧ parse "Payments\\Default" = .ok zone := by
  have parsed : parse "\u2003Payments \\\t Default\n" = .ok ⟨"Payments", "Default"⟩ := by decide
  obtain ⟨canonical, _, back, _⟩ := (parse_canonical _).2 _ parsed
  exact ⟨_, parsed, canonical, by decide, back⟩

end Zone

end Issuance
