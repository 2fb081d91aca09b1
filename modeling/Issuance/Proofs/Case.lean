import Issuance.Proofs.Utf8
import Issuance.Text.Case

/-! Case mappings give what they leave as it is, so that mapping a text a second time changes nothing. -/

namespace Issuance.Text

namespace CaseRun

/-- The code point the first one of a run is mapped to. -/
def bottom (run : CaseRun) : Nat := (run.first + run.shift).toNat

/-- The code point the last one of a run is mapped to. -/
def top (run : CaseRun) : Nat := (run.last + run.shift).toNat

/-- Whether nothing that one run maps to is held by another: they lie apart, or alternate. -/
def clear (run other : CaseRun) : Bool :=
  Nat.blt run.top other.first || Nat.blt other.last run.bottom ||
    ((run.step % 2 == 0 || run.first == run.last) && other.step % 2 == 0 &&
      run.bottom % 2 != other.first % 2)

theorem image?_eq_some {run : CaseRun} {code image : Nat} (found : run.image? code = some image) :
    run.first ≤ code ∧ code ≤ run.last ∧ run.step ∣ code - run.first ∧
      image = ((code : Int) + run.shift).toNat := by
  simp only [image?, Bool.and_eq_true, decide_eq_true_eq, beq_iff_eq] at found
  split at found
  · next held =>
    cases found
    exact ⟨held.1.1, held.1.2, Nat.dvd_of_mod_eq_zero held.2, rfl⟩
  · cases found

/-- A run maps to nothing below its bottom, and to nothing above its top. -/
theorem image?_bounds {run : CaseRun} {code image : Nat} (found : run.image? code = some image) :
    run.bottom ≤ image ∧ image ≤ run.top := by
  obtain ⟨low, high, -, rfl⟩ := image?_eq_some found
  unfold bottom top
  omega

/-- Whether a run maps to characters only, all of them on one side of the surrogates. -/
def charted (run : CaseRun) : Bool :=
  Nat.blt run.top 0xD800 || Nat.blt 0xDFFF run.bottom && Nat.blt run.top 0x110000

/-- The character that a run maps to has the code that it maps to. -/
theorem toNat_image {run : CaseRun} (charted : run.charted = true) {code image : Nat}
    (found : run.image? code = some image) : (Char.ofNat image).toNat = image := by
  obtain ⟨least, most⟩ := image?_bounds found
  simp only [CaseRun.charted, Bool.or_eq_true, Bool.and_eq_true, Nat.blt_eq] at charted
  have valid : image.isValidChar := by
    unfold Nat.isValidChar
    omega
  rw [Char.ofNat, dif_pos valid]
  rfl

theorem image?_of_clear {run other : CaseRun} {code image : Nat} (clear : run.clear other = true)
    (positive : 0 < run.bottom) (found : run.image? code = some image) :
    other.image? image = none := by
  cases again : other.image? image with
  | none => rfl
  | some next =>
    obtain ⟨low, high, step, rfl⟩ := image?_eq_some found
    obtain ⟨low', high', step', -⟩ := image?_eq_some again
    simp only [CaseRun.clear, Bool.or_eq_true, Bool.and_eq_true, Nat.blt_eq, beq_iff_eq, bne_iff_ne,
      bottom, top] at clear positive
    rcases clear with (before | behind) | ⟨⟨even, even'⟩, odd⟩
    -- In the first two cases all images are on one side of the other run.
    · omega
    · omega
    · -- Both runs hold every second code, and the image is between those of the other.
      have whole : 2 ∣ code - run.first := by
        rcases even with even | single
        · exact Nat.dvd_trans (Nat.dvd_of_mod_eq_zero even) step
        · omega
      have whole' := Nat.dvd_trans (Nat.dvd_of_mod_eq_zero even') step'
      omega

end CaseRun

/-- What a mapping gives is the image of a run, a part of an expansion, or the character itself. -/
theorem mem_mapChar {runs : Array CaseRun} {expansions : List (Nat × List Nat)} {c d : Char}
    (member : d ∈ mapChar runs expansions c) :
    (∃ run ∈ runs, ∃ code, run.image? c.toNat = some code ∧ d = Char.ofNat code) ∨
      (∃ entry ∈ expansions, ∃ code ∈ entry.2, d = Char.ofNat code) ∨
      (d = c ∧ (∀ run ∈ runs, run.image? c.toNat = none) ∧ expansions.lookup c.toNat = none) := by
  unfold mapChar at member
  -- The expansions count only for what no run holds.
  split at member
  · obtain ⟨run, held, found⟩ := Array.exists_of_findSome?_eq_some (by assumption)
    exact .inl ⟨run, held, _, found, List.mem_singleton.mp member⟩
  · next unheld =>
    refine .inr ?_
    split at member
    · next codes found =>
      obtain ⟨code, place, rfl⟩ := List.mem_map.mp member
      obtain ⟨front, back, split, -⟩ := List.lookup_eq_some_iff.mp found
      exact .inl ⟨(c.toNat, codes), by simp [split], code, place, rfl⟩
    · next unexpanded =>
      exact .inr ⟨List.mem_singleton.mp member, Array.findSome?_eq_none_iff.mp unheld, unexpanded⟩

/-- A mapping of case: a rule for ASCII, and runs and expansions for all other characters. -/
structure CaseMapping where
  ascii : Char → Char
  runs : Array CaseRun
  expansions : List (Nat × List Nat)

namespace CaseMapping

/-- The mapping to lower case. -/
def lower : CaseMapping := ⟨Char.toLower, lowerRuns, lowerExpansions⟩

/-- The mapping to upper case. -/
def upper : CaseMapping := ⟨Char.toUpper, upperRuns, upperExpansions⟩

/-- The image of a character. -/
def image (mapping : CaseMapping) (c : Char) : List Char :=
  if c.toNat < 128 then [mapping.ascii c] else mapChar mapping.runs mapping.expansions c

/-- Whether a character is its own image: neither a run nor an expansion holds it. -/
def fixes (mapping : CaseMapping) (c : Char) : Bool :=
  if c.toNat < 128 then mapping.ascii c == c
  else mapping.runs.toList.all (fun run => (run.image? c.toNat).isNone) &&
    (mapping.expansions.lookup c.toNat).isNone

/--
A mapping that gives only what it leaves as it is, as far as its tables tell.

An entry of the expansions is held as a run of one code would hold it.
-/
structure Stable (mapping : CaseMapping) : Prop where
  ascii : ∀ code < 128, mapping.fixes (mapping.ascii (Char.ofNat code)) = true
  /-- No run maps to anything that a run or an expansion holds. -/
  clear : mapping.runs.toList.all (fun run => mapping.runs.toList.all (run.clear ·) &&
    mapping.expansions.all fun entry => run.clear ⟨entry.1, entry.1, 1, 0⟩) = true
  /-- Only single codes are mapped to ASCII. -/
  low : mapping.runs.toList.all (fun run => Nat.blt 127 run.bottom ||
    run.first == run.last && mapping.fixes (Char.ofNat run.bottom)) = true
  charted : mapping.runs.toList.all CaseRun.charted = true
  expanded : ∀ entry ∈ mapping.expansions, ∀ code ∈ entry.2, mapping.fixes (Char.ofNat code) = true

variable {mapping : CaseMapping} {c d : Char}

theorem image_of_fixes (fixed : mapping.fixes c = true) : mapping.image c = [c] := by
  unfold fixes at fixed
  unfold image
  split at fixed
  · next ascii => rw [if_pos ascii, beq_iff_eq.mp fixed]
  · next beyond =>
    obtain ⟨unheld, unexpanded⟩ := Bool.and_eq_true_iff.mp fixed
    have missing : mapping.runs.findSome? (·.image? c.toNat) = none :=
      Array.findSome?_eq_none_iff.mpr fun run member =>
        Option.isNone_iff_eq_none.mp (List.all_eq_true.mp unheld run (Array.mem_def.mp member))
    rw [if_neg beyond, mapChar, missing, Option.isNone_iff_eq_none.mp unexpanded]

/-- A run of a stable mapping maps to characters with the codes that it gives. -/
theorem Stable.toNat_image (stable : mapping.Stable) {run : CaseRun} (member : run ∈ mapping.runs)
    {code image : Nat} (found : run.image? code = some image) : (Char.ofNat image).toNat = image :=
  CaseRun.toNat_image (List.all_eq_true.mp stable.charted run (Array.mem_def.mp member)) found

/-- What a run maps to is its own image, for it is held by no run. -/
theorem Stable.fixes_run (stable : mapping.Stable) {run : CaseRun} (member : run ∈ mapping.runs)
    {code image : Nat} (found : run.image? code = some image) :
    mapping.fixes (Char.ofNat image) = true := by
  obtain ⟨others, entries⟩ :=
    Bool.and_eq_true_iff.mp (List.all_eq_true.mp stable.clear run (Array.mem_def.mp member))
  have bottom := List.all_eq_true.mp stable.low run (Array.mem_def.mp member)
  simp only [Bool.or_eq_true, Bool.and_eq_true, Nat.blt_eq, beq_iff_eq] at bottom
  have least := (CaseRun.image?_bounds found).1
  rcases bottom with high | ⟨single, fixed⟩
  · -- Beyond ASCII the image is looked for in all runs and entries, and it is clear of them.
    have same := stable.toNat_image member found
    have unheld : ∀ other, run.clear other = true → other.image? image = none :=
      fun other clear => CaseRun.image?_of_clear clear (by omega) found
    rw [fixes, same, if_neg (by omega), Bool.and_eq_true_iff]
    constructor
    · exact List.all_eq_true.mpr fun other held =>
        Option.isNone_iff_eq_none.mpr (unheld other (List.all_eq_true.mp others other held))
    · refine Option.isNone_iff_eq_none.mpr (List.lookup_eq_none_iff.mpr fun entry held => ?_)
      have := unheld _ (List.all_eq_true.mp entries entry held)
      rw [bne_iff_ne]
      rintro rfl
      simp [CaseRun.image?] at this
  · -- A run that leads to ASCII has but one image, which has been looked at.
    obtain ⟨first, last, -, shifted⟩ := CaseRun.image?_eq_some found
    have only : image = run.bottom := by
      unfold CaseRun.bottom
      omega
    rw [only]
    exact fixed

/-- The image of a character is its own image. -/
theorem Stable.fixes_image (stable : mapping.Stable) (member : d ∈ mapping.image c) :
    mapping.fixes d = true := by
  unfold image at member
  split at member
  · next ascii =>
    have own := stable.ascii c.toNat ascii
    rw [Char.ofNat_toNat] at own
    rw [List.mem_singleton.mp member]
    exact own
  · next beyond =>
    obtain ⟨run, held, code, found, rfl⟩ | ⟨entry, held, code, place, rfl⟩ |
      ⟨rfl, unheld, unexpanded⟩ := mem_mapChar member
    · exact stable.fixes_run held found
    · exact stable.expanded entry held code place
    · rw [fixes, if_neg beyond, unexpanded, Bool.and_eq_true_iff]
      exact ⟨List.all_eq_true.mpr fun run held =>
        Option.isNone_iff_eq_none.mpr (unheld run (Array.mem_def.mpr held)), rfl⟩

/-- Mapping a text a second time changes nothing. -/
theorem Stable.flatMap_flatMap (stable : mapping.Stable) (cs : List Char) :
    (cs.flatMap mapping.image).flatMap mapping.image = cs.flatMap mapping.image := by
  -- All that the first time gives is its own image.
  have own : ∀ d ∈ cs.flatMap mapping.image, mapping.image d = [d] := by
    intro d member
    obtain ⟨c, _, there⟩ := List.mem_flatMap.mp member
    exact image_of_fixes (stable.fixes_image there)
  rw [List.flatMap_def, List.map_congr_left own, ← List.flatMap_def, List.flatMap_singleton']

theorem stable_lower : lower.Stable where
  ascii := by decide +kernel
  clear := by decide +kernel
  low := by decide +kernel
  charted := by decide +kernel
  expanded := by decide +kernel

theorem stable_upper : upper.Stable where
  ascii := by decide +kernel
  clear := by decide +kernel
  low := by decide +kernel
  charted := by decide +kernel
  expanded := by decide +kernel

end CaseMapping

/-- Upper case by the rule for ASCII leaves all other characters alone. -/
theorem toUpper_of_beyond {c : Char} (beyond : ¬ c.toNat < 128) : c.toUpper = c := by
  unfold Char.toUpper
  split
  · next letter =>
    have most := UInt32.le_iff_toNat_le.mp letter.2
    exact absurd (Nat.lt_of_le_of_lt most (by decide)) beyond
  · rfl

/-- Lower case by the rule for ASCII leaves all other characters alone. -/
theorem toLower_of_beyond {c : Char} (beyond : ¬ c.toNat < 128) : c.toLower = c := by
  unfold Char.toLower
  split
  · next letter =>
    have most := UInt32.le_iff_toNat_le.mp letter.2
    exact absurd (Nat.lt_of_le_of_lt most (by decide)) beyond
  · rfl

/-- What holds of all ASCII characters by their codes holds of each. -/
theorem of_ascii {motive : Char → Prop} (each : ∀ code < 128, motive (Char.ofNat code)) {c : Char}
    (ascii : c.toNat < 128) : motive c := by
  have own := each c.toNat ascii
  rwa [Char.ofNat_toNat] at own

/-- A rule for ASCII keeps to it, if it leaves all other characters alone. -/
theorem toNat_lt_iff {rule : Char → Char} (beyond : ∀ {c : Char}, ¬ c.toNat < 128 → rule c = c)
    (within : ∀ code < 128, (rule (Char.ofNat code)).toNat < 128) {c : Char} :
    (rule c).toNat < 128 ↔ c.toNat < 128 := by
  constructor
  · intro ascii
    refine Decidable.byContradiction fun other => other ?_
    rwa [beyond other] at ascii
  · exact of_ascii (motive := fun c => (rule c).toNat < 128) within

theorem toNat_toUpper_lt {c : Char} : c.toUpper.toNat < 128 ↔ c.toNat < 128 :=
  toNat_lt_iff toUpper_of_beyond (by decide)

theorem toNat_toLower_lt {c : Char} : c.toLower.toNat < 128 ↔ c.toNat < 128 :=
  toNat_lt_iff toLower_of_beyond (by decide)

/-- Outside every context a character is mapped to lower case by the tables alone. -/
theorem lowerChar_eq_image (c : Char) : lowerChar c = CaseMapping.lower.image c := rfl

/-- The lower case of a text is in lower case, whatever stands before it. -/
theorem fixes_lowerAfter {afterCased : Bool} {cs : List Char} :
    ∀ d ∈ lowerAfter afterCased cs, CaseMapping.lower.fixes d = true := by
  induction cs generalizing afterCased with
  | nil => exact nofun
  | cons c rest ih =>
    rw [lowerAfter]
    refine List.forall_mem_append.mpr ⟨fun d image => ?_, ih⟩
    split at image
    · -- Both forms of a small sigma are their own lower case.
      rw [List.mem_singleton.mp image]
      split <;> decide +kernel
    · exact CaseMapping.stable_lower.fixes_image image

/-- Text that is in lower case stays as it is. -/
theorem lowerAfter_of_fixes {afterCased : Bool} {cs : List Char}
    (settled : ∀ c ∈ cs, CaseMapping.lower.fixes c = true) : lowerAfter afterCased cs = cs := by
  induction cs generalizing afterCased with
  | nil => rfl
  | cons c rest ih =>
    have own := settled c (by simp)
    -- The one character with a rule of its own is in upper case.
    have other : c ≠ 'Σ' := by
      rintro rfl
      revert own
      decide +kernel
    rw [lowerAfter, if_neg other, lowerChar_eq_image, CaseMapping.image_of_fixes own,
      ih fun c member => settled c (by simp [member])]
    rfl

/-- The lower case of ASCII text is taken letter by letter. -/
theorem lowerAfter_of_ascii {afterCased : Bool} {cs : List Char} (ascii : Utf8.Ascii cs) :
    lowerAfter afterCased cs = cs.map Char.toLower := by
  induction cs generalizing afterCased with
  | nil => rfl
  | cons c rest ih =>
    have low := ascii c (by simp)
    have other : c ≠ 'Σ' := by
      rintro rfl
      revert low
      decide
    have others : Utf8.Ascii rest := fun c member => ascii c (List.mem_cons_of_mem _ member)
    rw [lowerAfter, if_neg other, lowerChar, if_pos low, ih others]
    rfl

end Issuance.Text
