import Mathlib.Logic.Relation
import Issuance.Proofs.Case
import Issuance.Proofs.Identity

/-! However a fingerprint is spelled, the service is asked for the one normal form and answers alike. -/

namespace Issuance

/-- Letters that differ in case alone have one upper case. -/
theorem Text.upperChar_congr {c d : Char} (same : c.toUpper = d.toUpper) :
    upperChar c = upperChar d := by
  by_cases ascii : c.toNat < 128
  · have ascii' : d.toNat < 128 := by rwa [← toNat_toUpper_lt, ← same, toNat_toUpper_lt]
    rw [upperChar, if_pos ascii, upperChar, if_pos ascii', same]
  · -- Beyond ASCII no character differs from another in case alone.
    have beyond : ¬ d.toNat < 128 := by rwa [← toNat_toUpper_lt, ← same, toNat_toUpper_lt]
    rw [toUpper_of_beyond ascii, toUpper_of_beyond beyond] at same
    rw [same]

namespace Fingerprint

/-- One change to the spelling of a fingerprint. -/
inductive Respelled : List Char → List Char → Prop where
  /-- A separator is put somewhere. -/
  | separated (front back : List Char) {c : Char} (separator : isSeparator c = true) :
      Respelled (front ++ back) (front ++ c :: back)
  /-- A letter is put in the other case; other characters, also letters beyond ASCII, stay. -/
  | recased (front back : List Char) {c d : Char} (same : c.toUpper = d.toUpper) :
      Respelled (front ++ c :: back) (front ++ d :: back)

/-- Fingerprints are spelled alike if changes lead from one to the other, made or taken back. -/
def SpelledAlike (first second : String) : Prop :=
  Relation.EqvGen Respelled first.toList second.toList

/-- The characters of a normal form. -/
def normalList (cs : List Char) : List Char := (cs.filter (!isSeparator ·)).flatMap Text.upperChar

theorem toList_normalize (fingerprint : String) :
    (normalize fingerprint).toList = normalList fingerprint.toList := by
  rw [normalize, Text.upper, String.toList_ofList, String.toList_ofList, normalList]

/-- Separators have no case. -/
theorem isSeparator_toUpper (c : Char) : isSeparator c.toUpper = isSeparator c := by
  by_cases ascii : c.toNat < 128
  · exact Text.of_ascii (motive := fun c => isSeparator c.toUpper = isSeparator c) (by decide) ascii
  · rw [Text.toUpper_of_beyond ascii]

/-- Both separators have low codes, below all that the runs of upper case lead to. -/
theorem toNat_le_of_isSeparator {c : Char} (separator : isSeparator c = true) : c.toNat ≤ 58 := by
  simp only [isSeparator, Bool.or_eq_true, beq_iff_eq] at separator
  rcases separator with rfl | rfl <;> decide

/-- Upper case gives a separator only for a separator. -/
theorem isSeparator_of_mem_upperChar {c d : Char} (member : d ∈ Text.upperChar c)
    (separator : isSeparator d = true) : isSeparator c = true := by
  unfold Text.upperChar at member
  split at member
  · rwa [List.mem_singleton.mp member, isSeparator_toUpper] at separator
  · obtain ⟨run, held, code, found, rfl⟩ | ⟨entry, held, code, place, rfl⟩ | ⟨rfl, _⟩ :=
      Text.mem_mapChar member
    -- The tables tell that no run comes down to the separators, and that no expansion has one.
    · have above : Text.upperRuns.toList.all (fun run => Nat.blt 58 run.bottom) = true := by
        decide +kernel
      have least := (Text.CaseRun.image?_bounds found).1
      have high := List.all_eq_true.mp above run (Array.mem_def.mp held)
      have own := Text.CaseMapping.stable_upper.toNat_image held found
      have low := toNat_le_of_isSeparator separator
      rw [Nat.blt_eq] at high
      omega
    · have expanded : ∀ entry ∈ Text.upperExpansions, ∀ code ∈ entry.2,
          isSeparator (Char.ofNat code) = false := by decide +kernel
      rw [expanded entry held code place] at separator
      cases separator
    · exact separator

/-- A normal form stays as it is. -/
theorem normalize_normalize (fingerprint : String) :
    normalize (normalize fingerprint) = normalize fingerprint := by
  -- It has no separators left to leave out, and is in upper case.
  have bare : (normalList fingerprint.toList).filter (!isSeparator ·) =
      normalList fingerprint.toList := by
    rw [List.filter_eq_self]
    intro d member
    obtain ⟨c, kept, image⟩ := List.mem_flatMap.mp member
    have plain : isSeparator c = false := by simpa using (List.mem_filter.mp kept).2
    cases separator : isSeparator d with
    | false => rfl
    | true => rw [isSeparator_of_mem_upperChar image separator] at plain; cases plain
  rw [← String.toList_inj, toList_normalize, toList_normalize, normalList, bare]
  exact Text.CaseMapping.stable_upper.flatMap_flatMap _

/-- One change to the spelling makes no difference to the normal form. -/
theorem Respelled.normalList_eq {cs ds : List Char} (step : Respelled cs ds) :
    normalList cs = normalList ds := by
  cases step with
  | separated front back separator => simp [normalList, separator]
  | @recased front back c d same =>
    have kind : isSeparator c = isSeparator d := by
      rw [← isSeparator_toUpper c, same, isSeparator_toUpper]
    simp only [normalList, List.filter_append, List.filter_cons, kind, List.flatMap_append]
    split
    · rw [List.flatMap_cons, List.flatMap_cons, Text.upperChar_congr same]
    · rfl

/-- Fingerprints that are spelled alike have one normal form. -/
theorem normalize_of_spelledAlike {first second : String} (alike : SpelledAlike first second) :
    normalize first = normalize second := by
  rw [← String.toList_inj, toList_normalize, toList_normalize]
  unfold SpelledAlike at alike
  generalize first.toList = cs, second.toList = ds at alike
  -- The induction is on how the changes are put together, and each of them keeps the normal form.
  induction alike with
  | rel cs ds step => exact step.normalList_eq
  | refl cs => rfl
  | symm cs ds _ ih => exact ih.symm
  | trans cs ds es _ _ ih ih' => exact ih.trans ih'

/-- A change is possible behind one more character. -/
theorem Respelled.cons (c : Char) {cs ds : List Char} (step : Respelled cs ds) :
    Respelled (c :: cs) (c :: ds) := by
  cases step with
  | separated front back separator => exact .separated (c :: front) back separator
  | recased front back same => exact .recased (c :: front) back same

theorem eqvGen_cons (c : Char) {cs ds : List Char} (alike : Relation.EqvGen Respelled cs ds) :
    Relation.EqvGen Respelled (c :: cs) (c :: ds) := by
  induction alike with
  | rel cs ds step => exact .rel _ _ (step.cons c)
  | refl cs => exact .refl _
  | symm cs ds _ ih => exact .symm _ _ ih
  | trans cs ds es _ _ ih ih' => exact .trans _ _ _ ih ih'

/-- Every spelling is led to the one without separators and in upper case. -/
theorem eqvGen_letters (cs : List Char) :
    Relation.EqvGen Respelled cs ((cs.filter (!isSeparator ·)).map Char.toUpper) := by
  have twice (c : Char) : c.toUpper.toUpper = c.toUpper := by
    by_cases ascii : c.toNat < 128
    · exact Text.of_ascii (motive := fun c => c.toUpper.toUpper = c.toUpper) (by decide) ascii
    · rw [Text.toUpper_of_beyond ascii, Text.toUpper_of_beyond ascii]
  induction cs with
  | nil => exact .refl _
  | cons c cs ih =>
    -- Once the rest is led there, the first character is left out or put in upper case.
    refine .trans _ _ _ (eqvGen_cons c ih) ?_
    cases separator : isSeparator c with
    | true =>
      rw [List.filter_cons_of_neg (by simp [separator])]
      exact .symm _ _ (.rel _ _ (.separated [] _ separator))
    | false =>
      rw [List.filter_cons_of_pos (by simp [separator]), List.map_cons]
      exact .rel _ _ (.recased [] _ (twice c).symm)

/-- ASCII fingerprints with one normal form are spelled alike. -/
theorem spelledAlike_of_normalize_eq {first second : String} (ascii : Utf8.Ascii first.toList)
    (ascii' : Utf8.Ascii second.toList) (same : normalize first = normalize second) :
    SpelledAlike first second := by
  have letters {cs : List Char} (ascii : Utf8.Ascii cs) :
      normalList cs = (cs.filter (!isSeparator ·)).map Char.toUpper := by
    rw [normalList, List.map_eq_flatMap, List.flatMap_def, List.flatMap_def, List.map_congr_left]
    intro c member
    exact if_pos (ascii c (List.mem_filter.mp member).1)
  -- The common normal form is what both of them are led to.
  have forms := congrArg String.toList same
  rw [toList_normalize, toList_normalize, letters ascii, letters ascii'] at forms
  have second := eqvGen_letters second.toList
  rw [← forms] at second
  exact .trans _ _ _ (eqvGen_letters first.toList) (.symm _ _ second)

end Fingerprint

namespace Resolution

variable {session : Session} {fingerprint other : String}

/-- A search is for the normal form alone. -/
theorem fingerprintSearch_congr
    (same : Fingerprint.normalize fingerprint = Fingerprint.normalize other) :
    fingerprintSearch fingerprint = fingerprintSearch other := by
  rw [fingerprintSearch, fingerprintSearch, same]

/-- The call that a resolution makes is the search by the fingerprint as it is given. -/
theorem thumbprintSearch_eq (session : Session) (fingerprint : String) :
    Call.thumbprintSearch session fingerprint = .search session (fingerprintSearch fingerprint) := by
  rw [Call.thumbprintSearch, fingerprintSearch_congr (Fingerprint.normalize_normalize fingerprint)]

/--
The spelling of a fingerprint makes no difference.

A normal form is its own, and ASCII fingerprints have the same one just if they are spelled alike.
With the same normal form, searches and resolutions make the same single call and come to the same.
-/
theorem resolveFingerprint_ignores_spelling (session : Session) (fingerprint : String)
    (dialogue : Dialogue) :
    Fingerprint.normalize (Fingerprint.normalize fingerprint) =
        Fingerprint.normalize fingerprint ∧
      (∀ other, Fingerprint.SpelledAlike fingerprint other →
        Fingerprint.normalize fingerprint = Fingerprint.normalize other) ∧
      (∀ other, Utf8.Ascii fingerprint.toList → Utf8.Ascii other.toList →
        Fingerprint.normalize fingerprint = Fingerprint.normalize other →
          Fingerprint.SpelledAlike fingerprint other) ∧
      ∀ other, Fingerprint.normalize fingerprint = Fingerprint.normalize other →
        let call := Call.search session (fingerprintSearch fingerprint)
        let searched := (searchByFingerprint session fingerprint).hold dialogue
        let resolved := (resolveFingerprint session fingerprint).hold dialogue
        searched.2.sent = dialogue.sent ++ [call] ∧ resolved.2.sent = dialogue.sent ++ [call] ∧
          (searchByFingerprint session other).hold dialogue = searched ∧
          (resolveFingerprint session other).hold dialogue = resolved := by
  refine ⟨Fingerprint.normalize_normalize fingerprint,
    fun other => Fingerprint.normalize_of_spelledAlike,
    fun other => Fingerprint.spelledAlike_of_normalize_eq, fun other same => ?_⟩
  intro call searched resolved
  refine ⟨?_, ?_, ?_, ?_⟩
  · have held : searched = _ := Client.hold_search session dialogue (shallow_fingerprintSearch fingerprint)
    rw [held, Dialogue.called_sent]
  · obtain ⟨log, held⟩ := hold_resolveFingerprint_called session fingerprint dialogue
    have through : resolved = _ := held
    rw [through, Dialogue.called_sent, thumbprintSearch_eq]
  -- Nothing but the normal form goes into the search, and into what is told of its results.
  · simp only [searched]
    rw [searchByFingerprint, ← fingerprintSearch_congr same, searchByFingerprint]
  · simp only [resolved]
    rw [resolveFingerprint, ← same, resolveFingerprint]

/-- An ambiguity is told alike for two spellings, as the search for both is one. -/
theorem resolveFingerprint_ignores_spelling_separated :
    let session : Session := ⟨"key", {}⟩
    let dialogue : Dialogue := { arrivals := [⟨.zero, twoRequestsReply⟩] }
    Fingerprint.SpelledAlike "ab:cd" ".ABcd:" ∧
      (resolveFingerprint session ".ABcd:").hold dialogue =
        (resolveFingerprint session "ab:cd").hold dialogue := by
  intro session dialogue
  obtain ⟨_, normal, spelled, made⟩ :=
    resolveFingerprint_ignores_spelling session "ab:cd" dialogue
  have alike := spelled ".ABcd:" (by decide) (by decide) (by decide +kernel)
  exact ⟨alike, (made _ (normal _ alike)).2.2.2⟩

end Resolution

end Issuance
