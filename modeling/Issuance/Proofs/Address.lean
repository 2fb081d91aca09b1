import Mathlib.Data.List.Basic
import Issuance.Proofs.Case
import Issuance.Service.Address

/-! Base addresses have a normal form: all spellings of one host have the same, and it is its own. -/

namespace Issuance

namespace Address

theorem after?_append (front cs : List Char) : after? front (front ++ cs) = some cs := by
  induction front with
  | nil => cases cs <;> rfl
  | cons p ps ih => rw [List.cons_append, after?, if_pos rfl, ih]

theorem withoutScheme_append (cs : List Char) :
    withoutScheme ("https://".toList ++ cs) = cs := by
  have other : after? "http://".toList ("https://".toList ++ cs) = none := rfl
  rw [withoutScheme, other, after?_append]
  rfl

theorem after?_eq_some {front cs rest : List Char} (found : after? front cs = some rest) :
    cs = front ++ rest := by
  induction front generalizing cs with
  | nil => cases cs <;> cases found <;> rfl
  | cons p ps ih =>
    cases cs with
    | nil => cases found
    | cons c cs =>
      rw [after?] at found
      split at found
      · next same => rw [same, ih found, List.cons_append]
      · cases found

/-- Without its scheme a text has no characters but its own. -/
theorem mem_withoutScheme {c : Char} {cs : List Char} (member : c ∈ withoutScheme cs) : c ∈ cs := by
  unfold withoutScheme at member
  cases found : (after? "http://".toList cs).or (after? "https://".toList cs) with
  | none =>
    rw [found] at member
    exact member
  | some rest =>
    rw [found] at member
    rcases Option.or_eq_some_iff.mp found with first | ⟨-, second⟩
    · rw [after?_eq_some first]
      exact List.mem_append_right _ member
    · rw [after?_eq_some second]
      exact List.mem_append_right _ member

/-- An address in normal form is a scheme, a text in lower case, and a slash. -/
theorem normalize_eq (url : String) : ∃ host : List Char,
    (normalize url).toList = withSlash ("https://".toList ++ host) ∧
      ∀ c ∈ host, Text.CaseMapping.lower.fixes c = true := by
  refine ⟨_, by rw [normalize, String.toList_ofList], fun c member => ?_⟩
  have place := mem_withoutScheme member
  rw [Text.lower, String.toList_ofList] at place
  exact Text.fixes_lowerAfter c place

/-- With its slash, an address in normal form is a scheme and a text in lower case. -/
theorem normalize_eq_append (url : String) : ∃ rest : List Char,
    (normalize url).toList = "https://".toList ++ rest ∧
      ∀ c ∈ rest, Text.CaseMapping.lower.fixes c = true := by
  obtain ⟨host, shape, settled⟩ := normalize_eq url
  rw [shape, withSlash]
  split
  · exact ⟨host, rfl, settled⟩
  · exact ⟨host ++ ['/'], List.append_assoc _ _ _,
      List.forall_mem_append.mpr ⟨settled, List.forall_mem_singleton.mpr (by decide)⟩⟩

/-- An address in normal form ends in a slash. -/
theorem getLast?_normalize (url : String) : (normalize url).toList.getLast? = some '/' := by
  obtain ⟨host, shape, _⟩ := normalize_eq url
  rw [shape, withSlash]
  split
  · assumption
  · exact List.getLast?_concat

/-- An address in normal form is in lower case. -/
theorem lower_normalize (url : String) : Text.lower (normalize url) = normalize url := by
  obtain ⟨rest, split, settled⟩ := normalize_eq_append url
  have scheme : ∀ c ∈ "https://".toList, Text.CaseMapping.lower.fixes c = true :=
    List.all_eq_true.mp (by decide)
  rw [Text.lower, Text.lowerAfter_of_fixes, String.ofList_toList]
  rw [split]
  exact List.forall_mem_append.mpr ⟨scheme, settled⟩

/-- An address in normal form stays as it is. -/
theorem normalize_normalize (url : String) : normalize (normalize url) = normalize url := by
  obtain ⟨rest, split, _⟩ := normalize_eq_append url
  have ends := getLast?_normalize url
  have filled : (normalize url).isEmpty = false := by
    rw [Bool.eq_false_iff]
    intro empty
    rw [String.isEmpty_iff.mp empty] at ends
    cases ends
  -- All three steps leave it: it is in lower case, has the scheme once, and ends in a slash.
  rw [normalize, if_neg (by simp [filled]), lower_normalize, split, withoutScheme_append, ← split,
    withSlash, if_pos ends, String.ofList_toList]

/-- The schemes that a host may be given with, in lower case. -/
def schemes : List (List Char) := ["http://".toList, "https://".toList]

/-- A host by itself: ASCII text with no scheme in front, in whatever case. -/
structure Bare (host : String) : Prop where
  filled : host ≠ ""
  ascii : Utf8.Ascii host.toList
  schemeless : ∀ scheme ∈ schemes, ¬ scheme <+: host.toList.map Char.toLower

/--
The spellings of a host.

They have its letters in any case, perhaps behind a scheme, and perhaps with a slash that it lacks.
-/
def Spells (text host : String) : Prop :=
  ∃ scheme ∈ [] :: schemes, ∃ slash,
    text.toList.map Char.toLower = scheme ++ (host.toList.map Char.toLower ++ slash) ∧
      (slash = [] ∨ slash = ['/'] ∧ host.toList.getLast? ≠ some '/')

/-- A host is one of its spellings. -/
theorem Spells.refl (host : String) : Spells host host :=
  ⟨[], List.mem_cons_self, [], by simp, .inl rfl⟩

/-- Lower case leaves the slash alone, and gives it for nothing else. -/
theorem toLower_eq_slash {c : Char} : c.toLower = '/' ↔ c = '/' := by
  constructor
  · intro same
    have ascii : c.toNat < 128 := Text.toNat_toLower_lt.mp (by rw [same]; decide)
    exact Text.of_ascii (motive := fun c => c.toLower = '/' → c = '/') (by decide) ascii same
  · rintro rfl
    decide

theorem getLast?_map_toLower {cs : List Char} :
    (cs.map Char.toLower).getLast? = some '/' ↔ cs.getLast? = some '/' := by
  rw [List.getLast?_map, Option.map_eq_some_iff]
  simp [toLower_eq_slash]

/-- A prefix is taken off exactly where it stands. -/
theorem after?_eq_none {front cs : List Char} (other : ¬ front <+: cs) : after? front cs = none := by
  cases found : after? front cs with
  | none => rfl
  | some rest => exact absurd ⟨rest, (after?_eq_some found).symm⟩ other

/-- One scheme is taken off, and what stands behind it is kept even if it looks like another. -/
theorem withoutScheme_of_mem {scheme cs : List Char} (member : scheme ∈ schemes) :
    withoutScheme (scheme ++ cs) = cs := by
  rcases List.mem_cons.mp member with rfl | member
  · rw [withoutScheme, after?_append]
    rfl
  · rw [List.mem_singleton.mp member]
    exact withoutScheme_append cs

theorem withoutScheme_of_schemeless {cs : List Char}
    (schemeless : ∀ scheme ∈ schemes, ¬ scheme <+: cs) : withoutScheme cs = cs := by
  rw [withoutScheme, after?_eq_none (schemeless _ List.mem_cons_self),
    after?_eq_none (schemeless _ (List.mem_cons_of_mem _ List.mem_cons_self))]
  rfl

/-- A slash at the end of a host makes no scheme of it, unless the host ended in one before. -/
theorem schemeless_append_slash {host : List Char}
    (schemeless : ∀ scheme ∈ schemes, ¬ scheme <+: host)
    (lacks : host.getLast? ≠ some '/') : ∀ scheme ∈ schemes, ¬ scheme <+: host ++ ['/'] := by
  intro scheme member front
  rcases List.prefix_concat_iff.mp front with whole | inside
  · -- The slash would be the second one of the scheme, and the host would end in the first.
    have second : ∀ scheme ∈ schemes, scheme.dropLast.getLast? = some '/' := by decide
    apply lacks
    rw [← second scheme member, whole, List.dropLast_concat]
  · exact schemeless scheme member inside

theorem withSlash_append {front back : List Char} (filled : back ≠ []) :
    withSlash (front ++ back) = front ++ withSlash back := by
  unfold withSlash
  rw [List.getLast?_append_of_ne_nil _ filled]
  split
  · rfl
  · exact List.append_assoc _ _ _

/-- The slash that a spelling may add is the one that a host without it gets. -/
theorem withSlash_append_slash {host slash : List Char}
    (closed : slash = [] ∨ slash = ['/'] ∧ host.getLast? ≠ some '/') :
    withSlash (host ++ slash) = withSlash host := by
  rcases closed with rfl | ⟨rfl, lacks⟩
  · rw [List.append_nil]
  · rw [withSlash, if_pos List.getLast?_concat, withSlash, if_neg lacks]

/-- All spellings of a bare host are ASCII text. -/
theorem Spells.ascii {text host : String} (spells : Spells text host) (bare : Bare host) :
    Utf8.Ascii text.toList := by
  obtain ⟨scheme, member, slash, same, closed⟩ := spells
  have known : ∀ scheme ∈ [] :: schemes, Utf8.Ascii scheme := by decide
  intro c there
  have image : c.toLower ∈ scheme ++ (host.toList.map Char.toLower ++ slash) :=
    same ▸ List.mem_map_of_mem there
  rw [← Text.toNat_toLower_lt]
  rcases List.mem_append.mp image with inScheme | inRest
  · exact known scheme member _ inScheme
  · rcases List.mem_append.mp inRest with inHost | inSlash
    · obtain ⟨own, place, letter⟩ := List.mem_map.mp inHost
      rw [← letter, Text.toNat_toLower_lt]
      exact bare.ascii own place
    · rcases closed with rfl | ⟨rfl, _⟩
      · cases inSlash
      · rw [List.mem_singleton.mp inSlash]
        decide

/-- The normal form of a spelling is the scheme, the host in lower case, and a slash. -/
theorem normalize_of_spells {text host : String} (spells : Spells text host) (bare : Bare host) :
    (normalize text).toList = "https://".toList ++ withSlash (host.toList.map Char.toLower) := by
  have ascii := spells.ascii bare
  obtain ⟨scheme, member, slash, same, closed⟩ := spells
  have filled : host.toList.map Char.toLower ≠ [] := by
    simpa using bare.filled
  have given : text.isEmpty = false := by
    rw [String.isEmpty_eq_false_iff]
    rintro rfl
    simp [bare.filled] at same
  have lowered : (Text.lower text).toList =
      scheme ++ (host.toList.map Char.toLower ++ slash) := by
    rw [Text.lower, String.toList_ofList, Text.lowerAfter_of_ascii ascii, same]
  have lacking : slash = [] ∨
      slash = ['/'] ∧ (host.toList.map Char.toLower).getLast? ≠ some '/' :=
    closed.imp_right fun ⟨added, lacks⟩ => ⟨added, mt getLast?_map_toLower.mp lacks⟩
  -- A scheme is taken off if there is one, and the host does not look like one.
  have stripped : withoutScheme (scheme ++ (host.toList.map Char.toLower ++ slash)) =
      host.toList.map Char.toLower ++ slash := by
    rcases List.mem_cons.mp member with rfl | known
    · apply withoutScheme_of_schemeless
      rcases lacking with rfl | ⟨rfl, lacks⟩
      · rw [List.append_nil]
        exact bare.schemeless
      · exact schemeless_append_slash bare.schemeless lacks
    · exact withoutScheme_of_mem known
  have rest : host.toList.map Char.toLower ++ slash ≠ [] := List.append_ne_nil_of_left_ne_nil filled _
  rw [normalize, if_neg (by simp [given]), String.toList_ofList, lowered, stripped,
    withSlash_append rest, withSlash_append_slash lacking]

/--
The normal form of an address is canonical.

It has the secure scheme in front and a slash at its end, is in lower case, and is its own.
All spellings of a bare host have the one that consists of the host in lower case between the two.
-/
theorem normalize_canonical (url : String) :
    "https://".toList <+: (normalize url).toList ∧ (normalize url).toList.getLast? = some '/' ∧
      Text.lower (normalize url) = normalize url ∧ normalize (normalize url) = normalize url ∧
      ∀ host, Bare host → ∀ text, Spells text host → normalize text = normalize host ∧
        (normalize text).toList =
          "https://".toList ++ withSlash (host.toList.map Char.toLower) := by
  obtain ⟨rest, split, _⟩ := normalize_eq_append url
  refine ⟨⟨rest, split.symm⟩, getLast?_normalize url, lower_normalize url, normalize_normalize url,
    fun host bare text spells => ?_⟩
  have own := normalize_of_spells (Spells.refl host) bare
  have other := normalize_of_spells spells bare
  exact ⟨String.toList_inj.mp (other.trans own.symm), other⟩

/-- A host that begins like a scheme is a host all the same, behind a scheme of its own. -/
theorem normalize_canonical_doubled : Bare "Http:/Example" ∧
    Spells "HTTPS://http:/example/" "Http:/Example" ∧
    normalize "HTTPS://http:/example/" = normalize "Http:/Example" := by
  have bare : Bare "Http:/Example" := ⟨by decide, by decide, by decide⟩
  have spells : Spells "HTTPS://http:/example/" "Http:/Example" :=
    ⟨"https://".toList, by decide, ['/'], by decide, .inr ⟨rfl, by decide⟩⟩
  exact ⟨bare, spells, ((normalize_canonical "").2.2.2.2 _ bare _ spells).1⟩

end Address

end Issuance
