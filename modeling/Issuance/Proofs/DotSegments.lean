import Issuance.Proofs.Endpoint

/-! Segments for which a path leads elsewhere, and the identifiers that are written as such segments. -/

namespace Issuance

namespace Endpoint

/-- A segment that is no place of its own: this place once more, or the one above it. -/
def IsDot (segment : String) : Prop := segment = "." ∨ segment = ".."

instance (segment : String) : Decidable (IsDot segment) :=
  inferInstanceAs (Decidable (segment = "." ∨ segment = ".."))

/-- What is left of the segments kept, the last of them first, where a dot is followed. -/
def followed (segment : String) (kept : List String) : List String :=
  -- Above the first segment there is nothing, so that nothing more is taken back there.
  if segment = "." then kept else kept.tail

/--
The segments of a path once its dots are followed, behind some that are kept already.

A dot at the end leaves the slash before it, as an empty segment.
-/
def removeDots (kept : List String) : List String → List String
  | [] => kept.reverse
  | segment :: rest =>
    if ¬ IsDot segment then removeDots (segment :: kept) rest
    else if rest = [] then ("" :: followed segment kept).reverse
    else removeDots (followed segment kept) rest

/-- The path that a client asks for once the dots in a path are followed. -/
def resolved (path : String) : String := "/".intercalate (removeDots [] (segments path))

/-- What is between slashes has none. -/
theorem not_mem_slash_of_mem_splitOn {cs piece : List Char} (member : piece ∈ cs.splitOn '/') :
    '/' ∉ piece := by
  induction cs generalizing piece with
  | nil =>
    rw [List.splitOn_nil] at member
    simp [List.mem_singleton.mp member]
  | cons c cs ih =>
    rw [List.splitOn_cons_eq_if_modifyHead] at member
    split at member
    · -- A slash starts a new piece.
      rcases List.mem_cons.mp member with rfl | behind
      · exact List.not_mem_nil
      · exact ih behind
    · next other =>
      -- Any other character goes to the front of the first piece.
      cases pieces : cs.splitOn '/' with
      | nil => exact absurd pieces (List.splitOn_ne_nil _ _)
      | cons first others =>
        rw [pieces, List.modifyHead_cons] at member
        rcases List.mem_cons.mp member with rfl | behind
        · have bare : '/' ∉ first := ih (pieces ▸ List.mem_cons_self)
          simp only [List.mem_cons, not_or]
          exact ⟨fun same => other (beq_iff_eq.mpr same.symm), bare⟩
        · exact ih (pieces ▸ List.mem_cons_of_mem first behind)

theorem not_mem_slash_of_mem_segments {path segment : String} (member : segment ∈ segments path) :
    '/' ∉ segment.toList := by
  obtain ⟨piece, there, rfl⟩ := List.mem_map.mp member
  rw [String.toList_ofList]
  exact not_mem_slash_of_mem_splitOn there

theorem segments_ne_nil (path : String) : segments path ≠ [] :=
  fun none => List.splitOn_ne_nil '/' path.toList (List.map_eq_nil_iff.mp none)

/-- A path is its segments with slashes between them. -/
theorem intercalate_segments (path : String) : "/".intercalate (segments path) = path := by
  -- Joining undoes splitting, whatever the path.
  have kept : String.toList ∘ String.ofList = id := funext fun _ => String.toList_ofList
  rw [← String.toList_inj, String.toList_intercalate, segments, List.map_map, kept, List.map_id]
  exact List.intercalate_splitOn '/'

/-- Segments without dots are kept as they are. -/
theorem removeDots_of_forall_not {kept rest : List String}
    (plain : ∀ segment ∈ rest, ¬ IsDot segment) : removeDots kept rest = kept.reverse ++ rest := by
  -- The induction is on the segments to come, the first of which joins those that are kept.
  induction rest generalizing kept with
  | nil => rw [removeDots, List.append_nil]
  | cons segment rest ih =>
    have others : ∀ other ∈ rest, ¬ IsDot other :=
      fun other member => plain other (List.mem_cons_of_mem segment member)
    rw [removeDots, if_pos (plain segment List.mem_cons_self), ih others, List.reverse_cons,
      List.append_assoc, List.singleton_append]

theorem mem_of_mem_followed {segment left : String} {kept : List String}
    (member : left ∈ followed segment kept) : left ∈ kept := by
  unfold followed at member
  split at member
  · exact member
  · exact List.mem_of_mem_tail member

/-- Whatever is left has been kept before, or it is empty, or a segment that is no dot. -/
theorem mem_removeDots {kept rest : List String} {left : String}
    (member : left ∈ removeDots kept rest) :
    left ∈ kept ∨ left = "" ∨ left ∈ rest ∧ ¬ IsDot left := by
  -- What is kept so far grows and shrinks on the way, so that the induction is for any of it.
  induction rest generalizing kept with
  | nil => exact .inl (List.mem_reverse.mp member)
  | cons segment rest ih =>
    rw [removeDots] at member
    split at member
    · next plain =>
      -- The segment is kept from here on, as one that is no dot.
      rcases ih member with there | empty | ⟨there, plainToo⟩
      · rcases List.mem_cons.mp there with rfl | there
        · exact .inr (.inr ⟨List.mem_cons_self, plain⟩)
        · exact .inl there
      · exact .inr (.inl empty)
      · exact .inr (.inr ⟨List.mem_cons_of_mem segment there, plainToo⟩)
    -- A dot keeps nothing new, unless it stands at the end and leaves a slash.
    · split at member
      · rcases List.mem_cons.mp (List.mem_reverse.mp member) with empty | there
        · exact .inr (.inl empty)
        · exact .inl (mem_of_mem_followed there)
      · rcases ih member with there | empty | ⟨there, plain⟩
        · exact .inl (mem_of_mem_followed there)
        · exact .inr (.inl empty)
        · exact .inr (.inr ⟨List.mem_cons_of_mem segment there, plain⟩)

/-- Something is always left, if only what stands behind the last slash. -/
theorem removeDots_ne_nil {kept rest : List String} (some : kept ≠ [] ∨ rest ≠ []) :
    removeDots kept rest ≠ [] := by
  -- A dot at the end leaves an empty segment, and every other dot has more behind it.
  induction rest generalizing kept with
  | nil => simpa [removeDots] using some
  | cons segment rest ih =>
    rw [removeDots]
    split
    · exact ih (.inl (List.cons_ne_nil _ _))
    · split
      · simp
      · next more => exact ih (.inr more)

/-- The segments of a resolved path are those that are left. -/
theorem segments_resolved (path : String) :
    segments (resolved path) = removeDots [] (segments path) := by
  -- Nothing that is left has a slash, so that it can be split off again.
  refine segments_of_intercalate String.toList_intercalate ?_
    (removeDots_ne_nil (.inr (segments_ne_nil path)))
  intro segment member
  rcases mem_removeDots member with none | rfl | ⟨there, _⟩
  · cases none
  · decide
  · exact not_mem_slash_of_mem_segments there

/-- A path is asked for as it is exactly if none of its segments is a dot. -/
theorem resolved_eq_self_iff {path : String} :
    resolved path = path ↔ ∀ segment ∈ segments path, ¬ IsDot segment := by
  constructor
  · intro same segment member
    rw [← same, segments_resolved] at member
    -- No dot is left of a path that is resolved.
    rcases mem_removeDots member with none | rfl | ⟨_, plain⟩
    · cases none
    · decide
    · exact plain
  · -- Without a dot all segments are kept, and joined again as they were.
    intro plain
    rw [resolved, removeDots_of_forall_not plain, List.reverse_nil, List.nil_append,
      intercalate_segments]

example : resolved "a/b/../c/." = "a/c/" := by decide

end Endpoint

/-- An identifier is written as a dot only if it is one. -/
theorem PathSegment.isDot_encode {text : String} :
    Endpoint.IsDot (encode text) ↔ Endpoint.IsDot text := by
  -- Dots are unreserved, so that each of the two is written as itself.
  have single : encode "." = "." := by decide
  have double : encode ".." = ".." := by decide
  unfold Endpoint.IsDot
  constructor
  · rintro (same | same)
    · exact .inl (encode_inj.mp (same.trans single.symm))
    · exact .inr (encode_inj.mp (same.trans double.symm))
  · rintro (rfl | rfl)
    · exact .inl single
    · exact .inr double

namespace Lookup

/-- The identifiers in the path of a lookup. -/
def identifiers : Lookup → List String
  | status identifier | certificate identifier | contents identifier | application identifier =>
    [identifier]
  | issuingTemplate name templateAlias => [name, templateAlias]

/-- The path of a lookup is asked for as it is exactly if none of its identifiers is a dot. -/
theorem resolved_path_iff (lookup : Lookup) : Endpoint.resolved lookup.path = lookup.path ↔
    ∀ identifier ∈ lookup.identifiers, ¬ Endpoint.IsDot identifier := by
  rw [Endpoint.resolved_eq_self_iff, segments_path]
  -- The words of the templates are no dots, so that it is up to the identifiers.
  cases lookup <;> simp [template, identifiers, Segment.written, PathSegment.isDot_encode] <;>
    simp [Endpoint.IsDot]

example : Endpoint.resolved (contents ".").path = (certificate "contents").path := by decide

end Lookup

end Issuance
