import Issuance.Proofs.Yaml.Entries

/-! A mapping that is written is read back as the data it was written from. -/

namespace Issuance.Yaml

namespace Assembling

variable {key text : String} {plain inBlock mayHang : Bool} {tokens : List Token}
  {handles : List (String × String)} {anchors : List (String × Anchored)}

/-- A scalar is a node. -/
theorem node_scalar (fuel : Nat) :
    (node inBlock mayHang (fuel + 1)).run ⟨.scalar text plain :: tokens, handles, anchors⟩ =
      .ok (.scalar (scalarTag none plain text) text, ⟨tokens, handles, anchors⟩) := by
  rw [node]
  rfl

theorem nodeUnless_scalar {ends : List Token} (other : ends.contains (.scalar text plain) = false)
    (fuel : Nat) : (nodeUnless ends inBlock mayHang (fuel + 2)).run
        ⟨.scalar text plain :: tokens, handles, anchors⟩ =
      .ok (.scalar (scalarTag none plain text) text, ⟨tokens, handles, anchors⟩) := by
  rw [← node_scalar fuel, nodeUnless]
  change (if Option.any ends.contains (some (.scalar text plain)) = true then _ else _ :
    Assembling Node).run _ = _
  rw [Option.any_some, other, if_neg Bool.false_ne_true]

theorem valueUnless_scalar {ends : List Token} (other : ends.contains (.scalar text plain) = false)
    (fuel : Nat) : (valueUnless ends inBlock mayHang (fuel + 3)).run
        ⟨.value :: .scalar text plain :: tokens, handles, anchors⟩ =
      .ok (.scalar (scalarTag none plain text) text, ⟨tokens, handles, anchors⟩) := by
  rw [valueUnless]
  exact nodeUnless_scalar other fuel

/-- The nodes of an entry that has been scanned. -/
def scannedNodes (found : Scanned) : Node × Node :=
  (.scalar (scalarTag none true found.key) found.key,
    .scalar (scalarTag none found.plain found.text) found.text)

/-- The entries of a block are put together up to its end. -/
theorem blockEntries_told (told : List Scanned) {fuel : Nat} (enough : told.length ≤ fuel) :
    (blockEntries (fuel + 3)).run
        ⟨told.flatMap Scanned.tokens ++ .blockEnd :: tokens, handles, anchors⟩ =
      .ok (told.map scannedNodes, ⟨tokens, handles, anchors⟩) := by
  induction told generalizing fuel with
  | nil =>
    rw [blockEntries]
    rfl
  | cons found told ih =>
    obtain ⟨name, text, plain⟩ := found
    obtain ⟨fuel, rfl⟩ := Nat.exists_eq_add_of_le' (Nat.le_trans (Nat.succ_pos _) enough)
    -- No scalar is one of the tokens before which a key or a value would be left out.
    have others : ∀ {text : String} {plain : Bool},
        [Token.key, .value, .blockEnd].contains (.scalar text plain) = false := rfl
    have key := @nodeUnless_scalar name true true true (.value :: .scalar text plain ::
      (told.flatMap Scanned.tokens ++ .blockEnd :: tokens)) handles anchors _ others (fuel + 1)
    have value := @valueUnless_scalar text plain true true
      (told.flatMap Scanned.tokens ++ .blockEnd :: tokens) handles anchors _ others fuel
    have more := @ih fuel (Nat.le_of_succ_le_succ enough)
    have taken : (take? .key).run ⟨.key :: .scalar name true :: .value :: .scalar text plain ::
        (told.flatMap Scanned.tokens ++ .blockEnd :: tokens), handles, anchors⟩ =
      .ok (true, ⟨.scalar name true :: .value :: .scalar text plain ::
        (told.flatMap Scanned.tokens ++ .blockEnd :: tokens), handles, anchors⟩) := rfl
    rw [blockEntries]
    change StateT.run (take? .key >>= _) ⟨.key :: .scalar name true :: .value ::
      .scalar text plain :: (told.flatMap Scanned.tokens ++ .blockEnd :: tokens), handles,
        anchors⟩ = _
    -- An entry is taken in three parts, and the entries behind it are those of the induction.
    rw [StateT.run_bind, taken, ok_bind, if_pos rfl, StateT.run_bind, key, ok_bind, StateT.run_bind,
      value, ok_bind, StateT.run_bind, more, ok_bind]
    rfl

/-- A block of entries is a mapping. -/
theorem node_block {entries : List (Node × Node)} {left : Assembly} {fuel : Nat}
    (read : (blockEntries fuel).run ⟨tokens, handles, anchors⟩ = .ok (entries, left)) :
    (node true mayHang (fuel + 1)).run ⟨.blockMappingStart :: tokens, handles, anchors⟩ =
      .ok (.mapping .mapping entries, left) := by
  rw [node]
  change StateT.run (binding none false do
    return Node.mapping (collectionTag none .mapping) (← blockEntries fuel))
      ⟨tokens, handles, anchors⟩ = _
  simp only [binding, bind, pure_bind, bind_pure, StateT.run_bind, read, ok_bind]
  rfl

end Assembling

open Assembling (scalarTag scannedNodes)

/-- The tokens of a block of entries are the one document of a text, a mapping. -/
theorem Node.ofTokens?_told (told : List Scanned) :
    Node.ofTokens? (.blockMappingStart :: (told.flatMap Scanned.tokens ++ [.blockEnd])) =
      .ok (some (.mapping .mapping (told.map scannedNodes))) := by
  have enough : told.length ≤ 3 * (told.flatMap Scanned.tokens ++ [Token.blockEnd]).length + 2 := by
    have : told.length ≤ (told.flatMap Scanned.tokens).length := by
      induction told with
      | nil => exact Nat.le_refl 0
      | cons found told ih =>
        simp only [List.flatMap_cons, List.length_append, List.length_cons, Scanned.tokens]
        omega
    rw [List.length_append]
    omega
  have entries := @Assembling.blockEntries_told [] Assembling.usualHandles [] told _ enough
  have whole := @Assembling.node_block false _ _ _ _ _ _ entries
  -- Nothing in the text opens the document, and nothing comes behind it.
  have bare : Assembling.opensDocument .blockMappingStart = false := rfl
  have document : ∀ fuel, Assembling.document false fuel = Assembling.node true false fuel :=
    fun _ => rfl
  have fuel : 3 * ((told.flatMap Scanned.tokens ++ [Token.blockEnd]).length + 1) + 3 =
      3 * (told.flatMap Scanned.tokens ++ [Token.blockEnd]).length + 2 + 3 + 1 := by omega
  rw [Node.ofTokens?]
  simp only [bare, document, Bool.false_eq_true, if_false, pure_bind, List.length_cons]
  rw [fuel, whole, ok_bind]
  rfl

/-- The data of entries whose keys are texts to YAML. -/
theorem Node.entryData_told {entries : List (String × Leaf)} {told : List Scanned}
    (found : Told entries told) (keys : ∀ entry ∈ entries, Tag.ofPlain entry.1 = .text) :
    Node.entryData (told.map scannedNodes) =
      .ok ([], entries.map fun entry => (.text entry.1, entry.2.datum)) := by
  induction found with
  | nil => rfl
  | @cons entry found entries told same _ ih =>
    obtain ⟨key, datum⟩ := same
    have tag : scalarTag none true found.key = .text := by
      rw [key]
      exact keys entry (by simp)
    have more := ih fun entry member => keys entry (List.mem_cons_of_mem _ member)
    have first : Node.datum (.scalar .text found.key) = .ok (.text entry.1) := by rw [key]; rfl
    have second : Node.datum (.scalar (scalarTag none found.plain found.text) found.text) =
        .ok entry.2.datum := datum
    rw [List.map_cons, scannedNodes, tag, Node.entryData]
    · simp only [first, second, more, ok_bind]
      rfl
    · rintro text ⟨⟩
    · rintro text ⟨⟩

/-- A key that is not there yet is put at the end, with its value. -/
theorem Datum.put_append {entries : List (Datum × Datum)} {key value : Datum}
    (other : ∀ entry ∈ entries, sameKey entry.1 key = false) :
    put key value entries = entries ++ [(key, value)] := by
  induction entries with
  | nil => rfl
  | cons entry entries ih =>
    rw [put, other entry (by simp), if_neg Bool.false_ne_true,
      ih fun entry member => other entry (List.mem_cons_of_mem _ member)]
    rfl

theorem Datum.sameKey_text (s t : String) : sameKey (.text s) (.text t) = (s == t) := rfl

/-- Texts as keys, each with its value. -/
def textEntries (entries : List (String × Datum)) : List (Datum × Datum) :=
  entries.map fun entry => (.text entry.1, entry.2)

theorem textEntries_cons (entry : String × Datum) (rest : List (String × Datum)) :
    textEntries (entry :: rest) = (.text entry.1, entry.2) :: textEntries rest := rfl

theorem textEntries_concat (done : List (String × Datum)) (entry : String × Datum) :
    textEntries (done ++ [entry]) = textEntries done ++ [(.text entry.1, entry.2)] := List.map_append

/-- Entries with a key of its own each are a mapping as they stand. -/
theorem Node.mappingOf_distinct {entries : List (String × Datum)}
    (distinct : (entries.map (·.1)).Nodup) :
    Node.mappingOf (textEntries entries) = .ok (textEntries entries) := by
  -- What is done already has none of the keys that are still to come.
  have rest : ∀ {rest done : List (String × Datum)}, ((done ++ rest).map (·.1)).Nodup →
      (textEntries rest).foldlM (fun found (entry : Datum × Datum) =>
        if entry.1.isKey then .ok (Datum.put entry.1 entry.2 found) else .error .malformed)
          (textEntries done) = (.ok (textEntries (done ++ rest)) : Outcome _) := by
    intro rest
    induction rest with
    | nil =>
      intro done _
      rw [List.append_nil]
      rfl
    | cons entry rest ih =>
      intro done distinct
      have other : ∀ found ∈ textEntries done, Datum.sameKey found.1 (.text entry.1) = false := by
        intro found member
        obtain ⟨earlier, place, rfl⟩ := List.mem_map.mp member
        rw [Datum.sameKey_text, beq_eq_false_iff_ne]
        intro same
        rw [List.map_append, List.nodup_append] at distinct
        exact distinct.2.2 _ (List.mem_map_of_mem place) _ (by simp) same
      have next := @ih (done ++ [entry]) (by rwa [List.append_assoc])
      have key : (Datum.text entry.1).isKey = true := rfl
      rw [List.append_assoc] at next
      rw [textEntries_cons, List.foldlM_cons, if_pos key, Datum.put_append other, ok_bind,
        ← textEntries_concat]
      exact next
  exact @rest entries [] distinct

/-- A mapping that is written is read back. -/
theorem read_render {entries : List (String × Leaf)} (writable : Writable entries)
    (some : entries ≠ []) (distinct : (entries.map (·.1)).Nodup) :
    read (render entries).toList =
      .ok (.some (.mapping (textEntries (entries.map fun entry => (entry.1, entry.2.datum))))) := by
  -- The text is scanned into tokens, these are put together into a node, and that has the data.
  obtain ⟨told, found, scanned⟩ := Scanner.tokens_entries writable some
  have text : (render entries).toList = entries.flatMap entryText := String.toList_ofList
  have own : (entries.map fun entry => (Datum.text entry.1, entry.2.datum)) =
      textEntries (entries.map fun entry => (entry.1, entry.2.datum)) := by
    rw [textEntries, List.map_map]
    rfl
  have data := Node.entryData_told found fun entry member => (writable.keys entry member).tag
  have whole := @Node.mappingOf_distinct (entries.map fun entry => (entry.1, entry.2.datum))
    (by rwa [List.map_map])
  rw [own] at data
  rw [text, read, scanned, ok_bind, Node.ofTokens?_told, ok_bind]
  change Except.map _ (Node.datum _) = _
  rw [Node.datum]
  simp only [data, ok_bind, List.nil_append, whole]
  rfl

end Issuance.Yaml
