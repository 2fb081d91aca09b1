import Issuance.Yaml.Reader

/-! What reading a YAML text fails for: a text that is no YAML is told from a scalar that is not what
its tag says. -/

namespace Issuance.Yaml

/-- Two steps fail for what the first one fails for, or for what the second one does behind it. -/
theorem bind_eq_error {α β : Type} {outcome : Outcome α} {next : α → Outcome β} {error : Error} :
    outcome >>= next = .error error ↔
      outcome = .error error ∨ ∃ value, outcome = .ok value ∧ next value = .error error := by
  cases outcome with
  | error earlier => simp [bind, Except.bind]
  | ok value => simp [bind, Except.bind]

/-- What an outcome fails for, if it fails, is of a kind. -/
structure Outcome.FailsOnly {α : Type} (outcome : Outcome α) (kind : Error → Prop) : Prop where
  of_failed : ∀ {error}, outcome = .error error → kind error

namespace Outcome.FailsOnly

variable {α β : Type} {kind other : Error → Prop}

theorem ok (value : α) : Outcome.FailsOnly (.ok value) kind := ⟨fun failed => nomatch failed⟩

theorem error {error : Error} (found : kind error) : Outcome.FailsOnly (.error error : Outcome α) kind := by
  constructor
  rintro _ ⟨⟩
  exact found

theorem mono {outcome : Outcome α} (fails : outcome.FailsOnly kind)
    (wider : ∀ error, kind error → other error) : outcome.FailsOnly other :=
  ⟨fun failed => wider _ (fails.of_failed failed)⟩

theorem bind {outcome : Outcome α} {next : α → Outcome β} (first : outcome.FailsOnly kind)
    (second : ∀ value, (next value).FailsOnly kind) : Outcome.FailsOnly (outcome >>= next) kind := by
  constructor
  intro error failed
  -- The error is the first step's own, or one that the second step meets with its value.
  obtain here | ⟨value, -, behind⟩ := bind_eq_error.mp failed
  · exact first.of_failed here
  · exact (second value).of_failed behind

theorem map {outcome : Outcome α} (f : α → β) (fails : outcome.FailsOnly kind) :
    Outcome.FailsOnly (f <$> outcome) kind :=
  fails.bind fun _ => .ok _

theorem ite {condition : Prop} [Decidable condition] {outcome alternative : Outcome α}
    (holds : outcome.FailsOnly kind) (fails : alternative.FailsOnly kind) :
    Outcome.FailsOnly (if condition then outcome else alternative) kind := by
  split
  · exact holds
  · exact fails

end Outcome.FailsOnly

namespace Assembling

/-- Wherever the assembly stands, a step fails for nothing but a text that is no YAML. -/
structure FailsMalformed {α : Type} (step : Assembling α) : Prop where
  run : ∀ assembly, Outcome.FailsOnly (step.run assembly) (· = .malformed)

namespace FailsMalformed

variable {α β : Type}

theorem pure (value : α) : (Pure.pure value : Assembling α).FailsMalformed := ⟨fun _ => .ok _⟩

theorem malformed : (Assembling.malformed : Assembling α).FailsMalformed := ⟨fun _ => .error rfl⟩

theorem get : (MonadState.get : Assembling Assembly).FailsMalformed := ⟨fun _ => .ok _⟩

theorem modify (f : Assembly → Assembly) : (modify f : Assembling Unit).FailsMalformed :=
  ⟨fun _ => .ok _⟩

theorem bind {step : Assembling α} {next : α → Assembling β} (first : step.FailsMalformed)
    (second : ∀ value, (next value).FailsMalformed) : (step >>= next).FailsMalformed :=
  ⟨fun assembly => (first.run assembly).bind fun later => (second later.1).run later.2⟩

theorem ite {condition : Prop} [Decidable condition] {step other : Assembling α}
    (holds : step.FailsMalformed) (fails : other.FailsMalformed) :
    (if condition then step else other).FailsMalformed := by
  split
  · exact holds
  · exact fails

/-- A step that is taken only on a condition, and what comes behind it in either case. -/
theorem guarded {condition : Prop} [Decidable condition] {step : Assembling Unit}
    {next : Unit → Assembling α} (first : step.FailsMalformed)
    (second : ∀ value, (next value).FailsMalformed) :
    (if condition then step >>= next else next ()).FailsMalformed :=
  ite (first.bind second) (second ())

end FailsMalformed

theorem failsMalformed_peek : peek.FailsMalformed := FailsMalformed.get.bind fun _ => .pure _

theorem failsMalformed_drop (count : Nat) : (drop count).FailsMalformed := .modify _

theorem failsMalformed_take? (token : Token) : (take? token).FailsMalformed :=
  failsMalformed_peek.bind fun _ =>
    .ite ((failsMalformed_drop 1).bind fun _ => .pure true) (.pure false)

theorem failsMalformed_expect (token : Token) : (expect token).FailsMalformed :=
  (failsMalformed_take? token).bind fun _ => .ite .malformed (.pure ())

theorem failsMalformed_tagName (handle : Option String) (ending : String) :
    (tagName handle ending).FailsMalformed := by
  cases handle with
  | none => exact .pure ending
  | some handle =>
    refine FailsMalformed.get.bind fun assembly => ?_
    split
    · exact .pure _
    · exact .malformed

theorem failsMalformed_properties : properties.FailsMalformed := by
  refine FailsMalformed.get.bind fun assembly => ?_
  -- There may be an anchor, a tag, both in either order, or neither.
  split
  · exact (failsMalformed_drop 2).bind fun _ => (failsMalformed_tagName _ _).bind fun _ => .pure _
  · exact (failsMalformed_drop 2).bind fun _ => (failsMalformed_tagName _ _).bind fun _ => .pure _
  · exact (failsMalformed_drop 1).bind fun _ => .pure _
  · exact (failsMalformed_drop 1).bind fun _ => (failsMalformed_tagName _ _).bind fun _ => .pure _
  · exact .pure _

theorem failsMalformed_bind (anchor : Option String) (what : Anchored) :
    (Assembling.bind anchor what).FailsMalformed := by
  cases anchor with
  | none => exact .pure ()
  | some name => exact .modify _

theorem failsMalformed_named (name : String) : (named name).FailsMalformed := by
  refine FailsMalformed.get.bind fun assembly => ?_
  split
  · exact .malformed
  · exact .pure _
  · exact .pure _

theorem failsMalformed_binding (anchor : Option String) (isSequence : Bool)
    {parts : Assembling Node} (inner : parts.FailsMalformed) :
    (binding anchor isSequence parts).FailsMalformed :=
  (failsMalformed_bind _ _).bind fun _ => inner.bind fun node =>
    (failsMalformed_bind _ _).bind fun _ => .pure node

-- The steps that nest take less fuel each time; the induction is on the fuel, for all of them at once.
mutual

theorem failsMalformed_node (inBlock mayHang : Bool) :
    ∀ fuel, (node inBlock mayHang fuel).FailsMalformed
  | 0 => .malformed
  | fuel + 1 => by
    unfold node
    refine failsMalformed_peek.bind fun next => ?_
    split
    · -- An alias is only looked up.
      exact (failsMalformed_drop 1).bind fun _ => failsMalformed_named _
    · refine failsMalformed_properties.bind fun (anchor, tag) => FailsMalformed.get.bind fun _ =>
        .guarded .malformed fun _ => failsMalformed_peek.bind fun next => ?_
      -- What the node is shows in its first token.
      split
      · exact failsMalformed_binding _ _ ((failsMalformed_hangingItems fuel).bind fun _ => .pure _)
      · exact (failsMalformed_drop 1).bind fun _ => (failsMalformed_bind _ _).bind fun _ => .pure _
      · exact (failsMalformed_drop 1).bind fun _ =>
          failsMalformed_binding _ _ ((failsMalformed_flowItems true fuel).bind fun _ => .pure _)
      · exact (failsMalformed_drop 1).bind fun _ =>
          failsMalformed_binding _ _ ((failsMalformed_flowEntries true fuel).bind fun _ => .pure _)
      · exact (failsMalformed_drop 1).bind fun _ =>
          failsMalformed_binding _ _ ((failsMalformed_blockItems fuel).bind fun _ => .pure _)
      · exact (failsMalformed_drop 1).bind fun _ =>
          failsMalformed_binding _ _ ((failsMalformed_blockEntries fuel).bind fun _ => .pure _)
      · exact .guarded .malformed fun _ => (failsMalformed_bind _ _).bind fun _ => .pure _

theorem failsMalformed_nodeUnless (ends : List Token) (inBlock mayHang : Bool) :
    ∀ fuel, (nodeUnless ends inBlock mayHang fuel).FailsMalformed
  | 0 => .malformed
  | fuel + 1 =>
    failsMalformed_peek.bind fun _ => .ite (.pure absent) (failsMalformed_node inBlock mayHang fuel)

theorem failsMalformed_valueUnless (ends : List Token) (inBlock mayHang : Bool) :
    ∀ fuel, (valueUnless ends inBlock mayHang fuel).FailsMalformed
  | 0 => .malformed
  | fuel + 1 => (failsMalformed_take? .value).bind fun _ =>
    .ite (failsMalformed_nodeUnless ends inBlock mayHang fuel) (.pure absent)

theorem failsMalformed_flowItems (first : Bool) : ∀ fuel, (flowItems first fuel).FailsMalformed
  | 0 => .malformed
  | fuel + 1 =>
    (failsMalformed_take? _).bind fun _ => .ite (.pure []) <|
      .guarded (failsMalformed_expect _) fun _ => (failsMalformed_take? _).bind fun _ => .ite
        ((failsMalformed_nodeUnless _ false false fuel).bind fun key =>
          (failsMalformed_valueUnless _ false false fuel).bind fun value =>
            (failsMalformed_flowItems false fuel).bind fun items =>
              .pure (.mapping .mapping [(key, value)] :: items))
        ((failsMalformed_take? _).bind fun _ => .ite (.pure []) <|
          (failsMalformed_node false false fuel).bind fun item =>
            (failsMalformed_flowItems false fuel).bind fun items => .pure (item :: items))

theorem failsMalformed_flowEntries (first : Bool) : ∀ fuel, (flowEntries first fuel).FailsMalformed
  | 0 => .malformed
  | fuel + 1 =>
    (failsMalformed_take? _).bind fun _ => .ite (.pure []) <|
      .guarded (failsMalformed_expect _) fun _ => (failsMalformed_take? _).bind fun _ => .ite
        ((failsMalformed_nodeUnless _ false false fuel).bind fun key =>
          (failsMalformed_valueUnless _ false false fuel).bind fun value =>
            (failsMalformed_flowEntries false fuel).bind fun entries => .pure ((key, value) :: entries))
        ((failsMalformed_take? _).bind fun _ => .ite (.pure []) <|
          (failsMalformed_node false false fuel).bind fun key =>
            (failsMalformed_flowEntries false fuel).bind fun entries =>
              .pure ((key, absent) :: entries))

theorem failsMalformed_blockItems : ∀ fuel, (blockItems fuel).FailsMalformed
  | 0 => .malformed
  | fuel + 1 => (failsMalformed_take? .blockEntry).bind fun _ => .ite
    ((failsMalformed_nodeUnless _ true false fuel).bind fun item =>
      (failsMalformed_blockItems fuel).bind fun items => .pure (item :: items))
    ((failsMalformed_expect .blockEnd).bind fun _ => .pure [])

theorem failsMalformed_hangingItems : ∀ fuel, (hangingItems fuel).FailsMalformed
  | 0 => .malformed
  | fuel + 1 => (failsMalformed_take? .blockEntry).bind fun _ => .ite
    ((failsMalformed_nodeUnless _ true false fuel).bind fun item =>
      (failsMalformed_hangingItems fuel).bind fun items => .pure (item :: items))
    (.pure [])

theorem failsMalformed_blockEntries : ∀ fuel, (blockEntries fuel).FailsMalformed
  | 0 => .malformed
  | fuel + 1 => (failsMalformed_take? .key).bind fun _ => .ite
    ((failsMalformed_nodeUnless _ true true fuel).bind fun key =>
      (failsMalformed_valueUnless _ true true fuel).bind fun value =>
        (failsMalformed_blockEntries fuel).bind fun entries => .pure ((key, value) :: entries))
    ((failsMalformed_expect .blockEnd).bind fun _ => .pure [])

end

theorem failsMalformed_document (marked : Bool) (fuel : Nat) :
    (document marked fuel).FailsMalformed := by
  unfold document
  refine .ite (failsMalformed_node true false fuel) ?_
  refine (failsMalformed_expect .documentStart).bind fun _ => failsMalformed_peek.bind fun next => ?_
  split
  · exact .pure absent
  · exact .ite (.pure absent) (failsMalformed_node true false fuel)

/-- The directives of a text fail for nothing but a text that is no YAML either. -/
theorem failsMalformed_directives (versions : Nat) (told : List (String × String))
    (tokens : List Token) : (directives versions told tokens).FailsOnly (· = .malformed) := by
  fun_induction directives versions told tokens with
  | case1 versions told major rest allowed ih => exact ih
  | case2 => exact .error rfl
  | case3 => exact .error rfl
  | case4 versions told handle meaning rest fresh ih => exact ih
  | case5 versions told rest ih => exact ih
  | case6 => exact .ok _
  | case7 => exact .error rfl

end Assembling

namespace Node

/-- Putting nodes together fails for nothing but a text that is no YAML. -/
theorem failsMalformed_ofTokens? (tokens : List Token) :
    (ofTokens? tokens).FailsOnly (· = .malformed) := by
  unfold ofTokens?
  split
  · exact .ok none
  · -- The directives are read only where the document is marked; the document is behind them.
    dsimp only
    split
    · exact (Assembling.failsMalformed_directives 0 [] _).bind fun _ =>
        ((Assembling.failsMalformed_document _ _).run _).bind fun _ => .ite (.ok _) (.error rfl)
    · exact ((Assembling.failsMalformed_document _ _).run _).bind fun _ => .ite (.ok _) (.error rfl)

/-- A node holds a scalar that is not what its tag says, or a mapping with a text in place of one. -/
inductive Spoilt (error : Error) : Node → Prop
  | scalar {tag : Tag} {text : String} (failed : scalarDatum tag text = .error error) :
      Spoilt error (.scalar tag text)
  | standIn {tag : Tag} {entries : List (Node × Node)} {text : String}
      (stands : standInText entries = .ok text) (failed : scalarDatum tag text = .error error) :
      Spoilt error (.mapping tag entries)
  | item {tag : Tag} {items : List Node} {item : Node} (member : item ∈ items)
      (spoilt : Spoilt error item) : Spoilt error (.sequence tag items)
  | key {tag : Tag} {entries : List (Node × Node)} {key value : Node}
      (member : (key, value) ∈ entries) (spoilt : Spoilt error key) : Spoilt error (.mapping tag entries)
  | value {tag : Tag} {entries : List (Node × Node)} {key value : Node}
      (member : (key, value) ∈ entries) (spoilt : Spoilt error value) :
      Spoilt error (.mapping tag entries)

/-- What a node is to blame for: that the text is no YAML, or that it is spoilt. -/
def Blamed (node : Node) (error : Error) : Prop := error = .malformed ∨ node.Spoilt error

/-- What is to blame on one of several nodes. -/
def AnyBlamed (items : List Node) (error : Error) : Prop :=
  error = .malformed ∨ ∃ item ∈ items, item.Spoilt error

/-- What is to blame on a key or a value of several entries. -/
def EntryBlamed (entries : List (Node × Node)) (error : Error) : Prop :=
  error = .malformed ∨ ∃ entry ∈ entries, entry.1.Spoilt error ∨ entry.2.Spoilt error

section

variable {error : Error} {tag : Tag} {item key value : Node} {items : List Node}
  {entries : List (Node × Node)}

theorem AnyBlamed.head (blamed : item.Blamed error) : AnyBlamed (item :: items) error :=
  blamed.imp_right fun spoilt => ⟨item, .head _, spoilt⟩

theorem AnyBlamed.tail (blamed : AnyBlamed items error) : AnyBlamed (item :: items) error :=
  blamed.imp_right fun ⟨found, member, spoilt⟩ => ⟨found, .tail _ member, spoilt⟩

theorem EntryBlamed.of_key (blamed : key.Blamed error) : EntryBlamed ((key, value) :: entries) error :=
  blamed.imp_right fun spoilt => ⟨_, .head _, .inl spoilt⟩

theorem EntryBlamed.of_value (blamed : value.Blamed error) :
    EntryBlamed ((key, value) :: entries) error :=
  blamed.imp_right fun spoilt => ⟨_, .head _, .inr spoilt⟩

theorem EntryBlamed.tail (blamed : EntryBlamed entries error) :
    EntryBlamed ((key, value) :: entries) error :=
  blamed.imp_right fun ⟨found, member, spoilt⟩ => ⟨found, .tail _ member, spoilt⟩

theorem Blamed.of_items (blamed : AnyBlamed items error) : (Node.sequence tag items).Blamed error :=
  blamed.imp_right fun ⟨_, member, spoilt⟩ => .item member spoilt

theorem Blamed.of_entries (blamed : EntryBlamed entries error) :
    (Node.mapping tag entries).Blamed error :=
  blamed.imp_right fun ⟨_, member, spoilt⟩ => spoilt.elim (.key member) (.value member)

end

/-- Only a key with parts keeps entries from being a mapping. -/
theorem failsMalformed_mappingOf (entries : List (Datum × Datum)) :
    (mappingOf entries).FailsOnly (· = .malformed) := by
  unfold mappingOf
  -- The induction is for whatever has been put together of the entries in front.
  generalize ([] : List (Datum × Datum)) = found
  induction entries generalizing found with
  | nil => exact .ok found
  | cons entry entries ih =>
    rw [List.foldlM_cons]
    exact .bind (.ite (.ok _) (.error rfl)) fun later => ih later

mutual

theorem failsMalformed_scalarText : ∀ node, (scalarText node).FailsOnly (· = .malformed)
  | .scalar _ text => .ok text
  | .mapping _ entries => failsMalformed_standInText entries
  | .sequence _ _ => .error rfl
  | .loop _ => .error rfl

theorem failsMalformed_standInText : ∀ entries, (standInText entries).FailsOnly (· = .malformed)
  | [] => .error rfl
  | (key, value) :: rest => by
    unfold standInText
    split
    · exact failsMalformed_scalarText value
    · exact failsMalformed_standInText rest

end

-- The cases are those of the reader, the merged mappings among them.
mutual

/-- Data that cannot be had is that of a text that is no YAML, or of a node that is spoilt. -/
theorem blamed_datum : ∀ node, (datum node).FailsOnly node.Blamed
  | .scalar tag text => ⟨fun failed => .inr (.scalar failed)⟩
  | .sequence tag items => by
    unfold datum
    split
    · exact ((blamed_data items).mono fun _ => .of_items).map _
    · exact ((blamed_pairs items).mono fun _ => .of_items).map _
    · exact .error (.inl rfl)
  | .mapping tag entries => by
    have inside : (entryData entries).FailsOnly (Node.mapping tag entries).Blamed :=
      (blamed_entryData entries).mono fun _ => .of_entries
    have keyed : ∀ found, (mappingOf found).FailsOnly (Node.mapping tag entries).Blamed := fun found =>
      (failsMalformed_mappingOf found).mono fun _ => .inl
    -- A mapping that is tagged as a scalar is read from the text that stands in for it.
    have standing : Outcome.FailsOnly (do scalarDatum tag (← standInText entries))
        (Node.mapping tag entries).Blamed := by
      constructor
      intro error failed
      obtain missing | ⟨text, stands, wrong⟩ := bind_eq_error.mp failed
      · exact .inl ((failsMalformed_standInText entries).of_failed missing)
      · exact .inr (.standIn stands wrong)
    unfold datum
    split
    · exact inside.bind fun _ => (keyed _).bind fun _ => .ok _
    · exact inside.bind fun _ => (keyed _).bind fun _ => .ok _
    · exact standing
    · exact standing
    · exact standing
    · exact standing
    · exact standing
    · exact standing
    · exact .error (.inl rfl)
  | .loop isSequence => .ok _

theorem blamed_data : ∀ items, (data items).FailsOnly (AnyBlamed items)
  | [] => .ok []
  | item :: rest =>
    .bind ((blamed_datum item).mono fun _ => .head) fun _ =>
      .bind ((blamed_data rest).mono fun _ => .tail) fun _ => .ok _

theorem blamed_pairs : ∀ items, (pairs items).FailsOnly (AnyBlamed items)
  | [] => .ok []
  | .mapping _ [(key, value)] :: rest =>
    .bind ((blamed_datum key).mono fun _ blamed => .head (.of_entries (.of_key blamed))) fun _ =>
      .bind ((blamed_datum value).mono fun _ blamed => .head (.of_entries (.of_value blamed))) fun _ =>
        .bind ((blamed_pairs rest).mono fun _ => .tail) fun _ => .ok _
  | .mapping _ [] :: _ => .error (.inl rfl)
  | .mapping _ (_ :: _ :: _) :: _ => .error (.inl rfl)
  | .scalar _ _ :: _ => .error (.inl rfl)
  | .sequence _ _ :: _ => .error (.inl rfl)
  | .loop _ :: _ => .error (.inl rfl)

theorem blamed_entryData : ∀ entries, (entryData entries).FailsOnly (EntryBlamed entries)
  | [] => .ok _
  | (key, value) :: rest => by
    have second : (datum value).FailsOnly (EntryBlamed ((key, value) :: rest)) :=
      (blamed_datum value).mono fun _ => .of_value
    have others : (entryData rest).FailsOnly (EntryBlamed ((key, value) :: rest)) :=
      (blamed_entryData rest).mono fun _ => .tail
    unfold entryData
    split
    · -- The key that merges is not read itself, and neither is the one that stands in.
      exact .bind ((blamed_mergedFrom value).mono fun _ => .of_value) fun _ => others.bind fun _ => .ok _
    · exact second.bind fun _ => others.bind fun _ => .ok _
    · exact .bind ((blamed_datum key).mono fun _ => .of_key) fun _ =>
        second.bind fun _ => others.bind fun _ => .ok _

theorem blamed_mergedFrom : ∀ node, (mergedFrom node).FailsOnly node.Blamed
  | .mapping _ entries =>
    .bind ((blamed_entryData entries).mono fun _ => .of_entries) fun _ => .ok _
  | .sequence _ items => (blamed_mergedFromAll items).mono fun _ => .of_items
  | .loop false => .ok []
  | .loop true => .error (.inl rfl)
  | .scalar _ _ => .error (.inl rfl)

theorem blamed_mergedFromAll : ∀ items, (mergedFromAll items).FailsOnly (AnyBlamed items)
  | [] => .ok []
  | .mapping _ entries :: rest =>
    .bind ((blamed_entryData entries).mono fun _ blamed => .head (.of_entries blamed)) fun _ =>
      .bind ((blamed_mergedFromAll rest).mono fun _ => .tail) fun _ => .ok _
  | .loop false :: rest => (blamed_mergedFromAll rest).mono fun _ => .tail
  | .loop true :: _ => .error (.inl rfl)
  | .scalar _ _ :: _ => .error (.inl rfl)
  | .sequence _ _ :: _ => .error (.inl rfl)

end

end Node

/-- Why a text is not read, where it need not be that it is no YAML. -/
inductive Unreadable (text : List Char) (error : Error) : Prop
  | scan (failed : tokens text = .error error)
  /-- The text is a tree, a scalar of which is not what its tag says. -/
  | scalar {scanned : List Token} {node : Node} (found : tokens text = .ok scanned)
      (composed : Node.ofTokens? scanned = .ok (some node)) (failed : node.datum = .error error)
      (spoilt : node.Spoilt error)

theorem read_eq_error {text : List Char} {error : Error} (other : error ≠ .malformed) :
    read text = .error error ↔ Unreadable text error := by
  constructor
  · intro failed
    obtain failed | ⟨scanned, found, failed⟩ := bind_eq_error.mp failed
    · exact .scan failed
    obtain failed | ⟨composed?, composed, failed⟩ := bind_eq_error.mp failed
    · exact absurd ((Node.failsMalformed_ofTokens? scanned).of_failed failed) other
    · cases composed? with
      | none => cases failed
      | some node =>
        -- A document that is there fails only as its node does.
        obtain failed | ⟨_, -, failed⟩ := bind_eq_error.mp failed
        · exact .scalar found composed failed
            (((Node.blamed_datum node).of_failed failed).resolve_left other)
        · cases failed
  · rintro (failed | ⟨found, composed, failed, -⟩)
    · exact bind_eq_error.mpr (.inl failed)
    · exact bind_eq_error.mpr (.inr ⟨_, found, bind_eq_error.mpr
        (.inr ⟨_, composed, bind_eq_error.mpr (.inl failed)⟩)⟩)

end Issuance.Yaml
