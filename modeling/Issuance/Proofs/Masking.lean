import Issuance.Proofs.Redaction

/-! Redaction masks credentials wherever mappings lead, leaves the rest as it is, and is done at once. -/

namespace Issuance.Redaction

/-- A key that is one of the secret ones, whatever its case. -/
def NamesSecret (key : String) : Prop := ∃ name ∈ secretKeys, Text.lower key = Text.lower name

/-- The secret keys are kept in lower case, so that it is the case of the other key that is ignored. -/
theorem isSecretKey_iff {key : String} : isSecretKey key = true ↔ NamesSecret key := by
  have lower : ∀ name ∈ secretKeys, Text.lower name = name := by decide +kernel
  rw [isSecretKey, List.contains_iff_mem]
  constructor
  · intro member
    exact ⟨_, member, (lower _ member).symm⟩
  · rintro ⟨name, member, same⟩
    rw [same, lower name member]
    exact member

/--
A place that is reached through mappings only, and the value that stands there.

The members on the way to it are told by position and key, and so is the last one, which has the value.
-/
inductive Leads : Members → List (Nat × String) → Nat → String → Value → Prop
  | here {members : Members} {position : Nat} {key : String} {value : Value}
      (member : members[position]? = some (key, value)) : Leads members [] position key value
  | within {members inner : Members} {first position : Nat} {outer key : String}
      {above : List (Nat × String)} {value : Value}
      (member : members[first]? = some (outer, .record inner))
      (leads : Leads inner above position key value) :
      Leads members ((first, outer) :: above) position key value

/-- The key in the event itself that a place is reached by. -/
def topKey (above : List (Nat × String)) (key : String) : String :=
  (above.head?.map (·.2)).getD key

/-- A way that stays open: it leads within the event's own text, or past no secret key. -/
def Passable (above : List (Nat × String)) (key : String) : Prop :=
  topKey above key = eventKey ∨ ∀ step ∈ above, ¬ NamesSecret step.2

/-- What is made of the value of a key. -/
structure Masks (key : String) (value shown : Value) : Prop where
  /-- The mask comes for a secret and under a secret key, where no other value is left. -/
  masked : shown = mask ↔ NamesSecret key ∨ (∃ s, value = .secret s) ∨ value = mask
  /-- A mapping that is gone into keeps its keys in their order. -/
  keys : ∀ members, value = .record members → shown ≠ mask →
    ∃ inner, shown = .record inner ∧ inner.map (·.1) = members.map (·.1)
  /-- All else stays as it is, lists with whatever they hold among it. -/
  other : shown ≠ mask → (∀ members, value ≠ .record members) → shown = value
  /-- What shows no credential at any depth stays as it is. -/
  clean : ¬ NamesSecret key → ¬ Exposes value → shown = value

variable {event members : Members} {above : List (Nat × String)} {position : Nat} {key : String}
  {value shown : Value}

/-- At a place there stands one value only. -/
theorem Leads.unique {other : Value} (leads : Leads members above position key value)
    (again : Leads members above position key other) : other = value := by
  induction leads with
  | here member =>
    cases again with
    | here found =>
      rw [member] at found
      cases found
      rfl
  | within member _ ih =>
    cases again with
    | within found further =>
      rw [member] at found
      cases found
      exact ih further

mutual

/-- What shows no credential is left as it is under a key that is not secret. -/
theorem redactValue_of_clean : ∀ {key : String} {value : Value}, ¬ isSecretKey key →
    ¬ Exposes value → redactValue key value = value
  | _, .null, plainKey, _ | _, .bool _, plainKey, _ | _, .int _, plainKey, _
  | _, .float _, plainKey, _ | _, .text _, plainKey, _ => by
    unfold redactValue
    rw [if_neg plainKey]
  | _, .list items, plainKey, _ => redactValue_list plainKey items
  | _, .secret s, _, clean => absurd (.secret s) clean
  | _, .record members, plainKey, clean => by
    have inner : ∀ key value, (key, value) ∈ members →
        (isSecretKey key → value = mask) ∧ ¬ Exposes value := fun key value member =>
      ⟨fun secretKey => Classical.byContradiction fun plain =>
        clean (.keyed member secretKey plain), fun exposes => clean (.member member exposes)⟩
    rw [redactValue_record plainKey, redactMembers_of_clean inner]

/-- So are members that show none, even where the mask stands under a secret key already. -/
theorem redactMembers_of_clean : ∀ {members : Members},
    (∀ key value, (key, value) ∈ members → (isSecretKey key → value = mask) ∧ ¬ Exposes value) →
    redactMembers members = members
  | [], _ => rfl
  | (key, value) :: rest, clean => by
    obtain ⟨masked, shows⟩ := clean key value List.mem_cons_self
    -- A member under a secret key is the mask already, and any other is clean itself.
    have first : redactValue key value = value := by
      by_cases secretKey : isSecretKey key
      · rw [redactValue_secretKey secretKey, masked secretKey]
      · exact redactValue_of_clean secretKey shows
    have others : redactMembers rest = rest :=
      redactMembers_of_clean fun key value member => clean key value (List.mem_cons_of_mem _ member)
    show (key, redactValue key value) :: redactMembers rest = _
    rw [first, others]

end

mutual

/-- What has been masked is left as it is by another turn. -/
theorem redactValue_redactValue : ∀ (key : String) (value : Value),
    redactValue key (redactValue key value) = redactValue key value
  | key, .record members => by
    by_cases secretKey : isSecretKey key
    · rw [redactValue_secretKey secretKey, redactValue_secretKey secretKey]
    · rw [redactValue_record secretKey, redactValue_record secretKey, redactMembers_redactMembers]
  | key, .null | key, .bool _ | key, .int _ | key, .float _ | key, .text _ | key, .secret _
  | key, .list _ => by
    by_cases secretKey : isSecretKey key
    · rw [redactValue_secretKey secretKey, redactValue_secretKey secretKey]
    · -- The mask is a text, and a text stays.
      simp [redactValue, secretKey, mask]

theorem redactMembers_redactMembers : ∀ members : Members,
    redactMembers (redactMembers members) = redactMembers members
  | [] => rfl
  | (key, value) :: rest => by
    show (key, redactValue key (redactValue key value)) :: redactMembers (redactMembers rest) =
      (key, redactValue key value) :: redactMembers rest
    rw [redactValue_redactValue key value, redactMembers_redactMembers rest]

end

theorem map_fst_redactMembers (members : Members) :
    (redactMembers members).map (·.1) = members.map (·.1) := by
  rw [redactMembers_eq_map, List.map_map]
  rfl

/-- The mask comes in three ways: under a secret key, for a secret, and where it has been already. -/
theorem redactValue_eq_mask : redactValue key value = mask ↔
    isSecretKey key ∨ (∃ s, value = .secret s) ∨ value = mask := by
  constructor
  · intro masked
    by_cases secretKey : isSecretKey key
    · exact .inl secretKey
    · refine .inr ?_
      unfold redactValue at masked
      rw [if_neg secretKey] at masked
      -- A mapping stays a mapping, and so it is not the mask.
      cases value with
      | secret s => exact .inl ⟨s, rfl⟩
      | record members => cases masked
      | null | bool | int | float | text | list => exact .inr masked
  · rintro (secretKey | ⟨s, rfl⟩ | rfl)
    · exact redactValue_secretKey secretKey value
    · by_cases secretKey : isSecretKey key <;> simp [redactValue, secretKey]
    · by_cases secretKey : isSecretKey key <;> simp [redactValue, secretKey, mask]

/-- That is what is made of the value of a key. -/
theorem masks_redactValue (key : String) (value : Value) :
    Masks key value (redactValue key value) where
  masked := by rw [redactValue_eq_mask, isSecretKey_iff]
  keys := by
    rintro members rfl shown
    have plainKey : ¬ isSecretKey key :=
      fun secretKey => shown (redactValue_secretKey secretKey _)
    exact ⟨redactMembers members, redactValue_record plainKey members,
      map_fst_redactMembers members⟩
  other := by
    intro shown plain
    rcases redactValue_cases key value with masked | ⟨_, ⟨members, same, _⟩ | ⟨kept, _⟩⟩
    · exact absurd masked shown
    · exact absurd same (plain members)
    · exact kept
  clean := fun plainKey clean => redactValue_of_clean (mt isSecretKey_iff.mp plainKey) clean

/-- Each member is found at its own position after redaction, under its own key. -/
theorem getElem?_redactMembers (members : Members) (position : Nat) :
    (redactMembers members)[position]? =
      members[position]?.map fun (key, value) => (key, redactValue key value) := by
  rw [redactMembers_eq_map, List.getElem?_map]

/-- A place with no secret key above it is still reached, and its value is what is made of it. -/
theorem Leads.redactMembers (leads : Leads members above position key value)
    (plain : ∀ step ∈ above, ¬ isSecretKey step.2) :
    Leads (redactMembers members) above position key (redactValue key value) := by
  induction leads with
  | here member => exact .here (by rw [getElem?_redactMembers, member]; rfl)
  | within member _ ih =>
    obtain ⟨outer, inner⟩ := List.forall_mem_cons.mp plain
    refine .within ?_ (ih inner)
    -- The mapping that leads further is gone into, as its key is not secret.
    rw [getElem?_redactMembers, member]
    exact congrArg (fun shown => some (_, shown)) (redactValue_record outer _)

/-- Whatever place is reached after redaction was reached before, and no key above it is secret. -/
theorem Leads.of_redactMembers
    (leads : Leads (Redaction.redactMembers members) above position key shown) :
    (∀ step ∈ above, ¬ isSecretKey step.2) ∧ ∃ value, Leads members above position key value := by
  generalize redacted : Redaction.redactMembers members = visible at leads
  -- The induction is on the way through what is shown, for whatever it is shown of.
  induction leads generalizing members with
  | here member =>
    rw [← redacted, getElem?_redactMembers, Option.map_eq_some_iff] at member
    obtain ⟨⟨_, value⟩, member, same⟩ := member
    cases same
    exact ⟨fun _ => nofun, value, .here member⟩
  | within member _ ih =>
    rw [← redacted, getElem?_redactMembers, Option.map_eq_some_iff] at member
    obtain ⟨⟨outer, value⟩, member, same⟩ := member
    obtain ⟨rfl, shows⟩ := Prod.mk.inj same
    -- A mapping that is shown was a mapping before, under a key that is not secret.
    obtain ⟨plainKey, inner, rfl, rfl⟩ := record_of_redactValue shows
    obtain ⟨plain, value, leads⟩ := ih rfl
    exact ⟨List.forall_mem_cons.mpr ⟨plainKey, plain⟩, value, .within member leads⟩

/-- So is each member of an event, where the event's own text is left as it is. -/
theorem getElem?_redact (event : Members) (position : Nat) :
    (redact event)[position]? = event[position]?.map fun (key, value) =>
      (key, if key = eventKey then value else redactValue key value) :=
  List.getElem?_map

/-- A place of an event that is open is still reached, and outside of its text the value is masked. -/
theorem Leads.redact (leads : Leads event above position key value) (passable : Passable above key) :
    Leads (redact event) above position key
      (if topKey above key = eventKey then value else redactValue key value) := by
  cases leads with
  | here member => exact .here (by rw [getElem?_redact, member]; rfl)
  | @within _ inner first _ outer _ above _ member leads =>
    show Leads _ _ _ _ (if outer = eventKey then value else redactValue key value)
    by_cases own : outer = eventKey
    · -- The event's own text is not even looked into.
      rw [if_pos own]
      refine .within ?_ leads
      rw [getElem?_redact, member, Option.map_some]
      simp only [if_pos own]
    · rw [if_neg own]
      have plain : ∀ step ∈ (first, outer) :: above, ¬ isSecretKey step.2 :=
        fun step member => mt isSecretKey_iff.mp (passable.resolve_left own step member)
      obtain ⟨plainKey, further⟩ := List.forall_mem_cons.mp plain
      refine .within ?_ (leads.redactMembers further)
      rw [getElem?_redact, member, Option.map_some]
      simp only [if_neg own, redactValue_record plainKey]

/-- Whatever place of a redacted event is reached is an open place of the event. -/
theorem Leads.of_redact (leads : Leads (Redaction.redact event) above position key shown) :
    Passable above key ∧ ∃ value, Leads event above position key value := by
  cases leads with
  | here member =>
    rw [getElem?_redact, Option.map_eq_some_iff] at member
    obtain ⟨⟨_, value⟩, member, same⟩ := member
    cases same
    exact ⟨.inr fun _ => nofun, value, .here member⟩
  | @within _ inner first _ outer _ above _ member leads =>
    rw [getElem?_redact, Option.map_eq_some_iff] at member
    obtain ⟨⟨outer, value⟩, member, same⟩ := member
    obtain ⟨rfl, shows⟩ := Prod.mk.inj same
    by_cases own : outer = eventKey
    · -- Below the event's own text the way is open, whatever keys it passes.
      rw [if_pos own] at shows
      subst shows
      exact ⟨.inl own, _, .within member leads⟩
    · rw [if_neg own] at shows
      obtain ⟨plainKey, _, rfl, rfl⟩ := record_of_redactValue shows
      obtain ⟨further, value, leads⟩ := leads.of_redactMembers
      have plain : ∀ step ∈ (first, outer) :: above, ¬ isSecretKey step.2 :=
        List.forall_mem_cons.mpr ⟨plainKey, further⟩
      exact ⟨.inr fun step member => mt isSecretKey_iff.mpr (plain step member), value,
        .within member leads⟩

/-- Redacting once more changes nothing. -/
theorem redact_redact (event : Members) : redact (redact event) = redact event := by
  unfold redact
  rw [List.map_map]
  refine List.map_congr_left fun entry _ => ?_
  by_cases own : entry.1 = eventKey
  · simp [own]
  · simp [own, redactValue_redactValue]

/--
Redaction keeps all keys and masks, along mappings, exactly the secrets and what stands under secret keys.

The event's own text is left as it is, and so is whatever shows no credential.
A mapping under a secret key is masked as a whole, so that no place within it is reached any more.
-/
theorem redact_masks_exactly (event : Members) :
    (redact event).map (·.1) = event.map (·.1) ∧
    (∀ above position key value, Leads event above position key value → Passable above key →
      ∃ shown, (∀ found, Leads (redact event) above position key found ↔ found = shown) ∧
        (topKey above key = eventKey → shown = value) ∧
        (topKey above key ≠ eventKey → Masks key value shown)) ∧
    (∀ above position key shown, Leads (redact event) above position key shown →
      Passable above key ∧ ∃ value, Leads event above position key value) ∧
    redact (redact event) = redact event := by
  refine ⟨?_, fun above position key value leads passable => ?_,
    fun above position key shown leads => leads.of_redact, redact_redact event⟩
  · rw [redact, List.map_map]
    rfl
  · have shows := leads.redact passable
    refine ⟨_, fun found => ⟨shows.unique, ?_⟩, fun own => if_pos own, fun other => ?_⟩
    · rintro rfl
      exact shows
    · rw [if_neg other]
      exact masks_redactValue key value

/-- A secret in the event's own text is left, and a credential among the headers is masked. -/
example : redact [("event", .secret "s"),
      ("headers", .record [("Authorization", .text "k"), ("n", .int 1)])] =
    [("event", .secret "s"), ("headers", .record [("Authorization", mask), ("n", .int 1)])] :=
  rfl

end Issuance.Redaction
