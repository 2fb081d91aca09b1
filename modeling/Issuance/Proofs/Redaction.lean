import Issuance.Log.Redaction

/-! What redaction leaves of the credentials in an event: those in lists, and no others. -/

namespace Issuance.Redaction

/-- Data that shows a credential: a secret, or under a secret key anything but the mask, at whatever depth. -/
inductive Exposes : Value → Prop
  | secret (s : String) : Exposes (.secret s)
  | keyed {members : Members} {key : String} {value : Value} (here : (key, value) ∈ members)
      (secretKey : isSecretKey key) (plain : value ≠ mask) : Exposes (.record members)
  | member {members : Members} {key : String} {value : Value} (here : (key, value) ∈ members)
      (exposes : Exposes value) : Exposes (.record members)
  | item {items : List Value} {value : Value} (here : value ∈ items) (exposes : Exposes value) :
      Exposes (.list items)

/-- An event that shows a credential anywhere but in its own text. -/
def EventExposes (event : Members) : Prop :=
  ∃ key value, (key, value) ∈ event ∧ key ≠ eventKey ∧
    (isSecretKey key ∧ value ≠ mask ∨ Exposes value)

/-- Under a key that is not secret, a list that shows a credential, or a mapping in which one slips through. -/
inductive Slips : String → Value → Prop
  | listed {key : String} {items : List Value} {value : Value} (plainKey : ¬ isSecretKey key)
      (here : value ∈ items) (exposes : Exposes value) : Slips key (.list items)
  | member {key inner : String} {members : Members} {value : Value} (plainKey : ¬ isSecretKey key)
      (here : (inner, value) ∈ members) (slips : Slips inner value) : Slips key (.record members)

/-- A list, or a mapping that has one somewhere in it. -/
inductive HoldsList : Value → Prop
  | list (items : List Value) : HoldsList (.list items)
  | member {members : Members} {key : String} {value : Value} (here : (key, value) ∈ members)
      (holds : HoldsList value) : HoldsList (.record members)

variable {key : String}

/-- It takes a list for a credential to slip through. -/
theorem Slips.holdsList {value : Value} (slips : Slips key value) : HoldsList value := by
  induction slips with
  | listed => exact .list _
  | member _ here _ ih => exact .member here ih

/-- Whatever stands under a secret key is masked. -/
theorem redactValue_secretKey (secretKey : isSecretKey key) (value : Value) :
    redactValue key value = mask := by
  unfold redactValue
  rw [if_pos secretKey]

theorem redactValue_list (plainKey : ¬ isSecretKey key) (items : List Value) :
    redactValue key (.list items) = .list items := by
  unfold redactValue
  rw [if_neg plainKey]

theorem redactValue_record (plainKey : ¬ isSecretKey key) (members : Members) :
    redactValue key (.record members) = .record (redactMembers members) := by
  unfold redactValue
  rw [if_neg plainKey]

/-- Each member is masked under its own key, and none comes or goes. -/
theorem redactMembers_eq_map (members : Members) :
    redactMembers members = members.map fun (key, value) => (key, redactValue key value) := by
  induction members with
  | nil => rfl
  | cons first rest ih =>
    show (first.1, redactValue first.1 first.2) :: redactMembers rest = _
    rw [ih]
    rfl

theorem mem_redactMembers {members : Members} {shown : Value} :
    (key, shown) ∈ redactMembers members ↔
      ∃ value, (key, value) ∈ members ∧ redactValue key value = shown := by
  rw [redactMembers_eq_map, List.mem_map]
  constructor
  · rintro ⟨⟨inner, value⟩, here, same⟩
    cases same
    exact ⟨value, here, rfl⟩
  · rintro ⟨value, here, rfl⟩
    exact ⟨(key, value), here, rfl⟩

/-- A value is masked, or gone into if it is a mapping, or else it stands there as it was. -/
theorem redactValue_cases (key : String) (value : Value) :
    redactValue key value = mask ∨ ¬ isSecretKey key ∧
      ((∃ members, value = .record members ∧
          redactValue key value = .record (redactMembers members)) ∨
        redactValue key value = value ∧ (∀ s, value ≠ .secret s) ∧
          ∀ members, value ≠ .record members) := by
  by_cases secretKey : isSecretKey key
  · exact .inl (redactValue_secretKey secretKey value)
  · unfold redactValue
    rw [if_neg secretKey]
    -- Under a key that is not secret, the kind of value decides.
    cases value with
    | secret s => exact .inl rfl
    | record members => exact .inr ⟨secretKey, .inl ⟨members, rfl, rfl⟩⟩
    | null | bool | int | float | text | list =>
      exact .inr ⟨secretKey, .inr ⟨rfl, fun _ => nofun, fun _ => nofun⟩⟩

/-- What is shown of a value as a mapping is what is shown of its members. -/
theorem record_of_redactValue {value : Value} {shown : Members}
    (redacted : redactValue key value = .record shown) :
    ¬ isSecretKey key ∧ ∃ members, value = .record members ∧ shown = redactMembers members := by
  rcases redactValue_cases key value with
    masked | ⟨plainKey, ⟨members, rfl, within⟩ | ⟨same, _, other⟩⟩
  · rw [masked] at redacted
    cases redacted
  · rw [within] at redacted
    exact ⟨plainKey, members, rfl, (Value.record.inj redacted).symm⟩
  · exact absurd (same.symm.trans redacted) (other shown)

/-- A list that is shown stands there as it was. -/
theorem list_of_redactValue {value : Value} {items : List Value}
    (redacted : redactValue key value = .list items) : ¬ isSecretKey key ∧ value = .list items := by
  rcases redactValue_cases key value with
    masked | ⟨plainKey, ⟨members, rfl, within⟩ | ⟨same, _, _⟩⟩
  · rw [masked] at redacted
    cases redacted
  · rw [within] at redacted
    cases redacted
  · exact ⟨plainKey, same.symm.trans redacted⟩

/-- No secret is shown by itself. -/
theorem redactValue_ne_secret (value : Value) (s : String) : redactValue key value ≠ .secret s := by
  intro redacted
  rcases redactValue_cases key value with
    masked | ⟨_, ⟨members, rfl, within⟩ | ⟨same, plain, _⟩⟩
  · rw [masked] at redacted
    cases redacted
  · rw [within] at redacted
    cases redacted
  · exact plain s (same.symm.trans redacted)

/-- Redacted data shows a credential exactly where one slips through. -/
theorem exposes_redactValue_iff {value : Value} :
    Exposes (redactValue key value) ↔ Slips key value := by
  constructor
  · intro exposes
    generalize redacted : redactValue key value = shown at exposes
    -- The induction is on where the credential is shown, for every key that the data may stand under.
    induction exposes generalizing key value with
    | secret s => exact absurd redacted (redactValue_ne_secret value s)
    | keyed here secretKey plain =>
      obtain ⟨_, members, _, rfl⟩ := record_of_redactValue redacted
      -- Under its secret key there is the mask and nothing else.
      obtain ⟨inner, _, masked⟩ := mem_redactMembers.mp here
      rw [redactValue_secretKey secretKey] at masked
      exact absurd masked.symm plain
    | member here _ ih =>
      obtain ⟨plainKey, members, rfl, rfl⟩ := record_of_redactValue redacted
      obtain ⟨inner, there, shown⟩ := mem_redactMembers.mp here
      exact .member plainKey there (ih shown)
    | item here exposes _ =>
      -- A list is not looked into, so that it shows what it showed before.
      obtain ⟨plainKey, rfl⟩ := list_of_redactValue redacted
      exact .listed plainKey here exposes
  · intro slips
    induction slips with
    | listed plainKey here exposes =>
      rw [redactValue_list plainKey]
      exact .item here exposes
    | member plainKey here _ ih =>
      rw [redactValue_record plainKey]
      exact .member (mem_redactMembers.mpr ⟨_, here, rfl⟩) ih

/-- A redacted event shows a credential exactly where one slips through. -/
theorem eventExposes_redact {event : Members} : EventExposes (redact event) ↔
    ∃ key value, (key, value) ∈ event ∧ key ≠ eventKey ∧ Slips key value := by
  constructor
  · rintro ⟨key, shown, here, other, shows⟩
    obtain ⟨⟨_, value⟩, there, same⟩ := List.mem_map.mp here
    cases same
    rw [if_neg other] at shows
    refine ⟨key, value, there, other, exposes_redactValue_iff.mp ?_⟩
    -- A member of the event itself is masked under its key just like one further down.
    rcases shows with ⟨secretKey, plain⟩ | exposes
    · exact absurd (redactValue_secretKey secretKey value) plain
    · exact exposes
  · rintro ⟨key, value, here, other, slips⟩
    refine ⟨key, redactValue key value, ?_, other, .inr (exposes_redactValue_iff.mpr slips)⟩
    refine List.mem_map.mpr ⟨(key, value), here, ?_⟩
    show (key, if key = eventKey then value else redactValue key value) = _
    rw [if_neg other]

/--
A redacted event shows a credential exactly where one stands in a list that is not masked as a whole.

Along mappings alone, every secret and whatever stands under a secret key is masked at any depth.
-/
theorem redact_masks_mappings (event : Members) :
    (EventExposes (redact event) ↔
      ∃ key value, (key, value) ∈ event ∧ key ≠ eventKey ∧ Slips key value) ∧
    ((∀ key value, (key, value) ∈ event → ¬ HoldsList value) → ¬ EventExposes (redact event)) := by
  refine ⟨eventExposes_redact, fun listless exposes => ?_⟩
  obtain ⟨key, value, here, _, slips⟩ := eventExposes_redact.mp exposes
  exact listless key value here slips.holdsList

/-- The key in a list of headers is shown as it is. -/
theorem redact_exposes_listed_key : EventExposes (redact [("event", .text "request"),
    ("headers", .list [.record [("tppl-api-key", .text "k-123")]])]) := by
  have plainKey : ¬ isSecretKey "headers" := by decide +kernel
  have secretKey : isSecretKey "tppl-api-key" := by decide +kernel
  refine (redact_masks_mappings _).1.mpr ⟨"headers", _, .tail _ (.head _), by decide, ?_⟩
  refine .listed plainKey (.head _) (.keyed (.head _) secretKey ?_)
  exact fun same => absurd (Value.text.inj same) (by decide)

end Issuance.Redaction
