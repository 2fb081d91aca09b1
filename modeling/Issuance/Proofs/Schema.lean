import Issuance.Service.Response
import Issuance.Service.Submission

/-! What is known of a value that has passed a check. -/

namespace Issuance

namespace Validated

variable {α β : Type}

/-- Mapping passes exactly what passed before. -/
theorem map_eq_valid {outcome : Validated α} {f : α → β} {value : β} :
    f <$> outcome = .valid value ↔ ∃ passed, outcome = .valid passed ∧ f passed = value := by
  cases outcome with
  | valid passed =>
    show Validated.valid (f passed) = .valid value ↔ _
    simp
  | invalid faults =>
    show Validated.invalid faults = .valid value ↔ _
    simp

/-- Outcomes side by side pass together. -/
theorem seq_eq_valid {f : Validated (α → β)} {outcome : Validated α} {value : β} :
    f <*> outcome = .valid value ↔
      ∃ g passed, f = .valid g ∧ outcome = .valid passed ∧ g passed = value := by
  show seq f outcome = .valid value ↔ _
  cases f <;> cases outcome <;> simp [seq]

/-- A further check passes what passed before, and passes it. -/
theorem andThen_eq_valid {outcome : Validated α} {next : α → Validated β} {value : β} :
    outcome.andThen next = .valid value ↔
      ∃ passed, outcome = .valid passed ∧ next passed = .valid value := by
  cases outcome <;> simp [andThen]

/-- Seen from the value that holds a part, only its faults look different. -/
theorem inside_eq_valid {outcome : Validated α} {step : Fault.Step} {value : α} :
    outcome.inside step = .valid value ↔ outcome = .valid value := by
  cases outcome <;> simp [inside]

end Validated

/-- A member that has to be there passes only with a value that passes its own check. -/
theorem Field.valid_of_required {α : Type} {field : Field} {check : Check α} {members : Members}
    {passed : α} (valid : field.required check members = .valid passed) :
    ∃ value, check value = .valid passed := by
  unfold Field.required Field.orElse at valid
  -- A member that is missing is a fault.
  split at valid
  · exact ⟨_, Validated.inside_eq_valid.mp valid⟩
  · simp [Validated.fault, Validated.inside] at valid

/-- What holds of a default, and of all that passes a check, holds of a member with that default. -/
theorem Field.holds_of_withDefault {α : Type} (P : α → Prop) {field : Field} {check : Check α}
    {members : Members} {default passed : α}
    (holds : ∀ {value passed}, check value = .valid passed → P passed) (stands : P default)
    (valid : field.withDefault default check members = .valid passed) : P passed := by
  unfold Field.withDefault Field.orElse at valid
  split at valid
  · exact holds (Validated.inside_eq_valid.mp valid)
  · cases valid
    exact stands

/-- A list that must not be empty is not empty once it has passed. -/
theorem Check.ne_nil_of_nonemptyList {α : Type} {check : Check α} {value : Value} {items : List α}
    (valid : Check.nonemptyList check value = .valid items) : items ≠ [] := by
  unfold Check.nonemptyList Validated.andThen at valid
  split at valid
  · next passed _ =>
    -- The items are there, and their number is looked at last.
    by_cases empty : passed.isEmpty
    · simp [empty, Validated.fault] at valid
    · simp only [empty, Bool.false_eq_true, if_false, Validated.valid.injEq] at valid
      rw [← valid]
      exact fun none => empty (by simp [none])
  · simp at valid

/-- What is read out of a body has passed its check. -/
theorem valid_of_readBody {α : Type} {check : Check α} {body : Bytes} {passed : α}
    (valid : readBody check body = .valid passed) : ∃ value, check value = .valid passed := by
  unfold readBody at valid
  -- A body that is no value at all is a fault by itself.
  split at valid
  · exact ⟨_, valid⟩
  · simp [Validated.fault] at valid

/-- A receipt that has been read holds a record. -/
theorem SubmissionReceipt.ne_nil_of_check {value : Value} {receipt : SubmissionReceipt}
    (valid : SubmissionReceipt.check value = .valid receipt) : receipt.records ≠ [] := by
  unfold SubmissionReceipt.check Check.record at valid
  split at valid
  · obtain ⟨records, passed, rfl⟩ := Validated.map_eq_valid.mp valid
    obtain ⟨_, checked⟩ := Field.valid_of_required passed
    exact Check.ne_nil_of_nonemptyList checked
  · simp [Validated.fault] at valid

end Issuance
