import Issuance.Proofs.Moment
import Issuance.Proofs.Schema
import Issuance.Service.Payload

/-! What is written for the wire member by member, and what a check makes of it again. -/

namespace Issuance

mutual

/-- Free-form data that JSON can say: its numbers are finite, and it holds no secrets. -/
def Value.Sayable : Value → Prop
  | .float x => x.isFinite = true
  | .secret _ => False
  | .list items => Value.SayableItems items
  | .record members => Value.SayableMembers members
  | _ => True

/-- A list of such data. -/
def Value.SayableItems : List Value → Prop
  | [] => True
  | item :: rest => item.Sayable ∧ Value.SayableItems rest

/-- A mapping to such data. -/
def Value.SayableMembers : Members → Prop
  | [] => True
  | (_, value) :: rest => value.Sayable ∧ Value.SayableMembers rest

end

mutual

/-- What JSON can say goes over the wire as it is, nulls included. -/
theorem Value.wire_eq : ∀ {value : Value}, value.Sayable → value.wire = value
  | .null, _ | .bool _, _ | .int _, _ | .text _, _ => rfl
  | .float _, finite => if_pos finite
  | .list _, sayable => congrArg Value.list (Value.wireItems_eq sayable)
  | .record _, sayable => congrArg Value.record (Value.wireMembers_eq sayable)

theorem Value.wireItems_eq : ∀ {items : List Value}, Value.SayableItems items →
    Value.wireItems items = items
  | [], _ => rfl
  | _ :: _, ⟨first, rest⟩ => congrArg₂ List.cons (Value.wire_eq first) (Value.wireItems_eq rest)

theorem Value.wireMembers_eq : ∀ {members : Members}, Value.SayableMembers members →
    Value.wireMembers members = members
  | [], _ => rfl
  | (key, _) :: _, ⟨first, rest⟩ =>
    congrArg₂ List.cons (congrArg (key, ·) (Value.wire_eq first)) (Value.wireMembers_eq rest)

end

namespace Validated

variable {α β : Type}

@[simp] theorem map_valid (f : α → β) (value : α) : f <$> valid value = valid (f value) := rfl

@[simp] theorem seq_valid (f : α → β) (value : α) : valid f <*> valid value = valid (f value) := rfl

@[simp] theorem inside_valid (step : Fault.Step) (value : α) : (valid value).inside step = valid value :=
  rfl

end Validated

namespace Check

variable {α : Type} {check : Check α}

@[simp] theorem anything_eq (value : Value) : anything value = .valid value := by
  simp only [anything]

@[simp] theorem text_text (s : String) : text (.text s) = .valid s := by simp only [text]

@[simp] theorem integer_int (n : Int) : integer (.int n) = .valid n := by simp only [integer]

@[simp] theorem boolean_bool (b : Bool) : boolean (.bool b) = .valid b := by simp only [boolean]

/-- A word that is listed passes with its meaning. -/
theorem choice_of_lookup {words : List (String × α)} {word : String} {meaning : α}
    (listed : words.lookup word = some meaning) : choice words (.text word) = .valid meaning := by
  simp only [choice, listed]

/-- Where null may stand, something that is not null passes as it does by itself. -/
theorem optional_eq_valid {value : Value} {passed : α} (telling : value ≠ .null) :
    Check.optional check value = .valid (some passed) ↔ check value = .valid passed := by
  -- The check looks at the value itself only behind the test for null.
  unfold Check.optional
  split
  · contradiction
  · cases check value <;> simp [Validated.map]

theorem optional_of_valid {value : Value} {passed : α} (telling : value ≠ .null)
    (passes : check value = .valid passed) : Check.optional check value = .valid (some passed) :=
  (optional_eq_valid telling).mpr passes

theorem itemsFrom_map {write : α → Value} {items : List α} (position : Nat) :
    itemsFrom check position (items.map write) = .valid items ↔
      ∀ item ∈ items, check (write item) = .valid item := by
  -- The position is told in faults only.
  induction items generalizing position with
  | nil => exact ⟨fun _ => nofun, fun _ => rfl⟩
  | cons item rest ih =>
    rw [List.map_cons, itemsFrom, Validated.seq_eq_valid, List.forall_mem_cons]
    constructor
    · rintro ⟨_, passed, mapped, others, same⟩
      obtain ⟨first, checked, rfl⟩ := Validated.map_eq_valid.mp mapped
      cases same
      exact ⟨Validated.inside_eq_valid.mp checked, (ih _).mp others⟩
    · rintro ⟨first, others⟩
      refine ⟨List.cons item, rest, ?_, (ih _).mpr others, rfl⟩
      exact Validated.map_eq_valid.mpr ⟨item, Validated.inside_eq_valid.mpr first, rfl⟩

/-- Items that are written one by one come back exactly if each does. -/
theorem list_map_eq_valid {write : α → Value} {items : List α} :
    Check.list check (.list (items.map write)) = .valid items ↔
      ∀ item ∈ items, check (write item) = .valid item :=
  itemsFrom_map 0

theorem list_map {write : α → Value} {items : List α}
    (passes : ∀ item ∈ items, check (write item) = .valid item) :
    Check.list check (.list (items.map write)) = .valid items :=
  list_map_eq_valid.mpr passes

/-- Items that stand as they are pass one by one. -/
theorem list_self {check : Check Value} {items : List Value}
    (passes : ∀ item ∈ items, check item = .valid item) :
    Check.list check (.list items) = .valid items := by
  simpa using @list_map _ _ id _ passes

theorem nonemptyList_map {write : α → Value} {items : List α} (some : items ≠ [])
    (passes : ∀ item ∈ items, check (write item) = .valid item) :
    Check.nonemptyList check (.list (items.map write)) = .valid items := by
  have filled : items.isEmpty = false := List.isEmpty_eq_false_iff.mpr some
  simp [Check.nonemptyList, list_map passes, Validated.andThen, filled]

/-- Members that are written one by one pass one by one, under the same keys. -/
theorem mapping_map {write : α → Value} {found : List (String × α)}
    (passes : ∀ entry ∈ found, check (write entry.2) = .valid entry.2) :
    Check.mapping check (.record (found.map fun (key, x) => (key, write x))) = .valid found := by
  show members check _ = _
  induction found with
  | nil => rfl
  | cons entry rest ih =>
    obtain ⟨first, others⟩ := List.forall_mem_cons.mp passes
    simp only [List.map_cons, members, first, ih others, Validated.inside_valid,
      Validated.map_valid, Validated.seq_valid]

/-- Any mapping passes where its values may be anything. -/
theorem mapping_anything (found : Members) : Check.mapping .anything (.record found) = .valid found := by
  simpa using @mapping_map _ Check.anything id found (fun _ _ => rfl)

end Check

namespace Payload

/-- The members that are present. -/
def given (entries : List (String × Option Value)) : Members :=
  entries.filterMap fun (name, value?) => value?.map (name, ·)

/-- Leaving members out keeps the names of the others in their order. -/
theorem sublist_given (entries : List (String × Option Value)) :
    ((given entries).map (·.1)).Sublist (entries.map (·.1)) := by
  induction entries with
  | nil => exact List.Sublist.slnil
  | cons entry rest ih =>
    obtain ⟨name, value?⟩ := entry
    cases value? with
    | none => exact ih.cons name
    | some value => exact ih.cons_cons name

@[simp] theorem get?_given_nil (key : String) : (given []).get? key = none := rfl

/-- A member is found under its name if it is present. -/
@[simp] theorem get?_given_cons (name key : String) (value? : Option Value)
    (entries : List (String × Option Value)) :
    (given ((name, value?) :: entries)).get? key =
      if key = name then value?.or ((given entries).get? key) else (given entries).get? key := by
  -- A member that is not present hides no later one of its name.
  cases value? with
  | none => simp [given]
  | some value =>
    by_cases same : key = name
    · simp [given, Members.get?, same]
    · have apart : (key == name) = false := beq_false_of_ne same
      simp [given, Members.get?, List.lookup_cons, apart, same]

/-- A wire form is written if all free-form data that goes into it has few enough levels. -/
theorem within_of_shallow {freeForm : List Value} {payload : Value}
    (shallow : ∀ value ∈ freeForm, value.levels < Platform.levelLimit) :
    within freeForm payload = .ok payload :=
  if_pos (List.all_eq_true.mpr fun value member => decide_eq_true (shallow value member))

/-- Data that JSON can say is present just as it is, unless it is null. -/
theorem present_eq {value : Value} (telling : value ≠ .null) (sayable : value.Sayable) :
    present value = some value := by
  unfold present
  split
  · contradiction
  · rw [Value.wire_eq sayable]

end Payload

namespace Field

variable {α : Type} {check : Check α}

/-- The outcome for a member, given what was found under the name it is looked for. -/
def settle (name : String) (check : Check α) (absent : Validated α) : Option Value → Validated α
  | some value => (check value).inside (.key name)
  | none => absent

/-- A member whose other name is not taken is what stands under its own. -/
theorem orElse_eq_settle {field : Field} {absent : Validated α} {members : Members}
    (others : ∀ other ∈ field.otherName, members.get? other = none) :
    field.orElse check absent members =
      settle field.name check absent (members.get? field.name) := by
  unfold orElse find? settle
  cases members.get? field.name with
  | some value => rfl
  | none =>
    cases other : field.otherName with
    | none => rfl
    | some name => simp [others name other]

@[simp] theorem settle_some (name : String) (absent : Validated α) (value : Value) :
    settle name check absent (some value) = (check value).inside (.key name) := rfl

/-- A member that may be missing comes back exactly if what was written does. -/
theorem settle_map_eq_valid {name : String} {write : α → Value} {found : Option α}
    (telling : ∀ x ∈ found, write x ≠ .null) :
    settle name (.optional check) (.valid none) (found.map write) = .valid found ↔
      ∀ x ∈ found, check (write x) = .valid x := by
  cases found with
  | none => exact ⟨fun _ => nofun, fun _ => rfl⟩
  | some x =>
    rw [Option.map_some, settle_some, Validated.inside_eq_valid,
      Check.optional_eq_valid (telling x rfl)]
    simp

theorem settle_map {name : String} {write : α → Value} {found : Option α}
    (telling : ∀ x ∈ found, write x ≠ .null) (passes : ∀ x ∈ found, check (write x) = .valid x) :
    settle name (.optional check) (.valid none) (found.map write) = .valid found :=
  (settle_map_eq_valid telling).mpr passes

end Field

end Issuance
