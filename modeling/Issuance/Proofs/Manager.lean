import Issuance.Lifecycle.Manager
import Issuance.Proofs.Dialogue

/-! What all operations start with: the session they act in. -/

namespace Issuance

namespace Manager

/-- Only a session with a company counts as authenticated. -/
theorem authenticated_eq_ok {session : Option Session} {action : String} {found : Session} :
    authenticated session action = .ok found ↔
      session = some found ∧ found.account.company.isSome := by
  unfold authenticated
  -- The two tests are made in turn, and a session passes both or is refused.
  cases session with
  | none => simp
  | some given =>
    by_cases company : given.account.company.isSome
    · simp only [company, if_true, Except.ok.injEq, Option.some.injEq]
      constructor
      · rintro rfl
        exact ⟨rfl, company⟩
      · exact And.left
    · simp only [company, Bool.false_eq_true, if_false, reduceCtorEq, Option.some.injEq, false_iff]
      rintro ⟨rfl, other⟩
      exact company other

/-- An operation in a session with a company goes on with it, and nothing has been said by then. -/
theorem hold_authenticated {session : Session} (company : session.account.company.isSome)
    (action : String) (dialogue : Dialogue) :
    (Run.ofOutcome (authenticated (some session) action)).hold dialogue =
      (.ok session, dialogue) := by
  rw [authenticated_eq_ok.mpr ⟨rfl, company⟩]
  rfl

end Manager

end Issuance
