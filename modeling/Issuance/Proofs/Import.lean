import Issuance.Lifecycle.Import
import Issuance.Proofs.Client

/-! The upload of a certificate is one call, after which a silent service counts as unavailable. -/

namespace Issuance

namespace Manager

/-- What an upload learns: a service that does not answer is not to be had for the time being. -/
def uploadLearned : Except Stop Response → Except Stop Response
  | .error (.failed (.connection note)) => .error (.failed (.unavailable note.details {}))
  | learned => learned

/-- An upload is one call, whatever becomes of it. -/
theorem hold_upload (session : Session) (wanted : Upload) (dialogue : Dialogue) :
    (upload session wanted).hold dialogue =
      (uploadLearned (dialogue.learns .ok), dialogue.called (.upload session wanted)) := by
  unfold upload
  rw [Run.hold_tryCatch, Client.hold_upload]
  -- Only the failures of the transport are told in another way.
  rcases dialogue.learns .ok with stop | response
  · rcases stop with failure | _ | _ | _ | _
    · cases failure <;> rfl
    · rfl
    · rfl
    · rfl
    · rfl
  · rfl

end Manager

end Issuance
