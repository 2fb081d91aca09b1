import Mathlib.Data.List.Forall2
import Issuance.Proofs.Client
import Issuance.Proofs.PathSegment

/-! The path of a lookup follows a template, and its identifiers are read back from its segments. -/

namespace Issuance

/-- One segment of a template: a word of the endpoint, or an identifier in its place. -/
inductive Segment where
  | word (text : String)
  | identifier (text : String)
  deriving DecidableEq, Repr

namespace Segment

/-- The text of a segment in a path. -/
def written : Segment → String
  | word text => text
  | identifier text => PathSegment.encode text

/-- What a text says in place of a segment: the word itself, or an identifier that is escaped. -/
def Says (said : String) : Segment → Prop
  | word text => said = text
  | identifier text => PathSegment.Escaped said.toList ∧ PathSegment.decode? said = some text

theorem says_written (segment : Segment) : segment.Says segment.written := by
  cases segment with
  | word text => rfl
  | identifier text => exact ⟨PathSegment.escaped_encode text, PathSegment.decode?_encode text⟩

end Segment

/-- The segments of a path: what stands between its slashes. -/
def Endpoint.segments (path : String) : List String := (path.toList.splitOn '/').map String.ofList

/-- Parts without a slash are the segments of the path that they are joined to. -/
theorem Endpoint.segments_of_intercalate {path : String} {parts : List String}
    (joined : path.toList = ['/'].intercalate (parts.map String.toList))
    (bare : ∀ part ∈ parts, '/' ∉ part.toList) (filled : parts ≠ []) : segments path = parts := by
  -- Splitting undoes joining, as long as no part is split itself.
  have split : path.toList.splitOn '/' = parts.map String.toList := by
    rw [joined]
    exact List.splitOn_intercalate '/' (by simpa using bare) (by simpa using filled)
  have kept : String.ofList ∘ String.toList = id := funext fun _ => String.ofList_toList
  rw [segments, split, List.map_map, kept, List.map_id]

/-- A lookup of the client, with the identifiers that go into its path. -/
inductive Lookup where
  | status (requestId : String)
  | certificate (certificateId : String)
  | contents (certificateId : String)
  | application (name : String)
  | issuingTemplate (application templateAlias : String)
  deriving DecidableEq, Repr

namespace Lookup

/-- The path that a lookup reads from. -/
def path : Lookup → String
  | status requestId => Endpoint.certificateRequest requestId
  | certificate certificateId => Endpoint.certificate certificateId
  | contents certificateId => Endpoint.certificateContents certificateId
  | application name => Endpoint.applicationByName name
  | issuingTemplate name templateAlias => Endpoint.issuingTemplate name templateAlias

/-- The template of a lookup's endpoint, with the identifiers in their places. -/
def template : Lookup → List Segment
  | status requestId =>
    [.word "outagedetection", .word "v1", .word "certificaterequests", .identifier requestId]
  | certificate certificateId =>
    [.word "outagedetection", .word "v1", .word "certificates", .identifier certificateId]
  | contents certificateId =>
    [.word "outagedetection", .word "v1", .word "certificates", .identifier certificateId,
      .word "contents"]
  | application name =>
    [.word "outagedetection", .word "v1", .word "applications", .word "name", .identifier name]
  | issuingTemplate name templateAlias =>
    [.word "outagedetection", .word "v1", .word "applications", .identifier name,
      .word "certificateissuingtemplates", .identifier templateAlias]

/-- The dialogue behind a lookup; only contents may be asked for in an order. -/
def made (session : Session) (order : Option ChainOrder) (dialogue : Dialogue) : Lookup → Dialogue
  | status requestId => ((Client.status session requestId).hold dialogue).2
  | certificate certificateId => ((Client.certificate session certificateId).hold dialogue).2
  | contents certificateId => ((Client.contents session certificateId order).hold dialogue).2
  | application name => ((Client.application session name).hold dialogue).2
  | issuingTemplate name templateAlias =>
    ((Client.issuingTemplate session name templateAlias).hold dialogue).2

/-- A lookup is one call, which reads from its path. -/
theorem made_sent (lookup : Lookup) (session : Session) (order : Option ChainOrder)
    (dialogue : Dialogue) : ∃ call, call.path = lookup.path ∧
      (lookup.made session order dialogue).sent = dialogue.sent ++ [call] := by
  -- Whatever is read from the response, the dialogue behind it is the one behind the call.
  have single {α : Type} {held : Except Stop α × Dialogue} {outcome : Except Stop α} {call : Call}
      (eq : held = (outcome, dialogue.called call)) : held.2.sent = dialogue.sent ++ [call] := by
    rw [eq, Dialogue.called_sent]
  cases lookup with
  | status requestId => exact ⟨_, rfl, single (Client.hold_status session dialogue requestId)⟩
  | certificate certificateId =>
    exact ⟨_, rfl, single (Client.hold_certificate session dialogue certificateId)⟩
  | contents certificateId =>
    exact ⟨.reading session (Endpoint.certificateContents certificateId)
      (order.map Client.chainParameters), rfl, single (Client.hold_send _ dialogue)⟩
  | application name => exact ⟨_, rfl, single (Client.hold_application session dialogue name)⟩
  | issuingTemplate name templateAlias =>
    exact ⟨_, rfl, single (Client.hold_issuingTemplate session dialogue name templateAlias)⟩

/-- A path is the segments of its template with a slash between them. -/
theorem toList_path (lookup : Lookup) : lookup.path.toList =
    ['/'].intercalate ((lookup.template.map Segment.written).map String.toList) := by
  -- Every endpoint is words of its own and the same few joints.
  cases lookup <;> simp [path, template, Segment.written, Endpoint.certificateRequest,
    Endpoint.certificateRequests, Endpoint.certificateContents, Endpoint.certificate,
    Endpoint.certificates, Endpoint.applicationByName, Endpoint.issuingTemplate, Endpoint.base]

/-- No segment of a template has a slash: no word holds one, and in an identifier it is escaped. -/
theorem not_mem_slash (lookup : Lookup) :
    ∀ segment ∈ lookup.template, '/' ∉ segment.written.toList := by
  have escaped (text : String) : '/' ∉ (PathSegment.encode text).toList :=
    (PathSegment.escaped_encode text).not_mem_slash
  cases lookup <;> simp [template, Segment.written, escaped]

/-- A path is split into the segments of its template. -/
theorem segments_path (lookup : Lookup) :
    Endpoint.segments lookup.path = lookup.template.map Segment.written := by
  refine Endpoint.segments_of_intercalate lookup.toList_path ?_ ?_
  · exact List.forall_mem_map.mpr lookup.not_mem_slash
  · cases lookup <;> exact List.cons_ne_nil _ _

example : (Lookup.contents "a/b ü").path =
    "outagedetection/v1/certificates/a%2Fb%20%C3%BC/contents" := by decide

/-- Lookups that read from one path are of one endpoint, with the same identifiers. -/
theorem path_injective {first second : Lookup} (same : first.path = second.path) :
    first = second := by
  have parts : first.template.map Segment.written = second.template.map Segment.written := by
    rw [← segments_path, same, segments_path]
  -- The templates differ in their lengths or in their words.
  cases first <;> cases second <;>
    simp [template, Segment.written, PathSegment.encode_inj] at parts ⊢ <;> assumption

/--
A lookup sends one call, to a path that spells its identifiers.

The path has the segments of its template, and an identifier is read back from its own.
No other lookup has the same path.
-/
theorem made_spells_identifiers (lookup : Lookup) (session : Session) (order : Option ChainOrder)
    (dialogue : Dialogue) : ∃ call, call.path = lookup.path ∧
      (lookup.made session order dialogue).sent = dialogue.sent ++ [call] ∧
      List.Forall₂ (fun segment said => segment.Says said) lookup.template
        (Endpoint.segments call.path) ∧
      ∀ other : Lookup, other.path = call.path → other = lookup := by
  obtain ⟨call, path, sent⟩ := lookup.made_sent session order dialogue
  refine ⟨call, path, sent, ?_, fun other same => path_injective (same.trans path)⟩
  -- Segment by segment, what is written says what the template has in its place.
  rw [path, segments_path, List.forall₂_map_right_iff]
  exact List.forall₂_same.mpr fun segment _ => segment.says_written

end Lookup

end Issuance
