import Issuance.Chain
import Issuance.Proofs.Blocks

/-! Certificates that are written as text are read back, so that their keys can be checked. -/

namespace Issuance

namespace X509.Certificate

/-- The encoding of a certificate reads as that certificate. -/
def WellFormed (certificate : Certificate) : Prop := ofDer? certificate.der = some certificate

/-- What is read from an encoding is that encoding with the key in it. -/
theorem wellFormed_of_ofDer? {der : Bytes} {certificate : Certificate}
    (read : ofDer? der = some certificate) : certificate.WellFormed := by
  -- The key is all that is read, and it is read from the same encoding again.
  obtain ⟨key, parsed, rfl⟩ := Option.map_eq_some_iff.mp read
  exact Option.map_eq_some_iff.mpr ⟨key, parsed, rfl⟩

/-- Reading one by one succeeds with results exactly if these are what the readings give. -/
theorem mapM_eq_some_iff {α β : Type} {read : α → Option β} {items : List α} {results : List β} :
    items.mapM read = some results ↔ items.map read = results.map some := by
  induction items generalizing results with
  | nil => cases results <;> simp
  | cons item items ih =>
    -- All items have to be read, the first as well as the others.
    simp only [List.mapM_cons, Option.bind_eq_bind, Option.bind_eq_some_iff, Option.pure_def,
      Option.some.injEq, List.map_cons, ih]
    constructor
    · rintro ⟨first, here, others, there, rfl⟩
      rw [List.map_cons, here, there]
    · intro same
      obtain ⟨first, others, rfl, here, there⟩ := List.map_eq_cons_iff.mp same.symm
      exact ⟨first, here.symm, others, there.symm, rfl⟩

/-- The certificates in a text are what its blocks of certificates read as. -/
theorem allOfText?_eq_some_iff {text : Bytes} {certificates : List Certificate} :
    allOfText? text = some certificates ↔ ∃ blocks, Pem.blocks? text = some blocks ∧
      ((blocks.filter isBlock).map fun block => ofDer? block.contents) = certificates.map some := by
  simp only [allOfText?, Option.bind_eq_bind, Option.bind_eq_some_iff, mapM_eq_some_iff]

/-- All certificates in a text are well formed. -/
theorem wellFormed_of_allOfText? {text : Bytes} {certificates : List Certificate}
    (read : allOfText? text = some certificates) : ∀ c ∈ certificates, c.WellFormed := by
  intro certificate member
  -- Each of them has been read from some block.
  obtain ⟨blocks, _, all⟩ := allOfText?_eq_some_iff.mp read
  have among := List.mem_map_of_mem (f := some) member
  rw [← all] at among
  obtain ⟨block, _, parsed⟩ := List.mem_map.mp among
  exact wellFormed_of_ofDer? parsed

/-- The label that certificates are written with. -/
theorem plainLabel : Pem.PlainLabel "CERTIFICATE" := by decide +kernel

/-- A certificate as a block. -/
def block (certificate : Certificate) : Pem.Block := ⟨"CERTIFICATE", certificate.der⟩

/-- The text of a certificate is that of its block. -/
theorem encode_text (certificate : Certificate) :
    Utf8.encode certificate.text = certificate.block.bytes :=
  Pem.encode_text plainLabel

/-- The blocks of certificates are read back as they were. -/
theorem blocks?_texts (certificates : List Certificate) :
    Pem.blocks? (certificates.flatMap fun c => Utf8.encode c.text) =
      some (certificates.map block) := by
  have written : (certificates.flatMap fun c => Utf8.encode c.text) =
      (certificates.map block).flatMap Pem.Block.bytes := by
    simp only [encode_text, List.flatMap_map]
  rw [written]
  apply Pem.blocks?_flatMap_bytes
  -- All blocks have the one label.
  simp only [List.mem_map]
  rintro _ ⟨certificate, _, rfl⟩
  exact plainLabel

/-- A certificate that is written as text is read back. -/
theorem ofText?_text {certificate : Certificate} (wellFormed : certificate.WellFormed) :
    ofText? (Utf8.encode certificate.text) = some certificate := by
  -- A single certificate is a list of one, and its block is the first to be found.
  have read := blocks?_texts [certificate]
  rw [List.flatMap_singleton] at read
  unfold ofText?
  rw [read]
  exact wellFormed

/-- Certificates that are written one after another are read back in that order. -/
theorem allOfText?_texts {certificates : List Certificate}
    (wellFormed : ∀ c ∈ certificates, c.WellFormed) :
    allOfText? (certificates.flatMap fun c => Utf8.encode c.text) = some certificates := by
  -- No block is passed over, as all of them are labelled as certificates.
  have labelled : (certificates.map block).filter isBlock = certificates.map block := by
    rw [List.filter_eq_self]
    simp only [List.mem_map]
    rintro _ ⟨certificate, _, rfl⟩
    rfl
  refine allOfText?_eq_some_iff.mpr ⟨_, blocks?_texts certificates, ?_⟩
  -- Each block is read by itself.
  rw [labelled, List.map_map]
  exact List.map_congr_left wellFormed

end X509.Certificate

namespace PemCollection

/-- The certificates in a text make a collection, in which the first counts as the leaf. -/
theorem ofText?_eq_some {text : Bytes} {collection : PemCollection} :
    ofText? text = some collection ↔ ∃ first others,
      X509.Certificate.allOfText? text = some (first :: others) ∧
        collection = ⟨first.text, others.map X509.Certificate.text⟩ := by
  unfold ofText?
  -- Without a first certificate there is no leaf, and so no collection.
  rcases X509.Certificate.allOfText? text with _ | _ | ⟨first, others⟩
  · simp
  · simp [ofCertificates?]
  · constructor
    · rintro ⟨⟩
      exact ⟨first, others, rfl, rfl⟩
    · rintro ⟨_, _, ⟨⟩, rfl⟩
      rfl

end PemCollection

/-- A request's own signing request is for this key. -/
structure CertificateRequest.SignsFor (request : CertificateRequest) (csr : String)
    (key : X509.PublicKey) : Prop where
  holds : request.csr = some csr
  filled : csr ≠ ""
  reads : ∃ signing, X509.SigningRequest.ofText? (Utf8.encode csr) = some signing ∧
    signing.subjectKey.key? = some key

namespace Chain

variable {request : CertificateRequest} {csr : String} {key : X509.PublicKey}
  {certificate : X509.Certificate}

/-- A certificate is accepted if it carries the key that the request signs for. -/
theorem accepts?_text (signs : request.SignsFor csr key) (wellFormed : certificate.WellFormed) :
    request.accepts? certificate.text =
      certificate.subjectKey.key?.map fun carried => decide (key = carried) := by
  obtain ⟨signing, read, keyed⟩ := signs.reads
  have held : request.csr.filter (!·.isEmpty) = some csr := by
    rw [signs.holds]
    simp [signs.filled]
  unfold CertificateRequest.accepts?
  -- Both texts can be read, so that only the certificate's key is left to be.
  rw [held]
  simp only [read, X509.Certificate.ofText?_text wellFormed, keyed, Option.bind_eq_bind,
    Option.bind_some]
  cases certificate.subjectKey.key? <;> rfl

/-- With a signing request that tells of no key, no leaf passes. -/
theorem verifyLeaf_unsigned (holds : request.csr = some csr) (filled : csr ≠ "")
    (unsigned : ∀ key, ¬ request.SignsFor csr key) (collection : PemCollection) :
    verifyLeaf request collection = .error .unreadableCsr := by
  have held : request.csr.filter (!·.isEmpty) = some csr := by
    rw [holds]
    simp [filled]
  -- The signing request is read before the leaf, and its key is told before that of the leaf.
  have unknown : request.accepts? collection.certificate = none := by
    unfold CertificateRequest.accepts?
    rw [held]
    simp only [Option.bind_eq_bind, Option.bind_eq_none_iff]
    intro signing read _ _ key keyed
    exact absurd ⟨holds, filled, signing, read, keyed⟩ (unsigned key)
  unfold verifyLeaf
  rw [unknown]

/-- Whether a leaf passes is up to its key. -/
theorem verifyLeaf_text (signs : request.SignsFor csr key) (wellFormed : certificate.WellFormed)
    (chain : List String) :
    verifyLeaf request ⟨certificate.text, chain⟩ = match certificate.subjectKey.key? with
      | none => .error .unreadableCsr
      | some carried => if key = carried then .ok () else .error (.wrongKey request.pickupId) := by
  unfold verifyLeaf
  -- The three outcomes of the comparison are the three of the check.
  simp only [accepts?_text signs wellFormed]
  cases certificate.subjectKey.key? with
  | none => rfl
  | some carried => by_cases same : key = carried <;> simp [same]

/-- A leaf passes exactly if it carries a key that the request signs for. -/
theorem verifyLeaf_eq_ok (holds : request.csr = some csr) (filled : csr ≠ "")
    (wellFormed : certificate.WellFormed) (chain : List String) :
    verifyLeaf request ⟨certificate.text, chain⟩ = .ok () ↔
      ∃ key, request.SignsFor csr key ∧ certificate.subjectKey.key? = some key := by
  by_cases signed : ∃ key, request.SignsFor csr key
  · obtain ⟨key, signs⟩ := signed
    rw [verifyLeaf_text signs wellFormed]
    -- A text signs for one key only, so that it is this key that the leaf has to carry.
    have only : ∀ other, request.SignsFor csr other → other = key := by
      intro other otherSigns
      obtain ⟨_, read, keyed⟩ := signs.reads
      obtain ⟨_, readOther, keyedOther⟩ := otherSigns.reads
      rw [read, Option.some.injEq] at readOther
      rw [readOther, keyedOther, Option.some.injEq] at keyed
      exact keyed
    cases carried : certificate.subjectKey.key? with
    | none => simp
    | some found =>
      by_cases same : key = found
      · simp only [if_pos same, true_iff]
        exact ⟨key, signs, congrArg some same.symm⟩
      · simp only [if_neg same, reduceCtorEq, Option.some.injEq, false_iff]
        rintro ⟨other, otherSigns, rfl⟩
        exact same (only _ otherSigns).symm
  · rw [verifyLeaf_unsigned holds filled (not_exists.mp signed)]
    simp only [reduceCtorEq, false_iff]
    rintro ⟨key, signs, _⟩
    exact signed ⟨key, signs⟩

end Chain

end Issuance
