import Issuance.Proofs.Retrieval

/-! A chain is made of exactly the certificates in a text, and its blocks make the same chain again. -/

namespace Issuance

/-- The bytes of texts that are joined are those of the texts, one after another. -/
theorem Utf8.encode_join (texts : List String) :
    encode (String.join texts) = texts.flatMap encode := by
  unfold encode
  rw [String.toList_join, List.flatMap_assoc]

namespace X509.Certificate

/-- The bytes of a certificate are those that it is read from. -/
theorem der_of_ofDer? {der : Bytes} {certificate : Certificate}
    (read : ofDer? der = some certificate) : certificate.der = der := by
  obtain ⟨key, _, rfl⟩ := Option.map_eq_some_iff.mp read
  rfl

/-- A block of a certificate as it is written, whichever of the labels it has had. -/
def rewritten (block : Pem.Block) : String := Pem.Block.text ⟨"CERTIFICATE", block.contents⟩

/-- Certificates are written as the blocks that they have been read from. -/
theorem texts_eq_rewritten {blocks : List Pem.Block} {certificates : List Certificate}
    (read : (blocks.map fun block => ofDer? block.contents) = certificates.map some) :
    certificates.map text = blocks.map rewritten := by
  induction blocks generalizing certificates with
  | nil =>
    rw [List.map_eq_nil_iff.mp read.symm]
    rfl
  | cons block blocks ih =>
    -- The first certificate has the bytes of the first block, and the others those of the others.
    obtain ⟨first, others, rfl, here, there⟩ := List.map_eq_cons_iff.mp read.symm
    rw [List.map_cons, List.map_cons, ih there.symm, text, rewritten, der_of_ofDer? here.symm]

/-- Blocks each of which reads as a certificate read as certificates. -/
theorem exists_of_readable {blocks : List Pem.Block}
    (readable : ∀ block ∈ blocks, ∃ certificate, ofDer? block.contents = some certificate) :
    ∃ certificates : List Certificate,
      (blocks.map fun block => ofDer? block.contents) = certificates.map some := by
  induction blocks with
  | nil => exact ⟨[], rfl⟩
  | cons block blocks ih =>
    obtain ⟨first, here⟩ := readable block List.mem_cons_self
    obtain ⟨others, there⟩ := ih fun other member => readable other (List.mem_cons_of_mem _ member)
    exact ⟨first :: others, by rw [List.map_cons, here, there, List.map_cons]⟩

end X509.Certificate

namespace PemCollection

open X509 (Certificate)

/--
A collection has the certificates of a text: each block of a certificate that the text holds.

They are in the order of the text, and each is written anew.
-/
structure Collects (collection : PemCollection) (text : Bytes) (blocks : List Pem.Block) : Prop where
  holds : Pem.Holds text blocks
  readable : ∀ block ∈ blocks, Certificate.isBlock block →
    ∃ certificate, Certificate.ofDer? block.contents = some certificate
  written : collection.blocks = (blocks.filter Certificate.isBlock).map Certificate.rewritten

/-- What is made of a text is the collection of its certificates. -/
theorem ofText?_eq_some_iff {text : Bytes} {collection : PemCollection} :
    ofText? text = some collection ↔ ∃ blocks, collection.Collects text blocks := by
  rw [ofText?_eq_some]
  simp only [Certificate.allOfText?_eq_some_iff]
  constructor
  · rintro ⟨first, others, ⟨blocks, held, read⟩, rfl⟩
    refine ⟨blocks, Pem.blocks?_eq_some_iff.mp held, fun block member labelled => ?_,
      Certificate.texts_eq_rewritten read⟩
    -- What a block reads as is among what all of them read as.
    have among := List.mem_map_of_mem (f := fun block => Certificate.ofDer? block.contents)
      (List.mem_filter.mpr ⟨member, labelled⟩)
    rw [read] at among
    obtain ⟨certificate, _, same⟩ := List.mem_map.mp among
    exact ⟨certificate, same.symm⟩
  · rintro ⟨blocks, holds, readable, written⟩
    -- The certificates are those that the blocks read as.
    obtain ⟨certificates, read⟩ := Certificate.exists_of_readable fun block member =>
      readable block (List.mem_filter.mp member).1 (List.mem_filter.mp member).2
    -- There is a first one, as there is a leaf.
    rw [← Certificate.texts_eq_rewritten read] at written
    obtain ⟨first, others, rfl, leaf, chain⟩ := List.map_eq_cons_iff.mp written.symm
    refine ⟨first, others, ⟨blocks, Pem.blocks?_eq_some_iff.mpr holds, read⟩, ?_⟩
    rw [leaf, chain]

/-- The blocks of a collection, one after another, make that collection again. -/
theorem ofText?_join {text : Bytes} {collection : PemCollection}
    (made : ofText? text = some collection) :
    ofText? (Utf8.encode (String.join collection.blocks)) = some collection := by
  obtain ⟨first, others, read, rfl⟩ := ofText?_eq_some.mp made
  have written : (PemCollection.mk first.text (others.map Certificate.text)).blocks =
      (first :: others).map Certificate.text := rfl
  refine ofText?_eq_some.mpr ⟨first, others, ?_, rfl⟩
  -- All of them have been read, so that each reads as itself.
  rw [written, Utf8.encode_join, List.flatMap_map]
  exact Certificate.allOfText?_texts (Certificate.wellFormed_of_allOfText? read)

end PemCollection

namespace Chain

/-- Assembling a text ends well exactly if the text makes a collection, and then with that one. -/
theorem hold_assemble_eq_ok {body : Bytes} {option : ChainOption} {dialogue : Dialogue}
    {collection : PemCollection} :
    ((assemble body option).hold dialogue).1 = .ok collection ↔
      PemCollection.ofText? body = some collection := by
  obtain ⟨log, held⟩ := Manager.hold_assemble body option dialogue
  rw [held, Outcome.mapError_eq_ok]
  unfold Manager.collected
  cases PemCollection.ofText? body <;> simp

/--
Assembling is a projection.

What comes of a text is the collection of its certificates, and there is at least one of them.
The blocks of that, one after another, come to the same collection, whatever order is asked for.
-/
theorem assemble_projects (body : Bytes) (option : ChainOption) (dialogue : Dialogue) :
    let assembled := ((assemble body option).hold dialogue).1
    (∀ collection, assembled = .ok collection ↔ ∃ blocks, collection.Collects body blocks) ∧
    ∀ collection, assembled = .ok collection → 1 ≤ collection.blocks.length ∧
      ∀ again later, ((assemble (Utf8.encode (String.join collection.blocks)) again).hold later).1 =
        .ok collection := by
  intro assembled
  -- Neither the option nor the dialogue has a part in what is made of the text.
  refine ⟨fun collection => ?_, fun collection ended => ⟨?_, fun again later => ?_⟩⟩
  · exact hold_assemble_eq_ok.trans PemCollection.ofText?_eq_some_iff
  · exact Nat.succ_pos collection.chain.length
  · exact hold_assemble_eq_ok.mpr (PemCollection.ofText?_join (hold_assemble_eq_ok.mp ended))

/-- The key of a certificate, as a block of its own. -/
def keyBlock (byte : UInt8) : Pem.Block := ⟨"PUBLIC KEY", (Manager.bareKey byte).encoding⟩

/-- A certificate under the label that certificates once had. -/
def formerBlock (certificate : X509.Certificate) : Pem.Block := ⟨"X509 CERTIFICATE", certificate.der⟩

/-- Two certificates with a key between them, amid text that holds no block. -/
def surrounded : Bytes :=
  Pem.ascii "The leaf, and its key:\n" ++ ((Manager.bareCertificate 7).block.bytes ++
    (Pem.ascii "\n" ++ ((keyBlock 7).bytes ++ (Pem.ascii "--- issued by ---\r\n" ++
      ((formerBlock (Manager.bareCertificate 9)).bytes ++
        Pem.ascii "-----BEGIN CERTIFICATE-----\nthat does not end")))))

/-- The two certificates and the key are all that this text holds. -/
theorem holds_surrounded : Pem.Holds surrounded [(Manager.bareCertificate 7).block, keyBlock 7,
    formerBlock (Manager.bareCertificate 9)] := by
  have opening : Pem.beginMark ≠ [] := by decide
  -- Text has no mark in it if a mark behind it is the first to be found.
  have unmarked {gap : Bytes}
      (cut : Pem.cut? Pem.beginMark (gap ++ (Pem.beginMark ++ [])) = some (gap, [])) :
      Pem.Unmarked Pem.beginMark gap := ((Pem.cut?_eq_some_iff opening).mp cut).2
  have missing : Pem.frame? (Pem.ascii "-----BEGIN CERTIFICATE-----\nthat does not end") = none := by
    decide +kernel
  refine .behind X509.Certificate.plainLabel (unmarked (by decide +kernel)) <|
    .behind (by decide +kernel) (unmarked (by decide +kernel)) <|
    .behind (by decide +kernel) (unmarked (by decide +kernel)) <| .none fun frame rest foremost => ?_
  rw [Pem.frame?_eq_some_iff.mpr foremost] at missing
  cases missing

/-- Of the text that surrounds two certificates nothing is left when their chain is assembled. -/
theorem assemble_projects_surrounded :
    let collection : PemCollection :=
      ⟨(Manager.bareCertificate 7).text, [(Manager.bareCertificate 9).text]⟩
    ((assemble surrounded .rootLast).hold {}).1 = .ok collection ∧
      ((assemble (Utf8.encode (String.join collection.blocks)) .rootFirst).hold {}).1 =
        .ok collection := by
  intro collection
  have collects : collection.Collects surrounded [(Manager.bareCertificate 7).block, keyBlock 7,
      formerBlock (Manager.bareCertificate 9)] := by
    refine ⟨holds_surrounded, fun block member labelled => ?_, by decide +kernel⟩
    have leaf := Manager.wellFormed_bareCertificate (Manager.bareCertificate 7) (by simp)
    have issuer := Manager.wellFormed_bareCertificate (Manager.bareCertificate 9) (by simp)
    simp only [List.mem_cons, List.not_mem_nil, or_false] at member
    rcases member with rfl | rfl | rfl
    · exact ⟨_, leaf⟩
    -- The key is no block of a certificate.
    · exact absurd labelled (by decide)
    · exact ⟨_, issuer⟩
  obtain ⟨comes, again⟩ := assemble_projects surrounded .rootLast {}
  have assembled := (comes collection).mpr ⟨_, collects⟩
  exact ⟨assembled, (again collection assembled).2 .rootFirst {}⟩

end Chain

end Issuance
