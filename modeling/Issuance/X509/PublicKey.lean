import Issuance.X509.Curve

/-! Public keys as certificates and signing requests carry them; two are equal if they are the same key. -/

namespace Issuance.X509

/-- A public key. -/
inductive PublicKey where
  | point (curve : Curve) (point : Point)
  | rsa (modulus exponent : Nat)
  | ed25519 (key : Bytes)
  /-- A key of another kind, known by its encoding. -/
  | other (encoding : Bytes)
  deriving DecidableEq, Repr

/-- The parameters of an algorithm. -/
inductive Parameters where
  | absent
  | null
  | curve (id : Bytes)
  | other
  deriving DecidableEq, Repr

/-- An algorithm and its parameters. -/
structure Algorithm where
  id : Bytes
  parameters : Parameters
  deriving DecidableEq, Repr

/-- A public key as it is encoded: the key itself, its algorithm, and all of it in bytes. -/
structure EncodedKey where
  algorithm : Algorithm
  key : Bytes
  encoding : Bytes
  deriving DecidableEq, Repr

namespace Algorithm

/-- Keys on curves. -/
def curveKey : Bytes := Der.objectIdOf [1, 2, 840, 10045, 2, 1]

/-- RSA keys. -/
def rsaKey : Bytes := Der.objectIdOf [1, 2, 840, 113549, 1, 1, 1]

/-- Ed25519, for keys and for signatures. -/
def ed25519 : Bytes := Der.objectIdOf [1, 3, 101, 112]

/-- Algorithms that have no parameters. -/
def withoutParameters : List Bytes :=
  [110, 111, 112, 113].map fun last => Der.objectIdOf [1, 3, 101, last]

/-- Algorithms with null for their parameters, or none. -/
def withNull : List Bytes :=
  rsaKey :: Der.objectIdOf [1, 2, 840, 10045, 4, 1] ::
    [1, 2, 3, 4].map (fun last => Der.objectIdOf [1, 2, 840, 10045, 4, 3, last]) ++
    [5, 11, 12, 13, 14].map (fun last => Der.objectIdOf [1, 2, 840, 113549, 1, 1, last])

/-- The parameters that go with an algorithm. -/
def parametersOf (id : Bytes) : Der.Reader Parameters := do
  if withoutParameters.contains id then return .absent
  else if id = curveKey then
    if ← Der.next .objectId then .curve <$> Der.objectId
    else if ← Der.next .null then (fun _ => .null) <$> Der.null
    else (fun _ => .other) <$> Der.expect .sequence
  else if withNull.contains id then
    return ((← Der.ifNext .null Der.null).map fun _ => .null).getD .absent
  else if (← get).isEmpty then return .absent
  else (fun _ => .other) <$> Der.element

/-- An algorithm. -/
def reader : Der.Reader Algorithm := Der.inside .sequence do
  let id ← Der.objectId
  return ⟨id, ← parametersOf id⟩

end Algorithm

namespace EncodedKey

/-- A public key with its algorithm. -/
def reader : Der.Reader EncodedKey := do
  let (encoding, algorithm, key) ← Der.withSource (Der.inside .sequence do
    return (← Algorithm.reader, ← Der.bitString))
  return ⟨algorithm, key, encoding⟩

/-- The modulus and exponent of an RSA key. -/
def rsaNumbers : Der.Reader (Nat × Nat) := Der.inside .sequence do
  return (← Der.natural, ← Der.natural)

/-- The key that is encoded; none if its bytes are no such key. -/
def key? (encoded : EncodedKey) : Option PublicKey :=
  if encoded.algorithm.id = Algorithm.curveKey then
    match encoded.algorithm.parameters with
    | .curve id =>
      match Curve.ofObjectId? id with
      | some curve => (curve.point? encoded.key).map (.point curve)
      -- A curve that is not known is still a key; it is told by its encoding.
      | none => some (.other encoded.encoding)
    | _ => none
  else if encoded.algorithm.id = Algorithm.rsaKey then
    (Der.whole rsaNumbers encoded.key).map fun (modulus, exponent) => .rsa modulus exponent
  else if encoded.algorithm.id = Algorithm.ed25519 then
    if encoded.key.length = 32 then some (.ed25519 encoded.key) else none
  else some (.other encoded.encoding)

end EncodedKey

end Issuance.X509
