import MinaMultiSig.Tx.ROInputFormat

/-!
# The bytes of messages for the challenge

`PallasMessage::serialize` and `PallasMessage::deserialize` of
`mina-tx/src/pallas_message.rs` against the format they share: a version, the
network, the hashing mode, the length of the random oracle input and its bytes.
The reader accepts exactly the encodings, and no encoding is a proper beginning
of another one.
-/

namespace MinaMultiSig
namespace Tx

/-- The name of a custom network has at most 20 bytes. -/
def NetworkId.NameFits : NetworkId → Prop
  | .custom name => name.utf8ByteSize ≤ maxPrefixLength
  | _ => True

namespace PallasMessage

/-- The bytes of a network. -/
def networkBytes : NetworkId → List UInt8
  | .testnet => [0]
  | .mainnet => [1]
  | .custom name => 2 :: UInt8.ofNat name.utf8ByteSize :: asBytes name

/-- One byte for the kind of the transaction. -/
def legacyByte (isLegacy : Bool) : UInt8 :=
  if isLegacy then 1 else 0

/-- The encoding of a message with the bytes of its input. -/
def encoding (message : PallasMessage) (roiBytes : List UInt8) : List UInt8 :=
  pallasMessageVersion :: (networkBytes message.networkId ++
    legacyByte message.isLegacy :: (leBytes 4 roiBytes.length ++ roiBytes))

section Writing

theorem serializeNetworkId_of_fits
    {network : NetworkId}
    (fits : network.NameFits) :
    serializeNetworkId network = .ok (networkBytes network) := by
  cases network with
  | testnet => rfl
  | mainnet => rfl
  | custom name =>
      unfold serializeNetworkId
      exact if_neg (Nat.not_lt.mpr fits)

theorem serializeNetworkId_of_not_fits
    {network : NetworkId}
    (tooLong : ¬network.NameFits)
    (bytes : List UInt8) :
    serializeNetworkId network ≠ .ok bytes := by
  cases network with
  | testnet => exact absurd trivial tooLong
  | mainnet => exact absurd trivial tooLong
  | custom name =>
      have long : name.utf8ByteSize > maxPrefixLength := Nat.not_le.mp tooLong
      simp [serializeNetworkId, if_pos long]

/-- A message is written as its encoding if the name of its network fits. -/
theorem serialize_eq_ok_iff
    (codec : ROInputCodec)
    (message : PallasMessage)
    (bytes : List UInt8) :
    serialize codec message = .ok bytes ↔
      message.networkId.NameFits ∧
        bytes = message.encoding (codec.serialize message.input) := by
  by_cases fits : message.networkId.NameFits
  · have written : serialize codec message =
        .ok (message.encoding (codec.serialize message.input)) := by
      unfold serialize encoding
      rw [serializeNetworkId_of_fits fits]
      simp only [bind, Except.bind, pure, Except.pure, legacyByte,
        List.cons_append, List.append_assoc, List.nil_append]
    rw [written]
    constructor
    · intro same
      exact ⟨fits, (Except.ok.inj same).symm⟩
    · intro same
      rw [same.2]
  · constructor
    · intro succeeds
      unfold serialize at succeeds
      cases written : serializeNetworkId message.networkId with
      | ok networkBytes =>
          exact absurd written (serializeNetworkId_of_not_fits fits _)
      | error reason =>
          rw [written] at succeeds
          exact absurd succeeds (by simp [bind, Except.bind])
    · intro succeeds
      exact absurd succeeds.1 fits

end Writing

section Reading

/-- The network is read from the bytes behind the version. -/
theorem deserializeNetworkId_networkBytes
    {network : NetworkId}
    (fits : network.NameFits)
    (version : UInt8)
    (rest : List UInt8) :
    deserializeNetworkId (version :: (networkBytes network ++ rest)) =
      .ok (network, 1 + (networkBytes network).length) := by
  cases network with
  | testnet => rfl
  | mainnet => rfl
  | custom name =>
      have short : name.utf8ByteSize ≤ 20 := fits
      have length : (UInt8.ofNat name.utf8ByteSize).toNat =
          name.utf8ByteSize := by
        rw [UInt8.toNat_ofNat']
        omega
      have bytes : ((version :: (networkBytes (.custom name) ++ rest)).drop
          3).take name.utf8ByteSize = asBytes name := by
        unfold networkBytes
        simp only [List.cons_append, List.drop_succ_cons, List.drop_zero]
        rw [← length_asBytes, List.take_left]
      have enough : ¬(version :: (networkBytes (.custom name) ++ rest)).length <
          3 + name.utf8ByteSize := by
        simp only [networkBytes, List.length_cons, List.length_append,
          length_asBytes]
        omega
      have notLong : ¬name.utf8ByteSize > maxPrefixLength := by
        unfold maxPrefixLength
        omega
      unfold deserializeNetworkId
      apply Outcome.bind_eq_ok.mpr
      refine ⟨2, rfl, Outcome.bind_eq_ok.mpr ⟨_, rfl, ?_⟩⟩
      simp only [length, if_neg notLong, if_neg enough, bytes,
        fromUtf8_asBytes]
      simp only [networkBytes, List.length_cons, length_asBytes, pure,
        Except.pure, Except.ok.injEq, Prod.mk.injEq, true_and]
      omega

/-- A network that is read stands behind the version. -/
theorem networkBytes_of_deserializeNetworkId
    {input : List UInt8}
    {network : NetworkId}
    {offset : Nat}
    (read : deserializeNetworkId input = .ok (network, offset)) :
    network.NameFits ∧ offset = 1 + (networkBytes network).length ∧
      ∃ version rest, input = version :: (networkBytes network ++ rest) := by
  unfold deserializeNetworkId at read
  obtain ⟨tag, isTag, read⟩ := Outcome.bind_eq_ok.mp read
  cases input with
  | nil => exact absurd isTag (by simp [byteAt, Outcome.ofOption])
  | cons version input =>
  cases input with
  | nil => exact absurd isTag (by simp [byteAt, Outcome.ofOption])
  | cons tagByte input =>
  have sameTag : tagByte = tag := by
    simpa [byteAt, Outcome.ofOption] using isTag
  subst sameTag
  split at read
  · cases read
    exact ⟨trivial, rfl, version, input, rfl⟩
  · cases read
    exact ⟨trivial, rfl, version, input, rfl⟩
  · obtain ⟨length, isLength, read⟩ := Outcome.bind_eq_ok.mp read
    cases input with
    | nil => exact absurd isLength (by simp [byteAt, Outcome.ofOption])
    | cons lengthByte input =>
    have sameLength : lengthByte = length := by
      simpa [byteAt, Outcome.ofOption] using isLength
    subst sameLength
    dsimp only at read
    split at read
    · exact absurd read (Outcome.throw_bind_ne_ok _ _ _)
    next notLong =>
    split at read
    · exact absurd read (Outcome.throw_bind_ne_ok _ _ _)
    next enough =>
    split at read
    next name isName =>
      cases read
      have isBytes := asBytes_of_fromUtf8 isName
      simp only [List.drop_succ_cons, List.drop_zero] at isBytes
      have size : name.utf8ByteSize = lengthByte.toNat := by
        rw [← length_asBytes, isBytes, List.length_take]
        simp only [List.length_cons] at enough
        omega
      refine ⟨?_, ?_, version, input.drop lengthByte.toNat, ?_⟩
      · unfold NetworkId.NameFits
        omega
      · simp only [networkBytes, List.length_cons, length_asBytes]
        omega
      · simp only [networkBytes, isBytes, size, UInt8.ofNat_toNat,
          List.cons_append, List.take_append_drop]
    next => exact absurd read (Outcome.throw_ne_ok _ _)
  · exact absurd read (Outcome.throw_ne_ok _ _)

theorem deserializeIsLegacy_legacyByte
    {input : List UInt8}
    {offset : Nat}
    {isLegacy : Bool}
    (isByte : input[offset]? = some (legacyByte isLegacy)) :
    deserializeIsLegacy input offset = .ok isLegacy := by
  unfold deserializeIsLegacy byteAt
  rw [isByte]
  cases isLegacy with
  | false => rfl
  | true => rfl

theorem legacyByte_of_deserializeIsLegacy
    {input : List UInt8}
    {offset : Nat}
    {isLegacy : Bool}
    (read : deserializeIsLegacy input offset = .ok isLegacy) :
    input[offset]? = some (legacyByte isLegacy) := by
  unfold deserializeIsLegacy at read
  obtain ⟨byte, isByte, read⟩ := Outcome.bind_eq_ok.mp read
  rw [Outcome.ofOption_eq_ok.mp isByte]
  split at read
  · cases read
    rfl
  · cases read
    rfl
  · exact absurd read (Outcome.throw_ne_ok _ _)

variable {codec : ROInputCodec}

/-- An encoding is read as its message. -/
theorem deserialize_encoding
    {message : PallasMessage}
    {roiBytes : List UInt8}
    (fits : message.networkId.NameFits)
    (short : roiBytes.length < 2 ^ 32)
    (isInput : codec.deserialize roiBytes = some message.input) :
    deserialize codec (message.encoding roiBytes) = .ok message := by
  have networkRead := deserializeNetworkId_networkBytes fits
    pallasMessageVersion (legacyByte message.isLegacy ::
      (leBytes 4 roiBytes.length ++ roiBytes))
  have legacyRead : deserializeIsLegacy (message.encoding roiBytes)
      (1 + (networkBytes message.networkId).length) =
        .ok message.isLegacy := by
    apply deserializeIsLegacy_legacyByte
    unfold encoding
    rw [Nat.add_comm, List.getElem?_cons_succ,
      List.getElem?_append_right (Nat.le_refl _), Nat.sub_self]
    rfl
  have length : (message.encoding roiBytes).length =
      1 + (networkBytes message.networkId).length + 5 + roiBytes.length := by
    simp only [encoding, List.length_cons, List.length_append, length_leBytes]
    omega
  have behind : (message.encoding roiBytes).drop
      (1 + (networkBytes message.networkId).length + 1) =
        leBytes 4 roiBytes.length ++ roiBytes := by
    have parts : message.encoding roiBytes = (pallasMessageVersion ::
        (networkBytes message.networkId ++ [legacyByte message.isLegacy])) ++
          (leBytes 4 roiBytes.length ++ roiBytes) := by
      simp only [encoding, List.cons_append, List.append_assoc,
        List.nil_append]
    rw [parts]
    apply List.drop_left'
    simp only [List.length_cons, List.length_append, List.length_nil]
    omega
  have declared : littleEndian (((message.encoding roiBytes).drop
      (1 + (networkBytes message.networkId).length + 1)).take 4) =
        roiBytes.length := by
    rw [behind, List.take_left' (length_leBytes 4 _)]
    exact littleEndian_leBytes short
  have data : (message.encoding roiBytes).drop
      (1 + (networkBytes message.networkId).length + 5) = roiBytes := by
    have offset : 1 + (networkBytes message.networkId).length + 5 =
        1 + (networkBytes message.networkId).length + 1 + 4 := by
      omega
    rw [offset, ← List.drop_drop, behind, List.drop_left' (length_leBytes 4 _)]
  have tooFew : ¬(message.encoding roiBytes).length < 3 := by
    omega
  have noHeader : ¬(message.encoding roiBytes).length <
      1 + (networkBytes message.networkId).length + 1 + 4 := by
    omega
  have total : ¬(message.encoding roiBytes).length ≠
      1 + (networkBytes message.networkId).length + 5 + roiBytes.length := by
    omega
  unfold deserialize
  simp only [if_neg tooFew]
  apply Outcome.bind_eq_ok.mpr
  refine ⟨pallasMessageVersion, rfl, ?_⟩
  simp only [ne_eq, not_true_eq_false, if_false]
  apply Outcome.bind_eq_ok.mpr
  refine ⟨_, networkRead, Outcome.bind_eq_ok.mpr ⟨_, legacyRead, ?_⟩⟩
  simp only [if_neg noHeader, declared, if_neg total, data, isInput]
  rfl

/-- Only encodings are read. -/
theorem exists_encoding_of_deserialize
    {input : List UInt8}
    {message : PallasMessage}
    (read : deserialize codec input = .ok message) :
    message.networkId.NameFits ∧ ∃ roiBytes, roiBytes.length < 2 ^ 32 ∧
      codec.deserialize roiBytes = some message.input ∧
      input = message.encoding roiBytes := by
  unfold deserialize at read
  dsimp only at read
  split at read
  · exact absurd read (Outcome.throw_bind_ne_ok _ _ _)
  obtain ⟨version, isFirst, read⟩ := Outcome.bind_eq_ok.mp read
  split at read
  · exact absurd read (Outcome.throw_bind_ne_ok _ _ _)
  next isVersion =>
  obtain ⟨⟨networkId, offset⟩, networkRead, read⟩ :=
    Outcome.bind_eq_ok.mp read
  obtain ⟨isLegacy, legacyRead, read⟩ := Outcome.bind_eq_ok.mp read
  split at read
  · exact absurd read (Outcome.throw_bind_ne_ok _ _ _)
  next hasHeader =>
  split at read
  · exact absurd read (Outcome.throw_bind_ne_ok _ _ _)
  next total =>
  split at read
  next roi isInput =>
    cases read
    obtain ⟨fits, rfl, first, rest, rfl⟩ :=
      networkBytes_of_deserializeNetworkId networkRead
    dsimp only at legacyRead hasHeader total isInput
    have sameVersion : first = pallasMessageVersion := by
      have isByte : first = version := by
        simpa [byteAt, Outcome.ofOption] using isFirst
      rw [isByte, Decidable.not_not.mp isVersion]
    have flag : rest[0]? = some (legacyByte isLegacy) := by
      have isByte := legacyByte_of_deserializeIsLegacy legacyRead
      rwa [Nat.add_comm, List.getElem?_cons_succ,
        List.getElem?_append_right (Nat.le_refl _), Nat.sub_self] at isByte
    cases rest with
    | nil => exact absurd flag (by simp)
    | cons byte rest =>
    have sameByte : byte = legacyByte isLegacy := by
      simpa using flag
    have behind : ∀ count, (first :: (networkBytes networkId ++
        byte :: rest)).drop (1 + (networkBytes networkId).length + 1 + count) =
          rest.drop count := by
      intro count
      have split : 1 + (networkBytes networkId).length + 1 + count =
          (networkBytes networkId).length + (count + 1) + 1 := by
        omega
      rw [split, List.drop_succ_cons, List.drop_length_add_append,
        List.drop_succ_cons]
    have declared := behind 0
    rw [Nat.add_zero, List.drop_zero] at declared
    have data : (first :: (networkBytes networkId ++ byte :: rest)).drop
        (1 + (networkBytes networkId).length + 5) = rest.drop 4 := behind 4
    rw [declared] at total
    rw [data] at isInput
    have enough : 4 ≤ rest.length := by
      simp only [List.length_cons, List.length_append] at hasHeader
      omega
    have fourBytes : (rest.take 4).length = 4 := by
      rw [List.length_take, Nat.min_eq_left enough]
    have length : (rest.drop 4).length = littleEndian (rest.take 4) := by
      simp only [List.length_cons, List.length_append] at total
      rw [List.length_drop]
      omega
    refine ⟨fits, rest.drop 4, ?_, isInput, ?_⟩
    · have below := littleEndian_lt (rest.take 4)
      rw [fourBytes] at below
      rw [length]
      exact below
    · have lengthBytes := leBytes_littleEndian (rest.take 4)
      rw [fourBytes, ← length] at lengthBytes
      rw [encoding, lengthBytes, List.take_append_drop, sameVersion, sameByte]
  next => exact absurd read (Outcome.throw_ne_ok _ _)

/-- No encoding is a proper beginning of another one. -/
theorem eq_nil_of_encoding_append
    {message other : PallasMessage}
    {roiBytes otherBytes more : List UInt8}
    (fits : message.networkId.NameFits)
    (otherFits : other.networkId.NameFits)
    (short : roiBytes.length < 2 ^ 32)
    (otherShort : otherBytes.length < 2 ^ 32)
    (same : message.encoding roiBytes ++ more = other.encoding otherBytes) :
    more = [] := by
  unfold encoding at same
  simp only [List.cons_append, List.append_assoc] at same
  have sameNetwork : message.networkId = other.networkId := by
    have read := deserializeNetworkId_networkBytes fits pallasMessageVersion
      (legacyByte message.isLegacy ::
        (leBytes 4 roiBytes.length ++ (roiBytes ++ more)))
    rw [same, deserializeNetworkId_networkBytes otherFits] at read
    exact (congrArg Prod.fst (Except.ok.inj read)).symm
  rw [sameNetwork] at same
  have behind := (List.cons.inj (List.append_cancel_left
    (List.cons.inj same).2)).2
  have sameParts := List.append_inj behind
    (by rw [length_leBytes, length_leBytes])
  have sameLength : roiBytes.length = otherBytes.length := by
    have lengthRead := congrArg littleEndian sameParts.1
    rwa [littleEndian_leBytes short, littleEndian_leBytes otherShort]
      at lengthRead
  have lengths := congrArg List.length sameParts.2
  rw [List.length_append] at lengths
  apply List.eq_nil_of_length_eq_zero
  omega

end Reading

section Exactness

variable {codec : ROInputCodec} (lawful : codec.Lawful)
include lawful

/-- A message that is written is read. -/
theorem deserialize_of_serialize
    {message : PallasMessage}
    {bytes : List UInt8}
    (short : (codec.serialize message.input).length < 2 ^ 32)
    (written : serialize codec message = .ok bytes) :
    deserialize codec bytes = .ok message := by
  have isEncoding := (serialize_eq_ok_iff codec message bytes).mp written
  rw [isEncoding.2]
  apply deserialize_encoding isEncoding.1 short
  exact (lawful _ _ short).mpr rfl

/-- A message that is read is written as the bytes it is read from. -/
theorem serialize_of_deserialize
    {message : PallasMessage}
    {bytes : List UInt8}
    (read : deserialize codec bytes = .ok message) :
    serialize codec message = .ok bytes := by
  obtain ⟨fits, roiBytes, short, isInput, rfl⟩ :=
    exists_encoding_of_deserialize read
  apply (serialize_eq_ok_iff codec message _).mpr
  rw [(lawful roiBytes message.input short).mp isInput]
  exact ⟨fits, rfl⟩

/-- The wire format is exact: all messages with a network that fits are written
and read again, each message has one accepted encoding, and no encoding is a
proper beginning of another one. -/
theorem wireFormat_exact :
    (∀ message, (codec.serialize message.input).length < 2 ^ 32 →
      ((∃ bytes, serialize codec message = .ok bytes) ↔
        message.networkId.NameFits) ∧
      ∀ bytes, serialize codec message = .ok bytes →
        deserialize codec bytes = .ok message) ∧
    (∀ bytes message, deserialize codec bytes = .ok message →
      serialize codec message = .ok bytes) ∧
    ∀ bytes more message other, deserialize codec bytes = .ok message →
      deserialize codec (bytes ++ more) = .ok other → more = [] := by
  refine ⟨?_, ?_, ?_⟩
  · intro message short
    constructor
    · constructor
      · rintro ⟨bytes, written⟩
        exact ((serialize_eq_ok_iff codec message bytes).mp written).1
      · intro fits
        exact ⟨_, (serialize_eq_ok_iff codec message _).mpr ⟨fits, rfl⟩⟩
    · intro bytes written
      exact deserialize_of_serialize lawful short written
  · intro bytes message read
    exact serialize_of_deserialize lawful read
  · intro bytes more message other read otherRead
    obtain ⟨fits, roiBytes, short, -, rfl⟩ :=
      exists_encoding_of_deserialize read
    obtain ⟨otherFits, otherBytes, otherShort, -, same⟩ :=
      exists_encoding_of_deserialize otherRead
    exact eq_nil_of_encoding_append fits otherFits short otherShort same

end Exactness

/-- A message for a custom network with two fields and three bits. -/
def customMessage : PallasMessage :=
  .fromParts { fields := [7, -1], bits := [true, false, true] }
    (.custom "devnet-7") false

theorem wireFormat_exact_custom :
    deserialize ROInputCodec.reference
        (customMessage.encoding
          (ROInputCodec.writeInput customMessage.input)) =
      .ok customMessage := by
  have fits : customMessage.networkId.NameFits := by
    change "devnet-7".utf8ByteSize ≤ maxPrefixLength
    decide
  apply ((wireFormat_exact ROInputCodec.reference_lawful).1 customMessage
    (by decide +kernel)).2
  apply (serialize_eq_ok_iff _ _ _).mpr
  exact ⟨fits, rfl⟩

end PallasMessage

end Tx
end MinaMultiSig
