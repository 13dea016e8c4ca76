import MinaMultiSig.Tx.NetworkId

/-!
# When two networks are told apart

A custom network name is followed by a fixed suffix and then padded or cut to 20
characters. The capital letter the suffix begins with shows where the name ends,
so two names clash only when one of them fills all 20 characters and spells what
the other one becomes. Against the constants of the two built-in networks a few
more names clash.
-/

namespace MinaMultiSig
namespace Tx

open FixedWidth

section Characters

theorem utf8ByteSize_eq_totalSize (text : String) :
    text.utf8ByteSize = totalSize Char.utf8Size text.toList := by
  rw [← length_asBytes, asBytes_eq_flatMap, List.length_flatMap, totalSize]
  simp only [String.length_utf8EncodeChar]

theorem length_le_utf8ByteSize (text : String) :
    text.toList.length ≤ text.utf8ByteSize := by
  rw [utf8ByteSize_eq_totalSize]
  exact length_le_totalSize Char.utf8Size_pos text.toList

/-- The padded or cut prefix as a list of characters. -/
theorem toList_createCustomPrefix (text : String) :
    (NetworkId.createCustomPrefix text).toList =
      padOrCut Char.utf8Size maxPrefixLength paddingChar text.toList := by
  unfold NetworkId.createCustomPrefix padOrCut
  rw [utf8ByteSize_eq_totalSize]
  split_ifs
  · rw [String.toList_append, String.toList_ofList]
  · rw [String.toList_ofList]

theorem createCustomPrefix_size (text : String) :
    maxPrefixLength ≤ (NetworkId.createCustomPrefix text).utf8ByteSize := by
  rw [utf8ByteSize_eq_totalSize, toList_createCustomPrefix]
  exact limit_le_totalSize_padOrCut Char.utf8Size_pos _

variable {first second suffix constant : String} {head : Char}
variable {tail : List Char}

/-- Two names with the same suffix clash exactly when one of them has 20
characters and spells what the other one becomes. -/
theorem createCustomPrefix_eq_iff
    (suffixEq : suffix.toList = head :: tail)
    (notInTail : head ∉ tail)
    (notPad : head ≠ paddingChar)
    (firstFits : first.utf8ByteSize ≤ maxPrefixLength)
    (secondFits : second.utf8ByteSize ≤ maxPrefixLength) :
    NetworkId.createCustomPrefix (first ++ suffix) =
        NetworkId.createCustomPrefix (second ++ suffix) ↔
      first = second ∨
      (first.toList.length = maxPrefixLength ∧
        first = NetworkId.createCustomPrefix (second ++ suffix)) ∨
      (second.toList.length = maxPrefixLength ∧
        second = NetworkId.createCustomPrefix (first ++ suffix)) := by
  simp only [← String.toList_inj, toList_createCustomPrefix,
    String.toList_append, suffixEq]
  exact padOrCut_append_eq_iff Char.utf8Size_pos notInTail notPad
    ((length_le_utf8ByteSize first).trans firstFits)
    ((length_le_utf8ByteSize second).trans secondFits)

/-- A name becomes a given text if it has 20 characters and is that text, or if
it is what the text has before the head of the suffix. -/
theorem createCustomPrefix_eq_const
    (suffixEq : suffix.toList = head :: tail)
    (fits : first.utf8ByteSize ≤ maxPrefixLength)
    (becomes : NetworkId.createCustomPrefix (first ++ suffix) = constant) :
    (first.toList.length = maxPrefixLength ∧ first = constant) ∨
      ∃ length < maxPrefixLength, constant.toList[length]? = some head ∧
        first = String.ofList (constant.toList.take length) ∧
        NetworkId.createCustomPrefix
          (String.ofList (constant.toList.take length) ++ suffix) =
            constant := by
  have lists := congrArg String.toList becomes
  rw [toList_createCustomPrefix, String.toList_append, suffixEq] at lists
  rcases padOrCut_append_eq_const Char.utf8Size_pos
      ((length_le_utf8ByteSize first).trans fits) lists with
    ⟨full, same⟩ | ⟨length, less, marked, beginning, -⟩
  · exact Or.inl ⟨full, String.toList_inj.mp same⟩
  · have firstEq : first = String.ofList (constant.toList.take length) := by
      rw [← beginning, String.ofList_toList]
    exact Or.inr ⟨length, less, marked, firstEq, by rw [← firstEq, becomes]⟩

/-- A name of 20 characters is not changed. -/
theorem createCustomPrefix_of_full
    (suffixEq : suffix.toList = head :: tail)
    (full : first.toList.length = maxPrefixLength) :
    NetworkId.createCustomPrefix (first ++ suffix) = first := by
  apply String.toList_inj.mp
  rw [toList_createCustomPrefix, String.toList_append]
  exact padOrCut_append_of_full Char.utf8Size_pos full (by simp [suffixEq])

end Characters

section Parameters

/-- The prefix fills the 20 padded bytes, is short enough for a field element,
and shows where it ends: behind byte 20 it does not end with a zero byte. -/
structure SelfDelimiting (text : String) : Prop where
  long : 20 ≤ text.utf8ByteSize
  short : text.utf8ByteSize ≤ 31
  delimited : text.utf8ByteSize = 20 ∨ (asBytes text).getLast? ≠ some 0

theorem paramBytes_of_long
    {text : String}
    (long : 20 ≤ text.utf8ByteSize) :
    paramBytes text =
      asBytes text ++ List.replicate (32 - text.utf8ByteSize) 0 := by
  rw [paramBytes, length_asBytes, defaultParam, List.drop_append,
    List.drop_eq_nil_of_le (by simpa using long), List.nil_append,
    List.drop_replicate, List.length_replicate]
  congr 2
  omega

/-- Such prefixes are told apart by their bytes. -/
theorem SelfDelimiting.eq_of_paramBytes
    {first second : String}
    (firstDelimiting : SelfDelimiting first)
    (secondDelimiting : SelfDelimiting second)
    (same : paramBytes first = paramBytes second) :
    first = second := by
  rw [paramBytes_of_long firstDelimiting.long,
    paramBytes_of_long secondDelimiting.long] at same
  -- a longer prefix would end with one of the zeros behind the shorter one
  have notShorter : ∀ {shorter longer : String},
      SelfDelimiting longer → 20 ≤ shorter.utf8ByteSize →
        asBytes shorter ++ List.replicate (32 - shorter.utf8ByteSize) 0 =
          asBytes longer ++ List.replicate (32 - longer.utf8ByteSize) 0 →
            ¬shorter.utf8ByteSize < longer.utf8ByteSize := by
    intro shorter longer delimiting long equal less
    have tail := congrArg (List.take longer.utf8ByteSize) equal
    rw [← length_asBytes longer, List.take_left, List.take_append,
      List.take_of_length_le (by simpa using less.le), List.take_replicate]
      at tail
    rcases delimiting.delimited with exactly | notZero
    · omega
    · refine notZero ?_
      rw [← tail, List.getLast?_append_of_ne_nil _ (by
        have := delimiting.short
        simp only [length_asBytes, ne_eq, List.replicate_eq_nil_iff]
        omega)]
      rw [List.getLast?_replicate, if_neg]
      have := delimiting.short
      simp only [length_asBytes]
      omega
  have sameSize : first.utf8ByteSize = second.utf8ByteSize := by
    have firstNot := notShorter secondDelimiting firstDelimiting.long same
    have secondNot := notShorter firstDelimiting secondDelimiting.long same.symm
    omega
  exact asBytes_inj (List.append_inj same (by simpa using sameSize)).1

/-- The field element of such a prefix. -/
theorem SelfDelimiting.paramToField_eq
    {text : String}
    (delimiting : SelfDelimiting text) :
    littleEndian (paramBytes text) < fpModulus ∧
      paramToField text = .ok (littleEndian (paramBytes text) : Fp) := by
  have small : littleEndian (paramBytes text) < fpModulus := by
    have number : littleEndian (paramBytes text) =
        littleEndian (asBytes text) := by
      rw [paramBytes_of_long delimiting.long]
      exact littleEndian_append_zeros _ _
    rw [number]
    calc littleEndian (asBytes text)
        < 256 ^ (asBytes text).length := littleEndian_lt _
      _ ≤ 256 ^ 31 := Nat.pow_le_pow_right (by decide) delimiting.short
      _ < fpModulus := by decide
  refine ⟨small, ?_⟩
  have fits : ¬(asBytes text).length > defaultParam.length := by
    have := delimiting.short
    simp only [length_asBytes, defaultParam, List.length_append,
      List.length_replicate]
    omega
  rw [paramToField, if_neg fits, Fp.fromRandomBytes_of_lt small]

/-- Two such prefixes have one field element only if they are equal. -/
theorem SelfDelimiting.paramToField_eq_iff
    {first second : String}
    (firstDelimiting : SelfDelimiting first)
    (secondDelimiting : SelfDelimiting second) :
    paramToField first = paramToField second ↔ first = second := by
  obtain ⟨firstSmall, firstField⟩ := firstDelimiting.paramToField_eq
  obtain ⟨secondSmall, secondField⟩ := secondDelimiting.paramToField_eq
  constructor
  · intro same
    rw [firstField, secondField] at same
    have numbers := natCast_fp_inj firstSmall secondSmall (Except.ok.inj same)
    refine firstDelimiting.eq_of_paramBytes secondDelimiting ?_
    refine littleEndian_inj ?_ numbers
    have := firstDelimiting.short
    have := secondDelimiting.short
    rw [paramBytes_of_long firstDelimiting.long,
      paramBytes_of_long secondDelimiting.long]
    simp only [List.length_append, length_asBytes, List.length_replicate]
    omega
  · rintro rfl
    rfl

end Parameters

section Networks

/-- `NetworkIdEnvelope::try_from` accepts some text as this network. -/
def Accepted (network : NetworkId) : Prop :=
  ∃ text, NetworkId.tryFrom text = .ok network

/-- A custom name of 20 characters that is the given text. -/
def Spells (network : NetworkId) (text : String) : Prop :=
  ∃ name, network = .custom name ∧
    name.toList.length = maxPrefixLength ∧ name = text

/-- The two networks are the two given ones, in either order. -/
def ArePair (first second left right : NetworkId) : Prop :=
  (first = left ∧ second = right) ∨ (first = right ∧ second = left)

/-- An accepted custom name fits the prefix. -/
theorem Accepted.name_fits
    {name : String}
    (accepted : Accepted (.custom name)) :
    name.utf8ByteSize ≤ maxPrefixLength := by
  obtain ⟨text, result⟩ := accepted
  unfold NetworkId.tryFrom at result
  split at result
  · simp at result
  · simp at result
  · simp at result
  · split_ifs at result with long
    obtain rfl := NetworkId.custom.inj (Except.ok.inj result)
    omega

/-- What a name of fewer than 20 characters is followed by in a cut prefix. -/
theorem createCustomPrefix_of_cut
    {name : String}
    (cut : ¬(name ++ "ZkappBody").utf8ByteSize ≤ maxPrefixLength)
    (short : name.toList.length ≤ maxPrefixLength) :
    NetworkId.createCustomPrefix (name ++ "ZkappBody") =
      name ++ String.ofList
        ("ZkappBody".toList.take (maxPrefixLength - name.toList.length)) := by
  apply String.toList_inj.mp
  rw [NetworkId.createCustomPrefix, if_neg cut]
  simp only [String.toList_ofList, String.toList_append]
  rw [List.take_append, List.take_of_length_le short]

/-- The beginnings of the suffix are short and do not end with a zero byte. -/
theorem zkappBody_beginnings :
    ∀ kept < 21, 0 < kept →
      (asBytes (String.ofList ("ZkappBody".toList.take kept))).getLast?.any
          (· ≠ 0) = true ∧
        (String.ofList ("ZkappBody".toList.take kept)).utf8ByteSize ≤ 9 := by
  decide

/-- The body prefix of a network whose name fits shows where it ends. -/
theorem selfDelimiting_custom
    {name : String}
    (fits : name.utf8ByteSize ≤ maxPrefixLength) :
    SelfDelimiting (NetworkId.bodyPrefix (.custom name)) := by
  have chars := (length_le_utf8ByteSize name).trans fits
  change SelfDelimiting
    (NetworkId.createCustomPrefix (name ++ "ZkappBody"))
  have long := createCustomPrefix_size (name ++ "ZkappBody")
  by_cases full : name.toList.length = maxPrefixLength
  case pos =>
    have bytes := length_le_utf8ByteSize name
    rw [createCustomPrefix_of_full rfl full]
    have exactly : name.utf8ByteSize = 20 := by
      rw [full] at bytes
      exact le_antisymm fits bytes
    exact ⟨exactly.ge, by omega, Or.inl exactly⟩
  by_cases padded : (name ++ "ZkappBody").utf8ByteSize ≤ maxPrefixLength
  case pos =>
    have exactly : (NetworkId.createCustomPrefix
        (name ++ "ZkappBody")).utf8ByteSize = 20 := by
      rw [utf8ByteSize_eq_totalSize] at padded ⊢
      rw [toList_createCustomPrefix]
      exact totalSize_padOrCut_of_le (by decide) padded
    exact ⟨long, by omega, Or.inl exactly⟩
  -- the prefix was cut inside the suffix
  rw [createCustomPrefix_of_cut padded chars] at long ⊢
  obtain ⟨notZero, small⟩ :=
    zkappBody_beginnings (maxPrefixLength - name.toList.length)
      (by unfold maxPrefixLength; omega) (by omega)
  refine ⟨long, ?_, Or.inr ?_⟩
  · rw [String.utf8ByteSize_append]
    unfold maxPrefixLength at fits small ⊢
    omega
  · have joined : asBytes (name ++ String.ofList
        ("ZkappBody".toList.take
          (maxPrefixLength - name.toList.length))) =
        asBytes name ++ asBytes (String.ofList
          ("ZkappBody".toList.take
            (maxPrefixLength - name.toList.length))) := by
      simp only [asBytes_eq_flatMap, String.toList_append,
        List.flatMap_append]
    obtain ⟨last, found, lastNotZero⟩ :=
      (Option.any_eq_true _ _).mp notZero
    rw [joined, List.getLast?_append, found, Option.some_or]
    simpa using lastNotZero

theorem Accepted.selfDelimiting
    {network : NetworkId}
    (accepted : Accepted network) :
    SelfDelimiting network.bodyPrefix := by
  cases network with
  | mainnet => exact ⟨by decide, by decide, Or.inl (by decide)⟩
  | testnet => exact ⟨by decide, by decide, Or.inl (by decide)⟩
  | custom name => exact selfDelimiting_custom accepted.name_fits

/-- A name becomes a given text exactly if it has 20 characters and is that
text, or is one of the listed beginnings. -/
theorem createCustomPrefix_eq_const_iff
    {suffix name constant : String}
    {head : Char}
    {tail : List Char}
    {names : List String}
    (suffixEq : suffix.toList = head :: tail)
    (fits : name.utf8ByteSize ≤ maxPrefixLength)
    (beginnings : ∀ length < maxPrefixLength,
      constant.toList[length]? = some head →
        NetworkId.createCustomPrefix
            (String.ofList (constant.toList.take length) ++ suffix) =
              constant →
          String.ofList (constant.toList.take length) ∈ names)
    (become : ∀ other ∈ names,
      NetworkId.createCustomPrefix (other ++ suffix) = constant) :
    NetworkId.createCustomPrefix (name ++ suffix) = constant ↔
      name ∈ names ∨
        (name.toList.length = maxPrefixLength ∧ name = constant) := by
  constructor
  · intro same
    rcases createCustomPrefix_eq_const suffixEq fits same with
      full | ⟨length, less, marked, beginning, becomes⟩
    · exact Or.inr full
    · rw [beginning]
      exact Or.inl (beginnings length less marked becomes)
  · rintro (listed | ⟨full, rfl⟩)
    · exact become name listed
    · exact createCustomPrefix_of_full suffixEq full

/-- A text for each network: two constants, and the name with a suffix, padded
or cut. The listed names become the text of a built-in network. -/
structure PrefixFamily where
  text : NetworkId → String
  suffix : String
  head : Char
  tail : List Char
  mainnetNames : List String
  testnetNames : List String
  suffixEq : suffix.toList = head :: tail
  notInTail : head ∉ tail
  notPad : head ≠ paddingChar
  custom : ∀ name,
    text (.custom name) = NetworkId.createCustomPrefix (name ++ suffix)
  builtIn : text .mainnet ≠ text .testnet
  mainnetBeginnings : ∀ length < maxPrefixLength,
    (text .mainnet).toList[length]? = some head →
      NetworkId.createCustomPrefix (String.ofList
          ((text .mainnet).toList.take length) ++ suffix) = text .mainnet →
        String.ofList ((text .mainnet).toList.take length) ∈ mainnetNames
  mainnetBecome : ∀ name ∈ mainnetNames,
    NetworkId.createCustomPrefix (name ++ suffix) = text .mainnet
  testnetBeginnings : ∀ length < maxPrefixLength,
    (text .testnet).toList[length]? = some head →
      NetworkId.createCustomPrefix (String.ofList
          ((text .testnet).toList.take length) ++ suffix) = text .testnet →
        String.ofList ((text .testnet).toList.take length) ∈ testnetNames
  testnetBecome : ∀ name ∈ testnetNames,
    NetworkId.createCustomPrefix (name ++ suffix) = text .testnet

namespace PrefixFamily

variable (family : PrefixFamily) {first second : NetworkId}

/-- The pairs of networks whose texts are equal although they differ. -/
def Clash (first second : NetworkId) : Prop :=
  (∃ name ∈ family.mainnetNames,
    ArePair first second .mainnet (.custom name)) ∨
  (∃ name ∈ family.testnetNames,
    ArePair first second .testnet (.custom name)) ∨
  Spells first (family.text second) ∨ Spells second (family.text first)

theorem Clash.symm
    {family : PrefixFamily}
    (clash : family.Clash first second) :
    family.Clash second first := by
  rcases clash with ⟨name, listed, pair⟩ | ⟨name, listed, pair⟩ | spells |
    spells
  · exact Or.inl ⟨name, listed, pair.symm.imp And.symm And.symm⟩
  · exact Or.inr (Or.inl ⟨name, listed, pair.symm.imp And.symm And.symm⟩)
  · exact Or.inr (Or.inr (Or.inr spells))
  · exact Or.inr (Or.inr (Or.inl spells))

@[simp] theorem spells_custom (name text : String) :
    Spells (.custom name) text ↔
      name.toList.length = maxPrefixLength ∧ name = text := by
  constructor
  · rintro ⟨other, same, full, equal⟩
    obtain rfl := NetworkId.custom.inj same
    exact ⟨full, equal⟩
  · rintro ⟨full, equal⟩
    exact ⟨name, rfl, full, equal⟩

@[simp] theorem not_spells_mainnet (text : String) :
    ¬Spells .mainnet text := by
  simp [Spells]

@[simp] theorem not_spells_testnet (text : String) :
    ¬Spells .testnet text := by
  simp [Spells]

/-- A custom name and the main network. -/
theorem text_mainnet_eq_iff
    {name : String}
    (fits : name.utf8ByteSize ≤ maxPrefixLength) :
    family.text (.custom name) = family.text .mainnet ↔
      family.Clash (.custom name) .mainnet := by
  rw [family.custom, createCustomPrefix_eq_const_iff family.suffixEq fits
    family.mainnetBeginnings family.mainnetBecome]
  simp [Clash, ArePair]

/-- A custom name and the test network. -/
theorem text_testnet_eq_iff
    {name : String}
    (fits : name.utf8ByteSize ≤ maxPrefixLength) :
    family.text (.custom name) = family.text .testnet ↔
      family.Clash (.custom name) .testnet := by
  rw [family.custom, createCustomPrefix_eq_const_iff family.suffixEq fits
    family.testnetBeginnings family.testnetBecome]
  simp [Clash, ArePair]

/-- The texts of two different networks are equal exactly if they clash. -/
theorem text_eq_iff
    (firstAccepted : Accepted first)
    (secondAccepted : Accepted second)
    (different : first ≠ second) :
    family.text first = family.text second ↔ family.Clash first second := by
  have swap : ∀ {left right : NetworkId},
      (family.text left = family.text right ↔ family.Clash left right) →
        (family.text right = family.text left ↔ family.Clash right left) :=
    fun same => by
      rw [eq_comm, same]
      exact ⟨Clash.symm, Clash.symm⟩
  have builtIn : family.text .mainnet = family.text .testnet ↔
      family.Clash .mainnet .testnet := by
    refine iff_of_false family.builtIn ?_
    simp [Clash, ArePair]
  cases first with
  | mainnet =>
      cases second with
      | mainnet => exact absurd rfl different
      | testnet => exact builtIn
      | custom name =>
          exact swap (family.text_mainnet_eq_iff secondAccepted.name_fits)
  | testnet =>
      cases second with
      | mainnet => exact swap builtIn
      | testnet => exact absurd rfl different
      | custom name =>
          exact swap (family.text_testnet_eq_iff secondAccepted.name_fits)
  | custom firstName =>
      cases second with
      | mainnet => exact family.text_mainnet_eq_iff firstAccepted.name_fits
      | testnet => exact family.text_testnet_eq_iff firstAccepted.name_fits
      | custom secondName =>
          have names : firstName ≠ secondName := by
            rintro rfl
            exact different rfl
          rw [family.custom, family.custom,
            createCustomPrefix_eq_iff family.suffixEq family.notInTail
              family.notPad firstAccepted.name_fits secondAccepted.name_fits]
          simp [Clash, ArePair, names, family.custom]

end PrefixFamily

theorem domainParameter_custom (name : String) :
    domainParameter (.custom name) =
      NetworkId.createCustomPrefix (name ++ "Signature") := by
  have long := createCustomPrefix_size (name ++ "Signature")
  rw [domainParameter, NetworkId.intoDomainString,
    Nat.sub_eq_zero_of_le long]
  simp

/-- The signature domains. -/
def domainFamily : PrefixFamily where
  text := domainParameter
  suffix := "Signature"
  head := 'S'
  tail := ['i', 'g', 'n', 'a', 't', 'u', 'r', 'e']
  mainnetNames := []
  testnetNames := ["Coda"]
  suffixEq := by decide
  notInTail := by decide
  notPad := by decide
  custom := domainParameter_custom
  builtIn := by decide
  mainnetBeginnings := by decide +kernel
  mainnetBecome := by decide
  testnetBeginnings := by decide +kernel
  testnetBecome := by decide +kernel

/-- The body prefixes. -/
def bodyFamily : PrefixFamily where
  text := NetworkId.bodyPrefix
  suffix := "ZkappBody"
  head := 'Z'
  tail := ['k', 'a', 'p', 'p', 'B', 'o', 'd', 'y']
  mainnetNames := ["Mainnet"]
  testnetNames := ["Testnet"]
  suffixEq := by decide
  notInTail := by decide
  notPad := by decide
  custom := fun _ => rfl
  builtIn := by decide
  mainnetBeginnings := by decide +kernel
  mainnetBecome := by decide +kernel
  testnetBeginnings := by decide +kernel
  testnetBecome := by decide +kernel

/-- The other prefixes of the commitment, each with what it is padded to. -/
def fixedPrefixes : List (String × String) :=
  [(prefixAccountUpdateNode, "MinaAcctUpdateNode**"),
    (prefixAccountUpdateCons, "MinaAcctUpdateCons**"),
    (zkAppMemo, "MinaZkappMemo*******"),
    (zkAppEventsPrefix, "MinaZkappEvents*****"),
    (zkAppEventPrefix, "MinaZkappEvent******"),
    (zkAppActionsPrefix, "MinaZkappSeqEvents**"),
    (minaZkappUri, "MinaZkappUri********")]

theorem fixedPrefixes_padded :
    ∀ fixed ∈ fixedPrefixes, paramToField fixed.1 = paramToField fixed.2 ∧
      fixed.2.utf8ByteSize = 20 := by
  decide +kernel

/-- No name of fewer than 20 characters becomes a fixed prefix. -/
theorem fixedPrefixes_beginnings :
    ∀ fixed ∈ fixedPrefixes, ∀ length < maxPrefixLength,
      fixed.2.toList[length]? = some 'Z' →
        NetworkId.createCustomPrefix
          (String.ofList (fixed.2.toList.take length) ++ "ZkappBody") ≠
            fixed.2 := by
  decide +kernel

theorem fixedPrefixes_builtIn :
    ∀ fixed ∈ fixedPrefixes, zkAppBodyMainnet ≠ fixed.2 ∧
      zkAppBodyTestnet ≠ fixed.2 := by
  decide

/-- A body prefix is a fixed prefix only for the custom name that spells it. -/
theorem bodyPrefix_eq_fixed_iff
    {network : NetworkId}
    {fixed : String × String}
    (accepted : Accepted network)
    (isFixed : fixed ∈ fixedPrefixes) :
    network.bodyPrefix = fixed.2 ↔ Spells network fixed.2 := by
  cases network with
  | mainnet =>
      exact iff_of_false (fixedPrefixes_builtIn fixed isFixed).1 (by simp)
  | testnet =>
      exact iff_of_false (fixedPrefixes_builtIn fixed isFixed).2 (by simp)
  | custom name =>
      have noBeginning : ∀ length < maxPrefixLength,
          fixed.2.toList[length]? = some 'Z' →
            NetworkId.createCustomPrefix (String.ofList
                (fixed.2.toList.take length) ++ "ZkappBody") = fixed.2 →
              String.ofList (fixed.2.toList.take length) ∈
                ([] : List String) :=
        fun length less marked becomes => absurd becomes
          (fixedPrefixes_beginnings fixed isFixed length less marked)
      rw [PrefixFamily.spells_custom]
      have becomes := createCustomPrefix_eq_const_iff bodyFamily.suffixEq
        accepted.name_fits noBeginning (by simp)
      rw [or_iff_right List.not_mem_nil] at becomes
      exact becomes

/-- The field elements of a body prefix and of a fixed prefix. -/
theorem paramToField_eq_fixed_iff
    {network : NetworkId}
    {fixed : String × String}
    (accepted : Accepted network)
    (isFixed : fixed ∈ fixedPrefixes) :
    paramToField network.bodyPrefix = paramToField fixed.1 ↔
      Spells network fixed.2 := by
  obtain ⟨padded, size⟩ := fixedPrefixes_padded fixed isFixed
  have fixedDelimiting : SelfDelimiting fixed.2 :=
    ⟨size.ge, by omega, Or.inl size⟩
  rw [padded, accepted.selfDelimiting.paramToField_eq_iff fixedDelimiting,
    bodyPrefix_eq_fixed_iff accepted isFixed]

/-- When two different accepted networks share a signature domain, when they
share the field element of their body prefix, and when a body prefix shares the
field element of a fixed prefix. -/
theorem networks_separated_iff
    {first second : NetworkId}
    (firstAccepted : Accepted first)
    (secondAccepted : Accepted second)
    (different : first ≠ second) :
    (domainParameter first = domainParameter second ↔
      ArePair first second .testnet (.custom "Coda") ∨
      Spells first (domainParameter second) ∨
      Spells second (domainParameter first)) ∧
    (∃ firstField secondField,
      paramToField first.bodyPrefix = .ok firstField ∧
      paramToField second.bodyPrefix = .ok secondField ∧
      (firstField = secondField ↔
        ArePair first second .mainnet (.custom "Mainnet") ∨
        ArePair first second .testnet (.custom "Testnet") ∨
        Spells first second.bodyPrefix ∨ Spells second first.bodyPrefix)) ∧
    ∀ fixed ∈ fixedPrefixes,
      paramToField first.bodyPrefix = paramToField fixed.1 ↔
        Spells first fixed.2 := by
  refine ⟨?_, ?_, fun _ => paramToField_eq_fixed_iff firstAccepted⟩
  · have domains :=
      domainFamily.text_eq_iff firstAccepted secondAccepted different
    simpa [PrefixFamily.Clash, domainFamily] using domains
  · have fields := firstAccepted.selfDelimiting.paramToField_eq_iff
      secondAccepted.selfDelimiting
    have prefixes :=
      bodyFamily.text_eq_iff firstAccepted secondAccepted different
    obtain ⟨-, firstField⟩ := firstAccepted.selfDelimiting.paramToField_eq
    obtain ⟨-, secondField⟩ := secondAccepted.selfDelimiting.paramToField_eq
    refine ⟨_, _, firstField, secondField, ?_⟩
    rw [firstField, secondField, Except.ok.injEq] at fields
    rw [fields]
    simpa [PrefixFamily.Clash, bodyFamily] using prefixes

/-- The test network and the custom network `Coda`. -/
theorem networks_separated_iff_coda :
    domainParameter .testnet = domainParameter (.custom "Coda") :=
  (networks_separated_iff ⟨"testnet", rfl⟩ ⟨"Coda", by decide⟩
    (by decide)).1.mpr (Or.inl (Or.inl ⟨rfl, rfl⟩))

/-- Two accepted networks with one signature domain, two with one body prefix,
and one with the prefix of the account update nodes. -/
theorem networks_not_separated :
    (Accepted .testnet ∧ Accepted (.custom "Coda") ∧
      domainParameter .testnet = domainParameter (.custom "Coda")) ∧
    (Accepted .mainnet ∧ Accepted (.custom "Mainnet") ∧
      NetworkId.bodyPrefix .mainnet =
        NetworkId.bodyPrefix (.custom "Mainnet")) ∧
    (Accepted (.custom "MinaAcctUpdateNode**") ∧
      NetworkId.bodyPrefix (.custom "MinaAcctUpdateNode**") =
        prefixAccountUpdateNode) :=
  ⟨⟨⟨"testnet", rfl⟩, ⟨"Coda", by decide⟩, by decide +kernel⟩,
    ⟨⟨"mainnet", rfl⟩, ⟨"Mainnet", by decide⟩, by decide +kernel⟩,
    ⟨⟨"MinaAcctUpdateNode**", by decide⟩, by decide +kernel⟩⟩

end Networks

end Tx
end MinaMultiSig
