import MinaMultiSig.Dkg.Session

/-!
# What a DKG session state says about the messages it accepted

`Accepts` lists the three ways `recv` can return `Ok`, with every guard on the
way. `Consistent` ties a session state to the messages accepted so far; it holds
initially and every accepted message preserves it, so the later results about
whole DKG runs read the state off the log and never unfold `recv` again.
-/

namespace MinaMultiSig
namespace Dkg

variable {PublicKey Identifier Round1Package Round2Package Payload : Type}

section Log

variable (wire : DkgWire Payload Identifier Round1Package Round2Package)
variable (log : List (Msg PublicKey Payload))

/-- A Round 1 Package from `sender` is among the accepted messages. -/
def ReceivedRound1 (sender : PublicKey) (package : Round1Package) : Prop :=
  ∃ msg ∈ log, msg.sender = sender ∧
    wire.fromSliceRound1 msg.msg = some package

/-- An echo by `sender` of a package of `original` was accepted. -/
def ReceivedBroadcast
    (sender : PublicKey)
    (original : Identifier)
    (package : Round1Package) : Prop :=
  ∃ msg ∈ log, msg.sender = sender ∧
    wire.fromSliceBroadcast msg.msg = some (original, package)

/-- A Round 2 Package from `sender` was accepted. -/
def ReceivedRound2 (sender : PublicKey) (package : Round2Package) : Prop :=
  ∃ msg ∈ log, msg.sender = sender ∧
    wire.fromSliceRound2 msg.msg = some package

variable {wire log}

@[simp] theorem receivedRound1_append
    {msg : Msg PublicKey Payload}
    {sender : PublicKey}
    {package : Round1Package} :
    ReceivedRound1 wire (log ++ [msg]) sender package ↔
      ReceivedRound1 wire log sender package ∨
        (msg.sender = sender ∧
          wire.fromSliceRound1 msg.msg = some package) := by
  simp [ReceivedRound1, or_and_right, exists_or]

@[simp] theorem receivedBroadcast_append
    {msg : Msg PublicKey Payload}
    {sender : PublicKey}
    {original : Identifier}
    {package : Round1Package} :
    ReceivedBroadcast wire (log ++ [msg]) sender original package ↔
      ReceivedBroadcast wire log sender original package ∨
        (msg.sender = sender ∧
          wire.fromSliceBroadcast msg.msg = some (original, package)) := by
  simp [ReceivedBroadcast, or_and_right, exists_or]

@[simp] theorem receivedRound2_append
    {msg : Msg PublicKey Payload}
    {sender : PublicKey}
    {package : Round2Package} :
    ReceivedRound2 wire (log ++ [msg]) sender package ↔
      ReceivedRound2 wire log sender package ∨
        (msg.sender = sender ∧
          wire.fromSliceRound2 msg.msg = some package) := by
  simp [ReceivedRound2, or_and_right, exists_or]

/-- A Round 1 Package adds itself to the log. -/
theorem receivedRound1_append_of_some
    {msg : Msg PublicKey Payload}
    {package : Round1Package}
    (decoded : wire.fromSliceRound1 msg.msg = some package)
    (key : PublicKey)
    (other : Round1Package) :
    ReceivedRound1 wire (log ++ [msg]) key other ↔
      ReceivedRound1 wire log key other ∨
        (msg.sender = key ∧ package = other) := by
  rw [receivedRound1_append, decoded, Option.some.injEq]

theorem receivedRound2_append_of_some
    {msg : Msg PublicKey Payload}
    {package : Round2Package}
    (decoded : wire.fromSliceRound2 msg.msg = some package)
    (key : PublicKey)
    (other : Round2Package) :
    ReceivedRound2 wire (log ++ [msg]) key other ↔
      ReceivedRound2 wire log key other ∨
        (msg.sender = key ∧ package = other) := by
  rw [receivedRound2_append, decoded, Option.some.injEq]

/-- A message that is no Round 1 Package adds none to the log. -/
theorem receivedRound1_append_of_none
    {msg : Msg PublicKey Payload}
    (other : wire.fromSliceRound1 msg.msg = none) :
    ReceivedRound1 wire (log ++ [msg]) = ReceivedRound1 wire log := by
  funext sender package
  simp [other]

theorem receivedRound2_append_of_none
    {msg : Msg PublicKey Payload}
    (other : wire.fromSliceRound2 msg.msg = none) :
    ReceivedRound2 wire (log ++ [msg]) = ReceivedRound2 wire log := by
  funext sender package
  simp [other]

theorem receivedBroadcast_append_of_none
    {msg : Msg PublicKey Payload}
    (other : wire.fromSliceBroadcast msg.msg = none) :
    ReceivedBroadcast wire (log ++ [msg]) = ReceivedBroadcast wire log := by
  funext sender original package
  simp [other]

end Log

variable [DecidableEq PublicKey] [DecidableEq Identifier]

namespace DKGSessionState

/-- The transitions of `recv` that return `Ok`. -/
inductive Accepts
    [DecidableEq Round1Package]
    (wire : DkgWire Payload Identifier Round1Package Round2Package)
    (selfIdentifier : Identifier)
    (msg : Msg PublicKey Payload) :
    DKGSessionState PublicKey Identifier Round1Package Round2Package →
      DKGSessionState PublicKey Identifier Round1Package Round2Package → Prop
  | round1
      {pubkeys round1Packages round1Package identifier}
      (decoded : wire.fromSliceRound1 msg.msg = some round1Package)
      (known : pubkeys.lookup msg.sender = some identifier) :
      Accepts wire selfIdentifier msg
        (.waitingForRound1Packages pubkeys round1Packages)
        (advanceRound1 pubkeys
          (round1Packages.insert identifier round1Package))
  | broadcast
      {pubkeys round1Packages broadcasted original round1Package identifier}
      (decoded : wire.fromSliceBroadcast msg.msg =
        some (original, round1Package))
      (known : pubkeys.lookup msg.sender = some identifier)
      (originalKnown : original ∈ FiniteMap.values pubkeys)
      (notOwn : original ≠ selfIdentifier)
      (notRedundant : original ≠ identifier)
      (matching : round1Packages.lookup original = some round1Package)
      (fresh : broadcastedBy broadcasted original identifier = none) :
      Accepts wire selfIdentifier msg
        (.waitingForRound1PackagesBroadcast pubkeys round1Packages broadcasted)
        (advanceBroadcast pubkeys round1Packages
          (insertBroadcast broadcasted original identifier round1Package))
  | round2
      {pubkeys round1Packages round2Packages round2Package identifier}
      (decoded : wire.fromSliceRound2 msg.msg = some round2Package)
      (known : pubkeys.lookup msg.sender = some identifier)
      (participates : identifier ∈ round1Packages.keys) :
      Accepts wire selfIdentifier msg
        (.waitingForRound2Packages pubkeys round1Packages round2Packages)
        (advanceRound2 pubkeys round1Packages
          (round2Packages.insert identifier round2Package))

variable {wire : DkgWire Payload Identifier Round1Package Round2Package}
variable {selfIdentifier : Identifier} {msg : Msg PublicKey Payload}
variable {state next :
  DKGSessionState PublicKey Identifier Round1Package Round2Package}

theorem recv_of_accepts
    [DecidableEq Round1Package]
    (accepts : Accepts wire selfIdentifier msg state next) :
    recv wire state msg selfIdentifier = (next, .ok ()) := by
  cases accepts with
  | round1 decoded known => simp [recv, handleRound1Package, decoded, known]
  | broadcast decoded known originalKnown notOwn notRedundant matching fresh =>
      simp [recv, handleRound1PackageBroadcast, decoded, known, originalKnown,
        notOwn, notRedundant, matching, fresh]
  | round2 decoded known participates =>
      simp [recv, handleRound2Package, decoded, known, participates]

theorem accepts_of_recv
    [DecidableEq Round1Package]
    (received : recv wire state msg selfIdentifier = (next, .ok ())) :
    Accepts wire selfIdentifier msg state next := by
  cases state with
  | waitingForRound1Packages pubkeys round1Packages =>
      simp only [recv, handleRound1Package] at received
      split at received
      · simp at received
      · rename_i package decoded
        split at received
        · simp at received
        · rename_i identifier known
          obtain ⟨rfl, -⟩ := Prod.mk.inj received
          exact .round1 decoded known
  | waitingForRound1PackagesBroadcast pubkeys round1Packages broadcasted =>
      simp only [recv, handleRound1PackageBroadcast] at received
      split at received
      · simp at received
      · rename_i original package decoded
        split at received
        · simp at received
        · rename_i identifier known
          -- the early returns of the handler, in source order
          by_cases originalKnown : original ∈ FiniteMap.values pubkeys
          case neg => simp [originalKnown] at received
          rw [if_neg (not_not.mpr originalKnown)] at received
          by_cases own : original = selfIdentifier
          case pos => simp [if_pos own] at received
          rw [if_neg own] at received
          by_cases redundant : original = identifier
          case pos => simp [if_pos redundant] at received
          rw [if_neg redundant] at received
          split at received
          · simp at received
          · rename_i stored storedLookup
            by_cases matching : stored = package
            case neg => simp [matching] at received
            subst matching
            by_cases duplicate :
                (broadcastedBy broadcasted original identifier).isSome
            case pos => simp [duplicate] at received
            simp only [ne_eq, not_true_eq_false, if_false, duplicate,
              Bool.false_eq_true] at received
            obtain ⟨rfl, -⟩ := Prod.mk.inj received
            exact .broadcast decoded known originalKnown own redundant
              storedLookup (by simpa using duplicate)
  | waitingForRound2Packages pubkeys round1Packages round2Packages =>
      simp only [recv, handleRound2Package] at received
      split at received
      · simp at received
      · rename_i package decoded
        split at received
        · simp at received
        · rename_i identifier known
          by_cases participates : identifier ∈ round1Packages.keys
          case neg => simp [participates] at received
          simp only [participates, not_true_eq_false, if_false] at received
          obtain ⟨rfl, -⟩ := Prod.mk.inj received
          exact .round2 decoded known participates
  | round2PackagesReady pubkeys round2Packages => simp [recv] at received

/-- `recv` returns `Ok` exactly along the transitions of `Accepts`. -/
theorem recv_eq_ok_iff [DecidableEq Round1Package] :
    recv wire state msg selfIdentifier = (next, .ok ()) ↔
      Accepts wire selfIdentifier msg state next :=
  ⟨accepts_of_recv, recv_of_accepts⟩

/-- A rejected message leaves the state as it was, except a duplicated echo,
which is stored before it is noticed. -/
theorem state_of_recv_error
    [DecidableEq Round1Package]
    {error : SessionError}
    (received : recv wire state msg selfIdentifier = (next, .error error)) :
    next = state ∨
      ∃ pubkeys round1Packages broadcasted original identifier package,
        state = .waitingForRound1PackagesBroadcast pubkeys round1Packages
          broadcasted ∧
        next = .waitingForRound1PackagesBroadcast pubkeys round1Packages
          (insertBroadcast broadcasted original identifier package) ∧
        round1Packages.lookup original = some package ∧
        (broadcastedBy broadcasted original identifier).isSome := by
  cases state with
  | waitingForRound1Packages pubkeys round1Packages =>
      refine Or.inl ?_
      simp only [recv, handleRound1Package] at received
      split at received
      · exact (Prod.mk.inj received).1.symm
      · split at received
        · exact (Prod.mk.inj received).1.symm
        · simp at received
  | waitingForRound1PackagesBroadcast pubkeys round1Packages broadcasted =>
      simp only [recv, handleRound1PackageBroadcast] at received
      split at received
      · exact Or.inl (Prod.mk.inj received).1.symm
      · rename_i original package decoded
        split at received
        · exact Or.inl (Prod.mk.inj received).1.symm
        · rename_i identifier known
          by_cases originalKnown : original ∈ FiniteMap.values pubkeys
          case neg =>
            rw [if_pos originalKnown] at received
            exact Or.inl (Prod.mk.inj received).1.symm
          rw [if_neg (not_not.mpr originalKnown)] at received
          by_cases own : original = selfIdentifier
          case pos =>
            rw [if_pos own] at received
            exact Or.inl (Prod.mk.inj received).1.symm
          rw [if_neg own] at received
          by_cases redundant : original = identifier
          case pos =>
            rw [if_pos redundant] at received
            exact Or.inl (Prod.mk.inj received).1.symm
          rw [if_neg redundant] at received
          split at received
          · exact Or.inl (Prod.mk.inj received).1.symm
          · rename_i stored storedLookup
            by_cases matching : stored = package
            case neg =>
              rw [if_pos matching] at received
              exact Or.inl (Prod.mk.inj received).1.symm
            subst matching
            rw [if_neg (not_not.mpr rfl)] at received
            by_cases duplicate :
                (broadcastedBy broadcasted original identifier).isSome
            case neg => simp [duplicate] at received
            rw [if_pos duplicate] at received
            exact Or.inr ⟨_, _, _, _, _, _, rfl,
              (Prod.mk.inj received).1.symm, storedLookup, duplicate⟩
  | waitingForRound2Packages pubkeys round1Packages round2Packages =>
      refine Or.inl ?_
      simp only [recv, handleRound2Package] at received
      split at received
      · exact (Prod.mk.inj received).1.symm
      · split at received
        · exact (Prod.mk.inj received).1.symm
        · split at received
          · exact (Prod.mk.inj received).1.symm
          · simp at received
  | round2PackagesReady pubkeys round2Packages =>
      exact Or.inl (Prod.mk.inj received).1.symm

/-- The Round 1 Packages are fixed: no later message changes them. -/
def Frozen
    (packages : FiniteMap Identifier Round1Package) :
    DKGSessionState PublicKey Identifier Round1Package Round2Package → Prop
  | .waitingForRound1Packages _ _ => False
  | .waitingForRound1PackagesBroadcast _ round1Packages _ =>
      round1Packages = packages
  | .waitingForRound2Packages _ round1Packages _ => round1Packages = packages
  | .round2PackagesReady _ _ => True

theorem Frozen.recv
    [DecidableEq Round1Package]
    {packages : FiniteMap Identifier Round1Package}
    {result : Except SessionError Unit}
    (frozen : Frozen packages state)
    (received : recv wire state msg selfIdentifier = (next, result)) :
    Frozen packages next := by
  cases result with
  | error error =>
      rcases state_of_recv_error received with rfl |
        ⟨_, _, _, _, _, _, rfl, rfl, -, -⟩
      · exact frozen
      · exact frozen
  | ok =>
      cases accepts_of_recv received with
      | round1 => exact absurd frozen id
      | broadcast =>
          unfold advanceBroadcast
          split_ifs
          · exact frozen
          · exact frozen
      | round2 =>
          unfold advanceRound2
          split_ifs
          · trivial
          · exact frozen

@[simp] theorem broadcastedBy_empty (original sender : Identifier) :
    broadcastedBy (∅ : FiniteMap Identifier (FiniteMap Identifier Round1Package))
      original sender = none := by
  simp [broadcastedBy]

theorem broadcastedBy_eq_some_iff
    {broadcasted : FiniteMap Identifier (FiniteMap Identifier Round1Package)}
    {original sender : Identifier}
    {package : Round1Package} :
    broadcastedBy broadcasted original sender = some package ↔
      ∃ inner, broadcasted.lookup original = some inner ∧
        inner.lookup sender = some package := by
  cases stored : broadcasted.lookup original with
  | none => simp [broadcastedBy, stored]
  | some inner => simp [broadcastedBy, stored]

/-- The completion test, read through lookups. -/
theorem broadcastComplete_iff
    [DecidableEq Round1Package]
    {round1Packages : FiniteMap Identifier Round1Package}
    {broadcasted :
      FiniteMap Identifier (FiniteMap Identifier Round1Package)} :
    broadcastComplete round1Packages broadcasted = true ↔
      broadcasted.keys = round1Packages.keys ∧
        ∀ original inner, broadcasted.lookup original = some inner →
          insert original inner.keys = round1Packages.keys ∧
            ∀ sender package, inner.lookup sender = some package →
              round1Packages.lookup original = some package := by
  simp only [broadcastComplete, Bool.and_eq_true, decide_eq_true_eq,
    Finmap.lookup_eq_some_iff, Sigma.forall, eq_comm (a := some _)]

/-- Storing an echo changes the entry of its original and its sender only. -/
theorem broadcastedBy_insertBroadcast
    (broadcasted :
      FiniteMap Identifier (FiniteMap Identifier Round1Package))
    (original sender : Identifier)
    (package : Round1Package)
    (otherOriginal otherSender : Identifier) :
    broadcastedBy (insertBroadcast broadcasted original sender package)
        otherOriginal otherSender =
      if otherOriginal = original ∧ otherSender = sender then some package
      else broadcastedBy broadcasted otherOriginal otherSender := by
  simp only [broadcastedBy, insertBroadcast, FiniteMap.lookup_insert_eq]
  by_cases sameOriginal : otherOriginal = original
  · subst sameOriginal
    by_cases sameSender : otherSender = sender
    · simp [FiniteMap.lookup_insert_eq, sameSender]
    · simp [sameSender]
  · simp [sameOriginal]

/-- Storing an echo a second time changes nothing. -/
theorem insertBroadcast_of_broadcastedBy
    {broadcasted :
      FiniteMap Identifier (FiniteMap Identifier Round1Package)}
    {original sender : Identifier}
    {package : Round1Package}
    (stored : broadcastedBy broadcasted original sender = some package) :
    insertBroadcast broadcasted original sender package = broadcasted := by
  obtain ⟨echoes, isEchoes, isPackage⟩ := broadcastedBy_eq_some_iff.mp stored
  unfold insertBroadcast
  rw [isEchoes, Option.getD_some, FiniteMap.insert_of_lookup isPackage]
  exact FiniteMap.insert_of_lookup isEchoes

end DKGSessionState

/-- The fixed data of one participant's session: the communication keys of the
session with their identifiers, at least two of them and no identifier twice,
and the participant's own key among them. -/
structure Membership (PublicKey Identifier : Type)
    [DecidableEq PublicKey] where
  pubkeys : FiniteMap PublicKey Identifier
  injective : FiniteMap.Injective pubkeys
  atLeastTwo : 2 ≤ pubkeys.keys.card
  selfPubkey : PublicKey
  selfIdentifier : Identifier
  self_lookup : pubkeys.lookup selfPubkey = some selfIdentifier

namespace Membership

variable (membership : Membership PublicKey Identifier)

/-- The identifiers of all the other participants. -/
def others : Finset Identifier :=
  (FiniteMap.values membership.pubkeys).erase membership.selfIdentifier

variable {membership}

theorem mem_others_of_lookup
    {key : PublicKey}
    {identifier : Identifier}
    (known : membership.pubkeys.lookup key = some identifier)
    (notSelf : key ≠ membership.selfPubkey) :
    identifier ∈ membership.others := by
  refine Finset.mem_erase.mpr ⟨?_, FiniteMap.mem_values.mpr ⟨key, known⟩⟩
  rintro rfl
  exact notSelf (membership.injective _ _ _ known membership.self_lookup)

theorem exists_key_of_mem_others
    {identifier : Identifier}
    (member : identifier ∈ membership.others) :
    ∃ key, key ≠ membership.selfPubkey ∧
      membership.pubkeys.lookup key = some identifier := by
  obtain ⟨notSelf, known⟩ := Finset.mem_erase.mp member
  obtain ⟨key, lookup⟩ := FiniteMap.mem_values.mp known
  refine ⟨key, ?_, lookup⟩
  rintro rfl
  exact notSelf (Option.some.inj (lookup.symm.trans membership.self_lookup))

theorem card_others :
    membership.others.card = membership.pubkeys.keys.card - 1 := by
  rw [others, Finset.card_erase_of_mem
    (FiniteMap.mem_values.mpr ⟨_, membership.self_lookup⟩),
    FiniteMap.card_values membership.injective]

theorem others_nonempty : membership.others.Nonempty := by
  have := membership.atLeastTwo
  rw [← Finset.card_pos, card_others]
  omega

end Membership

section Collecting

variable {α : Type}
variable (membership : Membership PublicKey Identifier)

/-- A value was received from every other participant. -/
def FromAll (received : PublicKey → α → Prop) : Prop :=
  ∀ key identifier, key ≠ membership.selfPubkey →
    membership.pubkeys.lookup key = some identifier →
      ∃ value, received key value

/-- There is another participant to receive something from. -/
theorem FromAll.exists_received
    {membership : Membership PublicKey Identifier}
    {received : PublicKey → α → Prop}
    (all : FromAll membership received) :
    ∃ key value, received key value := by
  obtain ⟨identifier, member⟩ := membership.others_nonempty
  obtain ⟨key, notSelf, known⟩ := Membership.exists_key_of_mem_others member
  obtain ⟨value, heard⟩ := all key identifier notSelf known
  exact ⟨key, value, heard⟩

/-- The map is filled from what the other participants sent, and from everyone
who sent something. -/
structure Collected
    (received : PublicKey → α → Prop)
    (map : FiniteMap Identifier α) : Prop where
  provenance : ∀ {identifier value},
    map.lookup identifier = some value →
      ∃ key, key ≠ membership.selfPubkey ∧
        membership.pubkeys.lookup key = some identifier ∧ received key value
  total : ∀ {key identifier value},
    membership.pubkeys.lookup key = some identifier →
      received key value → identifier ∈ map.keys

namespace Collected

variable {membership}
variable {received received' : PublicKey → α → Prop}
variable {map : FiniteMap Identifier α}

theorem empty (nothing : ∀ key value, ¬received key value) :
    Collected membership received ∅ where
  provenance := by simp
  total := fun _ received => absurd received (nothing _ _)

/-- Storing the value of one more message. -/
theorem insert
    {sender : PublicKey}
    {identifier : Identifier}
    {value : α}
    (collected : Collected membership received map)
    (step : ∀ key other,
      received' key other ↔
        received key other ∨ (sender = key ∧ value = other))
    (known : membership.pubkeys.lookup sender = some identifier)
    (notSelf : sender ≠ membership.selfPubkey) :
    Collected membership received' (map.insert identifier value) where
  provenance := by
    intro other stored lookup
    rw [FiniteMap.lookup_insert_eq] at lookup
    split_ifs at lookup with same
    · obtain rfl := Option.some.inj lookup
      exact ⟨sender, notSelf, same ▸ known,
        (step _ _).mpr (Or.inr ⟨rfl, rfl⟩)⟩
    · obtain ⟨key, keyNotSelf, keyKnown, before⟩ :=
        collected.provenance lookup
      exact ⟨key, keyNotSelf, keyKnown, (step _ _).mpr (Or.inl before)⟩
  total := by
    intro key other stored keyKnown after
    rw [FiniteMap.keys_insert, Finset.mem_insert]
    rcases (step _ _).mp after with before | ⟨rfl, -⟩
    · exact Or.inr (collected.total keyKnown before)
    · exact Or.inl (Option.some.inj (keyKnown.symm.trans known))

theorem keys_subset (collected : Collected membership received map) :
    map.keys ⊆ membership.others := by
  intro identifier member
  obtain ⟨value, lookup⟩ := FiniteMap.mem_keys_iff_lookup.mp member
  obtain ⟨key, notSelf, known, -⟩ := collected.provenance lookup
  exact Membership.mem_others_of_lookup known notSelf

/-- The map is full exactly when everybody was heard. -/
theorem keys_eq_others_iff (collected : Collected membership received map) :
    map.keys = membership.others ↔ FromAll membership received := by
  constructor
  · intro full key identifier notSelf known
    have member : identifier ∈ map.keys := by
      rw [full]
      exact Membership.mem_others_of_lookup known notSelf
    obtain ⟨value, lookup⟩ := FiniteMap.mem_keys_iff_lookup.mp member
    obtain ⟨other, -, otherKnown, heard⟩ := collected.provenance lookup
    obtain rfl : other = key :=
      membership.injective _ _ _ otherKnown known
    exact ⟨value, heard⟩
  · intro all
    refine Finset.Subset.antisymm collected.keys_subset ?_
    intro identifier member
    obtain ⟨key, notSelf, known⟩ := Membership.exists_key_of_mem_others member
    obtain ⟨value, heard⟩ := all key identifier notSelf known
    exact collected.total known heard

/-- The completion test by counting agrees with the one by key sets. -/
theorem card_keys_eq_iff (collected : Collected membership received map) :
    map.keys.card = membership.pubkeys.keys.card - 1 ↔
      map.keys = membership.others := by
  rw [← Membership.card_others]
  constructor
  · intro count
    exact Finset.eq_of_subset_of_card_le collected.keys_subset count.ge
  · rintro full
    rw [full]

end Collected
end Collecting

section Phases

variable (membership : Membership PublicKey Identifier)
variable (wire : DkgWire Payload Identifier Round1Package Round2Package)
variable (log : List (Msg PublicKey Payload))

/-- An echo by every other participant about every third one was accepted. -/
def AllBroadcast : Prop :=
  ∀ key identifier original, key ≠ membership.selfPubkey →
    membership.pubkeys.lookup key = some identifier →
      original ∈ membership.others → original ≠ identifier →
        ∃ package, ReceivedBroadcast wire log key original package

/-- The map of echoes is filled from accepted echoes, each of them equal to the
package of the original sender. -/
structure BroadcastStored
    (round1Packages : FiniteMap Identifier Round1Package)
    (broadcasted :
      FiniteMap Identifier (FiniteMap Identifier Round1Package)) : Prop where
  received : ∀ {key sender original package},
    membership.pubkeys.lookup key = some sender →
      (DKGSessionState.broadcastedBy broadcasted original sender =
          some package ↔
        ReceivedBroadcast wire log key original package)
  placed : ∀ {original sender package},
    DKGSessionState.broadcastedBy broadcasted original sender =
        some package →
      original ∈ membership.others ∧ sender ∈ membership.others ∧
        original ≠ sender ∧ round1Packages.lookup original = some package
  inhabited : ∀ {original inner},
    broadcasted.lookup original = some inner → inner.keys.Nonempty

/-- The echo broadcast is over: every echo was accepted and agreed with the
package of its original sender. -/
structure BroadcastSettled
    (round1Packages : FiniteMap Identifier Round1Package) : Prop where
  all : AllBroadcast membership wire log
  agree : ∀ {key identifier original package},
    membership.pubkeys.lookup key = some identifier →
      ReceivedBroadcast wire log key original package →
        round1Packages.lookup original = some package

/-- The session state agrees with the accepted messages. -/
def Consistent :
    DKGSessionState PublicKey Identifier Round1Package Round2Package → Prop
  | .waitingForRound1Packages pubkeys round1Packages =>
      pubkeys = membership.pubkeys ∧
      Collected membership (ReceivedRound1 wire log) round1Packages ∧
      round1Packages.keys ≠ membership.others ∧
      (∀ key original package,
        ¬ReceivedBroadcast wire log key original package) ∧
      (∀ key package, ¬ReceivedRound2 wire log key package)
  | .waitingForRound1PackagesBroadcast pubkeys round1Packages broadcasted =>
      pubkeys = membership.pubkeys ∧
      Collected membership (ReceivedRound1 wire log) round1Packages ∧
      round1Packages.keys = membership.others ∧
      BroadcastStored membership wire log round1Packages broadcasted ∧
      ¬AllBroadcast membership wire log ∧
      (∀ key package, ¬ReceivedRound2 wire log key package)
  | .waitingForRound2Packages pubkeys round1Packages round2Packages =>
      pubkeys = membership.pubkeys ∧
      Collected membership (ReceivedRound1 wire log) round1Packages ∧
      round1Packages.keys = membership.others ∧
      BroadcastSettled membership wire log round1Packages ∧
      Collected membership (ReceivedRound2 wire log) round2Packages ∧
      round2Packages.keys ≠ membership.others
  | .round2PackagesReady pubkeys round2Packages =>
      pubkeys = membership.pubkeys ∧
      (∃ round1Packages,
        Collected membership (ReceivedRound1 wire log) round1Packages ∧
        round1Packages.keys = membership.others ∧
        BroadcastSettled membership wire log round1Packages) ∧
      Collected membership (ReceivedRound2 wire log) round2Packages ∧
      round2Packages.keys = membership.others

end Phases

section Preservation

variable {membership : Membership PublicKey Identifier}
variable {wire : DkgWire Payload Identifier Round1Package Round2Package}
variable {log : List (Msg PublicKey Payload)}
variable {msg : Msg PublicKey Payload}

/-- Appending a message keeps what was received. -/
theorem AllBroadcast.append
    (all : AllBroadcast membership wire log) :
    AllBroadcast membership wire (log ++ [msg]) := by
  intro key identifier original notSelf known member different
  obtain ⟨package, received⟩ :=
    all key identifier original notSelf known member different
  exact ⟨package, receivedBroadcast_append.mpr (Or.inl received)⟩

/-- Once full, the echo test of the source says that every echo has arrived. -/
theorem BroadcastStored.complete_iff
    [DecidableEq Round1Package]
    {round1Packages : FiniteMap Identifier Round1Package}
    {broadcasted : FiniteMap Identifier (FiniteMap Identifier Round1Package)}
    (stored :
      BroadcastStored membership wire log round1Packages broadcasted)
    (full : round1Packages.keys = membership.others)
    (manyOthers : 2 ≤ membership.others.card) :
    DKGSessionState.broadcastComplete round1Packages broadcasted = true ↔
      AllBroadcast membership wire log := by
  rw [DKGSessionState.broadcastComplete_iff, full]
  constructor
  · rintro ⟨originals, inners⟩ key identifier original notSelf known member
      different
    rw [← originals] at member
    obtain ⟨inner, innerLookup⟩ := FiniteMap.mem_keys_iff_lookup.mp member
    have echoes : identifier ∈ insert original inner.keys := by
      rw [(inners original inner innerLookup).1]
      exact Membership.mem_others_of_lookup known notSelf
    have echoed : identifier ∈ inner.keys :=
      (Finset.mem_insert.mp echoes).resolve_left (Ne.symm different)
    obtain ⟨package, lookup⟩ := FiniteMap.mem_keys_iff_lookup.mp echoed
    exact ⟨package, (stored.received known).mp
      (DKGSessionState.broadcastedBy_eq_some_iff.mpr
        ⟨inner, innerLookup, lookup⟩)⟩
  · intro all
    have echo : ∀ original ∈ membership.others, ∀ sender ∈ membership.others,
        original ≠ sender → ∃ inner package,
          broadcasted.lookup original = some inner ∧
            inner.lookup sender = some package := by
      intro original originalMember sender senderMember different
      obtain ⟨key, notSelf, known⟩ :=
        Membership.exists_key_of_mem_others senderMember
      obtain ⟨package, received⟩ :=
        all key sender original notSelf known originalMember different
      obtain ⟨inner, innerLookup, lookup⟩ :=
        DKGSessionState.broadcastedBy_eq_some_iff.mp
          ((stored.received known).mpr received)
      exact ⟨inner, package, innerLookup, lookup⟩
    have placed : ∀ {original sender inner package},
        broadcasted.lookup original = some inner →
          inner.lookup sender = some package →
            original ∈ membership.others ∧ sender ∈ membership.others ∧
              original ≠ sender ∧
                round1Packages.lookup original = some package := by
      intro original sender inner package innerLookup lookup
      exact stored.placed (DKGSessionState.broadcastedBy_eq_some_iff.mpr
        ⟨inner, innerLookup, lookup⟩)
    have original_mem : ∀ {original inner},
        broadcasted.lookup original = some inner →
          original ∈ membership.others := by
      intro original inner innerLookup
      obtain ⟨sender, member⟩ := stored.inhabited innerLookup
      obtain ⟨package, lookup⟩ := FiniteMap.mem_keys_iff_lookup.mp member
      exact (placed innerLookup lookup).1
    refine ⟨?_, ?_⟩
    · ext original
      rw [FiniteMap.mem_keys_iff_lookup]
      constructor
      · rintro ⟨inner, innerLookup⟩
        exact original_mem innerLookup
      · intro member
        -- a second other participant exists, and it echoed this one
        obtain ⟨sender, senderMember, different⟩ :=
          Finset.exists_mem_ne manyOthers original
        obtain ⟨inner, -, innerLookup, -⟩ :=
          echo original member sender senderMember (Ne.symm different)
        exact ⟨inner, innerLookup⟩
    · intro original inner innerLookup
      refine ⟨?_, fun sender package lookup =>
        (placed innerLookup lookup).2.2.2⟩
      ext sender
      rw [Finset.mem_insert, FiniteMap.mem_keys_iff_lookup]
      constructor
      · rintro (rfl | ⟨package, lookup⟩)
        · exact original_mem innerLookup
        · exact (placed innerLookup lookup).2.1
      · intro member
        by_cases same : sender = original
        · exact Or.inl same
        · obtain ⟨otherInner, package, otherLookup, lookup⟩ :=
            echo original (original_mem innerLookup) sender member
              (Ne.symm same)
          obtain rfl : inner = otherInner :=
            Option.some.inj (innerLookup.symm.trans otherLookup)
          exact Or.inr ⟨package, lookup⟩

/-- Storing one more echo. -/
theorem BroadcastStored.insert
    {round1Packages : FiniteMap Identifier Round1Package}
    {broadcasted : FiniteMap Identifier (FiniteMap Identifier Round1Package)}
    {original identifier : Identifier}
    {package : Round1Package}
    (stored :
      BroadcastStored membership wire log round1Packages broadcasted)
    (decoded : wire.fromSliceBroadcast msg.msg = some (original, package))
    (known : membership.pubkeys.lookup msg.sender = some identifier)
    (notSelf : msg.sender ≠ membership.selfPubkey)
    (originalMember : original ∈ membership.others)
    (notRedundant : original ≠ identifier)
    (matching : round1Packages.lookup original = some package)
    (fresh :
      DKGSessionState.broadcastedBy broadcasted original identifier = none) :
    BroadcastStored membership wire (log ++ [msg]) round1Packages
      (DKGSessionState.insertBroadcast broadcasted original identifier
        package) where
  received := by
    intro key sender otherOriginal otherPackage keyKnown
    rw [DKGSessionState.broadcastedBy_insertBroadcast, receivedBroadcast_append,
      decoded, ← stored.received keyKnown]
    split_ifs with same
    · obtain ⟨rfl, rfl⟩ := same
      obtain rfl : key = msg.sender :=
        membership.injective _ _ _ keyKnown known
      simp [fresh]
    · have different : ¬(msg.sender = key ∧
          some (original, package) = some (otherOriginal, otherPackage)) := by
        rintro ⟨rfl, equal⟩
        obtain ⟨rfl, rfl⟩ := Prod.mk.inj (Option.some.inj equal)
        exact same ⟨rfl, Option.some.inj (keyKnown.symm.trans known)⟩
      rw [or_iff_left different]
  placed := by
    intro otherOriginal sender otherPackage lookup
    rw [DKGSessionState.broadcastedBy_insertBroadcast] at lookup
    split_ifs at lookup with same
    · obtain ⟨rfl, rfl⟩ := same
      obtain rfl := Option.some.inj lookup
      exact ⟨originalMember,
        Membership.mem_others_of_lookup known notSelf, notRedundant, matching⟩
    · exact stored.placed lookup
  inhabited := by
    intro otherOriginal inner lookup
    rw [DKGSessionState.insertBroadcast, FiniteMap.lookup_insert_eq] at lookup
    split_ifs at lookup with same
    · obtain rfl := Option.some.inj lookup
      exact ⟨identifier, by simp⟩
    · exact stored.inhabited lookup

/-- Storing an echo a second time changes no entry. -/
theorem BroadcastStored.insert_duplicate
    {round1Packages : FiniteMap Identifier Round1Package}
    {broadcasted : FiniteMap Identifier (FiniteMap Identifier Round1Package)}
    {original identifier : Identifier}
    {package : Round1Package}
    (stored :
      BroadcastStored membership wire log round1Packages broadcasted)
    (matching : round1Packages.lookup original = some package)
    (duplicate :
      (DKGSessionState.broadcastedBy broadcasted original identifier).isSome) :
    BroadcastStored membership wire log round1Packages
      (DKGSessionState.insertBroadcast broadcasted original identifier
        package) := by
  obtain ⟨earlier, lookup⟩ := Option.isSome_iff_exists.mp duplicate
  have same : earlier = package := by
    rw [← Option.some.injEq, ← matching, (stored.placed lookup).2.2.2]
  rw [DKGSessionState.insertBroadcast_of_broadcastedBy (same ▸ lookup)]
  exact stored

/-- Advancing after a Round 1 Package lands in the phase the log asks for. -/
theorem consistent_advanceRound1
    {round1Packages : FiniteMap Identifier Round1Package}
    (collected : Collected membership (ReceivedRound1 wire log) round1Packages)
    (noBroadcast : ∀ key original package,
      ¬ReceivedBroadcast wire log key original package)
    (noRound2 : ∀ key package, ¬ReceivedRound2 wire log key package) :
    Consistent membership wire log
      (DKGSessionState.advanceRound1 membership.pubkeys round1Packages) := by
  unfold DKGSessionState.advanceRound1
  split_ifs with count many
  · have full := collected.card_keys_eq_iff.mp count
    refine ⟨rfl, collected, full, ?_, ?_, noRound2⟩
    · exact
        { received := by simp [noBroadcast]
          placed := by simp
          inhabited := by simp }
    · -- with three participants somebody must echo about a third one
      have manyOthers : 1 < membership.others.card := by
        rw [Membership.card_others]
        omega
      obtain ⟨first, firstMember, second, secondMember, different⟩ :=
        Finset.one_lt_card.mp manyOthers
      obtain ⟨key, notSelf, known⟩ :=
        Membership.exists_key_of_mem_others firstMember
      intro all
      obtain ⟨package, received⟩ :=
        all key first second notSelf known secondMember different.symm
      exact noBroadcast _ _ _ received
  · have full := collected.card_keys_eq_iff.mp count
    refine ⟨rfl, collected, full, ⟨?_, ?_⟩, .empty noRound2, ?_⟩
    · -- two participants: there is no third one to echo about
      intro key identifier original notSelf known member different
      have single : membership.others.card ≤ 1 := by
        rw [Membership.card_others]
        omega
      exact absurd (Finset.card_le_one.mp single _ member _
        (Membership.mem_others_of_lookup known notSelf)) different
    · intro key identifier original package known received
      exact absurd received (noBroadcast _ _ _)
    · rw [Finmap.keys_empty]
      exact (Finset.Nonempty.ne_empty Membership.others_nonempty).symm
  · exact ⟨rfl, collected,
      fun full => count (collected.card_keys_eq_iff.mpr full),
      noBroadcast, noRound2⟩

/-- A fresh session agrees with the empty log. -/
theorem consistent_initial :
    Consistent membership wire []
      (.waitingForRound1Packages membership.pubkeys ∅) := by
  refine ⟨rfl, .empty (by simp [ReceivedRound1]), ?_,
    by simp [ReceivedBroadcast], by simp [ReceivedRound2]⟩
  rw [Finmap.keys_empty]
  exact (Finset.Nonempty.ne_empty Membership.others_nonempty).symm

/-- Every accepted message of another participant keeps state and log in
agreement. -/
theorem consistent_recv
    [DecidableEq Round1Package]
    {state next :
      DKGSessionState PublicKey Identifier Round1Package Round2Package}
    (consistent : Consistent membership wire log state)
    (notSelf : msg.sender ≠ membership.selfPubkey)
    (received : DKGSessionState.recv wire state msg membership.selfIdentifier =
      (next, .ok ())) :
    Consistent membership wire (log ++ [msg]) next := by
  cases DKGSessionState.recv_eq_ok_iff.mp received with
  | round1 decoded known =>
      obtain ⟨rfl, collected, -, noBroadcast, noRound2⟩ := consistent
      refine consistent_advanceRound1
        (collected.insert (receivedRound1_append_of_some decoded) known notSelf)
        ?_ ?_
      · rwa [receivedBroadcast_append_of_none (wire.broadcast_of_round1 decoded)]
      · rwa [receivedRound2_append_of_none (wire.round2_of_round1 decoded)]
  | broadcast decoded known originalKnown notOwn notRedundant matching fresh =>
      obtain ⟨rfl, collected, full, stored, -, noRound2⟩ := consistent
      have noRound1 := wire.round1_of_broadcast decoded
      have originalMember := Finset.mem_erase.mpr ⟨notOwn, originalKnown⟩
      have stored' := stored.insert decoded known notSelf originalMember
        notRedundant matching fresh
      have manyOthers : 2 ≤ membership.others.card :=
        Finset.one_lt_card.mpr ⟨_, originalMember, _,
          Membership.mem_others_of_lookup known notSelf, notRedundant⟩
      have complete := stored'.complete_iff full manyOthers
      rw [← receivedRound1_append_of_none noRound1] at collected
      rw [← receivedRound2_append_of_none
        (wire.round2_of_broadcast decoded)] at noRound2
      unfold DKGSessionState.advanceBroadcast
      split_ifs with done
      · refine ⟨rfl, collected, full,
          ⟨complete.mp done, ?_⟩, .empty noRound2, ?_⟩
        · intro key identifier original package keyKnown echoed
          exact (stored'.placed ((stored'.received keyKnown).mpr echoed)).2.2.2
        · rw [Finmap.keys_empty]
          exact (Finset.Nonempty.ne_empty Membership.others_nonempty).symm
      · exact ⟨rfl, collected, full, stored',
          fun all => done (complete.mpr all), noRound2⟩
  | round2 decoded known participates =>
      obtain ⟨rfl, collected, full, settled, round2, -⟩ := consistent
      have noRound1 := wire.round1_of_round2 decoded
      have noBroadcast := wire.broadcast_of_round2 decoded
      rw [← receivedRound1_append_of_none noRound1] at collected
      have settled' : BroadcastSettled membership wire (log ++ [msg]) _ :=
        ⟨settled.all.append, by
          rw [receivedBroadcast_append_of_none noBroadcast]
          exact settled.agree⟩
      have round2' :=
        round2.insert (receivedRound2_append_of_some decoded) known notSelf
      unfold DKGSessionState.advanceRound2
      rw [full]
      split_ifs with done
      · exact ⟨rfl, ⟨_, collected, full, settled'⟩, round2', done⟩
      · exact ⟨rfl, collected, full, settled', round2', done⟩

/-- A rejected message keeps state and log in agreement too. -/
theorem consistent_recv_error
    [DecidableEq Round1Package]
    {state next :
      DKGSessionState PublicKey Identifier Round1Package Round2Package}
    {error : SessionError}
    (consistent : Consistent membership wire log state)
    (received : DKGSessionState.recv wire state msg membership.selfIdentifier =
      (next, .error error)) :
    Consistent membership wire log next := by
  rcases DKGSessionState.state_of_recv_error received with rfl |
    ⟨_, _, _, _, _, _, rfl, rfl, matching, duplicate⟩
  · exact consistent
  · obtain ⟨known, collected, full, stored, missing, noRound2⟩ := consistent
    exact ⟨known, collected, full, stored.insert_duplicate matching duplicate,
      missing, noRound2⟩

/-- The phase of a session state is read off what was received. -/
def PhaseAgrees
    (membership : Membership PublicKey Identifier)
    (wire : DkgWire Payload Identifier Round1Package Round2Package)
    (log : List (Msg PublicKey Payload)) :
    DKGSessionState PublicKey Identifier Round1Package Round2Package → Prop
  | .waitingForRound1Packages _ _ =>
      ¬FromAll membership (ReceivedRound1 wire log)
  | .waitingForRound1PackagesBroadcast _ _ _ =>
      FromAll membership (ReceivedRound1 wire log) ∧
        ¬AllBroadcast membership wire log
  | .waitingForRound2Packages _ _ _ =>
      FromAll membership (ReceivedRound1 wire log) ∧
        AllBroadcast membership wire log ∧
        ¬FromAll membership (ReceivedRound2 wire log)
  | .round2PackagesReady _ _ =>
      FromAll membership (ReceivedRound1 wire log) ∧
        AllBroadcast membership wire log ∧
        FromAll membership (ReceivedRound2 wire log)

theorem Consistent.phase
    {state :
      DKGSessionState PublicKey Identifier Round1Package Round2Package}
    (consistent : Consistent membership wire log state) :
    PhaseAgrees membership wire log state := by
  cases state with
  | waitingForRound1Packages pubkeys packages =>
      obtain ⟨-, collected, missing, -⟩ := consistent
      exact fun all => missing (collected.keys_eq_others_iff.mpr all)
  | waitingForRound1PackagesBroadcast pubkeys packages broadcasted =>
      obtain ⟨-, collected, full, -, missing, -⟩ := consistent
      exact ⟨collected.keys_eq_others_iff.mp full, missing⟩
  | waitingForRound2Packages pubkeys packages round2Packages =>
      obtain ⟨-, collected, full, settled, round2, missing⟩ := consistent
      exact ⟨collected.keys_eq_others_iff.mp full, settled.all,
        fun all => missing (round2.keys_eq_others_iff.mpr all)⟩
  | round2PackagesReady pubkeys round2Packages =>
      obtain ⟨-, ⟨_, collected, full, settled⟩, round2, round2Full⟩ :=
        consistent
      exact ⟨collected.keys_eq_others_iff.mp full, settled.all,
        round2.keys_eq_others_iff.mp round2Full⟩

end Preservation

end Dkg
end MinaMultiSig
