import MinaMultiSig.Library.FiniteMap

/-!
# The DKG session state machine

`DKGSessionState` of `mina-frost-client/src/session.rs` with its receive
handlers, its completion tests and its accessors. A handler returns the state it
leaves behind next to its result, because the source mutates `self` and may
still return an error afterwards.

Payload bytes stay abstract: `DkgWire` is what `serde_json` does with the three
payloads of the protocol. An accessor that panics in the wrong state returns
`none` there.
-/

namespace MinaMultiSig

/-- A message as a session sees it: the authenticated sender and the decrypted
payload. -/
structure Msg (PublicKey Payload : Type) where
  sender : PublicKey
  msg : Payload
  deriving DecidableEq

/-- What `recv` reports: a `serde_json` error or an `eyre!` text. -/
inductive SessionError
  | serdeJson
  | report (message : String)
  deriving DecidableEq

namespace Dkg

/-- The JSON codecs of the three DKG payloads. A Round 1 Package is a JSON
object (or a three-element array), a broadcast is a two-element array whose
first element is an identifier string, and a Round 2 Package is an object
without the Round 1 fields, so no document decodes as two of them. -/
structure DkgWire
    (Payload Identifier Round1Package Round2Package : Type) where
  toVecRound1 : Round1Package → Payload
  toVecBroadcast : Identifier → Round1Package → Payload
  toVecRound2 : Round2Package → Payload
  fromSliceRound1 : Payload → Option Round1Package
  fromSliceBroadcast : Payload → Option (Identifier × Round1Package)
  fromSliceRound2 : Payload → Option Round2Package
  round1_roundTrip : ∀ package,
    fromSliceRound1 (toVecRound1 package) = some package
  broadcast_roundTrip : ∀ identifier package,
    fromSliceBroadcast (toVecBroadcast identifier package) =
      some (identifier, package)
  round2_roundTrip : ∀ package,
    fromSliceRound2 (toVecRound2 package) = some package
  broadcast_of_round1 : ∀ {payload package},
    fromSliceRound1 payload = some package → fromSliceBroadcast payload = none
  round2_of_round1 : ∀ {payload package},
    fromSliceRound1 payload = some package → fromSliceRound2 payload = none
  round2_of_broadcast : ∀ {payload package},
    fromSliceBroadcast payload = some package → fromSliceRound2 payload = none

variable {PublicKey Identifier Round1Package Round2Package Payload : Type}

namespace DkgWire

variable (wire : DkgWire Payload Identifier Round1Package Round2Package)

attribute [simp] round1_roundTrip broadcast_roundTrip round2_roundTrip

/-- A payload that decodes as an echo or a Round 2 Package is no Round 1
Package. -/
theorem round1_of_broadcast
    {payload : Payload}
    {package : Identifier × Round1Package}
    (decoded : wire.fromSliceBroadcast payload = some package) :
    wire.fromSliceRound1 payload = none := by
  cases round1 : wire.fromSliceRound1 payload with
  | none => rfl
  | some other => simp [wire.broadcast_of_round1 round1] at decoded

theorem round1_of_round2
    {payload : Payload}
    {package : Round2Package}
    (decoded : wire.fromSliceRound2 payload = some package) :
    wire.fromSliceRound1 payload = none := by
  cases round1 : wire.fromSliceRound1 payload with
  | none => rfl
  | some other => simp [wire.round2_of_round1 round1] at decoded

theorem broadcast_of_round2
    {payload : Payload}
    {package : Round2Package}
    (decoded : wire.fromSliceRound2 payload = some package) :
    wire.fromSliceBroadcast payload = none := by
  cases broadcast : wire.fromSliceBroadcast payload with
  | none => rfl
  | some other => simp [wire.round2_of_broadcast broadcast] at decoded

@[simp] theorem fromSliceBroadcast_toVecRound1 (package : Round1Package) :
    wire.fromSliceBroadcast (wire.toVecRound1 package) = none :=
  wire.broadcast_of_round1 (wire.round1_roundTrip package)

@[simp] theorem fromSliceRound2_toVecRound1 (package : Round1Package) :
    wire.fromSliceRound2 (wire.toVecRound1 package) = none :=
  wire.round2_of_round1 (wire.round1_roundTrip package)

@[simp] theorem fromSliceRound1_toVecBroadcast
    (identifier : Identifier)
    (package : Round1Package) :
    wire.fromSliceRound1 (wire.toVecBroadcast identifier package) = none :=
  wire.round1_of_broadcast (wire.broadcast_roundTrip identifier package)

@[simp] theorem fromSliceRound2_toVecBroadcast
    (identifier : Identifier)
    (package : Round1Package) :
    wire.fromSliceRound2 (wire.toVecBroadcast identifier package) = none :=
  wire.round2_of_broadcast (wire.broadcast_roundTrip identifier package)

@[simp] theorem fromSliceRound1_toVecRound2 (package : Round2Package) :
    wire.fromSliceRound1 (wire.toVecRound2 package) = none :=
  wire.round1_of_round2 (wire.round2_roundTrip package)

@[simp] theorem fromSliceBroadcast_toVecRound2 (package : Round2Package) :
    wire.fromSliceBroadcast (wire.toVecRound2 package) = none :=
  wire.broadcast_of_round2 (wire.round2_roundTrip package)

end DkgWire

/-- The current state of a DKG session. -/
inductive DKGSessionState
    (PublicKey Identifier Round1Package Round2Package : Type)
  | waitingForRound1Packages
      (pubkeys : FiniteMap PublicKey Identifier)
      (round1Packages : FiniteMap Identifier Round1Package)
  | waitingForRound1PackagesBroadcast
      (pubkeys : FiniteMap PublicKey Identifier)
      (round1Packages : FiniteMap Identifier Round1Package)
      (round1BroadcastedPackages :
        FiniteMap Identifier (FiniteMap Identifier Round1Package))
  | waitingForRound2Packages
      (pubkeys : FiniteMap PublicKey Identifier)
      (round1Packages : FiniteMap Identifier Round1Package)
      (round2Packages : FiniteMap Identifier Round2Package)
  | round2PackagesReady
      (pubkeys : FiniteMap PublicKey Identifier)
      (round2Packages : FiniteMap Identifier Round2Package)
  deriving DecidableEq

namespace DKGSessionState

variable [DecidableEq PublicKey] [DecidableEq Identifier]

/-- The state after a Round 1 Package was stored: advance once the map holds
one package for every other participant, skipping the echo broadcast when there
are only two participants. -/
def advanceRound1
    (pubkeys : FiniteMap PublicKey Identifier)
    (round1Packages : FiniteMap Identifier Round1Package) :
    DKGSessionState PublicKey Identifier Round1Package Round2Package :=
  if round1Packages.keys.card = pubkeys.keys.card - 1 then
    if pubkeys.keys.card > 2 then
      .waitingForRound1PackagesBroadcast pubkeys round1Packages ∅
    else
      .waitingForRound2Packages pubkeys round1Packages ∅
  else
    .waitingForRound1Packages pubkeys round1Packages

/-- Handle a Round 1 Package in `WaitingForRound1Packages`. An earlier package
of the same sender is overwritten. -/
def handleRound1Package
    (pubkeys : FiniteMap PublicKey Identifier)
    (round1Packages : FiniteMap Identifier Round1Package)
    (pubkey : PublicKey)
    (round1Package : Round1Package) :
    DKGSessionState PublicKey Identifier Round1Package Round2Package ×
      Except SessionError Unit :=
  match pubkeys.lookup pubkey with
  | none =>
      (.waitingForRound1Packages pubkeys round1Packages,
        .error (.report "unknown participant"))
  | some identifier =>
      (advanceRound1 pubkeys (round1Packages.insert identifier round1Package),
        .ok ())

/-- The completion test of the echo broadcast: a map for every original sender,
each with the packages echoed by all the other participants, each of them equal
to the original. -/
def broadcastComplete
    [DecidableEq Round1Package]
    (round1Packages : FiniteMap Identifier Round1Package)
    (round1BroadcastedPackages :
      FiniteMap Identifier (FiniteMap Identifier Round1Package)) : Bool :=
  let otherIdentifiers := round1Packages.keys
  decide (round1BroadcastedPackages.keys = otherIdentifiers) &&
    decide (∀ entry ∈ round1BroadcastedPackages.entries,
      insert entry.1 entry.2.keys = otherIdentifiers ∧
        ∀ echo ∈ entry.2.entries,
          some echo.2 = round1Packages.lookup entry.1)

/-- The state after an echo was stored. -/
def advanceBroadcast
    [DecidableEq Round1Package]
    (pubkeys : FiniteMap PublicKey Identifier)
    (round1Packages : FiniteMap Identifier Round1Package)
    (round1BroadcastedPackages :
      FiniteMap Identifier (FiniteMap Identifier Round1Package)) :
    DKGSessionState PublicKey Identifier Round1Package Round2Package :=
  if broadcastComplete round1Packages round1BroadcastedPackages then
    .waitingForRound2Packages pubkeys round1Packages ∅
  else
    .waitingForRound1PackagesBroadcast pubkeys round1Packages
      round1BroadcastedPackages

/-- `entry(original).or_insert_with(BTreeMap::new).insert(sender, package)`. -/
def insertBroadcast
    (round1BroadcastedPackages :
      FiniteMap Identifier (FiniteMap Identifier Round1Package))
    (originalIdentifier senderIdentifier : Identifier)
    (round1Package : Round1Package) :
    FiniteMap Identifier (FiniteMap Identifier Round1Package) :=
  round1BroadcastedPackages.insert originalIdentifier
    (((round1BroadcastedPackages.lookup originalIdentifier).getD ∅).insert
      senderIdentifier round1Package)

/-- The package of `originalIdentifier` echoed by `senderIdentifier`, if any. -/
def broadcastedBy
    (round1BroadcastedPackages :
      FiniteMap Identifier (FiniteMap Identifier Round1Package))
    (originalIdentifier senderIdentifier : Identifier) :
    Option Round1Package :=
  ((round1BroadcastedPackages.lookup originalIdentifier).getD ∅).lookup
    senderIdentifier

/-- Handle an echo in `WaitingForRound1PackagesBroadcast`. The duplicate is
noticed only after it was stored. -/
def handleRound1PackageBroadcast
    [DecidableEq Round1Package]
    (pubkeys : FiniteMap PublicKey Identifier)
    (round1Packages : FiniteMap Identifier Round1Package)
    (round1BroadcastedPackages :
      FiniteMap Identifier (FiniteMap Identifier Round1Package))
    (senderPubkey : PublicKey)
    (selfIdentifier originalIdentifier : Identifier)
    (round1Package : Round1Package) :
    DKGSessionState PublicKey Identifier Round1Package Round2Package ×
      Except SessionError Unit :=
  let unchanged :
      DKGSessionState PublicKey Identifier Round1Package Round2Package :=
    .waitingForRound1PackagesBroadcast pubkeys round1Packages
      round1BroadcastedPackages
  match pubkeys.lookup senderPubkey with
  | none => (unchanged, .error (.report "unknown participant"))
  | some senderIdentifier =>
      if originalIdentifier ∉ FiniteMap.values pubkeys then
        (unchanged, .error (.report "unknown participant"))
      else if originalIdentifier = selfIdentifier then
        (unchanged,
          .error (.report "received own broadcast Round 1 Package"))
      else if originalIdentifier = senderIdentifier then
        (unchanged,
          .error (.report "received redundant broadcast Round 1 Package"))
      else
        match round1Packages.lookup originalIdentifier with
        | none => (unchanged, .error (.report "Round 1 Package not found"))
        | some original =>
            if original ≠ round1Package then
              (unchanged, .error (.report "broadcast mismatch"))
            else
              let stored := insertBroadcast round1BroadcastedPackages
                originalIdentifier senderIdentifier round1Package
              if (broadcastedBy round1BroadcastedPackages
                  originalIdentifier senderIdentifier).isSome then
                (.waitingForRound1PackagesBroadcast pubkeys round1Packages
                    stored,
                  .error (.report "duplicated broadcast Round 1 Package"))
              else
                (advanceBroadcast pubkeys round1Packages stored, .ok ())

/-- The state after a Round 2 Package was stored. -/
def advanceRound2
    (pubkeys : FiniteMap PublicKey Identifier)
    (round1Packages : FiniteMap Identifier Round1Package)
    (round2Packages : FiniteMap Identifier Round2Package) :
    DKGSessionState PublicKey Identifier Round1Package Round2Package :=
  if round2Packages.keys = round1Packages.keys then
    .round2PackagesReady pubkeys round2Packages
  else
    .waitingForRound2Packages pubkeys round1Packages round2Packages

/-- Handle a Round 2 Package in `WaitingForRound2Packages`. -/
def handleRound2Package
    (pubkeys : FiniteMap PublicKey Identifier)
    (round1Packages : FiniteMap Identifier Round1Package)
    (round2Packages : FiniteMap Identifier Round2Package)
    (pubkey : PublicKey)
    (round2Package : Round2Package) :
    DKGSessionState PublicKey Identifier Round1Package Round2Package ×
      Except SessionError Unit :=
  let unchanged :
      DKGSessionState PublicKey Identifier Round1Package Round2Package :=
    .waitingForRound2Packages pubkeys round1Packages round2Packages
  match pubkeys.lookup pubkey with
  | none => (unchanged, .error (.report "unknown participant"))
  | some identifier =>
      if identifier ∉ round1Packages.keys then
        (unchanged, .error (.report "unkown participant"))
      else
        (advanceRound2 pubkeys round1Packages
          (round2Packages.insert identifier round2Package), .ok ())

/-- Handle a message received from a participant. Every state decodes its own
payload type only. -/
def recv
    [DecidableEq Round1Package]
    (wire : DkgWire Payload Identifier Round1Package Round2Package)
    (state : DKGSessionState PublicKey Identifier Round1Package Round2Package)
    (msg : Msg PublicKey Payload)
    (selfIdentifier : Identifier) :
    DKGSessionState PublicKey Identifier Round1Package Round2Package ×
      Except SessionError Unit :=
  match state with
  | .waitingForRound1Packages pubkeys round1Packages =>
      match wire.fromSliceRound1 msg.msg with
      | none => (state, .error .serdeJson)
      | some round1Package =>
          handleRound1Package pubkeys round1Packages msg.sender round1Package
  | .waitingForRound1PackagesBroadcast pubkeys round1Packages broadcasted =>
      match wire.fromSliceBroadcast msg.msg with
      | none => (state, .error .serdeJson)
      | some (identifier, round1Package) =>
          handleRound1PackageBroadcast pubkeys round1Packages broadcasted
            msg.sender selfIdentifier identifier round1Package
  | .waitingForRound2Packages pubkeys round1Packages round2Packages =>
      match wire.fromSliceRound2 msg.msg with
      | none => (state, .error .serdeJson)
      | some round2Package =>
          handleRound2Package pubkeys round1Packages round2Packages msg.sender
            round2Package
  | .round2PackagesReady _ _ =>
      (state, .error (.report "received message during wrong state"))

/-- All Round 1 Packages have arrived, not yet checked by the echo broadcast. -/
def hasRound1Packages :
    DKGSessionState PublicKey Identifier Round1Package Round2Package → Bool
  | .waitingForRound1PackagesBroadcast _ _ _ => true
  | .waitingForRound2Packages _ _ _ => true
  | _ => false

/-- The Round 1 Packages received, `none` where the source panics with
"wrong state". -/
def round1Packages :
    DKGSessionState PublicKey Identifier Round1Package Round2Package →
      Option (FiniteMap Identifier Round1Package)
  | .waitingForRound2Packages _ round1Packages _ => some round1Packages
  | .waitingForRound1PackagesBroadcast _ round1Packages _ => some round1Packages
  | _ => none

/-- All echoes have arrived, or the echo broadcast was skipped. -/
def hasRound1BroadcastPackages :
    DKGSessionState PublicKey Identifier Round1Package Round2Package → Bool
  | .waitingForRound2Packages _ _ _ => true
  | _ => false

/-- All Round 2 Packages have arrived. -/
def hasRound2Packages :
    DKGSessionState PublicKey Identifier Round1Package Round2Package → Bool
  | .round2PackagesReady _ _ => true
  | _ => false

/-- The Round 2 Packages received, `none` where the source panics. -/
def round2Packages :
    DKGSessionState PublicKey Identifier Round1Package Round2Package →
      Option (FiniteMap Identifier Round2Package)
  | .round2PackagesReady _ round2Packages => some round2Packages
  | _ => none

end DKGSessionState
end Dkg
end MinaMultiSig
