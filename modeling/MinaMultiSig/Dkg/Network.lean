import MinaMultiSig.Dkg.Session
import MinaMultiSig.Library.Transition
import Mathlib.Logic.Function.Basic

/-!
# A DKG session over the message server

`HTTPComms::get_round1_packages` and `get_round2_packages` of
`mina-frost-client/src/dkg/comms/http.rs`, called by `keygen`, for every
participant of a session at once. The sending loops contain no receive, so each
is one step; every receive call with the handling of its batch and the exit test
after it is another.

The server hands a participant messages that were addressed to it, in batches of
its choice. Encryption authenticates the sender, so a message is an element of
its sender's outbox. A dishonest sender puts there what it likes.
-/

namespace MinaMultiSig
namespace Dkg

variable {PublicKey Identifier Round1Package Round2Package Payload : Type}

/-- The fixed data of a DKG session: the communication keys of the participants
with their identifiers, which of all the keys are not run by this code, and what
`part1` and `part2` give each participant. `identifiers` is the order in which a
`BTreeMap` iterates over identifiers. -/
structure Setup
    (PublicKey Identifier Round1Package Round2Package Payload : Type)
    [DecidableEq PublicKey] where
  wire : DkgWire Payload Identifier Round1Package Round2Package
  pubkeys : FiniteMap PublicKey Identifier
  injective : FiniteMap.Injective pubkeys
  atLeastTwo : 2 ≤ pubkeys.keys.card
  identifiers : List Identifier
  identifiers_nodup : identifiers.Nodup
  mem_identifiers : ∀ identifier,
    identifier ∈ identifiers ↔ ∃ key, pubkeys.lookup key = some identifier
  dishonest : Finset PublicKey
  round1Package : PublicKey → Round1Package
  part2 : PublicKey → FiniteMap Identifier Round1Package →
    Option (Identifier → Round2Package)

/-- Where a participant stands in `keygen`. -/
inductive Stage (Identifier Round1Package Round2Package : Type)
  | starting
  | receivingRound1
  | receivingBroadcast
  | round1Done (round1Packages : FiniteMap Identifier Round1Package)
  | receivingRound2 (round1Packages : FiniteMap Identifier Round1Package)
  | round2Done
      (round1Packages : FiniteMap Identifier Round1Package)
      (round2Packages : FiniteMap Identifier Round2Package)
  | recvFailed (error : SessionError)
  | part2Failed
  | panicked
  deriving DecidableEq

/-- A participant: its session state, its place in `keygen`, the messages sent
so far by recipient, the messages accepted so far, and those among them that the
first receive loop accepted. -/
structure Node
    (PublicKey Identifier Round1Package Round2Package Payload : Type) where
  state : DKGSessionState PublicKey Identifier Round1Package Round2Package
  stage : Stage Identifier Round1Package Round2Package
  outbox : PublicKey → List Payload
  log : List (Msg PublicKey Payload)
  firstLoop : List (Msg PublicKey Payload)

namespace Stage

/-- What `get_round1_packages` returned, once it has. -/
def round1Result :
    Stage Identifier Round1Package Round2Package →
      Option (FiniteMap Identifier Round1Package)
  | .round1Done round1Packages => some round1Packages
  | .receivingRound2 round1Packages => some round1Packages
  | .round2Done round1Packages _ => some round1Packages
  | _ => none

/-- The participant is inside one of the three receive loops. -/
def receiving : Stage Identifier Round1Package Round2Package → Bool
  | .receivingRound1 => true
  | .receivingBroadcast => true
  | .receivingRound2 _ => true
  | _ => false

end Stage

variable [DecidableEq PublicKey] [DecidableEq Identifier]

namespace Setup

variable
  (setup : Setup PublicKey Identifier Round1Package Round2Package Payload)

/-- Send a list of payloads to every other participant. -/
def sendEach
    (selfPubkey : PublicKey)
    (payloads : Identifier → List Payload)
    (outbox : PublicKey → List Payload) :
    PublicKey → List Payload :=
  fun recipient =>
    if recipient = selfPubkey then outbox recipient
    else
      match setup.pubkeys.lookup recipient with
      | none => outbox recipient
      | some identifier => outbox recipient ++ payloads identifier

/-- The echoes for one recipient: every Round 1 Package held, but not the
recipient's own. -/
def echoes
    (round1Packages : FiniteMap Identifier Round1Package)
    (recipient : Identifier) : List Payload :=
  setup.identifiers.filterMap fun sender =>
    if sender = recipient then none
    else (round1Packages.lookup sender).map (setup.wire.toVecBroadcast sender)

end Setup

namespace Node

variable
  (setup : Setup PublicKey Identifier Round1Package Round2Package Payload)
  (selfPubkey : PublicKey)

/-- The start of `get_round1_packages`: send the Round 1 Package. -/
def start
    (node : Node PublicKey Identifier Round1Package Round2Package Payload) :
    Node PublicKey Identifier Round1Package Round2Package Payload :=
  { node with
    stage := .receivingRound1
    outbox := setup.sendEach selfPubkey
      (fun _ => [setup.wire.toVecRound1 (setup.round1Package selfPubkey)])
      node.outbox }

/-- `self.state.recv(msg, identifier)`, with the accepted message noted. -/
def recv
    [DecidableEq Round1Package]
    (selfIdentifier : Identifier)
    (node : Node PublicKey Identifier Round1Package Round2Package Payload)
    (msg : Msg PublicKey Payload) :
    Node PublicKey Identifier Round1Package Round2Package Payload ×
      Except SessionError Unit :=
  match node.state.recv setup.wire msg selfIdentifier with
  | (state, .error error) => ({ node with state := state }, .error error)
  | (state, .ok ()) =>
      ({ node with
          state := state
          log := node.log ++ [msg]
          firstLoop :=
            match node.stage with
            | .receivingRound1 => node.firstLoop ++ [msg]
            | _ => node.firstLoop },
        .ok ())

/-- The `for msg in r.msgs` loop: the first error ends it. -/
def recvBatch
    [DecidableEq Round1Package]
    (selfIdentifier : Identifier)
    (node : Node PublicKey Identifier Round1Package Round2Package Payload) :
    List (Msg PublicKey Payload) →
      Node PublicKey Identifier Round1Package Round2Package Payload ×
        Except SessionError Unit
  | [] => (node, .ok ())
  | msg :: batch =>
      match recv setup selfIdentifier node msg with
      | (next, .error error) => (next, .error error)
      | (next, .ok ()) => recvBatch selfIdentifier next batch

/-- The exit test of the receive loop the participant is in. -/
def exitTest
    (node : Node PublicKey Identifier Round1Package Round2Package Payload) :
    Bool :=
  match node.stage with
  | .receivingRound1 => node.state.hasRound1Packages
  | .receivingBroadcast => node.state.hasRound1BroadcastPackages
  | .receivingRound2 _ => node.state.hasRound2Packages
  | _ => false

/-- What follows the exit from the current receive loop. -/
def leaveLoop
    (node : Node PublicKey Identifier Round1Package Round2Package Payload) :
    Node PublicKey Identifier Round1Package Round2Package Payload :=
  match node.stage with
  | .receivingRound1 =>
      match node.state.round1Packages with
      | none => { node with stage := .panicked }
      | some round1Packages =>
          if node.state.hasRound1BroadcastPackages then
            { node with stage := .round1Done round1Packages }
          else
            { node with
              stage := .receivingBroadcast
              outbox := setup.sendEach selfPubkey (setup.echoes round1Packages)
                node.outbox }
  | .receivingBroadcast =>
      match node.state.round1Packages with
      | none => { node with stage := .panicked }
      | some round1Packages =>
          { node with stage := .round1Done round1Packages }
  | .receivingRound2 round1Packages =>
      match node.state.round2Packages with
      | none => { node with stage := .panicked }
      | some round2Packages =>
          { node with stage := .round2Done round1Packages round2Packages }
  | _ => node

/-- One turn of a receive loop: handle the batch, then test for the exit. -/
def receive
    [DecidableEq Round1Package]
    (selfIdentifier : Identifier)
    (batch : List (Msg PublicKey Payload))
    (node : Node PublicKey Identifier Round1Package Round2Package Payload) :
    Node PublicKey Identifier Round1Package Round2Package Payload :=
  match recvBatch setup selfIdentifier node batch with
  | (next, .error error) => { next with stage := .recvFailed error }
  | (next, .ok ()) =>
      if exitTest next then leaveLoop setup selfPubkey next else next

/-- `part2`, then the start of `get_round2_packages`. -/
def sendRound2
    (round1Packages : FiniteMap Identifier Round1Package)
    (node : Node PublicKey Identifier Round1Package Round2Package Payload) :
    Node PublicKey Identifier Round1Package Round2Package Payload :=
  match setup.part2 selfPubkey round1Packages with
  | none => { node with stage := .part2Failed }
  | some round2Packages =>
      { node with
        stage := .receivingRound2 round1Packages
        outbox := setup.sendEach selfPubkey
          (fun identifier =>
            [setup.wire.toVecRound2 (round2Packages identifier)])
          node.outbox }

end Node

/-- All participants and all the keys outside the session. -/
abbrev World
    (PublicKey Identifier Round1Package Round2Package Payload : Type) :=
  PublicKey → Node PublicKey Identifier Round1Package Round2Package Payload

/-- The payloads of one sender among some messages, in order. -/
def payloadsFrom
    (sender : PublicKey)
    (messages : List (Msg PublicKey Payload)) : List Payload :=
  (messages.filter (·.sender = sender)).map Msg.msg

/-- The server can return this batch to a participant: each message was sent to
it by its sender, who is somebody else. With `fifo` the messages of one sender
arrive in the order sent and each at most once. -/
def Deliverable
    (fifo : Bool)
    (world : World PublicKey Identifier Round1Package Round2Package Payload)
    (selfPubkey : PublicKey)
    (batch : List (Msg PublicKey Payload)) : Prop :=
  (∀ msg ∈ batch, msg.sender ≠ selfPubkey ∧
      msg.msg ∈ (world msg.sender).outbox selfPubkey) ∧
    (fifo = true → ∀ msg ∈ batch,
      payloadsFrom msg.sender ((world selfPubkey).log ++ batch) <+:
        (world msg.sender).outbox selfPubkey)

instance
    [DecidableEq Payload]
    (fifo : Bool)
    (world : World PublicKey Identifier Round1Package Round2Package Payload)
    (selfPubkey : PublicKey)
    (batch : List (Msg PublicKey Payload)) :
    Decidable (Deliverable fifo world selfPubkey batch) :=
  inferInstanceAs (Decidable (_ ∧ _))

/-- What can happen next. -/
inductive Action (PublicKey Payload : Type)
  | start (selfPubkey : PublicKey)
  | receive (selfPubkey : PublicKey) (batch : List (Msg PublicKey Payload))
  | sendRound2 (selfPubkey : PublicKey)
  | inject (sender recipient : PublicKey) (payload : Payload)

namespace Setup

variable
  (setup : Setup PublicKey Identifier Round1Package Round2Package Payload)

/-- Every participant before `get_round1_packages`. -/
def initial :
    World PublicKey Identifier Round1Package Round2Package Payload :=
  fun _ =>
    { state := .waitingForRound1Packages setup.pubkeys ∅
      stage := .starting
      outbox := fun _ => []
      log := []
      firstLoop := [] }

/-- The honest participants: those of the session that run this code. -/
def Honest (key : PublicKey) : Prop :=
  key ∈ setup.pubkeys.keys ∧ key ∉ setup.dishonest

instance : DecidablePred setup.Honest := fun _ =>
  inferInstanceAs (Decidable (_ ∧ _))

/-- One step of the session. -/
def step
    [DecidableEq Round1Package]
    [DecidableEq Payload]
    (fifo : Bool)
    (world : World PublicKey Identifier Round1Package Round2Package Payload) :
    Action PublicKey Payload →
      Option (World PublicKey Identifier Round1Package Round2Package Payload)
  | .start selfPubkey =>
      match (world selfPubkey).stage with
      | .starting =>
          if setup.Honest selfPubkey then
            some (Function.update world selfPubkey
              ((world selfPubkey).start setup selfPubkey))
          else none
      | _ => none
  | .receive selfPubkey batch =>
      match setup.pubkeys.lookup selfPubkey with
      | none => none
      | some selfIdentifier =>
          if setup.Honest selfPubkey ∧
              (world selfPubkey).stage.receiving = true ∧
              Deliverable fifo world selfPubkey batch then
            some (Function.update world selfPubkey
              ((world selfPubkey).receive setup selfPubkey selfIdentifier
                batch))
          else none
  | .sendRound2 selfPubkey =>
      match (world selfPubkey).stage with
      | .round1Done round1Packages =>
          if setup.Honest selfPubkey then
            some (Function.update world selfPubkey
              ((world selfPubkey).sendRound2 setup selfPubkey round1Packages))
          else none
      | _ => none
  | .inject sender recipient payload =>
      if sender ∈ setup.dishonest then
        some (Function.update world sender
          { world sender with
            outbox := Function.update (world sender).outbox recipient
              ((world sender).outbox recipient ++ [payload]) })
      else none

/-- The session as a transition system. -/
def session
    [DecidableEq Round1Package]
    [DecidableEq Payload]
    (fifo : Bool) :
    TransitionSystem
      (World PublicKey Identifier Round1Package Round2Package Payload)
      (Action PublicKey Payload) where
  initial := setup.initial
  step := setup.step fifo

end Setup
end Dkg
end MinaMultiSig
