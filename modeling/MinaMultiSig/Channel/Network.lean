import MinaMultiSig.Channel.CipherSpec

/-!
# Ciphers over an untrusted server

Any number of ciphers, for example one for each session a user takes part in,
over a server that stores every ciphertext, hands out what it likes to whom it
likes, and makes up ciphertexts with all keys but those of honest users. The
payloads sent and received by each cipher are noted down; the code does not read
these notes.
-/

namespace MinaMultiSig
namespace Channel

variable {PublicKey Ephemeral Payload Message : Type}

/-- The ciphers by the private keys they are made with, and the public keys of the
users whose private keys nobody else has. -/
structure Network
    (snow : Snow PublicKey Ephemeral Payload Message)
    (Instance : Type) where
  noiseK : NoiseK snow
  privateKey : Instance → snow.PrivateKey
  honest : Finset PublicKey

/-- The ciphers, what the server stores, and the notes: for what an ephemeral key
was drawn, and for each direction of each cipher and peer the ephemeral key of the
channel and the payloads. -/
structure World
    (snow : Snow PublicKey Ephemeral Payload Message)
    (Instance : Type) where
  ciphers : Instance → Option (Cipher snow)
  posted : List Message
  author : Ephemeral → Option (Instance × PublicKey)
  opened : Instance × PublicKey → Option Ephemeral
  sent : Instance × PublicKey → List Payload
  reading : Instance × PublicKey → Option Ephemeral
  received : Instance × PublicKey → List Payload

variable {snow : Snow PublicKey Ephemeral Payload Message} {Instance : Type}

namespace World

/-- Nobody has a cipher, and nothing is posted. -/
def initial : World snow Instance where
  ciphers := fun _ => none
  posted := []
  author := fun _ => none
  opened := fun _ => none
  sent := fun _ => []
  reading := fun _ => none
  received := fun _ => []

/-- Where a cipher should be according to the notes. -/
def counters
    (world : World snow Instance)
    (index : Instance) : Counters PublicKey Ephemeral where
  opened := fun recipient => world.opened (index, recipient)
  sent := fun recipient => (world.sent (index, recipient)).length
  reading := fun sender => world.reading (index, sender)
  received := fun sender => (world.received (index, sender)).length

variable [DecidableEq Instance]

/-- The world with another cipher of an instance. -/
def setCipher
    (world : World snow Instance)
    (index : Instance)
    (cipher : Cipher snow) : World snow Instance :=
  { world with ciphers := Function.update world.ciphers index (some cipher) }

variable [DecidableEq PublicKey] [DecidableEq Ephemeral]

/-- The server stores a ciphertext. -/
def noteSent
    (world : World snow Instance)
    (stream : Instance × PublicKey)
    (ephemeral : Ephemeral)
    (payload : Payload)
    (message : Message) : World snow Instance :=
  let ephemeral := (world.opened stream).getD ephemeral
  { world with
    posted := world.posted ++ [message]
    author := Function.update world.author ephemeral (some stream)
    opened := Function.update world.opened stream (some ephemeral)
    sent := Function.update world.sent stream
      (world.sent stream ++ [payload]) }

omit [DecidableEq Ephemeral] in
/-- A cipher has read a payload. -/
def noteReceived
    (world : World snow Instance)
    (reader : Instance × PublicKey)
    (ephemeral : Option Ephemeral)
    (payload : Payload) : World snow Instance :=
  { world with
    reading := Function.update world.reading reader ephemeral
    received := Function.update world.received reader
      (world.received reader ++ [payload]) }

/-- Encrypt with one of the ciphers, and send what comes out. -/
def encrypt
    (world : World snow Instance)
    (index : Instance)
    (ephemeral : Ephemeral)
    (recipient : Option PublicKey)
    (payload : Payload) :
    World snow Instance × Outcome CipherError Message :=
  match world.ciphers index with
  | none => (world, .error .panic)
  | some cipher =>
      let (next, result) := cipher.encrypt ephemeral recipient payload
      let world := world.setCipher index next
      match cipher.recipientOf recipient, result with
      | some recipient, .ok message =>
          (world.noteSent (index, recipient) ephemeral payload message, result)
      | _, _ => (world, result)

omit [DecidableEq Ephemeral] in
/-- Decrypt with one of the ciphers. -/
def decrypt
    (network : Network snow Instance)
    (world : World snow Instance)
    (index : Instance)
    (msg : Msg PublicKey Message) :
    World snow Instance × Outcome CipherError (Msg PublicKey Payload) :=
  match world.ciphers index with
  | none => (world, .error .panic)
  | some cipher =>
      let (next, result) := cipher.decrypt msg
      let world := world.setCipher index next
      match result with
      | .ok decrypted =>
          let ephemeral := (network.noiseK.sealing.origin msg.msg).map
            fun made => made.1.ephemeral
          (world.noteReceived (index, msg.sender) ephemeral decrypted.msg,
            result)
      | .error _ => (world, result)

end World

/-- What can happen next. -/
inductive Action (PublicKey Ephemeral Payload Message Instance : Type)
  | new (index : Instance) (peersPublicKeys : List PublicKey)
  | encrypt
      (index : Instance)
      (ephemeral : Ephemeral)
      (recipient : Option PublicKey)
      (payload : Payload)
  | decrypt (index : Instance) (msg : Msg PublicKey Message)

namespace Network

variable (network : Network snow Instance)

/-- The public key a cipher is made for. -/
def owner (index : Instance) : PublicKey :=
  network.noiseK.publicKey (network.privateKey index)

/-- The private keys of both ends are with honest users. -/
def Protected (sender recipient : PublicKey) : Prop :=
  sender ∈ network.honest ∧ recipient ∈ network.honest

instance [DecidableEq PublicKey] (sender recipient : PublicKey) :
    Decidable (network.Protected sender recipient) :=
  inferInstanceAs (Decidable (_ ∧ _))

/-- What the server can hand out. -/
def CanDeliver
    (world : World snow Instance)
    (message : Message) : Prop :=
  network.noiseK.sealing.CanDeliver
    (fun channel => network.Protected channel.sender channel.recipient)
    world.posted message

instance
    [DecidableEq PublicKey]
    [DecidableEq Message]
    (world : World snow Instance)
    (message : Message) :
    Decidable (network.CanDeliver world message) :=
  inferInstanceAs (Decidable (_ ∨ _))

variable [DecidableEq PublicKey] [DecidableEq Ephemeral]
  [DecidableEq Message] [DecidableEq Instance]

/-- One step. An ephemeral key is drawn once; a cipher is made once. -/
def step
    (world : World snow Instance) :
    Action PublicKey Ephemeral Payload Message Instance →
      Option (World snow Instance)
  | .new index peersPublicKeys =>
      match world.ciphers index,
          Cipher.new (network.privateKey index) peersPublicKeys with
      | none, .ok cipher => some (world.setCipher index cipher)
      | _, _ => none
  | .encrypt index ephemeral recipient payload =>
      if world.author ephemeral = none then
        some (world.encrypt index ephemeral recipient payload).1
      else none
  | .decrypt index msg =>
      if network.CanDeliver world msg.msg then
        some (world.decrypt network index msg).1
      else none

/-- The ciphers as a transition system. -/
def system :
    TransitionSystem (World snow Instance)
      (Action PublicKey Ephemeral Payload Message Instance) where
  initial := .initial
  step := network.step

end Network

end Channel
end MinaMultiSig
