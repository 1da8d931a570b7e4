import Scatter.Server

/-! The routing path of `ChatServer.cpp`: `send`, `sendTo`, `handleUndeliverable`,
`enqueueUndeliveredMessage` and `onMessageSent`. `sendTo` is split at its count check,
which is where other handlers can interleave with it. -/

namespace Scatter

namespace ChatServer

variable {P : Type} (env : Env P)

/-- `enqueueUndeliveredMessage(payload)`: a copy on the queue of each recipient. -/
def enqueueUndeliveredMessage (s : ChatServer P) (payload : P) : ChatServer P :=
  (env.payload.getRecipients payload).foldl (fun s r => s.push r payload) s

/-- `handleUndeliverable(uid, payload)`. -/
def handleUndeliverable (s : ChatServer P) (uid : UserId) (payload : P) : ChatServer P :=
  if !env.enableUndeliveredQueue then s
  else enqueueUndeliveredMessage env s (env.payload.setRecipient payload uid)

/-- The statistics half of `onMessageSent`, everything before the delivery status. -/
def recordMessageSent (s : ChatServer P) (payload : P) (bytesTransferred : Nat)
    (hasSent : Bool) : ChatServer P :=
  if env.payload.isTypeOfSentStatus payload then s
  else
    (env.payload.getRecipients payload).foldl
      (fun s i => if hasSent then
        s.updateStat i fun st => st.addReceivedMessage.addBytesTransferred bytesTransferred
        else s)
      (s.updateStat (env.payload.getSender payload)
        fun st => st.addSendMessage.addBytesTransferred bytesTransferred)

/-- One iteration of `sendTo`'s loop over a copy of the recipient's connections. -/
def sendToSlot (recipient : UserId) (payload : P) (payloadString : String)
    (s : ChatServer P) (slot : Slot) : ChatServer P :=
  match slot.connection with
  | none => s.setStorage (s.connectionStorage.remove recipient slot.cid)
  | some c => s.issue ⟨c, payloadString, .message recipient payload slot.cid⟩

/-- `sendTo` after its count check found `recipient` without (`offline`) or with
registered connections. `get` failing is the `ConnectionNotFound` handler. -/
def sendToAfterCheck (s : ChatServer P) (recipient : UserId) (payload : P) (offline : Bool) :
    ChatServer P :=
  let payloadString := env.payload.toJson payload
  if offline then
    recordMessageSent env (handleUndeliverable env s recipient payload)
      (env.payload.setRecipient payload recipient) payloadString.utf8ByteSize false
  else
    match s.connectionStorage.get recipient with
    | none => handleUndeliverable env s recipient payload
    | some connections => connections.foldl (sendToSlot recipient payload payloadString) s

/-- `sendTo(recipient, payload)`. -/
def sendTo (s : ChatServer P) (recipient : UserId) (payload : P) : ChatServer P :=
  sendToAfterCheck env s recipient payload (s.connectionStorage.size recipient == 0)

/-- `send(payload)`. -/
def send (s : ChatServer P) (payload : P) : ChatServer P :=
  if env.payload.isForBot payload then s.emit (.listeners payload)
  else
    (env.payload.getRecipients payload).foldl
      (fun s uid => if uid == 0 then s else sendTo env s uid payload) (s.emit (.listeners payload))

/-- `onMessageSent(payload, bytesTransferred, hasSent)`. -/
def onMessageSent (s : ChatServer P) (payload : P) (bytesTransferred : Nat) (hasSent : Bool) :
    ChatServer P :=
  if env.payload.isTypeOfSentStatus payload then s
  else
    let s := recordMessageSent env s payload bytesTransferred hasSent
    if env.enableMessageDeliveryStatus && hasSent then send env s (env.payload.createSendStatus payload)
    else s

/-- The call `onMessageSent(sent, payloadSize, false)` in `sendTo` is its statistics half. -/
theorem onMessageSent_unsent (s : ChatServer P) (p : P) (n : Nat) :
    onMessageSent env s p n false = recordMessageSent env s p n false := by
  unfold onMessageSent recordMessageSent
  split <;> simp

end ChatServer

end Scatter
