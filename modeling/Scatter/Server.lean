import Scatter.Payload
import Scatter.ConnectionStorage

/-! The state of `wss::ChatServer`: its members `m_connectionStorage`, `m_frameBuffer`,
`m_undeliveredMessagesMap` and `m_statistics`, the sends it has handed to the
transport, and the log of what it did to the outside. -/

namespace Scatter

/-- Modelled from the spec: the counters of `wss::Statistics` (§4.5). The clock
readings behind `getInactiveTime` are inputs of the watchdog instead. -/
structure Statistics where
  connections : Nat := 0
  disconnections : Nat := 0
  sendMessages : Nat := 0
  receivedMessages : Nat := 0
  bytesTransferred : Nat := 0
  deriving DecidableEq, Repr

namespace Statistics

def addConnection (st : Statistics) : Statistics := { st with connections := st.connections + 1 }

def addDisconnection (st : Statistics) : Statistics :=
  { st with disconnections := st.disconnections + 1 }

def addSendMessage (st : Statistics) : Statistics := { st with sendMessages := st.sendMessages + 1 }

def addReceivedMessage (st : Statistics) : Statistics :=
  { st with receivedMessages := st.receivedMessages + 1 }

def addBytesTransferred (st : Statistics) (n : Nat) : Statistics :=
  { st with bytesTransferred := st.bytesTransferred + n }

end Statistics

/-- The completion handler a send carries: `sendTo`'s lambda, or the watchdog's. -/
inductive Callback (P : Type)
  | message (recipient : UserId) (payload : P) (cid : ConnId)
  | ping (connection : Connection)
  deriving DecidableEq, Repr

/-- `connection->send(stream, callback, opcode)`. -/
structure Send (P : Type) where
  connection : Connection
  data : String
  callback : Callback P
  deriving DecidableEq, Repr

/-- What the server does to the outside, in order. -/
inductive Effect (P : Type)
  | send (s : Send P)
  | sendClose (connection : Connection) (status : Status) (reason : String)
  /-- Closed by `disconnectWithoutPong`. -/
  | disconnect (connection : Connection)
  /-- `callOnMessageListeners(payload)`: every message listener, once. -/
  | listeners (payload : P)
  deriving DecidableEq, Repr

structure ChatServer (P : Type) where
  connectionStorage : ConnectionStorage
  frameBuffer : UserId → Option String
  undeliveredMessagesMap : UserId → List P
  statistics : UserId → Option Statistics
  /-- Sends whose completion handler has not run yet. -/
  inflight : List (Send P)
  log : List (Effect P)

/-- Everything a handler reads besides the state: the settings, the payload
operations, `m_auth->validateAuth`, `helpers::humanReadableBytes`, and the reason text
`ConnectionStorage::add` gives the connections it overrides (the class is not in the
repository, and the spec names only the status). -/
structure Env (P : Type) extends Config where
  payload : PayloadOps P
  validateAuth : Request → Bool
  humanReadableBytes : Nat → String
  overrideReason : String

/-- The default settings, `noauth` authentication and the JSON codec: the server the
theorems on fixed inputs run. -/
def defaultEnv : Env MessagePayload :=
  { payload := MessagePayload.ops, validateAuth := fun _ => true, humanReadableBytes := toString,
    overrideReason := "" }

/-- A JSON payload addressed to one user other than `0` is not for a bot. -/
theorem defaultEnv_not_bot {u : UserId} (hu : u ≠ 0) (p : MessagePayload)
    (hp : defaultEnv.payload.getRecipients p = [u]) : defaultEnv.payload.isForBot p = false := by
  simp only [defaultEnv, MessagePayload.ops] at hp ⊢
  simp [hp, Ne.symm hu]

namespace ChatServer

variable {P : Type} (s : ChatServer P)

def initial : ChatServer P := ⟨.empty, fun _ => none, fun _ => [], fun _ => none, [], []⟩

def emit (e : Effect P) : ChatServer P := { s with log := s.log ++ [e] }

/-- Hand a send to the transport. -/
def issue (snd : Send P) : ChatServer P :=
  { s with inflight := s.inflight ++ [snd], log := s.log ++ [.send snd] }

def sendClose (c : Connection) (status : Status) (reason : String) : ChatServer P :=
  s.emit (.sendClose c status reason)

def setStorage (st : ConnectionStorage) : ChatServer P := { s with connectionStorage := st }

/-- `getStat(id)` followed by `f`; the entry is created on first reference. -/
def updateStat (id : UserId) (f : Statistics → Statistics) : ChatServer P :=
  { s with statistics := Function.update s.statistics id (some (f ((s.statistics id).getD {}))) }

/-- `m_undeliveredMessagesMap[id].push(p)`. -/
def push (id : UserId) (p : P) : ChatServer P :=
  { s with undeliveredMessagesMap :=
      Function.update s.undeliveredMessagesMap id (s.undeliveredMessagesMap id ++ [p]) }

def hasFrameBuffer (senderId : UserId) : Bool := (s.frameBuffer senderId).isSome

/-- `writeFrameBuffer(senderId, input, clear)`: a missing buffer is created, `clear`
empties an existing one, then `input` is appended. -/
def writeFrameBuffer (senderId : UserId) (input : String) (clear : Bool) : ChatServer P :=
  let text := if !s.hasFrameBuffer senderId || clear then input
    else (s.frameBuffer senderId).getD "" ++ input
  { s with frameBuffer := Function.update s.frameBuffer senderId (some text) }

/-- `readFrameBuffer(senderId, clear)`: the buffered text (empty if there is no buffer),
and with `clear` the entry is erased. -/
def readFrameBuffer (senderId : UserId) (clear : Bool) : ChatServer P × String :=
  if !s.hasFrameBuffer senderId then (s, "")
  else ((if clear then { s with frameBuffer := Function.update s.frameBuffer senderId none }
    else s), (s.frameBuffer senderId).getD "")

@[simp] theorem emit_connectionStorage (e : Effect P) :
    (s.emit e).connectionStorage = s.connectionStorage := rfl
@[simp] theorem emit_undelivered (e : Effect P) :
    (s.emit e).undeliveredMessagesMap = s.undeliveredMessagesMap := rfl
@[simp] theorem emit_statistics (e : Effect P) : (s.emit e).statistics = s.statistics := rfl
@[simp] theorem emit_frameBuffer (e : Effect P) : (s.emit e).frameBuffer = s.frameBuffer := rfl
@[simp] theorem emit_inflight (e : Effect P) : (s.emit e).inflight = s.inflight := rfl
@[simp] theorem emit_log (e : Effect P) : (s.emit e).log = s.log ++ [e] := rfl

@[simp] theorem issue_connectionStorage (snd : Send P) :
    (s.issue snd).connectionStorage = s.connectionStorage := rfl
@[simp] theorem issue_statistics (snd : Send P) : (s.issue snd).statistics = s.statistics := rfl
@[simp] theorem issue_frameBuffer (snd : Send P) : (s.issue snd).frameBuffer = s.frameBuffer := rfl
@[simp] theorem issue_log (snd : Send P) : (s.issue snd).log = s.log ++ [.send snd] := rfl

@[simp] theorem sendClose_eq (c : Connection) (st : Status) (r : String) :
    s.sendClose c st r = s.emit (.sendClose c st r) := rfl

@[simp] theorem setStorage_connectionStorage (st : ConnectionStorage) :
    (s.setStorage st).connectionStorage = st := rfl
@[simp] theorem setStorage_undelivered (st : ConnectionStorage) :
    (s.setStorage st).undeliveredMessagesMap = s.undeliveredMessagesMap := rfl
@[simp] theorem setStorage_statistics (st : ConnectionStorage) :
    (s.setStorage st).statistics = s.statistics := rfl
@[simp] theorem setStorage_frameBuffer (st : ConnectionStorage) :
    (s.setStorage st).frameBuffer = s.frameBuffer := rfl
@[simp] theorem setStorage_inflight (st : ConnectionStorage) :
    (s.setStorage st).inflight = s.inflight := rfl
@[simp] theorem setStorage_log (st : ConnectionStorage) : (s.setStorage st).log = s.log := rfl

@[simp] theorem updateStat_connectionStorage (id : UserId) (f : Statistics → Statistics) :
    (s.updateStat id f).connectionStorage = s.connectionStorage := rfl
@[simp] theorem updateStat_undelivered (id : UserId) (f : Statistics → Statistics) :
    (s.updateStat id f).undeliveredMessagesMap = s.undeliveredMessagesMap := rfl
@[simp] theorem updateStat_frameBuffer (id : UserId) (f : Statistics → Statistics) :
    (s.updateStat id f).frameBuffer = s.frameBuffer := rfl
@[simp] theorem updateStat_inflight (id : UserId) (f : Statistics → Statistics) :
    (s.updateStat id f).inflight = s.inflight := rfl
@[simp] theorem updateStat_log (id : UserId) (f : Statistics → Statistics) :
    (s.updateStat id f).log = s.log := rfl

@[simp] theorem push_connectionStorage (id : UserId) (p : P) :
    (s.push id p).connectionStorage = s.connectionStorage := rfl
@[simp] theorem push_statistics (id : UserId) (p : P) : (s.push id p).statistics = s.statistics := rfl
@[simp] theorem push_frameBuffer (id : UserId) (p : P) :
    (s.push id p).frameBuffer = s.frameBuffer := rfl
@[simp] theorem push_log (id : UserId) (p : P) : (s.push id p).log = s.log := rfl

end ChatServer

end Scatter
