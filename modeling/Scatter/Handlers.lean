import Scatter.Routing

/-! The transport callbacks of `ChatServer.cpp` (`onConnected`, `onDisconnected`,
`onMessage`, `onPong`, the send completion lambdas, `watchdogWorker`) and the event
semantics that runs them: one event is one callback, run to its end. -/

namespace Scatter

/-- The exceptions `std::stoul` throws. -/
inductive StdException
  | invalidArgument
  | outOfRange
  deriving DecidableEq, Repr

/-- `isspace` in the C locale. -/
def isSpace (c : Char) : Bool :=
  c == ' ' || c == '\t' || c == '\n' || c == '\r' || c.toNat == 11 || c.toNat == 12

/-- `std::stoul(str)` on a 64-bit `unsigned long`: `strtoul` in base 10 skips white
space, reads a sign and the longest run of digits; no digit is `invalid_argument`, a
value past `UInt64.size - 1` is `out_of_range`, and a minus sign negates modulo
`UInt64.size`. -/
def stoul (str : String) : Except StdException UInt64 :=
  let cs := str.toList.dropWhile isSpace
  let (neg, rest) := match cs with
    | '-' :: r => (true, r)
    | '+' :: r => (false, r)
    | r => (false, r)
  let digits := rest.takeWhile Char.isDigit
  if digits.isEmpty then .error .invalidArgument
  else if UInt64.size ≤ digitsValue digits then .error .outOfRange
  else .ok (UInt64.ofNat (if neg then UInt64.size - digitsValue digits else digitsValue digits))

namespace ChatServer

variable {P : Type} (env : Env P)

/-- The rest of `onMessage` once `payload` is known: validation, send-back, `send`. -/
def routePayload (s : ChatServer P) (connection : Connection) (payload : P) : ChatServer P :=
  if !env.payload.isValid payload then
    s.sendClose connection .invalidMessagePayload ("Invalid payload. " ++ env.payload.getError payload)
  else
    let isIgnoredType := env.ignoreTypesSendBack.any (equalsIgnoreCase (env.payload.getType payload))
    let s := if env.enableSendBack && !isIgnoredType && !env.payload.isForBot payload
      then sendTo env s (env.payload.getSender payload) payload else s
    send env s payload

/-- `onMessage(connection, message)`. Fragments are buffered under `connection->getId()`. -/
def onMessage (s : ChatServer P) (connection : Connection) (opcode : Opcode) (data : String) :
    ChatServer P :=
  match opcode with
  | .frameText | .frameBinary => routePayload env s connection (env.payload.parse data)
  | .fragmentBeginText | .fragmentBeginBinary => s.writeFrameBuffer connection.id data true
  | .fragmentContinue => s.writeFrameBuffer connection.id data false
  | .fragmentEnd =>
    let r := s.readFrameBuffer connection.id true
    let buffered := r.2 ++ data
    if env.maxMessageSize < buffered.utf8ByteSize then
      r.1.sendClose connection .messageTooBig
        ("Message to big. Maximum size: " ++ env.humanReadableBytes env.maxMessageSize)
    else routePayload env r.1 connection (env.payload.parse buffered)
  | .pong | .other _ => routePayload env s connection env.payload.empty

/-- `onPong(connection, message)`. -/
def onPong (s : ChatServer P) (connection : Connection) : ChatServer P :=
  s.setStorage (s.connectionStorage.markPongReceived connection)

/-- `onDisconnected(connection, status, reason)`. -/
def onDisconnected (s : ChatServer P) (connection : Connection) : ChatServer P :=
  if !s.connectionStorage.exists connection.id then s
  else (s.updateStat connection.id Statistics.addDisconnection).setStorage
    (s.connectionStorage.removeConnection connection)

/-- `hasUndeliveredMessages(recipientId)`. -/
def hasUndeliveredMessages (s : ChatServer P) (recipientId : UserId) : Bool :=
  !(s.undeliveredMessagesMap recipientId).isEmpty

/-- Pop the head of `recipientId`'s queue. -/
def pop (s : ChatServer P) (recipientId : UserId) : ChatServer P :=
  let rest := (s.undeliveredMessagesMap recipientId).tail
  { s with undeliveredMessagesMap := Function.update s.undeliveredMessagesMap recipientId rest }

/-- The `while (!queue.empty())` loop of `redeliverMessagesTo`: the queue is the map's
own entry, so `send` can refill it. At most `fuel` iterations; `none` when they run out. -/
def redeliverLoop : Nat → ChatServer P → UserId → Nat → Option (ChatServer P × Nat)
  | 0, _, _, _ => none
  | fuel + 1, s, recipientId, cnt =>
    match s.undeliveredMessagesMap recipientId with
    | [] => some (s, cnt)
    | payload :: _ => redeliverLoop fuel (send env (s.pop recipientId) payload) recipientId (cnt + 1)

/-- `redeliverMessagesTo(recipientId)`: the state and the number of payloads sent. -/
def redeliverMessagesTo (fuel : Nat) (s : ChatServer P) (recipientId : UserId) :
    Option (ChatServer P × Nat) :=
  if !env.enableUndeliveredQueue then some (s, 0)
  else if !s.hasUndeliveredMessages recipientId then some (s, 0)
  else redeliverLoop env fuel s recipientId 0

/-- The override of `m_connectionStorage->add(id, connection)` (spec §4.2): with
`server.allowOverrideConnection`, the user's prior connections are closed with
`POLICY_VIOLATION` before the add. The closes remove no entry: the transport's close events do. -/
def closePriorConnections (s : ChatServer P) (id : UserId) : ChatServer P :=
  if env.allowOverrideConnection then
    (s.connectionStorage.connectionsOf id).foldl
      (fun s c => s.sendClose c .policyViolation env.overrideReason) s
  else s

/-- `onConnected` up to its last line: the state, and the user whose queue
`redeliverMessagesTo` then drains (`none` when the connection was closed). An
exception that escapes is the `.error`. -/
def onConnectedAdd (s : ChatServer P) (connection : Connection) (request : Request) :
    Except StdException (ChatServer P × Option UserId) :=
  if !env.validateAuth request then .ok (s.sendClose connection .unauthorized "Unauthorized", none)
  else if request.params.isEmpty then
    .ok (s.sendClose connection .invalidQueryParams "Invalid request", none)
  else if !request.hasParam "id" || (request.getParam "id").isEmpty then
    .ok (s.sendClose connection .invalidQueryParams "Id required in query parameter: ?id={id}", none)
  else
    match stoul (request.getParam "id") with
    | .error .invalidArgument =>
      .ok (s.sendClose connection .invalidQueryParams
        ("Passed invalid id: id=" ++ request.getParam "id" ++ ". " ++ "stoul"), none)
    | .error e => .error e
    | .ok id =>
      let s := closePriorConnections env s id
      .ok (((s.setStorage (s.connectionStorage.add id connection)).updateStat id
        Statistics.addConnection), some id)

/-- `onConnected(connection)`; `none` when the drain runs out of `fuel`. -/
def onConnected (fuel : Nat) (s : ChatServer P) (connection : Connection) (request : Request) :
    Option (Except StdException (ChatServer P)) :=
  match onConnectedAdd env s connection request with
  | .error e => some (.error e)
  | .ok (s, none) => some (.ok s)
  | .ok (s, some id) => (redeliverMessagesTo env fuel s id).map fun r => .ok r.1

/-- The completion handler of a send, run with the transport's error code. -/
def complete (s : ChatServer P) (snd : Send P) (err : ErrorCode) (bytesTransferred : Nat) :
    ChatServer P :=
  match snd.callback with
  | .message recipient payload cid =>
    if err != .none then
      let s := if err == .brokenPipe then s.setStorage (s.connectionStorage.remove recipient cid)
        else s
      handleUndeliverable env s recipient payload
    else onMessageSent env s (env.payload.setRecipient payload recipient) bytesTransferred true
  | .ping connection =>
    if err != .none then s.setStorage (s.connectionStorage.removeConnection connection)
    else s.setStorage (s.connectionStorage.markPongWait connection)

/-- One connection of the watchdog's snapshot; `getStat(t.first)` is taken first. -/
def watchdogSlot (lifetime : Int) (inactive : UserId → Int) (s : ChatServer P) (slot : Slot) :
    ChatServer P :=
  let s := s.updateStat slot.user id
  match slot.connection with
  | none => s.setStorage (s.connectionStorage.remove slot.user slot.cid)
  | some c =>
    if lifetime ≤ inactive slot.user then
      s.sendClose c .inactiveConnection ("Inactive more than " ++ toString lifetime ++
        " seconds (" ++ toString (inactive slot.user) ++ ")")
    else s.issue ⟨c, ".", .ping c⟩

/-- The loop of `watchdogWorker` over a snapshot of the storage; `inactive u` is what
`getStat(u)->getInactiveTime()` reads at that moment. -/
def watchdogPing (s : ChatServer P) (inactive : UserId → Int) : ChatServer P :=
  s.connectionStorage.slots.foldl (watchdogSlot env.connectionLifetimeSeconds inactive) s

/-- `disconnectWithoutPong()` after the watchdog's second sleep. -/
def watchdogDisconnect (s : ChatServer P) : ChatServer P :=
  let r := s.connectionStorage.disconnectWithoutPong
  r.2.foldl (fun s c => s.emit (.disconnect c)) (s.setStorage r.1)

end ChatServer

/-- The transport's callbacks, and the watchdog thread's two steps. -/
inductive Event
  | onOpen (connection : Connection) (request : Request)
  | onClose (connection : Connection)
  | onMessage (connection : Connection) (opcode : Opcode) (data : String)
  /-- The completion handler of the `index`-th in-flight send runs. -/
  | onSent (index : Nat) (error : ErrorCode) (bytesTransferred : Nat)
  | watchdogPing (inactive : UserId → Int)
  | watchdogDisconnect

namespace ChatServer

variable {P : Type} (env : Env P)

/-- One event, with `fuel` for the drain loop. `none`: the fuel ran out, or the event
names no in-flight send. An exception escaping `onConnected` leaves the state as it was. -/
def handle (fuel : Nat) (s : ChatServer P) : Event → Option (ChatServer P)
  | .onOpen c r => (onConnected env fuel s c r).map fun r => match r with
    | .ok s' => s'
    | .error _ => s
  | .onClose c => some (onDisconnected s c)
  | .onMessage c op data => some (if op = .pong then onPong s c else onMessage env s c op data)
  | .onSent i err n => (s.inflight.get? i).map fun snd =>
    complete env { s with inflight := s.inflight.eraseIdx i } snd err n
  | .watchdogPing inactive => some (watchdogPing env s inactive)
  | .watchdogDisconnect => some (watchdogDisconnect s)

/-- The events `es` one after another, every drain loop given at most `fuel`
iterations; `none` when one runs out or an event names no in-flight send. -/
def run (fuel : Nat) : ChatServer P → List Event → Option (ChatServer P)
  | s, [] => some s
  | s, e :: es => (handle env fuel s e).bind fun s' => run fuel s' es

theorem run_append (fuel : Nat) (s : ChatServer P) (pre post : List Event) :
    run env fuel s (pre ++ post) = (run env fuel s pre).bind fun t => run env fuel t post := by
  induction pre generalizing s with
  | nil => rfl
  | cons e es ih =>
    simp only [List.cons_append, run]
    cases handle env fuel s e <;> simp [ih]

end ChatServer

end Scatter
