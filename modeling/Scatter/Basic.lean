import Mathlib.Logic.Function.Basic
import Mathlib.Data.List.Nodup

/-! Identifiers, wire-level codes and configuration read by `wss::ChatServer`
(`src/server/chat/ChatServer.cpp`). The header `ChatServer.h` is not in the
repository, so its `FLAG_*` and `STATUS_*` constants appear here by name only. -/

namespace Scatter

/-- `user_id_t`; `0` is the bot sink. -/
abbrev UserId := UInt64

/-- `conn_id_t`, the transport's unique id of a physical connection. -/
abbrev ConnId := Nat

/-- A transport connection: `getId()` is the user id it was registered under,
`getUniqueId()` its connection id. -/
structure Connection where
  id : UserId
  uniqueId : ConnId
  deriving DecidableEq, Repr

/-- The `STATUS_*` close codes the server sends; `policyViolation` is sent by
`ConnectionStorage::add` when it overrides a user's connections (spec §4.2). -/
inductive Status
  | unauthorized
  | invalidQueryParams
  | invalidMessagePayload
  | messageTooBig
  | inactiveConnection
  | policyViolation
  deriving DecidableEq, Repr

/-- `fin_rsv_opcode` of an inbound frame, by the `FLAG_*` constant it equals. -/
inductive Opcode
  | frameText
  | frameBinary
  | fragmentBeginText
  | fragmentBeginBinary
  | fragmentContinue
  | fragmentEnd
  | pong
  | other (code : Nat)
  deriving DecidableEq, Repr

/-- Outcome of an asynchronous send, as its completion handler sees the error code. -/
inductive ErrorCode
  | none
  | brokenPipe
  | other
  deriving DecidableEq, Repr

/-- What `ChatServer` and its `ConnectionStorage` read from `Settings::get()` and from the
server's own members, with the defaults of `Settings.hpp` and of the constructor.
`chat.message.enableSendBack` and `chat.message.ignoreTypesSendBack` are read but not declared
in the repository's `Settings.hpp`; they default to off and empty here. -/
structure Config where
  allowOverrideConnection : Bool := false
  enableSendBack : Bool := false
  ignoreTypesSendBack : List String := []
  enableUndeliveredQueue : Bool := true
  enableMessageDeliveryStatus : Bool := false
  maxMessageSize : Nat := 10 * 1024 * 1024
  connectionLifetimeSeconds : Int := 600
  deriving Repr

/-- Modelled from the spec: `web::Request` after `parseParamsString`, i.e. the query
parameters of the upgrade request in order. -/
structure Request where
  params : List (String × String)
  deriving DecidableEq, Repr

namespace Request

def hasParam (r : Request) (key : String) : Bool := r.params.any (·.1 == key)

def getParam (r : Request) (key : String) : String :=
  ((r.params.find? (·.1 == key)).map Prod.snd).getD ""

end Request

/-- The value of a run of decimal digits. -/
def digitsValue (ds : List Char) : Nat := ds.foldl (fun n c => 10 * n + (c.toNat - '0'.toNat)) 0

/-- `toolboxpp::strings::equalsIgnoreCase`, ASCII case folding. -/
def equalsIgnoreCase (a b : String) : Bool := a.toLower == b.toLower

end Scatter
