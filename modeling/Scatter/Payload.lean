import Scatter.Basic

/-! `wss::MessagePayload` is not in the repository. The server only uses it through
the calls below, so it is a parameter: every result holds for any payload type with
these operations, and the laws are the ones the spec states (§3, §4.1). -/

namespace Scatter

/-- Modelled from the spec: the `MessagePayload` operations `ChatServer` calls. -/
structure PayloadOps (P : Type) where
  /-- `MessagePayload(const std::string &)`. -/
  parse : String → P
  /-- `MessagePayload()`. -/
  empty : P
  isValid : P → Bool
  getError : P → String
  getType : P → String
  getSender : P → UserId
  getRecipients : P → List UserId
  isForBot : P → Bool
  isTypeOfSentStatus : P → Bool
  setRecipient : P → UserId → P
  toJson : P → String
  createSendStatus : P → P
  /-- `setRecipient` makes a single-recipient copy. -/
  getRecipients_setRecipient : ∀ p u, getRecipients (setRecipient p u) = [u]
  /-- A `setRecipient` copy keeps the type. -/
  isTypeOfSentStatus_setRecipient :
    ∀ p u, isTypeOfSentStatus (setRecipient p u) = isTypeOfSentStatus p
  /-- `createSendStatus` makes a payload of the sent-status type. -/
  isTypeOfSentStatus_createSendStatus : ∀ p, isTypeOfSentStatus (createSendStatus p) = true

attribute [simp] PayloadOps.getRecipients_setRecipient PayloadOps.isTypeOfSentStatus_setRecipient
  PayloadOps.isTypeOfSentStatus_createSendStatus

/-- Modelled from the spec: the payload value of §3 with its fields. -/
structure MessagePayload where
  type : String
  sender : UserId
  recipients : List UserId
  body : String
  valid : Bool
  error : String
  deriving DecidableEq, Repr

namespace MessagePayload

/-- The reserved type of delivery-status payloads. -/
def typeSentStatus : String := "message_sent"

/-- The canonical JSON text of §6. -/
def toJson (p : MessagePayload) : String :=
  "\x7b\"type\":\"" ++ p.type ++ "\",\"sender\":" ++ toString p.sender ++ ",\"recipients\":[" ++
    ",".intercalate (p.recipients.map toString) ++ "],\"body\":\"" ++ p.body ++ "\"\x7d"

/-- Strip `lit` from the front. -/
def expect (lit : String) (cs : List Char) : Option (List Char) :=
  if lit.toList.isPrefixOf cs then some (cs.drop lit.length) else none

/-- A JSON string without escapes, up to its closing quote. -/
def takeString (cs : List Char) : Option (String × List Char) :=
  match cs.span (· != '"') with
  | (s, '"' :: rest) => some (String.mk s, rest)
  | _ => none

def splitCommas : List Char → List (List Char)
  | [] => [[]]
  | ',' :: rest => [] :: splitCommas rest
  | c :: rest => match splitCommas rest with
    | [] => [[c]]
    | w :: ws => (c :: w) :: ws

def number (w : List Char) : Option Nat :=
  if !w.isEmpty && w.all Char.isDigit then some (digitsValue w) else none

/-- Reads the canonical form `toJson` writes. -/
def fromJson (text : String) : Option MessagePayload := do
  let cs ← expect "\x7b\"type\":\"" text.toList
  let (type, cs) ← takeString cs
  let cs ← expect ",\"sender\":" cs
  let (ds, cs) := cs.span Char.isDigit
  let sender ← number ds
  let cs ← expect ",\"recipients\":[" cs
  let (inner, cs) := cs.span (· != ']')
  let recipients ← if inner.isEmpty then some [] else (splitCommas inner).mapM number
  let cs ← expect "],\"body\":\"" cs
  let (body, cs) ← takeString cs
  let cs ← expect "\x7d" cs
  if cs.isEmpty then some ⟨type, UInt64.ofNat sender, recipients.map UInt64.ofNat, body, true, ""⟩
  else none

/-- Modelled from the spec: the payload of §3 with the JSON codec of §6; bot payloads
are those addressed to `0`, and the delivery status goes back to the sender. -/
def ops : PayloadOps MessagePayload where
  parse text := (fromJson text).getD ⟨"", 0, [], "", false, "Invalid JSON"⟩
  empty := ⟨"", 0, [], "", false, "Empty payload"⟩
  isValid p := p.valid
  getError p := p.error
  getType p := p.type
  getSender p := p.sender
  getRecipients p := p.recipients
  isForBot p := p.recipients.contains 0
  isTypeOfSentStatus p := p.type == typeSentStatus
  setRecipient p u := { p with recipients := [u] }
  toJson := toJson
  createSendStatus p := { p with type := typeSentStatus, recipients := [p.sender] }
  getRecipients_setRecipient _ _ := rfl
  isTypeOfSentStatus_setRecipient _ _ := rfl
  isTypeOfSentStatus_createSendStatus _ := by simp

end MessagePayload

end Scatter
