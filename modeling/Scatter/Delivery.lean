import Scatter.RoutingSpec
import Scatter.Handlers

/-! What routing one valid payload does: `routePayload`'s send-back, then `send` over the
recipients. `sendTo` decides by the number of the recipient's entries, null ones
included, so the account below holds over registries without null entries.

* `routePayload_of_live`: over such a registry the payload goes to every live connection of
  each target and is queued once per target occurrence for each target without entries. -/

namespace Scatter

namespace ConnectionStorage

/-- No entry is a null pointer. -/
def Live (st : ConnectionStorage) : Prop := ∀ sl ∈ st.slots, sl.connection.isSome

end ConnectionStorage

namespace ChatServer

variable {P : Type} (env : Env P)

/-- The sends `sendTo` issues to each user of `l` in turn over the registry `st`. -/
def sendsTo (st : ConnectionStorage) (p : P) (l : List UserId) : List (Send P) :=
  l.flatMap fun r => slotSends r p (env.payload.toJson p) (st.slotsOf r)

/-- The copies of `p` queued for `v` when it is sent to each user of `l` over `st`: one per
occurrence of `v` in `l` when `v` has no entry. -/
def queuedFor (st : ConnectionStorage) (p : P) (l : List UserId) (v : UserId) : List P :=
  if env.enableUndeliveredQueue then
    (l.filter fun r => r = v ∧ st.size r = 0).map (env.payload.setRecipient p)
  else []

/-- `routePayload`'s send-back: the sender once more, unless it is disabled, the type is
ignored (ignoring case) or the payload is for a bot. -/
def sendBackTargets (p : P) : List UserId :=
  if env.enableSendBack && !env.ignoreTypesSendBack.any (equalsIgnoreCase (env.payload.getType p)) &&
    !env.payload.isForBot p then [env.payload.getSender p] else []

/-- `t` is `s` after `sendTo` of `p` to each user of `l` in turn, with the registry unchanged. -/
structure SentTo (s t : ChatServer P) (p : P) (l : List UserId) : Prop where
  connectionStorage : t.connectionStorage = s.connectionStorage
  frameBuffer : t.frameBuffer = s.frameBuffer
  inflight : t.inflight = s.inflight ++ sendsTo env s.connectionStorage p l
  log : t.log = s.log ++ (sendsTo env s.connectionStorage p l).map .send
  undelivered : ∀ v, t.undeliveredMessagesMap v =
    s.undeliveredMessagesMap v ++ queuedFor env s.connectionStorage p l v

theorem SentTo.trans {s t u : ChatServer P} {p : P} {l l' : List UserId}
    (h : SentTo env s t p l) (h' : SentTo env t u p l') : SentTo env s u p (l ++ l') where
  connectionStorage := h'.connectionStorage.trans h.connectionStorage
  frameBuffer := h'.frameBuffer.trans h.frameBuffer
  inflight := by rw [h'.inflight, h.inflight, h.connectionStorage]; simp [sendsTo]
  log := by rw [h'.log, h.log, h.connectionStorage]; simp [sendsTo]
  undelivered v := by
    rw [h'.undelivered, h.undelivered, h.connectionStorage]
    by_cases hq : env.enableUndeliveredQueue <;> simp [queuedFor, hq]

/-- One `sendTo` over a registry without null entries. -/
theorem sentTo_sendTo (s : ChatServer P) (r : UserId) (p : P) (hlive : s.connectionStorage.Live) :
    SentTo env s (sendTo env s r p) p [r] where
  connectionStorage := by
    rw [sendTo_connectionStorage]
    exact removeNull_of_live _ _ _ fun sl hsl => hlive sl (ConnectionStorage.mem_slotsOf.mp hsl).1
  frameBuffer := sendTo_frameBuffer env s r p
  inflight := by simp [sendTo_inflight, sendsTo]
  log := by simp [sendTo_log, sendsTo]
  undelivered v := by
    rw [sendTo_undelivered]
    by_cases hq : env.enableUndeliveredQueue <;> by_cases hv : r = v
    · subst hv; by_cases h0 : s.connectionStorage.size r = 0 <;> simp [queuedFor, hq, h0]
    · simp [queuedFor, hq, hv, Ne.symm hv]
    all_goals simp [queuedFor, hq]

/-- `sendTo` to each user of `l` in turn, over a registry without null entries. -/
theorem sentTo_foldl (p : P) (l : List UserId) :
    ∀ s : ChatServer P, s.connectionStorage.Live →
      SentTo env s (l.foldl (fun s r => sendTo env s r p) s) p l := by
  induction l with
  | nil => intro s _; exact ⟨rfl, rfl, by simp [sendsTo], by simp [sendsTo], by simp [queuedFor]⟩
  | cons r l ih =>
    intro s hlive
    have h1 := sentTo_sendTo env s r p hlive
    exact h1.trans env (ih _ (h1.connectionStorage ▸ hlive))

theorem foldl_skip_zero (f : ChatServer P → UserId → ChatServer P) (l : List UserId) :
    ∀ s, l.foldl (fun s uid => if uid == 0 then s else f s uid) s = (l.filter (· != 0)).foldl f s := by
  induction l with
  | nil => exact fun _ => rfl
  | cons r l ih =>
    intro s
    rw [List.foldl_cons, List.filter_cons]
    cases h : r == 0
    · simp only [h, bne, Bool.not_false, Bool.false_eq_true, ↓reduceIte, List.foldl_cons]; exact ih _
    · simp only [h, bne, Bool.not_true, Bool.false_eq_true, ↓reduceIte]; exact ih _

theorem routePayload_invalid (s : ChatServer P) (c : Connection) (p : P)
    (h : env.payload.isValid p = false) :
    routePayload env s c p =
      s.sendClose c .invalidMessagePayload ("Invalid payload. " ++ env.payload.getError p) := by
  simp [routePayload, h]

theorem routePayload_bot (s : ChatServer P) (c : Connection) (p : P)
    (hvalid : env.payload.isValid p = true) (hbot : env.payload.isForBot p = true) :
    routePayload env s c p = s.emit (.listeners p) := by
  simp [routePayload, send, hvalid, hbot]

/-- A valid payload that is not for a bot goes to its send-back targets, then to the
listeners, then to its recipients other than `0`. -/
theorem routePayload_targets (s : ChatServer P) (c : Connection) (p : P)
    (hvalid : env.payload.isValid p = true) (hbot : env.payload.isForBot p = false) :
    routePayload env s c p = ((env.payload.getRecipients p).filter (· != 0)).foldl
      (fun s r => sendTo env s r p)
      (((sendBackTargets env p).foldl (fun s r => sendTo env s r p) s).emit (.listeners p)) := by
  have hsb : (sendBackTargets env p).foldl (fun s r => sendTo env s r p) s =
      if env.enableSendBack && !env.ignoreTypesSendBack.any (equalsIgnoreCase (env.payload.getType p))
      then sendTo env s (env.payload.getSender p) p else s := by
    simp only [sendBackTargets, hbot, Bool.not_false, Bool.and_true]; split <;> rfl
  rw [hsb]
  simp only [routePayload, hvalid, hbot, send, foldl_skip_zero, Bool.not_true, Bool.not_false,
    Bool.and_true, Bool.false_eq_true, ↓reduceIte]

/-- Two rounds of `sendTo` with the listeners' call between them, seen from the start: the
sends and queued copies of both rounds, the listeners between their sends. -/
theorem SentTo.around_listeners {s s₁ t : ChatServer P} {p : P} {l l' : List UserId}
    (h₁ : SentTo env s s₁ p l) (h₂ : SentTo env (s₁.emit (.listeners p)) t p l') :
    t.connectionStorage = s.connectionStorage ∧ t.frameBuffer = s.frameBuffer ∧
    t.inflight = s.inflight ++ sendsTo env s.connectionStorage p (l ++ l') ∧
    t.log = s.log ++ (sendsTo env s.connectionStorage p l).map .send ++ .listeners p ::
      (sendsTo env s.connectionStorage p l').map .send ∧
    ∀ v, t.undeliveredMessagesMap v =
      s.undeliveredMessagesMap v ++ queuedFor env s.connectionStorage p (l ++ l') v := by
  have hst := h₁.connectionStorage
  refine ⟨by rw [h₂.connectionStorage, emit_connectionStorage, hst],
    by rw [h₂.frameBuffer, emit_frameBuffer, h₁.frameBuffer], ?_, ?_, fun v => ?_⟩
  · rw [h₂.inflight, emit_inflight, emit_connectionStorage, h₁.inflight, hst]; simp [sendsTo]
  · rw [h₂.log, emit_log, emit_connectionStorage, h₁.log, hst]; simp
  · rw [h₂.undelivered, emit_undelivered, emit_connectionStorage, h₁.undelivered, hst]
    by_cases hq : env.enableUndeliveredQueue <;> simp [queuedFor, hq]

/-- **Routing a valid payload.** Over a registry without null entries, every target (the
send-back, then the recipients other than `0`) gets one send per registered connection and,
when it has none, one single-recipient copy at the tail of its queue; the listeners run
once, between the two; nothing else changes but the statistics. -/
theorem routePayload_of_live (s : ChatServer P) (c : Connection) (p : P)
    (hlive : s.connectionStorage.Live) (hvalid : env.payload.isValid p = true)
    (hbot : env.payload.isForBot p = false) :
    (routePayload env s c p).connectionStorage = s.connectionStorage ∧
    (routePayload env s c p).frameBuffer = s.frameBuffer ∧
    (routePayload env s c p).inflight = s.inflight ++ sendsTo env s.connectionStorage p
      (sendBackTargets env p ++ (env.payload.getRecipients p).filter (· != 0)) ∧
    (routePayload env s c p).log = s.log ++
      (sendsTo env s.connectionStorage p (sendBackTargets env p)).map .send ++ .listeners p ::
      (sendsTo env s.connectionStorage p ((env.payload.getRecipients p).filter (· != 0))).map .send ∧
    ∀ v, (routePayload env s c p).undeliveredMessagesMap v = s.undeliveredMessagesMap v ++
      queuedFor env s.connectionStorage p
        (sendBackTargets env p ++ (env.payload.getRecipients p).filter (· != 0)) v := by
  have h₁ := sentTo_foldl env p (sendBackTargets env p) s hlive
  rw [routePayload_targets env s c p hvalid hbot]
  exact h₁.around_listeners env
    (sentTo_foldl env p _ _ (by rw [emit_connectionStorage, h₁.connectionStorage]; exact hlive))

/-- User `5` has a connection, user `6` none: the copy for `6` is queued. -/
theorem routePayload_of_live_two_recipients :
    ((initial : ChatServer MessagePayload).setStorage
      (ConnectionStorage.empty.add 5 ⟨5, 1⟩)).connectionStorage.Live ∧
    (routePayload defaultEnv ((initial : ChatServer MessagePayload).setStorage
      (ConnectionStorage.empty.add 5 ⟨5, 1⟩)) ⟨9, 2⟩ ⟨"text", 9, [5, 6], "hi", true, ""⟩).inflight =
        [⟨⟨5, 1⟩, MessagePayload.toJson ⟨"text", 9, [5, 6], "hi", true, ""⟩,
          .message 5 ⟨"text", 9, [5, 6], "hi", true, ""⟩ 1⟩] ∧
    (routePayload defaultEnv ((initial : ChatServer MessagePayload).setStorage
      (ConnectionStorage.empty.add 5 ⟨5, 1⟩)) ⟨9, 2⟩ ⟨"text", 9, [5, 6], "hi", true, ""⟩).undeliveredMessagesMap
        6 = [⟨"text", 9, [6], "hi", true, ""⟩] := by
  have hlive : ((initial : ChatServer MessagePayload).setStorage
      (ConnectionStorage.empty.add 5 ⟨5, 1⟩)).connectionStorage.Live := by
    intro sl hsl
    simp [ConnectionStorage.add, ConnectionStorage.empty, ConnectionStorage.remove,
      ConnectionStorage.keep] at hsl
    simp [hsl]
  obtain ⟨-, -, hin, -, hq⟩ := routePayload_of_live defaultEnv _ ⟨9, 2⟩
    ⟨"text", 9, [5, 6], "hi", true, ""⟩ hlive rfl rfl
  exact ⟨hlive, by rw [hin]; rfl, by rw [hq 6]; rfl⟩

end ChatServer

end Scatter
