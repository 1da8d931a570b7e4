import Scatter.Sessions
import Scatter.Backlog

/-! What the server hands to the transport. Every event only appends to the log of effects,
and only effects it is permitted (`Permitted`): routing calls the listeners and sends to the
registry's entries, removing only null ones; `onConnected` drains after its add; a completion
handler that removes a connection sends nothing after the removal; closes come only from the
open being refused, the frame being rejected, or the watchdog. Every stored connection carries
its entry's key (`Keyed`, kept by every handler), so a send's connection is found at its own key.

* `handle_sends_to_registered`: the sends of one event go to connections found at their own
  key in the registry the event leaves. With `run_registry`, a connection whose key has been
  removed gets no send until its key is added again.
* `handle_closes_local`: an event closes only its own connection, or, at the watchdog's steps,
  inactive or unanswering registered ones. -/

namespace Scatter

namespace ConnectionStorage

/-- Every stored connection carries the key of its entry. -/
def Keyed (st : ConnectionStorage) : Prop :=
  ∀ sl ∈ st.slots, ∀ c, sl.connection = some c → (c.id, c.uniqueId) = sl.key

variable {st : ConnectionStorage}

theorem Keyed.keep (h : st.Keyed) (p : Slot → Bool) : (st.keep p).Keyed :=
  fun sl hsl => h sl (List.mem_of_mem_filter hsl)

/-- `add` stores the connection under its own unique id, with its id set to the user's. -/
theorem Keyed.add (h : st.Keyed) (id : UserId) (c : Connection) : (st.add id c).Keyed := by
  intro sl hsl c' hc
  rcases List.mem_append.mp hsl with hsl | hsl
  · exact h.keep _ sl hsl c' hc
  · rw [List.mem_singleton.mp hsl] at hc ⊢
    cases hc
    rfl

theorem Keyed.setPongWait (h : st.Keyed) (c : Connection) (b : Bool) : (st.setPongWait c b).Keyed := by
  intro sl hsl c' hc
  obtain ⟨sl, hmem, rfl⟩ := List.mem_map.mp hsl
  by_cases hk : sl.key = (c.id, c.uniqueId) <;> simp only [hk, ↓reduceIte] at hc ⊢ <;>
    exact h sl hmem c' hc

/-- In a keyed registry, a stored connection is what `lookup` finds at its own key. -/
theorem Keyed.lookup (h : st.Keyed) {sl : Slot} {c : Connection} (hsl : sl ∈ st.slots)
    (hc : sl.connection = some c) : st.lookup (c.id, c.uniqueId) = some sl :=
  lookup_eq_some.mpr ⟨hsl, (h sl hsl c hc).symm⟩

end ConnectionStorage

namespace ChatServer

variable {P : Type} (env : Env P)

theorem keyed_closed : Closed env fun s : ChatServer P => s.connectionStorage.Keyed where
  emit _ _ h := h
  issue _ _ h := h
  updateStat _ _ _ h := h
  remove _ _ _ h := h.keep _
  add _ _ _ h := h.add _ _
  setPongWait _ _ _ h := h.setPongWait _ _
  disconnect _ h := h.keep _
  push _ _ _ h := h
  pop _ _ h := h
  frameBuffer _ _ h := h
  eraseInflight _ _ h := h

/-- The log of `t` is the log of `s` followed by effects that satisfy `Q`. -/
def Appends (Q : Effect P → Prop) (s t : ChatServer P) : Prop :=
  ∃ L, t.log = s.log ++ L ∧ ∀ e ∈ L, Q e

namespace Appends

variable {Q Q' : Effect P → Prop} {s t u : ChatServer P}

theorem of_log (h : t.log = s.log) : Appends Q s t :=
  ⟨[], by simp [h], fun _ h => nomatch h⟩

theorem trans (h : Appends Q s t) (h' : Appends Q t u) : Appends Q s u := by
  obtain ⟨L, hL, hs⟩ := h
  obtain ⟨L', hL', hs'⟩ := h'
  refine ⟨L ++ L', by rw [hL', hL, List.append_assoc], fun e he => ?_⟩
  rcases List.mem_append.mp he with he | he
  · exact hs e he
  · exact hs' e he

theorem emit (e : Effect P) (he : Q e) : Appends Q s (s.emit e) :=
  ⟨[e], rfl, fun _ h => List.mem_singleton.mp h ▸ he⟩

theorem mono (h : Appends Q s t) (hQ : ∀ e, Q e → Q' e) : Appends Q' s t :=
  let ⟨L, hL, hs⟩ := h
  ⟨L, hL, fun e he => hQ e (hs e he)⟩

end Appends

/-- What routing hands to the outside: the listeners' call, and sends to connections that `st`
stores. Routing closes nothing. -/
def Routed (st : ConnectionStorage) : Effect P → Prop
  | .send snd => ∃ sl ∈ st.slots, sl.connection = some snd.connection
  | .listeners _ => True
  | _ => False

/-- The sends `sendTo` issues go to the live entries it reads. -/
theorem mem_sendsTo {st : ConnectionStorage} {p : P} {l : List UserId} {snd : Send P}
    (h : snd ∈ sendsTo env st p l) : ∃ sl ∈ st.slots, sl.connection = some snd.connection := by
  obtain ⟨r, -, h⟩ := List.mem_flatMap.mp h
  obtain ⟨sl, hsl, h⟩ := List.mem_filterMap.mp h
  obtain ⟨c, hc, rfl⟩ := Option.map_eq_some'.mp h
  exact ⟨sl, (ConnectionStorage.mem_slotsOf.mp hsl).1, hc⟩

theorem SentTo.appends {s t : ChatServer P} {p : P} {l : List UserId} (h : SentTo env s t p l) :
    Appends (Routed s.connectionStorage) s t :=
  ⟨_, h.log, fun e he => by
    obtain ⟨x, hx, rfl⟩ := List.mem_map.mp he
    exact mem_sendsTo env hx⟩

theorem send_appends (s : ChatServer P) (p : P) (hlive : s.connectionStorage.Live) :
    Appends (Routed s.connectionStorage) s (send env s p) := by
  have hemit : Appends (Routed s.connectionStorage) s (s.emit (.listeners p)) := .emit _ trivial
  cases hbot : env.payload.isForBot p
  · exact hemit.trans (SentTo.appends env (sentTo_send env s p hlive hbot))
  · simpa [send, hbot] using hemit

theorem onMessageSent_appends (s : ChatServer P) (p : P) (n : Nat) (b : Bool)
    (hlive : s.connectionStorage.Live) :
    Appends (Routed s.connectionStorage) s (onMessageSent env s p n b) := by
  have hr := recordMessageSent_connectionStorage env s p n b
  have hrec : Appends (Routed s.connectionStorage) s (recordMessageSent env s p n b) :=
    .of_log (recordMessageSent_log env s p n b)
  unfold onMessageSent
  split
  · exact .of_log rfl
  · dsimp only
    split
    · exact hrec.trans (hr ▸ send_appends env _ _ (hr ▸ hlive))
    · exact hrec

theorem redeliverLoop_appends (u : UserId) : ∀ fuel (s : ChatServer P) cnt r,
    s.connectionStorage.Live → redeliverLoop env fuel s u cnt = some r →
    Appends (Routed s.connectionStorage) s r.1 := by
  intro fuel
  induction fuel with
  | zero => intro _ _ _ _ h; cases h
  | succ fuel ih =>
    intro s cnt r hlive h
    simp only [redeliverLoop] at h
    split at h
    · cases h; exact .of_log rfl
    · rename_i p _ _
      have hsend := send_registry env (s.pop u) p hlive
      exact (send_appends env (s.pop u) p hlive).trans (hsend ▸ ih _ _ r (hsend ▸ hlive) h)

/-- A completion handler's effects are routing's, over the registry it leaves. -/
theorem complete_appends (s : ChatServer P) (snd : Send P) (err : ErrorCode) (n : Nat)
    (hlive : s.connectionStorage.Live) :
    Appends (Routed (complete env s snd err n).connectionStorage) s (complete env s snd err n) := by
  cases hcb : snd.callback with
  | message r p cid =>
    cases err with
    | none =>
      simp only [complete, hcb, bne_self_eq_false, Bool.false_eq_true, ↓reduceIte]
      rw [onMessageSent_registry env s _ n true hlive]
      exact onMessageSent_appends env s _ n true hlive
    | brokenPipe => exact .of_log (by simp [complete, hcb])
    | other => exact .of_log (by simp [complete, hcb])
  | ping c => exact .of_log (by cases err <;> simp [complete, hcb])

/-- What routing a frame of connection `c` hands to the outside: routing's effects, or a close
of `c` for its payload or its size. -/
def FrameRouted (st : ConnectionStorage) (c : Connection) (e : Effect P) : Prop :=
  Routed st e ∨ ∃ status r, e = .sendClose c status r ∧
    (status = .invalidMessagePayload ∨ status = .messageTooBig)

theorem routePayload_appends (s : ChatServer P) (c : Connection) (p : P)
    (hlive : s.connectionStorage.Live) :
    Appends (FrameRouted s.connectionStorage c) s (routePayload env s c p) := by
  unfold routePayload
  split
  · exact .emit _ (.inr ⟨_, _, rfl, .inl rfl⟩)
  · refine Appends.mono ?_ fun _ => .inl
    dsimp only
    split
    · have h := sentTo_sendTo env s (env.payload.getSender p) p hlive
      exact (SentTo.appends env h).trans
        (h.connectionStorage ▸ send_appends env _ p (h.connectionStorage ▸ hlive))
    · exact send_appends env s p hlive

theorem onMessage_appends (s : ChatServer P) (c : Connection) (op : Opcode) (data : String)
    (hlive : s.connectionStorage.Live) :
    Appends (FrameRouted s.connectionStorage c) s (onMessage env s c op data) := by
  have hread : (s.readFrameBuffer c.id true).1.connectionStorage = s.connectionStorage ∧
      (s.readFrameBuffer c.id true).1.log = s.log := by
    unfold readFrameBuffer; split <;> exact ⟨rfl, rfl⟩
  unfold onMessage
  split
  · exact routePayload_appends env s c _ hlive
  · exact routePayload_appends env s c _ hlive
  · exact .of_log rfl
  · exact .of_log rfl
  · exact .of_log rfl
  · dsimp only
    refine (Appends.of_log hread.2).trans ?_
    split
    · exact .emit _ (.inr ⟨_, _, rfl, .inr rfl⟩)
    · exact hread.1 ▸ routePayload_appends env _ c _ (hread.1 ▸ hlive)
  · exact routePayload_appends env s c _ hlive
  · exact routePayload_appends env s c _ hlive

/-- What event `e`, run in `s` and leaving the registry `st`, may hand to the outside: the
listeners' call; sends to connections of `st`; at an open, a close of the connection for its
authentication or its query, or, with the override, a close of a registered connection of the
user the open registers; at a frame, a close of the frame's connection for its payload or
its size; at a watchdog tick, a close of a registered connection whose user has been inactive
for the lifetime; at the watchdog's sweep, the closing of a connection awaiting a pong. -/
def Permitted (s : ChatServer P) (st : ConnectionStorage) : Event → Effect P → Prop
  | _, .send snd => ∃ sl ∈ st.slots, sl.connection = some snd.connection
  | _, .listeners _ => True
  | .onOpen c r, .sendClose c' status _ =>
    (c' = c ∧ (status = .unauthorized ∨ status = .invalidQueryParams)) ∨
    (status = .policyViolation ∧ env.allowOverrideConnection = true ∧
      ∃ sl ∈ s.connectionStorage.slots, sl.connection = some c' ∧ stoul (r.getParam "id") = .ok sl.user)
  | .onMessage c _ _, .sendClose c' status _ =>
    c' = c ∧ (status = .invalidMessagePayload ∨ status = .messageTooBig)
  | .watchdogPing inactive, .sendClose c status _ => status = .inactiveConnection ∧
    ∃ sl ∈ s.connectionStorage.slots, sl.connection = some c ∧
      env.connectionLifetimeSeconds ≤ inactive sl.user
  | .watchdogDisconnect, .disconnect c =>
    ∃ sl ∈ s.connectionStorage.slots, sl.connection = some c ∧ sl.pongWait = true
  | _, _ => False

theorem Routed.permitted {s : ChatServer P} {st : ConnectionStorage} {e : Event} {x : Effect P}
    (h : Routed st x) : Permitted env s st e x := by
  cases x with
  | send snd => cases e <;> exact h
  | listeners p => cases e <;> trivial
  | sendClose => exact h.elim
  | disconnect => exact h.elim

theorem watchdogPing_appends (s : ChatServer P) (inactive : UserId → Int)
    (hlive : s.connectionStorage.Live) :
    Appends (Permitted env s s.connectionStorage (.watchdogPing inactive)) s
      (watchdogPing env s inactive) := by
  have hfold : ∀ l : List Slot, (∀ sl ∈ l, sl ∈ s.connectionStorage.slots) → ∀ t : ChatServer P,
      Appends (Permitted env s s.connectionStorage (.watchdogPing inactive)) t
        (l.foldl (watchdogSlot env.connectionLifetimeSeconds inactive) t) := by
    intro l
    induction l with
    | nil => exact fun _ _ => .of_log rfl
    | cons sl l ih =>
      intro hl t
      have hmem := hl sl (List.mem_cons_self _ _)
      obtain ⟨c, hc⟩ := Option.isSome_iff_exists.mp (hlive sl hmem)
      refine Appends.trans ?_ (ih (fun x hx => hl x (List.mem_cons_of_mem _ hx)) _)
      rcases (watchdogSlot_live _ _ t sl c hc).2 with ⟨hin, r, hlog, -⟩ | ⟨-, hlog, -⟩
      · exact ⟨_, hlog, fun e he => List.mem_singleton.mp he ▸ ⟨rfl, sl, hmem, hc, hin⟩⟩
      · exact ⟨_, hlog, fun e he => List.mem_singleton.mp he ▸ ⟨sl, hmem, hc⟩⟩
  exact hfold _ (fun _ h => h) s

/-- `onConnected` before its drain closes the connection being opened, for its authentication or
its query, or, with the override, the registered connections of the user it registers. -/
theorem onConnectedAdd_appends (s t : ChatServer P) (c : Connection) (r : Request)
    (o : Option UserId) (st : ConnectionStorage) (h : onConnectedAdd env s c r = .ok (t, o)) :
    Appends (Permitted env s st (.onOpen c r)) s t := by
  unfold onConnectedAdd at h
  split at h
  · cases h; exact .emit _ (.inl ⟨rfl, .inl rfl⟩)
  split at h
  · cases h; exact .emit _ (.inl ⟨rfl, .inr rfl⟩)
  split at h
  · cases h; exact .emit _ (.inl ⟨rfl, .inr rfl⟩)
  split at h
  · cases h; exact .emit _ (.inl ⟨rfl, .inr rfl⟩)
  · cases h
  · rename_i id hid
    cases h
    rw [closePriorConnections_eq]
    refine ⟨_, rfl, fun e he => ?_⟩
    split at he
    · obtain ⟨c', hc', rfl⟩ := List.mem_map.mp he
      obtain ⟨sl, hsl, hc⟩ := List.mem_filterMap.mp hc'
      obtain ⟨hmem, rfl⟩ := ConnectionStorage.mem_slotsOf.mp hsl
      exact .inr ⟨rfl, ‹_›, sl, hmem, hc, hid⟩
    · exact absurd he (List.not_mem_nil _)

/-- Every event only appends to the log, and only effects it is permitted. -/
theorem handle_appends (fuel : Nat) (s t : ChatServer P) (e : Event)
    (hlive : s.connectionStorage.Live) (h : handle env fuel s e = some t) :
    Appends (Permitted env s t.connectionStorage e) s t := by
  cases e with
  | onOpen c r =>
    simp only [handle, onConnected] at h
    rcases onConnectedAdd_cases env s c r with ⟨st, reason, he⟩ | ⟨id, he⟩ | ⟨ex, he⟩ <;>
      rw [he] at h
    · cases h; exact onConnectedAdd_appends env s _ c r _ _ he
    · rw [Option.map_map] at h
      obtain ⟨⟨t', n⟩, hl, ht⟩ := Option.map_eq_some'.mp h
      obtain rfl : t' = t := ht
      have hadd := onConnectedAdd_appends env s _ c r _ t'.connectionStorage he
      have hlive' := (live_closed env).after_register s id c hlive
      rcases redeliverMessagesTo_cases env fuel _ id _ hl with he' | hl'
      · cases he'; exact hadd
      · refine hadd.trans ?_
        rw [redeliverLoop_registry env id fuel _ 0 _ hlive' hl']
        exact (redeliverLoop_appends env id fuel _ 0 _ hlive' hl').mono fun _ => Routed.permitted env
    · cases h; exact .of_log rfl
  | onClose c => cases h; exact .of_log (by unfold onDisconnected; split <;> rfl)
  | onMessage c op data =>
    cases h
    split
    · exact .of_log rfl
    · rw [onMessage_registry env s c op data hlive]
      refine (onMessage_appends env s c op data hlive).mono fun x hx => ?_
      rcases hx with hx | ⟨status, r, rfl, hs⟩
      · exact hx.permitted env
      · exact ⟨rfl, hs⟩
  | onSent i err n =>
    obtain ⟨snd, -, rfl⟩ := Option.map_eq_some'.mp h
    exact ((Appends.of_log rfl).trans
      (complete_appends env { s with inflight := s.inflight.eraseIdx i } snd err n hlive)).mono
        fun _ => Routed.permitted env
  | watchdogPing inactive =>
    cases h
    rw [watchdogPing_registry env s inactive hlive]
    exact watchdogPing_appends env s inactive hlive
  | watchdogDisconnect =>
    cases h
    rw [watchdogDisconnect_eq]
    refine ⟨_, rfl, fun x hx => ?_⟩
    obtain ⟨c, hc, rfl⟩ := List.mem_map.mp hx
    obtain ⟨sl, hsl, hc⟩ := List.mem_filterMap.mp hc
    exact ⟨sl, (List.mem_filter.mp hsl).1, hc, (List.mem_filter.mp hsl).2⟩

/-- **Sends go to registered connections.** In every state a run from the initial state
reaches, every event only appends to the log, and each send it hands to the transport goes
to a connection that the registry, when the event ends, holds at the connection's own key. -/
theorem handle_sends_to_registered (fuel : Nat) (pre : List Event) (s t : ChatServer P)
    (e : Event) (hs : run env fuel initial pre = some s) (h : handle env fuel s e = some t) :
    ∃ L, t.log = s.log ++ L ∧ ∀ snd, Effect.send snd ∈ L →
      ∃ sl, t.connectionStorage.lookup (snd.connection.id, snd.connection.uniqueId) = some sl ∧
        sl.connection = some snd.connection := by
  have hlive := run_closed (live_closed env) fuel pre initial s (fun _ h => nomatch h) hs
  have hkeyed := run_closed (keyed_closed env) fuel pre initial s (fun _ h => nomatch h) hs
  obtain ⟨L, hL, hsend⟩ := handle_appends env fuel s t e hlive h
  have hk := (keyed_closed env).after_handle fuel s t e hkeyed h
  refine ⟨L, hL, fun snd hm => ?_⟩
  obtain ⟨sl, hsl, hc⟩ : ∃ sl ∈ t.connectionStorage.slots, sl.connection = some snd.connection := by
    have := hsend _ hm
    cases e <;> exact this
  exact ⟨sl, hk.lookup hsl hc, hc⟩

/-- User `7` opens; the watchdog's tick then pings the connection, which the registry holds at
its key `(7, 1)`. -/
theorem handle_sends_to_registered_ping :
    ∃ s t, run defaultEnv 1 initial [.onOpen ⟨7, 1⟩ ⟨[("id", "7")]⟩] = some s ∧
      handle defaultEnv 1 s (.watchdogPing fun _ => 0) = some t ∧
      t.log = s.log ++ [.send ⟨⟨7, 1⟩, ".", .ping ⟨7, 1⟩⟩] ∧
      ∃ L, t.log = s.log ++ L ∧ ∀ snd, Effect.send snd ∈ L →
        ∃ sl, t.connectionStorage.lookup (snd.connection.id, snd.connection.uniqueId) = some sl ∧
          sl.connection = some snd.connection := by
  obtain ⟨s, hs⟩ : ∃ s, run defaultEnv 1 (initial : ChatServer MessagePayload)
      [.onOpen ⟨7, 1⟩ ⟨[("id", "7")]⟩] = some s := ⟨_, rfl⟩
  obtain ⟨t, ht⟩ : ∃ t, handle defaultEnv 1 s (.watchdogPing fun _ => 0) = some t := ⟨_, rfl⟩
  refine ⟨s, t, hs, ht, ?_, handle_sends_to_registered defaultEnv 1 _ s t _ hs ht⟩
  cases hs; cases ht; rfl

theorem permitted_sendClose {s : ChatServer P} {st : ConnectionStorage} {e : Event} {c : Connection}
    {status : Status} {r : String} (h : Permitted env s st e (.sendClose c status r)) :
    (∃ req, e = .onOpen c req ∧ (status = .unauthorized ∨ status = .invalidQueryParams)) ∨
    (∃ c₀ req, e = .onOpen c₀ req ∧ status = .policyViolation ∧ env.allowOverrideConnection = true ∧
      ∃ sl ∈ s.connectionStorage.slots, sl.connection = some c ∧
        stoul (req.getParam "id") = .ok sl.user) ∨
    (∃ op data, e = .onMessage c op data ∧
      (status = .invalidMessagePayload ∨ status = .messageTooBig)) ∨
    (∃ inactive, e = .watchdogPing inactive ∧ status = .inactiveConnection ∧
      ∃ sl ∈ s.connectionStorage.slots, sl.connection = some c ∧
        env.connectionLifetimeSeconds ≤ inactive sl.user) := by
  cases e with
  | onOpen c₀ req =>
    rcases h with ⟨rfl, hs⟩ | hov
    · exact .inl ⟨req, rfl, hs⟩
    · exact .inr (.inl ⟨c₀, req, rfl, hov⟩)
  | onMessage c' op data => obtain ⟨rfl, hs⟩ := h; exact .inr (.inr (.inl ⟨op, data, rfl, hs⟩))
  | watchdogPing inactive => exact .inr (.inr (.inr ⟨inactive, rfl, h⟩))
  | _ => exact h.elim

theorem permitted_disconnect {s : ChatServer P} {st : ConnectionStorage} {e : Event}
    {c : Connection} (h : Permitted env s st e (.disconnect c)) :
    e = .watchdogDisconnect ∧ ∃ sl ∈ s.connectionStorage.slots, sl.connection = some c ∧
      sl.pongWait = true := by
  cases e with
  | watchdogDisconnect => exact ⟨rfl, h⟩
  | _ => exact h.elim

/-- **Closes are local.** In every state without null entries, an event only appends to the
log, and every close it emits is one of: at an open, of the connection being opened, with
`UNAUTHORIZED` or `INVALID_QUERY_PARAMS`, or, when `allowOverrideConnection` is set, with
`POLICY_VIOLATION`, of a registered connection of the user whose id the open's query parses
to; at a frame, of the frame's own connection, with
`INVALID_MESSAGE_PAYLOAD` or `MESSAGE_TOO_BIG`; at a watchdog tick, with
`INACTIVE_CONNECTION`, of a registered connection whose user has been inactive for at least
the lifetime; at the watchdog's sweep, of a registered connection awaiting a pong. Routing a
payload never closes a recipient's connection, and completions, the drain and the transport's
closes close nothing. -/
theorem handle_closes_local (fuel : Nat) (s t : ChatServer P) (e : Event)
    (hlive : s.connectionStorage.Live) (h : handle env fuel s e = some t) :
    ∃ L, t.log = s.log ++ L ∧
      (∀ c status r, Effect.sendClose c status r ∈ L →
        (∃ req, e = .onOpen c req ∧ (status = .unauthorized ∨ status = .invalidQueryParams)) ∨
        (∃ c₀ req, e = .onOpen c₀ req ∧ status = .policyViolation ∧
          env.allowOverrideConnection = true ∧ ∃ sl ∈ s.connectionStorage.slots,
            sl.connection = some c ∧ stoul (req.getParam "id") = .ok sl.user) ∨
        (∃ op data, e = .onMessage c op data ∧
          (status = .invalidMessagePayload ∨ status = .messageTooBig)) ∨
        (∃ inactive, e = .watchdogPing inactive ∧ status = .inactiveConnection ∧
          ∃ sl ∈ s.connectionStorage.slots, sl.connection = some c ∧
            env.connectionLifetimeSeconds ≤ inactive sl.user)) ∧
      ∀ c, Effect.disconnect c ∈ L → e = .watchdogDisconnect ∧
        ∃ sl ∈ s.connectionStorage.slots, sl.connection = some c ∧ sl.pongWait = true := by
  obtain ⟨L, hL, hq⟩ := handle_appends env fuel s t e hlive h
  exact ⟨L, hL, fun c status r hm => permitted_sendClose env (hq _ hm),
    fun c hm => permitted_disconnect env (hq _ hm)⟩

/-- With the override allowed, user `5` opens a second connection: the open closes the first
with `POLICY_VIOLATION`, and that close is of a connection the registry held. -/
theorem handle_closes_local_override :
    ∃ s t, run { defaultEnv with allowOverrideConnection := true } 1 initial
        [.onOpen ⟨5, 1⟩ ⟨[("id", "5")]⟩] = some s ∧
      handle { defaultEnv with allowOverrideConnection := true } 1 s
        (.onOpen ⟨5, 2⟩ ⟨[("id", "5")]⟩) = some t ∧
      t.log = s.log ++ [.sendClose ⟨5, 1⟩ .policyViolation ""] ∧
      ∃ L, t.log = s.log ++ L ∧ ∀ c r, Effect.sendClose c .policyViolation r ∈ L →
        ∃ sl ∈ s.connectionStorage.slots, sl.connection = some c := by
  obtain ⟨s, hs⟩ : ∃ s, run { defaultEnv with allowOverrideConnection := true } 1
      (initial : ChatServer MessagePayload) [.onOpen ⟨5, 1⟩ ⟨[("id", "5")]⟩] = some s := ⟨_, rfl⟩
  obtain ⟨t, ht⟩ : ∃ t, handle { defaultEnv with allowOverrideConnection := true } 1 s
      (.onOpen ⟨5, 2⟩ ⟨[("id", "5")]⟩) = some t := by
    cases hs; exact ⟨_, rfl⟩
  have hlive := run_closed (live_closed _) 1 _ initial s (fun _ h => nomatch h) hs
  obtain ⟨L, hL, hclose, -⟩ := handle_closes_local _ 1 s t _ hlive ht
  refine ⟨s, t, hs, ht, by cases hs; cases ht; rfl, L, hL, fun c r hm => ?_⟩
  rcases hclose c _ r hm with ⟨-, -, hst | hst⟩ | ⟨-, -, -, -, -, sl, hsl, hc, -⟩ |
      ⟨op, data, he, -⟩ | ⟨inactive, he, -⟩
  · cases hst
  · cases hst
  · exact ⟨sl, hsl, hc⟩
  · cases he
  · cases he

/-- An entry that is absent stays absent under operations that add no connection at its key. -/
theorem foldl_onKey_absent {k : UserId × ConnId} : ∀ ops : List RegOp,
    (∀ id c, RegOp.add id c ∈ ops → (id, c.uniqueId) ≠ k) →
    ops.foldl (fun e o => o.onKey k e) none = none
  | [], _ => rfl
  | o :: ops, hadd => by
    have ho : o.onKey k none = none := by
      cases o with
      | add id c => exact if_neg fun hk => hadd id c (List.mem_cons_self _ _) hk.symm
      | remove id cid => simp [RegOp.onKey]
      | setPongWait c b => simp [RegOp.onKey]
      | sweep => rfl
    rw [List.foldl_cons, ho]
    exact foldl_onKey_absent ops fun id c h => hadd id c (List.mem_cons_of_mem _ h)

/-- One event from a state without an entry of key `k` that adds none: still no entry, and
no send to a connection of key `k`. -/
theorem handle_no_send_without_entry (fuel : Nat) (s t : ChatServer P) (e : Event)
    (hlive : s.connectionStorage.Live) (hkeyed : s.connectionStorage.Keyed)
    (h : handle env fuel s e = some t) (k : UserId × ConnId) (hk : s.connectionStorage.lookup k = none)
    (hadd : ∀ id c, RegOp.add id c ∈ regOps env s e → (id, c.uniqueId) ≠ k) :
    t.connectionStorage.lookup k = none ∧ ∃ L, t.log = s.log ++ L ∧
      ∀ snd, Effect.send snd ∈ L → (snd.connection.id, snd.connection.uniqueId) ≠ k := by
  have ht : t.connectionStorage.lookup k = none := by
    rw [handle_registry env fuel s t e hlive h, RegOp.lookup_applyAll, hk]
    exact foldl_onKey_absent _ hadd
  obtain ⟨L, hL, hq⟩ := handle_appends env fuel s t e hlive h
  refine ⟨ht, L, hL, fun snd hm hkey => ?_⟩
  obtain ⟨sl, hsl, hc⟩ : ∃ sl ∈ t.connectionStorage.slots, sl.connection = some snd.connection := by
    have := hq _ hm
    cases e <;> exact this
  have hlook := ((keyed_closed env).after_handle fuel s t e hkeyed h).lookup hsl hc
  rw [hkey, ht] at hlook
  cases hlook

/-- **No send to a removed connection.** Along any run from a state that a run from the
initial state reaches and whose registry holds no entry of key `k`, until an open adds a
connection under `k`, no event hands the transport a send to a connection of key `k`: a
connection, once closed, removed after a failed send or swept by the watchdog, gets nothing
more. -/
theorem run_no_send_without_entry (fuel : Nat) (pre post : List Event) (s t : ChatServer P)
    (hs : run env fuel initial pre = some s) (h : run env fuel s post = some t)
    (k : UserId × ConnId) (hk : s.connectionStorage.lookup k = none)
    (hadd : ∀ id c, RegOp.add id c ∈ regTrace env fuel s post → (id, c.uniqueId) ≠ k) :
    ∃ L, t.log = s.log ++ L ∧
      ∀ snd, Effect.send snd ∈ L → (snd.connection.id, snd.connection.uniqueId) ≠ k := by
  have hrun : ∀ (es : List Event) (s : ChatServer P), s.connectionStorage.Live →
      s.connectionStorage.Keyed → s.connectionStorage.lookup k = none →
      (∀ id c, RegOp.add id c ∈ regTrace env fuel s es → (id, c.uniqueId) ≠ k) →
      run env fuel s es = some t → ∃ L, t.log = s.log ++ L ∧
        ∀ snd, Effect.send snd ∈ L → (snd.connection.id, snd.connection.uniqueId) ≠ k := by
    intro es
    induction es with
    | nil => intro s _ _ _ _ h; cases h; exact ⟨[], by simp, fun _ h => nomatch h⟩
    | cons e es ih =>
      intro s hlive hkeyed hk hadd h
      obtain ⟨s', h1, h2⟩ := Option.bind_eq_some.mp h
      rw [regTrace_cons env fuel es h1] at hadd
      obtain ⟨hk', L, hL, hL'⟩ := handle_no_send_without_entry env fuel s s' e hlive hkeyed h1 k hk
        fun id c hm => hadd id c (List.mem_append_left _ hm)
      obtain ⟨L', hL2, hL2'⟩ := ih s' ((live_closed env).after_handle fuel s s' e hlive h1)
        ((keyed_closed env).after_handle fuel s s' e hkeyed h1) hk'
        (fun id c hm => hadd id c (List.mem_append_right _ hm)) h2
      refine ⟨L ++ L', by rw [hL2, hL, List.append_assoc], fun snd hm => ?_⟩
      rcases List.mem_append.mp hm with hm | hm
      · exact hL' snd hm
      · exact hL2' snd hm
  exact hrun post s (run_closed (live_closed env) fuel pre initial s (fun _ h => nomatch h) hs)
    (run_closed (keyed_closed env) fuel pre initial s (fun _ h => nomatch h) hs) hk hadd h

/-- Users `5` and `9` open, `5` closes; a text from `9` to `5` is then queued, and nothing is
sent to `5`'s closed connection. -/
theorem run_no_send_without_entry_after_close :
    ∃ s t, run defaultEnv 1 initial [.onOpen ⟨5, 1⟩ ⟨[("id", "5")]⟩, .onOpen ⟨9, 1⟩ ⟨[("id", "9")]⟩,
        .onClose ⟨5, 1⟩] = some s ∧
      run defaultEnv 1 s [.onMessage ⟨9, 1⟩ .frameText
        "\x7b\"type\":\"text\",\"sender\":9,\"recipients\":[5],\"body\":\"hi\"\x7d"] = some t ∧
      t.undeliveredMessagesMap 5 ≠ [] ∧ ∃ L, t.log = s.log ++ L ∧
        ∀ snd, Effect.send snd ∈ L → (snd.connection.id, snd.connection.uniqueId) ≠ (5, 1) := by
  obtain ⟨s, hs⟩ : ∃ s, run defaultEnv 1 (initial : ChatServer MessagePayload)
      [.onOpen ⟨5, 1⟩ ⟨[("id", "5")]⟩, .onOpen ⟨9, 1⟩ ⟨[("id", "9")]⟩, .onClose ⟨5, 1⟩] = some s :=
    ⟨_, rfl⟩
  obtain ⟨t, ht⟩ : ∃ t, run defaultEnv 1 s [.onMessage ⟨9, 1⟩ .frameText
      "\x7b\"type\":\"text\",\"sender\":9,\"recipients\":[5],\"body\":\"hi\"\x7d"] = some t := by
    cases hs; exact ⟨_, rfl⟩
  refine ⟨s, t, hs, ht, by cases hs; cases ht; decide,
    run_no_send_without_entry defaultEnv 1 _ _ s t hs ht (5, 1) (by cases hs; rfl) ?_⟩
  intro id c hm
  have htr : regTrace defaultEnv 1 s [.onMessage ⟨9, 1⟩ .frameText
      "\x7b\"type\":\"text\",\"sender\":9,\"recipients\":[5],\"body\":\"hi\"\x7d"] = [] := by
    cases hs; rfl
  rw [htr] at hm
  exact absurd hm (List.not_mem_nil _)

/-- **The watchdog skips no connection.** Over a registry without null entries, a tick hands
the transport, for every registered connection `c` of user `u`, a close of `c` with
`INACTIVE_CONNECTION` when `u` has been inactive for at least the lifetime, and otherwise a
ping to `c`, which is then in flight until its completion. -/
theorem watchdogPing_covers (s : ChatServer P) (inactive : UserId → Int)
    (hlive : s.connectionStorage.Live) :
    ∃ L, (watchdogPing env s inactive).log = s.log ++ L ∧
      ∀ sl ∈ s.connectionStorage.slots, ∀ c, sl.connection = some c →
        (env.connectionLifetimeSeconds ≤ inactive sl.user →
          ∃ r, Effect.sendClose c .inactiveConnection r ∈ L) ∧
        (inactive sl.user < env.connectionLifetimeSeconds →
          Effect.send ⟨c, ".", .ping c⟩ ∈ L ∧
            ⟨c, ".", .ping c⟩ ∈ (watchdogPing env s inactive).inflight) := by
  have hfold : ∀ l : List Slot, (∀ sl ∈ l, sl.connection.isSome) → ∀ t : ChatServer P,
      let u := l.foldl (watchdogSlot env.connectionLifetimeSeconds inactive) t
      ∃ L, u.log = t.log ++ L ∧ t.inflight <+: u.inflight ∧
        ∀ sl ∈ l, ∀ c, sl.connection = some c →
          (env.connectionLifetimeSeconds ≤ inactive sl.user →
            ∃ r, Effect.sendClose c .inactiveConnection r ∈ L) ∧
          (inactive sl.user < env.connectionLifetimeSeconds →
            Effect.send ⟨c, ".", .ping c⟩ ∈ L ∧ ⟨c, ".", .ping c⟩ ∈ u.inflight) := by
    intro l
    induction l with
    | nil => exact fun _ t => ⟨[], by simp, List.prefix_refl _, fun _ h => nomatch h⟩
    | cons sl l ih =>
      intro hl t
      obtain ⟨c, hc⟩ := Option.isSome_iff_exists.mp (hl sl (List.mem_cons_self _ _))
      obtain ⟨L, hL, hpre, hcov⟩ :=
        ih (fun x hx => hl x (List.mem_cons_of_mem _ hx)) (watchdogSlot _ inactive t sl)
      -- the effect of `sl`, then those of the rest
      obtain ⟨eff, hlog, hinfl, hsl⟩ : ∃ eff,
          (watchdogSlot env.connectionLifetimeSeconds inactive t sl).log = t.log ++ [eff] ∧
          t.inflight <+: (watchdogSlot env.connectionLifetimeSeconds inactive t sl).inflight ∧
          (env.connectionLifetimeSeconds ≤ inactive sl.user →
            ∃ r, eff = .sendClose c .inactiveConnection r) ∧
          (inactive sl.user < env.connectionLifetimeSeconds → eff = .send ⟨c, ".", .ping c⟩ ∧
            ⟨c, ".", .ping c⟩ ∈
              (watchdogSlot env.connectionLifetimeSeconds inactive t sl).inflight) := by
        rcases (watchdogSlot_live _ _ t sl c hc).2 with ⟨hin, r, hlog, hinfl⟩ | ⟨hin, hlog, hinfl⟩
        · exact ⟨_, hlog, hinfl ▸ List.prefix_refl _, fun _ => ⟨r, rfl⟩,
            fun h => absurd hin (not_le.mpr h)⟩
        · exact ⟨_, hlog, hinfl ▸ List.prefix_append _ _, fun h => absurd h (not_le.mpr hin),
            fun _ => ⟨rfl, hinfl ▸ List.mem_concat_self _ _⟩⟩
      rw [List.foldl_cons]
      refine ⟨eff :: L, by rw [hL, hlog]; simp, hinfl.trans hpre, fun x hx c' hc' => ?_⟩
      rcases List.mem_cons.mp hx with rfl | hx
      · cases hc.symm.trans hc'
        refine ⟨fun h => ?_,
          fun h => ⟨(hsl.2 h).1 ▸ List.mem_cons_self _ _, hpre.subset (hsl.2 h).2⟩⟩
        obtain ⟨r, rfl⟩ := hsl.1 h
        exact ⟨r, List.mem_cons_self _ _⟩
      · obtain ⟨h1, h2⟩ := hcov x hx c' hc'
        exact ⟨fun h => (h1 h).imp fun _ h => List.mem_cons_of_mem _ h,
          fun h => ⟨List.mem_cons_of_mem _ (h2 h).1, (h2 h).2⟩⟩
  obtain ⟨L, hL, -, hcov⟩ := hfold _ hlive s
  exact ⟨L, hL, hcov⟩

/-- User `7` opens; a tick that reads its inactive time as `0` pings its connection, and the ping
is in flight. -/
theorem watchdogPing_covers_ping :
    ∃ s, run defaultEnv 1 initial [.onOpen ⟨7, 1⟩ ⟨[("id", "7")]⟩] = some s ∧
      (⟨⟨7, 1⟩, ".", .ping ⟨7, 1⟩⟩ : Send MessagePayload) ∈
        (watchdogPing defaultEnv s fun _ => 0).inflight := by
  obtain ⟨s, hs⟩ : ∃ s, run defaultEnv 1 (initial : ChatServer MessagePayload)
      [.onOpen ⟨7, 1⟩ ⟨[("id", "7")]⟩] = some s := ⟨_, rfl⟩
  have hlive := run_closed (live_closed defaultEnv) 1 _ initial s (fun _ h => nomatch h) hs
  obtain ⟨L, -, hcov⟩ := watchdogPing_covers defaultEnv s (fun _ => 0) hlive
  have hsl : (⟨7, 1, some ⟨7, 1⟩, false⟩ : Slot) ∈ s.connectionStorage.slots := by
    cases hs; decide
  exact ⟨s, hs, ((hcov _ hsl ⟨7, 1⟩ rfl).2 (by decide)).2⟩

end ChatServer

end Scatter
