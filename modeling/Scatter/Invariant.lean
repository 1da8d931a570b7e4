import Scatter.Delivery
import Scatter.Redelivery

/-! Invariants of the state over whole runs. Every handler changes the state only through
a few primitive updates (effects, sends, statistics, registry operations, queue pushes of
single-recipient copies, pops, frame buffers, completed sends). A property that each of them
keeps (`Closed`; `Kept` when the drain's pops and the completions are left out) is kept by
every handler, hence by every run: one traversal of the handlers, used by each invariant
below and by the interleaved model.

* `run_closed`: a closed property holds along every run.
* `run_live`: no registry entry is ever null.
* `onMessage_routes_frame`: so in every reachable state a complete frame is routed by the
  account of `Delivery`: each target's live connections get one send, or its queue one copy.
* `run_queued_addressed`: every queued payload is addressed to the owner of its queue
  alone. -/

namespace Scatter

namespace ChatServer

variable {P : Type} (env : Env P)

/-- A property of states that every update of the routing, completion and watchdog
handlers keeps. -/
structure Kept (I : ChatServer P → Prop) : Prop where
  emit : ∀ s e, I s → I (s.emit e)
  issue : ∀ s snd, I s → I (s.issue snd)
  updateStat : ∀ s id f, I s → I (s.updateStat id f)
  remove : ∀ s id cid, I s → I (s.setStorage (s.connectionStorage.remove id cid))
  add : ∀ s id c, I s → I (s.setStorage (s.connectionStorage.add id c))
  setPongWait : ∀ s c b, I s → I (s.setStorage (s.connectionStorage.setPongWait c b))
  disconnect : ∀ s, I s → I (s.setStorage s.connectionStorage.disconnectWithoutPong.1)
  push : ∀ s r p, I s → I (s.push r (env.payload.setRecipient p r))
  frameBuffer : ∀ s b, I s → I { s with frameBuffer := b }

/-- A kept property that the drain's pops and the removal of a completed send also keep:
every handler keeps it. -/
structure Closed (I : ChatServer P → Prop) extends Kept env I : Prop where
  pop : ∀ s u, I s → I (s.pop u)
  eraseInflight : ∀ s i, I s → I { s with inflight := s.inflight.eraseIdx i }

/-- A fold of steps that each keep a property keeps it. -/
theorem foldl_preserves {α : Type} {I : ChatServer P → Prop} (step : ChatServer P → α → ChatServer P)
    (h : ∀ s x, I s → I (step s x)) : ∀ (l : List α) s, I s → I (l.foldl step s) := by
  intro l
  induction l with
  | nil => exact fun _ hs => hs
  | cons x l ih => exact fun s hs => ih _ (h s x hs)

section Kept

variable {env} {I : ChatServer P → Prop} (hI : Kept env I)
include hI

theorem Kept.after_handleUndeliverable (s : ChatServer P) (r : UserId) (p : P) (hs : I s) :
    I (handleUndeliverable env s r p) := by
  rw [handleUndeliverable_eq]
  split
  · exact hI.push s r p hs
  · exact hs

theorem Kept.after_recordMessageSent (s : ChatServer P) (p : P) (n : Nat) (b : Bool) (hs : I s) :
    I (recordMessageSent env s p n b) := by
  unfold recordMessageSent
  split
  · exact hs
  · exact foldl_preserves _ (fun s i h => by split; exacts [hI.updateStat _ _ _ h, h]) _ _
      (hI.updateStat _ _ _ hs)

theorem Kept.after_sendToAfterCheck (s : ChatServer P) (r : UserId) (p : P) (offline : Bool)
    (hs : I s) : I (sendToAfterCheck env s r p offline) := by
  unfold sendToAfterCheck
  split
  · exact hI.after_recordMessageSent _ _ _ _ (hI.after_handleUndeliverable s r p hs)
  · split
    · exact hI.after_handleUndeliverable s r p hs
    · refine foldl_preserves _ (fun s sl h => ?_) _ _ hs
      unfold sendToSlot
      split
      · exact hI.remove _ _ _ h
      · exact hI.issue _ _ h

theorem Kept.after_sendTo (s : ChatServer P) (r : UserId) (p : P) (hs : I s) : I (sendTo env s r p) :=
  hI.after_sendToAfterCheck s r p _ hs

theorem Kept.after_send (s : ChatServer P) (p : P) (hs : I s) : I (send env s p) :=
  send_preserves env I p (fun s h => hI.emit s _ h) (fun s r h => hI.after_sendTo s r p h) s hs

theorem Kept.after_onMessageSent (s : ChatServer P) (p : P) (n : Nat) (b : Bool) (hs : I s) :
    I (onMessageSent env s p n b) := by
  unfold onMessageSent
  split
  · exact hs
  · have h := hI.after_recordMessageSent s p n b hs
    split
    · exact hI.after_send _ _ h
    · exact h

theorem Kept.after_routePayload (s : ChatServer P) (c : Connection) (p : P) (hs : I s) :
    I (routePayload env s c p) := by
  unfold routePayload
  split
  · exact hI.emit s _ hs
  · refine hI.after_send _ p ?_
    split
    · exact hI.after_sendTo s _ p hs
    · exact hs

theorem Kept.after_onMessage (s : ChatServer P) (c : Connection) (op : Opcode) (data : String)
    (hs : I s) : I (onMessage env s c op data) := by
  have hw : ∀ d clear, I (s.writeFrameBuffer c.id d clear) := fun _ _ => hI.frameBuffer s _ hs
  unfold onMessage
  split
  · exact hI.after_routePayload s c _ hs
  · exact hI.after_routePayload s c _ hs
  · exact hw _ _
  · exact hw _ _
  · exact hw _ _
  · have hr : I (s.readFrameBuffer c.id true).1 := by
      unfold readFrameBuffer
      split
      · exact hs
      · exact hI.frameBuffer s _ hs
    dsimp only
    split
    · exact hI.emit _ _ hr
    · exact hI.after_routePayload _ c _ hr
  · exact hI.after_routePayload s c _ hs
  · exact hI.after_routePayload s c _ hs

theorem Kept.after_complete (s : ChatServer P) (snd : Send P) (err : ErrorCode) (n : Nat) (hs : I s) :
    I (complete env s snd err n) := by
  unfold complete
  split
  · split
    · refine hI.after_handleUndeliverable _ _ _ ?_
      split
      · exact hI.remove s _ _ hs
      · exact hs
    · exact hI.after_onMessageSent s _ n true hs
  · split
    · exact hI.remove s _ _ hs
    · exact hI.setPongWait s _ _ hs

theorem Kept.after_watchdogPing (s : ChatServer P) (inactive : UserId → Int) (hs : I s) :
    I (watchdogPing env s inactive) := by
  refine foldl_preserves _ (fun s sl h => ?_) _ _ hs
  have hu := hI.updateStat s sl.user id h
  unfold watchdogSlot
  split
  · exact hI.remove _ _ _ hu
  · split
    · exact hI.emit _ _ hu
    · exact hI.issue _ _ hu

theorem Kept.after_watchdogDisconnect (s : ChatServer P) (hs : I s) : I (watchdogDisconnect s) :=
  foldl_preserves _ (fun s _ h => hI.emit s _ h) _ _ (hI.disconnect s hs)

theorem Kept.after_closePriorConnections (s : ChatServer P) (id : UserId) (hs : I s) :
    I (closePriorConnections env s id) := by
  unfold closePriorConnections
  split
  · exact foldl_preserves _ (fun s _ h => hI.emit s _ h) _ _ hs
  · exact hs

/-- The register branch of `onConnectedAdd`: the override's closes, the add, the count. -/
theorem Kept.after_register (s : ChatServer P) (id : UserId) (c : Connection) (hs : I s) :
    I (((closePriorConnections env s id).setStorage
      ((closePriorConnections env s id).connectionStorage.add id c)).updateStat id
      Statistics.addConnection) :=
  hI.updateStat _ id _ (hI.add _ id c (hI.after_closePriorConnections s id hs))

theorem Kept.after_onConnectedAdd (s t : ChatServer P) (c : Connection) (r : Request)
    (o : Option UserId) (hs : I s) (h : onConnectedAdd env s c r = .ok (t, o)) : I t := by
  rcases onConnectedAdd_cases env s c r with ⟨_, _, he⟩ | ⟨id, he⟩ | ⟨_, he⟩ <;> rw [he] at h <;>
    cases h
  · exact hI.emit s _ hs
  · exact hI.after_register s id c hs

theorem Kept.after_onDisconnected (s : ChatServer P) (c : Connection) (hs : I s) :
    I (onDisconnected s c) := by
  unfold onDisconnected
  split
  · exact hs
  · exact hI.remove _ _ _ (hI.updateStat s _ _ hs)

end Kept

section Closed

variable {env} {I : ChatServer P → Prop} (hI : Closed env I)
include hI

theorem Closed.after_redeliverLoop (u : UserId) :
    ∀ fuel (s : ChatServer P) cnt r, I s → redeliverLoop env fuel s u cnt = some r → I r.1 := by
  intro fuel
  induction fuel with
  | zero => intro _ _ _ _ h; cases h
  | succ fuel ih =>
    intro s cnt r hs h
    simp only [redeliverLoop] at h
    split at h
    · cases h; exact hs
    · exact ih _ _ _ (hI.after_send _ _ (hI.pop s u hs)) h

theorem Closed.after_onConnected (fuel : Nat) (s t : ChatServer P) (c : Connection) (r : Request)
    (hs : I s) (h : onConnected env fuel s c r = some (.ok t)) : I t := by
  rcases onConnected_ok env fuel s t c r h with ⟨st, reason, rfl⟩ | ⟨id, n, hr⟩
  · exact hI.emit s _ hs
  · have hs' := hI.after_register s id c hs
    rcases redeliverMessagesTo_cases env fuel _ id _ hr with he | hl
    · cases he; exact hs'
    · exact hI.after_redeliverLoop id fuel _ 0 _ hs' hl

theorem Closed.after_handle (fuel : Nat) (s t : ChatServer P) (e : Event) (hs : I s)
    (h : handle env fuel s e = some t) : I t := by
  cases e with
  | onOpen c r =>
    obtain ⟨x, hx, rfl⟩ := Option.map_eq_some'.mp h
    cases x with
    | ok t' => exact hI.after_onConnected fuel s t' c r hs hx
    | error => exact hs
  | onClose c => cases h; exact hI.after_onDisconnected s c hs
  | onMessage c op data =>
    cases h
    split
    · exact hI.setPongWait s _ _ hs
    · exact hI.after_onMessage s c op data hs
  | onSent i err n =>
    obtain ⟨snd, -, rfl⟩ := Option.map_eq_some'.mp h
    exact hI.after_complete _ snd err n (hI.eraseInflight s i hs)
  | watchdogPing inactive => cases h; exact hI.after_watchdogPing s inactive hs
  | watchdogDisconnect => cases h; exact hI.after_watchdogDisconnect s hs

/-- A closed property holds along every run. -/
theorem run_closed (fuel : Nat) :
    ∀ (es : List Event) (s t : ChatServer P), I s → run env fuel s es = some t → I t
  | [], _, _, hs, h => by cases h; exact hs
  | e :: es, s, t, hs, h => by
    obtain ⟨s', h1, h2⟩ := Option.bind_eq_some.mp h
    exact run_closed fuel es s' t (hI.after_handle fuel s s' e hs h1) h2

end Closed

end ChatServer

namespace ConnectionStorage

variable {st : ConnectionStorage}

theorem Live.keep (h : st.Live) (p : Slot → Bool) : (st.keep p).Live :=
  fun sl hsl => h sl (List.mem_of_mem_filter hsl)

theorem Live.add (h : st.Live) (id : UserId) (c : Connection) : (st.add id c).Live := by
  intro sl hsl
  rcases List.mem_append.mp hsl with hsl | hsl
  · exact h.keep _ sl hsl
  · rw [List.mem_singleton.mp hsl]; rfl

theorem Live.setPongWait (h : st.Live) (c : Connection) (b : Bool) : (st.setPongWait c b).Live := by
  intro sl hsl
  obtain ⟨sl, hmem, rfl⟩ := List.mem_map.mp hsl
  split <;> exact h sl hmem

end ConnectionStorage

namespace ChatServer

variable {P : Type} (env : Env P)

/-- The handlers never store a null entry: the registry's own `add` stores the connection. -/
theorem live_closed : Closed env fun s : ChatServer P => s.connectionStorage.Live where
  emit _ _ h := h
  issue _ _ h := h
  updateStat _ _ _ h := h
  remove _ _ _ h := h.keep _
  add _ _ _ h := h.add _ _
  setPongWait _ _ _ h := h.setPongWait _ _
  disconnect _ h := h.keep _
  push _ _ _ h := h
  pop _ _ h := h
  frameBuffer _ _ h := h
  eraseInflight _ _ h := h

/-- **No null entries.** From the initial state every run keeps every registry entry
non-null, so the account of routing over a live registry holds at every routing of such a
run. -/
theorem run_live (fuel : Nat) (es : List Event) (t : ChatServer P)
    (h : run env fuel initial es = some t) : t.connectionStorage.Live :=
  run_closed (live_closed env) fuel es initial t (fun _ h => nomatch h) h

/-- **Routing a frame, in every reachable state.** In every state a run from the initial
state reaches, no registry entry is null, and `onMessage` on a complete (text or binary) frame
whose text parses to `p`: closes the frame's connection with `INVALID_MESSAGE_PAYLOAD` and
does nothing else when `p` is invalid; only runs the listeners on `p` when `p` is for a bot;
and otherwise gives each target (the send-back target, then the recipients other than `0`,
with their repetitions) one send per registered connection and, when it has none, one copy of
`p` for it alone at the tail of its queue, runs the listeners once between the two, and
changes no other connection, queue, registry entry or frame buffer. -/
theorem onMessage_routes_frame (fuel : Nat) (pre : List Event) (s : ChatServer P)
    (hs : run env fuel initial pre = some s) (c : Connection) (op : Opcode)
    (hop : op = .frameText ∨ op = .frameBinary) (data : String) (p : P)
    (hp : env.payload.parse data = p) :
    s.connectionStorage.Live ∧
    (env.payload.isValid p = false → onMessage env s c op data =
      s.sendClose c .invalidMessagePayload ("Invalid payload. " ++ env.payload.getError p)) ∧
    (env.payload.isValid p = true → env.payload.isForBot p = true →
      onMessage env s c op data = s.emit (.listeners p)) ∧
    (env.payload.isValid p = true → env.payload.isForBot p = false →
      (onMessage env s c op data).connectionStorage = s.connectionStorage ∧
      (onMessage env s c op data).frameBuffer = s.frameBuffer ∧
      (onMessage env s c op data).inflight = s.inflight ++ sendsTo env s.connectionStorage p
        (sendBackTargets env p ++ (env.payload.getRecipients p).filter (· != 0)) ∧
      (onMessage env s c op data).log = s.log ++
        (sendsTo env s.connectionStorage p (sendBackTargets env p)).map .send ++ .listeners p ::
        (sendsTo env s.connectionStorage p ((env.payload.getRecipients p).filter (· != 0))).map
          .send ∧
      ∀ v, (onMessage env s c op data).undeliveredMessagesMap v = s.undeliveredMessagesMap v ++
        queuedFor env s.connectionStorage p
          (sendBackTargets env p ++ (env.payload.getRecipients p).filter (· != 0)) v) := by
  have hlive := run_live env fuel pre s hs
  have hroute : onMessage env s c op data = routePayload env s c p := by
    rcases hop with rfl | rfl <;> rw [← hp] <;> rfl
  rw [hroute]
  refine ⟨hlive, routePayload_invalid env s c p, routePayload_bot env s c p,
    fun hvalid hbot => ?_⟩
  have h₁ := sentTo_foldl env p (sendBackTargets env p) s hlive
  rw [routePayload_targets env s c p hvalid hbot]
  exact h₁.around_listeners env
    (sentTo_foldl env p _ _ (by rw [emit_connectionStorage, h₁.connectionStorage]; exact hlive))

/-- User `5` is connected and `6` is not: a frame from `9` to both sends to `5`'s connection
and queues a copy for `6`. -/
theorem onMessage_routes_frame_two_recipients :
    ∃ s, run defaultEnv 1 initial [.onOpen ⟨5, 1⟩ ⟨[("id", "5")]⟩] = some s ∧
      (onMessage defaultEnv s ⟨9, 2⟩ .frameText
          "\x7b\"type\":\"text\",\"sender\":9,\"recipients\":[5,6],\"body\":\"hi\"\x7d").inflight =
        s.inflight ++ [⟨⟨5, 1⟩, MessagePayload.toJson ⟨"text", 9, [5, 6], "hi", true, ""⟩,
          .message 5 ⟨"text", 9, [5, 6], "hi", true, ""⟩ 1⟩] ∧
      (onMessage defaultEnv s ⟨9, 2⟩ .frameText
          "\x7b\"type\":\"text\",\"sender\":9,\"recipients\":[5,6],\"body\":\"hi\"\x7d").undeliveredMessagesMap
        6 = [⟨"text", 9, [6], "hi", true, ""⟩] := by
  obtain ⟨s, hs⟩ : ∃ s, run defaultEnv 1 (initial : ChatServer MessagePayload)
      [.onOpen ⟨5, 1⟩ ⟨[("id", "5")]⟩] = some s := ⟨_, rfl⟩
  obtain ⟨-, -, -, hroute⟩ := onMessage_routes_frame defaultEnv 1 _ s hs ⟨9, 2⟩ .frameText
    (.inl rfl) "\x7b\"type\":\"text\",\"sender\":9,\"recipients\":[5,6],\"body\":\"hi\"\x7d"
    ⟨"text", 9, [5, 6], "hi", true, ""⟩ rfl
  obtain ⟨-, -, hin, -, hq⟩ := hroute rfl rfl
  refine ⟨s, hs, ?_, ?_⟩
  · rw [hin]; cases hs; rfl
  · rw [hq 6]; cases hs; rfl

/-- Every payload in a queue is addressed to the queue's owner alone. -/
def QueuedAddressed (s : ChatServer P) : Prop :=
  ∀ u, ∀ p ∈ s.undeliveredMessagesMap u, env.payload.getRecipients p = [u]

/-- Only `handleUndeliverable` enqueues, and it enqueues `setRecipient` copies. -/
theorem queuedAddressed_closed : Closed env (QueuedAddressed env) where
  emit _ _ h := h
  issue _ _ h := h
  updateStat _ _ _ h := h
  remove _ _ _ h := h
  add _ _ _ h := h
  setPongWait _ _ _ h := h
  disconnect _ h := h
  push s r p h u q hq := by
    simp only [push, Function.update_apply] at hq
    split at hq
    · subst u
      rcases List.mem_append.mp hq with hq | hq
      · exact h r q hq
      · rw [List.mem_singleton.mp hq, env.payload.getRecipients_setRecipient]
    · exact h u q hq
  pop s r h u q hq := by
    simp only [pop, Function.update_apply] at hq
    split at hq
    · subst u; exact h r q (List.mem_of_mem_tail hq)
    · exact h u q hq
  frameBuffer _ _ h := h
  eraseInflight _ _ h := h

/-- **Queues hold single-recipient copies.** From the initial state, every payload in a
user's undelivered queue is addressed to that user alone. -/
theorem run_queued_addressed (fuel : Nat) (es : List Event) (t : ChatServer P)
    (h : run env fuel initial es = some t) :
    ∀ u, ∀ p ∈ t.undeliveredMessagesMap u, env.payload.getRecipients p = [u] :=
  run_closed (queuedAddressed_closed env) fuel es initial t (fun _ _ h => nomatch h) h

theorem run_queued_addressed_offline :
    ∃ t, run defaultEnv 1 initial [.onOpen ⟨9, 1⟩ ⟨[("id", "9")]⟩, .onMessage ⟨9, 1⟩ .frameText
      "\x7b\"type\":\"text\",\"sender\":9,\"recipients\":[5,6],\"body\":\"hi\"\x7d"] = some t ∧
      t.undeliveredMessagesMap 5 ≠ [] ∧
      ∀ u, ∀ p ∈ t.undeliveredMessagesMap u, defaultEnv.payload.getRecipients p = [u] := by
  obtain ⟨t, ht⟩ : ∃ t, run defaultEnv 1 (initial : ChatServer MessagePayload)
      [.onOpen ⟨9, 1⟩ ⟨[("id", "9")]⟩, .onMessage ⟨9, 1⟩ .frameText
        "\x7b\"type\":\"text\",\"sender\":9,\"recipients\":[5,6],\"body\":\"hi\"\x7d"] =
        some t := ⟨_, rfl⟩
  refine ⟨t, ht, ?_, run_queued_addressed defaultEnv 1 _ t ht⟩
  cases ht
  decide

end ChatServer

end Scatter
