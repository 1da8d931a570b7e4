import Scatter.Backlog

/-! `onConnected` does not take `m_connectionMutex`, so the other workers' handlers interleave
with its pieces: the registry add, `redeliverMessagesTo`'s emptiness check, and each iteration of
its `while (!queue.empty())` loop. A routing's `sendTo` has two pieces: its count check, and the
enqueue or the sends. The transport's other callbacks (the send completions, closes, the
watchdog's two steps) run between any two of them. A `World` is the server with the handlers
that are part-way through; each `Action` runs one atomic piece of one of them, or one whole
handler.

* `run_closed`: a closed property of the server holds along every interleaving.
* `undelivered_while_connected`: a routing whose count check precedes the add and whose
  enqueue follows the emptiness check strands a payload in a connected user's queue.
* `concurrent_send_before_drain`: a routing between the add and the drain sends its payload
  to the new connection before the queued one.
* `drain_never_ends_after_ping_failure`: a failed watchdog ping removes the user's only
  connection while its drain is in progress, and the drain never ends. -/

namespace Scatter

/-- A handler stopped between two of its atomic steps. -/
inductive Pending (P : Type)
  /-- `onConnected` after the add, before `redeliverMessagesTo` looks at the queue. -/
  | connected (u : UserId)
  /-- `redeliverMessagesTo` found the queue non-empty and is in its loop. -/
  | draining (u : UserId)
  /-- `sendTo(recipient, payload)` after its count check. -/
  | routing (recipient : UserId) (payload : P) (offline : Bool)
  deriving Repr

/-- The server and the handlers in progress. -/
structure World (P : Type) where
  server : ChatServer P
  pending : List (Pending P)

/-- One atomic step; `i` names a handler in progress by its position. -/
inductive Action (P : Type)
  /-- `onConnected` up to and including the add. -/
  | connect (connection : Connection) (request : Request)
  | check (i : Nat)
  /-- One test of `while (!queue.empty())`, and the iteration's pop and `send` when it holds. -/
  | drain (i : Nat)
  /-- A routing's `sendTo(recipient, payload)` reads the recipient's count. -/
  | countCheck (recipient : UserId) (payload : P)
  | deliver (i : Nat)
  /-- A handler run without interruption: a send completion, a close, a watchdog step. -/
  | handle (event : Event)

namespace World

variable {P : Type} (env : Env P)

/-- One step; `none` when it names no handler at the right point, when an exception
escapes, or when the drain of a whole handler runs out of `fuel`. -/
def step (fuel : Nat) (w : World P) : Action P → Option (World P)
  | .connect c r => match ChatServer.onConnectedAdd env w.server c r with
    | .ok (s, some u) => some ⟨s, w.pending ++ [.connected u]⟩
    | .ok (s, none) => some ⟨s, w.pending⟩
    | .error _ => none
  | .check i => match w.pending.get? i with
    | some (.connected u) =>
      if !env.enableUndeliveredQueue || !w.server.hasUndeliveredMessages u then
        some ⟨w.server, w.pending.eraseIdx i⟩
      else some ⟨w.server, w.pending.set i (.draining u)⟩
    | _ => none
  | .drain i => match w.pending.get? i with
    | some (.draining u) => match w.server.undeliveredMessagesMap u with
      | [] => some ⟨w.server, w.pending.eraseIdx i⟩
      | payload :: _ => some ⟨ChatServer.send env (w.server.pop u) payload, w.pending⟩
    | _ => none
  | .countCheck r p =>
    some ⟨w.server, w.pending ++ [.routing r p (w.server.connectionStorage.size r == 0)]⟩
  | .deliver i => match w.pending.get? i with
    | some (.routing r p offline) =>
      some ⟨ChatServer.sendToAfterCheck env w.server r p offline, w.pending.eraseIdx i⟩
    | _ => none
  | .handle e => (ChatServer.handle env fuel w.server e).map fun s => ⟨s, w.pending⟩

def run (fuel : Nat) : World P → List (Action P) → Option (World P)
  | w, [] => some w
  | w, a :: as => (step env fuel w a).bind fun w' => run fuel w' as

theorem run_cons (fuel : Nat) (w : World P) (a : Action P) (as : List (Action P)) :
    run env fuel w (a :: as) = (step env fuel w a).bind fun w' => run env fuel w' as := rfl

/-- What one step can do: an add (and, when it registered `u`, `onConnected` pending for
`u`), an emptiness check, the drain's exit or one of its iterations, a count check, a
routing's delivery, or a whole handler. -/
theorem step_cases {fuel : Nat} {w w' : World P} {a : Action P} (h : step env fuel w a = some w') :
    (∃ c r s o, a = .connect c r ∧ ChatServer.onConnectedAdd env w.server c r = .ok (s, o) ∧
      w' = ⟨s, w.pending ++ o.toList.map .connected⟩) ∨
    (∃ i u, a = .check i ∧ w.pending[i]? = some (.connected u) ∧ w'.server = w.server ∧
      (w'.pending = w.pending.eraseIdx i ∨ w'.pending = w.pending.set i (.draining u))) ∨
    (∃ i u, a = .drain i ∧ w.pending[i]? = some (.draining u) ∧
      w.server.undeliveredMessagesMap u = [] ∧ w' = ⟨w.server, w.pending.eraseIdx i⟩) ∨
    (∃ i u p rest, a = .drain i ∧ w.pending[i]? = some (.draining u) ∧
      w.server.undeliveredMessagesMap u = p :: rest ∧
      w' = ⟨ChatServer.send env (w.server.pop u) p, w.pending⟩) ∨
    (∃ r p offline, a = .countCheck r p ∧ w' = ⟨w.server, w.pending ++ [.routing r p offline]⟩) ∨
    (∃ i r p offline, a = .deliver i ∧ w.pending[i]? = some (.routing r p offline) ∧
      w' = ⟨ChatServer.sendToAfterCheck env w.server r p offline, w.pending.eraseIdx i⟩) ∨
    (∃ e s, a = .handle e ∧ ChatServer.handle env fuel w.server e = some s ∧
      w' = ⟨s, w.pending⟩) := by
  cases a with
  | connect c r =>
    simp only [step] at h
    split at h <;> cases h
    · exact .inl ⟨c, r, _, _, rfl, ‹_›, rfl⟩
    · exact .inl ⟨c, r, _, _, rfl, ‹_›, by simp⟩
  | check i =>
    simp only [step] at h
    split at h
    · rename_i u hu
      rw [List.get?_eq_getElem?] at hu
      split at h <;> cases h
      · exact .inr (.inl ⟨i, u, rfl, hu, rfl, .inl rfl⟩)
      · exact .inr (.inl ⟨i, u, rfl, hu, rfl, .inr rfl⟩)
    · cases h
  | drain i =>
    simp only [step] at h
    split at h
    · rename_i u hu
      rw [List.get?_eq_getElem?] at hu
      split at h <;> cases h
      · exact .inr (.inr (.inl ⟨i, u, rfl, hu, ‹_›, rfl⟩))
      · exact .inr (.inr (.inr (.inl ⟨i, u, _, _, rfl, hu, ‹_›, rfl⟩)))
    · cases h
  | countCheck r p => cases h; exact .inr (.inr (.inr (.inr (.inl ⟨r, p, _, rfl, rfl⟩))))
  | deliver i =>
    simp only [step] at h
    split at h
    · rename_i r p offline hu
      rw [List.get?_eq_getElem?] at hu
      cases h
      exact .inr (.inr (.inr (.inr (.inr (.inl ⟨i, r, p, offline, rfl, hu, rfl⟩)))))
    · cases h
  | handle e =>
    obtain ⟨s, hs, rfl⟩ := Option.map_eq_some'.mp h
    exact .inr (.inr (.inr (.inr (.inr (.inr ⟨e, s, rfl, hs, rfl⟩)))))

section Closed

variable {env} {I : ChatServer P → Prop} (hI : ChatServer.Closed env I)
include hI

/-- Each atomic step keeps a closed property of the server. -/
theorem step_closed (fuel : Nat) (w w' : World P) (a : Action P) (hw : I w.server)
    (h : step env fuel w a = some w') : I w'.server := by
  rcases step_cases env h with ⟨c, r, s, o, -, he, rfl⟩ | ⟨-, -, -, -, hs, -⟩ | ⟨-, -, -, -, -, rfl⟩ |
      ⟨-, u, p, -, -, -, -, rfl⟩ | ⟨-, -, -, -, rfl⟩ | ⟨-, r, p, o, -, -, rfl⟩ | ⟨e, s, -, he, rfl⟩
  · exact hI.after_onConnectedAdd _ _ c r o hw he
  · exact hs ▸ hw
  · exact hw
  · exact hI.after_send _ p (hI.pop _ u hw)
  · exact hw
  · exact hI.after_sendToAfterCheck _ r p o hw
  · exact hI.after_handle fuel _ _ e hw he

/-- A closed property of the server holds along every interleaving. -/
theorem run_closed (fuel : Nat) : ∀ (as : List (Action P)) (w w' : World P), I w.server →
    run env fuel w as = some w' → I w'.server
  | [], _, _, hw, h => by cases h; exact hw
  | a :: as, w, w', hw, h => by
    obtain ⟨w1, h1, h2⟩ := Option.bind_eq_some.mp h
    exact run_closed fuel as w1 w' (step_closed hI fuel w w1 a hw h1) h2

end Closed

/-- A routing to user `5` reads `5`'s count before `5` connects, and enqueues after the
drain found the queue empty: `5` is connected, nothing is in progress, and the payload sits
in `5`'s queue. -/
theorem undelivered_while_connected :
    ∃ w, run defaultEnv 1 ⟨ChatServer.initial, []⟩
      [.countCheck 5 ⟨"text", 9, [5], "hi", true, ""⟩, .connect ⟨5, 1⟩ ⟨[("id", "5")]⟩, .check 1,
        .deliver 0] = some w ∧
      w.pending.isEmpty ∧ w.server.inflight = [] ∧ w.server.connectionStorage.exists 5 ∧
      w.server.undeliveredMessagesMap 5 = [⟨"text", 9, [5], "hi", true, ""⟩] :=
  ⟨_, rfl, rfl, rfl, rfl, rfl⟩

/-- User `5` reconnects with `first` queued; a routing of `second` to `5` runs between the add
and the drain: the new connection's first send carries `second`. -/
theorem concurrent_send_before_drain :
    ∃ w, run defaultEnv 2 ⟨ChatServer.initial.push 5 ⟨"text", 8, [5], "first", true, ""⟩, []⟩
      [.connect ⟨5, 1⟩ ⟨[("id", "5")]⟩, .countCheck 5 ⟨"text", 9, [5], "second", true, ""⟩,
        .deliver 1, .check 0, .drain 0, .drain 0] = some w ∧
      w.pending.isEmpty ∧
      w.server.inflight.map (·.callback) =
        [.message 5 ⟨"text", 9, [5], "second", true, ""⟩ 1,
          .message 5 ⟨"text", 8, [5], "first", true, ""⟩ 1] :=
  ⟨_, rfl, rfl, rfl⟩

section Offline

variable {env} {u : UserId} (hu : u ≠ 0)
  (hbot : ∀ p, env.payload.getRecipients p = [u] → env.payload.isForBot p = false)
  (hq : env.enableUndeliveredQueue = true)
include hu hbot hq

/-- While `u` has no entry, a drain of `u`'s non-empty queue stays in progress through any
number of its own iterations: each one puts back the payload it pops. -/
theorem drain_offline_forever (fuel i : Nat) : ∀ n (w : World P),
    w.pending[i]? = some (.draining u) → w.server.connectionStorage.size u = 0 →
    ChatServer.QueuedAddressed env w.server → w.server.undeliveredMessagesMap u ≠ [] →
    ∃ w', run env fuel w (List.replicate n (.drain i)) = some w' ∧ w'.pending = w.pending ∧
      w'.server.undeliveredMessagesMap u ≠ []
  | 0, w, _, _, _, hne => ⟨w, rfl, rfl, hne⟩
  | n + 1, w, hi, h0, haddr, hne => by
    obtain ⟨p, rest, hqueue⟩ := List.exists_cons_of_ne_nil hne
    obtain ⟨h0', haddr', hre⟩ := ChatServer.send_pop_offline env hu hbot hq _ p rest hqueue h0 haddr
    have hstep : step env fuel w (.drain i) =
        some ⟨ChatServer.send env (w.server.pop u) p, w.pending⟩ := by
      simp [step, List.get?_eq_getElem?, hi, hqueue]
    obtain ⟨w', hrun, hp, hne'⟩ := drain_offline_forever fuel i n
      ⟨ChatServer.send env (w.server.pop u) p, w.pending⟩ hi h0' haddr' (by simp [hre])
    exact ⟨w', by rw [List.replicate_succ, run_cons, hstep]; exact hrun, hp, hne'⟩

end Offline

/-- User `5` connects with `hi` queued. After the emptiness check, the watchdog pings the new
connection and the ping's send fails, which removes it: `5` has no connection while its drain
is in progress. From there the drain never ends, in the interleaved model (any number of its
iterations leaves it in progress with the queue non-empty) and as the sequential
`redeliverMessagesTo(5)` (it returns for no fuel). -/
theorem drain_never_ends_after_ping_failure :
    ∃ w, run defaultEnv 1 ⟨ChatServer.initial.push 5 ⟨"text", 9, [5], "hi", true, ""⟩, []⟩
      [.connect ⟨5, 1⟩ ⟨[("id", "5")]⟩, .check 0, .handle (.watchdogPing fun _ => 0),
        .handle (.onSent 0 .other 0)] = some w ∧
      w.pending = [.draining 5] ∧ w.server.connectionStorage.exists 5 = false ∧
      (∀ fuel, ChatServer.redeliverMessagesTo defaultEnv fuel w.server 5 = none) ∧
      ∀ n, ∃ w', run defaultEnv 1 w (List.replicate n (.drain 0)) = some w' ∧
        w'.pending = [.draining 5] ∧ w'.server.undeliveredMessagesMap 5 ≠ [] := by
  obtain ⟨w, hw⟩ : ∃ w, run defaultEnv 1
      ⟨(ChatServer.initial : ChatServer MessagePayload).push 5 ⟨"text", 9, [5], "hi", true, ""⟩, []⟩
      [.connect ⟨5, 1⟩ ⟨[("id", "5")]⟩, .check 0, .handle (.watchdogPing fun _ => 0),
        .handle (.onSent 0 .other 0)] = some w := ⟨_, rfl⟩
  have hpend : w.pending = [.draining 5] := by cases hw; rfl
  have h0 : w.server.connectionStorage.size 5 = 0 := by cases hw; rfl
  have hne : w.server.undeliveredMessagesMap 5 ≠ [] := by cases hw; exact List.cons_ne_nil _ _
  have haddr : ChatServer.QueuedAddressed defaultEnv w.server :=
    run_closed (ChatServer.queuedAddressed_closed defaultEnv) 1 _ _ w
      ((ChatServer.queuedAddressed_closed defaultEnv).push ChatServer.initial 5
        ⟨"text", 9, [5], "hi", true, ""⟩ fun _ _ h => nomatch h) hw
  refine ⟨w, hw, hpend, by cases hw; rfl, fun fuel => ChatServer.redeliverMessagesTo_offline
    defaultEnv (by decide) (defaultEnv_not_bot (by decide)) rfl fuel _ h0 haddr hne, fun n => ?_⟩
  obtain ⟨w', hrun, hp, hne'⟩ := drain_offline_forever (by decide) (defaultEnv_not_bot (by decide))
    rfl 1 0 n w (by rw [hpend]; rfl) h0 haddr hne
  exact ⟨w', hrun, hp.trans hpend, hne'⟩

end World

end Scatter
