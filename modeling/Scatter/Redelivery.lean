import Scatter.HandlersSpec

/-! `redeliverMessagesTo(recipientId)`: the drain of a user's undelivered queue. The loop
pops the head and `send`s it until the queue is empty; `send` may push onto that very
queue, so the loop ends only when it does not.

* `send_routed`: every `send` runs the listeners once, on its payload.
* `send_offline_requeues`: for a user without entries, `send` puts the payload it drains back
  on the queue. -/

namespace Scatter

namespace ChatServer

variable {P : Type} (env : Env P)

/-- The payloads `send` was called on, in order: each call runs the listeners once. -/
def routed (s : ChatServer P) : List P :=
  s.log.filterMap fun
    | .listeners p => some p
    | _ => none

@[simp] theorem routed_emit_listeners (s : ChatServer P) (p : P) :
    (s.emit (.listeners p)).routed = s.routed ++ [p] := by
  simp [routed]

@[simp] theorem pop_connectionStorage (s : ChatServer P) (u : UserId) :
    (s.pop u).connectionStorage = s.connectionStorage := rfl

@[simp] theorem pop_routed (s : ChatServer P) (u : UserId) : (s.pop u).routed = s.routed := rfl

@[simp] theorem routed_closePriorConnections (s : ChatServer P) (id : UserId) :
    (closePriorConnections env s id).routed = s.routed := by
  rw [closePriorConnections_eq]
  split <;> simp [routed, List.filterMap_map, Function.comp_def]

@[simp] theorem pop_undelivered_self (s : ChatServer P) (u : UserId) :
    (s.pop u).undeliveredMessagesMap u = (s.undeliveredMessagesMap u).tail := by
  simp [pop]

theorem sendTo_routed (s : ChatServer P) (r : UserId) (p : P) :
    (sendTo env s r p).routed = s.routed := by
  simp [routed, sendTo_log, List.filterMap_append, List.filterMap_map]

/-- Every `send` runs the listeners once, on its payload. -/
theorem send_routed (s : ChatServer P) (p : P) : (send env s p).routed = s.routed ++ [p] := by
  unfold send
  split
  · exact routed_emit_listeners s p
  · rw [foldl_sendTo_preserves env routed p (fun s r => sendTo_routed env s r p), routed_emit_listeners]

/-- A property that the listeners' call and every `sendTo` keep, `send` keeps. -/
theorem send_preserves (I : ChatServer P → Prop) (p : P)
    (hemit : ∀ s, I s → I (s.emit (.listeners p))) (hsendTo : ∀ s r, I s → I (sendTo env s r p)) :
    ∀ s, I s → I (send env s p) := by
  have hfold : ∀ (l : List UserId) s, I s →
      I (l.foldl (fun s uid => if uid == 0 then s else sendTo env s uid p) s) := by
    intro l
    induction l with
    | nil => exact fun _ h => h
    | cons r l ih => intro s hs; exact ih _ (by dsimp only; split; exacts [hs, hsendTo s r hs])
  intro s hs
  unfold send
  split
  · exact hemit s hs
  · exact hfold _ _ (hemit s hs)

/-- **A drained payload returns to its queue while its user has no entry.** `send` of a
payload for `u` alone, when `u` has no entry, pushes a copy back onto `u`'s queue and leaves
`u` without an entry: a drain of `u`'s queue that runs in that state refills what it takes. -/
theorem send_offline_requeues (u : UserId) (hu : u ≠ 0) (hq : env.enableUndeliveredQueue = true)
    (s : ChatServer P) (p : P) (hp : env.payload.getRecipients p = [u])
    (hbot : env.payload.isForBot p = false) (h0 : s.connectionStorage.size u = 0) :
    (send env s p).connectionStorage.size u = 0 ∧
      (send env s p).undeliveredMessagesMap u =
        s.undeliveredMessagesMap u ++ [env.payload.setRecipient p u] := by
  have hsend : send env s p = sendTo env (s.emit (.listeners p)) u p := by
    simp [send, hbot, hp, hu]
  have h0' : (s.emit (.listeners p)).connectionStorage.size u = 0 := by simpa using h0
  rw [hsend]
  refine ⟨?_, ?_⟩
  · rw [sendTo_connectionStorage, slotsOf_eq_nil h0']; simpa [removeNull] using h0
  · rw [sendTo_undelivered]; simp [hq, h0]

end ChatServer

end Scatter
