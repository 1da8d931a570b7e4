import Scatter.HandlersSpec

/-! The watchdog's ping round: the ping's completion marks the connection as awaiting a
pong, `onPong` clears the mark, and `disconnectWithoutPong` closes what is still marked.
Both writes go to one flag, so whichever of the two runs last decides.

* `keeps_key_of_pong_after_ping_completion`: a pong processed after the ping's completion
  saves the connection.
* `drops_key_of_ping_completion_after_pong`: a ping completion processed after the pong
  undoes it, and the connection is closed. -/

namespace Scatter

namespace ConnectionStorage

variable (st : ConnectionStorage)

theorem mem_setPongWait {c : Connection} {b : Bool} {sl : Slot} :
    sl ∈ (st.setPongWait c b).slots ↔ ∃ x ∈ st.slots,
      (if x.key = (c.id, c.uniqueId) then { x with pongWait := b } else x) = sl := by
  simp [setPongWait, modify]

theorem mem_disconnectWithoutPong {sl : Slot} :
    sl ∈ st.disconnectWithoutPong.1.slots ↔ sl ∈ st.slots ∧ sl.pongWait = false := by
  simp [disconnectWithoutPong, keep]

/-- A connection marked as awaiting a pong has no entry after `disconnectWithoutPong`. -/
theorem key_not_mem_markPongWait_disconnect (c : Connection) (sl : Slot)
    (h : sl ∈ (st.markPongWait c).disconnectWithoutPong.1.slots) : sl.key ≠ (c.id, c.uniqueId) := by
  rw [mem_disconnectWithoutPong, markPongWait, mem_setPongWait] at h
  obtain ⟨⟨x, -, rfl⟩, hw⟩ := h
  split at hw <;> simp_all

/-- An entry whose pong was received survives `disconnectWithoutPong`. -/
theorem mem_markPongReceived_disconnect (c : Connection) (sl : Slot) (hsl : sl ∈ st.slots)
    (hk : sl.key = (c.id, c.uniqueId)) :
    { sl with pongWait := false } ∈ (st.markPongReceived c).disconnectWithoutPong.1.slots := by
  rw [mem_disconnectWithoutPong, markPongReceived, mem_setPongWait]
  exact ⟨⟨sl, hsl, by simp [hk]⟩, rfl⟩

end ConnectionStorage

namespace ChatServer

variable {P : Type} (env : Env P)

theorem complete_ping_ok (s : ChatServer P) (snd : Send P) (c : Connection) (n : Nat)
    (h : snd.callback = .ping c) :
    complete env s snd .none n = s.setStorage (s.connectionStorage.markPongWait c) := by
  simp [complete, h]

/-- **Completion, then pong.** The connection keeps every entry of its key. -/
theorem keeps_key_of_pong_after_ping_completion (s : ChatServer P) (snd : Send P) (c : Connection)
    (n : Nat) (h : snd.callback = .ping c) (sl : Slot) (hsl : sl ∈ s.connectionStorage.slots)
    (hk : sl.key = (c.id, c.uniqueId)) :
    { sl with pongWait := false } ∈
      (watchdogDisconnect (onPong (complete env s snd .none n) c)).connectionStorage.slots := by
  rw [watchdogDisconnect_eq, onPong, complete_ping_ok env s snd c n h]
  refine ConnectionStorage.mem_markPongReceived_disconnect _ c { sl with pongWait := true } ?_ hk
  rw [setStorage_connectionStorage, ConnectionStorage.markPongWait, ConnectionStorage.mem_setPongWait]
  exact ⟨sl, hsl, by simp [hk]⟩

/-- **Pong, then completion.** The completion marks the connection again, and the
disconnect removes every entry of its key. -/
theorem drops_key_of_ping_completion_after_pong (s : ChatServer P) (snd : Send P) (c : Connection)
    (n : Nat) (h : snd.callback = .ping c) (sl : Slot)
    (hsl : sl ∈ (watchdogDisconnect (complete env (onPong s c) snd .none n)).connectionStorage.slots) :
    sl.key ≠ (c.id, c.uniqueId) := by
  rw [watchdogDisconnect_eq, complete_ping_ok env _ snd c n h] at hsl
  exact ConnectionStorage.key_not_mem_markPongWait_disconnect _ c sl hsl

/-- **The later write decides.** For one ping to `c`, the connection survives the disconnect
when its pong is processed after the ping's completion, and loses every entry of its key
when the pong is processed first. -/
theorem pong_mark_decided_by_later_write (s : ChatServer P) (snd : Send P) (c : Connection)
    (n : Nat) (h : snd.callback = .ping c) :
    (∀ sl ∈ s.connectionStorage.slots, sl.key = (c.id, c.uniqueId) → { sl with pongWait := false } ∈
      (watchdogDisconnect (onPong (complete env s snd .none n) c)).connectionStorage.slots) ∧
    (∀ sl ∈ (watchdogDisconnect (complete env (onPong s c) snd .none n)).connectionStorage.slots,
      sl.key ≠ (c.id, c.uniqueId)) :=
  ⟨fun sl hsl hk => keeps_key_of_pong_after_ping_completion env s snd c n h sl hsl hk,
    fun sl hsl => drops_key_of_ping_completion_after_pong env s snd c n h sl hsl⟩

theorem pong_mark_decided_by_later_write_registered :
    (⟨⟨7, 1⟩, ".", .ping ⟨7, 1⟩⟩ : Send MessagePayload).callback = .ping ⟨7, 1⟩ ∧
    ((∀ sl ∈ (ConnectionStorage.empty.add 7 ⟨7, 1⟩).slots, sl.key = (7, 1) →
      { sl with pongWait := false } ∈ (watchdogDisconnect (onPong (complete defaultEnv
        ((initial : ChatServer MessagePayload).setStorage (ConnectionStorage.empty.add 7 ⟨7, 1⟩))
        ⟨⟨7, 1⟩, ".", .ping ⟨7, 1⟩⟩ .none 1) ⟨7, 1⟩)).connectionStorage.slots) ∧
    (∀ sl ∈ (watchdogDisconnect (complete defaultEnv (onPong
        ((initial : ChatServer MessagePayload).setStorage (ConnectionStorage.empty.add 7 ⟨7, 1⟩))
        ⟨7, 1⟩) ⟨⟨7, 1⟩, ".", .ping ⟨7, 1⟩⟩ .none 1)).connectionStorage.slots, sl.key ≠ (7, 1))) :=
  ⟨rfl, pong_mark_decided_by_later_write defaultEnv
    ((initial : ChatServer MessagePayload).setStorage (ConnectionStorage.empty.add 7 ⟨7, 1⟩))
    ⟨⟨7, 1⟩, ".", .ping ⟨7, 1⟩⟩ ⟨7, 1⟩ 1 rfl⟩

/-- One watchdog tick against a client that answers at once: user `7` opens, the tick
pings it, its PONG is processed, and only then does the ping's send complete. The
disconnect closes and removes the connection. -/
theorem pong_overwritten_by_ping_completion :
    ∃ t, run defaultEnv 1 initial
      [.onOpen ⟨7, 1⟩ ⟨[("id", "7")]⟩, .watchdogPing (fun _ => 0), .onMessage ⟨7, 1⟩ .pong "",
        .onSent 0 .none 1, .watchdogDisconnect] = some t ∧
      t.connectionStorage.exists 7 = false ∧ t.log.getLast? = some (.disconnect ⟨7, 1⟩) :=
  ⟨_, rfl, rfl, rfl⟩

end ChatServer

end Scatter
