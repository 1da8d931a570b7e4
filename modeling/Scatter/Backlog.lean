import Scatter.Invariant

/-! The sequential `onConnected`. From a reachable state, an `onOpen` that registers `u` drains
`u`'s queue before any other handler runs: each queued payload is sent, in queue order, to every
entry of `u`, and the sends to the new connection are exactly the queue. This is the order that
the interleaved model of `Concurrent` loses (`concurrent_send_before_drain`).

* `redeliverLoop_sends`: the drain's sends while `u` has entries.
* `redeliverMessagesTo_offline`: while `u` has no entry, the drain never returns.
* `onConnected_sends_backlog`: the registry, sends and queue after `onConnected`.
* `run_onOpen_sends_backlog`: the same from every reachable state, with the sends to the new
  connection picked out. -/

namespace Scatter

namespace ConnectionStorage

/-- Every entry's connection carries the entry's key, as `add` stores it. -/
def Consistent (st : ConnectionStorage) : Prop :=
  ∀ sl ∈ st.slots, ∀ c, sl.connection = some c → c.id = sl.user ∧ c.uniqueId = sl.cid

variable {st : ConnectionStorage}

theorem Consistent.keep (h : st.Consistent) (p : Slot → Bool) : (st.keep p).Consistent :=
  fun sl hsl => h sl (List.mem_of_mem_filter hsl)

theorem Consistent.add (h : st.Consistent) (id : UserId) (c : Connection) :
    (st.add id c).Consistent := by
  intro sl hsl
  rcases List.mem_append.mp hsl with hsl | hsl
  · exact h.keep _ sl hsl
  · rw [List.mem_singleton.mp hsl]
    rintro _ ⟨⟩
    exact ⟨rfl, rfl⟩

theorem Consistent.setPongWait (h : st.Consistent) (c : Connection) (b : Bool) :
    (st.setPongWait c b).Consistent := by
  intro sl hsl
  obtain ⟨sl, hmem, rfl⟩ := List.mem_map.mp hsl
  split <;> exact h sl hmem

/-- The entries of `id` after `add id c`: the others, then the new one. -/
theorem slotsOf_add (id : UserId) (c : Connection) :
    (st.add id c).slotsOf id =
      (st.remove id c.uniqueId).slotsOf id ++ [⟨id, c.uniqueId, some { c with id := id }, false⟩] := by
  simp [slotsOf, add]

theorem size_add_ne_zero (id : UserId) (c : Connection) : (st.add id c).size id ≠ 0 := by
  simp [size, slotsOf_add]

end ConnectionStorage

namespace ChatServer

variable {P : Type} (env : Env P)

/-- The handlers store connections only through `add`. -/
theorem consistent_closed : Closed env fun s : ChatServer P => s.connectionStorage.Consistent where
  emit _ _ h := h
  issue _ _ h := h
  updateStat _ _ _ h := h
  remove _ _ _ h := h.keep _
  add _ _ _ h := h.add _ _
  setPongWait _ _ _ h := h.setPongWait _ _
  disconnect _ h := h.keep _
  push _ _ _ h := h
  pop _ _ h := h
  frameBuffer _ _ h := h
  eraseInflight _ _ h := h

/-- `send` of a payload not for a bot, over a registry without null entries. -/
theorem sentTo_send (s : ChatServer P) (p : P) (hlive : s.connectionStorage.Live)
    (hbot : env.payload.isForBot p = false) :
    SentTo env (s.emit (.listeners p)) (send env s p) p
      ((env.payload.getRecipients p).filter (· != 0)) := by
  simp only [send, hbot, Bool.false_eq_true, ↓reduceIte, foldl_skip_zero]
  exact sentTo_foldl env p _ _ hlive

theorem queuedFor_online (st : ConnectionStorage) (p : P) (u v : UserId) (h : st.size u ≠ 0) :
    queuedFor env st p [u] v = [] := by
  simp [queuedFor, h]

/-- With the queue enabled and any fuel, `redeliverMessagesTo` is its loop. -/
theorem redeliverMessagesTo_of_enabled (fuel : Nat) (s : ChatServer P) (u : UserId)
    (hq : env.enableUndeliveredQueue = true) (hf : 0 < fuel) :
    redeliverMessagesTo env fuel s u = redeliverLoop env fuel s u 0 := by
  obtain ⟨fuel, rfl⟩ := Nat.exists_eq_add_of_lt hf
  unfold redeliverMessagesTo
  cases h : s.undeliveredMessagesMap u <;> simp [hq, hasUndeliveredMessages, redeliverLoop, h]

section Drain

variable {u : UserId} (hu : u ≠ 0)
  (hbot : ∀ p, env.payload.getRecipients p = [u] → env.payload.isForBot p = false)
include hu hbot

/-- **The drain's sends.** While `u` has entries, none of them null, each queued payload
addressed to `u` alone is sent to every entry of `u`, in queue order, and none is queued
again. -/
theorem redeliverLoop_sends : ∀ fuel (s : ChatServer P) cnt,
    s.connectionStorage.Live → s.connectionStorage.size u ≠ 0 →
    (∀ p ∈ s.undeliveredMessagesMap u, env.payload.getRecipients p = [u]) →
    (s.undeliveredMessagesMap u).length < fuel →
    ∃ t, redeliverLoop env fuel s u cnt = some (t, cnt + (s.undeliveredMessagesMap u).length) ∧
      t.connectionStorage = s.connectionStorage ∧
      t.inflight = s.inflight ++
        (s.undeliveredMessagesMap u).flatMap (fun p => sendsTo env s.connectionStorage p [u]) ∧
      t.undeliveredMessagesMap u = [] := by
  intro fuel
  induction fuel with
  | zero => intro _ _ _ _ _ h; omega
  | succ fuel ih =>
    intro s cnt hlive hsize haddr hfuel
    cases hq : s.undeliveredMessagesMap u with
    | nil => exact ⟨s, by simp [redeliverLoop, hq], rfl, by simp [hq], hq⟩
    | cons p rest =>
      have hp : env.payload.getRecipients p = [u] := haddr p (by simp [hq])
      have h1 := sentTo_send env (s.pop u) p hlive (hbot p hp)
      rw [hp, show [u].filter (· != 0) = [u] by simp [hu]] at h1
      have hst : (send env (s.pop u) p).connectionStorage = s.connectionStorage := h1.connectionStorage
      have hrest : (send env (s.pop u) p).undeliveredMessagesMap u = rest := by
        rw [h1.undelivered]; simp [queuedFor_online env _ _ _ _ hsize, hq]
      obtain ⟨t, hl, hts, hti, htu⟩ := ih (send env (s.pop u) p) (cnt + 1) (hst ▸ hlive)
        (hst ▸ hsize) (hrest ▸ fun q hq' => haddr q (by simp [hq, hq']))
        (by rw [hrest]; simp [hq] at hfuel; omega)
      refine ⟨t, ?_, hts.trans hst, ?_, htu⟩
      · simp only [redeliverLoop, hq]; rw [hl, hrest]; simp [Nat.add_assoc, Nat.add_comm 1]
      · rw [hti, h1.inflight, hrest, hst]; simp [pop]

section Offline

variable (hq : env.enableUndeliveredQueue = true)
include hq

/-- One iteration of the drain while `u` has no entry: the payload it pops is queued again
at the tail, and `u` still has no entry. -/
theorem send_pop_offline (s : ChatServer P) (p : P) (rest : List P)
    (hqueue : s.undeliveredMessagesMap u = p :: rest) (h0 : s.connectionStorage.size u = 0)
    (haddr : QueuedAddressed env s) :
    (send env (s.pop u) p).connectionStorage.size u = 0 ∧ QueuedAddressed env (send env (s.pop u) p) ∧
      (send env (s.pop u) p).undeliveredMessagesMap u = rest ++ [env.payload.setRecipient p u] := by
  have hp : env.payload.getRecipients p = [u] := haddr u p (by simp [hqueue])
  obtain ⟨h0', hre⟩ := send_offline_requeues env u hu hq (s.pop u) p hp (hbot p hp) (by simpa using h0)
  refine ⟨h0', (queuedAddressed_closed env).after_send _ p ((queuedAddressed_closed env).pop s u haddr),
    by simp [hre, hqueue]⟩

/-- While `u` has no entry, the drain of a non-empty queue returns for no fuel: every
iteration refills the queue it takes from. -/
theorem redeliverLoop_offline : ∀ fuel (s : ChatServer P) cnt, s.connectionStorage.size u = 0 →
    QueuedAddressed env s → s.undeliveredMessagesMap u ≠ [] → redeliverLoop env fuel s u cnt = none
  | 0, _, _, _, _, _ => rfl
  | fuel + 1, s, cnt, h0, haddr, hne => by
    obtain ⟨p, rest, hqueue⟩ := List.exists_cons_of_ne_nil hne
    obtain ⟨h0', haddr', hre⟩ := send_pop_offline env hu hbot hq s p rest hqueue h0 haddr
    simp only [redeliverLoop, hqueue]
    exact redeliverLoop_offline fuel _ _ h0' haddr' (by simp [hre])

/-- **A drain for an offline user never returns.** With the queue enabled, when `u` has no
entry and a non-empty queue of payloads addressed to `u` alone, `redeliverMessagesTo(u)`
returns for no fuel. -/
theorem redeliverMessagesTo_offline (fuel : Nat) (s : ChatServer P) (h0 : s.connectionStorage.size u = 0)
    (haddr : QueuedAddressed env s) (hne : s.undeliveredMessagesMap u ≠ []) :
    redeliverMessagesTo env fuel s u = none := by
  have hhas : s.hasUndeliveredMessages u = true := by
    simpa [hasUndeliveredMessages, List.isEmpty_iff] using hne
  simp only [redeliverMessagesTo, hq, hhas, Bool.not_true, Bool.false_eq_true, ↓reduceIte]
  exact redeliverLoop_offline env hu hbot hq fuel s 0 h0 haddr hne

end Offline

/-- **`onConnected` drains first.** An `onConnected` that registers `u`, with the queue
enabled, enough fuel, and the queue addressed to `u` alone: the registry gains the connection,
the sends issued are each queued payload to every entry of `u` in queue order, and the queue
is left empty. -/
theorem onConnected_sends_backlog (fuel : Nat) (s : ChatServer P) (c : Connection) (r : Request)
    (hq : env.enableUndeliveredQueue = true) (hlive : s.connectionStorage.Live)
    (haddr : ∀ p ∈ s.undeliveredMessagesMap u, env.payload.getRecipients p = [u])
    (hreg : ∃ s', onConnectedAdd env s c r = .ok (s', some u))
    (hfuel : (s.undeliveredMessagesMap u).length < fuel) :
    ∃ t, onConnected env fuel s c r = some (.ok t) ∧
      t.connectionStorage = s.connectionStorage.add u c ∧
      t.inflight = s.inflight ++ (s.undeliveredMessagesMap u).flatMap
        (fun p => sendsTo env (s.connectionStorage.add u c) p [u]) ∧
      t.undeliveredMessagesMap u = [] := by
  obtain ⟨s', hs'⟩ := hreg
  have he : onConnectedAdd env s c r = .ok (((closePriorConnections env s u).setStorage
      ((closePriorConnections env s u).connectionStorage.add u c)).updateStat
      u Statistics.addConnection, some u) := by
    rcases onConnectedAdd_cases env s c r with ⟨_, _, h⟩ | ⟨id, h⟩ | ⟨_, h⟩ <;> rw [h] at hs' ⊢ <;>
      cases hs'
    rfl
  obtain ⟨t, hl, hts, hti, htu⟩ := redeliverLoop_sends env hu hbot fuel
    (((closePriorConnections env s u).setStorage
      ((closePriorConnections env s u).connectionStorage.add u c)).updateStat u
      Statistics.addConnection) 0
    (by simpa using hlive.add u c) (by simpa using ConnectionStorage.size_add_ne_zero u c)
    (by simpa using haddr) (by simpa using hfuel)
  refine ⟨t, ?_, by simpa using hts, by simpa using hti, htu⟩
  rw [onConnected, he]
  simp only [redeliverMessagesTo_of_enabled env fuel _ u hq (by omega), hl, Option.map_some']

end Drain

/-- Over a consistent registry, of the sends of `p` to the entries of `u` after `add u c`,
exactly one goes to the new connection. -/
theorem sendsTo_add_new (st : ConnectionStorage) (hcons : st.Consistent) (u : UserId)
    (c : Connection) (p : P) :
    (sendsTo env (st.add u c) p [u]).filter (·.connection == { c with id := u }) =
      [⟨{ c with id := u }, env.payload.toJson p, .message u p c.uniqueId⟩] := by
  have hold : ∀ snd ∈ slotSends u p (env.payload.toJson p) ((st.remove u c.uniqueId).slotsOf u),
      snd.connection ≠ { c with id := u } := by
    intro snd hsnd heq
    obtain ⟨sl, hsl, hsnd⟩ := List.mem_filterMap.mp hsnd
    obtain ⟨c', hc', rfl⟩ := Option.map_eq_some'.mp hsnd
    obtain ⟨hmem, huser⟩ := ConnectionStorage.mem_slotsOf.mp hsl
    obtain ⟨hmem, hkey⟩ := ConnectionStorage.mem_remove.mp hmem
    have hcid := (hcons sl hmem c' hc').2
    subst heq
    exact hkey (Prod.ext huser hcid.symm)
  simp only [sendsTo, List.flatMap_singleton, slotSends, ConnectionStorage.slotsOf_add,
    List.filterMap_append, List.filter_append]
  rw [List.filter_eq_nil_iff.mpr fun snd h => by simpa using hold snd h]
  simp

/-- **Backlog first, sequentially.** From every reachable state, an `onOpen` that registers
`u` (not `0`), with the queue enabled and fuel for the drain, issues to the new connection
exactly the payloads of `u`'s queue, in queue order, and leaves the queue empty. -/
theorem run_onOpen_sends_backlog (fuel : Nat) (es : List Event) (s : ChatServer P) (c : Connection)
    (r : Request) (u : UserId) (hrun : run env fuel initial es = some s) (hu : u ≠ 0)
    (hbot : ∀ p, env.payload.getRecipients p = [u] → env.payload.isForBot p = false)
    (hq : env.enableUndeliveredQueue = true) (hreg : ∃ s', onConnectedAdd env s c r = .ok (s', some u))
    (hfuel : (s.undeliveredMessagesMap u).length < fuel) :
    ∃ t new, run env fuel initial (es ++ [.onOpen c r]) = some t ∧ t.inflight = s.inflight ++ new ∧
      new.filter (·.connection == { c with id := u }) = (s.undeliveredMessagesMap u).map
        (fun p => ⟨{ c with id := u }, env.payload.toJson p, .message u p c.uniqueId⟩) ∧
      t.undeliveredMessagesMap u = [] := by
  have hcons := run_closed (consistent_closed env) fuel es initial s (fun _ h => nomatch h) hrun
  have hlive := run_closed (live_closed env) fuel es initial s (fun _ h => nomatch h) hrun
  have haddr := run_closed (queuedAddressed_closed env) fuel es initial s (fun _ _ h => nomatch h) hrun
  obtain ⟨t, ho, -, hti, htu⟩ := onConnected_sends_backlog env hu hbot fuel s c r hq hlive (haddr u)
    hreg hfuel
  refine ⟨t, _, ?_, hti, ?_, htu⟩
  · rw [run_append, hrun]
    simp [run, handle, ho]
  · rw [List.filter_flatMap, List.flatMap_congr fun p _ => sendsTo_add_new env _ hcons u c p]
    exact (List.map_eq_flatMap _ _).symm

/-- User `9` sends `hi` to `5`, who is offline; `5` then connects: the new connection's sends
are the queued `hi`, and `5`'s queue is empty. -/
theorem run_onOpen_sends_backlog_reconnect :
    ∃ s, run defaultEnv 2 initial [.onOpen ⟨9, 1⟩ ⟨[("id", "9")]⟩, .onMessage ⟨9, 1⟩ .frameText
        "\x7b\"type\":\"text\",\"sender\":9,\"recipients\":[5],\"body\":\"hi\"\x7d"] = some s ∧
      s.undeliveredMessagesMap 5 = [⟨"text", 9, [5], "hi", true, ""⟩] ∧
      ∃ t new, run defaultEnv 2 initial ([.onOpen ⟨9, 1⟩ ⟨[("id", "9")]⟩, .onMessage ⟨9, 1⟩ .frameText
          "\x7b\"type\":\"text\",\"sender\":9,\"recipients\":[5],\"body\":\"hi\"\x7d"] ++
          [.onOpen ⟨5, 1⟩ ⟨[("id", "5")]⟩]) = some t ∧ t.inflight = s.inflight ++ new ∧
        new.filter (·.connection == ⟨5, 1⟩) =
          [⟨⟨5, 1⟩, MessagePayload.toJson ⟨"text", 9, [5], "hi", true, ""⟩,
            .message 5 ⟨"text", 9, [5], "hi", true, ""⟩ 1⟩] ∧
        t.undeliveredMessagesMap 5 = [] := by
  obtain ⟨s, hs⟩ : ∃ s, run defaultEnv 2 (initial : ChatServer MessagePayload)
      [.onOpen ⟨9, 1⟩ ⟨[("id", "9")]⟩, .onMessage ⟨9, 1⟩ .frameText
        "\x7b\"type\":\"text\",\"sender\":9,\"recipients\":[5],\"body\":\"hi\"\x7d"] = some s :=
    ⟨_, rfl⟩
  have h5 : s.undeliveredMessagesMap 5 = [⟨"text", 9, [5], "hi", true, ""⟩] := by cases hs; rfl
  have h := run_onOpen_sends_backlog defaultEnv 2 _ s ⟨5, 1⟩ ⟨[("id", "5")]⟩ 5 hs (by decide)
    (defaultEnv_not_bot (by decide)) rfl ⟨_, rfl⟩
    (by rw [h5]; decide)
  rw [h5] at h
  exact ⟨s, hs, h5, h⟩

end ChatServer

end Scatter
