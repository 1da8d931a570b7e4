import Scatter.Sessions

/-! The life of an undelivered queue. Only `handleUndeliverable` adds to a queue, only the
drain of `redeliverMessagesTo` takes from one, and `onConnected` drains the queue of the user
it has just registered and no other. A property that every update but the drain keeps, and
that the drain of every user but `u` keeps too, therefore holds along every run in which `u`
does not connect.

* `Kept.run_unless_registers`: that statement, over the registry operations of the run.
* `run_queue_grows`: along such a run `u`'s queue only grows. A payload queued again after a
  failed send to a connected user waits for that user's next connect. -/

namespace Scatter

namespace ChatServer

variable {P : Type} {env : Env P} {I : ChatServer P → Prop}

theorem Kept.after_redeliverLoop_of_pop (hI : Kept env I) {v : UserId}
    (hpop : ∀ s, I s → I (s.pop v)) :
    ∀ fuel (s : ChatServer P) cnt r, I s → redeliverLoop env fuel s v cnt = some r → I r.1 := by
  intro fuel
  induction fuel with
  | zero => intro _ _ _ _ h; cases h
  | succ fuel ih =>
    intro s cnt r hs h
    simp only [redeliverLoop] at h
    split at h
    · cases h; exact hs
    · exact ih _ _ _ (hI.after_send _ _ (hpop s hs)) h

section Unless

variable {u : UserId} (hI : Kept env I) (hpop : ∀ s v, v ≠ u → I s → I (s.pop v))
  (herase : ∀ s i, I s → I { s with inflight := s.inflight.eraseIdx i })
include hI hpop herase

/-- An event that does not register `u` drains no queue but that of another user. -/
theorem Kept.after_handle_unless_registers (fuel : Nat) (s t : ChatServer P) (e : Event)
    (hu : ∀ c, RegOp.add u c ∉ regOps env s e) (hs : I s) (h : handle env fuel s e = some t) :
    I t := by
  cases e with
  | onOpen c r =>
    obtain ⟨x, hx, rfl⟩ := Option.map_eq_some'.mp h
    cases x with
    | error => exact hs
    | ok t' =>
      unfold onConnected at hx
      rcases onConnectedAdd_cases env s c r with ⟨st, reason, he⟩ | ⟨id, he⟩ | ⟨_, he⟩ <;>
        rw [he] at hx
      · cases hx; exact hI.emit s _ hs
      · have hid : id ≠ u := by rintro rfl; exact hu c (by simp [regOps, he])
        obtain ⟨r', hr', ht'⟩ := Option.map_eq_some'.mp hx
        cases ht'
        have hs' := hI.after_register s id c hs
        rcases redeliverMessagesTo_cases env fuel _ id _ hr' with rfl | hl
        · exact hs'
        · exact hI.after_redeliverLoop_of_pop (hpop · id hid) fuel _ 0 _ hs' hl
      · cases hx
  | onClose c => cases h; exact hI.after_onDisconnected s c hs
  | onMessage c op data =>
    cases h
    split
    · exact hI.setPongWait s _ _ hs
    · exact hI.after_onMessage s c op data hs
  | onSent i err n =>
    obtain ⟨snd, -, rfl⟩ := Option.map_eq_some'.mp h
    exact hI.after_complete _ snd err n (herase s i hs)
  | watchdogPing inactive => cases h; exact hI.after_watchdogPing s inactive hs
  | watchdogDisconnect => cases h; exact hI.after_watchdogDisconnect s hs

/-- A property kept by every update but the drain, and by the drain of every user but `u`,
holds along every run in which `u` does not connect. -/
theorem Kept.run_unless_registers (fuel : Nat) :
    ∀ (es : List Event) (s t : ChatServer P), (∀ c, RegOp.add u c ∉ regTrace env fuel s es) →
      I s → run env fuel s es = some t → I t
  | [], _, _, _, hs, h => by cases h; exact hs
  | e :: es, s, t, hu, hs, h => by
    obtain ⟨s', h1, h2⟩ := Option.bind_eq_some.mp h
    rw [regTrace_cons env fuel es h1] at hu
    exact Kept.run_unless_registers fuel es s' t (fun c hc => hu c (List.mem_append_right _ hc))
      (hI.after_handle_unless_registers hpop herase fuel s s' e
        (fun c hc => hu c (List.mem_append_left _ hc)) hs h1) h2

end Unless

variable (env)

/-- Only `push` writes a queue, and it appends: every update but the drain keeps a queue's
old content as a prefix. -/
theorem queue_prefix_kept (u : UserId) (q : List P) :
    Kept env fun s : ChatServer P => q <+: s.undeliveredMessagesMap u where
  emit _ _ h := h
  issue _ _ h := h
  updateStat _ _ _ h := h
  remove _ _ _ h := h
  add _ _ _ h := h
  setPongWait _ _ _ h := h
  disconnect _ h := h
  push s r p h := by
    simp only [push, Function.update_apply]
    split
    · subst r; exact h.trans (List.prefix_append _ _)
    · exact h
  frameBuffer _ _ h := h

/-- **A queue is emptied only by its owner's connect.** Along every run in which `u` is not
registered by an `onConnected`, nothing is taken from `u`'s undelivered queue: it only grows,
whether or not `u` is connected meanwhile. -/
theorem run_queue_grows (fuel : Nat) (s t : ChatServer P) (es : List Event)
    (h : run env fuel s es = some t) (u : UserId)
    (hu : ∀ c, RegOp.add u c ∉ regTrace env fuel s es) :
    s.undeliveredMessagesMap u <+: t.undeliveredMessagesMap u :=
  (queue_prefix_kept env u _).run_unless_registers
    (fun s v hv h => by simpa only [pop, Function.update_noteq (Ne.symm hv)] using h)
    (fun _ _ h => h) fuel es s t hu (List.prefix_refl _) h

/-- `5` is connected when the send of `9`'s message to it fails: the payload is queued
again while `5` keeps its entry, and a watchdog tick and another message later it is still
there, undelivered. -/
theorem run_queue_grows_failed_send :
    ∃ s t, run defaultEnv 1 (initial : ChatServer MessagePayload)
        [.onOpen ⟨5, 1⟩ ⟨[("id", "5")]⟩, .onOpen ⟨9, 1⟩ ⟨[("id", "9")]⟩,
          .onMessage ⟨9, 1⟩ .frameText
            "\x7b\"type\":\"text\",\"sender\":9,\"recipients\":[5],\"body\":\"hi\"\x7d",
          .onSent 0 .other 0] = some s ∧
      s.connectionStorage.exists 5 = true ∧
      s.undeliveredMessagesMap 5 = [⟨"text", 9, [5], "hi", true, ""⟩] ∧
      run defaultEnv 1 s [.watchdogPing fun _ => 0, .onMessage ⟨9, 1⟩ .frameText
          "\x7b\"type\":\"text\",\"sender\":9,\"recipients\":[9],\"body\":\"hey\"\x7d"] = some t ∧
      [⟨"text", 9, [5], "hi", true, ""⟩] <+: t.undeliveredMessagesMap 5 := by
  obtain ⟨s, hs⟩ : ∃ s, run defaultEnv 1 (initial : ChatServer MessagePayload)
      [.onOpen ⟨5, 1⟩ ⟨[("id", "5")]⟩, .onOpen ⟨9, 1⟩ ⟨[("id", "9")]⟩,
        .onMessage ⟨9, 1⟩ .frameText
          "\x7b\"type\":\"text\",\"sender\":9,\"recipients\":[5],\"body\":\"hi\"\x7d",
        .onSent 0 .other 0] = some s := ⟨_, rfl⟩
  have h5 : s.undeliveredMessagesMap 5 = [⟨"text", 9, [5], "hi", true, ""⟩] := by cases hs; rfl
  obtain ⟨t, ht⟩ : ∃ t, run defaultEnv 1 s [.watchdogPing fun _ => 0, .onMessage ⟨9, 1⟩ .frameText
      "\x7b\"type\":\"text\",\"sender\":9,\"recipients\":[9],\"body\":\"hey\"\x7d"] = some t := by
    cases hs; exact ⟨_, rfl⟩
  have htr : regTrace defaultEnv 1 s [.watchdogPing fun _ => 0, .onMessage ⟨9, 1⟩ .frameText
      "\x7b\"type\":\"text\",\"sender\":9,\"recipients\":[9],\"body\":\"hey\"\x7d"] = [] := by
    cases hs; rfl
  refine ⟨s, t, hs, by cases hs; rfl, h5, ht, h5 ▸ run_queue_grows defaultEnv 1 s t _ ht 5 ?_⟩
  rw [htr]
  exact fun _ => List.not_mem_nil _

end ChatServer

end Scatter
