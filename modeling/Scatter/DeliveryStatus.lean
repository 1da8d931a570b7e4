import Scatter.Simulation
import Scatter.Redelivery
import Scatter.Fragments

/-! Delivery statuses (`onMessageSent`). A completion routes a status only for a successful
delivery of a payload that is not itself a status; a status is routed without statistics
and its own completion routes nothing. To speak of causal chains, payloads are tagged with
the length of the chain that produced them (`PayloadOps.tagged`): the tagged server runs
the same events to the same states (`map_run`), and every payload it routes is a chain of
length one, or a status at the end of a chain of length two.

* `complete_routed`: what one completion routes.
* `run_allShallow`: the chain bound over every run.
* `handle_routes_depth_two`: the events that route a payload at the end of a chain of length two.
* `delivery_status_chains`: these together.
* `onMessage_routes_client_status`: a client's payload of the sent-status type is routed like
  any other. -/

namespace Scatter

variable {P : Type}

/-- Payloads tagged with the length of the causal chain that produced them: a parsed
payload starts one, a `setRecipient` copy keeps it, and a delivery status is one longer
than the payload it reports on. -/
def PayloadOps.tagged (B : PayloadOps P) : PayloadOps (P × Nat) where
  parse t := (B.parse t, 1)
  empty := (B.empty, 1)
  isValid q := B.isValid q.1
  getError q := B.getError q.1
  getType q := B.getType q.1
  getSender q := B.getSender q.1
  getRecipients q := B.getRecipients q.1
  isForBot q := B.isForBot q.1
  isTypeOfSentStatus q := B.isTypeOfSentStatus q.1
  setRecipient q u := (B.setRecipient q.1 u, q.2)
  toJson q := B.toJson q.1
  createSendStatus q := (B.createSendStatus q.1, q.2 + 1)
  getRecipients_setRecipient q u := B.getRecipients_setRecipient q.1 u
  isTypeOfSentStatus_setRecipient q u := B.isTypeOfSentStatus_setRecipient q.1 u
  isTypeOfSentStatus_createSendStatus q := B.isTypeOfSentStatus_createSendStatus q.1

theorem PayloadOps.tagged_hom (B : PayloadOps P) : B.tagged.Hom B Prod.fst :=
  ⟨fun _ => rfl, rfl, fun _ => rfl, fun _ => rfl, fun _ => rfl, fun _ => rfl, fun _ => rfl,
    fun _ => rfl, fun _ => rfl, fun _ _ => rfl, fun _ => rfl, fun _ => rfl⟩

/-- The server of `F` over tagged payloads. -/
def Env.tagged (F : Env P) : Env (P × Nat) := F.withPayload F.payload.tagged

@[simp] theorem Env.tagged_toConfig (F : Env P) : F.tagged.toConfig = F.toConfig := rfl

@[simp] theorem Env.tagged_payload (F : Env P) : F.tagged.payload = F.payload.tagged := rfl

namespace ChatServer

section Routed

variable {α : Type} (s : ChatServer α)

@[simp] theorem routed_setStorage (st : ConnectionStorage) : (s.setStorage st).routed = s.routed := rfl

@[simp] theorem routed_updateStat (id : UserId) (g : Statistics → Statistics) :
    (s.updateStat id g).routed = s.routed := rfl

@[simp] theorem routed_push (u : UserId) (p : α) : (s.push u p).routed = s.routed := rfl

@[simp] theorem routed_sendClose (c : Connection) (st : Status) (r : String) :
    (s.sendClose c st r).routed = s.routed := by
  simp [routed]

@[simp] theorem routed_issue (snd : Send α) : (s.issue snd).routed = s.routed := by
  simp [routed, issue]

end Routed

variable (F : Env P)

/-- The delivery status a completion routes: one for a successful delivery of a payload that
is not itself a status, when delivery status is enabled. -/
def statusReport (snd : Send P) (err : ErrorCode) : List P :=
  match snd.callback with
  | .message r q _ =>
    if err = .none ∧ F.enableMessageDeliveryStatus = true ∧ F.payload.isTypeOfSentStatus q = false
    then [F.payload.createSendStatus (F.payload.setRecipient q r)] else []
  | .ping _ => []

@[simp] theorem routed_recordMessageSent (s : ChatServer P) (p : P) (n : Nat) (b : Bool) :
    (recordMessageSent F s p n b).routed = s.routed := by
  simp [routed]

@[simp] theorem routed_handleUndeliverable (s : ChatServer P) (r : UserId) (p : P) :
    (handleUndeliverable F s r p).routed = s.routed := by
  simp [routed]

theorem complete_routed (s : ChatServer P) (snd : Send P) (err : ErrorCode) (n : Nat) :
    (complete F s snd err n).routed = s.routed ++ statusReport F snd err := by
  unfold complete statusReport
  cases h : snd.callback with
  | message r q cid =>
    by_cases he : err = .none
    · subst he
      simp only [bne_self_eq_false, Bool.false_eq_true, ↓reduceIte, true_and, onMessageSent,
        PayloadOps.isTypeOfSentStatus_setRecipient]
      by_cases hq : F.payload.isTypeOfSentStatus q = true
      · simp [hq]
      · by_cases hd : F.enableMessageDeliveryStatus = true <;> simp [hq, hd, send_routed]
    · have : (err != .none) = true := by simpa using he
      simp only [this, ↓reduceIte, he, false_and, List.append_nil]
      split <;> simp
  | ping c => dsimp only; split <;> simp

theorem routePayload_routed (s : ChatServer P) (c : Connection) (p : P) :
    (routePayload F s c p).routed = s.routed ++ if F.payload.isValid p then [p] else [] := by
  unfold routePayload
  split
  · rename_i h
    simp only [Bool.not_eq_true'] at h
    simp [h, routed]
  · rename_i h
    simp only [Bool.not_eq_true', Bool.not_eq_false] at h
    rw [send_routed]
    split <;> simp [h, sendTo_routed]

/-- `onMessage` routes only payloads parsed from the client's frames, or the empty payload. -/
theorem onMessage_routed (s : ChatServer P) (c : Connection) (op : Opcode) (data : String) :
    ∃ L, (onMessage F s c op data).routed = s.routed ++ L ∧
      ∀ q ∈ L, (∃ text, q = F.payload.parse text) ∨ q = F.payload.empty := by
  have hroute : ∀ (t : ChatServer P) q, (∃ text, q = F.payload.parse text) ∨ q = F.payload.empty →
      ∃ L, (routePayload F t c q).routed = t.routed ++ L ∧
        ∀ q' ∈ L, (∃ text, q' = F.payload.parse text) ∨ q' = F.payload.empty := fun t q hq =>
    ⟨_, routePayload_routed F t c q, fun q' hq' => by split at hq' <;> simp_all⟩
  have hkeep : ∀ (Q : P → Prop) (t : ChatServer P), t.routed = s.routed →
      ∃ L, t.routed = s.routed ++ L ∧ ∀ q ∈ L, Q q := fun _ _ ht => ⟨[], by simp [ht], nofun⟩
  cases op with
  | frameText | frameBinary => exact hroute s _ (.inl ⟨_, rfl⟩)
  | fragmentBeginText | fragmentBeginBinary | fragmentContinue => exact hkeep _ _ rfl
  | fragmentEnd =>
    rw [onMessage_fragmentEnd]
    dsimp only
    split
    · exact hkeep _ _ (routed_sendClose _ c _ _)
    · exact hroute _ _ (.inl ⟨_, rfl⟩)
  | pong | other _ => exact hroute s _ (.inr rfl)

theorem watchdogPing_routed (s : ChatServer P) (inactive : UserId → Int) :
    (watchdogPing F s inactive).routed = s.routed := by
  unfold watchdogPing
  generalize s.connectionStorage.slots = l
  induction l generalizing s with
  | nil => rfl
  | cons sl l ih =>
    rw [List.foldl_cons, ih]
    unfold watchdogSlot
    split
    · rfl
    · split <;> simp [routed]

theorem sendTo_statistics_of_status (s : ChatServer P) (r : UserId) (q : P)
    (hq : F.payload.isTypeOfSentStatus q = true) : (sendTo F s r q).statistics = s.statistics := by
  by_cases h : s.connectionStorage.size r = 0
  · rw [sendTo_offline F s r q h, recordMessageSent_sentStatus F _ _ _ _ (by simpa using hq),
      handleUndeliverable_statistics]
  · rw [sendTo_online F s r q h, foldl_sendToSlot]

/-- A status is routed without touching the statistics. -/
theorem send_statistics_of_status (s : ChatServer P) (q : P)
    (hq : F.payload.isTypeOfSentStatus q = true) : (send F s q).statistics = s.statistics :=
  send_preserves F (fun t => t.statistics = s.statistics) q (fun _ h => h)
    (fun t r h => (sendTo_statistics_of_status F t r q hq).trans h) s rfl

/-- The completion of a status's send routes nothing and updates no statistics. -/
theorem complete_of_status (s : ChatServer P) (snd : Send P) (err : ErrorCode) (n : Nat)
    (r : UserId) (q : P) (cid : ConnId) (h : snd.callback = .message r q cid)
    (hq : F.payload.isTypeOfSentStatus q = true) :
    (complete F s snd err n).statistics = s.statistics ∧ (complete F s snd err n).routed = s.routed := by
  refine ⟨?_, by simp [complete_routed, statusReport, h, hq]⟩
  unfold complete onMessageSent
  simp only [h, PayloadOps.isTypeOfSentStatus_setRecipient, hq, ↓reduceIte]
  split
  · rw [handleUndeliverable_statistics]; split <;> rfl
  · rfl

/-- A payload at the end of a causal chain of length one, or a delivery status at the end of
one of length two. -/
def Shallow (q : P × Nat) : Prop := q.2 = 1 ∨ (q.2 = 2 ∧ F.payload.isTypeOfSentStatus q.1 = true)

/-- Every payload the tagged server has queued, in flight or routed is shallow. -/
structure AllShallow (s : ChatServer (P × Nat)) : Prop where
  queued : ∀ u, ∀ q ∈ s.undeliveredMessagesMap u, Shallow F q
  inflight : ∀ snd ∈ s.inflight, ∀ r q cid, snd.callback = .message r q cid → Shallow F q
  routed : ∀ q ∈ s.routed, Shallow F q

variable {F}

theorem shallow_setRecipient {q : P × Nat} (u : UserId) (hq : Shallow F q) :
    Shallow F (F.tagged.payload.setRecipient q u) := by
  simpa [Shallow, PayloadOps.tagged] using hq

theorem allShallow_initial : AllShallow F initial where
  queued _ _ h := nomatch h
  inflight _ h := nomatch h
  routed _ h := nomatch h

theorem AllShallow.of_eq {s t : ChatServer (P × Nat)} (hs : AllShallow F s)
    (hq : t.undeliveredMessagesMap = s.undeliveredMessagesMap) (hi : t.inflight = s.inflight)
    (hr : t.routed = s.routed) : AllShallow F t :=
  ⟨hq ▸ hs.queued, hi ▸ hs.inflight, hr ▸ hs.routed⟩

theorem AllShallow.emit_listeners {s : ChatServer (P × Nat)} (hs : AllShallow F s) {q : P × Nat}
    (hq : Shallow F q) : AllShallow F (s.emit (.listeners q)) :=
  ⟨hs.queued, hs.inflight, by
    simp only [routed_emit_listeners, List.mem_append, List.mem_singleton]
    rintro x (hx | rfl)
    exacts [hs.routed x hx, hq]⟩

theorem AllShallow.push {s : ChatServer (P × Nat)} (hs : AllShallow F s) (u : UserId)
    {q : P × Nat} (hq : Shallow F q) : AllShallow F (s.push u q) :=
  ⟨fun v x hx => (by
    rw [push_undelivered] at hx
    rcases List.mem_append.mp hx with hx | hx
    · exact hs.queued v x hx
    · split at hx
      · rw [List.mem_singleton.mp hx]; exact hq
      · cases hx),
    hs.inflight, hs.routed⟩

theorem handleUndeliverable_allShallow (s : ChatServer (P × Nat)) (r : UserId) (q : P × Nat)
    (hs : AllShallow F s) (hq : Shallow F q) : AllShallow F (handleUndeliverable F.tagged s r q) := by
  rw [handleUndeliverable_eq]
  split
  · exact hs.push r (shallow_setRecipient r hq)
  · exact hs

theorem sendTo_allShallow (s : ChatServer (P × Nat)) (r : UserId) (q : P × Nat)
    (hs : AllShallow F s) (hq : Shallow F q) : AllShallow F (sendTo F.tagged s r q) where
  queued u x hx := by
    rw [sendTo_undelivered] at hx
    rcases List.mem_append.mp hx with hx | hx
    · exact hs.queued u x hx
    · split at hx
      · rw [List.mem_singleton.mp hx]; exact shallow_setRecipient r hq
      · cases hx
  inflight snd hsnd r' q' cid h := by
    rw [sendTo_inflight] at hsnd
    rcases List.mem_append.mp hsnd with hsnd | hsnd
    · exact hs.inflight snd hsnd r' q' cid h
    · obtain ⟨sl, -, hsl⟩ := List.mem_filterMap.mp hsnd
      obtain ⟨c, -, rfl⟩ := Option.map_eq_some'.mp hsl
      cases h
      exact hq
  routed x hx := hs.routed x (by rwa [sendTo_routed] at hx)

theorem send_allShallow (s : ChatServer (P × Nat)) (q : P × Nat) (hs : AllShallow F s)
    (hq : Shallow F q) : AllShallow F (send F.tagged s q) :=
  send_preserves F.tagged (AllShallow F) q (fun _ ht => ht.emit_listeners hq)
    (fun t r ht => sendTo_allShallow t r q ht hq) s hs

theorem recordMessageSent_allShallow (s : ChatServer (P × Nat)) (q : P × Nat) (n : Nat) (b : Bool)
    (hs : AllShallow F s) : AllShallow F (recordMessageSent F.tagged s q n b) := by
  obtain ⟨st, h⟩ := recordMessageSent_eq F.tagged s q n b
  rw [h]
  exact hs.of_eq rfl rfl rfl

/-- The status of a delivered shallow payload that is not a status is at depth two. -/
theorem onMessageSent_allShallow (s : ChatServer (P × Nat)) (q : P × Nat) (n : Nat) (b : Bool)
    (hs : AllShallow F s) (hq : Shallow F q) : AllShallow F (onMessageSent F.tagged s q n b) := by
  unfold onMessageSent
  split
  · exact hs
  · rename_i hns
    have hd : q.2 = 1 := by
      rcases hq with h | ⟨-, h⟩
      · exact h
      · simp [PayloadOps.tagged] at hns; simp_all
    have hr := recordMessageSent_allShallow s q n b hs
    split
    · refine send_allShallow _ _ hr (.inr ⟨?_, ?_⟩)
      · simp [PayloadOps.tagged, hd]
      · simp [PayloadOps.tagged]
    · exact hr

theorem routePayload_allShallow (s : ChatServer (P × Nat)) (c : Connection) (q : P × Nat)
    (hs : AllShallow F s) (hq : Shallow F q) : AllShallow F (routePayload F.tagged s c q) := by
  unfold routePayload
  split
  · exact hs.of_eq rfl rfl (routed_sendClose s c _ _)
  · refine send_allShallow _ q ?_ hq
    split
    · exact sendTo_allShallow s _ q hs hq
    · exact hs

theorem onMessage_allShallow (s : ChatServer (P × Nat)) (c : Connection) (op : Opcode)
    (data : String) (hs : AllShallow F s) : AllShallow F (onMessage F.tagged s c op data) := by
  have h1 : ∀ t, Shallow F (F.tagged.payload.parse t) := fun _ => .inl rfl
  have h2 : Shallow F F.tagged.payload.empty := .inl rfl
  by_cases hend : op = .fragmentEnd
  · subst hend
    rw [onMessage_fragmentEnd]
    have hs' : AllShallow F { s with frameBuffer := Function.update s.frameBuffer c.id none } :=
      hs.of_eq rfl rfl rfl
    dsimp only
    split
    · exact hs'.of_eq rfl rfl (routed_sendClose _ c _ _)
    · exact routePayload_allShallow _ c _ hs' (h1 _)
  · unfold onMessage
    split
    · exact routePayload_allShallow s c _ hs (h1 _)
    · exact routePayload_allShallow s c _ hs (h1 _)
    · exact hs.of_eq rfl rfl rfl
    · exact hs.of_eq rfl rfl rfl
    · exact hs.of_eq rfl rfl rfl
    · exact absurd rfl hend
    · exact routePayload_allShallow s c _ hs h2
    · exact routePayload_allShallow s c _ hs h2

theorem redeliverLoop_allShallow (u : UserId) :
    ∀ fuel (s : ChatServer (P × Nat)) cnt r, AllShallow F s →
      redeliverLoop F.tagged fuel s u cnt = some r → AllShallow F r.1 := by
  intro fuel
  induction fuel with
  | zero => intro s cnt r _ h; cases h
  | succ fuel ih =>
    intro s cnt r hs h
    simp only [redeliverLoop] at h
    split at h
    · cases h; exact hs
    · rename_i q rest hq
      have hpop : AllShallow F (s.pop u) := ⟨fun v x hx => by
        by_cases hv : v = u
        · subst hv
          rw [pop_undelivered_self, hq] at hx
          exact hs.queued v x (by rw [hq]; exact List.mem_cons_of_mem _ hx)
        · exact hs.queued v x (by simpa [pop, hv] using hx), hs.inflight, hs.routed⟩
      exact ih _ _ _ (send_allShallow _ q hpop (hs.queued u q (by rw [hq]; exact List.mem_cons_self _ _))) h

theorem onConnected_allShallow (fuel : Nat) (s t : ChatServer (P × Nat)) (c : Connection)
    (r : Request) (hs : AllShallow F s) (h : onConnected F.tagged fuel s c r = some (.ok t)) :
    AllShallow F t := by
  rcases onConnected_ok F.tagged fuel s t c r h with ⟨st, reason, rfl⟩ | ⟨id, n, hr⟩
  · exact hs.of_eq rfl rfl (routed_sendClose s c _ _)
  · have hs' : AllShallow F (((closePriorConnections F.tagged s id).setStorage
        ((closePriorConnections F.tagged s id).connectionStorage.add id c)).updateStat id
        Statistics.addConnection) := hs.of_eq (by simp) (by simp) (by simp)
    rcases redeliverMessagesTo_cases F.tagged fuel _ id _ hr with he | hl
    · cases he; exact hs'
    · exact redeliverLoop_allShallow id fuel _ 0 _ hs' hl

theorem complete_allShallow (s : ChatServer (P × Nat)) (snd : Send (P × Nat)) (err : ErrorCode)
    (n : Nat) (hs : AllShallow F s)
    (hsnd : ∀ r q cid, snd.callback = .message r q cid → Shallow F q) :
    AllShallow F (complete F.tagged s snd err n) := by
  unfold complete
  split
  · rename_i r q cid h
    have hq := hsnd r q cid h
    split
    · apply handleUndeliverable_allShallow _ r q _ hq
      split
      · exact hs.of_eq rfl rfl rfl
      · exact hs
    · exact onMessageSent_allShallow s _ n true hs (shallow_setRecipient r hq)
  · split <;> exact hs.of_eq rfl rfl rfl

theorem watchdogPing_allShallow (s : ChatServer (P × Nat)) (inactive : UserId → Int)
    (hs : AllShallow F s) : AllShallow F (watchdogPing F.tagged s inactive) := by
  unfold watchdogPing
  generalize s.connectionStorage.slots = l
  induction l generalizing s with
  | nil => exact hs
  | cons sl l ih =>
    refine ih _ ?_
    have hu : AllShallow F (s.updateStat sl.user id) := hs.of_eq rfl rfl rfl
    unfold watchdogSlot
    split
    · exact hu.of_eq rfl rfl rfl
    · split
      · exact hu.of_eq rfl rfl (routed_sendClose _ _ _ _)
      · refine ⟨hu.queued, fun snd hsnd r q cid h => ?_, by simpa using hu.routed⟩
        rcases List.mem_append.mp hsnd with hsnd | hsnd
        · exact hu.inflight snd hsnd r q cid h
        · rw [List.mem_singleton.mp hsnd] at h; cases h

theorem watchdogDisconnect_allShallow (s : ChatServer (P × Nat)) (hs : AllShallow F s) :
    AllShallow F (watchdogDisconnect s) := by
  rw [watchdogDisconnect_eq]
  exact hs.of_eq rfl rfl (by simp [routed, List.filterMap_map])

/-- One event keeps every payload shallow. -/
theorem handle_allShallow (fuel : Nat) (s t : ChatServer (P × Nat)) (e : Event)
    (hs : AllShallow F s) (h : handle F.tagged fuel s e = some t) : AllShallow F t := by
  cases e with
  | onOpen c r =>
    obtain ⟨x, hx, rfl⟩ := Option.map_eq_some'.mp h
    cases x with
    | ok t' => exact onConnected_allShallow fuel s t' c r hs hx
    | error => exact hs
  | onClose c =>
    cases h
    unfold onDisconnected
    split <;> exact hs.of_eq rfl rfl rfl
  | onMessage c op data =>
    cases h
    split
    · exact hs.of_eq rfl rfl rfl
    · exact onMessage_allShallow s c op data hs
  | onSent i err n =>
    obtain ⟨snd, hget, rfl⟩ := Option.map_eq_some'.mp h
    have hmem : snd ∈ s.inflight := List.get?_mem hget
    exact complete_allShallow _ snd err n
      ⟨hs.queued, fun x hx => hs.inflight x (List.mem_of_mem_eraseIdx hx), hs.routed⟩
      (hs.inflight snd hmem)
  | watchdogPing inactive => cases h; exact watchdogPing_allShallow s inactive hs
  | watchdogDisconnect => cases h; exact watchdogDisconnect_allShallow s hs

theorem run_allShallow (fuel : Nat) :
    ∀ (es : List Event) (s t : ChatServer (P × Nat)), AllShallow F s →
      run F.tagged fuel s es = some t → AllShallow F t
  | [], s, t, hs, h => by cases h; exact hs
  | e :: es, s, t, hs, h => by
    obtain ⟨s', h1, h2⟩ := Option.bind_eq_some.mp h
    exact run_allShallow fuel es s' t (handle_allShallow fuel s s' e hs h1) h2

/-- Some queue of `s` holds a payload at the end of a chain of length `n`. -/
def QueuedAt (s : ChatServer (P × Nat)) (n : Nat) : Prop :=
  ∃ u, ∃ q ∈ s.undeliveredMessagesMap u, q.2 = n

/-- `send` queues only copies of its payload. -/
theorem queuedAt_send (s : ChatServer (P × Nat)) (q : P × Nat) (n : Nat)
    (h : QueuedAt (send F.tagged s q) n) : QueuedAt s n ∨ n = q.2 := by
  revert h
  refine send_preserves F.tagged (fun t => QueuedAt t n → QueuedAt s n ∨ n = q.2) q
    (fun _ ht => ht) (fun t r ht => ?_) s .inl
  rintro ⟨u, x, hx, rfl⟩
  rw [sendTo_undelivered] at hx
  rcases List.mem_append.mp hx with hx | hx
  · exact ht ⟨u, x, hx, rfl⟩
  · split at hx
    · rw [List.mem_singleton.mp hx]; exact .inr rfl
    · cases hx

theorem queuedAt_pop (s : ChatServer (P × Nat)) (u : UserId) (n : Nat) (h : QueuedAt (s.pop u) n) :
    QueuedAt s n := by
  obtain ⟨v, x, hx, hn⟩ := h
  refine ⟨v, x, ?_, hn⟩
  by_cases hv : v = u
  · subst hv
    rw [pop_undelivered_self] at hx
    exact List.mem_of_mem_tail hx
  · simpa [pop, hv] using hx

/-- The drain routes only payloads at the depth of one queued when it started: it pops them,
and queues only copies of what it pops. -/
theorem redeliverLoop_routed_queued (u : UserId) (s₀ : ChatServer (P × Nat)) :
    ∀ fuel (s : ChatServer (P × Nat)) cnt r, (∀ n, QueuedAt s n → QueuedAt s₀ n) →
      redeliverLoop F.tagged fuel s u cnt = some r →
      ∃ L, r.1.routed = s.routed ++ L ∧ ∀ q ∈ L, QueuedAt s₀ q.2 := by
  intro fuel
  induction fuel with
  | zero => intro _ _ _ _ h; cases h
  | succ fuel ih =>
    intro s cnt r hs h
    simp only [redeliverLoop] at h
    split at h
    · cases h; exact ⟨[], by simp, fun _ h => nomatch h⟩
    · rename_i q rest hq
      have hq₀ : QueuedAt s₀ q.2 := hs _ ⟨u, q, by rw [hq]; exact List.mem_cons_self _ _, rfl⟩
      obtain ⟨L, hL, hLq⟩ := ih _ _ r (fun n hn => (queuedAt_send _ q n hn).elim
        (fun h => hs n (queuedAt_pop s u n h)) (fun h => h ▸ hq₀)) h
      refine ⟨q :: L, by rw [hL, send_routed, pop_routed]; simp, fun x hx => ?_⟩
      rcases List.mem_cons.mp hx with rfl | hx
      exacts [hq₀, hLq x hx]

/-- **Where depth two comes from.** An event routes a payload at the end of a chain of length
two only as the status report of the send it completes without error, or as an open's drain
redelivering a queued one. -/
theorem handle_routes_depth_two (fuel : Nat) (s t : ChatServer (P × Nat)) (e : Event)
    (h : handle F.tagged fuel s e = some t) :
    ∃ L, t.routed = s.routed ++ L ∧ ∀ q ∈ L, q.2 = 2 →
      (∃ i n snd, e = .onSent i .none n ∧ s.inflight[i]? = some snd ∧
        q ∈ statusReport F.tagged snd .none) ∨
      (∃ c r, e = .onOpen c r ∧ QueuedAt s 2) := by
  have hkeep : ∀ (Q : P × Nat → Prop) (t : ChatServer (P × Nat)), t.routed = s.routed →
      ∃ L, t.routed = s.routed ++ L ∧ ∀ q ∈ L, Q q := fun _ _ ht => ⟨[], by simp [ht], nofun⟩
  cases e with
  | onOpen c r =>
    obtain ⟨x, hx, rfl⟩ := Option.map_eq_some'.mp h
    cases x with
    | error => exact hkeep _ _ rfl
    | ok t' =>
      rcases onConnected_ok F.tagged fuel s t' c r hx with ⟨st, reason, rfl⟩ | ⟨id, n, hr⟩
      · exact hkeep _ _ (routed_sendClose s c _ _)
      · rcases redeliverMessagesTo_cases F.tagged fuel _ id _ hr with he | hl
        · cases he; exact hkeep _ _ (by simp)
        · obtain ⟨L, hL, hLq⟩ := redeliverLoop_routed_queued id s fuel _ 0 _
            (fun n ⟨u, x, hx, hn⟩ => ⟨u, x, by simpa using hx, hn⟩) hl
          exact ⟨L, by simpa using hL, fun q hq h2 => .inr ⟨c, r, rfl, h2 ▸ hLq q hq⟩⟩
  | onClose c =>
    cases h
    exact hkeep _ _ (by unfold onDisconnected; split <;> rfl)
  | onMessage c op data =>
    cases h
    split
    · exact hkeep _ _ rfl
    · obtain ⟨L, hL, hLq⟩ := onMessage_routed F.tagged s c op data
      refine ⟨L, hL, fun q hq h2 => absurd h2 ?_⟩
      rcases hLq q hq with ⟨_, rfl⟩ | rfl <;> simp [PayloadOps.tagged]
  | onSent i err n =>
    obtain ⟨snd, hsnd, rfl⟩ := Option.map_eq_some'.mp h
    refine ⟨_, complete_routed F.tagged _ snd err n, fun q hq _ => .inl ?_⟩
    have herr : err = .none := by
      by_contra hne
      unfold statusReport at hq
      split at hq <;> simp [hne] at hq
    subst herr
    exact ⟨i, n, snd, rfl, by rwa [← List.get?_eq_getElem?], hq⟩
  | watchdogPing inactive => cases h; exact hkeep _ _ (watchdogPing_routed F.tagged s inactive)
  | watchdogDisconnect =>
    cases h
    exact hkeep _ _ (by rw [watchdogDisconnect_eq]; simp [routed, List.filterMap_map])

/-- **Delivery statuses.** A completion routes exactly the status of a successful delivery of a
payload that is not itself a status, when delivery status is enabled; a status is routed
without statistics and its completion routes nothing and updates nothing; along every
run from the initial state, tagging each payload with the length of its causal chain
(the same run, by `map_run`) finds only chains of length one, and statuses at length two;
and an event routes a payload at length two only as the status report of the send it
completes, or as an open's drain redelivering one that was queued. -/
theorem delivery_status_chains (F : Env P) :
    (∀ s snd err n, (complete F s snd err n).routed = s.routed ++ statusReport F snd err) ∧
    (∀ s q, F.payload.isTypeOfSentStatus q = true →
      (send F s q).statistics = s.statistics ∧ (send F s q).routed = s.routed ++ [q]) ∧
    (∀ s snd err n r q cid, snd.callback = .message r q cid →
      F.payload.isTypeOfSentStatus q = true →
      (complete F s snd err n).statistics = s.statistics ∧ (complete F s snd err n).routed = s.routed) ∧
    (∀ fuel es t, run F fuel initial es = some t → ∃ t', run F.tagged fuel initial es = some t' ∧
      t'.map Prod.fst = t ∧
      ∀ q ∈ t'.routed, q.2 = 1 ∨ (q.2 = 2 ∧ F.payload.isTypeOfSentStatus q.1 = true)) ∧
    (∀ fuel s e t, handle F.tagged fuel s e = some t → ∃ L, t.routed = s.routed ++ L ∧
      ∀ q ∈ L, q.2 = 2 →
        (∃ i n snd, e = .onSent i .none n ∧ s.inflight[i]? = some snd ∧
          q ∈ statusReport F.tagged snd .none) ∨
        (∃ c r, e = .onOpen c r ∧ ∃ u, ∃ q' ∈ s.undeliveredMessagesMap u, q'.2 = 2)) := by
  refine ⟨complete_routed F, fun s q hq => ⟨send_statistics_of_status F s q hq, send_routed F s q⟩,
    fun s snd err n r q cid h hq => complete_of_status F s snd err n r q cid h hq,
    fun fuel es t h => ?_, fun fuel s e t => handle_routes_depth_two fuel s t e⟩
  have hsim := map_run F F.payload.tagged Prod.fst F.payload.tagged_hom fuel es initial
  rw [show (initial : ChatServer (P × Nat)).map Prod.fst = initial from rfl, h] at hsim
  obtain ⟨t', ht', rfl⟩ := Option.map_eq_some'.mp hsim
  exact ⟨t', ht', rfl, (run_allShallow fuel es initial t' allShallow_initial ht').routed⟩

/-- A client sends a payload of the sent-status type: `onMessage` routes it, in a run with no
send completion. -/
theorem onMessage_routes_client_status :
    ∃ s, run { defaultEnv with enableMessageDeliveryStatus := true } 1 initial
        [.onOpen ⟨9, 1⟩ ⟨[("id", "9")]⟩, .onMessage ⟨9, 1⟩ .frameText
          "\x7b\"type\":\"message_sent\",\"sender\":9,\"recipients\":[5],\"body\":\"hi\"\x7d"] =
        some s ∧
      s.routed = [⟨"message_sent", 9, [5], "hi", true, ""⟩] ∧
      MessagePayload.ops.isTypeOfSentStatus ⟨"message_sent", 9, [5], "hi", true, ""⟩ = true :=
  ⟨_, rfl, rfl, rfl⟩

end ChatServer

end Scatter
