import Scatter.Accounting
import Scatter.Conservation

/-! The received-message counter of `getStat(u)`. `onMessageSent` with `hasSent` counts one
receipt for each recipient of the copy it is given, and nothing for a delivery status.
`sendTo` calls it with `hasSent = false` for an offline recipient, and the completion handler
of a send with `hasSent = true` for its one recipient, so only a send's completion without
error counts; queuing, the drain's pops, failed sends and the watchdog count nothing.

* `complete_received`: what one completion counts.
* `run_received`: over any run, `u`'s counter grows by the completions without error of sends
  to `u` of payloads other than delivery statuses, hence by at most the deliveries to `u` that
  `run_owed` accounts for. -/

namespace Scatter

namespace ChatServer

variable {P : Type} (env : Env P)

/-- `getStat(u)`'s received-message counter; zero for a user without statistics. -/
def received (s : ChatServer P) (u : UserId) : Nat := ((s.statistics u).getD {}).receivedMessages

/-- `1` when the completion of `snd` with `err` is a receipt for `u`: a send to `u`, without
error, of a payload that is not a delivery status. -/
def receipt (u : UserId) (snd : Send P) (err : ErrorCode) : Nat :=
  match err, snd.callback with
  | .none, .message r p _ => if r = u ∧ env.payload.isTypeOfSentStatus p = false then 1 else 0
  | _, _ => 0

/-- The receipt for `u` of event `e` in state `s`. -/
def receiptFor (s : ChatServer P) (u : UserId) : Event → Nat
  | .onSent i err _ => ((s.inflight[i]?).map fun snd => receipt env u snd err).getD 0
  | _ => 0

section Frame

variable (s : ChatServer P)

@[simp] theorem received_emit (e : Effect P) : (s.emit e).received = s.received := rfl
@[simp] theorem received_issue (snd : Send P) : (s.issue snd).received = s.received := rfl
@[simp] theorem received_setStorage (st : ConnectionStorage) :
    (s.setStorage st).received = s.received := rfl
@[simp] theorem received_push (id : UserId) (p : P) : (s.push id p).received = s.received := rfl
@[simp] theorem received_pop (id : UserId) : (s.pop id).received = s.received := rfl

theorem received_updateStat (id : UserId) (f : Statistics → Statistics)
    (hf : ∀ st, (f st).receivedMessages = st.receivedMessages) :
    (s.updateStat id f).received = s.received := by
  funext u
  by_cases h : u = id
  · subst h; simp [received, updateStat, hf]
  · simp [received, updateStat, h]

theorem received_addReceivedMessage (id u : UserId) (n : Nat) :
    (s.updateStat id fun st => st.addReceivedMessage.addBytesTransferred n).received u =
      s.received u + if u = id then 1 else 0 := by
  by_cases h : u = id
  · subst h; simp [received, updateStat, Statistics.addReceivedMessage, Statistics.addBytesTransferred]
  · simp [received, updateStat, h]

end Frame

theorem foldl_received (b : Bool) (n : Nat) (u : UserId) : ∀ (l : List UserId) (s : ChatServer P),
    (l.foldl (fun s i => if b then s.updateStat i fun st => st.addReceivedMessage.addBytesTransferred n
      else s) s).received u = s.received u + if b then l.count u else 0
  | [], s => by simp
  | i :: l, s => by
    rw [List.foldl_cons, foldl_received b n u l]
    cases b
    · simp
    · simp only [↓reduceIte, received_addReceivedMessage, List.count_cons, beq_iff_eq]
      by_cases h : u = i
      · subst h; simp; omega
      · simp [h, Ne.symm h]

/-- `onMessageSent`'s statistics half counts a receipt per occurrence of `u` among the
recipients, when it is told the payload was sent and it is not a delivery status. -/
theorem recordMessageSent_received (s : ChatServer P) (p : P) (n : Nat) (b : Bool) (u : UserId) :
    (recordMessageSent env s p n b).received u = s.received u +
      if b ∧ env.payload.isTypeOfSentStatus p = false then (env.payload.getRecipients p).count u
      else 0 := by
  unfold recordMessageSent
  cases hst : env.payload.isTypeOfSentStatus p
  · rw [if_neg (by simp), foldl_received,
      received_updateStat _ _ (fun st => st.addSendMessage.addBytesTransferred n) fun _ => rfl]
    cases b <;> simp
  · simp

theorem sendTo_received (s : ChatServer P) (r : UserId) (p : P) :
    (sendTo env s r p).received = s.received := by
  funext u
  by_cases h : s.connectionStorage.size r = 0
  · rw [sendTo_offline env s r p h, recordMessageSent_received]
    simp [received, handleUndeliverable_statistics]
  · rw [sendTo_online env s r p h, foldl_sendToSlot]; rfl

theorem send_received (s : ChatServer P) (p : P) : (send env s p).received = s.received := by
  unfold send
  split
  · rfl
  · rw [foldl_sendTo_preserves env received p fun s r => sendTo_received env s r p]; rfl

theorem onMessageSent_received (s : ChatServer P) (p : P) (n : Nat) (b : Bool) (u : UserId) :
    (onMessageSent env s p n b).received u = s.received u +
      if b ∧ env.payload.isTypeOfSentStatus p = false then (env.payload.getRecipients p).count u
      else 0 := by
  have hrec := recordMessageSent_received env s p n b u
  unfold onMessageSent
  split
  · simp_all
  · dsimp only
    split
    · rw [send_received, hrec]
    · exact hrec

theorem routePayload_received (s : ChatServer P) (c : Connection) (p : P) :
    (routePayload env s c p).received = s.received := by
  unfold routePayload
  split
  · rfl
  · rw [send_received]
    split
    · exact sendTo_received env s _ p
    · rfl

theorem onMessage_received (s : ChatServer P) (c : Connection) (op : Opcode) (data : String) :
    (onMessage env s c op data).received = s.received := by
  have hread : (s.readFrameBuffer c.id true).1.received = s.received := by
    unfold readFrameBuffer; split <;> rfl
  unfold onMessage
  split
  · exact routePayload_received env s c _
  · exact routePayload_received env s c _
  · rfl
  · rfl
  · rfl
  · dsimp only
    split
    · exact hread
    · rw [routePayload_received, hread]
  · exact routePayload_received env s c _
  · exact routePayload_received env s c _

theorem redeliverLoop_received (u : UserId) : ∀ fuel (s : ChatServer P) cnt r,
    redeliverLoop env fuel s u cnt = some r → r.1.received = s.received := by
  intro fuel
  induction fuel with
  | zero => intro _ _ _ h; cases h
  | succ fuel ih =>
    intro s cnt r h
    simp only [redeliverLoop] at h
    split at h
    · cases h; rfl
    · rw [ih _ _ _ h, send_received, received_pop]

/-- **One completion.** A send's completion handler counts the receipt of `snd` and nothing
else: a failed send, a ping and a delivery status count nothing. -/
theorem complete_received (s : ChatServer P) (snd : Send P) (err : ErrorCode) (n : Nat)
    (u : UserId) : (complete env s snd err n).received u = s.received u + receipt env u snd err := by
  cases hcb : snd.callback with
  | message r p cid =>
    cases err with
    | none =>
      simp only [complete, hcb, bne_self_eq_false, Bool.false_eq_true, ↓reduceIte,
        onMessageSent_received, receipt]
      by_cases hr : r = u <;> by_cases hp : env.payload.isTypeOfSentStatus p <;> simp [hr, hp, Ne.symm]
    | brokenPipe => simp [complete, hcb, receipt, received]
    | other => simp [complete, hcb, receipt, received]
  | ping c => cases err <;> simp [complete, hcb, receipt, received]

theorem watchdogPing_received (s : ChatServer P) (inactive : UserId → Int) :
    (watchdogPing env s inactive).received = s.received := by
  refine foldl_keeps received _ (fun s sl => ?_) _ _
  have hid := received_updateStat s sl.user id fun _ => rfl
  unfold watchdogSlot
  split
  · exact hid
  · split
    · exact hid
    · exact hid

/-- What one event counts for `u`. -/
theorem handle_received (fuel : Nat) (s t : ChatServer P) (e : Event)
    (h : handle env fuel s e = some t) (u : UserId) :
    t.received u = s.received u + receiptFor env s u e := by
  cases e with
  | onOpen c r =>
    simp only [receiptFor, Nat.add_zero]
    obtain ⟨x, hx, rfl⟩ := Option.map_eq_some'.mp h
    cases x with
    | error => rfl
    | ok t' =>
      rcases onConnected_ok env fuel s t' c r hx with ⟨st, reason, rfl⟩ | ⟨id, n, hr⟩
      · rfl
      · have hadd : (((closePriorConnections env s id).setStorage
            ((closePriorConnections env s id).connectionStorage.add id c)).updateStat id
            Statistics.addConnection).received = s.received := by
          rw [received_updateStat _ id Statistics.addConnection fun _ => rfl, received_setStorage]
          funext v; simp [received]
        rcases redeliverMessagesTo_cases env fuel _ id _ hr with he | hl
        · cases he; exact congrFun hadd u
        · exact congrFun ((redeliverLoop_received env id fuel _ 0 _ hl).trans hadd) u
  | onClose c =>
    cases h
    simp only [receiptFor, Nat.add_zero, onDisconnected]
    split
    · rfl
    · rw [received_setStorage, received_updateStat _ _ Statistics.addDisconnection fun _ => rfl]
  | onMessage c op data =>
    cases h
    simp only [receiptFor, Nat.add_zero]
    split
    · rfl
    · rw [onMessage_received]
  | onSent i err n =>
    obtain ⟨snd, hsnd, rfl⟩ := Option.map_eq_some'.mp h
    rw [List.get?_eq_getElem?] at hsnd
    simp only [receiptFor, hsnd, Option.map_some', Option.getD_some]
    exact complete_received env _ snd err n u
  | watchdogPing inactive =>
    cases h
    simp only [receiptFor, Nat.add_zero, watchdogPing_received]
  | watchdogDisconnect => cases h; rw [watchdogDisconnect_eq]; rfl

/-- A receipt is a delivery. -/
theorem receiptFor_le_deliversTo (s : ChatServer P) (u : UserId) (e : Event) :
    receiptFor env s u e ≤ deliversTo u s e := by
  cases e with
  | onSent i err n =>
    simp only [receiptFor, deliversTo]
    cases hi : s.inflight[i]? with
    | none => simp
    | some snd =>
      cases err with
      | none =>
        cases hcb : snd.callback with
        | message r p cid =>
          simp only [hi, Option.map_some', Option.getD_some, receipt, hcb, Option.some_bind,
            Callback.recipient, Option.some.injEq]
          split
          · rw [if_pos (‹_ ∧ _›).1]
          · exact Nat.zero_le _
        | ping c => simp [receipt, hcb]
      | brokenPipe => simp [receipt]
      | other => simp [receipt]
  | _ => exact Nat.zero_le _

theorem tally_receiptFor_le (fuel : Nat) (u : UserId) : ∀ (es : List Event) (s : ChatServer P),
    tally env (fun s e => receiptFor env s u e) fuel s es ≤ deliveries env u fuel s es
  | [], _ => le_refl _
  | e :: es, s => by
    simp only [tally, deliveries]
    cases hh : handle env fuel s e with
    | some t =>
      exact Nat.add_le_add (receiptFor_le_deliversTo env s u e) (tally_receiptFor_le fuel u es t)
    | none =>
      cases e <;> simp only [receiptFor, Nat.add_zero, le_refl]
      simp only [handle, Option.map_eq_none', List.get?_eq_getElem?] at hh
      simp [hh]

/-- **The received counter over a run.** After any run from any state, `u`'s received-message
counter has grown by the completions without error of sends to `u` of payloads other than
delivery statuses, each counted once; so by at most the deliveries to `u` along the run. -/
theorem run_received (fuel : Nat) (u : UserId) (es : List Event) (s t : ChatServer P)
    (h : run env fuel s es = some t) :
    t.received u = s.received u + tally env (fun s e => receiptFor env s u e) fuel s es ∧
    t.received u ≤ s.received u + deliveries env u fuel s es := by
  have hrun : ∀ (es : List Event) (s t : ChatServer P), run env fuel s es = some t →
      t.received u = s.received u + tally env (fun s e => receiptFor env s u e) fuel s es := by
    intro es
    induction es with
    | nil => intro s t h; cases h; rfl
    | cons e es ih =>
      intro s t h
      obtain ⟨s', h1, h2⟩ := Option.bind_eq_some.mp h
      rw [ih s' t h2, handle_received env fuel s s' e h1 u]
      simp only [tally, h1]
      omega
  rw [hrun es s t h]
  exact ⟨rfl, Nat.add_le_add_left (tally_receiptFor_le env fuel u es s) _⟩

/-- Users `5` and `9` connect, `9` sends a text to `5`, and the send's completion is processed:
one receipt for `5`, read off the tally. -/
theorem run_received_one_delivery :
    ∃ t, run defaultEnv 1 initial [.onOpen ⟨5, 1⟩ ⟨[("id", "5")]⟩, .onOpen ⟨9, 1⟩ ⟨[("id", "9")]⟩,
        .onMessage ⟨9, 1⟩ .frameText
          "\x7b\"type\":\"text\",\"sender\":9,\"recipients\":[5],\"body\":\"hi\"\x7d",
        .onSent 0 .none 2] = some t ∧ t.received 5 = 1 := by
  obtain ⟨t, ht⟩ : ∃ t, run defaultEnv 1 (initial : ChatServer MessagePayload)
      [.onOpen ⟨5, 1⟩ ⟨[("id", "5")]⟩, .onOpen ⟨9, 1⟩ ⟨[("id", "9")]⟩,
        .onMessage ⟨9, 1⟩ .frameText
          "\x7b\"type\":\"text\",\"sender\":9,\"recipients\":[5],\"body\":\"hi\"\x7d",
        .onSent 0 .none 2] = some t := ⟨_, rfl⟩
  refine ⟨t, ht, ?_⟩
  rw [(run_received defaultEnv 1 5 _ initial t ht).1]
  rfl

end ChatServer

end Scatter
