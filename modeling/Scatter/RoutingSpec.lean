import Scatter.Routing

/-! Spec lemmas of the routing path, one per function, so that later proofs never
unfold it: what `handleUndeliverable`, `recordMessageSent`, `sendTo` and `send` change. -/

namespace Scatter

namespace ConnectionStorage

theorem exists_iff_size (st : ConnectionStorage) (id : UserId) : st.exists id = true ↔ st.size id ≠ 0 := by
  simp [«exists», size, slotsOf, List.length_eq_zero, List.filter_eq_nil_iff]

theorem mem_remove {st : ConnectionStorage} {id : UserId} {cid : ConnId} {sl : Slot} :
    sl ∈ (st.remove id cid).slots ↔ sl ∈ st.slots ∧ sl.key ≠ (id, cid) := by
  simp [remove, keep]

theorem mem_slotsOf {st : ConnectionStorage} {id : UserId} {sl : Slot} :
    sl ∈ st.slotsOf id ↔ sl ∈ st.slots ∧ sl.user = id := by
  simp [slotsOf]

/-- Two entries of one storage with the same key are the same entry. -/
theorem eq_of_key_eq (st : ConnectionStorage) {a b : Slot} (ha : a ∈ st.slots) (hb : b ∈ st.slots)
    (h : a.key = b.key) : a = b :=
  List.inj_on_of_nodup_map st.nodup ha hb h

end ConnectionStorage

namespace ChatServer

variable {P : Type} (env : Env P)

theorem push_undelivered (s : ChatServer P) (id : UserId) (p : P) (v : UserId) :
    (s.push id p).undeliveredMessagesMap v =
      s.undeliveredMessagesMap v ++ if v = id then [p] else [] := by
  by_cases h : v = id
  · subst h; simp [push]
  · simp [push, h]

theorem handleUndeliverable_eq (s : ChatServer P) (uid : UserId) (p : P) :
    handleUndeliverable env s uid p =
      if env.enableUndeliveredQueue then s.push uid (env.payload.setRecipient p uid) else s := by
  unfold handleUndeliverable enqueueUndeliveredMessage
  cases env.enableUndeliveredQueue <;> simp

/-- Receive counters for every recipient leave everything but the statistics alone. -/
theorem foldl_updateStat (l : List UserId) (b : Bool) (f : Statistics → Statistics) :
    ∀ s : ChatServer P, ∃ st, l.foldl (fun s i => if b then s.updateStat i f else s) s =
      { s with statistics := st } := by
  induction l with
  | nil => exact fun s => ⟨s.statistics, rfl⟩
  | cons i l ih =>
    intro s
    obtain ⟨st, h⟩ := ih (if b then s.updateStat i f else s)
    exact ⟨st, by rw [List.foldl_cons, h]; cases b <;> rfl⟩

/-- `recordMessageSent` changes the statistics only. -/
theorem recordMessageSent_eq (s : ChatServer P) (p : P) (n : Nat) (b : Bool) :
    ∃ st, recordMessageSent env s p n b = { s with statistics := st } := by
  unfold recordMessageSent
  split
  · exact ⟨s.statistics, rfl⟩
  · obtain ⟨st, h⟩ := foldl_updateStat (env.payload.getRecipients p) b
      (fun st => st.addReceivedMessage.addBytesTransferred n)
      (s.updateStat (env.payload.getSender p) fun st => st.addSendMessage.addBytesTransferred n)
    exact ⟨st, h⟩

theorem recordMessageSent_sentStatus (s : ChatServer P) (p : P) (n : Nat) (b : Bool)
    (h : env.payload.isTypeOfSentStatus p = true) : recordMessageSent env s p n b = s := by
  simp [recordMessageSent, h]

/-- The sends `sendTo`'s loop issues over `slots`: one per non-null entry, in order. -/
def slotSends (recipient : UserId) (payload : P) (payloadString : String) (slots : List Slot) :
    List (Send P) :=
  slots.filterMap fun sl => sl.connection.map fun c => ⟨c, payloadString, .message recipient payload sl.cid⟩

/-- The storage after `sendTo`'s loop: the null entries of `slots` are removed. -/
def removeNull (recipient : UserId) (slots : List Slot) (st : ConnectionStorage) : ConnectionStorage :=
  slots.foldl (fun st sl => if sl.connection.isNone then st.remove recipient sl.cid else st) st

theorem foldl_sendToSlot (r : UserId) (p : P) (str : String) (slots : List Slot) :
    ∀ s : ChatServer P, slots.foldl (sendToSlot r p str) s =
      { s with connectionStorage := removeNull r slots s.connectionStorage
               inflight := s.inflight ++ slotSends r p str slots
               log := s.log ++ (slotSends r p str slots).map .send } := by
  induction slots with
  | nil => intro s; simp [slotSends, removeNull]
  | cons sl rest ih =>
    intro s
    rw [List.foldl_cons, ih]
    cases h : sl.connection <;> simp [sendToSlot, h, slotSends, removeNull, issue, setStorage]

theorem removeNull_of_live (r : UserId) (slots : List Slot) (st : ConnectionStorage)
    (h : ∀ sl ∈ slots, sl.connection.isSome) : removeNull r slots st = st := by
  induction slots generalizing st with
  | nil => rfl
  | cons sl rest ih =>
    have hs : sl.connection.isNone = false := by simpa using h sl (List.mem_cons_self _ _)
    show removeNull r rest (if sl.connection.isNone then st.remove r sl.cid else st) = st
    simp only [hs, Bool.false_eq_true, ↓reduceIte]
    exact ih st fun x hx => h x (List.mem_cons_of_mem _ hx)

/-- Removing the null entries of a snapshot of `st0` keeps every live entry of `st0`. -/
theorem mem_removeNull (st0 : ConnectionStorage) (r : UserId) (sl : Slot) (hsl : sl ∈ st0.slots)
    (hlive : sl.connection.isSome) (slots : List Slot)
    (hsnap : ∀ x ∈ slots, x ∈ st0.slots ∧ x.user = r) :
    ∀ st, sl ∈ st.slots → sl ∈ (removeNull r slots st).slots := by
  induction slots with
  | nil => exact fun _ h => h
  | cons x rest ih =>
    intro st hst
    apply ih (fun y hy => hsnap y (List.mem_cons_of_mem _ hy))
    obtain ⟨hx0, hxr⟩ := hsnap x (List.mem_cons_self _ _)
    by_cases hx : x.connection.isNone
    · simp only [removeNull, hx, if_true, ConnectionStorage.mem_remove]
      refine ⟨hst, fun hk => ?_⟩
      have := st0.eq_of_key_eq hsl hx0 (by rw [hk, ← hxr]; rfl)
      subst this
      simp_all
    · simpa [hx] using hst

theorem sendTo_offline (s : ChatServer P) (r : UserId) (p : P)
    (h : s.connectionStorage.size r = 0) :
    sendTo env s r p = recordMessageSent env (handleUndeliverable env s r p)
      (env.payload.setRecipient p r) (env.payload.toJson p).utf8ByteSize false := by
  simp [sendTo, sendToAfterCheck, h]

theorem sendTo_online (s : ChatServer P) (r : UserId) (p : P)
    (h : s.connectionStorage.size r ≠ 0) :
    sendTo env s r p = (s.connectionStorage.slotsOf r).foldl
      (sendToSlot r p (env.payload.toJson p)) s := by
  have hx := (ConnectionStorage.exists_iff_size _ _).mpr h
  simp [sendTo, sendToAfterCheck, h, ConnectionStorage.get, hx]

/-- Over the recipients of `send`, a field every `sendTo` keeps is kept. -/
theorem foldl_sendTo_preserves {α : Type} (f : ChatServer P → α) (p : P)
    (hf : ∀ s r, f (sendTo env s r p) = f s) (l : List UserId) :
    ∀ s, f (l.foldl (fun s uid => if uid == 0 then s else sendTo env s uid p) s) = f s := by
  induction l with
  | nil => exact fun _ => rfl
  | cons r l ih => intro s; rw [List.foldl_cons, ih]; split <;> simp [hf]

section Frame

variable (s : ChatServer P) (r : UserId) (p : P) (n : Nat) (b : Bool)

@[simp] theorem handleUndeliverable_connectionStorage :
    (handleUndeliverable env s r p).connectionStorage = s.connectionStorage := by
  rw [handleUndeliverable_eq]; split <;> rfl

@[simp] theorem handleUndeliverable_frameBuffer :
    (handleUndeliverable env s r p).frameBuffer = s.frameBuffer := by
  rw [handleUndeliverable_eq]; split <;> rfl

@[simp] theorem handleUndeliverable_statistics :
    (handleUndeliverable env s r p).statistics = s.statistics := by
  rw [handleUndeliverable_eq]; split <;> rfl

@[simp] theorem handleUndeliverable_inflight :
    (handleUndeliverable env s r p).inflight = s.inflight := by
  rw [handleUndeliverable_eq]; split <;> rfl

@[simp] theorem handleUndeliverable_log : (handleUndeliverable env s r p).log = s.log := by
  rw [handleUndeliverable_eq]; split <;> rfl

@[simp] theorem recordMessageSent_connectionStorage :
    (recordMessageSent env s p n b).connectionStorage = s.connectionStorage := by
  obtain ⟨st, h⟩ := recordMessageSent_eq env s p n b; rw [h]

@[simp] theorem recordMessageSent_frameBuffer :
    (recordMessageSent env s p n b).frameBuffer = s.frameBuffer := by
  obtain ⟨st, h⟩ := recordMessageSent_eq env s p n b; rw [h]

@[simp] theorem recordMessageSent_undelivered :
    (recordMessageSent env s p n b).undeliveredMessagesMap = s.undeliveredMessagesMap := by
  obtain ⟨st, h⟩ := recordMessageSent_eq env s p n b; rw [h]

@[simp] theorem recordMessageSent_inflight :
    (recordMessageSent env s p n b).inflight = s.inflight := by
  obtain ⟨st, h⟩ := recordMessageSent_eq env s p n b; rw [h]

@[simp] theorem recordMessageSent_log : (recordMessageSent env s p n b).log = s.log := by
  obtain ⟨st, h⟩ := recordMessageSent_eq env s p n b; rw [h]

end Frame

theorem slotsOf_eq_nil {st : ConnectionStorage} {r : UserId} (h : st.size r = 0) :
    st.slotsOf r = [] :=
  List.length_eq_zero.mp h

/-- `sendTo` issues one send per live entry of the recipient, null or offline alike. -/
theorem sendTo_inflight (s : ChatServer P) (r : UserId) (p : P) :
    (sendTo env s r p).inflight =
      s.inflight ++ slotSends r p (env.payload.toJson p) (s.connectionStorage.slotsOf r) := by
  by_cases h : s.connectionStorage.size r = 0
  · simp [sendTo_offline env s r p h, slotsOf_eq_nil h, slotSends]
  · simp [sendTo_online env s r p h, foldl_sendToSlot]

theorem sendTo_log (s : ChatServer P) (r : UserId) (p : P) :
    (sendTo env s r p).log =
      s.log ++ (slotSends r p (env.payload.toJson p) (s.connectionStorage.slotsOf r)).map .send := by
  by_cases h : s.connectionStorage.size r = 0
  · simp [sendTo_offline env s r p h, slotsOf_eq_nil h, slotSends]
  · simp [sendTo_online env s r p h, foldl_sendToSlot]

/-- `sendTo` queues a copy exactly when the recipient has no entry at all. -/
theorem sendTo_undelivered (s : ChatServer P) (r : UserId) (p : P) (v : UserId) :
    (sendTo env s r p).undeliveredMessagesMap v = s.undeliveredMessagesMap v ++
      if env.enableUndeliveredQueue ∧ v = r ∧ s.connectionStorage.size r = 0
      then [env.payload.setRecipient p r] else [] := by
  by_cases h : s.connectionStorage.size r = 0
  · rw [sendTo_offline env s r p h, recordMessageSent_undelivered, handleUndeliverable_eq]
    by_cases hq : env.enableUndeliveredQueue <;> simp [hq, h, push_undelivered]
  · simp [sendTo_online env s r p h, foldl_sendToSlot, h]

theorem sendTo_connectionStorage (s : ChatServer P) (r : UserId) (p : P) :
    (sendTo env s r p).connectionStorage =
      removeNull r (s.connectionStorage.slotsOf r) s.connectionStorage := by
  by_cases h : s.connectionStorage.size r = 0
  · simp [sendTo_offline env s r p h, slotsOf_eq_nil h, removeNull]
  · simp [sendTo_online env s r p h, foldl_sendToSlot]

@[simp] theorem sendTo_frameBuffer (s : ChatServer P) (r : UserId) (p : P) :
    (sendTo env s r p).frameBuffer = s.frameBuffer := by
  by_cases h : s.connectionStorage.size r = 0
  · simp [sendTo_offline env s r p h]
  · simp [sendTo_online env s r p h, foldl_sendToSlot]

@[simp] theorem send_frameBuffer (s : ChatServer P) (p : P) :
    (send env s p).frameBuffer = s.frameBuffer := by
  unfold send
  split
  · rfl
  · rw [foldl_sendTo_preserves env ChatServer.frameBuffer p (fun s r => sendTo_frameBuffer env s r p)]; rfl

@[simp] theorem onMessageSent_frameBuffer (s : ChatServer P) (p : P) (n : Nat) (b : Bool) :
    (onMessageSent env s p n b).frameBuffer = s.frameBuffer := by
  unfold onMessageSent
  split
  · rfl
  · split <;> simp

end ChatServer

end Scatter
