import Scatter.HandlersSpec

/-! The connection and disconnection counters of `getStat(u)`. `onConnected` counts each
registration and `onDisconnected` each close it sees while the user still has an entry;
no other handler touches either counter.

* `counts_after_run`: over any run, each counter grows by its tally of events, so the
  disconnection counter grows by at most the closes of the user's connections.
* `close_uncounted_after_ping_failure`: a connection the watchdog has already removed is
  not counted when its close arrives. -/

namespace Scatter

namespace ChatServer

variable {P : Type} (env : Env P)

/-- `getStat(u)`'s connection and disconnection counters. -/
def counts (s : ChatServer P) (u : UserId) : Nat × Nat :=
  (((s.statistics u).getD {}).connections, ((s.statistics u).getD {}).disconnections)

/-- A statistics update that leaves both counters alone. -/
def KeepsCounts (f : Statistics → Statistics) : Prop :=
  ∀ st, (f st).connections = st.connections ∧ (f st).disconnections = st.disconnections

@[simp] theorem counts_emit (s : ChatServer P) (e : Effect P) : (s.emit e).counts = s.counts := rfl

@[simp] theorem counts_setStorage (s : ChatServer P) (st : ConnectionStorage) :
    (s.setStorage st).counts = s.counts := rfl

theorem counts_eq_of_statistics {s t : ChatServer P} (h : t.statistics = s.statistics) :
    t.counts = s.counts := by
  funext u; simp [counts, h]

@[simp] theorem counts_closePriorConnections (s : ChatServer P) (id : UserId) :
    (closePriorConnections env s id).counts = s.counts :=
  counts_eq_of_statistics (closePriorConnections_statistics env s id)

theorem counts_updateStat (s : ChatServer P) (id : UserId) (f : Statistics → Statistics)
    (hf : KeepsCounts f) : (s.updateStat id f).counts = s.counts := by
  funext u
  by_cases h : u = id
  · subst h; simp [counts, updateStat, (hf _).1, (hf _).2]
  · simp [counts, updateStat, h]

theorem counts_addConnection (s : ChatServer P) (id u : UserId) :
    (s.updateStat id Statistics.addConnection).counts u =
      ((s.counts u).1 + if u = id then 1 else 0, (s.counts u).2) := by
  by_cases h : u = id
  · subst h; simp [counts, updateStat, Statistics.addConnection]
  · simp [counts, updateStat, h]

theorem counts_addDisconnection (s : ChatServer P) (id u : UserId) :
    (s.updateStat id Statistics.addDisconnection).counts u =
      ((s.counts u).1, (s.counts u).2 + if u = id then 1 else 0) := by
  by_cases h : u = id
  · subst h; simp [counts, updateStat, Statistics.addDisconnection]
  · simp [counts, updateStat, h]

/-- A fold of steps that each keep a projection keeps it. -/
theorem foldl_keeps {α β : Type} (f : ChatServer P → β) (step : ChatServer P → α → ChatServer P)
    (h : ∀ s x, f (step s x) = f s) : ∀ (l : List α) s, f (l.foldl step s) = f s
  | [], _ => rfl
  | x :: l, s => (foldl_keeps f step h l (step s x)).trans (h s x)

theorem recordMessageSent_counts (s : ChatServer P) (p : P) (n : Nat) (b : Bool) :
    (recordMessageSent env s p n b).counts = s.counts := by
  unfold recordMessageSent
  split
  · rfl
  · rw [foldl_keeps counts _ (fun s i => by
        split
        · exact counts_updateStat _ _ _ fun st => by
            simp [Statistics.addReceivedMessage, Statistics.addBytesTransferred]
        · rfl),
      counts_updateStat _ _ _ fun st => by
        simp [Statistics.addSendMessage, Statistics.addBytesTransferred]]

theorem sendTo_counts (s : ChatServer P) (r : UserId) (p : P) :
    (sendTo env s r p).counts = s.counts := by
  by_cases h : s.connectionStorage.size r = 0
  · rw [sendTo_offline env s r p h, recordMessageSent_counts]
    exact counts_eq_of_statistics (handleUndeliverable_statistics env s r p)
  · rw [sendTo_online env s r p h, foldl_sendToSlot]; rfl

theorem send_counts (s : ChatServer P) (p : P) : (send env s p).counts = s.counts := by
  unfold send
  split
  · rfl
  · rw [foldl_sendTo_preserves env counts p (fun s r => sendTo_counts env s r p)]; rfl

theorem onMessageSent_counts (s : ChatServer P) (p : P) (n : Nat) (b : Bool) :
    (onMessageSent env s p n b).counts = s.counts := by
  unfold onMessageSent
  split
  · rfl
  · split <;> simp only [send_counts, recordMessageSent_counts]

theorem routePayload_counts (s : ChatServer P) (c : Connection) (p : P) :
    (routePayload env s c p).counts = s.counts := by
  unfold routePayload
  split
  · rfl
  · simp only [send_counts]; split
    · exact sendTo_counts env s _ p
    · rfl

theorem onMessage_counts (s : ChatServer P) (c : Connection) (op : Opcode) (data : String) :
    (onMessage env s c op data).counts = s.counts := by
  unfold onMessage
  split
  · exact routePayload_counts env s c _
  · exact routePayload_counts env s c _
  · rfl
  · rfl
  · rfl
  · dsimp only
    split
    · exact counts_eq_of_statistics (by simp [readFrameBuffer]; split <;> rfl)
    · rw [routePayload_counts]; exact counts_eq_of_statistics (by simp [readFrameBuffer]; split <;> rfl)
  · exact routePayload_counts env s c _
  · exact routePayload_counts env s c _

theorem complete_counts (s : ChatServer P) (snd : Send P) (err : ErrorCode) (n : Nat) :
    (complete env s snd err n).counts = s.counts := by
  unfold complete
  split
  · split
    · exact counts_eq_of_statistics (by simp only [handleUndeliverable_statistics]; split <;> rfl)
    · exact onMessageSent_counts env s _ n true
  · split <;> rfl

theorem redeliverLoop_counts (u : UserId) :
    ∀ fuel (s : ChatServer P) cnt r, redeliverLoop env fuel s u cnt = some r →
      r.1.counts = s.counts := by
  intro fuel
  induction fuel with
  | zero => intro s cnt r h; cases h
  | succ n ih =>
    intro s cnt r h
    simp only [redeliverLoop] at h
    split at h
    · cases h; rfl
    · rw [ih _ _ _ h, send_counts]; rfl

theorem watchdogPing_counts (s : ChatServer P) (inactive : UserId → Int) :
    (watchdogPing env s inactive).counts = s.counts := by
  unfold watchdogPing
  refine foldl_keeps counts _ (fun s sl => ?_) _ _
  have hid : (s.updateStat sl.user id).counts = s.counts :=
    counts_updateStat _ _ _ fun _ => ⟨rfl, rfl⟩
  unfold watchdogSlot
  split
  · exact hid
  · split
    · exact hid
    · exact hid

theorem watchdogDisconnect_counts (s : ChatServer P) :
    (watchdogDisconnect s).counts = s.counts := by
  rw [watchdogDisconnect_eq]; rfl

/-- `1` for a transport close that `onDisconnected` counts for `u`: the connection's id is
`u`, and `u` has an entry in the registry. -/
def closeCounted (s : ChatServer P) (u : UserId) : Event → Nat
  | .onClose c => if c.id = u ∧ s.connectionStorage.exists u = true then 1 else 0
  | _ => 0

/-- `1` for an open that registers its connection under `u`. -/
def openCounted (s : ChatServer P) (u : UserId) : Event → Nat
  | .onOpen c r => match onConnectedAdd env s c r with
    | .ok (_, some id) => if u = id then 1 else 0
    | _ => 0
  | _ => 0

theorem onConnected_counts (fuel : Nat) (s t : ChatServer P) (c : Connection) (r : Request)
    (h : onConnected env fuel s c r = some (.ok t)) (u : UserId) :
    t.counts u = ((s.counts u).1 + openCounted env s u (.onOpen c r), (s.counts u).2) := by
  unfold onConnected at h
  rcases onConnectedAdd_cases env s c r with ⟨st, reason, he⟩ | ⟨id, he⟩ | ⟨e, he⟩ <;>
    simp only [he] at h
  · cases h; simp [openCounted, he]
  · obtain ⟨⟨t', n⟩, hl, ht⟩ := Option.map_eq_some'.mp h
    cases ht
    rcases redeliverMessagesTo_cases env fuel _ id _ hl with hr | hr
    · cases hr; simp [openCounted, he, counts_addConnection]
    · rw [redeliverLoop_counts env id fuel _ 0 _ hr]; simp [openCounted, he, counts_addConnection]
  · cases h

theorem onDisconnected_counts (s : ChatServer P) (c : Connection) (u : UserId) :
    (onDisconnected s c).counts u = ((s.counts u).1, (s.counts u).2 + closeCounted s u (.onClose c)) := by
  unfold onDisconnected closeCounted
  by_cases hx : s.connectionStorage.exists c.id = true
  · rw [if_neg (by simpa using hx), counts_setStorage, counts_addDisconnection]
    by_cases hu : u = c.id
    · subst hu; simp [hx]
    · simp [hu, Ne.symm hu]
  · rw [if_pos (by simpa using hx)]
    by_cases hu : c.id = u
    · subst hu; simp [hx]
    · simp [hu]

/-- What one event does to `u`'s counters. -/
theorem handle_counts (fuel : Nat) (s t : ChatServer P) (e : Event)
    (h : handle env fuel s e = some t) (u : UserId) :
    t.counts u = ((s.counts u).1 + openCounted env s u e, (s.counts u).2 + closeCounted s u e) := by
  cases e with
  | onOpen c r =>
    obtain ⟨x, hx, rfl⟩ := Option.map_eq_some'.mp h
    cases x with
    | ok t' => simp [onConnected_counts env fuel s t' c r hx, closeCounted]
    | error =>
      have : openCounted env s u (.onOpen c r) = 0 := by
        unfold onConnected at hx
        unfold openCounted
        split at hx <;> simp_all
      simp [this, closeCounted]
  | onClose c =>
    cases h
    simp [onDisconnected_counts, openCounted]
  | onMessage c op data =>
    simp only [handle, Option.some.injEq] at h
    subst h
    split
    · simp [onPong, counts, openCounted, closeCounted]
    · simp [onMessage_counts, openCounted, closeCounted]
  | onSent i err n =>
    obtain ⟨snd, _, rfl⟩ := Option.map_eq_some'.mp h
    rw [complete_counts]
    rfl
  | watchdogPing inactive =>
    simp only [handle, Option.some.injEq] at h
    subst h
    simp [watchdogPing_counts, openCounted, closeCounted]
  | watchdogDisconnect =>
    simp only [handle, Option.some.injEq] at h
    subst h
    simp [watchdogDisconnect_counts, openCounted, closeCounted]

/-- The sum of `count` over the events of a run, each taken in the state before it. -/
def tally (count : ChatServer P → Event → Nat) (fuel : Nat) : ChatServer P → List Event → Nat
  | _, [] => 0
  | s, e :: es => count s e + match handle env fuel s e with
    | some t => tally count fuel t es
    | none => 0

/-- The transport closes in `es` of a connection with id `u`. -/
def closesOf (u : UserId) (es : List Event) : Nat :=
  es.countP fun
    | .onClose c => c.id == u
    | _ => false

theorem tally_closeCounted_le (fuel : Nat) (u : UserId) :
    ∀ (es : List Event) (s : ChatServer P),
      tally env (fun s e => closeCounted s u e) fuel s es ≤ closesOf u es
  | [], _ => le_refl _
  | e :: es, s => by
    have ih : ∀ t, tally env (fun s e => closeCounted s u e) fuel t es ≤ closesOf u es :=
      tally_closeCounted_le fuel u es
    have he : closeCounted s u e ≤ closesOf u [e] := by
      cases e <;> simp [closeCounted, closesOf]
      split <;> simp_all
    have hcons : closesOf u (e :: es) = closesOf u [e] + closesOf u es := by
      unfold closesOf; rw [← List.singleton_append, List.countP_append]
    simp only [tally, hcons]
    split
    · exact Nat.add_le_add he (ih _)
    · omega

/-- **The counters over a run.** After any run from any state, `u`'s connection counter has
grown by the opens registered under `u`, and its disconnection counter by the closes of
connections with id `u` processed while `u` still had an entry in the registry; so by at
most the closes of connections with id `u`. -/
theorem counts_after_run (fuel : Nat) (u : UserId) (es : List Event) (s t : ChatServer P)
    (h : run env fuel s es = some t) :
    t.counts u = ((s.counts u).1 + tally env (fun s e => openCounted env s u e) fuel s es,
      (s.counts u).2 + tally env (fun s e => closeCounted s u e) fuel s es) ∧
    (t.counts u).2 ≤ (s.counts u).2 + closesOf u es := by
  have hrun : ∀ (es : List Event) (s t : ChatServer P), run env fuel s es = some t →
      t.counts u = ((s.counts u).1 + tally env (fun s e => openCounted env s u e) fuel s es,
        (s.counts u).2 + tally env (fun s e => closeCounted s u e) fuel s es) := by
    intro es
    induction es with
    | nil => intro s t h; cases h; simp [tally]
    | cons e es ih =>
      intro s t h
      obtain ⟨s', h1, h2⟩ := Option.bind_eq_some.mp h
      rw [ih s' t h2, handle_counts env fuel s s' e h1 u]
      simp only [tally, h1, Prod.mk.injEq]
      omega
  refine ⟨hrun es s t h, ?_⟩
  rw [hrun es s t h]
  exact Nat.add_le_add_left (tally_closeCounted_le env fuel u es s) _

theorem counts_after_run_open_close :
    ∃ t, run defaultEnv 1 initial [.onOpen ⟨7, 1⟩ ⟨[("id", "7")]⟩, .onClose ⟨7, 1⟩] = some t ∧
      (t.counts 7 : Nat × Nat) = (1, 1) := by
  obtain ⟨t, ht⟩ : ∃ t, run defaultEnv 1 (initial : ChatServer MessagePayload)
      [.onOpen ⟨7, 1⟩ ⟨[("id", "7")]⟩, .onClose ⟨7, 1⟩] = some t := ⟨_, rfl⟩
  refine ⟨t, ht, ?_⟩
  rw [(counts_after_run defaultEnv 1 7 _ _ t ht).1]
  rfl

/-- User `7` opens, the watchdog's ping fails and removes the connection, then the transport
reports its close: one connection counted, no disconnection. -/
theorem close_uncounted_after_ping_failure :
    ∃ t, run defaultEnv 1 initial [.onOpen ⟨7, 1⟩ ⟨[("id", "7")]⟩, .watchdogPing (fun _ => 0),
      .onSent 0 .other 1, .onClose ⟨7, 1⟩] = some t ∧ (t.counts 7 : Nat × Nat) = (1, 0) :=
  ⟨_, rfl, rfl⟩

end ChatServer

end Scatter
