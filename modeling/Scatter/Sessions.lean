import Scatter.Registry
import Scatter.Invariant

/-! What the handlers do to the registry. Over a registry without null entries, which every
run from the initial state keeps (`live_closed`), each event performs a short list of registry
operations read off its callback (`regOps`), and nothing else touches the registry: routing,
the drain, the delivery status and the watchdog's ping round leave it as it is. A run's
registry is therefore its events' operations applied in order (`run_registry`), and seen at
one key, the entry of a connection is decided by the last operation that names it
(`run_last_write_decides`). -/

namespace Scatter

namespace ChatServer

variable {P : Type} (env : Env P)

/-- The registry operations of a send's completion handler. -/
def completeOps (snd : Send P) (err : ErrorCode) : List RegOp :=
  match snd.callback with
  | .message recipient _ cid => if err = .brokenPipe then [.remove recipient cid] else []
  | .ping connection =>
    if err = .none then [.setPongWait connection true] else [.remove connection.id connection.uniqueId]

/-- The registry operations event `e` performs in state `s`. -/
def regOps (s : ChatServer P) : Event → List RegOp
  | .onOpen c r => match onConnectedAdd env s c r with
    | .ok (_, some id) => [.add id c]
    | _ => []
  | .onClose c => if s.connectionStorage.exists c.id then [.remove c.id c.uniqueId] else []
  | .onMessage c op _ => if op = .pong then [.setPongWait c false] else []
  | .onSent i err _ => match s.inflight[i]? with
    | some snd => completeOps snd err
    | none => []
  | .watchdogPing _ => []
  | .watchdogDisconnect => [.sweep]

/-- The registry operations of a run, event by event, up to the first event that fails. -/
def regTrace (fuel : Nat) : ChatServer P → List Event → List RegOp
  | _, [] => []
  | s, e :: es => match handle env fuel s e with
    | some t => regOps env s e ++ regTrace fuel t es
    | none => []

theorem regTrace_cons (fuel : Nat) {s t : ChatServer P} {e : Event} (es : List Event)
    (h : handle env fuel s e = some t) :
    regTrace env fuel s (e :: es) = regOps env s e ++ regTrace env fuel t es := by
  simp only [regTrace, h]

/-! Over a registry without null entries, routing and the watchdog's ping round leave the
registry as it is: the only removals they perform are of null entries. -/

theorem send_registry (s : ChatServer P) (p : P) (hlive : s.connectionStorage.Live) :
    (send env s p).connectionStorage = s.connectionStorage :=
  send_preserves env (fun t => t.connectionStorage = s.connectionStorage) p (fun _ h => h)
    (fun t r h => ((sentTo_sendTo env t r p (h ▸ hlive)).connectionStorage).trans h) s rfl

theorem onMessageSent_registry (s : ChatServer P) (p : P) (n : Nat) (b : Bool)
    (hlive : s.connectionStorage.Live) :
    (onMessageSent env s p n b).connectionStorage = s.connectionStorage := by
  have hr := recordMessageSent_connectionStorage env s p n b
  unfold onMessageSent
  split
  · rfl
  · dsimp only
    split
    · exact (send_registry env _ _ (hr ▸ hlive)).trans hr
    · exact hr

theorem routePayload_registry (s : ChatServer P) (c : Connection) (p : P)
    (hlive : s.connectionStorage.Live) :
    (routePayload env s c p).connectionStorage = s.connectionStorage := by
  unfold routePayload
  split
  · rfl
  · dsimp only
    split
    · have h := (sentTo_sendTo env s (env.payload.getSender p) p hlive).connectionStorage
      exact (send_registry env _ p (h ▸ hlive)).trans h
    · exact send_registry env s p hlive

theorem onMessage_registry (s : ChatServer P) (c : Connection) (op : Opcode) (data : String)
    (hlive : s.connectionStorage.Live) :
    (onMessage env s c op data).connectionStorage = s.connectionStorage := by
  have hread : (s.readFrameBuffer c.id true).1.connectionStorage = s.connectionStorage := by
    unfold readFrameBuffer; split <;> rfl
  unfold onMessage
  split
  · exact routePayload_registry env s c _ hlive
  · exact routePayload_registry env s c _ hlive
  · rfl
  · rfl
  · rfl
  · dsimp only
    split
    · exact hread
    · exact (routePayload_registry env _ c _ (hread ▸ hlive)).trans hread
  · exact routePayload_registry env s c _ hlive
  · exact routePayload_registry env s c _ hlive

theorem redeliverLoop_registry (u : UserId) : ∀ fuel (s : ChatServer P) cnt r,
    s.connectionStorage.Live → redeliverLoop env fuel s u cnt = some r →
    r.1.connectionStorage = s.connectionStorage := by
  intro fuel
  induction fuel with
  | zero => intro _ _ _ _ h; cases h
  | succ fuel ih =>
    intro s cnt r hlive h
    simp only [redeliverLoop] at h
    split at h
    · cases h; rfl
    · rename_i p _ _
      have hsend := send_registry env (s.pop u) p hlive
      exact (ih _ _ r (hsend ▸ hlive) h).trans hsend

/-- One live entry of the watchdog's tick: a close of its connection when its user has been
inactive for the lifetime, otherwise a ping, put in flight; the registry is left as it is. -/
theorem watchdogSlot_live (lifetime : Int) (inactive : UserId → Int) (t : ChatServer P)
    (sl : Slot) (c : Connection) (hc : sl.connection = some c) :
    (watchdogSlot lifetime inactive t sl).connectionStorage = t.connectionStorage ∧
    ((lifetime ≤ inactive sl.user ∧ ∃ r, (watchdogSlot lifetime inactive t sl).log =
        t.log ++ [.sendClose c .inactiveConnection r] ∧
        (watchdogSlot lifetime inactive t sl).inflight = t.inflight) ∨
      (inactive sl.user < lifetime ∧
        (watchdogSlot lifetime inactive t sl).log = t.log ++ [.send ⟨c, ".", .ping c⟩] ∧
        (watchdogSlot lifetime inactive t sl).inflight = t.inflight ++ [⟨c, ".", .ping c⟩])) := by
  simp only [watchdogSlot, hc]
  split
  · exact ⟨rfl, .inl ⟨‹_›, _, rfl, rfl⟩⟩
  · exact ⟨rfl, .inr ⟨lt_of_not_le ‹_›, rfl, rfl⟩⟩

theorem watchdogPing_registry (s : ChatServer P) (inactive : UserId → Int)
    (hlive : s.connectionStorage.Live) :
    (watchdogPing env s inactive).connectionStorage = s.connectionStorage := by
  have hfold : ∀ l : List Slot, (∀ sl ∈ l, sl.connection.isSome) → ∀ t : ChatServer P,
      (l.foldl (watchdogSlot env.connectionLifetimeSeconds inactive) t).connectionStorage =
        t.connectionStorage := by
    intro l
    induction l with
    | nil => exact fun _ _ => rfl
    | cons sl l ih =>
      intro hl t
      obtain ⟨c, hc⟩ := Option.isSome_iff_exists.mp (hl sl (List.mem_cons_self _ _))
      rw [List.foldl_cons, ih (fun x hx => hl x (List.mem_cons_of_mem _ hx)),
        (watchdogSlot_live _ _ t sl c hc).1]
  exact hfold _ hlive s

theorem complete_registry (s : ChatServer P) (snd : Send P) (err : ErrorCode) (n : Nat)
    (hlive : s.connectionStorage.Live) :
    (complete env s snd err n).connectionStorage =
      RegOp.applyAll (completeOps snd err) s.connectionStorage := by
  cases hcb : snd.callback with
  | message r p cid =>
    cases err with
    | none => simpa [complete, completeOps, hcb] using onMessageSent_registry env s _ n true hlive
    | brokenPipe => simp [complete, completeOps, hcb]
    | other => simp [complete, completeOps, hcb]
  | ping c =>
    cases err <;> simp [complete, completeOps, hcb, ConnectionStorage.markPongWait,
      ConnectionStorage.removeConnection]

/-- **The registry effect of one event.** Over a registry without null entries, an event
changes the registry by exactly its operations `regOps`: routing, the drain after a connect,
the delivery status and the watchdog's ping round change nothing. -/
theorem handle_registry (fuel : Nat) (s t : ChatServer P) (e : Event)
    (hlive : s.connectionStorage.Live) (h : handle env fuel s e = some t) :
    t.connectionStorage = RegOp.applyAll (regOps env s e) s.connectionStorage := by
  cases e with
  | onOpen c r =>
    simp only [handle, onConnected, regOps] at h ⊢
    rcases onConnectedAdd_cases env s c r with ⟨st, reason, he⟩ | ⟨id, he⟩ | ⟨ex, he⟩ <;>
      rw [he] at h ⊢
    · cases h; rfl
    · obtain ⟨⟨t', n⟩, hl, rfl⟩ : ∃ r, redeliverMessagesTo env fuel _ id = some r ∧ r.1 = t := by
        simpa [Option.map_map] using h
      rcases redeliverMessagesTo_cases env fuel _ id _ hl with he' | hl'
      · cases he'; rfl
      · exact redeliverLoop_registry env id fuel _ 0 _ (hlive.add id c) hl'
    · cases h; rfl
  | onClose c =>
    cases h
    cases hex : s.connectionStorage.exists c.id <;>
      simp [onDisconnected, regOps, hex, ConnectionStorage.removeConnection]
  | onMessage c op data =>
    cases h
    simp only [regOps]
    split
    · rfl
    · exact onMessage_registry env s c op data hlive
  | onSent i err n =>
    obtain ⟨snd, hsnd, rfl⟩ := Option.map_eq_some'.mp h
    rw [List.get?_eq_getElem?] at hsnd
    simp only [regOps, hsnd]
    exact complete_registry env _ snd err n hlive
  | watchdogPing inactive => cases h; exact watchdogPing_registry env s inactive hlive
  | watchdogDisconnect => cases h; rw [watchdogDisconnect_eq]; rfl

/-- `handle_registry` along a run. -/
theorem run_applyAll (fuel : Nat) : ∀ (es : List Event) (s t : ChatServer P),
    s.connectionStorage.Live → run env fuel s es = some t →
    t.connectionStorage = RegOp.applyAll (regTrace env fuel s es) s.connectionStorage
  | [], _, _, _, h => by cases h; rfl
  | e :: es, s, t, hlive, h => by
    obtain ⟨s', h1, h2⟩ := Option.bind_eq_some.mp h
    rw [regTrace_cons env fuel es h1, RegOp.applyAll_append,
      ← handle_registry env fuel s s' e hlive h1]
    exact run_applyAll fuel es s' t ((live_closed env).after_handle fuel s s' e hlive h1) h2

/-- **Runs refine the registry machine.** From a registry without null entries (every state a
run from the initial state reaches), the registry after a run is the run's registry operations
applied in order to the registry before it, and the entry of each `(user, connection)` key is
what those operations, seen at that key alone, make of its entry before the run. -/
theorem run_registry (fuel : Nat) (es : List Event) (s t : ChatServer P)
    (hlive : s.connectionStorage.Live) (h : run env fuel s es = some t) :
    t.connectionStorage = RegOp.applyAll (regTrace env fuel s es) s.connectionStorage ∧
    ∀ k, t.connectionStorage.lookup k =
      (regTrace env fuel s es).foldl (fun e o => o.onKey k e) (s.connectionStorage.lookup k) := by
  have ht := run_applyAll env fuel es s t hlive h
  exact ⟨ht, fun k => ht ▸ RegOp.lookup_applyAll _ _⟩

/-- User `7` opens, is pinged, answers, the ping's send completes, and the watchdog sweeps:
the run's registry operations are the add, the pong, the completion's mark and the sweep. -/
theorem run_registry_ping_round :
    ∃ t, run defaultEnv 1 initial [.onOpen ⟨7, 1⟩ ⟨[("id", "7")]⟩, .watchdogPing (fun _ => 0),
        .onMessage ⟨7, 1⟩ .pong "", .onSent 0 .none 1, .watchdogDisconnect] = some t ∧
      regTrace defaultEnv 1 initial [.onOpen ⟨7, 1⟩ ⟨[("id", "7")]⟩, .watchdogPing (fun _ => 0),
        .onMessage ⟨7, 1⟩ .pong "", .onSent 0 .none 1, .watchdogDisconnect] =
        [.add 7 ⟨7, 1⟩, .setPongWait ⟨7, 1⟩ false, .setPongWait ⟨7, 1⟩ true, .sweep] ∧
      (t.connectionStorage = RegOp.applyAll (regTrace defaultEnv 1 initial
          [.onOpen ⟨7, 1⟩ ⟨[("id", "7")]⟩, .watchdogPing (fun _ => 0), .onMessage ⟨7, 1⟩ .pong "",
            .onSent 0 .none 1, .watchdogDisconnect]) ConnectionStorage.empty ∧
        ∀ k, t.connectionStorage.lookup k = (regTrace defaultEnv 1 initial
          [.onOpen ⟨7, 1⟩ ⟨[("id", "7")]⟩, .watchdogPing (fun _ => 0), .onMessage ⟨7, 1⟩ .pong "",
            .onSent 0 .none 1, .watchdogDisconnect]).foldl (fun e o => o.onKey k e)
          (ConnectionStorage.empty.lookup k)) := by
  obtain ⟨t, ht⟩ : ∃ t, run defaultEnv 1 (initial : ChatServer MessagePayload)
      [.onOpen ⟨7, 1⟩ ⟨[("id", "7")]⟩, .watchdogPing (fun _ => 0), .onMessage ⟨7, 1⟩ .pong "",
        .onSent 0 .none 1, .watchdogDisconnect] = some t := ⟨_, rfl⟩
  exact ⟨t, ht, rfl, run_registry defaultEnv 1 _ initial t (fun _ h => nomatch h) ht⟩

/-- **The last write decides.** Along any run from a registry without null entries, let `o` be
the last registry operation of the run that names the key `k`. If it is a ping's completion
without error (the mark) and a sweep of the watchdog follows, `k` has no entry at the end. If it
is the add of an open, `k` holds the added connection, awaiting no pong, through every later
sweep. If it is a pong, `k` holds the entry it had at the pong, with the mark cleared. -/
theorem run_last_write_decides (fuel : Nat) (es : List Event) (s t : ChatServer P)
    (hlive : s.connectionStorage.Live) (h : run env fuel s es = some t)
    (k : UserId × ConnId) (pre post : List RegOp) (o : RegOp)
    (htrace : regTrace env fuel s es = pre ++ o :: post) (hquiet : ∀ o' ∈ post, o'.writes k = false) :
    (∀ c, o = .setPongWait c true → k = (c.id, c.uniqueId) → RegOp.sweep ∈ post →
      t.connectionStorage.lookup k = none) ∧
    (∀ id c, o = .add id c → k = (id, c.uniqueId) →
      t.connectionStorage.lookup k = some (ConnectionStorage.added id c)) ∧
    (∀ c, o = .setPongWait c false → k = (c.id, c.uniqueId) →
      t.connectionStorage.lookup k =
        (pre.foldl (fun e o => o.onKey k e) (s.connectionStorage.lookup k)).map
          ({ · with pongWait := false })) := by
  have hk : t.connectionStorage.lookup k = if RegOp.sweep ∈ post
      then (o.onKey k (pre.foldl (fun e o => o.onKey k e) (s.connectionStorage.lookup k))).filter
        (!·.pongWait)
      else o.onKey k (pre.foldl (fun e o => o.onKey k e) (s.connectionStorage.lookup k)) := by
    rw [run_applyAll env fuel es s t hlive h, RegOp.lookup_applyAll, htrace, List.foldl_append,
      List.foldl_cons, RegOp.foldl_onKey_quiet post hquiet]
  refine ⟨?_, ?_, ?_⟩
  · rintro c rfl rfl hsweep
    rw [hk, if_pos hsweep]
    cases pre.foldl (fun e o => o.onKey (c.id, c.uniqueId) e) (s.connectionStorage.lookup _) <;>
      simp [RegOp.onKey, Option.filter]
  · rintro id c rfl rfl
    rw [hk]
    split <;> simp [RegOp.onKey, Option.filter, ConnectionStorage.added]
  · rintro c rfl rfl
    rw [hk]
    split <;> cases pre.foldl (fun e o => o.onKey (c.id, c.uniqueId) e) (s.connectionStorage.lookup _) <;>
      simp [RegOp.onKey, Option.filter]

/-- The run of `run_registry_ping_round`: the pong is processed before the ping's completion,
whose mark is then the last write to `(7, 1)`, and the sweep removes the connection. -/
theorem run_last_write_decides_pong_first :
    ∃ t, run defaultEnv 1 initial [.onOpen ⟨7, 1⟩ ⟨[("id", "7")]⟩, .watchdogPing (fun _ => 0),
        .onMessage ⟨7, 1⟩ .pong "", .onSent 0 .none 1, .watchdogDisconnect] = some t ∧
      t.connectionStorage.lookup (7, 1) = none := by
  obtain ⟨t, ht⟩ : ∃ t, run defaultEnv 1 (initial : ChatServer MessagePayload)
      [.onOpen ⟨7, 1⟩ ⟨[("id", "7")]⟩, .watchdogPing (fun _ => 0), .onMessage ⟨7, 1⟩ .pong "",
        .onSent 0 .none 1, .watchdogDisconnect] = some t := ⟨_, rfl⟩
  exact ⟨t, ht, (run_last_write_decides defaultEnv 1 _ initial t (fun _ h => nomatch h) ht (7, 1)
    [.add 7 ⟨7, 1⟩, .setPongWait ⟨7, 1⟩ false] [.sweep] (.setPongWait ⟨7, 1⟩ true) rfl
    (by decide)).1 ⟨7, 1⟩ rfl rfl (by decide)⟩

end ChatServer

end Scatter
