import Scatter.RoutingSpec
import Scatter.Handlers

/-! Spec lemmas of the handlers: what each callback can do, stated once. -/

namespace Scatter

namespace ChatServer

variable {P : Type} (env : Env P)

/-- `onConnected` before its drain either closes the connection, registers it under
the id it parsed (after the override's closes), or lets an exception escape. -/
theorem onConnectedAdd_cases (s : ChatServer P) (c : Connection) (r : Request) :
    (∃ st reason, onConnectedAdd env s c r = .ok (s.sendClose c st reason, none)) ∨
    (∃ id, onConnectedAdd env s c r =
      .ok (((closePriorConnections env s id).setStorage
          ((closePriorConnections env s id).connectionStorage.add id c)).updateStat id
          Statistics.addConnection, some id)) ∨
    (∃ e, onConnectedAdd env s c r = .error e) := by
  unfold onConnectedAdd
  split
  · exact .inl ⟨_, _, rfl⟩
  split
  · exact .inl ⟨_, _, rfl⟩
  split
  · exact .inl ⟨_, _, rfl⟩
  split
  · exact .inl ⟨_, _, rfl⟩
  · exact .inr (.inr ⟨_, rfl⟩)
  · exact .inr (.inl ⟨_, rfl⟩)

/-- A registering `onConnectedAdd` registers the id its `stoul` parsed. -/
theorem stoul_of_onConnectedAdd {s t : ChatServer P} {c : Connection} {r : Request} {id : UserId}
    (h : onConnectedAdd env s c r = .ok (t, some id)) : stoul (r.getParam "id") = .ok id := by
  unfold onConnectedAdd at h
  split at h
  · cases h
  split at h
  · cases h
  split at h
  · cases h
  split at h <;> cases h
  assumption

theorem redeliverMessagesTo_cases (fuel : Nat) (s : ChatServer P) (u : UserId)
    (r : ChatServer P × Nat) (h : redeliverMessagesTo env fuel s u = some r) :
    r = (s, 0) ∨ redeliverLoop env fuel s u 0 = some r := by
  unfold redeliverMessagesTo at h
  split at h
  · exact .inl (Option.some.inj h).symm
  split at h
  · exact .inl (Option.some.inj h).symm
  · exact .inr h

/-- `onConnected` finishing normally: it closed the connection, or registered it and
drained the queue of the id it parsed. -/
theorem onConnected_ok (fuel : Nat) (s t : ChatServer P) (c : Connection) (r : Request)
    (h : onConnected env fuel s c r = some (.ok t)) :
    (∃ st reason, t = s.sendClose c st reason) ∨
    (∃ id n, redeliverMessagesTo env fuel
      (((closePriorConnections env s id).setStorage
        ((closePriorConnections env s id).connectionStorage.add id c)).updateStat id
        Statistics.addConnection) id = some (t, n)) := by
  unfold onConnected at h
  rcases onConnectedAdd_cases env s c r with ⟨st, reason, he⟩ | ⟨id, he⟩ | ⟨e, he⟩ <;>
    simp only [he] at h
  · exact .inl ⟨st, reason, (Except.ok.inj (Option.some.inj h)).symm⟩
  · obtain ⟨⟨t', n⟩, hl, ht⟩ := Option.map_eq_some'.mp h
    cases ht
    exact .inr ⟨id, n, hl⟩
  · cases h

/-- Three `id` strings that are not a numeral in `1 … 2^64 - 1`: an overflowing numeral lets
`std::out_of_range` escape the handler, `0` registers the bot sink, and `12abc` registers
under `12`. -/
theorem onConnected_id_not_validated :
    onConnected defaultEnv 1 initial ⟨0, 1⟩ ⟨[("id", "18446744073709551616")]⟩ =
      some (.error .outOfRange) ∧
    (∃ t, onConnected defaultEnv 1 initial ⟨0, 1⟩ ⟨[("id", "0")]⟩ = some (.ok t) ∧
      t.connectionStorage.exists 0 = true) ∧
    (∃ t, onConnected defaultEnv 1 initial ⟨0, 1⟩ ⟨[("id", "12abc")]⟩ = some (.ok t) ∧
      t.connectionStorage.exists 12 = true) :=
  ⟨rfl, ⟨_, rfl, rfl⟩, ⟨_, rfl, rfl⟩⟩

theorem foldl_emit {α : Type} (f : α → Effect P) (l : List α) :
    ∀ s : ChatServer P, l.foldl (fun s c => s.emit (f c)) s = { s with log := s.log ++ l.map f } := by
  induction l with
  | nil => intro s; simp
  | cons c l ih => intro s; rw [List.foldl_cons, ih]; simp [emit]

/-- The override only appends its closes to the log. -/
theorem closePriorConnections_eq (s : ChatServer P) (id : UserId) :
    closePriorConnections env s id = { s with log := s.log ++
      if env.allowOverrideConnection then
        (s.connectionStorage.connectionsOf id).map (.sendClose · .policyViolation env.overrideReason)
      else [] } := by
  unfold closePriorConnections
  split
  · exact foldl_emit _ _ s
  · simp

section ClosePrior

variable (s : ChatServer P) (id : UserId)

@[simp] theorem closePriorConnections_connectionStorage :
    (closePriorConnections env s id).connectionStorage = s.connectionStorage := by
  rw [closePriorConnections_eq]
@[simp] theorem closePriorConnections_undelivered :
    (closePriorConnections env s id).undeliveredMessagesMap = s.undeliveredMessagesMap := by
  rw [closePriorConnections_eq]
@[simp] theorem closePriorConnections_statistics :
    (closePriorConnections env s id).statistics = s.statistics := by
  rw [closePriorConnections_eq]
@[simp] theorem closePriorConnections_frameBuffer :
    (closePriorConnections env s id).frameBuffer = s.frameBuffer := by
  rw [closePriorConnections_eq]
@[simp] theorem closePriorConnections_inflight :
    (closePriorConnections env s id).inflight = s.inflight := by
  rw [closePriorConnections_eq]

end ClosePrior

theorem watchdogDisconnect_eq (s : ChatServer P) :
    watchdogDisconnect s =
      { s with connectionStorage := s.connectionStorage.disconnectWithoutPong.1
               log := s.log ++ s.connectionStorage.disconnectWithoutPong.2.map .disconnect } := by
  simp only [watchdogDisconnect, foldl_emit]
  rfl

end ChatServer

end Scatter
