import Scatter.HandlersSpec

/-! The server looks at a payload only through `PayloadOps`. A map `f` of payloads that
commutes with the operations (a `PayloadOps.Hom`) therefore carries every run of the server
over one payload type onto the run of the same events over the other: one lemma per
handler, each citing the lemmas of the functions it calls.

* `map_run`: the simulation over whole runs. -/

namespace Scatter

variable {P Q : Type}

/-- `f` carries the operations `A` onto `B`. -/
structure PayloadOps.Hom (A : PayloadOps P) (B : PayloadOps Q) (f : P → Q) : Prop where
  parse : ∀ t, f (A.parse t) = B.parse t
  empty : f A.empty = B.empty
  isValid : ∀ p, B.isValid (f p) = A.isValid p
  getError : ∀ p, B.getError (f p) = A.getError p
  getType : ∀ p, B.getType (f p) = A.getType p
  getSender : ∀ p, B.getSender (f p) = A.getSender p
  getRecipients : ∀ p, B.getRecipients (f p) = A.getRecipients p
  isForBot : ∀ p, B.isForBot (f p) = A.isForBot p
  isTypeOfSentStatus : ∀ p, B.isTypeOfSentStatus (f p) = A.isTypeOfSentStatus p
  setRecipient : ∀ p u, f (A.setRecipient p u) = B.setRecipient (f p) u
  toJson : ∀ p, B.toJson (f p) = A.toJson p
  createSendStatus : ∀ p, f (A.createSendStatus p) = B.createSendStatus (f p)

/-- `F` with its payload operations replaced by `A`. -/
def Env.withPayload (F : Env Q) (A : PayloadOps P) : Env P :=
  ⟨F.toConfig, A, F.validateAuth, F.humanReadableBytes, F.overrideReason⟩

@[simp] theorem Env.withPayload_toConfig (F : Env Q) (A : PayloadOps P) :
    (F.withPayload A).toConfig = F.toConfig := rfl

@[simp] theorem Env.withPayload_payload (F : Env Q) (A : PayloadOps P) :
    (F.withPayload A).payload = A := rfl

@[simp] theorem Env.withPayload_validateAuth (F : Env Q) (A : PayloadOps P) :
    (F.withPayload A).validateAuth = F.validateAuth := rfl

@[simp] theorem Env.withPayload_humanReadableBytes (F : Env Q) (A : PayloadOps P) :
    (F.withPayload A).humanReadableBytes = F.humanReadableBytes := rfl

@[simp] theorem Env.withPayload_overrideReason (F : Env Q) (A : PayloadOps P) :
    (F.withPayload A).overrideReason = F.overrideReason := rfl

def Callback.map (f : P → Q) : Callback P → Callback Q
  | .message r p cid => .message r (f p) cid
  | .ping c => .ping c

def Send.map (f : P → Q) (snd : Send P) : Send Q := ⟨snd.connection, snd.data, snd.callback.map f⟩

def Effect.map (f : P → Q) : Effect P → Effect Q
  | .send snd => .send (snd.map f)
  | .sendClose c st r => .sendClose c st r
  | .disconnect c => .disconnect c
  | .listeners p => .listeners (f p)

namespace ChatServer

/-- The server with every payload it holds mapped by `f`. -/
def map (f : P → Q) (s : ChatServer P) : ChatServer Q :=
  ⟨s.connectionStorage, s.frameBuffer, fun u => (s.undeliveredMessagesMap u).map f, s.statistics,
    s.inflight.map (Send.map f), s.log.map (Effect.map f)⟩

section Primitives

variable (f : P → Q) (s : ChatServer P)

@[simp] theorem map_connectionStorage : (s.map f).connectionStorage = s.connectionStorage := rfl

@[simp] theorem map_frameBuffer : (s.map f).frameBuffer = s.frameBuffer := rfl

@[simp] theorem map_statistics : (s.map f).statistics = s.statistics := rfl

@[simp] theorem map_undelivered (u : UserId) :
    (s.map f).undeliveredMessagesMap u = (s.undeliveredMessagesMap u).map f := rfl

@[simp] theorem map_inflight : (s.map f).inflight = s.inflight.map (Send.map f) := rfl

theorem map_emit (e : Effect P) : (s.emit e).map f = (s.map f).emit (e.map f) := by
  simp [map, emit]

theorem map_issue (snd : Send P) : (s.issue snd).map f = (s.map f).issue (snd.map f) := by
  simp [map, issue, Effect.map]

theorem map_sendClose (c : Connection) (st : Status) (r : String) :
    (s.sendClose c st r).map f = (s.map f).sendClose c st r := by
  simp [sendClose, map_emit, Effect.map]

theorem map_setStorage (st : ConnectionStorage) : (s.setStorage st).map f = (s.map f).setStorage st :=
  rfl

theorem map_updateStat (id : UserId) (g : Statistics → Statistics) :
    (s.updateStat id g).map f = (s.map f).updateStat id g := rfl

theorem map_push (u : UserId) (p : P) : (s.push u p).map f = (s.map f).push u (f p) := by
  simp only [map, push, mk.injEq, true_and, and_true]
  funext v
  by_cases h : v = u
  · subst h; simp
  · simp [h]

theorem map_pop (u : UserId) : (s.pop u).map f = (s.map f).pop u := by
  simp only [map, pop, mk.injEq, true_and, and_true]
  funext v
  by_cases h : v = u
  · subst h; simp [List.map_tail]
  · simp [h]

theorem map_writeFrameBuffer (u : UserId) (d : String) (clear : Bool) :
    (s.writeFrameBuffer u d clear).map f = (s.map f).writeFrameBuffer u d clear := rfl

theorem map_readFrameBuffer (u : UserId) (clear : Bool) :
    ((s.readFrameBuffer u clear).1.map f, (s.readFrameBuffer u clear).2) =
      (s.map f).readFrameBuffer u clear := by
  unfold readFrameBuffer hasFrameBuffer
  simp only [map_frameBuffer]
  split_ifs <;> rfl

theorem watchdogDisconnect_map (s : ChatServer P) :
    (watchdogDisconnect s).map f = watchdogDisconnect (s.map f) := by
  simp only [watchdogDisconnect_eq, map, List.map_append, List.map_map]
  rfl

theorem onDisconnected_map (s : ChatServer P) (c : Connection) :
    (onDisconnected s c).map f = onDisconnected (s.map f) c := by
  unfold onDisconnected
  simp only [map_connectionStorage]
  split_ifs <;> rfl

/-- A fold of steps that commute with `map f` commutes with it. -/
theorem map_foldl {α : Type} (g : ChatServer P → α → ChatServer P) (g' : ChatServer Q → α → ChatServer Q)
    (h : ∀ s x, (g s x).map f = g' (s.map f) x) :
    ∀ (l : List α) s, (l.foldl g s).map f = l.foldl g' (s.map f)
  | [], _ => rfl
  | x :: l, s => by rw [List.foldl_cons, List.foldl_cons, map_foldl g g' h l, h]

theorem map_eraseIdx (i : Nat) :
    ({ s with inflight := s.inflight.eraseIdx i } : ChatServer P).map f =
      { s.map f with inflight := (s.map f).inflight.eraseIdx i } := by
  simp [map, List.eraseIdx_eq_take_drop_succ, List.map_take, List.map_drop]

end Primitives

variable (F : Env Q) (A : PayloadOps P) (f : P → Q)

theorem handleUndeliverable_map (hf : A.Hom F.payload f) (s : ChatServer P) (r : UserId) (p : P) :
    (handleUndeliverable (F.withPayload A) s r p).map f = handleUndeliverable F (s.map f) r (f p) := by
  simp only [handleUndeliverable_eq, Env.withPayload_toConfig, Env.withPayload_payload]
  split
  · rw [map_push, hf.setRecipient]
  · rfl

theorem recordMessageSent_map (hf : A.Hom F.payload f) (s : ChatServer P) (p : P) (n : Nat) (b : Bool) :
    (recordMessageSent (F.withPayload A) s p n b).map f = recordMessageSent F (s.map f) (f p) n b := by
  unfold recordMessageSent
  simp only [Env.withPayload_payload, hf.isTypeOfSentStatus, hf.getRecipients, hf.getSender]
  split_ifs
  · rfl
  all_goals exact map_foldl f _ _ (fun _ _ => rfl) _ _

theorem sendToSlot_map (r : UserId) (p : P) (str : String) (s : ChatServer P) (sl : Slot) :
    (sendToSlot r p str s sl).map f = sendToSlot r (f p) str (s.map f) sl := by
  unfold sendToSlot
  split
  · rfl
  · rw [map_issue]; rfl

theorem sendTo_map (hf : A.Hom F.payload f) (s : ChatServer P) (r : UserId) (p : P) :
    (sendTo (F.withPayload A) s r p).map f = sendTo F (s.map f) r (f p) := by
  unfold sendTo sendToAfterCheck
  simp only [Env.withPayload_payload, map_connectionStorage, ← hf.toJson]
  split
  · rw [recordMessageSent_map F A f hf, handleUndeliverable_map F A f hf, hf.setRecipient]
  · split
    · exact handleUndeliverable_map F A f hf s r p
    · exact map_foldl f _ _ (fun x y => sendToSlot_map f r p _ x y) _ _

theorem send_map (hf : A.Hom F.payload f) (s : ChatServer P) (p : P) :
    (send (F.withPayload A) s p).map f = send F (s.map f) (f p) := by
  unfold send
  simp only [Env.withPayload_payload, hf.isForBot, hf.getRecipients]
  split
  · exact map_emit f s _
  · refine (map_foldl f _ (fun s uid => if uid == 0 then s else sendTo F s uid (f p))
      (fun x y => ?_) _ _).trans ?_
    · dsimp only
      split_ifs
      · rfl
      · exact sendTo_map F A f hf x y p
    · rw [map_emit]; rfl

theorem onMessageSent_map (hf : A.Hom F.payload f) (s : ChatServer P) (p : P) (n : Nat) (b : Bool) :
    (onMessageSent (F.withPayload A) s p n b).map f = onMessageSent F (s.map f) (f p) n b := by
  unfold onMessageSent
  simp only [Env.withPayload_payload, Env.withPayload_toConfig, hf.isTypeOfSentStatus]
  split
  · rfl
  · split
    · rw [send_map F A f hf, recordMessageSent_map F A f hf, hf.createSendStatus]
    · exact recordMessageSent_map F A f hf s p n b

theorem routePayload_map (hf : A.Hom F.payload f) (s : ChatServer P) (c : Connection) (p : P) :
    (routePayload (F.withPayload A) s c p).map f = routePayload F (s.map f) c (f p) := by
  unfold routePayload
  simp only [Env.withPayload_payload, Env.withPayload_toConfig, hf.isValid, hf.getError,
    hf.getType, hf.isForBot, hf.getSender]
  split
  · exact map_sendClose f s c _ _
  · rw [send_map F A f hf]
    split
    · rw [sendTo_map F A f hf]
    · rfl

theorem onMessage_map (hf : A.Hom F.payload f) (s : ChatServer P) (c : Connection) (op : Opcode) (data : String) :
    (onMessage (F.withPayload A) s c op data).map f = onMessage F (s.map f) c op data := by
  unfold onMessage
  simp only [Env.withPayload_payload]
  split
  · rw [routePayload_map F A f hf, hf.parse]
  · rw [routePayload_map F A f hf, hf.parse]
  · exact map_writeFrameBuffer f s _ _ _
  · exact map_writeFrameBuffer f s _ _ _
  · exact map_writeFrameBuffer f s _ _ _
  · rw [← map_readFrameBuffer]
    dsimp only
    simp only [Env.withPayload_toConfig, Env.withPayload_humanReadableBytes]
    split
    · exact map_sendClose f _ c _ _
    · rw [routePayload_map F A f hf, hf.parse]
  · rw [routePayload_map F A f hf, hf.empty]
  · rw [routePayload_map F A f hf, hf.empty]

theorem complete_map (hf : A.Hom F.payload f) (s : ChatServer P) (snd : Send P) (err : ErrorCode) (n : Nat) :
    (complete (F.withPayload A) s snd err n).map f = complete F (s.map f) (snd.map f) err n := by
  unfold complete
  simp only [Env.withPayload_payload]
  cases h : snd.callback with
  | message r p cid =>
    simp only [Send.map, h, Callback.map]
    split
    · rw [handleUndeliverable_map F A f hf]
      split <;> rfl
    · rw [onMessageSent_map F A f hf, hf.setRecipient]
  | ping c =>
    simp only [Send.map, h, Callback.map]
    split <;> rfl

theorem redeliverLoop_map (hf : A.Hom F.payload f) (u : UserId) :
    ∀ fuel (s : ChatServer P) cnt, (redeliverLoop (F.withPayload A) fuel s u cnt).map
      (fun r => (r.1.map f, r.2)) = redeliverLoop F fuel (s.map f) u cnt := by
  intro fuel
  induction fuel with
  | zero => intro _ _; rfl
  | succ fuel ih =>
    intro s cnt
    simp only [redeliverLoop, map_undelivered]
    cases s.undeliveredMessagesMap u with
    | nil => rfl
    | cons p rest => simp only [List.map_cons, ih, send_map F A f hf, map_pop]

theorem redeliverMessagesTo_map (hf : A.Hom F.payload f) (fuel : Nat) (s : ChatServer P) (u : UserId) :
    (redeliverMessagesTo (F.withPayload A) fuel s u).map (fun r => (r.1.map f, r.2)) =
      redeliverMessagesTo F fuel (s.map f) u := by
  have he : ((s.undeliveredMessagesMap u).map f).isEmpty = (s.undeliveredMessagesMap u).isEmpty := by
    cases s.undeliveredMessagesMap u <;> rfl
  unfold redeliverMessagesTo hasUndeliveredMessages
  simp only [Env.withPayload_toConfig, map_undelivered, he]
  split_ifs
  · rfl
  · rfl
  · exact redeliverLoop_map F A f hf u fuel s 0

theorem closePriorConnections_map (s : ChatServer P) (id : UserId) :
    (closePriorConnections (F.withPayload A) s id).map f =
      closePriorConnections F (s.map f) id := by
  unfold closePriorConnections
  simp only [Env.withPayload_toConfig]
  split
  · exact map_foldl f _ _ (fun s c => map_sendClose f s c _ _) _ s
  · rfl

theorem onConnectedAdd_map (s : ChatServer P) (c : Connection) (r : Request) :
    (onConnectedAdd (F.withPayload A) s c r).map (fun x => (x.1.map f, x.2)) =
      onConnectedAdd F (s.map f) c r := by
  unfold onConnectedAdd
  simp only [Env.withPayload_validateAuth]
  split_ifs
  · simp [Except.map, map_emit, Effect.map]
  · simp [Except.map, map_emit, Effect.map]
  · simp [Except.map, map_emit, Effect.map]
  · split <;> simp [Except.map, map_emit, Effect.map, map_setStorage, map_updateStat,
      closePriorConnections_map]

theorem onConnected_map (hf : A.Hom F.payload f) (fuel : Nat) (s : ChatServer P) (c : Connection) (r : Request) :
    (onConnected (F.withPayload A) fuel s c r).map (Except.map (map f)) =
      onConnected F fuel (s.map f) c r := by
  unfold onConnected
  rw [← onConnectedAdd_map F A f]
  rcases onConnectedAdd_cases (F.withPayload A) s c r with ⟨st, reason, he⟩ | ⟨id, he⟩ | ⟨e, he⟩ <;>
    rw [he]
  · rfl
  · simp only [Except.map, ← redeliverMessagesTo_map F A f hf, Option.map_map]
    rfl
  · rfl

theorem watchdogPing_map (s : ChatServer P) (inactive : UserId → Int) :
    (watchdogPing (F.withPayload A) s inactive).map f = watchdogPing F (s.map f) inactive := by
  unfold watchdogPing
  refine map_foldl f _ _ (fun x sl => ?_) _ _
  unfold watchdogSlot
  simp only [Env.withPayload_toConfig]
  split
  · rfl
  · split_ifs
    · exact map_sendClose f _ _ _ _
    · exact map_issue f _ _

theorem handle_map (hf : A.Hom F.payload f) (fuel : Nat) (s : ChatServer P) (e : Event) :
    (handle (F.withPayload A) fuel s e).map (map f) = handle F fuel (s.map f) e := by
  cases e with
  | onOpen c r =>
    simp only [handle, ← onConnected_map F A f hf, Option.map_map]
    congr 1
    funext x
    cases x <;> rfl
  | onClose c => exact congrArg some (onDisconnected_map f s c)
  | onMessage c op data =>
    simp only [handle, Option.map_some']
    split
    · rfl
    · rw [onMessage_map F A f hf]
  | onSent i err n =>
    simp only [handle, map_inflight, List.get?_eq_getElem?, List.getElem?_map, Option.map_map]
    cases s.inflight[i]? with
    | none => rfl
    | some snd =>
      simp only [Option.map_some', Function.comp_apply, complete_map F A f hf, map_eraseIdx]
      rfl
  | watchdogPing inactive => exact congrArg some (watchdogPing_map F A f s inactive)
  | watchdogDisconnect => exact congrArg some (watchdogDisconnect_map f s)

/-- **Simulation.** The server reads payloads only through `PayloadOps`: a run over payloads
`P`, mapped by a homomorphism, is the run of the same events over `Q` from the mapped state,
with the same outcome. -/
theorem map_run (hf : A.Hom F.payload f) (fuel : Nat) :
    ∀ (es : List Event) (s : ChatServer P),
      (run (F.withPayload A) fuel s es).map (map f) = run F fuel (s.map f) es
  | [], _ => rfl
  | e :: es, s => by
    simp only [run, ← handle_map F A f hf]
    cases handle (F.withPayload A) fuel s e with
    | none => rfl
    | some t => exact map_run hf fuel es t

end ChatServer

end Scatter
