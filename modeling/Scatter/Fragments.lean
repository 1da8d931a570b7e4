import Scatter.HandlersSpec

/-! `m_frameBuffer` over whole runs. `onMessage` keys the reassembly buffer by
`connection->getId()`, the user id, so the fragments of all connections of one user
go into one buffer, and only `FRAGMENT_END` erases it. -/

namespace Scatter

def Opcode.isBegin : Opcode → Bool
  | .fragmentBeginText | .fragmentBeginBinary => true
  | _ => false

def Opcode.isFragment : Opcode → Bool
  | .fragmentBeginText | .fragmentBeginBinary | .fragmentContinue | .fragmentEnd => true
  | _ => false

/-- The fragment frames under user id `u` in `es`, with their bodies, in arrival order,
on whichever connections they came. -/
def fragmentsOf (u : UserId) (es : List Event) : List (Opcode × String) :=
  es.filterMap fun
    | .onMessage c op data => if c.id = u ∧ op.isFragment then some (op, data) else none
    | _ => none

/-- The FRAGMENT_CONTINUE frames after the latest FRAGMENT_BEGIN or FRAGMENT_END. -/
def pendingContinues (frames : List (Opcode × String)) : List (Opcode × String) :=
  (frames.reverse.takeWhile (·.1 == .fragmentContinue)).reverse

/-- What the latest FRAGMENT_BEGIN (its body) or FRAGMENT_END (nothing) left in the
buffer; `init` if there is neither. -/
def lastReset (init : Option String) (frames : List (Opcode × String)) : Option String :=
  match (frames.reverse.dropWhile (·.1 == .fragmentContinue)).head? with
  | none => init
  | some (op, body) => if op.isBegin then some body else none

/-- The text buffered after `frames`, from `init`: what the latest FRAGMENT_BEGIN or
FRAGMENT_END left, followed by the bodies of the FRAGMENT_CONTINUE frames after it. -/
def assembled (init : Option String) (frames : List (Opcode × String)) : Option String :=
  if (pendingContinues frames).isEmpty then lastReset init frames
  else some ((pendingContinues frames).foldl (fun acc f => acc ++ f.2) ((lastReset init frames).getD ""))

/-- What one fragment frame does to its user's buffer. -/
def bufferStep (b : Option String) : Opcode × String → Option String
  | (.fragmentContinue, data) => some (b.getD "" ++ data)
  | (.fragmentEnd, _) => none
  | (op, data) => if op.isBegin then some data else b

theorem pendingContinues_continue (fs : List (Opcode × String)) (data : String) :
    pendingContinues (fs ++ [(.fragmentContinue, data)]) =
      pendingContinues fs ++ [(.fragmentContinue, data)] := by
  simp [pendingContinues, List.takeWhile]

theorem lastReset_continue (init : Option String) (fs : List (Opcode × String)) (data : String) :
    lastReset init (fs ++ [(.fragmentContinue, data)]) = lastReset init fs := by
  simp [lastReset, List.dropWhile]

theorem pendingContinues_reset (fs : List (Opcode × String)) (op : Opcode) (data : String)
    (h : op ≠ .fragmentContinue) : pendingContinues (fs ++ [(op, data)]) = [] := by
  simp [pendingContinues, List.takeWhile, h]

theorem lastReset_reset (init : Option String) (fs : List (Opcode × String)) (op : Opcode)
    (data : String) (h : op ≠ .fragmentContinue) :
    lastReset init (fs ++ [(op, data)]) = if op.isBegin then some data else none := by
  simp [lastReset, List.dropWhile, h]

theorem assembled_getD (init : Option String) (fs : List (Opcode × String)) :
    (assembled init fs).getD "" =
      (pendingContinues fs).foldl (fun acc f => acc ++ f.2) ((lastReset init fs).getD "") := by
  unfold assembled
  split
  · rename_i h; simp [List.isEmpty_iff.mp h]
  · rfl

theorem foldl_bufferStep (init : Option String) (frames : List (Opcode × String))
    (h : ∀ f ∈ frames, f.1.isFragment) : frames.foldl bufferStep init = assembled init frames := by
  induction frames using List.reverseRecOn with
  | nil => simp [assembled, pendingContinues, lastReset]
  | append_singleton fs x ih =>
    rw [List.foldl_append, ih fun f hf => h f (List.mem_append_left _ hf)]
    obtain ⟨op, data⟩ := x
    have hx := h (op, data) (List.mem_append_right _ (List.mem_singleton_self _))
    simp only [List.foldl_cons, List.foldl_nil]
    by_cases hc : op = .fragmentContinue
    · subst hc
      conv_rhs => rw [assembled, pendingContinues_continue, lastReset_continue]
      simp [bufferStep, assembled_getD]
    · conv_rhs => rw [assembled, pendingContinues_reset fs op data hc, lastReset_reset init fs op data hc]
      cases op <;> first | rfl | exact absurd rfl hc | simp [Opcode.isFragment] at hx

namespace ChatServer

variable {P : Type} (env : Env P)

theorem routePayload_frameBuffer (s : ChatServer P) (c : Connection) (p : P) :
    (routePayload env s c p).frameBuffer = s.frameBuffer := by
  unfold routePayload
  split
  · rfl
  · simp only [send_frameBuffer]
    split <;> simp

theorem redeliverLoop_frameBuffer (u : UserId) :
    ∀ fuel (s : ChatServer P) cnt r, redeliverLoop env fuel s u cnt = some r →
      r.1.frameBuffer = s.frameBuffer := by
  intro fuel
  induction fuel with
  | zero => intro s cnt r h; cases h
  | succ n ih =>
    intro s cnt r h
    simp only [redeliverLoop] at h
    split at h
    · cases h; rfl
    · rw [ih _ _ _ h]; simp [pop]

theorem onConnected_frameBuffer (fuel : Nat) (s t : ChatServer P) (c : Connection) (r : Request)
    (h : onConnected env fuel s c r = some (.ok t)) : t.frameBuffer = s.frameBuffer := by
  rcases onConnected_ok env fuel s t c r h with ⟨st, reason, rfl⟩ | ⟨id, n, hr⟩
  · rfl
  · rcases redeliverMessagesTo_cases env fuel _ id _ hr with he | hl
    · cases he; simp
    · exact (redeliverLoop_frameBuffer env id fuel _ 0 _ hl).trans (by simp)

theorem complete_frameBuffer (s : ChatServer P) (snd : Send P) (err : ErrorCode) (n : Nat) :
    (complete env s snd err n).frameBuffer = s.frameBuffer := by
  unfold complete
  split
  · split
    · split <;> simp
    · simp
  · split <;> rfl

theorem watchdogPing_frameBuffer (s : ChatServer P) (inactive : UserId → Int) :
    (watchdogPing env s inactive).frameBuffer = s.frameBuffer := by
  unfold watchdogPing
  generalize s.connectionStorage.slots = l
  induction l generalizing s with
  | nil => rfl
  | cons sl l ih =>
    rw [List.foldl_cons, ih]
    unfold watchdogSlot
    split
    · rfl
    · split <;> rfl

theorem watchdogDisconnect_frameBuffer (s : ChatServer P) :
    (watchdogDisconnect s).frameBuffer = s.frameBuffer := by
  rw [watchdogDisconnect_eq]

theorem readFrameBuffer_clear (s : ChatServer P) (u : UserId) :
    s.readFrameBuffer u true =
      ({ s with frameBuffer := Function.update s.frameBuffer u none }, (s.frameBuffer u).getD "") := by
  unfold readFrameBuffer hasFrameBuffer
  cases h : s.frameBuffer u
  · simp only [Option.isSome_none, Bool.not_false, ↓reduceIte, Option.getD_none, Prod.mk.injEq,
      and_true]
    rw [← h, Function.update_eq_self]
  · simp

/-- `FRAGMENT_END` erases the buffer of `connection->getId()` and hands what it held,
followed by the frame's body, to the size check and to parsing. -/
theorem onMessage_fragmentEnd (s : ChatServer P) (c : Connection) (data : String) :
    onMessage env s c .fragmentEnd data =
      let s' := { s with frameBuffer := Function.update s.frameBuffer c.id none }
      let buffered := (s.frameBuffer c.id).getD "" ++ data
      if env.maxMessageSize < buffered.utf8ByteSize then
        s'.sendClose c .messageTooBig
          ("Message to big. Maximum size: " ++ env.humanReadableBytes env.maxMessageSize)
      else routePayload env s' c (env.payload.parse buffered) := by
  simp only [onMessage, readFrameBuffer_clear]

theorem writeFrameBuffer_frameBuffer (s : ChatServer P) (id : UserId) (d : String) (clear : Bool) :
    (s.writeFrameBuffer id d clear).frameBuffer =
      Function.update s.frameBuffer id (some (if clear then d else (s.frameBuffer id).getD "" ++ d)) := by
  unfold writeFrameBuffer hasFrameBuffer
  cases h : s.frameBuffer id <;> cases clear <;> simp [h]

/-- Frames on a connection of another user id leave `u`'s buffer alone. -/
theorem onMessage_frameBuffer_other (s : ChatServer P) (c : Connection) (op : Opcode) (data : String)
    (u : UserId) (hu : c.id ≠ u) : (onMessage env s c op data).frameBuffer u = s.frameBuffer u := by
  have hne : ∀ v : Option String, Function.update s.frameBuffer c.id v u = s.frameBuffer u :=
    fun v => Function.update_noteq (Ne.symm hu) v s.frameBuffer
  cases op with
  | fragmentEnd =>
    rw [onMessage_fragmentEnd]; dsimp only
    split <;> simp [routePayload_frameBuffer, hne]
  | fragmentBeginText | fragmentBeginBinary | fragmentContinue =>
    simp [onMessage, writeFrameBuffer_frameBuffer, hne]
  | frameText | frameBinary | pong | other _ => simp [onMessage, routePayload_frameBuffer]

theorem onMessage_frameBuffer (s : ChatServer P) (c : Connection) (op : Opcode) (data : String)
    (u : UserId) :
    (onMessage env s c op data).frameBuffer u =
      (fragmentsOf u [.onMessage c op data]).foldl bufferStep (s.frameBuffer u) := by
  by_cases hu : c.id = u
  · subst hu
    cases op with
    | fragmentEnd =>
      rw [onMessage_fragmentEnd]; dsimp only
      split <;> simp [routePayload_frameBuffer, fragmentsOf, Opcode.isFragment, bufferStep]
    | fragmentBeginText | fragmentBeginBinary | fragmentContinue =>
      simp [onMessage, writeFrameBuffer_frameBuffer, fragmentsOf, Opcode.isFragment, bufferStep,
        Opcode.isBegin]
    | frameText | frameBinary | pong | other _ =>
      simp [onMessage, routePayload_frameBuffer, fragmentsOf, Opcode.isFragment]
  · rw [onMessage_frameBuffer_other env s c op data u hu]
    simp [fragmentsOf, hu]

theorem fragmentsOf_cons (u : UserId) (e : Event) (es : List Event) :
    fragmentsOf u (e :: es) = fragmentsOf u [e] ++ fragmentsOf u es := by
  unfold fragmentsOf
  exact List.filterMap_append [e] es _

theorem fragmentsOf_isFragment (u : UserId) (es : List Event) :
    ∀ f ∈ fragmentsOf u es, f.1.isFragment := by
  intro f hf
  obtain ⟨e, -, he⟩ := List.mem_filterMap.mp hf
  split at he
  · split at he
    · cases he; simp_all
    · cases he
  · cases he

/-- What one event does to the buffer of user id `u`. -/
theorem handle_frameBuffer (fuel : Nat) (s t : ChatServer P) (e : Event)
    (h : handle env fuel s e = some t) (u : UserId) :
    t.frameBuffer u = (fragmentsOf u [e]).foldl bufferStep (s.frameBuffer u) := by
  cases e with
  | onOpen c r =>
    obtain ⟨x, hx, rfl⟩ := Option.map_eq_some'.mp h
    cases x with
    | ok t' => simp [fragmentsOf, onConnected_frameBuffer env fuel s t' c r hx]
    | error => simp [fragmentsOf]
  | onClose c =>
    simp only [handle, Option.some.injEq] at h
    subst h
    unfold onDisconnected
    split <;> simp [fragmentsOf]
  | onMessage c op data =>
    simp only [handle, Option.some.injEq] at h
    subst h
    split
    · rename_i hp; subst hp; simp [fragmentsOf, onPong, Opcode.isFragment]
    · exact onMessage_frameBuffer env s c op data u
  | onSent i err n =>
    obtain ⟨snd, _, rfl⟩ := Option.map_eq_some'.mp h
    simp [fragmentsOf, complete_frameBuffer]
  | watchdogPing inactive =>
    simp only [handle, Option.some.injEq] at h
    subst h
    simp [fragmentsOf, watchdogPing_frameBuffer]
  | watchdogDisconnect =>
    simp only [handle, Option.some.injEq] at h
    subst h
    simp [fragmentsOf, watchdogDisconnect_frameBuffer]

/-- Over a run, the buffer of `u` follows `u`'s fragment frames and nothing else. -/
theorem run_frameBuffer (fuel : Nat) (u : UserId) :
    ∀ (es : List Event) (s t : ChatServer P), run env fuel s es = some t →
      t.frameBuffer u = (fragmentsOf u es).foldl bufferStep (s.frameBuffer u)
  | [], s, t, h => by cases h; rfl
  | e :: es, s, t, h => by
    obtain ⟨s', h1, h2⟩ := Option.bind_eq_some.mp h
    rw [run_frameBuffer fuel u es s' t h2, handle_frameBuffer env fuel s s' e h1 u,
      fragmentsOf_cons u e es, List.foldl_append]

/-- **Reassembly is per user id.** After any run from any state, a FRAGMENT_END on `c` is
handled as a TEXT frame carrying the text assembled from the fragment frames of every
connection with `c`'s user id since the latest FRAGMENT_BEGIN or FRAGMENT_END of that id,
followed by its own body, unless that is past `m_maxMessageSize`, which closes `c`. -/
theorem fragmentEnd_parses_user_text (fuel : Nat) (s t : ChatServer P) (pre : List Event)
    (h : run env fuel s pre = some t) (c : Connection) (data : String) :
    let buffered := (assembled (s.frameBuffer c.id) (fragmentsOf c.id pre)).getD "" ++ data
    let t' := { t with frameBuffer := Function.update t.frameBuffer c.id none }
    onMessage env t c .fragmentEnd data =
      if env.maxMessageSize < buffered.utf8ByteSize then
        t'.sendClose c .messageTooBig
          ("Message to big. Maximum size: " ++ env.humanReadableBytes env.maxMessageSize)
      else onMessage env t' c .frameText buffered := by
  rw [onMessage_fragmentEnd, run_frameBuffer env fuel c.id pre s t h,
    foldl_bufferStep _ _ (fragmentsOf_isFragment c.id pre)]
  rfl

theorem fragmentEnd_parses_user_text_two_frames :
    run defaultEnv 0 initial [.onMessage ⟨5, 1⟩ .fragmentBeginText "A",
      .onMessage ⟨5, 2⟩ .fragmentContinue "B"] =
        some ((initial.writeFrameBuffer 5 "A" true).writeFrameBuffer 5 "B" false) ∧
    let t : ChatServer MessagePayload := (initial.writeFrameBuffer 5 "A" true).writeFrameBuffer 5 "B" false
    let buffered := (assembled ((initial : ChatServer MessagePayload).frameBuffer 5) (fragmentsOf 5
      [.onMessage ⟨5, 1⟩ .fragmentBeginText "A", .onMessage ⟨5, 2⟩ .fragmentContinue "B"])).getD ""
        ++ "C"
    let t' := { t with frameBuffer := Function.update t.frameBuffer 5 none }
    onMessage defaultEnv t ⟨5, 1⟩ .fragmentEnd "C" =
      if defaultEnv.maxMessageSize < buffered.utf8ByteSize then
        t'.sendClose ⟨5, 1⟩ .messageTooBig
          ("Message to big. Maximum size: " ++ defaultEnv.humanReadableBytes defaultEnv.maxMessageSize)
      else onMessage defaultEnv t' ⟨5, 1⟩ .frameText buffered :=
  ⟨rfl, fragmentEnd_parses_user_text defaultEnv 0 initial
    ((initial.writeFrameBuffer 5 "A" true).writeFrameBuffer 5 "B" false)
    [.onMessage ⟨5, 1⟩ .fragmentBeginText "A", .onMessage ⟨5, 2⟩ .fragmentContinue "B"] rfl
    ⟨5, 1⟩ "C"⟩

/-- Two connections of user 5 interleave fragmented messages for users 20 and 30: the
FRAGMENT_END on the first completes the second's text, and the message goes to 30. -/
theorem fragmentEnd_takes_other_connection_text :
    ∃ t, run defaultEnv 0 initial
      [.onOpen ⟨0, 1⟩ ⟨[("id", "5")]⟩, .onOpen ⟨0, 2⟩ ⟨[("id", "5")]⟩,
       .onMessage ⟨5, 1⟩ .fragmentBeginText
         "\x7b\"type\":\"msg\",\"sender\":5,\"recipients\":[20],\"body\":\"",
       .onMessage ⟨5, 2⟩ .fragmentBeginText
         "\x7b\"type\":\"msg\",\"sender\":5,\"recipients\":[30],\"body\":\"",
       .onMessage ⟨5, 1⟩ .fragmentEnd "hi\"\x7d"] = some t ∧
      t.undeliveredMessagesMap 20 = [] ∧ t.undeliveredMessagesMap 30 ≠ [] :=
  ⟨_, rfl, rfl, by decide⟩

end ChatServer

end Scatter
