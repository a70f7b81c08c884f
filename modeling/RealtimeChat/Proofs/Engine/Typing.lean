import RealtimeChat.Proofs.Engine.Wire
import RealtimeChat.Proofs.Outbox.Typing
/-!
# The user's typing as the server sees it

With the first keystroke in a chat its start of typing is queued, and its end when the user has not
typed for some time or sends a message there. So starts and ends are queued by turns, and the core
keeps in mind which of them was the last. What has been sent of them and what still waits
therefore alternates, whatever happened to the connection meanwhile.

* `Types` -- a part of an input queues starts and ends by turns, and the core keeps them in mind;
* **`step_types`** -- every input does, apart from a logout and a typing state of the user's own;
* `typingRow` -- the typing states of a chat that were sent in a run, and those that wait;
* `ByTurns`, **`run_typing`** -- they alternate, and end with a start iff the user is typing.
-/

namespace RealtimeChat.Engine

open Outbox (Operation Run Turns turns_nothing)

variable {τ : Type}

/-! ## 1. Parts of inputs -/

/-- A part of an input does these operations, by which starts and ends of typing are queued by
turns, and each chat is kept in mind iff the last one there is a start. -/
structure Types (e : Engine τ) (ops : List Operation) (e' : Engine τ) : Prop where
  distinct : e.localTyping.Nodup → e'.localTyping.Nodup
  turns : e.localTyping.Nodup → ∀ chat,
    Turns chat (decide (chat ∈ e.localTyping)) ops (decide (chat ∈ e'.localTyping))

namespace Types

variable {e e' e'' : Engine τ} {ops ops' : List Operation}

/-- No typing state is queued, and the same chats are kept in mind. -/
theorem still (hl : e'.localTyping = e.localTyping)
    (hops : ∀ a, .enqueue a ∈ ops → a.typing? = none) : Types e ops e' :=
  ⟨fun h => hl ▸ h, fun _ _ => hl ▸ turns_nothing _ hops⟩

theorem refl (e : Engine τ) : Types e [] e := still rfl nofun

theorem trans (h : Types e ops e') (h' : Types e' ops' e'') : Types e (ops ++ ops') e'' :=
  ⟨fun hd => h'.distinct (h.distinct hd),
    fun hd chat => (h.turns hd chat).append (h'.turns (h.distinct hd) chat)⟩

/-- One typing state is queued. -/
theorem turns_once {a : Action} {x : Bool} (ha : a.typing? = some x)
    (hbefore : decide (a.chat ∈ e.localTyping) ≠ x) (hafter : decide (a.chat ∈ e'.localTyping) = x)
    (hothers : ∀ chat ≠ a.chat, chat ∈ e'.localTyping ↔ chat ∈ e.localTyping) (chat : String) :
    Turns chat (decide (chat ∈ e.localTyping)) [.enqueue a] (decide (chat ∈ e'.localTyping)) := by
  by_cases hc : a.chat = chat
  · subst hc
    simp only [Turns, Outbox.asked?, if_pos, ha, hafter, Option.getD_some, and_true]
    exact fun y hy => Option.mem_some_iff.mp hy ▸ hbefore.symm
  · simp only [Turns, Outbox.asked?, if_neg hc, Option.getD_none]
    exact ⟨by simp, decide_eq_decide.mpr (hothers chat (Ne.symm hc))⟩

/-- The user starts to type. -/
theorem start {chat id : String} {now : Instant} (hnew : chat ∉ e.localTyping)
    (hl : e'.localTyping = chat :: e.localTyping) :
    Types e [.enqueue (.new id (.typingStart chat) now)] e' := by
  refine ⟨fun hd => hl ▸ List.nodup_cons.mpr ⟨hnew, hd⟩, fun _ => turns_once rfl ?_ ?_ ?_⟩
  · exact fun heq => hnew (of_decide_eq_true heq)
  · exact decide_eq_true (hl ▸ List.mem_cons_self)
  · intro other (hother : other ≠ chat)
    rw [hl, List.mem_cons, or_iff_right hother]

/-- The user stops typing. -/
theorem stop {chat id : String} {now : Instant} (hold : chat ∈ e.localTyping)
    (hl : e'.localTyping = e.localTyping.erase chat) :
    Types e [.enqueue (.new id (.typingStop chat) now)] e' := by
  refine ⟨fun hd => hl ▸ hd.erase chat, fun hd => turns_once rfl ?_ ?_ ?_⟩
  · exact fun heq => of_decide_eq_false heq hold
  · exact decide_eq_false (hl ▸ hd.not_mem_erase)
  · intro other (hother : other ≠ chat)
    rw [hl, List.mem_erase_of_ne hother]

end Types

section Parts

variable [Transport τ]

omit [Transport τ] in
theorem deliver_localTyping (e : Engine τ) (event : Event) (now : Instant) :
    (e.deliver event now).2.localTyping = e.localTyping := by
  obtain ⟨router, timers, cursors, store, heq⟩ := e.deliver_eq event now
  rw [heq]

theorem handleSignal_localTyping (e : Engine τ) (x : Session.Signal) (now : Instant) :
    (e.handleSignal x now).localTyping = e.localTyping := by
  cases x with
  | stateChanged before after =>
      refine handleStateChange_rule (P := fun e' => e'.localTyping = e.localTyping) rfl
        (fun _ h => h) (fun e' h => ?_) fun e' h => (flush_localTyping e' now).trans h
      obtain ⟨historyRequests, heq⟩ := e'.requestResync_eq
      rwa [heq]
  | inbound frame =>
      cases frame with
      | ack ack =>
          simp only [handleSignal, handleInbound]
          split
          · exact flush_localTyping _ now
          · rfl
      | event event => exact deliver_localTyping e event now
      | _ => rfl
  | _ => rfl

theorem processSignals_types (e : Engine τ) (now : Instant) :
    Types e (e.processCalls now) (e.processSignals now) := by
  have along : ∀ (signals : List Session.Signal) (e : Engine τ),
      (signals.foldl (fun e x => handleSignal e x now) e).localTyping = e.localTyping := by
    intro signals
    induction signals with
    | nil => exact fun _ => rfl
    | cons x rest ih => exact fun e => (ih _).trans (handleSignal_localTyping e x now)
  exact .still ((publishSettled_localTyping _).trans (along _ _))
    fun a ha => absurd ha enqueue_not_mem_processCalls

/-- To send what may be sent and to publish what is settled queues nothing. -/
theorem enqueue_not_mem_sending {e : Engine τ} {a : Action} {now : Instant} :
    .enqueue a ∉ e.flushCalls now ++ [.takeSettled] := by
  intro hmem
  rcases List.mem_append.mp hmem with hmem | hmem
  · exact enqueue_not_mem_flushCalls hmem
  · cases List.mem_singleton.mp hmem

theorem flush_types (e : Engine τ) (now : Instant) : Types e (e.flushCalls now) (e.flush now) :=
  .still (flush_localTyping e now) fun _ ha => absurd ha enqueue_not_mem_flushCalls

omit [Transport τ] in
theorem publishSettled_types (e : Engine τ) : Types e [.takeSettled] e.publishSettled :=
  .still (publishSettled_localTyping e) fun _ ha => by cases List.mem_singleton.mp ha

/-! ## 2. Inputs -/

theorem handleTimer_types (e : Engine τ) (key : Timer.Key) (now : Instant) :
    Types e (e.keyCalls now key) (e.handleTimer key now) := by
  unfold keyCalls handleTimer
  cases e.session.handleTimer key now e.timers with
  | some answer =>
      have hanswered : Types e [] { e with session := answer.1, timers := answer.2 } :=
        .still rfl nofun
      exact hanswered.trans (processSignals_types _ now)
  | none =>
      refine Types.trans ?_ (publishSettled_types _)
      cases key with
      | action id =>
          have hexpired : Types e [.expire id now] { e with
              outbox := (e.outbox.expire e.timers id now).1
              timers := (e.outbox.expire e.timers id now).2 } :=
            .still rfl fun _ ha => by cases List.mem_singleton.mp ha
          exact hexpired.trans (flush_types _ now)
      | localTyping chat =>
          simp only [endLocalTyping]
          split
          · rename_i htyping
            have hstopped : Types e [.enqueue (.new e.newId.1 (.typingStop chat) now)]
                ({ e with localTyping := e.localTyping.erase chat }.enqueueNew (.typingStop chat)
                  now) := .stop htyping rfl
            exact hstopped.trans (flush_types _ now)
          · exact .refl e
      | typingSweep =>
          obtain ⟨store, hsweep⟩ := e.sweepTyping_eq now
          simp only [hsweep]
          exact .still rfl nofun
      | _ => exact .refl e

theorem handleKeys_types (keys : List Timer.Key) (e : Engine τ) (now : Instant) :
    Types e (keysCalls now e keys) (keys.foldl (fun e key => handleTimer e key now) e) := by
  induction keys generalizing e with
  | nil => exact .refl e
  | cons key rest ih => exact (handleTimer_types e key now).trans (ih _)

theorem keystroke_types (e : Engine τ) (chat : String) (now : Instant) :
    Types e (e.stepCalls (.keystroke chat now)) (e.step (.keystroke chat now)) := by
  dsimp only [stepCalls, step, keystroke]
  cases checkChat chat with
  | error fault => exact .refl e
  | ok _ =>
      dsimp only
      have hstarted : Types e
          (if chat ∈ e.localTyping then []
            else [.enqueue (.new e.newId.1 (.typingStart chat) now)])
          (if chat ∈ e.localTyping then e
            else { e with localTyping := chat :: e.localTyping }.enqueueNew (.typingStart chat)
              now) := by
        split
        · exact .refl e
        · rename_i hnew
          exact .start hnew rfl
      generalize (if chat ∈ e.localTyping then e
        else { e with localTyping := chat :: e.localTyping }.enqueueNew (.typingStart chat)
          now) = started at *
      refine hstarted.trans (.still ?_ fun _ ha => absurd ha enqueue_not_mem_sending)
      rw [publishSettled_localTyping, flush_localTyping]

/-- To submit an action that is no typing state is to stop typing first, if it is a message. -/
theorem submit_types (e : Engine τ) {a : Action} (ha : a.typing? = none) (now : Instant) :
    Types e (e.stepCalls (.submit a now)) (e.step (.submit a now)) := by
  dsimp only [stepCalls, step, submit]
  cases a.intent.check with
  | error fault => exact .refl e
  | ok _ =>
      dsimp only
      have hstopped : Types e (e.stopTypingCalls a now)
          (if a.kind = .sendMessage then e.stopTyping a.chat now else e) := by
        unfold stopTypingCalls stopTyping
        by_cases hkind : a.kind = .sendMessage
        · by_cases htyping : a.chat ∈ e.localTyping
          · rw [if_pos ⟨hkind, htyping⟩, if_pos hkind, if_pos htyping]
            exact .stop htyping rfl
          · rw [if_neg fun h => htyping h.2, if_pos hkind, if_neg htyping]
            exact .refl e
        · rw [if_neg fun h => hkind h.1, if_neg hkind]
          exact .refl e
      generalize (if a.kind = .sendMessage then e.stopTyping a.chat now else e) = stopped at *
      refine hstopped.trans (.still ?_ fun b hb => ?_)
      · rw [publishSettled_localTyping, flush_localTyping]
        split <;> rfl
      · rcases List.mem_cons.mp hb with heq | hb
        · exact Operation.enqueue.inj heq ▸ ha
        · exact absurd hb enqueue_not_mem_sending

/-- The input leaves it to the core to say that the user types or has stopped, and does not end the
login. -/
def Input.LeavesTyping : Input τ → Prop
  | .logout _ => False
  | .submit a _ => a.typing? = none
  | _ => True

/-- **Every input queues starts and ends of typing by turns**, unless it ends the login or puts one
forward itself. -/
theorem step_types (e : Engine τ) {i : Input τ} (hi : i.LeavesTyping) :
    Types e (e.stepCalls i) (e.step i) := by
  cases i with
  | connect credentials now =>
      dsimp only [stepCalls, step, connect]
      cases e.session.connect credentials now e.timers with
      | ok answer =>
          have hanswered : Types e [] { e with session := answer.1, timers := answer.2 } :=
            .still rfl nofun
          exact hanswered.trans (processSignals_types _ now)
      | error state => exact .refl e
  | logout now => exact hi.elim
  | submit a now => exact submit_types e hi now
  | keystroke chat now => exact keystroke_types e chat now
  | event connection event now =>
      have hheard : Types e [] { e with
          session := (e.session.handleEvent connection event now e.timers).1
          timers := (e.session.handleEvent connection event now e.timers).2 } := .still rfl nofun
      exact hheard.trans (processSignals_types _ now)
  | timers now =>
      have hdrained : Types e [] { e with timers := (e.timers.drain now).2 } := .still rfl nofun
      exact hdrained.trans (handleKeys_types _ _ now)
  | history chat generation result now =>
      refine .still ?_ nofun
      dsimp only [step, applyHistory]
      split
      · cases result with
        | ok messages =>
            obtain ⟨router, timers, cursors, store, heq⟩ :=
              e.deliverAll_eq (History.replay chat messages) now
            simp only [heq]
        | error reason => rfl
      · rfl
  | _ => exact .still rfl nofun

/-! ## 3. Runs -/

theorem run_types (e : Engine τ) {inputs : List (Input τ)}
    (hinputs : ∀ i ∈ inputs, i.LeavesTyping) : Types e (e.calls inputs) (e.run inputs) := by
  induction inputs generalizing e with
  | nil => exact .refl e
  | cons i rest ih =>
      obtain ⟨hi, hrest⟩ := List.forall_mem_cons.mp hinputs
      exact (step_types e hi).trans (ih (e.step i) hrest)

/-- The typing states of a chat whose frames the transport took in the run. -/
def typingSent (e : Engine τ) (inputs : List (Input τ)) (chat : String) : List Bool :=
  Outbox.typingFrames chat ((e.journal [] inputs).filterMap Session.Mark.frame?)

/-- The typing states of a chat that wait after the run. -/
def typingQueued (e : Engine τ) (inputs : List (Input τ)) (chat : String) : List Bool :=
  ((e.run inputs).outbox.queue chat).filterMap Action.typing?

/-- The typing states of a chat that were sent in the run, and behind them those that wait. -/
def typingRow (e : Engine τ) (inputs : List (Input τ)) (chat : String) : List Bool :=
  e.typingSent inputs chat ++ e.typingQueued inputs chat

/-- The typing states of a chat alternate, beginning with a start, and the last one is a start iff
the user is typing. A start that was sent last is still true, or its end waits. -/
structure ByTurns (e : Engine τ) (inputs : List (Input τ)) (chat : String) : Prop where
  chain : (false :: e.typingRow inputs chat).IsChain (· ≠ ·)
  last : chat ∈ (e.run inputs).localTyping ↔ (e.typingRow inputs chat).getLast? = some true
  held : (e.typingSent inputs chat).getLast? = some true →
    chat ∈ (e.run inputs).localTyping ∨ (e.typingQueued inputs chat).head? = some false

/-- **Starts and ends of typing alternate**, if nothing but keystrokes, their deadlines and messages
brought them about, and none of them was turned away, dropped or answered in the queue. -/
theorem run_typing {e : Engine τ} (he : e.Fresh) {inputs : List (Input τ)}
    (hinputs : ∀ i ∈ inputs, i.LeavesTyping) {chat : String}
    (hspared : ((e.queueRun inputs).lane chat).Spared)
    (hanswers : (Run.start e.outbox e.timers).Unanswered chat (e.calls inputs)) :
    e.ByTurns inputs chat := by
  have hnobody : e.localTyping = [] ∧ ∀ c, e.outbox.queue c = [] :=
    he.rule fun settings endpoint transport entropy ids store historyEnabled => ⟨rfl, fun _ => rfl⟩
  have hstart : ((Run.start e.outbox e.timers).lane chat).Shows
      (decide (chat ∈ e.localTyping)) := by
    rw [hnobody.1]
    exact .silence rfl (congrArg (List.filterMap _) (hnobody.2 chat))
  have hdone : ((e.queueRun inputs).lane chat).Shows (decide (chat ∈ (e.run inputs).localTyping)) :=
    Outbox.performAll_shows he.quiet.sound hstart hspared hanswers
      ((run_types e hinputs).turns (hnobody.1 ▸ .nil) chat)
  have hqueued : e.typingQueued inputs chat = ((e.queueRun inputs).lane chat).waiting := by
    rw [typingQueued, (publishes he.quiet inputs).outbox]
    rfl
  have hsent : e.typingSent inputs chat = ((e.queueRun inputs).lane chat).told := by
    rw [typingSent, journal_frames, Outbox.told_lane]
  have hrow : e.typingRow inputs chat = ((e.queueRun inputs).lane chat).typing := by
    rw [typingRow, hsent, hqueued, Outbox.Lane.typing]
  refine ⟨hrow ▸ hdone.chain, ?_, fun hstart => ?_⟩
  · rw [hrow, hdone.getLast?_iff, decide_eq_true_iff]
  · rw [hqueued]
    exact (hdone.held (hsent ▸ hstart)).imp_left of_decide_eq_true

/-- The user starts to type and the connection is lost. They send a message, and while a new
connection is opened they start to type again and stop. -/
def typingAway : List (Input MemoryTransport) :=
  [.connect ⟨"u1", "t1"⟩ 0, .keystroke "42" 1, .event 1 .opened 2,
    .event 1 (.frame "\x7b\"type\": \"auth_ok\"\x7d") 3, .event 1 .closed 4,
    .submit (.new "a1" (.text "42" "one") 5) 5, .timers 1000000000000,
    .keystroke "42" 1000000000001, .timers 1001000000001]

/-- The first start was sent, and its end waits; the second start is taken back. -/
theorem run_typing_away : ∃ e : Engine MemoryTransport, e.Fresh ∧
    (∀ i ∈ typingAway, i.LeavesTyping) ∧ ((e.queueRun typingAway).lane "42").Spared ∧
    (Run.start e.outbox e.timers).Unanswered "42" (e.calls typingAway) ∧
    e.typingSent typingAway "42" = [true] ∧ e.typingQueued typingAway "42" = [false] ∧
    e.ByTurns typingAway "42" := by
  have hinputs : ∀ i ∈ typingAway, i.LeavesTyping := by
    simp only [typingAway, List.forall_mem_cons, Input.LeavesTyping]
    exact ⟨trivial, trivial, trivial, trivial, trivial, rfl, trivial, trivial, trivial, nofun⟩
  obtain ⟨e, he, hspared, hanswers, hsent, hqueued⟩ := exists_fresh_of (fun e =>
    ((e.queueRun typingAway).lane "42").Spared ∧
      (Run.start e.outbox e.timers).Unanswered "42" (e.calls typingAway) ∧
      e.typingSent typingAway "42" = [true] ∧ e.typingQueued typingAway "42" = [false])
    (by decide +kernel)
  exact ⟨e, he, hinputs, hspared, hanswers, hsent, hqueued,
    run_typing he hinputs hspared hanswers⟩

end Parts

end RealtimeChat.Engine
