import Mathlib.Data.List.Induction
import RealtimeChat.Proofs.Outbox.Lane
import RealtimeChat.Proofs.Outbox.Provenance
/-!
# Chats do not interfere

Whatever is done with the actions of other chats, a chat does not notice: where it is left out of a
run, the queue of the chat and what is on record about it are the same after every operation. Runs
are compared in which no id is used for two actions and no frame is refused, since a refused id
depends on what is queued elsewhere, and a refused frame ends the flush of all chats.

* `queuedIn` -- the actions that operations queue;
* `Operation.foreign` -- the operation concerns an action of another chat;
* **`chats_apart`** -- the operations that concern actions of other chats can be left out.
-/

namespace RealtimeChat.Outbox

/-! ## 1. Operations on one chat -/

/-- The action that an operation queues. -/
def Operation.queued? : Operation → Option Action
  | .enqueue a => some a
  | _ => none

/-- The actions that operations queue. -/
def queuedIn (ops : List Operation) : List Action := ops.filterMap Operation.queued?

/-- The operation concerns one of these actions, which is about another chat. -/
def Operation.foreign (actions : List Action) (c : String) : Operation → Bool
  | .enqueue a => a.chat ≠ c
  | .acknowledge ack => actions.any fun a => a.id = ack.actionId ∧ a.chat ≠ c
  | .expire id _ => actions.any fun a => a.id = id ∧ a.chat ≠ c
  | _ => false

/-- A run with nothing queued and nothing on record. -/
def Run.new (settings : Settings.Queue) (retry : Backoff) (timers : Timers) : Run :=
  .start (.new settings retry) timers

/-! ## 2. What a run knows -/

/-- What an operation puts on record does not depend on what is there. -/
theorem perform_log (r : Run) (op : Operation) :
    (r.perform op).log = ((Run.start r.outbox r.timers).perform op).log ++ r.log := by
  have halike : r.Alike (Run.start r.outbox r.timers) r.log := ⟨rfl, rfl⟩
  exact (halike.perform op).log

/-- Only actions that operations queue go on record as such. -/
theorem mem_queuedIn_of_mem_log {ops : List Operation} {r : Run} {a : Action} {outcome : Enqueued}
    (h : .enqueued a outcome ∈ (r.performAll ops).log) (hr : .enqueued a outcome ∉ r.log) :
    a ∈ queuedIn ops := by
  induction ops generalizing r with
  | nil => exact absurd h hr
  | cons op rest ih =>
      by_cases hop : .enqueued a outcome ∈ (r.perform op).log
      · rw [perform_log] at hop
        cases eq_enqueue_of_mem_log ((List.mem_append.mp hop).resolve_right hr)
        exact List.mem_cons_self
      · have hrest : a ∈ queuedIn rest := ih h hop
        rw [queuedIn, List.filterMap_cons]
        split
        · exact hrest
        · exact List.mem_cons_of_mem _ hrest

section Known

variable (settings : Settings.Queue) (retry : Backoff) (timers : Timers) (ops : List Operation)

theorem new_path : Path ⟨.new settings retry, [], []⟩
    ((Run.new settings retry timers).performAll ops).stage :=
  performAll_path (r := Run.new settings retry timers) (new_sound settings retry) ops

theorem new_performAll_sound :
    ((Run.new settings retry timers).performAll ops).outbox.Sound :=
  ((new_path settings retry timers ops).sound (new_sound settings retry)).outbox

theorem new_performAll_settings :
    ((Run.new settings retry timers).performAll ops).outbox.capacity =
        (Outbox.new settings retry).capacity ∧
      ((Run.new settings retry timers).performAll ops).outbox.retry =
        (Outbox.new settings retry).retry :=
  (new_path settings retry timers ops).keeps
    (P := fun s => s.outbox.capacity = (Outbox.new settings retry).capacity ∧
      s.outbox.retry = (Outbox.new settings retry).retry)
    (fun hm hs => ⟨hm.settings.1.trans hs.1, hm.settings.2.2.trans hs.2⟩) ⟨rfl, rfl⟩

/-- An id is known only when an action of it was to be queued. -/
theorem new_performAll_unknown {id : String} (hid : ∀ a ∈ queuedIn ops, a.id ≠ id) :
    ((Run.new settings retry timers).performAll ops).outbox.index.get? id = none ∧
      ((Run.new settings retry timers).performAll ops).outbox.settledIds.get? id = none :=
  Path.stranger (new_sound settings retry) (new_path settings retry timers ops) rfl rfl
    fun a _ ha => hid a (mem_queuedIn_of_mem_log ha List.not_mem_nil)

/-- Everybody in a line was queued by one of the operations. -/
theorem new_performAll_holds : ((Run.new settings retry timers).performAll ops).outbox.Holds
    fun x => ∃ a ∈ queuedIn ops, x = a.initial := by
  have hstart : (Outbox.new settings retry).Holds (OrQueued (fun _ => False) []) :=
    fun c x hx => absurd hx List.not_mem_nil
  have hdone := (new_path settings retry timers ops).keeps
    (P := fun s => s.outbox.Holds (OrQueued (fun _ => False) s.log)) Move.holds hstart
  intro c x hx
  rcases hdone c x hx with h | ⟨a, ha, rfl⟩
  · exact h.elim
  · exact ⟨a, mem_queuedIn_of_mem_log ha List.not_mem_nil, rfl⟩

end Known

/-! ## 3. Runs without the operations on other chats -/

section Apart

variable {r : Run} {actions : List Action} {c : String}

/-- **An operation that concerns an action of another chat** does nothing in the lane of this
one. -/
theorem react_foreign (hs : r.outbox.Sound)
    (hholds : r.outbox.Holds fun x => ∃ a ∈ actions, x = a.initial)
    (hdistinct : (actions.map (·.id)).Nodup) {op : Operation} (hop : op.foreign actions c = true)
    (capacity : Nat) (retry : Backoff) : (r.lane c).react capacity retry c op = r.lane c := by
  -- nobody in the queue of the chat has the id of an action that is about another one
  have habsent : ∀ id, (actions.any fun a => a.id = id ∧ a.chat ≠ c) = true →
      (r.lane c).queue.find? (·.id = id) = none := by
    intro id hid
    obtain ⟨b, hb, hfar⟩ := List.any_eq_true.mp hid
    obtain ⟨hbid, hbchat⟩ := of_decide_eq_true hfar
    refine List.find?_eq_none.mpr fun x hx => ?_
    simp only [decide_eq_true_eq]
    intro hxid
    have hline : x.initial ∈ r.outbox.line c := List.mem_map_of_mem hx
    obtain ⟨a, ha, hxa⟩ := hholds c x.initial hline
    have hsame : a = b := List.inj_on_of_nodup_map hdistinct ha hb
      ((Action.id_of_initial hxa).symm.trans (hxid.trans hbid.symm))
    have hchat : x.initial.chat = c := hs.home c x.initial hline
    rw [hxa, Action.initial_chat, hsame] at hchat
    exact hbchat hchat
  cases op with
  | enqueue a => exact if_neg (by simpa [Operation.foreign] using hop)
  | acknowledge ack => simp only [Lane.react, Lane.acknowledge, habsent _ hop]
  | expire id now => simp only [Lane.react, Lane.expire, habsent _ hop]
  | flush | disconnect | cancelAll | takeSettled => cases hop

end Apart

/-- The id of an action is new when the action is to be queued. -/
theorem id_new {past ops : List Operation} {a : Action}
    (hdistinct : ((queuedIn ops).map (·.id)).Nodup) (hpast : past ++ [.enqueue a] <+: ops) :
    ∀ b ∈ queuedIn past, b.id ≠ a.id := by
  obtain ⟨later, rfl⟩ := hpast
  have hsplit : queuedIn (past ++ [.enqueue a] ++ later) =
      queuedIn past ++ a :: queuedIn later := by
    simp only [queuedIn, List.append_assoc, List.filterMap_append]
    rfl
  intro b hb hid
  rw [hsplit, List.map_append, List.map_cons] at hdistinct
  refine (List.nodup_append.mp hdistinct).2.2 b.id (List.mem_map_of_mem hb) a.id ?_ hid
  exact List.mem_cons_self

section Runs

variable (settings : Settings.Queue) (retry : Backoff) (timers : Timers)

/-- A lane takes the next operation of a run. -/
theorem performAll_concat_lane {past : List Operation} {op : Operation}
    (haccepts : op.Accepting) (hnew : ∀ a, op = .enqueue a → ∀ b ∈ queuedIn past, b.id ≠ a.id)
    (c : String) :
    ((Run.new settings retry timers).performAll (past ++ [op])).lane c =
      (((Run.new settings retry timers).performAll past).lane c).react
        (Outbox.new settings retry).capacity (Outbox.new settings retry).retry c op := by
  obtain ⟨hcapacity, hretry⟩ := new_performAll_settings settings retry timers past
  rw [← hcapacity, ← hretry, Run.performAll, List.foldl_append]
  exact perform_lane (new_performAll_sound settings retry timers past) haccepts
    (fun a ha => new_performAll_unknown settings retry timers past (hnew a ha)) c

/-- The lane of a chat is the same without the operations that concern actions of other chats. -/
theorem lane_apart {ops : List Operation} (hdistinct : ((queuedIn ops).map (·.id)).Nodup)
    (haccepts : ∀ op ∈ ops, op.Accepting) (c : String) {past : List Operation}
    (hpast : past <+: ops) :
    ((Run.new settings retry timers).performAll
      (past.filter fun op => !op.foreign (queuedIn ops) c)).lane c =
      ((Run.new settings retry timers).performAll past).lane c := by
  induction past using List.reverseRecOn with
  | nil => rfl
  | append_singleton past op ih =>
      have hbefore : past <+: ops := (List.prefix_append past [op]).trans hpast
      have hop : op.Accepting := haccepts op (hpast.subset (by simp))
      have hnew : ∀ a, op = .enqueue a → ∀ b ∈ queuedIn past, b.id ≠ a.id :=
        fun a ha => id_new hdistinct (ha ▸ hpast)
      rw [performAll_concat_lane settings retry timers hop hnew, List.filter_append]
      cases hforeign : op.foreign (queuedIn ops) c with
      | true =>
          have hholds : ((Run.new settings retry timers).performAll past).outbox.Holds
              fun x => ∃ a ∈ queuedIn ops, x = a.initial := by
            intro d x hx
            obtain ⟨a, ha, rfl⟩ := new_performAll_holds settings retry timers past d x hx
            exact ⟨a, (hbefore.sublist.filterMap Operation.queued?).subset ha, rfl⟩
          have hsound := new_performAll_sound settings retry timers past
          rw [react_foreign hsound hholds hdistinct hforeign,
            List.filter_cons_of_neg (by simp [hforeign]), List.filter_nil, List.append_nil]
          exact ih hbefore
      | false =>
          -- what was left out makes no id known
          have hfewer : ∀ a, op = .enqueue a → ∀ b ∈ queuedIn
              (past.filter fun op => !op.foreign (queuedIn ops) c), b.id ≠ a.id :=
            fun a ha b hb => hnew a ha b
              ((List.filter_sublist.filterMap Operation.queued?).subset hb)
          rw [List.filter_cons_of_pos (by simp [hforeign]), List.filter_nil,
            performAll_concat_lane settings retry timers hop hfewer, ih hbefore]

end Runs

/-- **Chats do not interfere.** When no id is used for two actions and no frame is refused, the
operations that concern actions of other chats can be left out of a run: after each of the others
the queue of a chat and what is on record about it, its frames and settlements among them, are the
same. -/
theorem chats_apart (settings : Settings.Queue) (retry : Backoff) (timers : Timers)
    {ops : List Operation} (hdistinct : ((queuedIn ops).map (·.id)).Nodup)
    (haccepts : ∀ op ∈ ops, op.Accepting) (c : String) {past : List Operation}
    (hpast : past <+: ops) :
    let r := Run.new settings retry timers
    let own := past.filter fun op => !op.foreign (queuedIn ops) c
    (r.performAll own).outbox.queue c = (r.performAll past).outbox.queue c ∧
      about c (r.performAll own).log = about c (r.performAll past).log := by
  have hlane := lane_apart settings retry timers hdistinct haccepts c hpast
  exact ⟨congrArg Lane.queue hlane, congrArg Lane.record hlane⟩

/-- Two chats are at work at the same time: what is sent in chat 43 is not acknowledged, while a
message of chat 42 is, and the connection is lost in between. -/
def twoChats : List Operation :=
  let flush (now : Instant) : Operation := .flush (fun (_ : Unit) _ => (.ok (), ())) () now
  [.enqueue (.new "a1" (.text "42" "one") 0), .enqueue (.new "b1" (.text "43" "two") 0), flush 1,
    .enqueue (.new "b2" (.typingStart "43") 2), .enqueue (.new "a2" (.text "42" "three") 3),
    .expire "b1" 4, .acknowledge ⟨"a1", .applied, none, some "m1"⟩, flush 5, .disconnect, flush 6]

/-- Chat 42 does not notice what happens in chat 43. -/
theorem chats_apart_two :
    let r := Run.new { maxPerChat := 2 } ⟨1, 2, 3, .zero false⟩ .empty
    let own := twoChats.filter fun op => !op.foreign (queuedIn twoChats) "42"
    ((queuedIn twoChats).map (·.id)).Nodup ∧ (∀ op ∈ twoChats, op.Accepting) ∧
      twoChats <+: twoChats ∧ own.length = 7 ∧
      (r.performAll own).outbox.queue "42" = (r.performAll twoChats).outbox.queue "42" ∧
      about "42" (r.performAll own).log = about "42" (r.performAll twoChats).log := by
  have hdistinct : ((queuedIn twoChats).map (·.id)).Nodup := by decide
  have haccepts : ∀ op ∈ twoChats, op.Accepting := by simp [twoChats, Operation.Accepting]
  exact ⟨hdistinct, haccepts, List.prefix_refl _, by decide,
    chats_apart _ _ _ hdistinct haccepts "42" (List.prefix_refl _)⟩

end RealtimeChat.Outbox
