import RealtimeChat.Proofs.Outbox.Deadlines
/-!
# Each chat of an outbox is a lane of its own

The chats of an outbox share its index, its memory of settled ids and the walk of a flush. Still,
what an operation does in a chat is decided by the queue of this chat alone: a chat is a machine of
its own, which takes every operation on the outbox and lets those about other chats pass.

* `about` -- what is on record about a chat, `Lane` -- its queue and this record;
* `Lane.react` -- what an operation does in a lane;
* **`flush_lane`** -- where no frame is refused, a flush passes each queue as if it were the only
  one;
* **`perform_lane`** -- every operation does in a chat what its lane says.
-/

namespace RealtimeChat

/-! ## 1. What is on record about a chat -/

/-- The chat that a frame is about, if it is about one. -/
def Outgoing.chat? : Outgoing → Option String
  | .message _ chat .. => some chat
  | .typing _ chat _ => some chat
  | .read _ chat _ => some chat
  | .auth .. => none
  | .ping => none

theorem Action.frame_chat (a : Action) : a.frame.chat? = some a.chat := by
  obtain ⟨id, intent, created, retries, state⟩ := a
  cases intent <;> rfl

namespace Outbox

/-- The chat that a mark is about, if it is about one. -/
def Mark.chat? : Mark → Option String
  | .enqueued a _ => some a.chat
  | .wrote frame => frame.chat?
  | .settled s => some s.chat

/-- What is on record about a chat. -/
def about (c : String) (log : List Mark) : List Mark := log.filter (·.chat? = some c)

theorem about_append (c : String) (log log' : List Mark) :
    about c (log ++ log') = about c log ++ about c log' := List.filter_append ..

theorem about_settled (c : String) (l : List Settlement) :
    about c ((l.map .settled).reverse) = ((l.filter (·.chat = c)).map .settled).reverse := by
  rw [about, List.filter_reverse, List.filter_map]
  simp only [Function.comp_def, Mark.chat?, Option.some.injEq]

/-- The frames of actions about a chat. -/
theorem about_frames (c : String) (sent : List Action) :
    about c ((sent.map fun a => Mark.wrote a.frame).reverse) =
      ((sent.filter (·.chat = c)).map fun a => Mark.wrote a.frame).reverse := by
  rw [about, List.filter_reverse, List.filter_map]
  simp only [Function.comp_def, Mark.chat?, Action.frame_chat, Option.some.injEq]

/-! ## 2. Lanes -/

/-- What is to be seen of a chat. -/
structure Lane where
  queue : List Action
  /-- The newest mark stands in front. -/
  record : List Mark

/-- What is to be seen of a chat in a run. -/
def Run.lane (r : Run) (c : String) : Lane := ⟨r.outbox.queue c, about c r.log⟩

namespace Lane

/-- Go on with another queue. These marks are put on record, and in front of them these settlements,
the last one first. -/
def note (l : Lane) (queue : List Action) (settled : List Settlement) (marks : List Mark) : Lane :=
  ⟨queue, (settled.map .settled).reverse ++ (marks ++ l.record)⟩

/-- Queue an action; in a full queue the oldest one that is not in flight gives way to it. -/
def accept (capacity : Nat) (l : Lane) (a : Action) : Lane :=
  if l.queue.length < capacity then l.note (l.queue ++ [a]) [] [.enqueued a .queued]
  else
    match l.queue.find? (·.mayGiveWay) with
    | some oldest =>
      l.note (l.queue.eraseP (·.mayGiveWay) ++ [a]) [oldest.settlement .dropped]
        [.enqueued a .queued]
    | none => l.note l.queue [a.settlement .dropped] [.enqueued a .overflow]

/-- Queue an action that nobody knows. -/
def enqueue (capacity : Nat) (l : Lane) (a : Action) : Lane :=
  match a.kind, l.queue.find? (·.startsTyping) with
  | .typingStop, some start =>
    l.note (l.queue.eraseP (·.startsTyping)) [start.settlement .collapsed, a.settlement .collapsed]
      [.enqueued a .collapsed]
  | .typingStart, some _ => l.note l.queue [a.settlement .collapsed] [.enqueued a .coalesced]
  | _, _ => l.accept capacity a

/-- What becomes of a queue when every frame is taken. -/
structure Sent where
  left : List Action
  /-- The actions whose frames are sent. -/
  sent : List Action
  /-- Those among them that leave the queue. -/
  done : List Action

/-- Send typing states as long as they stand in front, and the first action that needs an
acknowledgement. -/
def send : List Action → Sent
  | [] => ⟨[], [], []⟩
  | a :: rest =>
    if a.state ≠ .pending then ⟨a :: rest, [], []⟩
    else if a.kind.requiresAck then ⟨{ a with state := .inFlight } :: rest, [a], []⟩
    else ⟨(send rest).left, a :: (send rest).sent, a :: (send rest).done⟩

/-- Send what may be sent. -/
def flush (l : Lane) : Lane :=
  l.note (send l.queue).left ((send l.queue).done.map (·.settlement (.delivered none false)))
    ((send l.queue).sent.map fun a => Mark.wrote a.frame).reverse

/-- Settle the action that an answer is about. -/
def acknowledge (l : Lane) (ack : Ack) : Lane :=
  match l.queue.find? (·.id = ack.actionId) with
  | none => l
  | some a => l.note (l.queue.eraseP (·.id = ack.actionId)) [a.settlement (outcomeOf ack)] []

/-- Change the action of this id. -/
def modify (l : Lane) (id : String) (f : Action → Action) : Lane :=
  { l with queue := l.queue.map fun a => if a.id = id then f a else a }

/-- The deadline of an action has passed. -/
def expire (retry : Backoff) (l : Lane) (id : String) : Lane :=
  match l.queue.find? (·.id = id) with
  | none => l
  | some a =>
    match a.state with
    | .inFlight =>
      if retry.exhausted (a.retries + 1) then
        l.note (l.queue.eraseP (·.id = id)) [a.settlement (.failed (a.retries + 1))] []
      else l.modify id fun b => { b with retries := a.retries + 1, state := .waiting }
    | .waiting => l.modify id fun b => { b with state := .pending }
    | .pending => l

/-- The connection is lost. -/
def disconnect (l : Lane) : Lane :=
  { l with queue := l.queue.map fun a =>
      if a.state = .inFlight then { a with state := .pending } else a }

/-- Every queued action is cancelled. -/
def cancelAll (l : Lane) : Lane := l.note [] (l.queue.map (·.settlement .cancelled)) []

/-- **What an operation on the outbox does in the lane of a chat.** -/
def react (capacity : Nat) (retry : Backoff) (c : String) (l : Lane) : Operation → Lane
  | .enqueue a => if a.chat = c then l.enqueue capacity a else l
  | .flush .. => l.flush
  | .acknowledge ack => l.acknowledge ack
  | .expire id _ => l.expire retry id
  | .disconnect => l.disconnect
  | .cancelAll => l.cancelAll
  | .takeSettled => l

end Lane

section Perform

variable {r : Run} {o' : Outbox} {timers : Timers} {c d : String} {l : List Settlement}
  {marks : List Mark}

/-- What a chat sees of an operation that settles these and leaves these marks. -/
theorem note_lane (hsettled : o'.settled = r.outbox.settled ++ l) :
    (r.note o' timers marks).lane c =
      (r.lane c).note (o'.queue c) (l.filter (·.chat = c)) (about c marks) := by
  simp only [Run.lane, Run.note, Lane.note, hsettled, List.drop_left, about_append, about_settled]

/-- **What is done in one chat is seen there**, and nowhere else. -/
theorem note_lane_at (queue : List Action) (next : Lane → Lane)
    (hq : ∀ x, o'.queue x = if d = x then queue else r.outbox.queue x)
    (hsettled : o'.settled = r.outbox.settled ++ l) (hl : ∀ s ∈ l, s.chat = d)
    (hmarks : ∀ mark ∈ marks, mark.chat? = some d)
    (hnext : next (r.lane d) = (r.lane d).note queue l marks) :
    (r.note o' timers marks).lane c = if d = c then next (r.lane c) else r.lane c := by
  rw [note_lane hsettled, hq]
  split
  · rename_i hd
    subst hd
    have hall : l.filter (·.chat = d) = l := List.filter_eq_self.mpr (by simpa using hl)
    have hkeep : about d marks = marks := List.filter_eq_self.mpr (by simpa using hmarks)
    rw [hall, hkeep, hnext]
  · rename_i hd
    have hnone : l.filter (·.chat = c) = [] :=
      List.filter_eq_nil_iff.mpr fun s hs => by simpa [hl s hs] using hd
    have hdrop : about c marks = [] :=
      List.filter_eq_nil_iff.mpr fun mark hmark => by simpa [hmarks mark hmark] using hd
    rw [hnone, hdrop]
    rfl

/-! ## 3. Queueing -/

section Enqueue

variable {a : Action} {outcome : Enqueued}

/-- Queueing leaves one mark, about the chat of the action. -/
theorem enqueued_chat : ∀ mark ∈ [Mark.enqueued a outcome], mark.chat? = some a.chat :=
  fun _ hmark => List.mem_singleton.mp hmark ▸ rfl

/-- Nothing is done in another chat when nothing is done in this one. -/
theorem queue_self (o : Outbox) (d x : String) :
    o.queue x = if d = x then o.queue d else o.queue x := by
  split
  · rename_i hd
    rw [hd]
  · rfl

theorem queue_push_at {o : Outbox} {queue : List Action}
    (hq : ∀ x, o.queue x = if a.chat = x then queue else r.outbox.queue x) (x : String) :
    (o.push a).queue x = if a.chat = x then queue ++ [a] else r.outbox.queue x := by
  rw [queue_push, hq]
  split <;> rfl

theorem accept_lane (hs : r.outbox.Sound) (timers : Timers) :
    (r.note (r.outbox.accept timers a).2.1 (r.outbox.accept timers a).2.2
      [.enqueued a (r.outbox.accept timers a).1]).lane c =
      if a.chat = c then (r.lane c).accept r.outbox.capacity a else r.lane c := by
  let next (l : Lane) : Lane := l.accept r.outbox.capacity a
  unfold accept
  dsimp only
  split
  · rename_i hroom
    exact note_lane_at _ next (queue_push_at (queue_self _ _)) (List.append_nil _).symm
      (fun _ h => absurd h List.not_mem_nil) enqueued_chat (if_pos hroom)
  · rename_i hfull
    split
    · rename_i oldest hfind
      refine note_lane_at ((r.outbox.queue a.chat).eraseP (·.mayGiveWay) ++ [a]) next
        (queue_push_at fun x => ?_) (settle_settled _ oldest .dropped) ?_ enqueued_chat ?_
      · rw [settle_queue]
        exact queue_insert _ _ _ _
      · exact fun s h => List.mem_singleton.mp h ▸ hs.home_of_find? hfind
      · simp only [next, Lane.accept, Run.lane, if_neg hfull, hfind]
    · rename_i hfind
      refine note_lane_at (r.outbox.queue a.chat) next (fun x => ?_)
        (settle_settled _ a .dropped) ?_ enqueued_chat ?_
      · rw [settle_queue]
        exact queue_self _ _ x
      · exact fun s h => List.mem_singleton.mp h ▸ rfl
      · simp only [next, Lane.accept, Run.lane, if_neg hfull, hfind]

/-- **Queueing an action that nobody knows.** -/
theorem enqueue_lane (hs : r.outbox.Sound) (hi : r.outbox.index.get? a.id = none)
    (hm : r.outbox.settledIds.get? a.id = none) :
    (r.perform (.enqueue a)).lane c =
      if a.chat = c then (r.lane c).enqueue r.outbox.capacity a else r.lane c := by
  have hnew : ¬ (r.outbox.index.contains a.id || r.outbox.settledIds.contains a.id) = true := by
    simp [OrderedMap.contains, hi, hm]
  let next (l : Lane) : Lane := l.enqueue r.outbox.capacity a
  rw [Run.perform, Outbox.enqueue, if_neg hnew]
  dsimp only
  split
  · rename_i start hkind hfind
    refine note_lane_at ((r.outbox.queue a.chat).eraseP (·.startsTyping)) next (fun x => ?_)
      (l := [start.settlement .collapsed, a.settlement .collapsed]) ?_ ?_ enqueued_chat ?_
    · rw [settle_queue, settle_queue]
      exact queue_setQueue _ _ _ _
    · rw [settle_settled, settle_settled, List.append_assoc]
      rfl
    · intro s hmem
      rcases List.mem_cons.mp hmem with rfl | hmem
      · exact hs.home_of_find? hfind
      · exact List.mem_singleton.mp hmem ▸ rfl
    · simp only [next, Lane.enqueue, Run.lane, hkind, hfind]
  · rename_i hkind hfind
    refine note_lane_at (r.outbox.queue a.chat) next (fun x => ?_)
      (settle_settled _ a .collapsed) ?_ enqueued_chat ?_
    · rw [settle_queue]
      exact queue_self _ _ x
    · exact fun s h => List.mem_singleton.mp h ▸ rfl
    · simp only [next, Lane.enqueue, Run.lane, hkind, hfind]
  · rename_i hstop hstart
    rw [accept_lane hs]
    split
    · rename_i hc
      subst hc
      unfold Lane.enqueue
      split
      · rename_i hkind hfind
        exact (hstop _ hkind hfind).elim
      · rename_i hkind hfind
        exact (hstart _ hkind hfind).elim
      · rfl
    · rfl

end Enqueue

/-! ## 4. Answers, deadlines, ends -/

/-- Nothing is settled and nothing goes on record. -/
theorem note_lane_silent (hsettled : o'.settled = r.outbox.settled) :
    (r.note o' timers []).lane c = { r.lane c with queue := o'.queue c } :=
  note_lane (hsettled.trans (List.append_nil _).symm)

/-- Who has an id is found in the queue of their chat, and in no other one. -/
theorem Sound.find?_iff {o : Outbox} (hs : o.Sound) {id : String} {a : Action} :
    (o.queue c).find? (·.id = id) = some a ↔ o.get? id = some a ∧ a.chat = c := by
  constructor
  · intro h
    have hid : a.id = id := by simpa using List.find?_some h
    have hindex : o.index.get? a.id = some c :=
      hs.found c a.initial (List.mem_map_of_mem (List.mem_of_find?_eq_some h))
    refine ⟨?_, hs.home_of_find? h⟩
    rw [Outbox.get?, ← hid, hindex, Option.bind_some, hid, h]
  · rintro ⟨h, rfl⟩
    obtain ⟨d, -, hfind⟩ := Option.bind_eq_some_iff.mp h
    exact hs.home_of_find? hfind ▸ hfind

theorem Sound.find?_eq_none {o : Outbox} (hs : o.Sound) {id : String}
    (h : ∀ a, o.get? id = some a → a.chat ≠ c) : (o.queue c).find? (·.id = id) = none := by
  cases hfind : (o.queue c).find? (·.id = id) with
  | none => rfl
  | some a =>
      obtain ⟨hget, hchat⟩ := hs.find?_iff.mp hfind
      exact absurd hchat (h a hget)

/-- Whoever is found is taken out of the queue of their chat. -/
theorem Sound.take?_eq {o : Outbox} (hs : o.Sound) (id : String) :
    o.take? id = (o.get? id).map fun a =>
      (a, { o with index := o.index.erase id }.setQueue a.chat
        ((o.queue a.chat).eraseP (·.id = id))) := by
  unfold take? get?
  cases hindex : o.index.get? id with
  | none => rfl
  | some d =>
      rw [Option.bind_some, Option.bind_some]
      cases hfind : (o.queue d).find? (·.id = id) with
      | none => rfl
      | some a => rw [Option.map_some, Option.map_some, hs.home_of_find? hfind]

/-- An operation on one action does nothing in the lanes of other chats. -/
theorem lane_of_get? (hs : r.outbox.Sound) {id : String} {a : Action}
    (hget : r.outbox.get? id = some a) {next : Lane → Lane}
    (hother : ∀ l : Lane, l.queue.find? (·.id = id) = none → next l = l) :
    (if a.chat = c then next (r.lane c) else r.lane c) = next (r.lane c) := by
  split
  · rfl
  · rename_i hc
    refine (hother (r.lane c) (hs.find?_eq_none fun b hb => ?_)).symm
    exact Option.some.inj (hget.symm.trans hb) ▸ hc

section Keyed

variable {id : String} {a : Action} {next : Lane → Lane}

/-- Who has this id is settled in the lane of their chat. -/
theorem settle_lane (hs : r.outbox.Sound) (hget : r.outbox.get? id = some a)
    (outcome : Action.Outcome)
    (hother : ∀ l : Lane, l.queue.find? (·.id = id) = none → next l = l)
    (hnext : ∀ l : Lane, l.queue.find? (·.id = id) = some a →
      next l = l.note (l.queue.eraseP (·.id = id)) [a.settlement outcome] []) :
    (r.note (({ r.outbox with index := r.outbox.index.erase id }.setQueue a.chat
      ((r.outbox.queue a.chat).eraseP (·.id = id))).settle a outcome) timers []).lane c =
      next (r.lane c) := by
  rw [← lane_of_get? hs hget hother]
  refine note_lane_at ((r.outbox.queue a.chat).eraseP (·.id = id)) next (fun x => ?_)
    (settle_settled _ a outcome) ?_ (fun _ h => absurd h List.not_mem_nil) ?_
  · rw [settle_queue]
    exact queue_setQueue _ _ _ _
  · exact fun s h => List.mem_singleton.mp h ▸ rfl
  · exact hnext _ (hs.find?_iff.mpr ⟨hget, rfl⟩)

/-- Who has this id is changed in the lane of their chat. -/
theorem modify_lane (hs : r.outbox.Sound) (hget : r.outbox.get? id = some a)
    (f : Action → Action) (hother : ∀ l : Lane, l.queue.find? (·.id = id) = none → next l = l)
    (hnext : ∀ l : Lane, l.queue.find? (·.id = id) = some a → next l = l.modify id f) :
    (r.note (r.outbox.modify id f) timers []).lane c = next (r.lane c) := by
  have hindex : r.outbox.index.get? id = some a.chat := by
    obtain ⟨d, hd, hfind⟩ := Option.bind_eq_some_iff.mp hget
    rw [hd, hs.home_of_find? hfind]
  have hsettled : (r.outbox.modify id f).settled = r.outbox.settled := by
    unfold modify
    split <;> rfl
  rw [← lane_of_get? hs hget hother]
  refine note_lane_at ((r.outbox.queue a.chat).map fun a => if a.id = id then f a else a) next
    (fun x => ?_) (hsettled.trans (List.append_nil _).symm) (fun _ h => absurd h List.not_mem_nil)
    (fun _ h => absurd h List.not_mem_nil) ?_
  · rw [queue_modify, hindex]
    by_cases hx : a.chat = x
    · subst hx
      rw [if_pos rfl, if_pos rfl]
    · rw [if_neg fun h => hx (Option.some.inj h), if_neg hx]
  · exact hnext _ (hs.find?_iff.mpr ⟨hget, rfl⟩)

end Keyed

theorem acknowledge_lane (hs : r.outbox.Sound) (ack : Ack) :
    (r.perform (.acknowledge ack)).lane c = (r.lane c).acknowledge ack := by
  have hother : ∀ l : Lane, l.queue.find? (·.id = ack.actionId) = none → l.acknowledge ack = l :=
    fun l hl => by rw [Lane.acknowledge, hl]
  rw [Run.perform, acknowledge, hs.take?_eq]
  cases hget : r.outbox.get? ack.actionId with
  | none =>
      rw [hother _ (hs.find?_eq_none fun a ha => by simp [hget] at ha)]
      exact note_lane_silent rfl
  | some a =>
      exact settle_lane hs hget _ hother fun l hl => by rw [Lane.acknowledge, hl]

theorem expire_lane (hs : r.outbox.Sound) (id : String) (now : Instant) :
    (r.perform (.expire id now)).lane c = (r.lane c).expire r.outbox.retry id := by
  have hother : ∀ l : Lane, l.queue.find? (·.id = id) = none → l.expire r.outbox.retry id = l :=
    fun l hl => by rw [Lane.expire, hl]
  rw [Run.perform, expire]
  cases hget : r.outbox.get? id with
  | none =>
      rw [hother _ (hs.find?_eq_none fun a ha => by simp [hget] at ha)]
      exact note_lane_silent rfl
  | some a =>
      dsimp only
      cases hstate : a.state with
      | inFlight =>
          dsimp only
          by_cases hretry : r.outbox.retry.exhausted (a.retries + 1) = true
          · rw [if_pos hretry, hs.take?_eq, hget]
            exact settle_lane hs hget _ hother fun l hl => by
              simp only [Lane.expire, hl, hstate, if_pos hretry]
          · rw [if_neg hretry]
            exact modify_lane hs hget _ hother fun l hl => by
              simp only [Lane.expire, hl, hstate, if_neg hretry]
      | waiting =>
          exact modify_lane hs hget _ hother fun l hl => by simp only [Lane.expire, hl, hstate]
      | pending =>
          have hidle : (r.note r.outbox r.timers []).lane c = r.lane c := note_lane_silent rfl
          refine hidle.trans (Eq.trans ?_ (lane_of_get? hs hget hother))
          by_cases hc : a.chat = c
          · have hfind : (r.lane c).queue.find? (·.id = id) = some a :=
              hs.find?_iff.mpr ⟨hget, hc⟩
            simp only [if_pos hc, Lane.expire, hfind, hstate]
          · rw [if_neg hc]

theorem disconnect_lane : (r.perform .disconnect).lane c = (r.lane c).disconnect := by
  have hsettled : (r.outbox.disconnect r.timers).1.settled = r.outbox.settled := rfl
  show (r.note (r.outbox.disconnect r.timers).1 _ []).lane c = _
  rw [note_lane_silent hsettled, disconnect_recast]
  rfl

theorem foldl_settle_settled (outcome : Action.Outcome) (o : Outbox) (actions : List Action) :
    (actions.foldl (fun o a => o.settle a outcome) o).settled =
      o.settled ++ actions.map (·.settlement outcome) := by
  have hfold := congrArg Outbox.settled (foldl_settle_withIndex outcome o o.index actions)
  rw [← settleAll_settled outcome o actions]
  exact hfold

theorem settlements_of (c : String) (outcome : Action.Outcome) (actions : List Action) :
    (actions.map (·.settlement outcome)).filter (·.chat = c) =
      (actions.filter (·.chat = c)).map (·.settlement outcome) := by
  rw [List.filter_map]
  rfl

theorem cancelAll_lane (hs : r.outbox.Sound) :
    (r.perform .cancelAll).lane c = (r.lane c).cancelAll := by
  have hqueue : (r.outbox.cancelAll r.timers).1.queue c = [] := queue_foldl_settle .cancelled _ _ c
  have hsettled : (r.outbox.cancelAll r.timers).1.settled = r.outbox.settled ++
      r.outbox.chats.values.flatten.map (·.settlement .cancelled) :=
    foldl_settle_settled .cancelled _ _
  show (r.note (r.outbox.cancelAll r.timers).1 _ []).lane c = _
  rw [note_lane hsettled, settlements_of, ← hs.queue_eq_filter, hqueue]
  rfl

/-! ## 5. Sending -/

section Flush

variable {σ : Type} {send : σ → Outgoing → Except SendFault Unit × σ}

/-- **Where no frame is refused**, a flush passes a queue as if it were the only one. -/
theorem flushQueue_accepting (haccepts : ∀ sink frame, (send sink frame).1 = .ok ())
    (deadline : Instant) (queue : List Action) (f : Flush (σ × List Outgoing))
    (hf : f.halted = false) : ∃ sink timers written,
      flushQueue (recorded send) deadline f queue = ((Lane.send queue).left,
        ⟨(sink, ((Lane.send queue).sent.map Action.frame).reverse ++ f.sink.2), timers, written,
          f.done ++ (Lane.send queue).done, false⟩) := by
  induction queue generalizing f with
  | nil => exact ⟨f.sink.1, f.timers, f.written, by simp [flushQueue, Lane.send, ← hf]⟩
  | cons a rest ih =>
      by_cases ha : a.state = .pending
      · have hsend : send f.sink.1 a.frame = (.ok (), (send f.sink.1 a.frame).2) :=
          Prod.ext (haccepts _ _) rfl
        have hrecord := recorded_ok (s := f.sink) hsend
        cases hk : a.kind.requiresAck with
        | true =>
            refine ⟨(send f.sink.1 a.frame).2, f.timers.schedule (.action a.id) deadline,
              f.written + 1, ?_⟩
            rw [flushQueue_fly hf ha hrecord hk, Lane.send, if_neg (by simp [ha]), if_pos hk]
            simp [← hf]
        | false =>
            obtain ⟨sink, timers, written, hrest⟩ := ih { f with
              sink := ((send f.sink.1 a.frame).2, a.frame :: f.sink.2)
              written := f.written + 1
              done := f.done ++ [a] } hf
            refine ⟨sink, timers, written, ?_⟩
            rw [flushQueue_land hf ha hrecord hk, hrest, Lane.send, if_neg (by simp [ha]),
              if_neg (by simp [hk])]
            simp
      · refine ⟨f.sink.1, f.timers, f.written, ?_⟩
        rw [flushQueue_stop (.inr ha), Lane.send, if_pos ha]
        simp [← hf]

theorem walk_accepting (haccepts : ∀ sink frame, (send sink frame).1 = .ok ())
    (deadline : Instant) (entries : List (String × List Action)) (f : Flush (σ × List Outgoing))
    (hf : f.halted = false) : ∃ sink timers written,
      OrderedMap.walkEntries (fun f _ queue => flushQueue (recorded send) deadline f queue) f
          entries =
        (entries.map fun e => (e.1, (Lane.send e.2).left),
          ⟨(sink, ((entries.flatMap fun e => (Lane.send e.2).sent).map Action.frame).reverse ++
            f.sink.2), timers, written,
            f.done ++ entries.flatMap fun e => (Lane.send e.2).done, false⟩) := by
  induction entries generalizing f with
  | nil => exact ⟨f.sink.1, f.timers, f.written, by simp [OrderedMap.walkEntries, ← hf]⟩
  | cons e rest ih =>
      obtain ⟨sink, timers, written, hfirst⟩ := flushQueue_accepting haccepts deadline e.2 f hf
      obtain ⟨sink', timers', written', hrest⟩ := ih (flushQueue (recorded send) deadline f e.2).2
        (by rw [hfirst])
      refine ⟨sink', timers', written', ?_⟩
      rw [hfirst] at hrest
      simp only [OrderedMap.walkEntries, hfirst, hrest]
      simp

/-- What stands in the queues after a part of each queue was picked out. -/
theorem Sound.picked {o : Outbox} (hs : o.Sound) (pick : List Action → List Action)
    (hpick : ∀ queue, ∀ a ∈ pick queue, a ∈ queue) (hnil : pick [] = []) (c : String) :
    (o.chats.entries.flatMap fun e => pick e.2).filter (·.chat = c) = pick (o.queue c) := by
  have hflat : (o.chats.entries.flatMap fun e => pick e.2) =
      (o.chats.mapEntries fun _ queue => pick queue).values.flatten := by
    simp [OrderedMap.values, OrderedMap.mapEntries, List.flatMap_def, Function.comp_def]
  rw [hflat, OrderedMap.filter_flatten (fun k l hk a ha => ?_), OrderedMap.get?_mapEntries]
  · rw [Outbox.queue]
    cases o.chats.get? c with
    | none => exact hnil.symm
    | some queue => rfl
  · rw [OrderedMap.get?_mapEntries] at hk
    obtain ⟨queue, hqueue, rfl⟩ := Option.map_eq_some_iff.mp hk
    have hq : o.queue k = queue := by rw [Outbox.queue, hqueue]; rfl
    exact hs.home k a.initial (List.mem_map_of_mem (hq ▸ hpick queue a ha))

theorem send_done_sent (queue : List Action) :
    (∀ a ∈ (Lane.send queue).sent, a ∈ queue) ∧ ∀ a ∈ (Lane.send queue).done, a ∈ queue := by
  induction queue with
  | nil => simp [Lane.send]
  | cons a rest ih =>
      rw [Lane.send]
      split
      · simp
      · split
        · simp
        · exact ⟨fun b hb => (List.mem_cons.mp hb).elim (· ▸ List.mem_cons_self)
              fun hb => List.mem_cons_of_mem _ (ih.1 b hb),
            fun b hb => (List.mem_cons.mp hb).elim (· ▸ List.mem_cons_self)
              fun hb => List.mem_cons_of_mem _ (ih.2 b hb)⟩

/-- What becomes of the queues, the settlements and the frames when no frame is refused. -/
theorem flush_accepting (haccepts : ∀ sink frame, (send sink frame).1 = .ok ()) (o : Outbox)
    (sink : σ) (now : Instant) (timers : Timers) :
    (∀ c, (o.flush send sink now timers).2.1.queue c = (Lane.send (o.queue c)).left) ∧
      (o.flush send sink now timers).2.1.settled = o.settled ++
        (o.chats.entries.flatMap fun e => (Lane.send e.2).done).map
          (·.settlement (.delivered none false)) ∧
      o.framesOf send sink now timers =
        ((o.chats.entries.flatMap fun e => (Lane.send e.2).sent).map Action.frame).reverse := by
  let start : Flush (σ × List Outgoing) := ⟨(sink, []), timers, 0, [], false⟩
  let w := o.chats.walk
    (fun f _ queue => Outbox.flushQueue (recorded send) (now + o.ackTimeout) f queue) start
  obtain ⟨_, _, _, hwalk⟩ :=
    walk_accepting haccepts (now + o.ackTimeout) o.chats.entries start rfl
  have hdone : w.2.done = o.chats.entries.flatMap fun e => (Lane.send e.2).done :=
    congrArg (fun x => x.2.done) hwalk
  -- empty queues may go, and settling does not look at the queues
  have hflush : (o.flush send sink now timers).2.1 =
      (settleAll (.delivered none false) o w.2.done).withChats
        (w.1.filter fun _ queue => !queue.isEmpty) := by
    rw [flush_recorded]
    rfl
  refine ⟨fun c => ?_, ?_, ?_⟩
  · have hchats : w.1 = o.chats.mapEntries fun _ queue => (Lane.send queue).left :=
      OrderedMap.ext_entries (congrArg Prod.fst hwalk)
    rw [hflush]
    refine (queue_filter o w.1 c).trans ?_
    rw [hchats]
    show ((o.chats.mapEntries _).get? c).getD [] = (Lane.send ((o.chats.get? c).getD [])).left
    rw [OrderedMap.get?_mapEntries]
    cases o.chats.get? c <;> rfl
  · rw [hflush, ← hdone]
    exact settleAll_settled _ _ _
  · exact (congrArg (fun x => x.2.sink.2) hwalk).trans (List.append_nil _)

/-- **Where no frame is refused, a flush does in each chat what it would do if there were no other
one.** -/
theorem flush_lane (hs : r.outbox.Sound) (haccepts : ∀ sink frame, (send sink frame).1 = .ok ())
    (sink : σ) (now : Instant) :
    (r.perform (.flush send sink now)).lane c = (r.lane c).flush := by
  obtain ⟨hqueue, hsettled, hframes⟩ := flush_accepting haccepts r.outbox sink now r.timers
  have hsent := about_frames c (r.outbox.chats.entries.flatMap fun e => (Lane.send e.2).sent)
  rw [hs.picked (fun queue => (Lane.send queue).sent) (fun queue => (send_done_sent queue).1) rfl]
    at hsent
  show (r.note (r.outbox.flush send sink now r.timers).2.1 _
    ((r.outbox.framesOf send sink now r.timers).map .wrote)).lane c = _
  rw [note_lane hsettled, hqueue, hframes, List.map_reverse, List.map_map, settlements_of,
    hs.picked (fun queue => (Lane.send queue).done) (fun queue => (send_done_sent queue).2) rfl]
  exact congrArg (Lane.note _ _ _) hsent

end Flush

/-! ## 6. All operations -/

/-- The sink of a flush takes every frame. -/
def Operation.Accepting : Operation → Prop
  | .flush send .. => ∀ sink frame, (send sink frame).1 = .ok ()
  | _ => True

/-- **Every operation does in a chat what its lane says**, if no frame is refused and nobody knows
the action that is to be queued. -/
theorem perform_lane (hs : r.outbox.Sound) {op : Operation} (haccepts : op.Accepting)
    (hnew : ∀ a, op = .enqueue a →
      r.outbox.index.get? a.id = none ∧ r.outbox.settledIds.get? a.id = none) (c : String) :
    (r.perform op).lane c = (r.lane c).react r.outbox.capacity r.outbox.retry c op := by
  cases op with
  | enqueue a => exact enqueue_lane hs (hnew a rfl).1 (hnew a rfl).2
  | flush send sink now => exact flush_lane hs haccepts sink now
  | acknowledge ack => exact acknowledge_lane hs ack
  | expire id now => exact expire_lane hs id now
  | disconnect => exact disconnect_lane
  | cancelAll => exact cancelAll_lane hs
  | takeSettled => rfl

end Perform

end Outbox

end RealtimeChat
