import RealtimeChat.Outbox
import RealtimeChat.Proofs.OrderedMap
/-!
# Runs of an outbox and what they leave on record

An outbox is worked by its operations, one after the other and in any order, with any actions,
answers and deadlines and with any sink. What can be seen of that from outside is put on record:
each action that was to be queued with what became of it, each frame that a sink took, each
settlement. The newest mark stands in front.

* `Operation`, `Run.perform` -- one operation, `Run` -- outbox, timers and record;
* `Mark` -- one entry of the record;
* `ticket` -- when the action of an id was queued last;
* **`flush_seen`** -- a flush does the same into a sink and into a view of it;
* **`flush_recorded`** -- writing down the frames does not change what a flush does;
* `frames` -- the frames on record, which are those of the flushes.
-/

namespace RealtimeChat

/-- The action as it was when it was new: how often it was sent and how far it is is left out. -/
def Action.initial (a : Action) : Action := .new a.id a.intent a.created

/-- What an action is settled as. -/
def Action.settlement (a : Action) (outcome : Action.Outcome) : Settlement :=
  ⟨a.id, a.chat, a.kind, outcome⟩

namespace Action

@[simp] theorem initial_id (a : Action) : a.initial.id = a.id := rfl
@[simp] theorem initial_intent (a : Action) : a.initial.intent = a.intent := rfl
@[simp] theorem initial_chat (a : Action) : a.initial.chat = a.chat := rfl
@[simp] theorem initial_kind (a : Action) : a.initial.kind = a.kind := rfl
@[simp] theorem initial_frame (a : Action) : a.initial.frame = a.frame := rfl
@[simp] theorem initial_initial (a : Action) : a.initial.initial = a.initial := rfl

theorem frame_actionId (a : Action) : a.frame.actionId? = some a.id := by
  unfold Action.frame
  cases a.intent <;> rfl

/-- Frames name their actions. -/
theorem id_of_frame {a b : Action} (h : a.frame = b.frame) : a.id = b.id := by
  have hid := congrArg Outgoing.actionId? h
  rwa [frame_actionId, frame_actionId, Option.some.injEq] at hid

theorem id_of_initial {a b : Action} (h : a.initial = b.initial) : a.id = b.id := by
  rw [← a.initial_id, h, initial_id]

theorem intent_of_initial {a b : Action} (h : a.initial = b.initial) : a.intent = b.intent := by
  rw [← a.initial_intent, h, initial_intent]

end Action

namespace Outbox

/-! ## 1. Operations and marks -/

/-- One operation on an outbox. -/
inductive Operation : Type 1 where
  | enqueue (a : Action)
  /-- Send what may be sent into a sink of any kind, which may refuse any frame. -/
  | flush {σ : Type} (send : σ → Outgoing → Except SendFault Unit × σ) (sink : σ) (now : Instant)
  | acknowledge (ack : Ack)
  | expire (id : String) (now : Instant)
  | disconnect
  | cancelAll
  | takeSettled

/-- What can be seen of a run from outside. -/
inductive Mark where
  /-- An action was to be queued, and what became of it. -/
  | enqueued (a : Action) (outcome : Enqueued)
  /-- The sink took a frame. -/
  | wrote (frame : Outgoing)
  | settled (s : Settlement)

/-- A sink that writes down the frames it takes, the newest one in front. -/
def recorded {σ : Type} (send : σ → Outgoing → Except SendFault Unit × σ) :
    σ × List Outgoing → Outgoing → Except SendFault Unit × (σ × List Outgoing)
  | (sink, frames), frame =>
    match send sink frame with
    | (.ok (), sink) => (.ok (), sink, frame :: frames)
    | (.error fault, sink) => (.error fault, sink, frames)

/-- The frames that the sink takes during a flush, the newest one in front. -/
def framesOf {σ : Type} (o : Outbox) (send : σ → Outgoing → Except SendFault Unit × σ) (sink : σ)
    (now : Instant) (timers : Timers) : List Outgoing :=
  (o.flush (recorded send) (sink, []) now timers).2.2.1.2

/-! ## 2. Runs -/

/-- An outbox in use, with its timers and what is on record. -/
structure Run where
  outbox : Outbox
  timers : Timers
  /-- The newest mark stands in front. -/
  log : List Mark

namespace Run

/-- Nothing was done yet. -/
def start (o : Outbox) (timers : Timers) : Run := ⟨o, timers, []⟩

/-- Go on with an outbox after an operation: its marks, and in front of them the settlements that
are new, are put on record. -/
def note (r : Run) (o : Outbox) (timers : Timers) (marks : List Mark) : Run where
  outbox := o
  timers := timers
  log := ((o.settled.drop r.outbox.settled.length).map .settled).reverse ++ (marks ++ r.log)

/-- Perform one operation. -/
def perform (r : Run) : Operation → Run
  | .enqueue a =>
    let (outcome, o, timers) := r.outbox.enqueue r.timers a
    r.note o timers [.enqueued a outcome]
  | .flush send sink now =>
    let (_, o, _, timers) := r.outbox.flush send sink now r.timers
    r.note o timers ((r.outbox.framesOf send sink now r.timers).map .wrote)
  | .acknowledge ack =>
    let (_, o, timers) := r.outbox.acknowledge r.timers ack
    r.note o timers []
  | .expire id now =>
    let (o, timers) := r.outbox.expire r.timers id now
    r.note o timers []
  | .disconnect =>
    let (o, timers) := r.outbox.disconnect r.timers
    r.note o timers []
  | .cancelAll =>
    let (o, timers) := r.outbox.cancelAll r.timers
    r.note o timers []
  | .takeSettled => { r with outbox := r.outbox.takeSettled.2 }

/-- Perform operations in order. -/
def performAll (r : Run) (ops : List Operation) : Run := ops.foldl perform r

end Run

/-! ## 3. Reading the record -/

/-- When the action of an id was queued last, as the number of older marks, and the action. -/
def ticket : List Mark → String → Option (Nat × Action)
  | [], _ => none
  | .enqueued a .queued :: log, id => if a.id = id then some (log.length, a) else ticket log id
  | _ :: log, id => ticket log id

/-- The settlements on record, the newest one in front. -/
def settlements : List Mark → List Settlement :=
  List.filterMap fun
    | .settled s => some s
    | _ => none

/-- The actions that were not refused as duplicates, the newest one in front. -/
def admitted : List Mark → List Action :=
  List.filterMap fun
    | .enqueued a outcome => if outcome = .duplicateId then none else some a
    | _ => none

/-- A mark that is not among the newest ones is one of the others. -/
theorem split_behind {marks log mid pre : List Mark} {x : Mark} (h : marks ++ log = mid ++ x :: pre)
    (hx : x ∉ marks) : ∃ mid', mid = marks ++ mid' ∧ log = mid' ++ x :: pre := by
  rcases List.append_eq_append_iff.mp h with ⟨mid', hmid, hlog⟩ | ⟨rest, hmarks, hrest⟩
  · exact ⟨mid', hmid, hlog⟩
  · cases rest with
    | nil => exact ⟨[], by simp [hmarks], by simpa using hrest.symm⟩
    | cons y rest =>
        rw [(List.cons.inj hrest).1] at hx
        exact absurd (hmarks ▸ List.mem_append_right _ List.mem_cons_self) hx

/-! ## 4. The flush of one queue, case by case -/

section FlushQueue

variable {σ : Type} {send : σ → Outgoing → Except SendFault Unit × σ} {deadline : Instant}
  {f : Flush σ} {a : Action} {rest : List Action} {sink : σ}

/-- Nothing is sent after a failure, nor past a head that is in flight or waits. -/
theorem flushQueue_stop (h : f.halted = true ∨ a.state ≠ .pending) :
    flushQueue send deadline f (a :: rest) = (a :: rest, f) := by
  have hc : (f.halted || a.state ≠ .pending) = true := by simpa using h
  rw [flushQueue, if_pos hc]

theorem flushQueue_go (hf : f.halted = false) (ha : a.state = .pending) :
    ¬ (f.halted || a.state ≠ .pending) = true := by simp [hf, ha]

/-- A frame that cannot be sent ends the flush. -/
theorem flushQueue_fail {fault : SendFault} (hf : f.halted = false) (ha : a.state = .pending)
    (hs : send f.sink a.frame = (.error fault, sink)) :
    flushQueue send deadline f (a :: rest) = (a :: rest, { f with sink, halted := true }) := by
  rw [flushQueue, if_neg (flushQueue_go hf ha), hs]

/-- A head that needs an acknowledgement is in flight when it was sent. -/
theorem flushQueue_fly (hf : f.halted = false) (ha : a.state = .pending)
    (hs : send f.sink a.frame = (.ok (), sink)) (hk : a.kind.requiresAck = true) :
    flushQueue send deadline f (a :: rest) =
      ({ a with state := .inFlight } :: rest,
        { f with
          sink, written := f.written + 1
          timers := f.timers.schedule (.action a.id) deadline }) := by
  rw [flushQueue, if_neg (flushQueue_go hf ha), hs]
  exact if_pos hk

/-- A head that needs none gives way to the next one. -/
theorem flushQueue_land (hf : f.halted = false) (ha : a.state = .pending)
    (hs : send f.sink a.frame = (.ok (), sink)) (hk : a.kind.requiresAck = false) :
    flushQueue send deadline f (a :: rest) =
      flushQueue send deadline
        { f with sink, written := f.written + 1, done := f.done ++ [a] } rest := by
  rw [flushQueue, if_neg (flushQueue_go hf ha), hs]
  exact if_neg (by simp [hk])

/-- **What each frame of a flush preserves, the whole flush preserves**: a frame that cannot be
sent, one that waits for its acknowledgement and one that needs none. Up to each of them no frame
was refused. -/
theorem walk_flush_steps {P : OrderedMap String (List Action) → Flush σ → Prop}
    (halt : ∀ {m f c} {a : Action} {rest sink fault}, f.halted = false →
      m.get? c = some (a :: rest) → a.state = .pending →
      send f.sink a.frame = (.error fault, sink) → P m f → P m { f with sink, halted := true })
    (fly : ∀ {m f c} {a : Action} {rest sink}, f.halted = false → m.get? c = some (a :: rest) →
      a.state = .pending → a.kind.requiresAck = true → send f.sink a.frame = (.ok (), sink) →
      P m f →
      P (m.insert c ({ a with state := .inFlight } :: rest))
        { f with
          sink, written := f.written + 1
          timers := f.timers.schedule (.action a.id) deadline })
    (land : ∀ {m f c} {a : Action} {rest sink}, f.halted = false → m.get? c = some (a :: rest) →
      a.state = .pending → a.kind.requiresAck = false → send f.sink a.frame = (.ok (), sink) →
      P m f → P (m.insert c rest) { f with sink, written := f.written + 1, done := f.done ++ [a] })
    (m : OrderedMap String (List Action)) (f : Flush σ) (start : P m f) :
    P (m.walk (fun f _ queue => flushQueue send deadline f queue) f).1
      (m.walk (fun f _ queue => flushQueue send deadline f queue) f).2 := by
  refine OrderedMap.walk_rule (fun m f c queue hc hP => ?_) m f start
  induction queue generalizing m f with
  | nil =>
      rw [flushQueue, OrderedMap.insert_self hc]
      exact hP
  | cons a rest ih =>
      by_cases hstop : f.halted = true ∨ a.state ≠ .pending
      · rw [flushQueue_stop hstop, OrderedMap.insert_self hc]
        exact hP
      · obtain ⟨hh, ha⟩ : f.halted = false ∧ a.state = .pending := by simpa using hstop
        cases hsend : send f.sink a.frame with
        | mk result sink =>
            cases result with
            | error fault =>
                rw [flushQueue_fail hh ha hsend, OrderedMap.insert_self hc]
                exact halt hh hc ha hsend hP
            | ok _ =>
                cases hk : a.kind.requiresAck with
                | true =>
                    rw [flushQueue_fly hh ha hsend hk]
                    exact fly hh hc ha hk hsend hP
                | false =>
                    -- the queue is bound anew, and then once more by what becomes of the rest
                    rw [flushQueue_land hh ha hsend hk, ← OrderedMap.insert_insert rest _ hc]
                    exact ih _ _ ((OrderedMap.get?_insert _ _ _ _).trans (if_pos rfl))
                      (land hh hc ha hk hsend hP)

/-- The same where it does not matter what came before. -/
theorem walk_flush_rule {P : OrderedMap String (List Action) → Flush σ → Prop}
    (halt : ∀ {m f c} {a : Action} {rest sink fault}, m.get? c = some (a :: rest) →
      send f.sink a.frame = (.error fault, sink) → P m f → P m { f with sink, halted := true })
    (fly : ∀ {m f c} {a : Action} {rest sink}, m.get? c = some (a :: rest) → a.state = .pending →
      a.kind.requiresAck = true → send f.sink a.frame = (.ok (), sink) → P m f →
      P (m.insert c ({ a with state := .inFlight } :: rest))
        { f with
          sink, written := f.written + 1
          timers := f.timers.schedule (.action a.id) deadline })
    (land : ∀ {m f c} {a : Action} {rest sink}, m.get? c = some (a :: rest) → a.state = .pending →
      a.kind.requiresAck = false → send f.sink a.frame = (.ok (), sink) → P m f →
      P (m.insert c rest) { f with sink, written := f.written + 1, done := f.done ++ [a] })
    (m : OrderedMap String (List Action)) (f : Flush σ) (start : P m f) :
    P (m.walk (fun f _ queue => flushQueue send deadline f queue) f).1
      (m.walk (fun f _ queue => flushQueue send deadline f queue) f).2 :=
  walk_flush_steps (fun _ hc _ hsend hP => halt hc hsend hP)
    (fun _ hc ha hk hsend hP => fly hc ha hk hsend hP)
    (fun _ hc ha hk hsend hP => land hc ha hk hsend hP) m f start

end FlushQueue

/-! ## 5. What a flush sees of its sink -/

section Seen

variable {σ σ' : Type} {send : σ → Outgoing → Except SendFault Unit × σ}
  {send' : σ' → Outgoing → Except SendFault Unit × σ'} {view : σ' → σ}

/-- The flush with a view of its sink in the place of the sink. -/
def Flush.mapSink (view : σ' → σ) (f : Flush σ') : Flush σ :=
  ⟨view f.sink, f.timers, f.written, f.done, f.halted⟩

/-- A sink answers as its view does, and the view is what it is a view of afterwards. -/
def Seen (send : σ → Outgoing → Except SendFault Unit × σ)
    (send' : σ' → Outgoing → Except SendFault Unit × σ') (view : σ' → σ) : Prop :=
  ∀ sink frame, send (view sink) frame = ((send' sink frame).1, view (send' sink frame).2)

theorem flushQueue_seen (hseen : Seen send send' view) (deadline : Instant) (f : Flush σ')
    (queue : List Action) :
    flushQueue send deadline (f.mapSink view) queue =
      ((flushQueue send' deadline f queue).1, (flushQueue send' deadline f queue).2.mapSink view) := by
  induction queue generalizing f with
  | nil => rfl
  | cons a rest ih =>
      by_cases hstop : f.halted = true ∨ a.state ≠ .pending
      · rw [flushQueue_stop (f := f) hstop, flushQueue_stop (f := f.mapSink view) hstop]
      · obtain ⟨hf, ha⟩ : f.halted = false ∧ a.state = .pending := by simpa using hstop
        have hview := hseen f.sink a.frame
        cases hs : send' f.sink a.frame with
        | mk result sink =>
            rw [hs] at hview
            cases result with
            | error fault =>
                rw [flushQueue_fail (f := f.mapSink view) hf ha hview, flushQueue_fail hf ha hs]
                rfl
            | ok _ =>
                cases hk : a.kind.requiresAck with
                | true =>
                    rw [flushQueue_fly (f := f.mapSink view) hf ha hview hk,
                      flushQueue_fly hf ha hs hk]
                    rfl
                | false =>
                    rw [flushQueue_land (f := f.mapSink view) hf ha hview hk,
                      flushQueue_land hf ha hs hk]
                    exact ih ⟨sink, f.timers, f.written + 1, f.done ++ [a], f.halted⟩

theorem walk_seen (hseen : Seen send send' view) (deadline : Instant) (f : Flush σ')
    (entries : List (String × List Action)) :
    OrderedMap.walkEntries (fun f _ queue => flushQueue send deadline f queue) (f.mapSink view)
        entries =
      ((OrderedMap.walkEntries (fun f _ queue => flushQueue send' deadline f queue) f entries).1,
        (OrderedMap.walkEntries (fun f _ queue => flushQueue send' deadline f queue) f
          entries).2.mapSink view) := by
  induction entries generalizing f with
  | nil => rfl
  | cons e rest ih =>
      simp only [OrderedMap.walkEntries, flushQueue_seen hseen, ih]

/-- **A flush does the same into a sink and into a view of it.** -/
theorem flush_seen (hseen : Seen send send' view) (o : Outbox) (sink : σ') (now : Instant)
    (timers : Timers) :
    o.flush send (view sink) now timers =
      ((o.flush send' sink now timers).1, (o.flush send' sink now timers).2.1,
        view (o.flush send' sink now timers).2.2.1, (o.flush send' sink now timers).2.2.2) := by
  have h := walk_seen hseen (now + o.ackTimeout) ⟨sink, timers, 0, [], false⟩ o.chats.entries
  simp only [Flush.mapSink] at h
  simp only [flush, OrderedMap.walk, h]

end Seen

section Recorded

variable {σ : Type} {send : σ → Outgoing → Except SendFault Unit × σ}

theorem recorded_ok {s : σ × List Outgoing} {frame : Outgoing} {sink : σ}
    (h : send s.1 frame = (.ok (), sink)) :
    recorded send s frame = (.ok (), sink, frame :: s.2) := by
  simp only [recorded, h]

theorem recorded_error {s : σ × List Outgoing} {frame : Outgoing} {sink : σ} {fault : SendFault}
    (h : send s.1 frame = (.error fault, sink)) :
    recorded send s frame = (.error fault, sink, s.2) := by
  simp only [recorded, h]

/-- What is written down is what the sink takes. -/
theorem frames_of_recorded {s s' : σ × List Outgoing} {frame : Outgoing}
    {result : Except SendFault Unit} (h : recorded send s frame = (result, s')) :
    s'.2 = match result with
      | .ok _ => frame :: s.2
      | .error _ => s.2 := by
  cases hs : send s.1 frame with
  | mk result sink =>
      cases result with
      | error fault =>
          rw [recorded_error hs] at h
          cases h
          rfl
      | ok _ =>
          rw [recorded_ok hs] at h
          cases h
          rfl

theorem recorded_seen : Seen send (recorded send) Prod.fst := by
  intro sink frame
  cases hs : send sink.1 frame with
  | mk result sink' =>
      cases result with
      | error fault => rw [recorded_error hs]
      | ok _ => rw [recorded_ok hs]

/-- **Writing down the frames does not change what a flush does.** -/
theorem flush_recorded (o : Outbox) (sink : σ) (now : Instant) (timers : Timers) :
    o.flush send sink now timers =
      ((o.flush (recorded send) (sink, []) now timers).1,
        (o.flush (recorded send) (sink, []) now timers).2.1,
        (o.flush (recorded send) (sink, []) now timers).2.2.1.1,
        (o.flush (recorded send) (sink, []) now timers).2.2.2) :=
  flush_seen recorded_seen o (sink, []) now timers

/-- What is written down of a sink is written down of a view of it. -/
theorem Seen.recorded {σ' : Type} {send' : σ' → Outgoing → Except SendFault Unit × σ'}
    {view : σ' → σ} (hseen : Seen send send' view) :
    Seen (recorded send) (recorded send') (Prod.map view id) := by
  rintro ⟨sink, frames⟩ frame
  have hsink := hseen sink frame
  cases hsend : send' sink frame with
  | mk result sink' =>
      rw [hsend] at hsink
      cases result with
      | ok _ =>
          rw [recorded_ok (s := (sink, frames)) hsend]
          exact recorded_ok hsink
      | error fault =>
          rw [recorded_error (s := (sink, frames)) hsend]
          exact recorded_error hsink

theorem framesOf_seen {σ' : Type} {send' : σ' → Outgoing → Except SendFault Unit × σ'}
    {view : σ' → σ} (hseen : Seen send send' view) (o : Outbox) (sink : σ') (now : Instant)
    (timers : Timers) :
    o.framesOf send (view sink) now timers = o.framesOf send' sink now timers :=
  congrArg (fun answer => answer.2.2.1.2) (flush_seen hseen.recorded o (sink, []) now timers)

/-! ### The frames on record -/

/-- The frame that was written. -/
def Mark.frame? : Mark → Option Outgoing
  | .wrote frame => some frame
  | .enqueued .. | .settled _ => none

/-- The frames that were written, the newest in front. -/
def frames (log : List Mark) : List Outgoing := log.filterMap Mark.frame?

theorem frames_append (log log' : List Mark) : frames (log ++ log') = frames log ++ frames log' :=
  List.filterMap_append

theorem frames_settled (l : List Settlement) : frames (l.map .settled).reverse = [] := by
  simp [frames, Mark.frame?]

theorem frames_wrote (l : List Outgoing) : frames (l.map .wrote) = l := by
  simp [frames, Mark.frame?, Function.comp_def]

theorem frames_note (r : Run) (o : Outbox) (timers : Timers) (marks : List Mark) :
    frames (r.note o timers marks).log = frames marks ++ frames r.log := by
  show frames (_ ++ (marks ++ r.log)) = _
  rw [frames_append, frames_settled, List.nil_append, frames_append]

/-- The operation is a flush. -/
def Operation.isFlush : Operation → Bool
  | .flush .. => true
  | _ => false

/-- Nothing is written but in a flush. -/
theorem frames_perform (r : Run) {op : Operation} (hop : op.isFlush = false) :
    frames (r.perform op).log = frames r.log := by
  cases op with
  | flush send sink now => cases hop
  | takeSettled => rfl
  | _ => exact frames_note r _ _ _

theorem frames_flush (r : Run) (sink : σ) (now : Instant) :
    frames (r.perform (.flush send sink now)).log =
      r.outbox.framesOf send sink now r.timers ++ frames r.log :=
  (frames_note r _ _ _).trans (congrArg (· ++ _) (frames_wrote _))

end Recorded

/-! ## 6. What an operation does is in the outbox alone -/

section Timeless

variable {σ : Type} {send : σ → Outgoing → Except SendFault Unit × σ}

/-- The flush with other timers. -/
def Flush.withTimers (f : Flush σ) (timers : Timers) : Flush σ := { f with timers }

theorem flushQueue_withTimers (deadline : Instant) (f : Flush σ) (timers : Timers)
    (queue : List Action) :
    ∃ timers', flushQueue send deadline (f.withTimers timers) queue =
      ((flushQueue send deadline f queue).1,
        (flushQueue send deadline f queue).2.withTimers timers') := by
  induction queue generalizing f with
  | nil => exact ⟨timers, rfl⟩
  | cons a rest ih =>
      by_cases hstop : f.halted = true ∨ a.state ≠ .pending
      · rw [flushQueue_stop (f := f) hstop, flushQueue_stop (f := f.withTimers timers) hstop]
        exact ⟨timers, rfl⟩
      · obtain ⟨hf, ha⟩ : f.halted = false ∧ a.state = .pending := by simpa using hstop
        cases hs : send f.sink a.frame with
        | mk result sink =>
            cases result with
            | error fault =>
                rw [flushQueue_fail (f := f) hf ha hs,
                  flushQueue_fail (f := f.withTimers timers) hf ha hs]
                exact ⟨timers, rfl⟩
            | ok _ =>
                cases hk : a.kind.requiresAck with
                | true =>
                    rw [flushQueue_fly (f := f) hf ha hs hk,
                      flushQueue_fly (f := f.withTimers timers) hf ha hs hk]
                    exact ⟨timers.schedule (.action a.id) deadline, rfl⟩
                | false =>
                    rw [flushQueue_land (f := f) hf ha hs hk,
                      flushQueue_land (f := f.withTimers timers) hf ha hs hk]
                    exact ih ⟨sink, f.timers, f.written + 1, f.done ++ [a], f.halted⟩

theorem walk_withTimers (deadline : Instant) (f : Flush σ) (timers : Timers)
    (entries : List (String × List Action)) :
    ∃ timers',
      OrderedMap.walkEntries (fun f _ queue => flushQueue send deadline f queue)
        (f.withTimers timers) entries =
      ((OrderedMap.walkEntries (fun f _ queue => flushQueue send deadline f queue) f entries).1,
        (OrderedMap.walkEntries (fun f _ queue => flushQueue send deadline f queue) f
          entries).2.withTimers timers') := by
  induction entries generalizing f timers with
  | nil => exact ⟨timers, rfl⟩
  | cons e rest ih =>
      obtain ⟨between, hqueue⟩ := @flushQueue_withTimers σ send deadline f timers e.2
      obtain ⟨timers', hrest⟩ := ih (flushQueue send deadline f e.2).2 between
      refine ⟨timers', ?_⟩
      simp only [OrderedMap.walkEntries, hqueue, hrest]

/-- The timers play no part in what a flush does to the outbox and the sink. -/
theorem flush_timeless (o : Outbox) (sink : σ) (now : Instant) (timers timers' : Timers) :
    (o.flush send sink now timers').2.1 = (o.flush send sink now timers).2.1 ∧
      (o.flush send sink now timers').2.2.1 = (o.flush send sink now timers).2.2.1 := by
  obtain ⟨_, h⟩ := @walk_withTimers σ send (now + o.ackTimeout)
    ⟨sink, timers, 0, [], false⟩ timers' o.chats.entries
  simp only [Flush.withTimers] at h
  simp only [flush, OrderedMap.walk, h, and_self]

theorem enqueue_timeless (o : Outbox) (timers timers' : Timers) (a : Action) :
    (o.enqueue timers' a).1 = (o.enqueue timers a).1 ∧
      (o.enqueue timers' a).2.1 = (o.enqueue timers a).2.1 := by
  unfold enqueue accept
  dsimp only
  repeat' split
  all_goals exact ⟨rfl, rfl⟩

theorem acknowledge_timeless (o : Outbox) (timers timers' : Timers) (ack : Ack) :
    (o.acknowledge timers' ack).2.1 = (o.acknowledge timers ack).2.1 := by
  unfold acknowledge
  split <;> rfl

theorem expire_timeless (o : Outbox) (timers timers' : Timers) (id : String) (now : Instant) :
    (o.expire timers' id now).1 = (o.expire timers id now).1 := by
  unfold expire
  dsimp only
  repeat' split
  all_goals rfl

end Timeless

namespace Run

/-- Two runs that differ in their timers and in what is on record from before. -/
structure Alike (r r' : Run) (base : List Mark) : Prop where
  outbox : r.outbox = r'.outbox
  log : r.log = r'.log ++ base

theorem Alike.note {r r' : Run} {base : List Mark} (h : r.Alike r' base) {o o' : Outbox}
    (ho : o = o') (timers timers' : Timers) {marks marks' : List Mark} (hm : marks = marks') :
    (r.note o timers marks).Alike (r'.note o' timers' marks') base := by
  subst ho hm
  refine ⟨rfl, ?_⟩
  simp only [Run.note, h.outbox, h.log, List.append_assoc]

theorem Alike.perform {r r' : Run} {base : List Mark} (h : r.Alike r' base) (op : Operation) :
    (r.perform op).Alike (r'.perform op) base := by
  cases op with
  | enqueue a =>
      have hboth : (r.outbox.enqueue r.timers a).1 = (r'.outbox.enqueue r'.timers a).1 ∧
          (r.outbox.enqueue r.timers a).2.1 = (r'.outbox.enqueue r'.timers a).2.1 := by
        rw [h.outbox]
        exact enqueue_timeless _ _ _ a
      exact h.note hboth.2 (r.outbox.enqueue r.timers a).2.2 (r'.outbox.enqueue r'.timers a).2.2
        (congrArg (fun outcome => [Mark.enqueued a outcome]) hboth.1)
  | flush send sink now =>
      have houtbox : (r.outbox.flush send sink now r.timers).2.1 =
          (r'.outbox.flush send sink now r'.timers).2.1 := by
        rw [h.outbox]
        exact (flush_timeless _ sink now _ _).1
      have hframes : r.outbox.framesOf send sink now r.timers =
          r'.outbox.framesOf send sink now r'.timers := by
        rw [h.outbox]
        exact congrArg Prod.snd (@flush_timeless _ (recorded send) r'.outbox (sink, []) now _ _).2
      exact h.note houtbox (r.outbox.flush send sink now r.timers).2.2.2
        (r'.outbox.flush send sink now r'.timers).2.2.2 (congrArg (List.map Mark.wrote) hframes)
  | acknowledge ack =>
      have houtbox : (r.outbox.acknowledge r.timers ack).2.1 =
          (r'.outbox.acknowledge r'.timers ack).2.1 := by
        rw [h.outbox]
        exact acknowledge_timeless _ _ _ ack
      exact h.note houtbox (r.outbox.acknowledge r.timers ack).2.2
        (r'.outbox.acknowledge r'.timers ack).2.2 rfl
  | expire id now =>
      have houtbox : (r.outbox.expire r.timers id now).1 =
          (r'.outbox.expire r'.timers id now).1 := by
        rw [h.outbox]
        exact expire_timeless _ _ _ id now
      exact h.note houtbox (r.outbox.expire r.timers id now).2
        (r'.outbox.expire r'.timers id now).2 rfl
  | disconnect =>
      have houtbox : (r.outbox.disconnect r.timers).1 = (r'.outbox.disconnect r'.timers).1 := by
        rw [h.outbox]
        rfl
      exact h.note houtbox (r.outbox.disconnect r.timers).2 (r'.outbox.disconnect r'.timers).2 rfl
  | cancelAll =>
      have houtbox : (r.outbox.cancelAll r.timers).1 = (r'.outbox.cancelAll r'.timers).1 := by
        rw [h.outbox]
        rfl
      exact h.note houtbox (r.outbox.cancelAll r.timers).2 (r'.outbox.cancelAll r'.timers).2 rfl
  | takeSettled => exact ⟨by rw [Run.perform, Run.perform, h.outbox], h.log⟩

/-- **A run goes on in the same way from the same outbox**, whatever its timers are and whatever
is on record. -/
theorem Alike.performAll {r r' : Run} {base : List Mark} (h : r.Alike r' base)
    (ops : List Operation) : (r.performAll ops).Alike (r'.performAll ops) base := by
  induction ops generalizing r r' with
  | nil => exact h
  | cons op rest ih => exact ih (h.perform op)

/-- The record only grows. -/
theorem performAll_grows (r : Run) (ops : List Operation) :
    ∃ marks, (r.performAll ops).log = marks ++ r.log :=
  have halike : r.Alike (start r.outbox r.timers) r.log := ⟨rfl, rfl⟩
  ⟨_, (halike.performAll ops).log⟩

theorem performAll_append (r : Run) (ops ops' : List Operation) :
    r.performAll (ops ++ ops') = (r.performAll ops).performAll ops' := List.foldl_append

end Run

end Outbox

end RealtimeChat
