import RealtimeChat.Proofs.Engine.Works
import RealtimeChat.Proofs.Notice
/-!
# What the outbox settles is published

Each settlement that the outbox leaves on record is handed out once: as a notice to everybody who
listens, and in the list of settlements that is taken from the core of the client, both in the
order of settling.

* `Quiet` -- between two inputs nothing is left to be published;
* `Publishes` -- what a run publishes, as a property of its inputs;
* **`actions_conserved`** -- no action is lost or settled twice, and all settlements are published.
-/

namespace RealtimeChat.Engine

open Outbox (Operation Run settlements)

variable {τ : Type}

/-! ## 1. Between two inputs -/

/-- Between two inputs the outbox is sound and empty of settlements. -/
structure Quiet (e : Engine τ) : Prop where
  sound : e.outbox.Sound
  empty : e.outbox.settled = []
  distinct : e.notices.Distinct

theorem Fresh.quiet {e : Engine τ} (h : e.Fresh) : e.Quiet := by
  refine h.rule fun settings endpoint transport entropy ids store historyEnabled => ?_
  exact ⟨Outbox.new_sound _ _, rfl, .nil, fun s hs => absurd hs List.not_mem_nil⟩

theorem publishSettled_empty (e : Engine τ) : e.publishSettled.outbox.settled = [] := by
  obtain ⟨store, heq⟩ := e.publishSettled_eq
  rw [heq]
  rfl

variable [Transport τ]

theorem handleTimer_empty (e : Engine τ) (key : Timer.Key) (now : Instant) :
    (e.handleTimer key now).outbox.settled = [] := by
  unfold handleTimer
  split <;> exact publishSettled_empty _

/-- Whatever an input does, it publishes all that was settled. -/
theorem step_empty {e : Engine τ} (h : e.outbox.settled = []) (i : Input τ) :
    (e.step i).outbox.settled = [] := by
  cases i with
  | connect credentials now =>
      dsimp only [step, connect]
      rcases e.session.connect credentials now e.timers with state | ⟨session, timers⟩
      · exact h
      · exact publishSettled_empty _
  | logout now => exact publishSettled_empty _
  | submit a now =>
      dsimp only [step, submit]
      rcases a.intent.check with fault | ⟨⟩
      · exact h
      · exact publishSettled_empty _
  | keystroke chat now =>
      dsimp only [step, keystroke]
      rcases checkChat chat with fault | ⟨⟩
      · exact h
      · exact publishSettled_empty _
  | event connection event now => exact publishSettled_empty _
  | timers now =>
      have along : ∀ (keys : List Timer.Key) (e : Engine τ), e.outbox.settled = [] →
          (keys.foldl (fun e key => handleTimer e key now) e).outbox.settled = [] := by
        intro keys
        induction keys with
        | nil => exact fun _ h => h
        | cons key rest ih => exact fun e _ => ih _ (e.handleTimer_empty key now)
      exact along _ _ h
  | history chat generation result now =>
      have hworks := applyHistory_works (e := e) chat generation result now
      exact (congrArg Outbox.settled hworks.outbox).trans h
  | _ => exact h

theorem step_quiet {e : Engine τ} (h : e.Quiet) (i : Input τ) : (e.step i).Quiet := by
  by_cases hi : i.ReadsOut
  · obtain rfl | rfl | ⟨inbox, rfl⟩ := hi
    · exact ⟨h.sound, h.empty, h.distinct⟩
    · exact ⟨h.sound, h.empty, h.distinct.subscribe⟩
    · exact ⟨h.sound, h.empty, h.distinct.drained inbox⟩
  · have hworks := step_works h.sound i hi
    obtain ⟨notices, hn, -⟩ := hworks.published
    exact ⟨hworks.sound h.sound, step_empty h.empty i, hn ▸ h.distinct.publishAll notices⟩

/-! ## 2. Runs -/

/-- What a run publishes: the outbox has gone through the operations that the inputs come down to,
nothing that it settled is left in it, and the settlements on record are those that the list of
settlements gained and those that everybody who listens was told, in the same order. -/
structure Publishes (e : Engine τ) (inputs : List (Input τ)) : Prop where
  outbox : (e.run inputs).outbox = (e.queueRun inputs).outbox
  empty : (e.run inputs).outbox.settled = []
  listed : e.settled ++ (settlements (e.queueRun inputs).log).reverse =
    e.taken inputs ++ (e.run inputs).settled
  told : ∀ id box, e.notices.Listens id box →
    box.filterMap settlement? ++ (settlements (e.queueRun inputs).log).reverse =
      (heard id e inputs ++ (e.run inputs).inbox id).filterMap settlement?

/-- The operations of the first input, and those of the others from there on. -/
theorem queueRun_cons {e : Engine τ} {i : Input τ}
    (h : (e.step i).outbox = ((Run.start e.outbox e.timers).performAll (e.stepCalls i)).outbox)
    (rest : List (Input τ)) :
    (e.queueRun (i :: rest)).Alike ((e.step i).queueRun rest)
      ((Run.start e.outbox e.timers).performAll (e.stepCalls i)).log := by
  show ((Run.start e.outbox e.timers).performAll
    (e.stepCalls i ++ (e.step i).calls rest)).Alike _ _
  rw [Run.performAll_append]
  exact Run.Alike.performAll ⟨h.symm, rfl⟩ _

theorem settlements_of_alike {r r' : Run} {base : List Outbox.Mark} (h : r.Alike r' base) :
    (settlements r.log).reverse = (settlements base).reverse ++ (settlements r'.log).reverse := by
  rw [h.log, settlements, List.filterMap_append, List.reverse_append]

theorem taken_cons {i : Input τ} (hi : ¬ i.ReadsOut) (e : Engine τ) (rest : List (Input τ)) :
    e.taken (i :: rest) = (e.step i).taken rest := by
  cases i with
  | takeSettled => exact absurd (.inl rfl) hi
  | _ => rfl

theorem heard_cons {i : Input τ} (hi : ¬ i.ReadsOut) (id : Nat) (e : Engine τ)
    (rest : List (Input τ)) : heard id e (i :: rest) = heard id (e.step i) rest := by
  cases i with
  | hear inbox => exact absurd (.inr (.inr ⟨inbox, rfl⟩)) hi
  | _ => rfl

theorem publishes {e : Engine τ} (h : e.Quiet) (inputs : List (Input τ)) :
    e.Publishes inputs := by
  induction inputs generalizing e with
  | nil =>
      refine ⟨rfl, h.empty, List.append_nil _, fun id box hl => ?_⟩
      show box.filterMap settlement? ++ [] = ((e.notices.drain id).1).filterMap settlement?
      rw [hl.drain h.distinct, List.append_nil]
  | cons i rest ih =>
      have hrest := ih (step_quiet h i)
      by_cases hi : i.ReadsOut
      · obtain rfl | rfl | ⟨inbox, rfl⟩ := hi
        · have hcons := queueRun_cons (e := e) (i := .takeSettled) rfl rest
          refine ⟨hrest.outbox.trans hcons.outbox.symm, hrest.empty, ?_, fun id box hl => ?_⟩
          · rw [settlements_of_alike hcons]
            show e.settled ++ _ = (e.settled ++ _) ++ _
            rw [List.append_assoc]
            exact congrArg (_ ++ ·) hrest.listed
          · rw [settlements_of_alike hcons]
            exact hrest.told id box hl
        · have hcons := queueRun_cons (e := e) (i := .listen) rfl rest
          refine ⟨hrest.outbox.trans hcons.outbox.symm, hrest.empty, ?_, fun id box hl => ?_⟩
          · rw [settlements_of_alike hcons]
            exact hrest.listed
          · rw [settlements_of_alike hcons]
            exact hrest.told id box hl.subscribe
        · have hcons := queueRun_cons (e := e) (i := .hear inbox) rfl rest
          refine ⟨hrest.outbox.trans hcons.outbox.symm, hrest.empty, ?_, fun id box hl => ?_⟩
          · rw [settlements_of_alike hcons]
            exact hrest.listed
          · -- what is read now is missing from the inbox later
            have hbox : e.inbox id = box := hl.drain h.distinct
            have htold := hrest.told id _ (hl.drained inbox)
            rw [settlements_of_alike hcons]
            show box.filterMap settlement? ++ ([] ++ _) =
              (((if inbox = id then e.inbox id else []) ++ _) ++ _).filterMap settlement?
            rw [hbox, List.append_assoc, List.filterMap_append, List.nil_append]
            by_cases hid : inbox = id
            · rw [if_pos hid] at htold ⊢
              exact congrArg (_ ++ ·) htold
            · rw [if_neg hid] at htold ⊢
              exact htold
      · have hworks := step_works h.sound i hi
        have hcons := queueRun_cons hworks.outbox rest
        obtain ⟨notices, hn, hs, hp⟩ := hworks.published
        rw [h.empty, step_empty h.empty i, List.nil_append, List.append_nil] at hp
        refine ⟨hrest.outbox.trans hcons.outbox.symm, hrest.empty, ?_, fun id box hl => ?_⟩
        · rw [settlements_of_alike hcons, hp, ← List.append_assoc, ← hs, taken_cons hi]
          exact hrest.listed
        · rw [settlements_of_alike hcons, hp, ← List.append_assoc, ← List.filterMap_append,
            heard_cons hi]
          exact hrest.told id _ (hn ▸ hl.publishAll notices)

theorem run_quiet {e : Engine τ} (h : e.Quiet) (inputs : List (Input τ)) :
    (e.run inputs).Quiet := by
  induction inputs generalizing e with
  | nil => exact h
  | cons i rest ih => exact ih (step_quiet h i)

/-- **No action is lost or settled twice, in whatever way the outbox is used; and whatever a client
is told to do, all that its outbox settles is published once and in order.** -/
theorem actions_conserved :
    (∀ (settings : Settings.Queue) (retry : Backoff) (timers : Timers) (ops : List Operation),
      ((Run.start (.new settings retry) timers).performAll ops).Conserved) ∧
    ∀ {τ : Type} [Transport τ] (e : Engine τ), e.Fresh → ∀ before inputs : List (Input τ),
      (e.run before).Publishes inputs :=
  ⟨Outbox.performAll_conserved, fun _ he before inputs =>
    publishes (run_quiet he.quiet before) inputs⟩

theorem actions_conserved_listening : ∃ e : Engine MemoryTransport, e.Fresh ∧
    e.Publishes [.listen, .keystroke "chat" 0, .logout 1, .hear 0, .takeSettled] :=
  have ⟨e, he⟩ := exists_fresh
  ⟨e, he, actions_conserved.2 e he [] _⟩

end RealtimeChat.Engine
