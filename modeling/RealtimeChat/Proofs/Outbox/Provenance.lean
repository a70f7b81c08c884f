import RealtimeChat.Proofs.Outbox.Conservation
import RealtimeChat.Proofs.Outbox.WireOrder
/-!
# Where the actions in an outbox come from

Whoever stands in a line stood there before or was queued since, whatever was done with the outbox.
And the frames of a flush are those of actions in a line.

* `Holds` -- everybody in a line is one of these actions;
* **`perform_holds`** -- an operation lets in nobody but the action that it queues;
* **`flush_holds`** -- what the frames of these actions preserve in the sink, a flush preserves;
* `enqueue_stranger` -- an id is known only when an action of it was queued.
-/

namespace RealtimeChat.Outbox

/-- Everybody in a line, as they were when they were new, is one of these actions. -/
def Holds (S : Action → Prop) (o : Outbox) : Prop := ∀ c, ∀ a ∈ o.line c, S a

section Holds

variable {S : Action → Prop} {o : Outbox}

theorem Holds.of_line {o' : Outbox} (h : o.Holds S) (hline : ∀ c, o'.line c = o.line c) :
    o'.Holds S :=
  fun c a ha => h c a (hline c ▸ ha)

/-! ## 1. Operations -/

/-- One of these actions, or one that was queued by what is on record. -/
def OrQueued (S : Action → Prop) (log : List Mark) (x : Action) : Prop :=
  S x ∨ ∃ a, .enqueued a .queued ∈ log ∧ x = a.initial

theorem Move.holds {s t : Stage} (h : Move s t) (hs : s.outbox.Holds (OrQueued S s.log)) :
    t.outbox.Holds (OrQueued S t.log) := by
  have hlater : ∀ {log : List Mark} {x : Action}, (∀ mark ∈ s.log, mark ∈ log) →
      OrQueued S s.log x → OrQueued S log x :=
    fun hlog => Or.imp_right fun ⟨a, ha, hx⟩ => ⟨a, hlog _ ha, hx⟩
  rcases h.joins_or_keeps with ⟨a, -, rfl⟩ | ⟨-, hline⟩
  · intro c x hx
    rcases mem_line_push.mp hx with hx | ⟨-, rfl⟩
    · exact hlater (fun _ => List.mem_cons_of_mem _) (hs c x hx)
    · exact .inr ⟨a, List.mem_cons_self, rfl⟩
  · have hlog : ∀ mark ∈ s.log, mark ∈ t.log := by
      obtain ⟨marks, heq⟩ := h.grows
      exact fun mark hmark => heq ▸ List.mem_append_right _ hmark
    exact fun c x hx => hlater hlog (hs c x ((hline c).subset hx))

/-- An operation notes an action as queued only if it queues it. -/
theorem eq_enqueue_of_mem_log {timers : Timers} {op : Operation} {a : Action} {outcome : Enqueued}
    (h : .enqueued a outcome ∈ ((Run.start o timers).perform op).log) : op = .enqueue a := by
  have hnote : ∀ {o' : Outbox} {timers' : Timers} {marks : List Mark},
      .enqueued a outcome ∈ ((Run.start o timers).note o' timers' marks).log →
      .enqueued a outcome ∈ marks := by
    intro o' timers' marks h
    rcases List.mem_append.mp h with h | h
    · obtain ⟨s, -, heq⟩ := List.mem_map.mp (List.mem_reverse.mp h)
      cases heq
    · rwa [Run.start, List.append_nil] at h
  cases op with
  | enqueue b =>
      have heq := List.mem_singleton.mp (hnote h)
      cases heq
      rfl
  | flush send sink now =>
      obtain ⟨frame, -, heq⟩ := List.mem_map.mp (hnote h)
      cases heq
  | takeSettled => exact absurd h List.not_mem_nil
  | _ => exact absurd (hnote h) List.not_mem_nil

theorem perform_sound (hs : o.Sound) (timers : Timers) (op : Operation) :
    ((Run.start o timers).perform op).outbox.Sound :=
  ((perform_path (r := Run.start o timers) hs op).sound (hs.stage [])).outbox

/-- **An operation lets in nobody but the action that it queues.** -/
theorem perform_holds (hs : o.Sound) (h : o.Holds S) (timers : Timers) (op : Operation)
    (hop : ∀ a, op = .enqueue a → S a.initial) :
    ((Run.start o timers).perform op).outbox.Holds S := by
  have hpath : Path ⟨o, [], []⟩ _ := perform_path (r := Run.start o timers) hs op
  have hstart : o.Holds (OrQueued S []) := fun c x hx => .inl (h c x hx)
  have hdone := hpath.keeps (P := fun s => s.outbox.Holds (OrQueued S s.log)) Move.holds hstart
  intro c x hx
  rcases hdone c x hx with hx | ⟨a, ha, rfl⟩
  · exact hx
  · exact hop a (eq_enqueue_of_mem_log ha)

/-! ## 2. Frames -/

variable {σ : Type} {send : σ → Outgoing → Except SendFault Unit × σ} {Q : σ → Prop}

/-- **What the frames of these actions preserve in the sink, a flush preserves.** -/
theorem flush_holds (hstep : ∀ sink a, S a → Q sink → Q (send sink a.frame).2) (h : o.Holds S)
    {sink : σ} (hsink : Q sink) (now : Instant) (timers : Timers) :
    Q (o.flush send sink now timers).2.2.1 := by
  have hsent : ∀ {m : OrderedMap String (List Action)} {f : Flush σ} {c a rest result sink'},
      m.get? c = some (a :: rest) → send f.sink a.frame = (result, sink') →
      (o.withChats m).Holds S ∧ Q f.sink →
      (a.initial :: rest.map Action.initial = (o.withChats m).line c) ∧ Q sink' := by
    intro m f c a rest result sink' hc hsend hm
    have hline : a.initial :: rest.map Action.initial = (o.withChats m).line c := by
      show _ = ((m.get? c).getD []).map Action.initial
      rw [hc]
      rfl
    have hnext := hstep f.sink a.initial (hm.1 c _ (hline ▸ List.mem_cons_self)) hm.2
    rw [Action.initial_frame, hsend] at hnext
    exact ⟨hline, hnext⟩
  let w := o.chats.walk (fun f _ queue => flushQueue send (now + o.ackTimeout) f queue)
    ⟨sink, timers, 0, [], false⟩
  have hwalk : (o.withChats w.1).Holds S ∧ Q w.2.sink := by
    refine walk_flush_rule (P := fun m f => (o.withChats m).Holds S ∧ Q f.sink) ?_ ?_ ?_ o.chats _
      ⟨h, hsink⟩
    · intro m f c a rest sink' fault hc hsend hm
      exact ⟨hm.1, (hsent hc hsend hm).2⟩
    · intro m f c a rest sink' hc _ _ hsend hm
      obtain ⟨hline, hnext⟩ := hsent hc hsend hm
      refine ⟨hm.1.of_line fun d => ?_, hnext⟩
      rw [line_withChats_insert]
      split
      · rename_i hd
        exact hline.trans (congrArg _ hd)
      · rfl
    · intro m f c a rest sink' hc _ _ hsend hm
      obtain ⟨hline, hnext⟩ := hsent hc hsend hm
      refine ⟨fun d x hx => ?_, hnext⟩
      rw [line_withChats_insert] at hx
      split at hx
      · exact hm.1 c x (hline ▸ List.mem_cons_of_mem _ hx)
      · exact hm.1 d x hx
  exact hwalk.2

variable (send) in
/-- What the frame of each action preserves in the sink, a flush preserves. -/
theorem flush_sink (hstep : ∀ sink (a : Action), Q sink → Q (send sink a.frame).2) (o : Outbox)
    {sink : σ} (hsink : Q sink) (now : Instant) (timers : Timers) :
    Q (o.flush send sink now timers).2.2.1 :=
  flush_holds (S := fun _ => True) (fun sink a _ => hstep sink a) (fun _ _ _ => trivial) hsink now
    timers

end Holds

/-- Nobody is in line after all have left. -/
theorem cancelAll_holds (S : Action → Prop) (o : Outbox) (timers : Timers) :
    (o.cancelAll timers).1.Holds S := by
  have hsettled : ∀ (actions : List Action) (o : Outbox) (c : String),
      (actions.foldl (fun o a => o.settle a .cancelled) o).line c = o.line c := by
    intro actions
    induction actions with
    | nil => exact fun _ _ => rfl
    | cons a rest ih => exact fun o c => (ih _ c).trans (settle_line o a _ c)
  intro c a ha
  have hempty : (o.cancelAll timers).1.line c = [] := hsettled _ _ c
  rw [hempty] at ha
  cases ha

/-! ## 3. Ids that nobody knows -/

/-- An id that is neither queued nor remembered stays so until an action of this id comes. -/
theorem Move.stranger {s t : Stage} (h : Move s t) {id : String}
    (hs : s.Free id ∨ ∃ a outcome, .enqueued a outcome ∈ s.log ∧ a.id = id) :
    t.Free id ∨ ∃ a outcome, .enqueued a outcome ∈ t.log ∧ a.id = id := by
  obtain ⟨marks, hlog⟩ := h.grows
  rcases hs with hs | ⟨a, outcome, ha, hid⟩
  · have hleaves : ∀ {o : Outbox} {a : Action} {before after : List Action} {log : List Mark},
        Leaves s.outbox a before after o → Stage.Free ⟨o, s.loose ++ [a], log⟩ id := by
      intro o a before after log hleaves
      have hshape : o.settledOrder = s.outbox.settledOrder := by rw [hleaves.shape]
      refine ⟨fun c b hb => hs.line c b (hleaves.mem_line.mpr (.inl hb)), fun b hb => ?_,
        hshape ▸ hs.memory⟩
      rcases List.mem_append.mp hb with hb | hb
      · exact hs.loose b hb
      · rw [List.mem_singleton.mp hb]
        exact hs.line a.chat a.initial (hleaves.mem_line.mpr (.inr ⟨rfl, rfl⟩))
    cases h with
    | refuse a => exact .inl ⟨hs.line, hs.loose, hs.memory⟩
    | join a hfree =>
        by_cases hid : a.id = id
        · exact .inr ⟨a, .queued, List.mem_cons_self, hid⟩
        · refine .inl ⟨fun c b hb => ?_, hs.loose, hs.memory⟩
          rcases mem_line_push.mp hb with hb | ⟨-, rfl⟩
          · exact hs.line c b hb
          · exact hid
    | turnAway a outcome hfree hq hd =>
        by_cases hid : a.id = id
        · exact .inr ⟨a, outcome, List.mem_cons_self, hid⟩
        · refine .inl ⟨hs.line, fun b hb => ?_, hs.memory⟩
          rcases List.mem_append.mp hb with hb | hb
          · exact hs.loose b hb
          · exact List.mem_singleton.mp hb ▸ hid
    | restate o hshape hline =>
        have horder : o.settledOrder = s.outbox.settledOrder := by rw [hshape]
        exact .inl ⟨fun c b hb => hs.line c b (hline c ▸ hb), hs.loose, horder ▸ hs.memory⟩
    | write a rest hhead hk hcalm => exact .inl ⟨hs.line, hs.loose, hs.memory⟩
    | depart a rest o h hk hcalm => exact .inl (hleaves h)
    | leave a before after o h => exact .inl (hleaves h)
    | settle a before after log outcome =>
        rename_i o
        have hother : a.id ≠ id := hs.loose a (List.mem_append_right _ List.mem_cons_self)
        refine .inl ⟨fun c b hb => hs.line c b ?_, fun b hb => ?_, fun hmem => ?_⟩
        · have hline : ({ o with index := o.index.erase a.id }.settle a outcome).line c =
              o.line c := settle_line _ a outcome c
          exact hline ▸ hb
        · rcases List.mem_append.mp hb with hb | hb
          · exact hs.loose b (List.mem_append_left _ hb)
          · exact hs.loose b (List.mem_append_right _ (List.mem_cons_of_mem _ hb))
        · rcases mem_settledOrder_settle hmem with hmem | hmem
          · exact hs.memory hmem
          · exact hother hmem.symm
  · exact .inr ⟨a, outcome, hlog ▸ List.mem_append_right _ ha, hid⟩

/-- **An id that is neither queued nor remembered stays so** as long as no action of this id comes. -/
theorem Path.stranger {o o' : Outbox} {log log' : List Mark} (hs : o.Sound)
    (hpath : Path ⟨o, [], log⟩ ⟨o', [], log'⟩) {id : String} (hi : o.index.get? id = none)
    (hm : o.settledIds.get? id = none)
    (hnone : ∀ a outcome, .enqueued a outcome ∈ log' → a.id ≠ id) :
    o'.index.get? id = none ∧ o'.settledIds.get? id = none := by
  have hsound := (hpath.sound (hs.stage log)).outbox
  have hdone := hpath.keeps
    (P := fun s => s.Free id ∨ ∃ a outcome, .enqueued a outcome ∈ s.log ∧ a.id = id)
    (fun hm hs => hm.stranger hs) (.inl (hs.free hi hm log))
  rcases hdone with hfree | ⟨a, outcome, ha, hid⟩
  · refine ⟨?_, (hsound.remembered id).mpr hfree.memory⟩
    cases hget : o'.index.get? id with
    | none => rfl
    | some c =>
        obtain ⟨c, a, ha, hid⟩ :=
          hsound.contains_iff.mp (Option.isSome_iff_exists.mpr ⟨c, hget⟩)
        exact absurd hid (hfree.line c a ha)
  · exact absurd hid (hnone a outcome ha)

/-- To queue an action says nothing about another id: if that is neither queued nor remembered, it
is not so afterwards. -/
theorem enqueue_stranger {o : Outbox} (hs : o.Sound) (timers : Timers) {b : Action} {id : String}
    (hid : b.id ≠ id) (hi : o.index.get? id = none) (hm : o.settledIds.get? id = none) :
    (o.enqueue timers b).2.1.index.get? id = none ∧
      (o.enqueue timers b).2.1.settledIds.get? id = none := by
  refine Path.stranger hs (perform_path (r := Run.start o timers) hs (.enqueue b)) hi hm ?_
  intro a outcome ha
  cases eq_enqueue_of_mem_log ha
  exact hid

/-- Whoever is refused was known. -/
theorem known_of_refused {o : Outbox} {timers : Timers} {a : Action}
    (h : (o.enqueue timers a).1 = .duplicateId) :
    o.contains a.id = true ∨ o.settledIds.contains a.id = true := by
  unfold enqueue at h
  split at h
  · rename_i hknown
    exact (Bool.or_eq_true _ _).mp hknown
  · dsimp only at h
    split at h
    · cases h
    · cases h
    · unfold accept at h
      dsimp only at h
      repeat' split at h
      all_goals cases h

end RealtimeChat.Outbox
