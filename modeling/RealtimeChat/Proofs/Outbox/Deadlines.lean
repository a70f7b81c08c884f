import RealtimeChat.Proofs.Outbox.Paths
import RealtimeChat.Proofs.Timer
/-!
# The deadlines of an outbox

An action that was sent waits for its answer, and one that was not answered in time waits for its
next attempt. Each of them has a deadline, and no other action has one. Deadlines that have passed
are taken out of the timers together and handled one after the other; until then they are owed.

* `Standing` -- an action of this id is queued and waits;
* **`Clocked`** -- the armed keys of actions are those of the actions that wait, apart from what
  is owed;
* `Without`, `Recast` -- outboxes that differ in one action, or in how far their actions are;
* **`flush_clocked`** and the others -- operations keep it.
-/

namespace RealtimeChat.Outbox

open Timer (Key)
open Timers (SameBut PaidBut)

/-! ## 1. Waiting actions -/

/-- An action of this id is queued and waits for an answer or for its next attempt. -/
def Standing (o : Outbox) (id : String) : Prop :=
  ∃ c, ∃ a ∈ o.queue c, a.id = id ∧ a.state ≠ .pending

/-- The armed keys of actions are those of the actions that wait, apart from what is owed. -/
structure Clocked (o : Outbox) (t : Timers) (owed : List Key) : Prop where
  armed : ∀ id, t.isScheduled (.action id) = true ↔ o.Standing id ∧ .action id ∉ owed
  /-- What needs no answer does not wait. -/
  calm : ∀ c, ∀ a ∈ o.queue c, a.kind.requiresAck = false → a.state = .pending

/-- What is owed and may be sent again needs no answer, so that it is not armed before the owed key
is handled. -/
def Steady (o : Outbox) (owed : List Key) : Prop :=
  ∀ c, ∀ a ∈ o.queue c, .action a.id ∈ owed → a.state = .pending → a.kind.requiresAck = false

/-- The outbox without one of its actions. -/
def Without (o : Outbox) (x : Action) (o' : Outbox) : Prop :=
  ∀ c a, a ∈ o'.queue c ↔ a ∈ o.queue c ∧ a.id ≠ x.id

/-- The outbox with its actions in other states. -/
def Recast (o : Outbox) (f : Action → Action) (o' : Outbox) : Prop :=
  ∀ c, o'.queue c = (o.queue c).map f

/-- No two queued actions have the same id. -/
theorem Sound.unique {o : Outbox} (hs : o.Sound) {c d : String} {a b : Action}
    (ha : a ∈ o.queue c) (hb : b ∈ o.queue d) (hid : a.id = b.id) : c = d ∧ a = b := by
  have hac : o.index.get? a.id = some c := hs.found c a.initial (List.mem_map_of_mem ha)
  have hbd : o.index.get? b.id = some d := hs.found d b.initial (List.mem_map_of_mem hb)
  rw [hid, hbd] at hac
  cases hac
  have hdistinct : ((o.queue c).map (·.id)).Nodup := by
    have hline := hs.distinct c
    rwa [line, List.map_map] at hline
  exact ⟨rfl, List.inj_on_of_nodup_map hdistinct ha hb hid⟩

theorem Sound.without {o o' : Outbox} (hs : o.Sound) {c : String} {p : Action → Bool} {x : Action}
    (hx : (o.queue c).find? p = some x)
    (hq : ∀ d, o'.queue d = if c = d then (o.queue c).eraseP p else o.queue d) :
    Without o x o' := by
  have hmem : x ∈ o.queue c := List.mem_of_find?_eq_some hx
  obtain ⟨before, after, hsplit, herase⟩ := split_of_find? hx
  have hdistinct : ((o.queue c).map (·.id)).Nodup := by
    have hline := hs.distinct c
    rwa [line, List.map_map] at hline
  intro d a
  rw [hq]
  by_cases hd : c = d
  · subst hd
    rw [if_pos rfl, herase]
    constructor
    · intro ha
      have hold : a ∈ o.queue c := by
        rw [hsplit]
        exact List.mem_append.mpr ((List.mem_append.mp ha).imp_right (List.mem_cons_of_mem x))
      refine ⟨hold, fun hid => ?_⟩
      rw [hsplit, List.map_append, List.map_cons, List.nodup_middle] at hdistinct
      refine (List.nodup_cons.mp hdistinct).1 ?_
      rw [← List.map_append, ← hid]
      exact List.mem_map_of_mem ha
    · rintro ⟨ha, hid⟩
      rw [hsplit] at ha
      rcases List.mem_append.mp ha with ha | ha
      · exact List.mem_append_left _ ha
      · rcases List.mem_cons.mp ha with rfl | ha
        · exact absurd rfl hid
        · exact List.mem_append_right _ ha
  · rw [if_neg hd]
    exact ⟨fun ha => ⟨ha, fun hid => hd (hs.unique hmem ha hid.symm).1⟩, And.left⟩

section Parts

variable {o o' : Outbox} {t t' : Timers} {owed : List Key} {x : Action}

theorem Without.standing_iff (h : Without o x o') (id : String) :
    o'.Standing id ↔ o.Standing id ∧ x.id ≠ id := by
  constructor
  · rintro ⟨c, a, ha, rfl, hstate⟩
    obtain ⟨hold, hid⟩ := (h c a).mp ha
    exact ⟨⟨c, a, hold, rfl, hstate⟩, hid.symm⟩
  · rintro ⟨⟨c, a, ha, rfl, hstate⟩, hid⟩
    exact ⟨c, a, (h c a).mpr ⟨ha, hid.symm⟩, rfl, hstate⟩

theorem Without.calm (h : Without o x o') (hc : o.Clocked t owed) :
    ∀ c, ∀ a ∈ o'.queue c, a.kind.requiresAck = false → a.state = .pending :=
  fun c a ha => hc.calm c a ((h c a).mp ha).1

/-- An action leaves, and its key is disarmed. -/
theorem Clocked.without (hc : o.Clocked t owed) (h : Without o x o') :
    o'.Clocked (t.cancel (.action x.id)) owed := by
  refine ⟨fun id => ?_, h.calm hc⟩
  rw [Timers.isScheduled_cancel, hc.armed, h.standing_iff]
  simp only [ne_eq, Key.action.injEq]
  tauto

/-- An action leaves whose key was owed. -/
theorem Clocked.pay_without (hc : o.Clocked t (.action x.id :: owed)) (h : Without o x o') :
    o'.Clocked t owed := by
  refine ⟨fun id => ?_, h.calm hc⟩
  rw [hc.armed, h.standing_iff]
  simp only [List.mem_cons, Key.action.injEq, not_or, eq_comm (a := id)]
  tauto

/-- An action leaves that did not wait. -/
theorem Clocked.without_pending (hc : o.Clocked t owed) (h : Without o x o')
    (hx : ¬ o.Standing x.id) : o'.Clocked t owed := by
  refine ⟨fun id => ?_, h.calm hc⟩
  rw [hc.armed, h.standing_iff]
  constructor
  · rintro ⟨hstanding, howed⟩
    exact ⟨⟨hstanding, fun hid => hx (hid ▸ hstanding)⟩, howed⟩
  · rintro ⟨⟨hstanding, -⟩, howed⟩
    exact ⟨hstanding, howed⟩

theorem Steady.without (hs : o.Steady owed) (h : Without o x o') : o'.Steady owed :=
  fun c a ha => hs c a ((h c a).mp ha).1

/-- What does not wait is paid by doing nothing. -/
theorem Clocked.pay {id : String} (hc : o.Clocked t (.action id :: owed)) (hid : ¬ o.Standing id) :
    o.Clocked t owed := by
  refine ⟨fun other => ?_, hc.calm⟩
  rw [hc.armed, List.mem_cons, not_or]
  constructor
  · rintro ⟨hstanding, -, howed⟩
    exact ⟨hstanding, howed⟩
  · rintro ⟨hstanding, howed⟩
    exact ⟨hstanding, fun heq => hid (Key.action.inj heq ▸ hstanding), howed⟩

theorem Steady.pay {key : Key} (hs : o.Steady (key :: owed)) : o.Steady owed :=
  fun c a ha howed => hs c a ha (List.mem_cons_of_mem key howed)

theorem steady_nil (o : Outbox) : o.Steady [] := fun _ _ _ howed => absurd howed List.not_mem_nil

/-- Only the queues play a part. -/
theorem Clocked.of_queue (hc : o.Clocked t owed) (hq : ∀ c, o'.queue c = o.queue c) :
    o'.Clocked t owed := by
  have hstanding : ∀ id, o'.Standing id ↔ o.Standing id := fun id => by simp only [Standing, hq]
  exact ⟨fun id => (hc.armed id).trans (and_congr_left' (hstanding id).symm),
    fun c a ha => hc.calm c a (hq c ▸ ha)⟩

theorem Steady.of_queue (hs : o.Steady owed) (hq : ∀ c, o'.queue c = o.queue c) :
    o'.Steady owed := fun c a ha => hs c a (hq c ▸ ha)

/-- The keys of another part of a client play no part. -/
theorem Clocked.frame {owner : Timer.Owner} {owed' : List Key} (hc : o.Clocked t owed)
    (hsame : SameBut owner t t') (hpaid : PaidBut owner owed owed') (howner : owner ≠ .outbox) :
    o.Clocked t' owed' := by
  refine ⟨fun id => ?_, hc.calm⟩
  rw [hsame.isScheduled (.action id) howner.symm, hpaid (.action id) howner.symm]
  exact hc.armed id

/-- An action whose own state is known waits or does not. -/
theorem Sound.standing_iff (hs : o.Sound) {c : String} (hx : x ∈ o.queue c) :
    o.Standing x.id ↔ x.state ≠ .pending := by
  constructor
  · rintro ⟨d, a, ha, hid, hstate⟩
    obtain ⟨-, rfl⟩ := hs.unique ha hx hid
    exact hstate
  · exact fun hstate => ⟨c, x, hx, rfl, hstate⟩

/-- When keys are taken out of the timers, they are owed. -/
theorem Clocked.drain (hs : o.Sound) (hc : o.Clocked t []) (now : Instant) :
    o.Clocked (t.drain now).2 (t.due now) ∧ o.Steady (t.due now) := by
  refine ⟨⟨fun id => ?_, hc.calm⟩, fun c a ha howed hstate => ?_⟩
  · rw [Timers.isScheduled_drain, hc.armed]
    simp
  · obtain ⟨deadline, hd, -⟩ := Timers.mem_due.mp howed
    have harmed := (hc.armed a.id).mp (Timers.isScheduled_eq_true_iff.mpr ⟨deadline, hd⟩)
    exact absurd hstate ((hs.standing_iff ha).mp harmed.1)

end Parts

/-! ## 2. Queueing -/

section Enqueue

variable {o : Outbox} {t : Timers} {owed : List Key} {a : Action}

theorem mem_queue_push {b : Action} {c : String} :
    b ∈ (o.push a).queue c ↔ b ∈ o.queue c ∨ a.chat = c ∧ b = a := by
  rw [queue_push]
  split
  · rename_i hc
    simp [hc]
  · rename_i hc
    simp [hc]

/-- A new action does not wait. -/
theorem Clocked.push (hc : o.Clocked t owed) (ha : a.state = .pending) :
    (o.push a).Clocked t owed := by
  have hstanding : ∀ id, (o.push a).Standing id ↔ o.Standing id := by
    intro id
    constructor
    · rintro ⟨c, b, hb, hid, hstate⟩
      rcases mem_queue_push.mp hb with hb | ⟨-, rfl⟩
      · exact ⟨c, b, hb, hid, hstate⟩
      · exact absurd ha hstate
    · rintro ⟨c, b, hb, hid, hstate⟩
      exact ⟨c, b, mem_queue_push.mpr (.inl hb), hid, hstate⟩
  refine ⟨fun id => (hc.armed id).trans (and_congr_left' (hstanding id).symm), fun c b hb hk => ?_⟩
  rcases mem_queue_push.mp hb with hb | ⟨-, rfl⟩
  · exact hc.calm c b hb hk
  · exact ha

theorem Steady.push (hs : o.Steady owed) (ha : .action a.id ∈ owed → a.kind.requiresAck = false) :
    (o.push a).Steady owed := by
  intro c b hb howed hstate
  rcases mem_queue_push.mp hb with hb | ⟨-, rfl⟩
  · exact hs c b hb howed hstate
  · exact ha howed

/-- What comes of an action that is to be queued, with its deadlines. -/
inductive Queueing (o : Outbox) (t : Timers) (a : Action) : Outbox → Timers → Prop where
  | refused (o' : Outbox) (hq : ∀ c, o'.queue c = o.queue c) : Queueing o t a o' t
  | joined : Queueing o t a (o.push a) t
  /-- Another action gives way to it. -/
  | preferred (x : Action) (o' : Outbox) (h : Without o x o') :
      Queueing o t a (o'.push a) (t.cancel (.action x.id))
  /-- It takes a start of typing with it. -/
  | undid (x : Action) (c : String) (hx : x ∈ o.queue c) (hk : x.kind = .typingStart)
      (o' : Outbox) (h : Without o x o') : Queueing o t a o' t

theorem accept_queueing (hs : o.Sound) (t : Timers) (a : Action) :
    Queueing o t a (o.accept t a).2.1 (o.accept t a).2.2 := by
  unfold accept
  dsimp only
  split
  · exact .joined
  · split
    · rename_i oldest hoffer
      refine .preferred oldest _ (hs.without hoffer fun d => ?_)
      rw [settle_queue]
      exact queue_insert o a.chat d _
    · exact .refused _ (o.settle_queue a .dropped)

theorem enqueue_queueing (hs : o.Sound) (t : Timers) (a : Action) :
    Queueing o t a (o.enqueue t a).2.1 (o.enqueue t a).2.2 := by
  unfold enqueue
  split
  · exact .refused o fun _ => rfl
  · dsimp only
    split
    · rename_i start _ hstart
      have hkind : start.kind = .typingStart := by
        simpa [Action.startsTyping] using List.find?_some hstart
      refine .undid start a.chat (List.mem_of_find?_eq_some hstart) hkind _
        (hs.without hstart fun d => ?_)
      rw [settle_queue, settle_queue, queue_setQueue]
      rfl
    · exact .refused _ (o.settle_queue a .collapsed)
    · exact accept_queueing hs t a

/-- **A new action** does not wait. -/
theorem enqueue_clocked (hs : o.Sound) (hc : o.Clocked t owed) (ha : a.state = .pending) :
    (o.enqueue t a).2.1.Clocked (o.enqueue t a).2.2 owed ∧
      SameBut .outbox t (o.enqueue t a).2.2 := by
  have hqueueing := enqueue_queueing hs t a
  generalize o.enqueue t a = r at hqueueing
  obtain ⟨_, o', t'⟩ := r
  cases hqueueing with
  | refused _ hq => exact ⟨hc.of_queue hq, .refl _ _⟩
  | joined => exact ⟨hc.push ha, .refl _ _⟩
  | preferred x o' h => exact ⟨(hc.without h).push ha, SameBut.cancel _ (.action x.id)⟩
  | undid x c hx hk _ h =>
      -- the start of typing was not sent, otherwise it would not be queued any more
      have hpending : x.state = .pending := hc.calm c x hx (by rw [hk]; rfl)
      refine ⟨hc.without_pending h ?_, .refl _ _⟩
      rw [hs.standing_iff hx]
      exact not_not.mpr hpending

theorem enqueue_steady (hs : o.Sound) (hsteady : o.Steady owed)
    (ha : .action a.id ∈ owed → a.kind.requiresAck = false) :
    (o.enqueue t a).2.1.Steady owed := by
  have hqueueing := enqueue_queueing hs t a
  generalize o.enqueue t a = r at hqueueing
  obtain ⟨_, o', t'⟩ := r
  cases hqueueing with
  | refused _ hq => exact hsteady.of_queue hq
  | joined => exact hsteady.push ha
  | preferred x o' h => exact (hsteady.without h).push ha
  | undid x c hx hk _ h => exact hsteady.without h

end Enqueue

/-! ## 3. Answers -/

section Answers

variable {o o' : Outbox} {t : Timers} {owed : List Key} {a : Action} {id : String}

theorem Sound.get?_eq_some_iff (hs : o.Sound) :
    o.get? id = some a ↔ a.id = id ∧ ∃ c, a ∈ o.queue c := by
  constructor
  · intro h
    obtain ⟨c, -, h⟩ := Option.bind_eq_some_iff.mp h
    exact ⟨by simpa using List.find?_some h, c, List.mem_of_find?_eq_some h⟩
  · rintro ⟨rfl, c, ha⟩
    have hindex : o.index.get? a.id = some c := hs.found c a.initial (List.mem_map_of_mem ha)
    rw [get?, hindex, Option.bind_some]
    cases hfind : (o.queue c).find? (fun b => b.id = a.id) with
    | none => exact absurd (List.find?_eq_none.mp hfind a ha) (by simp)
    | some b =>
        have hid : b.id = a.id := by simpa using List.find?_some hfind
        rw [(hs.unique (List.mem_of_find?_eq_some hfind) ha hid).2]

theorem take?_without (hs : o.Sound) (h : o.take? id = some (a, o')) :
    a.id = id ∧ Without o a o' := by
  obtain ⟨c, -, h⟩ := Option.bind_eq_some_iff.mp h
  obtain ⟨b, hb, h⟩ := Option.map_eq_some_iff.mp h
  obtain ⟨rfl, rfl⟩ := Prod.mk.inj h
  refine ⟨by simpa using List.find?_some hb, hs.without hb fun d => ?_⟩
  rw [queue_setQueue]
  rfl

theorem exists_take? (h : o.get? id = some a) : ∃ o', o.take? id = some (a, o') := by
  obtain ⟨c, hc, h⟩ := Option.bind_eq_some_iff.mp h
  exact ⟨_, by rw [take?, hc, Option.bind_some, h, Option.map_some]⟩

/-- **Whoever is answered** does not wait any more. -/
theorem acknowledge_clocked (hs : o.Sound) (hc : o.Clocked t owed) (ack : Ack) :
    (o.acknowledge t ack).2.1.Clocked (o.acknowledge t ack).2.2 owed ∧
      SameBut .outbox t (o.acknowledge t ack).2.2 := by
  unfold acknowledge
  split
  · exact ⟨hc, .refl _ t⟩
  · rename_i a o' h
    have hleft := hc.without (take?_without hs h).2
    exact ⟨hleft.of_queue (o'.settle_queue a _), SameBut.cancel t (.action a.id)⟩

theorem acknowledge_steady (hs : o.Sound) (hsteady : o.Steady owed) (t : Timers) (ack : Ack) :
    (o.acknowledge t ack).2.1.Steady owed := by
  unfold acknowledge
  split
  · exact hsteady
  · rename_i a o' h
    exact (hsteady.without (take?_without hs h).2).of_queue (o'.settle_queue a _)

end Answers

/-! ## 4. Other states -/

section Recast

variable {o o' : Outbox} {t : Timers} {owed : List Key} {f : Action → Action} {id : String}

theorem Recast.standing_iff (h : Recast o f o') (hf : ∀ a, (f a).id = a.id) (id : String) :
    o'.Standing id ↔ ∃ c, ∃ a ∈ o.queue c, a.id = id ∧ (f a).state ≠ .pending := by
  simp only [Standing, h _, List.mem_map]
  constructor
  · rintro ⟨c, _, ⟨a, ha, rfl⟩, hid, hstate⟩
    exact ⟨c, a, ha, hf a ▸ hid, hstate⟩
  · rintro ⟨c, a, ha, hid, hstate⟩
    exact ⟨c, f a, ⟨a, ha, rfl⟩, (hf a).trans hid, hstate⟩

theorem Recast.calm (h : Recast o f o') (hc : o.Clocked t owed) (hf : ∀ a, (f a).kind = a.kind)
    (hpending : ∀ c, ∀ a ∈ o.queue c, a.state = .pending → (f a).state = .pending) :
    ∀ c, ∀ a ∈ o'.queue c, a.kind.requiresAck = false → a.state = .pending := by
  intro c a ha hk
  rw [h c] at ha
  obtain ⟨b, hb, rfl⟩ := List.mem_map.mp ha
  rw [hf] at hk
  exact hpending c b hb (hc.calm c b hb hk)

theorem Steady.recast (hs : o.Steady owed) (h : Recast o f o') (hid : ∀ a, (f a).id = a.id)
    (hk : ∀ a, (f a).kind = a.kind)
    (hpending : ∀ a, .action a.id ∈ owed → (f a).state = .pending → a.state = .pending) :
    o'.Steady owed := by
  intro c a ha howed hstate
  rw [h c] at ha
  obtain ⟨b, hb, rfl⟩ := List.mem_map.mp ha
  rw [hid] at howed
  rw [hk]
  exact hs c b hb howed (hpending b howed hstate)

theorem modify_recast (hs : o.Sound) (id : String) (f : Action → Action) :
    Recast o (fun a => if a.id = id then f a else a) (o.modify id f) := by
  intro c
  rw [queue_modify]
  split
  · rfl
  · rename_i hc
    have hnobody : ∀ a ∈ o.queue c, a = if a.id = id then f a else a := by
      intro a ha
      have hindex : o.index.get? a.id = some c := hs.found c a.initial (List.mem_map_of_mem ha)
      have hne : a.id ≠ id := by
        intro hid
        rw [hid] at hindex
        exact hc hindex
      rw [if_neg hne]
    rw [← List.map_congr_left hnobody, List.map_id']

variable {a : Action} {c : String} {x : Action.State}

/-- One action goes to another state. -/
theorem standing_modify (hs : o.Sound) (ha : a ∈ o.queue c) (hf : ∀ b, (f b).id = b.id)
    (hx : ∀ b, (f b).state = x) (id : String) :
    (o.modify a.id f).Standing id ↔
      a.id = id ∧ x ≠ .pending ∨ a.id ≠ id ∧ o.Standing id := by
  rw [(modify_recast hs a.id f).standing_iff (fun b => by split <;> simp [hf])]
  constructor
  · rintro ⟨d, b, hb, rfl, hstate⟩
    by_cases hid : b.id = a.id
    · rw [if_pos hid, hx] at hstate
      exact .inl ⟨hid.symm, hstate⟩
    · rw [if_neg hid] at hstate
      exact .inr ⟨Ne.symm hid, d, b, hb, rfl, hstate⟩
  · rintro (⟨rfl, hstate⟩ | ⟨hid, d, b, hb, rfl, hstate⟩)
    · exact ⟨c, a, ha, rfl, by rw [if_pos rfl, hx]; exact hstate⟩
    · exact ⟨d, b, hb, rfl, by rw [if_neg hid.symm]; exact hstate⟩

theorem calm_modify (hs : o.Sound) (hc : o.Clocked t owed) (ha : a ∈ o.queue c)
    (hstate : a.state ≠ .pending) (hf : ∀ b, (f b).kind = b.kind) :
    ∀ d, ∀ b ∈ (o.modify a.id f).queue d, b.kind.requiresAck = false → b.state = .pending := by
  refine (modify_recast hs a.id f).calm hc (fun b => by split <;> simp [hf])
    fun d b hb hpending => ?_
  have hid : b.id ≠ a.id := by
    intro hid
    obtain ⟨-, rfl⟩ := hs.unique hb ha hid
    exact hstate hpending
  rwa [if_neg hid]

/-- **The deadline of an action has passed**: it waits for its next attempt, or for nothing. -/
theorem expire_clocked (hs : o.Sound) (hc : o.Clocked t (.action id :: owed))
    (hid : .action id ∉ owed) (now : Instant) :
    (o.expire t id now).1.Clocked (o.expire t id now).2 owed ∧
      SameBut .outbox t (o.expire t id now).2 := by
  unfold expire
  split
  · rename_i hnone
    refine ⟨hc.pay ?_, .refl _ t⟩
    rintro ⟨c, b, hb, hbid, -⟩
    rw [hs.get?_eq_some_iff.mpr ⟨hbid, c, hb⟩] at hnone
    cases hnone
  · rename_i a hget
    obtain ⟨rfl, c, ha⟩ := hs.get?_eq_some_iff.mp hget
    split
    · rename_i hstate
      have hstanding : a.state ≠ .pending := by simp [hstate]
      dsimp only
      split
      · obtain ⟨o', htake⟩ := exists_take? hget
        have hleft := hc.pay_without (take?_without hs htake).2
        rw [htake]
        exact ⟨hleft.of_queue (o'.settle_queue a _), .refl _ t⟩
      · refine ⟨⟨fun id => ?_, calm_modify hs hc ha hstanding fun _ => rfl⟩,
          SameBut.schedule t (.action a.id) _⟩
        refine Iff.trans ?_ (and_congr_left' (standing_modify hs ha (x := .waiting)
          (fun _ => by rfl) (fun _ => by rfl) id).symm)
        rw [Timers.isScheduled_schedule, hc.armed]
        by_cases heq : a.id = id
        · subst heq
          simp [hid]
        · simp [heq, Ne.symm heq]
    · rename_i hstate
      have hstanding : a.state ≠ .pending := by simp [hstate]
      refine ⟨⟨fun id => ?_, calm_modify hs hc ha hstanding fun _ => rfl⟩, .refl _ t⟩
      refine Iff.trans ?_ (and_congr_left' (standing_modify hs ha (x := .pending)
        (fun _ => by rfl) (fun _ => by rfl) id).symm)
      rw [hc.armed]
      by_cases heq : a.id = id
      · subst heq
        simp
      · simp [heq, Ne.symm heq]
    · rename_i hstate
      refine ⟨hc.pay ?_, .refl _ t⟩
      rw [hs.standing_iff ha]
      exact not_not.mpr hstate

theorem expire_steady (hs : o.Sound) (hsteady : o.Steady (.action id :: owed))
    (hid : .action id ∉ owed) (t : Timers) (now : Instant) :
    (o.expire t id now).1.Steady owed := by
  have hmodified : ∀ f : Action → Action, (∀ a, (f a).id = a.id) → (∀ a, (f a).kind = a.kind) →
      (o.modify id f).Steady owed := by
    intro f hfid hfkind
    refine hsteady.pay.recast (modify_recast hs id f) (fun b => by split <;> simp [hfid])
      (fun b => by split <;> simp [hfkind]) fun b howed hstate => ?_
    have hne : b.id ≠ id := fun heq => hid (heq ▸ howed)
    rwa [if_neg hne] at hstate
  unfold expire
  split
  · exact hsteady.pay
  · split
    · dsimp only
      split
      · split
        · exact hsteady.pay
        · rename_i b o' htake
          exact (hsteady.pay.without (take?_without hs htake).2).of_queue (o'.settle_queue b _)
      · exact hmodified _ (fun _ => rfl) fun _ => rfl
    · exact hmodified _ (fun _ => rfl) fun _ => rfl
    · exact hsteady.pay

/-! ## 5. Lost connections and logging out -/

theorem mem_values_flatten {b : Action} : b ∈ o.chats.values.flatten ↔ ∃ c, b ∈ o.queue c := by
  rw [OrderedMap.mem_flatten_iff]
  constructor
  · rintro ⟨c, l, hl, hb⟩
    exact ⟨c, by rw [Outbox.queue, hl]; exact hb⟩
  · rintro ⟨c, hb⟩
    cases hl : o.chats.get? c with
    | none =>
        rw [Outbox.queue, hl] at hb
        cases hb
    | some l =>
        rw [Outbox.queue, hl] at hb
        exact ⟨c, l, hl, hb⟩

theorem disconnect_recast (o : Outbox) (t : Timers) :
    Recast o (fun a => if a.state = .inFlight then { a with state := .pending } else a)
      (o.disconnect t).1 := by
  intro c
  unfold disconnect Outbox.queue
  dsimp only
  rw [OrderedMap.get?_mapEntries]
  cases o.chats.get? c <;> rfl

/-- **When the connection is lost**, only the waits for next attempts go on. -/
theorem disconnect_clocked (hs : o.Sound) (hc : o.Clocked t owed) :
    (o.disconnect t).1.Clocked (o.disconnect t).2 owed ∧
      SameBut .outbox t (o.disconnect t).2 := by
  have hrecast := disconnect_recast o t
  refine ⟨⟨fun id => ?_, ?_⟩, SameBut.foldl_cancel .action (fun _ => rfl) _ t⟩
  · rw [hrecast.standing_iff (fun a => by split <;> rfl)]
    show ((((o.chats.values.flatten.filter _).map _).foldl _ t).isScheduled _ = true) ↔ _
    rw [Timers.isScheduled_foldl_cancel Key.action, hc.armed]
    simp only [List.mem_map, List.mem_filter, mem_values_flatten, decide_eq_true_eq]
    constructor
    · rintro ⟨⟨⟨c, a, ha, rfl, hstate⟩, howed⟩, hfree⟩
      have hlanded : a.state ≠ .inFlight := fun h => hfree a.id ⟨a, ⟨⟨c, ha⟩, h⟩, rfl⟩ rfl
      exact ⟨⟨c, a, ha, rfl, by rwa [if_neg hlanded]⟩, howed⟩
    · rintro ⟨⟨c, a, ha, rfl, hstate⟩, howed⟩
      have hlanded : a.state ≠ .inFlight := by
        intro h
        rw [if_pos h] at hstate
        exact hstate rfl
      rw [if_neg hlanded] at hstate
      refine ⟨⟨⟨c, a, ha, rfl, hstate⟩, howed⟩, ?_⟩
      rintro _ ⟨b, ⟨⟨d, hb⟩, hflying⟩, rfl⟩ heq
      obtain ⟨-, rfl⟩ := hs.unique hb ha (Key.action.inj heq)
      exact hlanded hflying
  · refine hrecast.calm hc (fun a => by split <;> rfl) fun c a _ hstate => ?_
    rwa [if_neg (by simp [hstate])]

theorem queue_foldl_settle (outcome : Action.Outcome) (actions : List Action) (o : Outbox)
    (c : String) : (actions.foldl (fun o a => o.settle a outcome) o).queue c = o.queue c := by
  induction actions generalizing o with
  | nil => rfl
  | cons a rest ih =>
      rw [List.foldl_cons, ih]
      exact o.settle_queue a outcome c

/-- **After logging out** nothing waits. -/
theorem cancelAll_clocked (o : Outbox) (t : Timers) (owed : List Key) :
    (o.cancelAll t).1.Clocked (o.cancelAll t).2 owed ∧ SameBut .outbox t (o.cancelAll t).2 := by
  have hqueue : ∀ c, (o.cancelAll t).1.queue c = [] := queue_foldl_settle .cancelled _ _
  refine ⟨⟨fun id => ?_, fun c a ha => ?_⟩, SameBut.cancelWhere t fun key hkey => ?_⟩
  · have hunarmed : (o.cancelAll t).2.isScheduled (.action id) = false := by
      show (t.cancelWhere _).isScheduled _ = false
      rw [Timers.isScheduled, Timers.deadline?_cancelWhere]
      rfl
    simp [hunarmed, Standing, hqueue]
  · rw [hqueue] at ha
    cases ha
  · cases key <;> first | rfl | cases hkey

end Recast

/-! ## 6. Sending -/

section Sending

variable {o o' : Outbox} {t : Timers} {owed : List Key} {c : String} {a : Action}
  {rest : List Action}

/-- Other actions than the head of one queue play no part in what becomes of it. -/
theorem mem_queue_head {q : List Action} (hc : o.queue c = a :: rest)
    (hq : ∀ d, o'.queue d = if c = d then q else o.queue d) (hrest : ∀ b ∈ rest, b ∈ q)
    {d : String} {b : Action} (hb : b ∈ o.queue d) (hne : b ≠ a) : b ∈ o'.queue d := by
  rw [hq]
  by_cases hd : c = d
  · subst hd
    rw [hc] at hb
    rw [if_pos rfl]
    exact hrest b ((List.mem_cons.mp hb).resolve_left hne)
  · rwa [if_neg hd]

/-- The head of a queue waits for its answer. -/
theorem Clocked.fly (hclocked : o.Clocked t owed) (hsteady : o.Steady owed)
    (hc : o.queue c = a :: rest) (ha : a.state = .pending) (hk : a.kind.requiresAck = true)
    (hq : ∀ d, o'.queue d = if c = d then { a with state := .inFlight } :: rest else o.queue d)
    (deadline : Instant) :
    o'.Clocked (t.schedule (.action a.id) deadline) owed ∧ o'.Steady owed := by
  have hhead : a ∈ o.queue c := hc ▸ List.mem_cons_self
  have hfree : .action a.id ∉ owed := fun howed => by
    have hnone := hsteady c a hhead howed ha
    rw [hk] at hnone
    cases hnone
  have hold : ∀ d, ∀ b ∈ o'.queue d, b = { a with state := .inFlight } ∨ b ∈ o.queue d := by
    intro d b hb
    rw [hq] at hb
    split at hb
    · rename_i hd
      rw [← hd, hc]
      exact (List.mem_cons.mp hb).imp_right (List.mem_cons_of_mem a)
    · exact .inr hb
  have hstanding : ∀ id, o'.Standing id ↔ a.id = id ∨ o.Standing id := by
    intro id
    constructor
    · rintro ⟨d, b, hb, hid, hstate⟩
      rcases hold d b hb with rfl | hb
      · exact .inl hid
      · exact .inr ⟨d, b, hb, hid, hstate⟩
    · rintro (hid | ⟨d, b, hb, hid, hstate⟩)
      · refine ⟨c, { a with state := .inFlight }, ?_, hid, by simp⟩
        rw [hq, if_pos rfl]
        exact List.mem_cons_self
      · have hne : b ≠ a := fun heq => hstate (heq ▸ ha)
        exact ⟨d, b, mem_queue_head hc hq (fun _ => List.mem_cons_of_mem _) hb hne, hid, hstate⟩
  refine ⟨⟨fun id => ?_, fun d b hb hnone => ?_⟩, fun d b hb howed hstate => ?_⟩
  · rw [Timers.isScheduled_schedule, hclocked.armed, hstanding]
    by_cases hid : a.id = id
    · subst hid
      simp [hfree]
    · simp [hid]
  · rcases hold d b hb with rfl | hb
    · exact absurd hnone (by simpa [Action.kind] using hk)
    · exact hclocked.calm d b hb hnone
  · rcases hold d b hb with rfl | hb
    · cases hstate
    · exact hsteady d b hb howed hstate

/-- The head of a queue needs no answer and leaves. -/
theorem Clocked.land (hclocked : o.Clocked t owed) (hsteady : o.Steady owed)
    (hc : o.queue c = a :: rest) (ha : a.state = .pending)
    (hq : ∀ d, o'.queue d = if c = d then rest else o.queue d) :
    o'.Clocked t owed ∧ o'.Steady owed := by
  have hold : ∀ d, ∀ b ∈ o'.queue d, b ∈ o.queue d := by
    intro d b hb
    rw [hq] at hb
    split at hb
    · rename_i hd
      rw [← hd, hc]
      exact List.mem_cons_of_mem a hb
    · exact hb
  have hstanding : ∀ id, o'.Standing id ↔ o.Standing id := by
    intro id
    constructor
    · rintro ⟨d, b, hb, hid, hstate⟩
      exact ⟨d, b, hold d b hb, hid, hstate⟩
    · rintro ⟨d, b, hb, hid, hstate⟩
      have hne : b ≠ a := fun heq => hstate (heq ▸ ha)
      exact ⟨d, b, mem_queue_head hc hq (fun _ h => h) hb hne, hid, hstate⟩
  exact ⟨⟨fun id => (hclocked.armed id).trans (and_congr_left' (hstanding id).symm),
    fun d b hb => hclocked.calm d b (hold d b hb)⟩, fun d b hb => hsteady d b (hold d b hb)⟩

variable {σ : Type} {send : σ → Outgoing → Except SendFault Unit × σ}

/-- The deadlines in the middle of a flush. -/
structure Timed (o : Outbox) (t : Timers) (owed : List Key)
    (chats : OrderedMap String (List Action)) (f : Flush σ) : Prop where
  clocked : (o.withChats chats).Clocked f.timers owed
  steady : (o.withChats chats).Steady owed
  sameBut : SameBut .outbox t f.timers

variable (send)

theorem Timed.walk (deadline : Instant) (f : Flush σ) (hf : Timed o t owed o.chats f) :
    Timed o t owed
      (o.chats.walk (fun f _ queue => flushQueue send deadline f queue) f).1
      (o.chats.walk (fun f _ queue => flushQueue send deadline f queue) f).2 := by
  have hhead : ∀ {m : OrderedMap String (List Action)} {c a rest}, m.get? c = some (a :: rest) →
      (o.withChats m).queue c = a :: rest := by
    intro m c a rest hc
    show (m.get? c).getD [] = _
    rw [hc]
    rfl
  refine walk_flush_rule ?_ ?_ ?_ o.chats f hf
  · intro m f c a rest sink fault _ _ hm
    exact ⟨hm.clocked, hm.steady, hm.sameBut⟩
  · intro m f c a rest sink hc ha hk _ hm
    obtain ⟨hclocked, hsteady⟩ := hm.clocked.fly hm.steady (hhead hc) ha hk
      (queue_insert (o.withChats m) c · _) deadline
    exact ⟨hclocked, hsteady, hm.sameBut.trans (SameBut.schedule f.timers (.action a.id) deadline)⟩
  · intro m f c a rest sink hc ha _ _ hm
    obtain ⟨hclocked, hsteady⟩ := hm.clocked.land hm.steady (hhead hc) ha
      (queue_insert (o.withChats m) c · _)
    exact ⟨hclocked, hsteady, hm.sameBut⟩

/-- **Whatever is sent**, what waits is what the timers know. -/
theorem flush_clocked (hclocked : o.Clocked t owed) (hsteady : o.Steady owed) (sink : σ)
    (now : Instant) :
    (o.flush send sink now t).2.1.Clocked (o.flush send sink now t).2.2.2 owed ∧
      (o.flush send sink now t).2.1.Steady owed ∧
      SameBut .outbox t (o.flush send sink now t).2.2.2 := by
  have hwalk := Timed.walk (o := o) (t := t) send (now + o.ackTimeout) ⟨sink, t, 0, [], false⟩
    ⟨hclocked, hsteady, .refl _ t⟩
  -- afterwards only empty queues go
  have hqueue : ∀ c, (o.flush send sink now t).2.1.queue c = _ := queue_filter o _
  exact ⟨hwalk.clocked.of_queue hqueue, hwalk.steady.of_queue hqueue, hwalk.sameBut⟩

end Sending

end RealtimeChat.Outbox
