import Mathlib.Data.List.Induction
import RealtimeChat.Proofs.Outbox.Apart
import RealtimeChat.Proofs.Outbox.Conservation
import RealtimeChat.Proofs.Outbox.Deadlines
/-!
# What the collections of an outbox hold

The queues, the index and the two halves of the memory are changed one by one in every operation.
Between operations they fit together: the index knows who is queued and where, each queue is short
enough and in a state to be sent from its head on, and the memory holds so many ids that are not
queued.

* `Aligned` -- what holds of one queue: its length, the states behind its head, its typing actions;
* `Stowed` -- every queue that is there has somebody in it and is aligned;
* `perform_stowed` -- operations keep that, whatever the sink of a flush does;
* `WellFormed` -- all that holds of the collections;
* **`performAll_wellFormed`** -- it holds after all operations, in any order.
-/

namespace RealtimeChat

/-- What needs an acknowledgement is no typing action. -/
theorem Action.Kind.requiresAck_iff (k : Action.Kind) :
    k.requiresAck = true ↔ k ≠ .typingStart ∧ k ≠ .typingStop := by
  cases k <;> decide

namespace Outbox

/-! ## 1. One queue -/

/-- A queue of at most so many actions that can be sent from its head on. -/
structure Aligned (capacity : Nat) (queue : List Action) : Prop where
  short : queue.length ≤ capacity
  /-- Nobody behind the head was sent. -/
  behind : ∀ a ∈ queue.tail, a.state = .pending
  calm : ∀ a ∈ queue, a.state ≠ .pending → a.kind.requiresAck = true
  /-- Behind a start of typing there is no typing action. -/
  typing : queue.Pairwise fun a b => a.startsTyping = true → b.kind.requiresAck = true

namespace Aligned

variable {capacity : Nat} {queue rest : List Action} {a : Action}

theorem nil (capacity : Nat) : Aligned capacity [] where
  short := Nat.zero_le _
  behind _ h := absurd h List.not_mem_nil
  calm _ h := absurd h List.not_mem_nil
  typing := .nil

/-- Anybody may leave. -/
theorem sublist {fewer : List Action} (h : Aligned capacity queue) (hsub : fewer.Sublist queue) :
    Aligned capacity fewer where
  short := Nat.le_trans hsub.length_le h.short
  behind a ha := h.behind a (hsub.tail.subset ha)
  calm a ha := h.calm a (hsub.subset ha)
  typing := h.typing.sublist hsub

/-- Somebody who was not sent may join where there is room; a typing action only where nobody
starts to type. -/
theorem join (h : Aligned capacity queue) (hroom : queue.length < capacity)
    (ha : a.state = .pending)
    (htyping : a.kind.requiresAck = true ∨ ∀ b ∈ queue, b.startsTyping = false) :
    Aligned capacity (queue ++ [a]) where
  short := by
    rw [List.length_append]
    exact hroom
  behind b hb := by
    cases queue with
    | nil => exact absurd hb List.not_mem_nil
    | cons head rest =>
        rcases List.mem_append.mp hb with hb | hb
        · exact h.behind b hb
        · exact List.mem_singleton.mp hb ▸ ha
  calm b hb hstate := by
    rcases List.mem_append.mp hb with hb | hb
    · exact h.calm b hb hstate
    · exact absurd ha (List.mem_singleton.mp hb ▸ hstate)
  typing := by
    refine List.pairwise_append.mpr
      ⟨h.typing, List.pairwise_singleton _ _, fun b hb c hc hstart => ?_⟩
    obtain rfl := List.mem_singleton.mp hc
    rcases htyping with hk | hnobody
    · exact hk
    · rw [hnobody b hb] at hstart
      cases hstart

/-- The states may change as long as nobody is sent by that. -/
theorem recast (h : Aligned capacity queue) {f : Action → Action}
    (hintent : ∀ a, (f a).intent = a.intent)
    (hf : ∀ a ∈ queue, a.state = .pending → (f a).state = .pending) :
    Aligned capacity (queue.map f) := by
  have hkind : ∀ a, (f a).kind = a.kind := fun a => congrArg Intent.kind (hintent a)
  refine ⟨by rw [List.length_map]; exact h.short, fun b hb => ?_, fun b hb hstate => ?_, ?_⟩
  · rw [← List.map_tail] at hb
    obtain ⟨a, ha, rfl⟩ := List.mem_map.mp hb
    exact hf a (List.mem_of_mem_tail ha) (h.behind a ha)
  · obtain ⟨a, ha, rfl⟩ := List.mem_map.mp hb
    rw [hkind]
    exact h.calm a ha fun hpending => hstate (hf a ha hpending)
  · refine List.pairwise_map.mpr (h.typing.imp fun {a b} hab => ?_)
    rw [Action.startsTyping, hkind a, hkind b]
    exact hab

/-- The head may be sent if it waits for an acknowledgement then. -/
theorem fly (h : Aligned capacity (a :: rest)) (hk : a.kind.requiresAck = true) :
    Aligned capacity ({ a with state := .inFlight } :: rest) where
  short := h.short
  behind := h.behind
  calm b hb hstate := by
    rcases List.mem_cons.mp hb with rfl | hb
    · exact hk
    · exact h.calm b (List.mem_cons_of_mem _ hb) hstate
  typing := by
    obtain ⟨hhead, hrest⟩ := List.pairwise_cons.mp h.typing
    exact List.pairwise_cons.mpr ⟨hhead, hrest⟩

end Aligned

/-! ## 2. All queues -/

/-- Every queue that is there has somebody in it and is aligned. -/
def Stowed (capacity : Nat) (chats : OrderedMap String (List Action)) : Prop :=
  ∀ c queue, chats.get? c = some queue → queue ≠ [] ∧ Aligned capacity queue

section Stowed

variable {capacity : Nat} {o o' : Outbox} {chats : OrderedMap String (List Action)} {a : Action}

theorem Stowed.queue (h : Stowed capacity o.chats) (c : String) : Aligned capacity (o.queue c) := by
  unfold Outbox.queue
  cases hc : o.chats.get? c with
  | none => exact .nil capacity
  | some queue => exact (h c queue hc).2

/-- A queue may be put in the place of another one. -/
theorem Stowed.setQueue (h : Stowed capacity o.chats) {c : String} {queue : List Action}
    (hq : Aligned capacity queue) : Stowed capacity (o.setQueue c queue).chats := by
  unfold Outbox.setQueue
  dsimp only
  intro d other hd
  split at hd
  · rw [OrderedMap.get?_erase] at hd
    split at hd
    · cases hd
    · exact h d other hd
  · rename_i hne
    rw [OrderedMap.get?_insert] at hd
    split at hd
    · cases hd
      exact ⟨fun hnil => hne (List.isEmpty_iff.mpr hnil), hq⟩
    · exact h d other hd

/-- It does not matter what the queue was like before somebody joined it. -/
theorem Stowed.push (h : ∀ c queue, c ≠ a.chat → o.chats.get? c = some queue →
      queue ≠ [] ∧ Aligned capacity queue)
    (hq : Aligned capacity (o.queue a.chat ++ [a])) : Stowed capacity (o.push a).chats := by
  intro c queue hc
  have hget : (o.push a).chats.get? c =
      if a.chat = c then some (o.queue a.chat ++ [a]) else o.chats.get? c :=
    OrderedMap.get?_insert _ _ _ _
  rw [hget] at hc
  split at hc
  · cases hc
    exact ⟨by simp, hq⟩
  · rename_i hother
    exact h c queue (Ne.symm hother) hc

/-! ### Queueing -/

/-- The oldest one that may give way leaves room for one more. -/
theorem accept_stowed (h : Stowed o.capacity o.chats) (ha : a.state = .pending)
    (htyping : a.kind.requiresAck = true ∨ ∀ b ∈ o.queue a.chat, b.startsTyping = false)
    (t : Timers) : Stowed o.capacity (o.accept t a).2.1.chats := by
  have hqueue := h.queue a.chat
  unfold accept
  dsimp only
  split
  · rename_i hroom
    exact .push (fun c queue _ hc => h c queue hc) (hqueue.join hroom ha htyping)
  · split
    · rename_i oldest hoffer
      have hsub : ((o.queue a.chat).eraseP (·.mayGiveWay)).Sublist (o.queue a.chat) :=
        List.eraseP_sublist
      have hroom : ((o.queue a.chat).eraseP (·.mayGiveWay)).length < o.capacity := by
        have hmem := List.mem_of_find?_eq_some hoffer
        have hlength := List.length_eraseP_of_mem hmem (List.find?_some hoffer)
        have hshort := hqueue.short
        have hpos := List.length_pos_of_mem hmem
        omega
      refine .push (fun c queue hother hc => ?_) ?_
      · rw [settle_chats] at hc
        refine h c queue ?_
        rwa [OrderedMap.get?_insert, if_neg (Ne.symm hother)] at hc
      · rw [settle_queue]
        have hthere : Outbox.queue { o with
            index := o.index.erase oldest.id
            chats := o.chats.insert a.chat ((o.queue a.chat).eraseP (·.mayGiveWay)) } a.chat =
            (o.queue a.chat).eraseP (·.mayGiveWay) :=
          (queue_insert o a.chat a.chat _).trans (if_pos rfl)
        rw [hthere]
        exact (hqueue.sublist hsub).join hroom ha
          (htyping.imp_right fun hnobody b hb => hnobody b (hsub.subset hb))
    · rw [settle_chats]
      exact h

theorem enqueue_stowed (h : Stowed o.capacity o.chats) (ha : a.state = .pending) (t : Timers) :
    Stowed o.capacity (o.enqueue t a).2.1.chats := by
  unfold enqueue
  split
  · exact h
  · dsimp only
    split
    · rw [settle_chats, settle_chats]
      exact h.setQueue (o := { o with index := _ }) ((h.queue a.chat).sublist List.eraseP_sublist)
    · rw [settle_chats]
      exact h
    · rename_i hstop hstart
      refine accept_stowed h ha ?_ t
      -- a typing action goes on only where nobody starts to type
      cases hfind : (o.queue a.chat).find? (·.startsTyping) with
      | none => exact .inr fun b hb => by simpa using List.find?_eq_none.mp hfind b hb
      | some start =>
          exact .inl ((Action.Kind.requiresAck_iff _).mpr
            ⟨fun hk => hstart start hk hfind, fun hk => hstop start hk hfind⟩)

/-! ### Answers and deadlines -/

theorem take?_stowed {id : String} (h : Stowed capacity o.chats)
    (htake : o.take? id = some (a, o')) : Stowed capacity o'.chats := by
  obtain ⟨c, -, htake⟩ := Option.bind_eq_some_iff.mp htake
  obtain ⟨b, -, htake⟩ := Option.map_eq_some_iff.mp htake
  obtain ⟨-, rfl⟩ := Prod.mk.inj htake
  exact h.setQueue (o := { o with index := _ }) ((h.queue c).sublist List.eraseP_sublist)

theorem acknowledge_stowed (h : Stowed capacity o.chats) (t : Timers) (ack : Ack) :
    Stowed capacity (o.acknowledge t ack).2.1.chats := by
  unfold acknowledge
  split
  · exact h
  · rename_i a o' htake
    rw [settle_chats]
    exact take?_stowed h htake

theorem modify_stowed (h : Stowed capacity o.chats) (id : String) {f : Action → Action}
    (hintent : ∀ b, (f b).intent = b.intent)
    (hf : ∀ c, ∀ b ∈ o.queue c, b.id = id → b.state = .pending → (f b).state = .pending) :
    Stowed capacity (o.modify id f).chats := by
  unfold modify
  split
  · exact h
  · rename_i chat _
    intro c queue hc
    rw [OrderedMap.get?_modify] at hc
    split at hc
    · obtain ⟨old, hold, rfl⟩ := Option.map_eq_some_iff.mp hc
      obtain ⟨hne, haligned⟩ := h c old hold
      have hqueue : o.queue c = old := by rw [Outbox.queue, hold]; rfl
      refine ⟨fun hnil => hne (List.map_eq_nil_iff.mp hnil), haligned.recast (fun b => ?_)
        fun b hb hstate => ?_⟩
      · split
        · exact hintent b
        · rfl
      · split
        · rename_i hid
          exact hf c b (hqueue ▸ hb) hid hstate
        · exact hstate
    · exact h c queue hc

theorem expire_stowed (hs : o.Sound) (h : Stowed capacity o.chats) (t : Timers) (id : String)
    (now : Instant) : Stowed capacity (o.expire t id now).1.chats := by
  unfold expire
  split
  · exact h
  · rename_i a hget
    obtain ⟨hid, d, ha⟩ := hs.get?_eq_some_iff.mp hget
    split
    · rename_i hflying
      dsimp only
      split
      · split
        · exact h
        · rename_i b o' htake
          rw [settle_chats]
          exact take?_stowed h htake
      · refine modify_stowed h id (fun _ => rfl) fun c b hb hbid hstate => ?_
        -- nobody else has the id of the one in flight
        obtain ⟨-, rfl⟩ := hs.unique ha hb (hid.trans hbid.symm)
        rw [hflying] at hstate
        cases hstate
    · exact modify_stowed h id (fun _ => rfl) fun _ _ _ _ _ => rfl
    · exact h

/-! ### Lost connections, logging out and sending -/

theorem disconnect_stowed (h : Stowed capacity o.chats) (t : Timers) :
    Stowed capacity (o.disconnect t).1.chats := by
  intro c queue hc
  have hget : (o.disconnect t).1.chats.get? c = (o.chats.get? c).map fun queue =>
      queue.map fun a => if a.state = .inFlight then { a with state := .pending } else a :=
    OrderedMap.get?_mapEntries _ _ _
  obtain ⟨old, hold, rfl⟩ := Option.map_eq_some_iff.mp (hget ▸ hc)
  obtain ⟨hne, haligned⟩ := h c old hold
  refine ⟨fun hnil => hne (List.map_eq_nil_iff.mp hnil), haligned.recast (fun a => ?_)
    fun a _ hstate => ?_⟩
  · split <;> rfl
  · rwa [if_neg (by simp [hstate])]

theorem chats_foldl_settle (outcome : Action.Outcome) (actions : List Action) (o : Outbox) :
    (actions.foldl (fun o a => o.settle a outcome) o).chats = o.chats := by
  induction actions generalizing o with
  | nil => rfl
  | cons a rest ih => rw [List.foldl_cons, ih, settle_chats]

theorem cancelAll_stowed (o : Outbox) (t : Timers) : Stowed capacity (o.cancelAll t).1.chats := by
  have hnone : (o.cancelAll t).1.chats = ∅ := chats_foldl_settle _ _ _
  intro c queue hc
  rw [hnone] at hc
  cases hc

/-- Up to the end of a flush queues may be empty; then these are taken away. -/
theorem flush_stowed {σ : Type} (send : σ → Outgoing → Except SendFault Unit × σ) (sink : σ)
    (h : Stowed capacity o.chats) (now : Instant) (t : Timers) :
    Stowed capacity (o.flush send sink now t).2.1.chats := by
  have hwalk : ∀ c queue,
      (o.chats.walk (fun f _ queue => flushQueue send (now + o.ackTimeout) f queue)
        ⟨sink, t, 0, [], false⟩).1.get? c = some queue → Aligned capacity queue := by
    refine walk_flush_rule (P := fun m _ => ∀ c queue, m.get? c = some queue →
      Aligned capacity queue) ?_ ?_ ?_ o.chats ⟨sink, t, 0, [], false⟩
      fun c queue hc => (h c queue hc).2
    · exact fun _ _ hm => hm
    · intro m f c a rest _ hc _ hk _ hm d queue hd
      rw [OrderedMap.get?_insert] at hd
      split at hd
      · cases hd
        exact (hm c _ hc).fly hk
      · exact hm d queue hd
    · intro m f c a rest _ hc _ _ _ hm d queue hd
      rw [OrderedMap.get?_insert] at hd
      split at hd
      · cases hd
        exact (hm c _ hc).sublist (List.sublist_cons_self _ _)
      · exact hm d queue hd
  intro c queue hc
  have hkept : (o.flush send sink now t).2.1.chats =
      (o.chats.walk (fun f _ queue => flushQueue send (now + o.ackTimeout) f queue)
        ⟨sink, t, 0, [], false⟩).1.filter fun _ queue => !queue.isEmpty := rfl
  rw [hkept, OrderedMap.get?_filter, Option.filter_eq_some_iff] at hc
  exact ⟨fun hnil => by simp [hnil] at hc, hwalk c queue hc.1⟩

/-- **Operations leave every queue with somebody in it and aligned**, provided that actions are
queued as they are when they are new. -/
theorem perform_stowed {r : Run} (hs : r.outbox.Sound)
    (h : Stowed r.outbox.capacity r.outbox.chats) {op : Operation}
    (hnew : ∀ a, op.queued? = some a → a.state = .pending) :
    Stowed r.outbox.capacity (r.perform op).outbox.chats := by
  cases op with
  | enqueue a => exact enqueue_stowed h (hnew a rfl) r.timers
  | flush send sink now => exact flush_stowed send sink h now r.timers
  | acknowledge ack => exact acknowledge_stowed h r.timers ack
  | expire id now => exact expire_stowed hs h r.timers id now
  | disconnect => exact disconnect_stowed h r.timers
  | cancelAll => exact cancelAll_stowed r.outbox r.timers
  | takeSettled => exact h

end Stowed

/-! ## 3. The memory -/

theorem remember_short {o : Outbox} (h : o.settledOrder.length ≤ memorySize) (id : String) :
    (o.remember id).settledOrder.length ≤ memorySize := by
  unfold remember
  split
  · exact h
  · dsimp only
    rw [List.length_drop]
    omega

theorem Move.short {s t : Stage} (hm : Move s t)
    (h : s.outbox.settledOrder.length ≤ memorySize) :
    t.outbox.settledOrder.length ≤ memorySize := by
  cases hm with
  | restate o hshape hline =>
      rw [hshape]
      exact h
  | depart a rest o hleaves hk hcalm =>
      rw [hleaves.shape]
      exact h
  | leave a before after o hleaves =>
      rw [hleaves.shape]
      exact h
  | settle a before after log outcome =>
      rename_i o
      exact remember_short (o := { o with index := o.index.erase a.id }) h a.id
  | _ => exact h

/-- The two halves of the memory hold the same ids. -/
theorem Sound.memory {o : Outbox} (hs : o.Sound) : o.settledIds.keys.Perm o.settledOrder := by
  have hkeys : o.settledIds.keys.Nodup := List.pairwise_map.mpr o.settledIds.distinct_keys
  refine (List.perm_ext_iff_of_nodup hkeys hs.orderDistinct).mpr fun id => ?_
  have hremembered := hs.remembered id
  rw [OrderedMap.mem_keys_iff]
  cases hid : o.settledIds.get? id with
  | none => exact iff_of_false nofun (hremembered.mp hid)
  | some u =>
      rw [hid] at hremembered
      exact iff_of_true ⟨u, rfl⟩ (not_not.mp fun hno => nomatch hremembered.mpr hno)

/-! ## 4. Everything together -/

/-- How the collections of an outbox fit together. -/
structure WellFormed (o : Outbox) (maxPerChat : Nat) : Prop where
  /-- Every queued action is about the chat of its queue. -/
  home : ∀ chat, ∀ a ∈ o.queue chat, a.chat = chat
  /-- No chat has an empty queue. -/
  occupied : ∀ chat queue, o.chats.get? chat = some queue → queue ≠ []
  distinct : (o.queued.map (·.id)).Nodup
  /-- The index maps the ids of the queued actions to their chats, and knows no others. -/
  indexed : ∀ id chat, o.index.get? id = some chat ↔ ∃ a ∈ o.queue chat, a.id = id
  short : ∀ chat, (o.queue chat).length ≤ max maxPerChat 1
  /-- Nobody behind the head of a queue is in flight or waits. -/
  behind : ∀ chat, ∀ a ∈ (o.queue chat).tail, a.state = .pending
  /-- Nobody is in flight or waits who needs no acknowledgement. -/
  calm : ∀ chat, ∀ a ∈ o.queue chat, a.state ≠ .pending → a.kind.requiresAck = true
  /-- Behind a start of typing there is no other one and no end of typing. -/
  typing : ∀ chat, (o.queue chat).Pairwise fun a b =>
    a.kind = .typingStart → b.kind ≠ .typingStart ∧ b.kind ≠ .typingStop
  /-- The two halves of the memory hold the same ids. -/
  memory : o.settledIds.keys.Perm o.settledOrder
  memoryDistinct : o.settledOrder.Nodup
  memoryShort : o.settledOrder.length ≤ memorySize
  /-- Nobody who is remembered as settled is queued. -/
  apart : ∀ id ∈ o.settledOrder, ∀ a ∈ o.queued, a.id ≠ id

theorem Sound.distinct_queued {o : Outbox} (hs : o.Sound) : (o.queued.map (·.id)).Nodup := by
  have htags : (o.queued.map Action.tag).Nodup := by
    refine List.nodup_iff_count_le_one.mpr fun t => ?_
    rw [hs.count_queued]
    have hline : ((o.line t.2.1).map Action.tag).Nodup :=
      List.Nodup.of_map (·.1) (by rw [List.map_map]; exact hs.distinct t.2.1)
    exact List.nodup_iff_count_le_one.mp hline t
  refine List.Nodup.map_on (fun a ha b hb hid => ?_) (List.Nodup.of_map _ htags)
  obtain ⟨c, ha⟩ := mem_values_flatten.mp ha
  obtain ⟨d, hb⟩ := mem_values_flatten.mp hb
  exact (hs.unique ha hb hid).2

theorem Sound.index_iff {o : Outbox} (hs : o.Sound) (id chat : String) :
    o.index.get? id = some chat ↔ ∃ a ∈ o.queue chat, a.id = id := by
  constructor
  · intro h
    rcases hs.indexed id chat h with ⟨a, ha, hid⟩ | ⟨b, hb, -⟩
    · obtain ⟨b, hb, rfl⟩ := List.mem_map.mp ha
      exact ⟨b, hb, hid⟩
    · cases hb
  · rintro ⟨a, ha, rfl⟩
    exact hs.found chat a.initial (List.mem_map_of_mem ha)

/-- The collections fit together if they agree, the queues are aligned and the memory is short. -/
theorem Sound.wellFormed {o : Outbox} (hs : o.Sound) {maxPerChat : Nat}
    (h : Stowed (max maxPerChat 1) o.chats) (hshort : o.settledOrder.length ≤ memorySize) :
    o.WellFormed maxPerChat where
  home chat a ha := hs.home chat a.initial (List.mem_map_of_mem ha)
  occupied chat queue hc := (h chat queue hc).1
  distinct := hs.distinct_queued
  indexed := hs.index_iff
  short chat := (h.queue chat).short
  behind chat := (h.queue chat).behind
  calm chat := (h.queue chat).calm
  typing chat := (h.queue chat).typing.imp fun {a b} hab hstart =>
    (Action.Kind.requiresAck_iff _).mp (hab (by simp [Action.startsTyping, hstart]))
  memory := hs.memory
  memoryDistinct := hs.orderDistinct
  memoryShort := hshort
  apart id hid a ha := by
    rintro rfl
    obtain ⟨c, ha⟩ := mem_values_flatten.mp ha
    exact hs.pending c a.initial (List.mem_map_of_mem ha) hid

section Runs

variable (settings : Settings.Queue) (retry : Backoff) (timers : Timers)

theorem new_performAll_stowed {ops : List Operation}
    (hnew : ∀ a ∈ queuedIn ops, a.state = .pending) :
    Stowed (max settings.maxPerChat 1)
      ((Run.new settings retry timers).performAll ops).outbox.chats := by
  induction ops using List.reverseRecOn with
  | nil => exact fun c queue hc => by cases hc
  | append_singleton past op ih =>
      have hcapacity := (new_performAll_settings settings retry timers past).1
      rw [queuedIn, List.filterMap_append] at hnew
      rw [Run.performAll_append]
      have hpast := ih fun a ha => hnew a (List.mem_append_left _ ha)
      rw [show max settings.maxPerChat 1 = _ from hcapacity.symm] at hpast ⊢
      refine perform_stowed (new_performAll_sound settings retry timers past) hpast fun a ha => ?_
      exact hnew a (List.mem_append_right _ (by simp [ha]))

theorem new_performAll_short (ops : List Operation) :
    ((Run.new settings retry timers).performAll ops).outbox.settledOrder.length ≤ memorySize :=
  (new_path settings retry timers ops).keeps
    (P := fun s => s.outbox.settledOrder.length ≤ memorySize) Move.short (Nat.zero_le _)

/-- **After all operations, in any order and with any sinks, the collections of an outbox fit
together**, if the actions to be queued are new. -/
theorem performAll_wellFormed {ops : List Operation}
    (hnew : ∀ a ∈ queuedIn ops, ∃ id intent now, a = .new id intent now) :
    ((Run.new settings retry timers).performAll ops).outbox.WellFormed settings.maxPerChat := by
  have hpending : ∀ a ∈ queuedIn ops, a.state = .pending := by
    intro a ha
    obtain ⟨id, intent, now, rfl⟩ := hnew a ha
    rfl
  exact (new_performAll_sound settings retry timers ops).wellFormed
    (new_performAll_stowed settings retry timers hpending)
    (new_performAll_short settings retry timers ops)

end Runs

/-- A full queue whose head was sent and not answered, a flush that stops at a frame, typing that
is taken back, and an answer. -/
def crowded : List Operation :=
  let upTo (n : Nat) (now : Instant) : Operation :=
    .flush (fun left _ => if left = 0 then (.error .noConnection, 0) else (.ok (), left - 1)) n now
  [.enqueue (.new "a1" (.text "42" "one") 0), .enqueue (.new "b1" (.text "43" "two") 0), upTo 1 1,
    .enqueue (.new "a2" (.typingStart "42") 2), .enqueue (.new "a3" (.text "42" "three") 3),
    .enqueue (.new "b2" (.typingStart "43") 3), .enqueue (.new "b3" (.typingStop "43") 4),
    .expire "a1" 5, .acknowledge ⟨"b1", .applied, none, none⟩]

theorem performAll_wellFormed_crowded :
    let o := ((Run.new { maxPerChat := 2 } ⟨1, 2, 3, .zero false⟩ .empty).performAll crowded).outbox
    (∀ a ∈ queuedIn crowded, ∃ id intent now, a = .new id intent now) ∧
      ((o.queue "42").map fun a => (a.id, a.state)) = [("a1", .waiting), ("a3", .pending)] ∧
      o.settledOrder = ["a2", "b2", "b3", "b1"] ∧ o.WellFormed 2 := by
  have hnew : ∀ a ∈ queuedIn crowded, ∃ id intent now, a = .new id intent now := by
    intro a ha
    exact ⟨a.id, a.intent, a.created, by revert a; decide⟩
  exact ⟨hnew, by decide +kernel, by decide +kernel,
    performAll_wellFormed { maxPerChat := 2 } _ _ hnew⟩

end Outbox

end RealtimeChat
