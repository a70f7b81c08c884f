import Mathlib.Data.List.Nodup
import Mathlib.Logic.Relation
import Mathlib.Tactic.Tauto
import RealtimeChat.Proofs.OrderedMap
import RealtimeChat.Proofs.Outbox.Run
/-!
# The moves that the operations of an outbox are made of

Every operation comes down to a few moves: an action joins the line of its chat or is turned away,
its frame is written, it leaves its line, it is settled. What is to hold of all runs has to be
looked at for these moves only.

* `line` -- who stands in the queue of a chat, whatever was tried with them so far;
* `Stage` -- an outbox in the middle of an operation: some actions are in no line any more, but
  not settled yet;
* `Move` -- one move, with what it leaves on record;
* **`Stage.Sound`** -- the collections agree with each other; **`Move.sound`** -- moves keep that.
-/

namespace RealtimeChat.Outbox

open Relation (ReflTransGen)

/-! ## 1. Lines -/

/-- Who stands in the queue of a chat, as they were when they were new. -/
def line (o : Outbox) (chat : String) : List Action := (o.queue chat).map Action.initial

theorem queue_setQueue (o : Outbox) (chat c : String) (queue : List Action) :
    (o.setQueue chat queue).queue c = if chat = c then queue else o.queue c := by
  unfold setQueue Outbox.queue
  dsimp only
  by_cases he : queue.isEmpty
  · rw [if_pos he, OrderedMap.get?_erase]
    by_cases hc : chat = c
    · rw [if_pos hc, if_pos hc, List.isEmpty_iff.mp he]
      rfl
    · rw [if_neg hc, if_neg hc]
  · rw [if_neg he, OrderedMap.get?_insert]
    by_cases hc : chat = c
    · rw [if_pos hc, if_pos hc]
      rfl
    · rw [if_neg hc, if_neg hc]

theorem queue_insert (o : Outbox) (chat c : String) (queue : List Action) :
    { o with chats := o.chats.insert chat queue }.queue c =
      if chat = c then queue else o.queue c := by
  unfold Outbox.queue
  dsimp only
  rw [OrderedMap.get?_insert]
  by_cases hc : chat = c
  · rw [if_pos hc, if_pos hc]
    rfl
  · rw [if_neg hc, if_neg hc]

theorem queue_push (o : Outbox) (a : Action) (c : String) :
    (o.push a).queue c = if a.chat = c then o.queue c ++ [a] else o.queue c := by
  have h := queue_insert o a.chat c (o.queue a.chat ++ [a])
  have hq : (o.push a).queue c =
      { o with chats := o.chats.insert a.chat (o.queue a.chat ++ [a]) }.queue c := rfl
  rw [hq, h]
  by_cases hc : a.chat = c
  · rw [if_pos hc, if_pos hc, hc]
  · rw [if_neg hc, if_neg hc]

theorem line_push (o : Outbox) (a : Action) (c : String) :
    (o.push a).line c = if a.chat = c then o.line c ++ [a.initial] else o.line c := by
  unfold line
  rw [queue_push]
  split
  · rw [List.map_append]
    rfl
  · rfl

theorem mem_line_push {o : Outbox} {a b : Action} {c : String} :
    b ∈ (o.push a).line c ↔ b ∈ o.line c ∨ c = a.chat ∧ b = a.initial := by
  rw [line_push]
  split
  · rename_i hc
    simp [hc]
  · rename_i hc
    simp [Ne.symm hc]

theorem index_push (o : Outbox) (a : Action) (id : String) :
    (o.push a).index.get? id = if a.id = id then some a.chat else o.index.get? id :=
  OrderedMap.get?_insert _ _ _ _

/-! ## 2. Settling -/

section Settle

variable (o : Outbox) (a : Action) (outcome : Action.Outcome)

@[simp] theorem remember_chats (id : String) : (o.remember id).chats = o.chats := by
  unfold remember; split <;> rfl

@[simp] theorem remember_index (id : String) : (o.remember id).index = o.index := by
  unfold remember; split <;> rfl

@[simp] theorem remember_settled (id : String) : (o.remember id).settled = o.settled := by
  unfold remember; split <;> rfl

@[simp] theorem settle_chats : (o.settle a outcome).chats = o.chats := o.remember_chats a.id

@[simp] theorem settle_index : (o.settle a outcome).index = o.index := o.remember_index a.id

theorem settle_settled : (o.settle a outcome).settled =
    o.settled ++ [a.settlement outcome] := by
  show (o.remember a.id).settled ++ _ = _
  rw [remember_settled]
  rfl

@[simp] theorem settle_queue (c : String) : (o.settle a outcome).queue c = o.queue c := by
  unfold Outbox.queue
  rw [settle_chats]

@[simp] theorem settle_line (c : String) : (o.settle a outcome).line c = o.line c := by
  unfold line
  rw [settle_queue]

end Settle

/-- The order in which ids were settled, with a new one. -/
def orderWith (o : Outbox) (id : String) : List String := o.settledOrder ++ [id]

/-- How many ids are too many for the memory when a new one comes. -/
def surplus (o : Outbox) (id : String) : Nat := (o.orderWith id).length - memorySize

theorem remember_new {o : Outbox} {id : String} (h : o.settledIds.get? id = none) :
    o.remember id = { o with
      settledIds := ((o.orderWith id).take (o.surplus id)).foldl (fun ids id => ids.erase id)
        (o.settledIds.insert id ())
      settledOrder := (o.orderWith id).drop (o.surplus id) } := by
  have hc : ¬ o.settledIds.contains id = true := by simp [OrderedMap.contains, h]
  rw [remember, if_neg hc]
  rfl

/-- An id that is settled for the first time pushes the oldest one out of a full memory. -/
theorem settledOrder_settle {o : Outbox} {a : Action} (outcome : Action.Outcome)
    (h : o.settledIds.get? a.id = none) :
    (o.settle a outcome).settledOrder = (o.orderWith a.id).drop (o.surplus a.id) := by
  show (o.remember a.id).settledOrder = _
  rw [remember_new h]

theorem mem_settledOrder_settle {o : Outbox} {a : Action} {outcome : Action.Outcome} {id : String}
    (h : id ∈ (o.settle a outcome).settledOrder) : id ∈ o.settledOrder ∨ id = a.id := by
  by_cases hnew : o.settledIds.get? a.id = none
  · rw [settledOrder_settle outcome hnew] at h
    rcases List.mem_append.mp (List.mem_of_mem_drop h) with h | h
    · exact .inl h
    · exact .inr (List.mem_singleton.mp h)
  · have hknown : o.settledIds.contains a.id = true := Option.isSome_iff_ne_none.mpr hnew
    have hsame : (o.settle a outcome).settledOrder = o.settledOrder := by
      show (o.remember a.id).settledOrder = _
      rw [remember, if_pos hknown]
    exact .inl (hsame ▸ h)

theorem get?_foldl_erase (ids : List String) (m : OrderedMap String Unit) (id : String) :
    (ids.foldl (fun m id => m.erase id) m).get? id = if id ∈ ids then none else m.get? id := by
  induction ids generalizing m with
  | nil => simp
  | cons x rest ih =>
      rw [List.foldl_cons, ih, OrderedMap.get?_erase]
      by_cases hr : id ∈ rest
      · simp [hr]
      · by_cases hx : x = id
        · simp [hx]
        · simp [hr, hx, Ne.symm hx]

theorem settledIds_settle {o : Outbox} {a : Action} (outcome : Action.Outcome)
    (h : o.settledIds.get? a.id = none) (id : String) :
    (o.settle a outcome).settledIds.get? id =
      if id ∈ (o.orderWith a.id).take (o.surplus a.id) then none
      else if a.id = id then some () else o.settledIds.get? id := by
  have hids : (o.settle a outcome).settledIds =
      ((o.orderWith a.id).take (o.surplus a.id)).foldl (fun ids id => ids.erase id)
        (o.settledIds.insert a.id ()) := by
    show (o.remember a.id).settledIds = _
    rw [remember_new h]
  rw [hids, get?_foldl_erase, OrderedMap.get?_insert]

/-- Both halves of the memory forget the same ids. -/
theorem memory_settle {o : Outbox} {a : Action} (outcome : Action.Outcome)
    (hboth : ∀ id, o.settledIds.get? id = none ↔ id ∉ o.settledOrder)
    (hdistinct : o.settledOrder.Nodup) (hnew : a.id ∉ o.settledOrder) :
    (∀ id, (o.settle a outcome).settledIds.get? id = none ↔
      id ∉ (o.settle a outcome).settledOrder) ∧ (o.settle a outcome).settledOrder.Nodup := by
  have hfirst : o.settledIds.get? a.id = none := (hboth a.id).mpr hnew
  have hwith : (o.orderWith a.id).Nodup :=
    List.nodup_append.mpr ⟨hdistinct, List.nodup_singleton _, fun x hx y hy hxy =>
      hnew (List.mem_singleton.mp hy ▸ hxy ▸ hx)⟩
  rw [settledOrder_settle outcome hfirst]
  refine ⟨fun id => ?_, hwith.sublist (List.drop_sublist _ _)⟩
  rw [settledIds_settle outcome hfirst]
  have hsplit : id ∈ o.orderWith a.id ↔ id ∈ (o.orderWith a.id).take (o.surplus a.id) ∨
      id ∈ (o.orderWith a.id).drop (o.surplus a.id) := by
    rw [← List.mem_append, List.take_append_drop]
  have happart : id ∈ (o.orderWith a.id).take (o.surplus a.id) →
      id ∉ (o.orderWith a.id).drop (o.surplus a.id) := by
    intro h₁ h₂
    have hd := hwith
    rw [← List.take_append_drop (o.surplus a.id) (o.orderWith a.id)] at hd
    exact (List.nodup_append.mp hd).2.2 id h₁ id h₂ rfl
  have hin : id ∈ o.orderWith a.id ↔ id ∈ o.settledOrder ∨ id = a.id := by
    rw [orderWith, List.mem_append, List.mem_singleton]
  by_cases ht : id ∈ (o.orderWith a.id).take (o.surplus a.id)
  · rw [if_pos ht]
    exact iff_of_true rfl (happart ht)
  · rw [if_neg ht]
    by_cases hid : a.id = id
    · rw [if_pos hid]
      have hlast : id ∈ (o.orderWith a.id).drop (o.surplus a.id) :=
        (hsplit.mp (hin.mpr (.inr hid.symm))).resolve_left ht
      exact iff_of_false (by simp) (not_not_intro hlast)
    · rw [if_neg hid, hboth id]
      refine not_congr ⟨fun h => (hsplit.mp (hin.mpr (.inl h))).resolve_left ht, fun h => ?_⟩
      exact (hin.mp (hsplit.mpr (.inr h))).resolve_right (Ne.symm hid)

/-! ## 3. Stages and moves -/

/-- An outbox in the middle of an operation. -/
structure Stage where
  outbox : Outbox
  /-- The actions that stand in no line any more, or never stood in one, and are not settled. -/
  loose : List Action
  log : List Mark

/-- An action leaves its line, in which some stand in front of it and some behind; nothing else
changes. -/
structure Leaves (o : Outbox) (a : Action) (before after : List Action) (o' : Outbox) : Prop where
  shape : o' = { o with chats := o'.chats }
  there : o.line a.chat = before ++ a.initial :: after
  gone : o'.line a.chat = before ++ after
  others : ∀ c, c ≠ a.chat → o'.line c = o.line c

/-- No action of this id is in a line, on its way out or remembered. -/
structure Stage.Free (s : Stage) (id : String) : Prop where
  line : ∀ c, ∀ a ∈ s.outbox.line c, a.id ≠ id
  loose : ∀ b ∈ s.loose, b.id ≠ id
  memory : id ∉ s.outbox.settledOrder

/-- Nobody who needs an acknowledgement is on the way out. -/
def Stage.Calm (s : Stage) : Prop := ∀ b ∈ s.loose, b.kind.requiresAck = false

/-- One move. -/
inductive Move : Stage → Stage → Prop where
  | refuse {s : Stage} (a : Action) : Move s ⟨s.outbox, s.loose, .enqueued a .duplicateId :: s.log⟩
  | join {s : Stage} (a : Action) (hfree : s.Free a.id) :
      Move s ⟨s.outbox.push a, s.loose, .enqueued a .queued :: s.log⟩
  | turnAway {s : Stage} (a : Action) (outcome : Enqueued) (hfree : s.Free a.id)
      (hq : outcome ≠ .queued) (hd : outcome ≠ .duplicateId) :
      Move s ⟨s.outbox, s.loose ++ [a], .enqueued a outcome :: s.log⟩
  /-- Nobody joins or leaves a line; the settlements may be taken. -/
  | restate {s : Stage} (o : Outbox)
      (hshape : o = { s.outbox with chats := o.chats, settled := o.settled })
      (hline : ∀ c, o.line c = s.outbox.line c) : Move s ⟨o, s.loose, s.log⟩
  /-- The head of a line is sent and stays there. -/
  | write {s : Stage} (a : Action) (rest : List Action)
      (hhead : s.outbox.line a.chat = a.initial :: rest) (hk : a.kind.requiresAck = true)
      (hcalm : s.Calm) : Move s ⟨s.outbox, s.loose, .wrote a.frame :: s.log⟩
  /-- The head of a line is sent and leaves it. -/
  | depart {s : Stage} (a : Action) (rest : List Action) (o : Outbox)
      (hleaves : Leaves s.outbox a [] rest o) (hk : a.kind.requiresAck = false)
      (hcalm : s.Calm) : Move s ⟨o, s.loose ++ [a], .wrote a.frame :: s.log⟩
  | leave {s : Stage} (a : Action) (before after : List Action) (o : Outbox)
      (hleaves : Leaves s.outbox a before after o) : Move s ⟨o, s.loose ++ [a], s.log⟩
  | settle {o : Outbox} (a : Action) (before after : List Action) (log : List Mark)
      (outcome : Action.Outcome) :
      Move ⟨o, before ++ a :: after, log⟩
        ⟨{ o with index := o.index.erase a.id }.settle a outcome, before ++ after,
          .settled (a.settlement outcome) :: log⟩

/-! ## 4. The collections agree -/

/-- The lines, the index and the memory agree with each other. -/
structure Stage.Sound (s : Stage) : Prop where
  home : ∀ c, ∀ a ∈ s.outbox.line c, a.chat = c
  distinct : ∀ c, ((s.outbox.line c).map (·.id)).Nodup
  looseDistinct : (s.loose.map (·.id)).Nodup
  apart : ∀ c, ∀ a ∈ s.outbox.line c, ∀ b ∈ s.loose, a.id ≠ b.id
  /-- The index knows everybody in a line. -/
  found : ∀ c, ∀ a ∈ s.outbox.line c, s.outbox.index.get? a.id = some c
  /-- The index knows nobody but those in a line and on their way out. -/
  indexed : ∀ id c, s.outbox.index.get? id = some c →
    (∃ a ∈ s.outbox.line c, a.id = id) ∨ ∃ b ∈ s.loose, b.id = id
  /-- Nobody in a line is remembered as settled. -/
  pending : ∀ c, ∀ a ∈ s.outbox.line c, a.id ∉ s.outbox.settledOrder
  loosePending : ∀ b ∈ s.loose, b.id ∉ s.outbox.settledOrder
  /-- The two halves of the memory hold the same ids. -/
  remembered : ∀ id, s.outbox.settledIds.get? id = none ↔ id ∉ s.outbox.settledOrder
  orderDistinct : s.outbox.settledOrder.Nodup

namespace Leaves

variable {o o' : Outbox} {a : Action} {before after : List Action}

theorem mem_line (h : Leaves o a before after o') {b : Action} {c : String} :
    b ∈ o.line c ↔ b ∈ o'.line c ∨ c = a.chat ∧ b = a.initial := by
  by_cases hc : c = a.chat
  · subst hc
    rw [h.there, h.gone]
    simp only [List.mem_append, List.mem_cons, true_and]
    tauto
  · rw [h.others c hc]
    simp [hc]

/-- Somebody who leaves a line is on the way out, and the collections still agree. -/
theorem sound {s : Stage} (h : Leaves s.outbox a before after o') (hs : s.Sound)
    (log : List Mark) : Stage.Sound ⟨o', s.loose ++ [a], log⟩ := by
  have hi : o'.index = s.outbox.index := by rw [h.shape]
  have ho : o'.settledOrder = s.outbox.settledOrder := by rw [h.shape]
  have hm : o'.settledIds = s.outbox.settledIds := by rw [h.shape]
  have hthere : a.initial ∈ s.outbox.line a.chat := h.mem_line.mpr (.inr ⟨rfl, rfl⟩)
  have hstay : ∀ c, ∀ b ∈ o'.line c, b ∈ s.outbox.line c := fun c b hb => h.mem_line.mpr (.inl hb)
  -- nobody else in a line has the id of the one who leaves
  have hother : ∀ c, ∀ b ∈ o'.line c, b.id ≠ a.id := by
    intro c b hb hid
    have hfound := hs.found c b (hstay c b hb)
    have hhere : s.outbox.index.get? a.id = some a.chat := hs.found a.chat a.initial hthere
    rw [hid, hhere] at hfound
    cases hfound
    have hd := hs.distinct a.chat
    rw [h.there, List.map_append, List.map_cons, List.nodup_middle] at hd
    rw [h.gone] at hb
    have hmem := List.mem_map_of_mem (f := (·.id)) hb
    rw [List.map_append] at hmem
    exact (List.nodup_cons.mp hd).1 (hid ▸ hmem)
  refine ⟨fun c b hb => hs.home c b (hstay c b hb), fun c => ?_, ?_, fun c b hb d hd => ?_,
    fun c b hb => ?_, fun id c hc => ?_, fun c b hb => ?_, fun b hb => ?_, ?_, ?_⟩
  · by_cases hc : c = a.chat
    · subst hc
      have hd := hs.distinct a.chat
      rw [h.there] at hd
      rw [h.gone]
      exact hd.sublist ((List.sublist_cons_self _ _).append_left _ |>.map _)
    · rw [h.others c hc]
      exact hs.distinct c
  · rw [List.map_append]
    refine List.nodup_append.mpr ⟨hs.looseDistinct, List.nodup_singleton _, ?_⟩
    rintro _ hx _ hy rfl
    obtain ⟨b, hb, hid⟩ := List.mem_map.mp hx
    exact hs.apart a.chat a.initial hthere b hb (hid.trans (List.mem_singleton.mp hy)).symm
  · rcases List.mem_append.mp hd with hd | hd
    · exact hs.apart c b (hstay c b hb) d hd
    · exact List.mem_singleton.mp hd ▸ hother c b hb
  · exact hi ▸ hs.found c b (hstay c b hb)
  · rcases hs.indexed id c (hi ▸ hc) with ⟨b, hb, hid⟩ | ⟨b, hb, hid⟩
    · rcases h.mem_line.mp hb with hb | ⟨-, rfl⟩
      · exact .inl ⟨b, hb, hid⟩
      · exact .inr ⟨a, List.mem_append_right _ List.mem_cons_self, hid⟩
    · exact .inr ⟨b, List.mem_append_left _ hb, hid⟩
  · exact ho ▸ hs.pending c b (hstay c b hb)
  · rcases List.mem_append.mp hb with hb | hb
    · exact ho ▸ hs.loosePending b hb
    · exact ho ▸ List.mem_singleton.mp hb ▸ hs.pending a.chat a.initial hthere
  · exact ho ▸ hm ▸ hs.remembered
  · exact ho ▸ hs.orderDistinct

end Leaves

namespace Stage.Sound

/-- Whoever is settled is remembered instead. -/
theorem settle {o : Outbox} {a : Action} {before after : List Action} {log : List Mark}
    (hs : Stage.Sound ⟨o, before ++ a :: after, log⟩) (outcome : Action.Outcome)
    (log' : List Mark) :
    Stage.Sound
      ⟨{ o with index := o.index.erase a.id }.settle a outcome, before ++ after, log'⟩ := by
  have hmem : ∀ b ∈ before ++ after, b ∈ before ++ a :: after := fun b hb =>
    ((List.sublist_cons_self _ _).append_left _).subset hb
  have ha : a ∈ before ++ a :: after := by simp
  have hnew : a.id ∉ o.settledOrder := hs.loosePending a ha
  have hfirst : ({ o with index := o.index.erase a.id } : Outbox).settledIds.get? a.id = none :=
    (hs.remembered a.id).mpr hnew
  have hloose : ∀ b ∈ before ++ after, b.id ≠ a.id := by
    intro b hb hid
    have hd := hs.looseDistinct
    rw [List.map_append, List.map_cons, List.nodup_middle] at hd
    have hmem := List.mem_map_of_mem (f := (·.id)) hb
    rw [List.map_append] at hmem
    exact (List.nodup_cons.mp hd).1 (hid ▸ hmem)
  have hline : ∀ c, ({ o with index := o.index.erase a.id }.settle a outcome).line c = o.line c :=
    fun c => settle_line _ a outcome c
  obtain ⟨hremembered, horder⟩ := memory_settle (o := { o with index := o.index.erase a.id })
    outcome hs.remembered hs.orderDistinct hnew
  have hforget : ∀ id, id ≠ a.id → id ∉ o.settledOrder →
      id ∉ ({ o with index := o.index.erase a.id }.settle a outcome).settledOrder := by
    intro id hid hno h
    rw [settledOrder_settle outcome hfirst] at h
    rcases List.mem_append.mp (List.mem_of_mem_drop h) with h | h
    · exact hno h
    · exact hid (List.mem_singleton.mp h)
  refine ⟨fun c b hb => hs.home c b (hline c ▸ hb), fun c => (hline c).symm ▸ hs.distinct c, ?_,
    fun c b hb d hd => hs.apart c b (hline c ▸ hb) d (hmem d hd), fun c b hb => ?_,
    fun id c hc => ?_, fun c b hb => ?_, fun b hb => ?_, hremembered, horder⟩
  · exact hs.looseDistinct.sublist ((List.sublist_cons_self _ _).append_left _ |>.map _)
  · have hb' : b ∈ o.line c := hline c ▸ hb
    rw [settle_index, OrderedMap.get?_erase, if_neg (hs.apart c b hb' a ha).symm]
    exact hs.found c b hb'
  · rw [settle_index, OrderedMap.get?_erase] at hc
    split at hc
    · cases hc
    · rename_i hid
      rcases hs.indexed id c hc with ⟨b, hb, hbid⟩ | ⟨b, hb, hbid⟩
      · exact .inl ⟨b, (hline c).symm ▸ hb, hbid⟩
      · refine .inr ⟨b, ?_, hbid⟩
        rcases List.mem_append.mp hb with hb | hb
        · exact List.mem_append_left _ hb
        · rcases List.mem_cons.mp hb with rfl | hb
          · exact absurd hbid hid
          · exact List.mem_append_right _ hb
  · have hb' : b ∈ o.line c := hline c ▸ hb
    exact hforget b.id (hs.apart c b hb' a ha) (hs.pending c b hb')
  · exact hforget b.id (hloose b hb) (hs.loosePending b (hmem b hb))

end Stage.Sound

namespace Move

/-- **Moves keep the collections in agreement.** -/
theorem sound {s t : Stage} (h : Move s t) (hs : s.Sound) : t.Sound := by
  cases h with
  | refuse a => exact { hs with }
  | join a hfree =>
      refine ⟨fun c b hb => ?_, fun c => ?_, hs.looseDistinct, fun c b hb d hd => ?_,
        fun c b hb => ?_, fun id c hi => ?_, fun c b hb => ?_, hs.loosePending, hs.remembered,
        hs.orderDistinct⟩
      · rcases mem_line_push.mp hb with hb | ⟨rfl, rfl⟩
        · exact hs.home c b hb
        · rfl
      · rw [line_push]
        split
        · rw [List.map_append]
          refine List.nodup_append.mpr ⟨hs.distinct c, List.nodup_singleton _, ?_⟩
          rintro _ hx _ hy rfl
          obtain ⟨b, hb, hid⟩ := List.mem_map.mp hx
          exact hfree.line c b hb (hid.trans (List.mem_singleton.mp hy))
        · exact hs.distinct c
      · rcases mem_line_push.mp hb with hb | ⟨rfl, rfl⟩
        · exact hs.apart c b hb d hd
        · exact (hfree.loose d hd).symm
      · rw [index_push]
        rcases mem_line_push.mp hb with hb | ⟨rfl, rfl⟩
        · rw [if_neg (hfree.line c b hb).symm]
          exact hs.found c b hb
        · exact if_pos rfl
      · rw [index_push] at hi
        split at hi
        · rename_i hid
          cases hi
          exact .inl ⟨a.initial, mem_line_push.mpr (.inr ⟨rfl, rfl⟩), hid⟩
        · rcases hs.indexed id c hi with ⟨b, hb, hid⟩ | hb
          · exact .inl ⟨b, mem_line_push.mpr (.inl hb), hid⟩
          · exact .inr hb
      · rcases mem_line_push.mp hb with hb | ⟨rfl, rfl⟩
        · exact hs.pending c b hb
        · exact hfree.memory
  | turnAway a outcome hfree hq hd =>
      refine { hs with looseDistinct := ?_, apart := ?_, indexed := ?_, loosePending := ?_ }
      · rw [List.map_append]
        refine List.nodup_append.mpr ⟨hs.looseDistinct, List.nodup_singleton _, ?_⟩
        rintro _ hx _ hy rfl
        obtain ⟨b, hb, hid⟩ := List.mem_map.mp hx
        exact hfree.loose b hb (hid.trans (List.mem_singleton.mp hy))
      · intro c b hb d hd
        rcases List.mem_append.mp hd with hd | hd
        · exact hs.apart c b hb d hd
        · cases List.mem_singleton.mp hd
          exact hfree.line c b hb
      · intro id c hi
        rcases hs.indexed id c hi with hline | ⟨b, hb, hid⟩
        · exact .inl hline
        · exact .inr ⟨b, List.mem_append_left _ hb, hid⟩
      · intro b hb
        rcases List.mem_append.mp hb with hb | hb
        · exact hs.loosePending b hb
        · cases List.mem_singleton.mp hb
          exact hfree.memory
  | restate o hshape hline =>
      have hi : o.index = s.outbox.index := by rw [hshape]
      have ho : o.settledOrder = s.outbox.settledOrder := by rw [hshape]
      have hm : o.settledIds = s.outbox.settledIds := by rw [hshape]
      constructor
      · intro c a ha
        exact hs.home c a (hline c ▸ ha)
      · intro c
        exact (hline c).symm ▸ hs.distinct c
      · exact hs.looseDistinct
      · intro c a ha
        exact hs.apart c a (hline c ▸ ha)
      · intro c a ha
        exact hi ▸ hs.found c a (hline c ▸ ha)
      · intro id c hc
        exact (hline c).symm ▸ hs.indexed id c (hi ▸ hc)
      · intro c a ha
        exact ho ▸ hs.pending c a (hline c ▸ ha)
      · exact ho ▸ hs.loosePending
      · exact ho ▸ hm ▸ hs.remembered
      · exact ho ▸ hs.orderDistinct
  | write a rest hhead hk hcalm => exact { hs with }
  | depart a rest o hleaves hk hcalm => exact hleaves.sound hs _
  | leave a before after o hleaves => exact hleaves.sound hs _
  | settle a before after log outcome => exact Stage.Sound.settle hs outcome _

/-- No move changes the settings. -/
theorem settings {s t : Stage} (h : Move s t) : t.outbox.capacity = s.outbox.capacity ∧
    t.outbox.ackTimeout = s.outbox.ackTimeout ∧ t.outbox.retry = s.outbox.retry := by
  cases h with
  | restate o hshape hline =>
      rw [hshape]
      exact ⟨rfl, rfl, rfl⟩
  | depart a rest o hleaves hk hcalm =>
      rw [hleaves.shape]
      exact ⟨rfl, rfl, rfl⟩
  | leave a before after o hleaves =>
      rw [hleaves.shape]
      exact ⟨rfl, rfl, rfl⟩
  | settle a before after log outcome =>
      unfold Outbox.settle remember
      dsimp only
      split <;> exact ⟨rfl, rfl, rfl⟩
  | _ => exact ⟨rfl, rfl, rfl⟩

end Move

end RealtimeChat.Outbox
