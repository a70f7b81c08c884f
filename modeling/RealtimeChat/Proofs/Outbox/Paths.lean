import RealtimeChat.Proofs.Outbox.Moves
/-!
# Every operation is a path of moves

What an operation of an outbox does can be done by moves, which leave the same on record. So what
moves keep, operations keep, and what holds of an empty outbox then holds in all runs.

* `Path` -- moves one after the other;
* `Way` -- a path between outboxes with nobody on the way out, with the marks that it leaves;
* **`perform_path`**, **`performAll_path`** -- operations and runs are paths.
-/

namespace RealtimeChat.Outbox

open Relation (ReflTransGen)

/-- Moves one after the other. -/
abbrev Path : Stage → Stage → Prop := ReflTransGen Move

/-- The collections of an outbox agree when nobody is on the way out. -/
def Sound (o : Outbox) : Prop := Stage.Sound ⟨o, [], []⟩

theorem Sound.stage {o : Outbox} (h : o.Sound) (log : List Mark) : Stage.Sound ⟨o, [], log⟩ :=
  { h with }

theorem Stage.Sound.outbox {o : Outbox} {log : List Mark} (h : Stage.Sound ⟨o, [], log⟩) :
    o.Sound :=
  { h with }

/-- The index knows the ids in the lines. -/
theorem Sound.contains_iff {o : Outbox} (hs : o.Sound) {id : String} :
    o.contains id = true ↔ ∃ c, ∃ a ∈ o.line c, a.id = id := by
  constructor
  · intro h
    obtain ⟨c, hc⟩ := Option.isSome_iff_exists.mp h
    rcases hs.indexed id c hc with ha | ⟨b, hb, -⟩
    · exact ⟨c, ha⟩
    · cases hb
  · rintro ⟨c, a, ha, rfl⟩
    exact Option.isSome_iff_exists.mpr ⟨c, hs.found c a ha⟩

/-- What each move keeps, a path keeps. -/
theorem Path.keeps {P : Stage → Prop} (keep : ∀ {s t}, Move s t → P s → P t) {s t : Stage}
    (h : Path s t) (hs : P s) : P t := by
  induction h with
  | refl => exact hs
  | tail _ hm ih => exact keep hm ih

theorem Path.sound {s t : Stage} (h : Path s t) (hs : s.Sound) : t.Sound :=
  h.keeps Move.sound hs

/-- From an outbox to another one by moves that leave these marks, and in front of them a
settlement for each one that is new. -/
def Way (o : Outbox) (marks : List Mark) (o' : Outbox) : Prop :=
  ∀ log, ∃ l, o'.settled = o.settled ++ l ∧
    Path ⟨o, [], log⟩ ⟨o', [], (l.map .settled).reverse ++ (marks ++ log)⟩

/-! ## 1. Leaving and settling -/

/-- Take actions out of the index and settle them, one after the other. -/
def settleAll (outcome : Action.Outcome) (o : Outbox) (actions : List Action) : Outbox :=
  actions.foldl (fun o a => { o with index := o.index.erase a.id }.settle a outcome) o

/-- Settling somebody whom the index does not know. -/
theorem settle_unlisted {o : Outbox} {a : Action} (h : o.index.get? a.id = none)
    (before after : List Action) (log : List Mark) (outcome : Action.Outcome) :
    Move ⟨o, before ++ a :: after, log⟩
      ⟨o.settle a outcome, before ++ after, .settled (a.settlement outcome) :: log⟩ := by
  have hm := Move.settle (o := o) a before after log outcome
  rwa [OrderedMap.erase_eq_self h] at hm

theorem settleAll_settled (outcome : Action.Outcome) (o : Outbox) (actions : List Action) :
    (settleAll outcome o actions).settled = o.settled ++ actions.map (·.settlement outcome) := by
  induction actions generalizing o with
  | nil => simp [settleAll]
  | cons a rest ih =>
      show (settleAll outcome _ rest).settled = _
      rw [ih, settle_settled, List.map_cons, List.append_assoc]
      rfl

theorem settleAll_path (outcome : Action.Outcome) (o : Outbox) (actions : List Action)
    (log : List Mark) :
    Path ⟨o, actions, log⟩ ⟨settleAll outcome o actions, [],
      ((actions.map (·.settlement outcome)).map .settled).reverse ++ log⟩ := by
  induction actions generalizing o log with
  | nil => exact .refl
  | cons a rest ih =>
      have hfirst := Move.settle (o := o) a [] rest log outcome
      have hrest := ih ({ o with index := o.index.erase a.id }.settle a outcome)
        (.settled (a.settlement outcome) :: log)
      rw [List.map_cons, List.map_cons, List.reverse_cons, List.append_assoc]
      exact (ReflTransGen.single hfirst).trans hrest

/-- The outbox with other queues. -/
def withChats (o : Outbox) (chats : OrderedMap String (List Action)) : Outbox := { o with chats }

/-- The outbox with another index. -/
def withIndex (o : Outbox) (index : OrderedMap String String) : Outbox := { o with index }

/-- The queues play no part in settling. -/
theorem settle_withChats (o : Outbox) (chats : OrderedMap String (List Action)) (a : Action)
    (outcome : Action.Outcome) :
    (o.withChats chats).settle a outcome = (o.settle a outcome).withChats chats := by
  unfold settle remember withChats
  dsimp only
  split <;> rfl

/-- The index plays no part in settling. -/
theorem settle_withIndex (o : Outbox) (index : OrderedMap String String) (a : Action)
    (outcome : Action.Outcome) :
    (o.withIndex index).settle a outcome = (o.settle a outcome).withIndex index := by
  unfold settle remember withIndex
  dsimp only
  split <;> rfl

theorem settleAll_cons (outcome : Action.Outcome) (o : Outbox) (a : Action)
    (rest : List Action) :
    settleAll outcome o (a :: rest) =
      settleAll outcome ((o.settle a outcome).withIndex (o.index.erase a.id)) rest := by
  rw [← settle_withIndex]
  rfl

theorem settleAll_withChats (outcome : Action.Outcome) (o : Outbox)
    (chats : OrderedMap String (List Action)) (actions : List Action) :
    settleAll outcome (o.withChats chats) actions =
      (settleAll outcome o actions).withChats chats := by
  induction actions generalizing o with
  | nil => rfl
  | cons a rest ih =>
      rw [settleAll_cons, settleAll_cons, ← ih, settle_withChats]
      rfl

/-- Actions that are settled with the index left alone. -/
theorem foldl_settle_withIndex (outcome : Action.Outcome) (o : Outbox)
    (index : OrderedMap String String) (actions : List Action) :
    actions.foldl (fun o a => o.settle a outcome) (o.withIndex index) =
      (settleAll outcome o actions).withIndex index := by
  induction actions generalizing o with
  | nil => rfl
  | cons a rest ih =>
      rw [settleAll_cons, ← ih, List.foldl_cons, settle_withIndex]
      rfl

theorem split_of_find? {p : Action → Bool} {l : List Action} {a : Action}
    (h : l.find? p = some a) :
    ∃ before after, l = before ++ a :: after ∧ l.eraseP p = before ++ after := by
  obtain ⟨hp, before, after, rfl, hbefore⟩ := List.find?_eq_some_iff_append.mp h
  refine ⟨before, after, rfl, ?_⟩
  rw [List.eraseP_append_right _ (fun b hb => by simpa using hbefore b hb),
    List.eraseP_cons_of_pos hp]

/-- The first one that satisfies `p` leaves the line. -/
theorem leaves_setQueue {o : Outbox} {p : Action → Bool} {a : Action}
    (h : (o.queue a.chat).find? p = some a) :
    ∃ before after, Leaves o a before after
      (o.setQueue a.chat ((o.queue a.chat).eraseP p)) := by
  obtain ⟨before, after, hq, he⟩ := split_of_find? h
  refine ⟨before.map Action.initial, after.map Action.initial, rfl, ?_, ?_, fun c hc => ?_⟩
  · rw [line, hq, List.map_append, List.map_cons]
  · rw [line, queue_setQueue, if_pos rfl, he, List.map_append]
  · rw [line, queue_setQueue, if_neg (Ne.symm hc)]
    rfl

/-- What is found in the queue of a chat is about this chat. -/
theorem Sound.home_of_find? {o : Outbox} (hs : o.Sound) {p : Action → Bool} {c : String}
    {a : Action} (h : (o.queue c).find? p = some a) : a.chat = c :=
  hs.home c a.initial (List.mem_map_of_mem (List.mem_of_find?_eq_some h))

/-- Taking an action out and settling it. -/
theorem take?_way {o o' : Outbox} {id : String} {a : Action} (hs : o.Sound)
    (h : o.take? id = some (a, o')) (outcome : Action.Outcome) :
    Way o [] (o'.settle a outcome) := by
  obtain ⟨c, -, h⟩ := Option.bind_eq_some_iff.mp h
  obtain ⟨b, hb, h⟩ := Option.map_eq_some_iff.mp h
  obtain ⟨rfl, rfl⟩ := Prod.mk.inj h
  have hid : b.id = id := by simpa using List.find?_some hb
  obtain rfl := hs.home_of_find? hb
  subst hid
  obtain ⟨before, after, hleaves⟩ := leaves_setQueue hb
  intro log
  refine ⟨[b.settlement outcome], settle_settled _ _ _, ?_⟩
  exact (ReflTransGen.single (.leave b before after _ hleaves)).tail
    (.settle b [] [] log outcome)

/-! ## 2. Answers, deadlines and lost connections -/

/-- Nobody joins or leaves a line and nothing is settled. -/
theorem restate_way {o o' : Outbox} (hshape : o' = { o with chats := o'.chats })
    (hline : ∀ c, o'.line c = o.line c) : Way o [] o' := by
  have hsettled : o'.settled = o.settled := by rw [hshape]
  refine fun log => ⟨[], by rw [hsettled, List.append_nil], .single (.restate o' ?_ hline)⟩
  dsimp only
  rw [hsettled]
  exact hshape

theorem way_nothing {o : Outbox} : Way o [] o :=
  restate_way rfl fun _ => rfl

theorem queue_modify (o : Outbox) (id c : String) (f : Action → Action) :
    (o.modify id f).queue c =
      if o.index.get? id = some c then (o.queue c).map (fun a => if a.id = id then f a else a)
      else o.queue c := by
  unfold modify
  split
  · rename_i h
    rw [h, if_neg (by simp)]
  · rename_i chat h
    unfold Outbox.queue
    dsimp only
    rw [OrderedMap.get?_modify, h]
    by_cases hc : chat = c
    · rw [if_pos hc, if_pos (congrArg some hc)]
      cases o.chats.get? c <;> rfl
    · rw [if_neg hc, if_neg (fun h => hc (Option.some.inj h))]

theorem line_of_map {o o' : Outbox} {c : String} {f : Action → Action}
    (h : o'.queue c = (o.queue c).map f) (hf : ∀ a, (f a).initial = a.initial) :
    o'.line c = o.line c := by
  unfold line
  rw [h, List.map_map]
  exact List.map_congr_left fun a _ => hf a

theorem modify_way (o : Outbox) (id : String) {f : Action → Action}
    (hf : ∀ a, (f a).initial = a.initial) : Way o [] (o.modify id f) := by
  refine restate_way ?_ fun c => ?_
  · unfold modify
    split <;> rfl
  · by_cases hc : o.index.get? id = some c
    · refine line_of_map ((queue_modify o id c f).trans (if_pos hc)) fun a => ?_
      split
      · exact hf a
      · rfl
    · unfold line
      rw [queue_modify, if_neg hc]

theorem acknowledge_way {o : Outbox} (hs : o.Sound) (timers : Timers) (ack : Ack) :
    Way o [] (o.acknowledge timers ack).2.1 := by
  unfold acknowledge
  split
  · exact way_nothing
  · rename_i a o' h
    exact take?_way hs h _

theorem expire_way {o : Outbox} (hs : o.Sound) (timers : Timers) (id : String) (now : Instant) :
    Way o [] (o.expire timers id now).1 := by
  unfold expire
  split
  · exact way_nothing
  · split
    · dsimp only
      split
      · split
        · exact way_nothing
        · rename_i a o' h
          exact take?_way hs h _
      · exact modify_way o id fun _ => rfl
    · exact modify_way o id fun _ => rfl
    · exact way_nothing

theorem disconnect_way (o : Outbox) (timers : Timers) : Way o [] (o.disconnect timers).1 := by
  refine restate_way rfl fun c => ?_
  refine line_of_map (f := fun a => if a.state = .inFlight then { a with state := .pending } else a)
    ?_ fun a => ?_
  · unfold disconnect Outbox.queue
    dsimp only
    rw [OrderedMap.get?_mapEntries]
    cases o.chats.get? c <;> rfl
  · split <;> rfl

/-! ## 3. Queueing -/

theorem Sound.free {o : Outbox} (hs : o.Sound) {id : String} (hi : o.index.get? id = none)
    (hm : o.settledIds.get? id = none) (log : List Mark) : Stage.Free ⟨o, [], log⟩ id where
  line c a ha hid := by
    have hfound := hs.found c a ha
    rw [hid] at hfound
    exact absurd (hi.symm.trans hfound) (by simp)
  loose b hb := absurd hb List.not_mem_nil
  memory := (hs.remembered id).mp hm

/-- The one who joins may be pushed before the one who gives way has left. -/
theorem push_settle {o : Outbox} {a oldest : Action} (hne : oldest.id ≠ a.id)
    (rest : List Action) (outcome : Action.Outcome) :
    ({ o with
      index := o.index.erase oldest.id
      chats := o.chats.insert a.chat rest }.settle oldest outcome).push a =
    { (o.push a).setQueue a.chat (rest ++ [a]) with
      index := (o.push a).index.erase oldest.id }.settle oldest outcome := by
  have hchats : (o.push a).chats.insert a.chat (rest ++ [a]) =
      (o.chats.insert a.chat rest).insert a.chat (rest ++ [a]) := by
    refine OrderedMap.ext_get? fun c => ?_
    simp only [push, OrderedMap.get?_insert]
    split <;> rfl
  have hindex : (o.push a).index.erase oldest.id =
      (o.index.erase oldest.id).insert a.id a.chat := by
    refine OrderedMap.ext_get? fun id => ?_
    rw [OrderedMap.get?_erase, index_push, OrderedMap.get?_insert, OrderedMap.get?_erase]
    grind
  have hset : (o.push a).setQueue a.chat (rest ++ [a]) =
      (o.push a).withChats ((o.push a).chats.insert a.chat (rest ++ [a])) := by
    rw [setQueue, if_neg (by simp)]
    rfl
  rw [hset]
  show (((o.withIndex (o.index.erase oldest.id)).withChats (o.chats.insert a.chat
      rest)).settle oldest outcome).push a =
    ((o.withIndex ((o.push a).index.erase oldest.id)).withChats ((o.push a).chats.insert a.chat
      (rest ++ [a]))).settle oldest outcome
  rw [hchats, hindex, settle_withChats, settle_withChats, settle_withIndex, settle_withIndex]
  simp only [push, withChats, withIndex, Outbox.queue, OrderedMap.get?_insert, if_pos,
    Option.getD_some]

section Enqueue

variable {o : Outbox} {a : Action} (hs : o.Sound) (hi : o.index.get? a.id = none)
  (hm : o.settledIds.get? a.id = none)

include hs hi hm

theorem turnAway_way {result : Enqueued} (hq : result ≠ .queued) (hd : result ≠ .duplicateId)
    (outcome : Action.Outcome) : Way o [.enqueued a result] (o.settle a outcome) := by
  intro log
  refine ⟨[a.settlement outcome], settle_settled _ _ _, ?_⟩
  have haway := Move.turnAway (s := ⟨o, [], log⟩) a result (hs.free hi hm log) hq hd
  exact (ReflTransGen.single haway).tail (settle_unlisted hi [] [] _ outcome)

/-- The oldest one that may give way leaves for one who joins. -/
theorem evict_way {p : Action → Bool} {oldest : Action}
    (h : (o.queue a.chat).find? p = some oldest) :
    Way o [.enqueued a .queued] (({ o with
      index := o.index.erase oldest.id
      chats := o.chats.insert a.chat ((o.queue a.chat).eraseP p) }.settle oldest
        .dropped).push a) := by
  have hchat : oldest.chat = a.chat := hs.home_of_find? h
  have hold : o.index.get? oldest.id = some a.chat :=
    hs.found a.chat oldest.initial (List.mem_map_of_mem (List.mem_of_find?_eq_some h))
  have hne : oldest.id ≠ a.id := by
    intro hid
    rw [hid, hi] at hold
    cases hold
  have hq : (o.push a).queue a.chat = o.queue a.chat ++ [a] := by
    rw [queue_push, if_pos rfl]
  have hfind : ((o.push a).queue oldest.chat).find? p = some oldest := by
    rw [hchat, hq, List.find?_append, h]
    rfl
  have herase : (o.queue a.chat ++ [a]).eraseP p = (o.queue a.chat).eraseP p ++ [a] :=
    List.eraseP_append_left (List.find?_some h) _ (List.mem_of_find?_eq_some h)
  obtain ⟨before, after, hleaves⟩ := leaves_setQueue hfind
  rw [hchat, hq, herase] at hleaves
  intro log
  refine ⟨[oldest.settlement .dropped], settle_settled _ _ _, ?_⟩
  rw [push_settle hne]
  have hjoin := Move.join (s := ⟨o, [], log⟩) a (hs.free hi hm log)
  exact ((ReflTransGen.single hjoin).tail (.leave oldest before after _ hleaves)).tail
    (.settle oldest [] [] _ .dropped)

theorem accept_way (timers : Timers) :
    Way o [.enqueued a (o.accept timers a).1] (o.accept timers a).2.1 := by
  unfold accept
  dsimp only
  split
  · intro log
    exact ⟨[], (List.append_nil _).symm,
      .single (.join (s := ⟨o, [], log⟩) a (hs.free hi hm log))⟩
  · split
    · rename_i oldest h
      exact evict_way hs hi hm h
    · exact turnAway_way hs hi hm (by simp) (by simp) .dropped

/-- The end of typing takes the start of typing with it. -/
theorem collapse_way {p : Action → Bool} {start : Action}
    (h : (o.queue a.chat).find? p = some start) :
    Way o [.enqueued a .collapsed]
      (({ o with index := o.index.erase start.id }.setQueue a.chat
        ((o.queue a.chat).eraseP p)).settle start .collapsed |>.settle a .collapsed) := by
  have hchat : start.chat = a.chat := hs.home_of_find? h
  rw [← hchat] at h ⊢
  obtain ⟨before, after, hleaves⟩ := leaves_setQueue h
  intro log
  refine ⟨[start.settlement .collapsed, a.settlement .collapsed], ?_, ?_⟩
  · rw [settle_settled, settle_settled, List.append_assoc]
    rfl
  · have haway := Move.turnAway (s := ⟨o, [], log⟩) a .collapsed (hs.free hi hm log) (by simp)
      (by simp)
    have hleave := ((ReflTransGen.single haway).tail (.leave start before after _ hleaves)).tail
      (.settle start [a] [] _ .collapsed)
    refine hleave.tail (settle_unlisted ?_ [] [] _ .collapsed)
    rw [settle_index]
    show (o.index.erase start.id).get? a.id = none
    rw [OrderedMap.get?_erase, hi, ite_self]

end Enqueue

theorem enqueue_way {o : Outbox} (hs : o.Sound) (timers : Timers) (a : Action) :
    Way o [.enqueued a (o.enqueue timers a).1] (o.enqueue timers a).2.1 := by
  unfold enqueue
  split
  · exact fun log => ⟨[], (List.append_nil _).symm, .single (.refuse (s := ⟨o, [], log⟩) a)⟩
  · rename_i hknown
    obtain ⟨hi, hm⟩ : o.index.get? a.id = none ∧ o.settledIds.get? a.id = none := by
      simpa [OrderedMap.contains] using hknown
    dsimp only
    split
    · rename_i start _ h
      exact collapse_way hs hi hm h
    · exact turnAway_way hs hi hm (by simp) (by simp) .collapsed
    · exact accept_way hs hi hm timers

/-! ## 4. Logging out -/

/-- All leave whose chats still have them in line. -/
theorem leaveAll_path (actions : List Action) (o : Outbox) (loose : List Action)
    (log : List Mark)
    (h : ∀ c, o.queue c = actions.filter (fun a => a.chat = c)) :
    ∃ chats, (∀ c, (o.withChats chats).line c = []) ∧
      Path ⟨o, loose, log⟩ ⟨o.withChats chats, loose ++ actions, log⟩ := by
  induction actions generalizing o loose with
  | nil =>
      refine ⟨o.chats, fun c => ?_, by rw [List.append_nil]; exact .refl⟩
      show (o.queue c).map Action.initial = []
      rw [h c]
      rfl
  | cons a rest ih =>
      have hq : o.queue a.chat = a :: rest.filter (fun b => b.chat = a.chat) := by
        rw [h, List.filter_cons_of_pos (by simp)]
      have hfind : (o.queue a.chat).find? (fun _ => true) = some a := by rw [hq]; rfl
      have herase : (o.queue a.chat).eraseP (fun _ => true) =
          rest.filter (fun b => b.chat = a.chat) := by rw [hq]; rfl
      obtain ⟨before, after, hleaves⟩ := leaves_setQueue hfind
      have hrest : ∀ c, (o.setQueue a.chat ((o.queue a.chat).eraseP fun _ => true)).queue c =
          rest.filter (fun b => b.chat = c) := by
        intro c
        rw [queue_setQueue, herase]
        split
        · rename_i hc
          rw [hc]
        · rename_i hc
          rw [h, List.filter_cons_of_neg (by simpa using hc)]
      obtain ⟨chats, hempty, hpath⟩ := ih _ (loose ++ [a]) hrest
      refine ⟨chats, hempty, ?_⟩
      rw [List.append_assoc] at hpath
      exact (ReflTransGen.single (Move.leave (s := ⟨o, loose, log⟩) a before after _
        hleaves)).trans hpath

/-- The queue of a chat holds the queued actions that are about it. -/
theorem Sound.queue_eq_filter {o : Outbox} (hs : o.Sound) (c : String) :
    o.queue c = o.chats.values.flatten.filter (fun a => a.chat = c) := by
  refine (OrderedMap.filter_flatten (fun k l hk a ha => ?_) c).symm
  have hq : o.queue k = l := by rw [Outbox.queue, hk]; rfl
  exact hs.home k a.initial (List.mem_map_of_mem (hq ▸ ha))

theorem cancelAll_way {o : Outbox} (hs : o.Sound) (timers : Timers) :
    Way o [] (o.cancelAll timers).1 := by
  intro log
  obtain ⟨chats, hempty, hleave⟩ := leaveAll_path _ o [] log hs.queue_eq_filter
  have hlines : ∀ c, (o.withChats ∅).line c = (o.withChats chats).line c :=
    fun c => (hempty c).symm
  have hpath : Path _ _ := (hleave.tail (.restate (o.withChats ∅) rfl hlines)).trans
    (settleAll_path .cancelled _ _ log)
  have hdone := hpath.sound (hs.stage log)
  -- the index knows nobody any more
  have hindex : (settleAll .cancelled (o.withChats ∅) o.chats.values.flatten).index = ∅ := by
    refine OrderedMap.ext_get? fun id => ?_
    rw [OrderedMap.get?_empty, Option.eq_none_iff_forall_ne_some]
    intro c hc
    rcases hdone.indexed id c hc with ⟨a, ha, -⟩ | ⟨b, hb, -⟩
    · rw [settleAll_withChats] at ha
      cases ha
    · cases hb
  have heq : (o.cancelAll timers).1 =
      settleAll .cancelled (o.withChats ∅) o.chats.values.flatten := by
    show o.chats.values.flatten.foldl (fun o a => o.settle a .cancelled)
      ((o.withChats ∅).withIndex ∅) = _
    rw [foldl_settle_withIndex, ← hindex]
    rfl
  rw [heq]
  exact ⟨_, settleAll_settled _ _ _, hpath⟩

/-! ## 5. Sending -/

/-- The moves of a flush so far: those who are done are on the way out. -/
structure Sending {σ : Type} (o : Outbox) (log : List Mark)
    (chats : OrderedMap String (List Action)) (f : Flush (σ × List Outgoing)) : Prop where
  path : Path ⟨o, [], log⟩ ⟨o.withChats chats, f.done, f.sink.2.map .wrote ++ log⟩
  calm : ∀ a ∈ f.done, a.kind.requiresAck = false

theorem line_withChats_insert (o : Outbox) (chats : OrderedMap String (List Action))
    (k c : String) (queue : List Action) :
    (o.withChats (chats.insert k queue)).line c =
      if k = c then queue.map Action.initial else (o.withChats chats).line c := by
  have h := queue_insert (o.withChats chats) k c queue
  unfold line
  rw [show (o.withChats (chats.insert k queue)).queue c = _ from h]
  split <;> rfl

theorem Sending.walk {σ : Type} {send : σ → Outgoing → Except SendFault Unit × σ} {o : Outbox}
    (hs : o.Sound) (log : List Mark) (deadline : Instant) (f : Flush (σ × List Outgoing))
    (hf : Sending o log o.chats f) :
    Sending o log
      (o.chats.walk (fun f _ queue => flushQueue (recorded send) deadline f queue) f).1
      (o.chats.walk (fun f _ queue => flushQueue (recorded send) deadline f queue) f).2 := by
  -- the head of a queue stands at the head of the line of its chat
  have hhead : ∀ {m c a rest} {f : Flush (σ × List Outgoing)}, Sending o log m f →
      m.get? c = some (a :: rest) →
      a.chat = c ∧ (o.withChats m).line c = a.initial :: rest.map Action.initial := by
    intro m c a rest f hm hc
    have hline : (o.withChats m).line c = a.initial :: rest.map Action.initial := by
      show ((m.get? c).getD []).map Action.initial = _
      rw [hc]
      rfl
    exact ⟨(hm.path.sound (hs.stage log)).home c a.initial (hline ▸ List.mem_cons_self), hline⟩
  refine walk_flush_rule ?_ ?_ ?_ o.chats f hf
  · intro m f c a rest sink fault _ hsend hm
    refine ⟨?_, hm.calm⟩
    dsimp only
    rw [frames_of_recorded hsend]
    exact hm.path
  · intro m f c a rest sink hc ha hk hsend hm
    obtain ⟨rfl, hline⟩ := hhead hm hc
    refine ⟨?_, hm.calm⟩
    dsimp only
    rw [frames_of_recorded hsend]
    refine (hm.path.tail (.write a _ hline hk hm.calm)).tail (.restate _ rfl fun d => ?_)
    rw [line_withChats_insert]
    split
    · rename_i hd
      exact (hd ▸ hline).symm
    · rfl
  · intro m f c a rest sink hc ha hk hsend hm
    obtain ⟨rfl, hline⟩ := hhead hm hc
    refine ⟨?_, fun b hb => ?_⟩
    · dsimp only
      rw [frames_of_recorded hsend]
      refine hm.path.tail (.depart a (rest.map Action.initial) _ ⟨rfl, hline, ?_, fun d hd => ?_⟩
        hk hm.calm)
      · rw [line_withChats_insert, if_pos rfl]
        rfl
      · rw [line_withChats_insert, if_neg (Ne.symm hd)]
    · rcases List.mem_append.mp hb with hb | hb
      · exact hm.calm b hb
      · exact List.mem_singleton.mp hb ▸ hk

/-- Empty queues are no queues. -/
theorem queue_filter (o : Outbox) (chats : OrderedMap String (List Action)) (c : String) :
    (o.withChats (chats.filter fun _ queue => !queue.isEmpty)).queue c =
      (o.withChats chats).queue c := by
  show ((chats.filter fun _ queue => !queue.isEmpty).get? c).getD [] = (chats.get? c).getD []
  rw [OrderedMap.get?_filter]
  cases chats.get? c with
  | none => rfl
  | some queue => cases queue <;> rfl

theorem flush_way {σ : Type} {send : σ → Outgoing → Except SendFault Unit × σ} {o : Outbox}
    (hs : o.Sound) (sink : σ) (now : Instant) (timers : Timers) :
    Way o ((o.framesOf send sink now timers).map .wrote) (o.flush send sink now timers).2.1 := by
  intro log
  let deadline := now + o.ackTimeout
  let w := o.chats.walk (fun f _ queue => Outbox.flushQueue (recorded send) deadline f queue)
    ⟨(sink, []), timers, 0, [], false⟩
  have hw : Sending o log w.1 w.2 :=
    Sending.walk hs log deadline _ ⟨.refl, fun _ h => absurd h List.not_mem_nil⟩
  -- empty queues may go, and settling does not look at the queues
  let kept := w.1.filter fun _ queue => !queue.isEmpty
  have hlines : ∀ c, (o.withChats kept).line c = (o.withChats w.1).line c :=
    fun c => congrArg (List.map Action.initial) (queue_filter o w.1 c)
  have heq : (o.flush send sink now timers).2.1 =
      settleAll (.delivered none false) (o.withChats kept) w.2.done := by
    rw [flush_recorded, settleAll_withChats]
    rfl
  refine ⟨w.2.done.map (·.settlement (.delivered none false)), ?_, ?_⟩
  · rw [heq]
    exact settleAll_settled _ _ _
  · rw [heq]
    exact (hw.path.tail (.restate (o.withChats kept) rfl hlines)).trans (settleAll_path _ _ _ _)

/-! ## 6. Runs -/

/-- Where a run is: between two operations nobody is on the way out. -/
def Run.stage (r : Run) : Stage := ⟨r.outbox, [], r.log⟩

theorem Way.note {r : Run} {o : Outbox} {marks : List Mark} (h : Way r.outbox marks o)
    (timers : Timers) : Path r.stage (r.note o timers marks).stage := by
  obtain ⟨l, hl, hpath⟩ := h r.log
  show Path _ ⟨o, [], ((o.settled.drop r.outbox.settled.length).map .settled).reverse ++
    (marks ++ r.log)⟩
  rw [hl, List.drop_left]
  exact hpath

/-- **An operation is a path of moves.** -/
theorem perform_path {r : Run} (hs : r.outbox.Sound) (op : Operation) :
    Path r.stage (r.perform op).stage := by
  cases op with
  | enqueue a => exact (enqueue_way hs r.timers a).note _
  | flush send sink now => exact (flush_way hs sink now r.timers).note _
  | acknowledge ack => exact (acknowledge_way hs r.timers ack).note _
  | expire id now => exact (expire_way hs r.timers id now).note _
  | disconnect => exact (disconnect_way r.outbox r.timers).note _
  | cancelAll => exact (cancelAll_way hs r.timers).note _
  | takeSettled => exact .single (.restate r.outbox.takeSettled.2 rfl fun _ => rfl)

/-- **So is a run.** -/
theorem performAll_path {r : Run} (hs : r.outbox.Sound) (ops : List Operation) :
    Path r.stage (r.performAll ops).stage := by
  induction ops generalizing r with
  | nil => exact .refl
  | cons op rest ih =>
      have hfirst := perform_path hs op
      have hmid : (r.perform op).outbox.Sound := (hfirst.sound (hs.stage r.log)).outbox
      exact hfirst.trans (ih hmid)

theorem new_sound (settings : Settings.Queue) (retry : Backoff) :
    (Outbox.new settings retry).Sound where
  home _ _ h := absurd h List.not_mem_nil
  distinct _ := .nil
  looseDistinct := .nil
  apart _ _ h := absurd h List.not_mem_nil
  found _ _ h := absurd h List.not_mem_nil
  indexed _ _ h := by cases h
  pending _ _ h := absurd h List.not_mem_nil
  loosePending _ h := absurd h List.not_mem_nil
  remembered _ := iff_of_true rfl List.not_mem_nil
  orderDistinct := .nil

end RealtimeChat.Outbox
