import RealtimeChat.Proofs.Outbox.Paths
/-!
# No action is lost or settled twice

What was taken in is queued or was settled, each action once. An id is taken in again only when so
many others were settled after it that the outbox does not remember it.

* `Run.Conserved` -- both, as a property of a run;
* `Stage.Balanced`, `Stage.Mindful` -- the same in the middle of an operation;
* **`performAll_conserved`** -- they hold in every run;
* **`performAll_accounts`** -- the same for one id: who is queued stays so until settled.
-/

namespace RealtimeChat

/-- What tells actions from each other in the balance: id, chat and kind. -/
abbrev Action.Tag := String × String × Action.Kind

/-- The tag of an action. -/
def Action.tag (a : Action) : Action.Tag := (a.id, a.chat, a.kind)

/-- The tag of a settled action. -/
def Settlement.tag (s : Settlement) : Action.Tag := (s.actionId, s.chat, s.kind)

namespace Outbox

/-- The queued actions of all chats. -/
def queued (o : Outbox) : List Action := o.chats.values.flatten

/-- If an id is taken in twice, it was settled in between and many others after it. -/
def ReusesLate (log : List Mark) : Prop :=
  ∀ post mid pre a b first second,
    log = post ++ .enqueued b second :: (mid ++ .enqueued a first :: pre) → a.id = b.id →
    first ≠ .duplicateId → second ≠ .duplicateId →
    ∃ later x earlier, mid = later ++ .settled x :: earlier ∧ x.actionId = a.id ∧
      memorySize ≤ (settlements later).length

/-- Nothing is lost and nothing counted twice, and ids come back late only. -/
structure Run.Conserved (r : Run) : Prop where
  /-- Counting each as often as it occurs, the actions that were not refused as duplicates are those
  in the queues and those on record as settled. -/
  balance : ((admitted r.log).map Action.tag).Perm
    (r.outbox.queued.map Action.tag ++ (settlements r.log).map Settlement.tag)
  reuse : ReusesLate r.log

/-! ## 1. The balance -/

section Balance

/-- The balance of one tag, with those on their way out. -/
def Stage.Balanced (s : Stage) (t : Action.Tag) : Prop :=
  ((admitted s.log).map Action.tag).count t =
    ((s.outbox.line t.2.1).map Action.tag).count t + (s.loose.map Action.tag).count t +
      ((settlements s.log).map Settlement.tag).count t

theorem admitted_cons {a : Action} {outcome : Enqueued} (h : outcome ≠ .duplicateId)
    (log : List Mark) : admitted (.enqueued a outcome :: log) = a :: admitted log := by
  simp [admitted, h]

theorem admitted_duplicate (a : Action) (log : List Mark) :
    admitted (.enqueued a .duplicateId :: log) = admitted log := by
  simp [admitted]

theorem tag_ne_of_chat {a : Action} {t : Action.Tag} (h : a.chat ≠ t.2.1) : a.tag ≠ t := by
  rintro rfl
  exact h rfl

/-- Who leaves a line is on the way out. -/
theorem Leaves.count {o o' : Outbox} {a : Action} {before after : List Action}
    (h : Leaves o a before after o') (loose : List Action) (t : Action.Tag) :
    ((o'.line t.2.1).map Action.tag).count t + ((loose ++ [a]).map Action.tag).count t =
      ((o.line t.2.1).map Action.tag).count t + (loose.map Action.tag).count t := by
  have hsame : a.initial.tag = a.tag := rfl
  by_cases hc : t.2.1 = a.chat
  · rw [hc, h.there, h.gone]
    simp only [List.map_append, List.map_cons, List.map_nil, List.count_append, List.count_cons,
      List.count_nil, hsame]
    omega
  · rw [h.others _ hc, List.map_append, List.count_append, List.map_cons, List.map_nil,
      List.count_cons_of_ne (tag_ne_of_chat (Ne.symm hc)), List.count_nil]
    omega

theorem Move.balanced {s t : Stage} (h : Move s t) {g : Action.Tag} (hs : s.Balanced g) :
    t.Balanced g := by
  unfold Stage.Balanced at hs ⊢
  cases h with
  | refuse a =>
      rw [admitted_duplicate]
      exact hs
  | join a hfree =>
      rw [admitted_cons (by simp)]
      have hsettled : settlements (.enqueued a .queued :: s.log) = settlements s.log := rfl
      rw [hsettled, List.map_cons, List.count_cons, hs, line_push]
      by_cases hc : a.chat = g.2.1
      · have hsame : a.initial.tag = a.tag := rfl
        rw [if_pos hc, List.map_append, List.count_append, List.map_cons, List.map_nil,
          List.count_cons, List.count_nil, hsame]
        dsimp only
        omega
      · rw [if_neg hc]
        simp [tag_ne_of_chat hc]
  | turnAway a outcome hfree hq hd =>
      rw [admitted_cons hd]
      have hsettled : settlements (.enqueued a outcome :: s.log) = settlements s.log := rfl
      rw [hsettled, List.map_cons, List.count_cons, hs, List.map_append, List.count_append,
        List.map_cons, List.map_nil, List.count_cons, List.count_nil]
      dsimp only
      omega
  | restate o hshape hline =>
      rw [hline]
      exact hs
  | write a rest hhead hk hcalm => exact hs
  | depart a rest o hleaves hk hcalm =>
      have hcount := hleaves.count s.loose g
      have hadmitted : admitted (.wrote a.frame :: s.log) = admitted s.log := rfl
      have hsettled : settlements (.wrote a.frame :: s.log) = settlements s.log := rfl
      rw [hadmitted, hsettled, hs, ← hcount]
  | leave a before after o hleaves => rw [hs, hleaves.count s.loose g]
  | settle a before after log outcome =>
      have hadmitted : admitted (.settled (a.settlement outcome) :: log) = admitted log := rfl
      have hsettled : settlements (.settled (a.settlement outcome) :: log) =
          a.settlement outcome :: settlements log := rfl
      have hsame : (a.settlement outcome).tag = a.tag := rfl
      rename_i o
      have hline : ∀ c, ({ o with index := o.index.erase a.id }.settle a outcome).line c =
          o.line c := fun c => settle_line _ _ _ c
      rw [hadmitted, hsettled, hs, hline]
      simp only [List.map_append, List.map_cons, List.count_append, List.count_cons, hsame]
      omega

end Balance

/-! ## 2. The memory of settled ids -/

/-- The newest items in their order of arrival, with one more and cut to the same number. -/
theorem recent_cons {α : Type} (x : α) (l : List α) (n : Nat) :
    ((l.take n).reverse ++ [x]).drop (((l.take n).reverse ++ [x]).length - n) =
      ((x :: l).take n).reverse := by
  have htake : x :: l.take n = (x :: l).take (n + 1) := rfl
  rw [← List.reverse_cons, List.drop_reverse, List.length_reverse, htake, List.take_take,
    List.length_take, List.length_cons]
  refine congrArg List.reverse (List.take_eq_take_iff.mpr ?_)
  rw [List.length_cons]
  omega

/-- An id is accounted for if it was settled since, stands in a line or is on its way out. -/
def Stage.Accounts (s : Stage) (since : List Mark) (id : String) : Prop :=
  (∃ x, .settled x ∈ since ∧ x.actionId = id) ∨ (∃ c, ∃ a ∈ s.outbox.line c, a.id = id) ∨
    ∃ b ∈ s.loose, b.id = id

/-- The memory holds the ids that were settled last, and every id taken in is accounted for. -/
structure Stage.Mindful (s : Stage) : Prop where
  sound : s.Sound
  order : s.outbox.settledOrder =
    (((settlements s.log).map (·.actionId)).take memorySize).reverse
  accounted : ∀ mid pre a outcome, s.log = mid ++ .enqueued a outcome :: pre →
    outcome ≠ .duplicateId → s.Accounts mid a.id
  reuse : ReusesLate s.log

theorem Leaves.accounts {s : Stage} {o : Outbox} {a : Action} {before after : List Action}
    (h : Leaves s.outbox a before after o) {since log : List Mark} {id : String}
    (hs : s.Accounts since id) : Stage.Accounts ⟨o, s.loose ++ [a], log⟩ since id := by
  rcases hs with hsettled | ⟨c, b, hb, hid⟩ | ⟨b, hb, hid⟩
  · exact .inl hsettled
  · rcases h.mem_line.mp hb with hb | ⟨-, rfl⟩
    · exact .inr (.inl ⟨c, b, hb, hid⟩)
    · exact .inr (.inr ⟨a, List.mem_append_right _ List.mem_cons_self, hid⟩)
  · exact .inr (.inr ⟨b, List.mem_append_left _ hb, hid⟩)

theorem Stage.Accounts.later {s : Stage} {since : List Mark} {id : String}
    (h : s.Accounts since id) (marks : List Mark) : s.Accounts (marks ++ since) id :=
  h.imp_left fun ⟨x, hx, hid⟩ => ⟨x, List.mem_append_right _ hx, hid⟩

theorem Move.accounts {s t : Stage} (h : Move s t) {marks since : List Mark} {id : String}
    (hlog : t.log = marks ++ s.log) (hs : s.Accounts since id) :
    t.Accounts (marks ++ since) id := by
  have hs := hs.later marks
  cases h with
  | refuse a => exact hs
  | join a hfree =>
      exact hs.imp_right (·.imp_left fun ⟨c, b, hb, hid⟩ =>
        ⟨c, b, mem_line_push.mpr (.inl hb), hid⟩)
  | turnAway a outcome hfree hq hd =>
      exact hs.imp_right (·.imp_right fun ⟨b, hb, hid⟩ => ⟨b, List.mem_append_left _ hb, hid⟩)
  | restate o hshape hline =>
      exact hs.imp_right (·.imp_left fun ⟨c, b, hb, hid⟩ => ⟨c, b, (hline c).symm ▸ hb, hid⟩)
  | write a rest hhead hk hcalm => exact hs
  | depart a rest o hleaves hk hcalm => exact hleaves.accounts hs
  | leave a before after o hleaves => exact hleaves.accounts hs
  | settle a before after log outcome =>
      rcases hs with hsettled | ⟨c, b, hb, hid⟩ | ⟨b, hb, hid⟩
      · exact .inl hsettled
      · exact .inr (.inl ⟨c, b, (settle_line _ a outcome c).symm ▸ hb, hid⟩)
      · rcases List.mem_append.mp hb with hb | hb
        · exact .inr (.inr ⟨b, List.mem_append_left _ hb, hid⟩)
        · rcases List.mem_cons.mp hb with rfl | hb
          · obtain rfl : [.settled (b.settlement outcome)] = marks :=
              List.append_cancel_right hlog
            exact .inl ⟨b.settlement outcome, List.mem_cons_self, hid⟩
          · exact .inr (.inr ⟨b, List.mem_append_right _ hb, hid⟩)

/-- The memory follows the settlements. -/
theorem Move.order {s t : Stage} (h : Move s t) (hs : s.Mindful) :
    t.outbox.settledOrder = (((settlements t.log).map (·.actionId)).take memorySize).reverse := by
  cases h with
  | refuse a => exact hs.order
  | join a hfree => exact hs.order
  | turnAway a outcome hfree hq hd => exact hs.order
  | restate o hshape hline =>
      have ho : o.settledOrder = s.outbox.settledOrder := by rw [hshape]
      exact ho.trans hs.order
  | write a rest hhead hk hcalm => exact hs.order
  | depart a rest o hleaves hk hcalm =>
      have ho : o.settledOrder = s.outbox.settledOrder := by rw [hleaves.shape]
      exact ho.trans hs.order
  | leave a before after o hleaves =>
      have ho : o.settledOrder = s.outbox.settledOrder := by rw [hleaves.shape]
      exact ho.trans hs.order
  | settle a before after log outcome =>
      rename_i o
      have hnew : a.id ∉ o.settledOrder := hs.sound.loosePending a (by simp)
      have hfirst := (hs.sound.remembered a.id).mpr hnew
      have horder : o.settledOrder =
          (((settlements log).map (·.actionId)).take memorySize).reverse := hs.order
      have hcons : (settlements (.settled (a.settlement outcome) :: log)).map (·.actionId) =
          a.id :: (settlements log).map (·.actionId) := rfl
      dsimp only
      rw [settledOrder_settle (o := { o with index := o.index.erase a.id }) outcome hfirst, hcons,
        ← recent_cons, ← horder]
      rfl

/-- A move takes in an action of a free id, or none at all. -/
theorem Move.admits_or_silent {s t : Stage} (h : Move s t) :
    (∃ a outcome, t.log = .enqueued a outcome :: s.log ∧ s.Free a.id ∧ t.Accounts [] a.id) ∨
    ∃ marks, t.log = marks ++ s.log ∧
      ∀ a outcome, outcome ≠ .duplicateId → .enqueued a outcome ∉ marks := by
  cases h with
  | refuse a =>
      refine .inr ⟨[_], rfl, fun b outcome hd hb => ?_⟩
      cases List.mem_singleton.mp hb
      exact hd rfl
  | join a hfree =>
      exact .inl ⟨a, .queued, rfl, hfree,
        .inr (.inl ⟨a.chat, a.initial, mem_line_push.mpr (.inr ⟨rfl, rfl⟩), rfl⟩)⟩
  | turnAway a outcome hfree hq hd =>
      exact .inl ⟨a, outcome, rfl, hfree,
        .inr (.inr ⟨a, List.mem_append_right _ List.mem_cons_self, rfl⟩)⟩
  | restate o hshape hline => exact .inr ⟨[], rfl, by simp⟩
  | write a rest hhead hk hcalm => exact .inr ⟨[_], rfl, by simp⟩
  | depart a rest o hleaves hk hcalm => exact .inr ⟨[_], rfl, by simp⟩
  | leave a before after o hleaves => exact .inr ⟨[], rfl, by simp⟩
  | settle a before after log outcome => exact .inr ⟨[_], rfl, by simp⟩

/-- An id that is free although it was taken in before was settled many settlements ago. -/
theorem Stage.Mindful.settled_long_ago {s : Stage} (hs : s.Mindful) {mid pre : List Mark}
    {a : Action} {outcome : Enqueued} (hlog : s.log = mid ++ .enqueued a outcome :: pre)
    (hd : outcome ≠ .duplicateId) (hfree : s.Free a.id) :
    ∃ later x earlier, mid = later ++ .settled x :: earlier ∧ x.actionId = a.id ∧
      memorySize ≤ (settlements later).length := by
  rcases hs.accounted mid pre a outcome hlog hd with ⟨x, hx, hid⟩ | ⟨c, b, hb, hid⟩ | ⟨b, hb, hid⟩
  · obtain ⟨later, earlier, rfl⟩ := List.append_of_mem hx
    refine ⟨later, x, earlier, rfl, hid, Nat.le_of_not_lt fun hlt => hfree.memory ?_⟩
    -- among the newest settlements it would be remembered
    have hsplit : (settlements s.log).map (·.actionId) = (settlements later).map (·.actionId) ++
        x.actionId :: (settlements (earlier ++ .enqueued a outcome :: pre)).map (·.actionId) := by
      rw [hlog, List.append_assoc, settlements, List.filterMap_append, List.map_append]
      rfl
    obtain ⟨k, hk⟩ : ∃ k, memorySize - ((settlements later).map (·.actionId)).length = k + 1 :=
      ⟨memorySize - (settlements later).length - 1, by rw [List.length_map]; omega⟩
    rw [hs.order, List.mem_reverse, hsplit, List.take_append, hk, ← hid]
    exact List.mem_append_right _ List.mem_cons_self
  · exact absurd hid (hfree.line c b hb)
  · exact absurd hid (hfree.loose b hb)

/-- **Each move keeps what is remembered in step with what is on record.** -/
theorem Move.mindful {s t : Stage} (h : Move s t) (hs : s.Mindful) : t.Mindful := by
  have hsound := h.sound hs.sound
  have horder := h.order hs
  rcases h.admits_or_silent with ⟨b, second, hlog, hfree, hb⟩ | ⟨marks, hlog, hsilent⟩
  · refine ⟨hsound, horder, fun mid pre a outcome hmid hd => ?_,
      fun post mid pre a c first other hpair hid hf hc => ?_⟩
    · rw [hlog] at hmid
      rcases List.cons_eq_append_iff.mp hmid with ⟨rfl, hnew⟩ | ⟨mid', rfl, hmid'⟩
      · cases (List.cons.inj hnew).1
        exact hb
      · have hone : t.log = [.enqueued b second] ++ s.log := hlog
        exact h.accounts hone (hs.accounted mid' pre a outcome hmid' hd)
    · rw [hlog] at hpair
      rcases List.cons_eq_append_iff.mp hpair with ⟨rfl, hnew⟩ | ⟨post', rfl, hpair'⟩
      · obtain ⟨hc', hlog'⟩ := List.cons.inj hnew
        cases hc'
        exact hs.settled_long_ago hlog'.symm hf (hid ▸ hfree)
      · exact hs.reuse post' mid pre a c first other hpair' hid hf hc
  · refine ⟨hsound, horder, fun mid pre a outcome hmid hd => ?_,
      fun post mid pre a c first other hpair hid hf hc => ?_⟩
    · rw [hlog] at hmid
      obtain ⟨mid', rfl, hmid'⟩ := split_behind hmid (hsilent a outcome hd)
      exact h.accounts hlog (hs.accounted mid' pre a outcome hmid' hd)
    · rw [hlog] at hpair
      obtain ⟨post', rfl, hpair'⟩ := split_behind hpair (hsilent c other hc)
      exact hs.reuse post' mid pre a c first other hpair' hid hf hc

/-! ## 3. Every run conserves -/

/-- The queued actions of a tag are those in the line of its chat. -/
theorem Sound.count_queued {o : Outbox} (hs : o.Sound) (t : Action.Tag) :
    (o.queued.map Action.tag).count t = ((o.line t.2.1).map Action.tag).count t := by
  have hhome : ∀ k l, o.chats.get? k = some l → ∀ a ∈ l, a.chat = k := by
    intro k l hk a ha
    have hq : o.queue k = l := by rw [Outbox.queue, hk]; rfl
    exact hs.home k a.initial (List.mem_map_of_mem (hq ▸ ha))
  have hqueue : o.queue t.2.1 = o.queued.filter (fun a => a.chat = t.2.1) :=
    (OrderedMap.filter_flatten hhome t.2.1).symm
  rw [line, List.map_map, List.count_eq_countP, List.count_eq_countP, List.countP_map,
    List.countP_map, hqueue, List.countP_filter]
  refine List.countP_congr fun a _ => ?_
  simp only [Function.comp, beq_iff_eq, Bool.and_eq_true, decide_eq_true_eq]
  exact ⟨fun h => ⟨h, h ▸ rfl⟩, fun h => h.1⟩

/-- **In every run no action is lost or settled twice, and ids come back late only.** -/
theorem performAll_conserved (settings : Settings.Queue) (retry : Backoff) (timers : Timers)
    (ops : List Operation) :
    ((Run.start (.new settings retry) timers).performAll ops).Conserved := by
  have hnew := new_sound settings retry
  have hpath := performAll_path (r := Run.start (.new settings retry) timers) hnew ops
  have hsound : Outbox.Sound _ := (hpath.sound (hnew.stage [])).outbox
  have hstart : (Run.start (.new settings retry) timers).stage.Mindful :=
    ⟨hnew.stage [], rfl, fun mid pre a outcome h => by simp [Run.stage, Run.start] at h,
      fun post mid pre a b first second h => by simp [Run.stage, Run.start] at h⟩
  refine ⟨List.perm_iff_count.mpr fun t => ?_, (hpath.keeps Move.mindful hstart).reuse⟩
  have hbalance := hpath.keeps (P := (·.Balanced t)) (fun hm hs => hm.balanced hs) rfl
  rw [List.count_append, hsound.count_queued]
  simpa [Stage.Balanced, Run.stage] using hbalance

/-! ## 4. One id in a run -/

/-- The record only grows. -/
theorem Move.grows {s t : Stage} (h : Move s t) : ∃ marks, t.log = marks ++ s.log := by
  rcases h.admits_or_silent with ⟨a, outcome, hlog, -⟩ | ⟨marks, hlog, -⟩
  · exact ⟨[_], hlog⟩
  · exact ⟨marks, hlog⟩

/-- Whoever is accounted for stays so, and so is whoever is taken in. -/
theorem Move.admitted_accounts {s t : Stage} (h : Move s t)
    (hs : ∀ a ∈ admitted s.log, s.Accounts s.log a.id) :
    ∀ a ∈ admitted t.log, t.Accounts t.log a.id := by
  intro a ha
  rcases h.admits_or_silent with ⟨b, outcome, hlog, -, hb⟩ | ⟨marks, hlog, hsilent⟩
  · have hold : a ∈ admitted s.log → t.Accounts t.log a.id := fun ha => by
      have hlog' : t.log = [.enqueued b outcome] ++ s.log := hlog
      exact hlog ▸ h.accounts hlog' (hs a ha)
    by_cases hd : outcome = .duplicateId
    · rw [hlog, hd, admitted_duplicate] at ha
      exact hold ha
    · rw [hlog, admitted_cons hd] at ha
      rcases List.mem_cons.mp ha with rfl | ha
      · have hlater := hb.later t.log
        rwa [List.append_nil] at hlater
      · exact hold ha
  · have hnone : admitted marks = [] := by
      refine List.filterMap_eq_nil_iff.mpr fun mark hmark => ?_
      cases mark with
      | enqueued b outcome =>
          by_cases hd : outcome = .duplicateId
          · simp [hd]
          · exact absurd hmark (hsilent b outcome hd)
      | wrote frame => rfl
      | settled x => rfl
    rw [hlog, admitted, List.filterMap_append, ← admitted, hnone, List.nil_append] at ha
    exact hlog ▸ h.accounts hlog (hs a ha)

/-- **An id that is queued, or taken in during a run, is queued at its end or was settled.** -/
theorem performAll_accounts {o : Outbox} (hs : o.Sound) (timers : Timers) (ops : List Operation)
    {id : String} (h : o.contains id = true ∨
      ∃ a ∈ admitted ((Run.start o timers).performAll ops).log, a.id = id) :
    ((Run.start o timers).performAll ops).outbox.contains id = true ∨
      ∃ x ∈ settlements ((Run.start o timers).performAll ops).log, x.actionId = id := by
  have hpath := performAll_path (r := Run.start o timers) hs ops
  have hsound := (hpath.sound (hs.stage [])).outbox
  generalize (Run.start o timers).performAll ops = r at *
  have haccounts : r.stage.Accounts r.log id := by
    rcases h with h | ⟨a, ha, rfl⟩
    · refine hpath.keeps (P := fun s => s.Accounts s.log id) (fun hm hs => ?_)
        (.inr (.inl (hs.contains_iff.mp h)))
      obtain ⟨marks, hlog⟩ := hm.grows
      exact hlog ▸ hm.accounts hlog hs
    · exact hpath.keeps (P := fun s => ∀ a ∈ admitted s.log, s.Accounts s.log a.id)
        Move.admitted_accounts (fun _ hb => absurd hb List.not_mem_nil) a ha
  rcases haccounts with ⟨x, hx, hid⟩ | hline | ⟨b, hb, -⟩
  · exact .inr ⟨x, List.mem_filterMap.mpr ⟨_, hx, rfl⟩, hid⟩
  · exact .inl (hsound.contains_iff.mpr hline)
  · cases hb

end Outbox

end RealtimeChat
