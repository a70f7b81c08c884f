import RealtimeChat.Proofs.Outbox.Paths
/-!
# The order of frames on the wire

In each chat actions are sent in the order in which they were queued, whatever is acknowledged,
rejected, lost, evicted or sent again in between; and while an action waits for its
acknowledgement nothing else of its chat is sent.

* `WireOrdered` -- this order, as a property of what is on record;
* `Stage.Ticketed` -- the lines are sorted by the time of queueing;
* `Stage.Passed` -- what a frame that was written says about the line of its chat;
* **`wire_order`** -- the order holds in every run.
-/

namespace RealtimeChat.Outbox

/--
Of two frames that were written one after the other, both carry the action that was queued last
under their ids. If both are about the same chat, the action of the later one was queued no earlier;
and if the first one needs an acknowledgement, the later one is the same action again, or the
first one was settled in between.
-/
def WireOrdered (log : List Mark) : Prop :=
  ∀ post mid pre f g, log = post ++ .wrote g :: (mid ++ .wrote f :: pre) →
    ∃ m a n b, ticket pre a.id = some (m, a) ∧ f = a.frame ∧
      ticket (mid ++ .wrote f :: pre) b.id = some (n, b) ∧ g = b.frame ∧
      (a.chat = b.chat → m ≤ n ∧
        (a.kind.requiresAck = true → m = n ∨ ∃ s, .settled s ∈ mid ∧ s.actionId = a.id))

/-! ## 1. Tickets -/

/-- When the action of an id was queued last, as the number of older marks. -/
def place (log : List Mark) (id : String) : Nat := ((ticket log id).map (·.1)).getD 0

theorem place_of_ticket {log : List Mark} {id : String} {n : Nat} {a : Action}
    (h : ticket log id = some (n, a)) : place log id = n := by
  rw [place, h]
  rfl

/-- Whoever was queued was queued before now. -/
theorem ticket_lt {log : List Mark} {id : String} {n : Nat} {a : Action}
    (h : ticket log id = some (n, a)) : n < log.length := by
  induction log with
  | nil => cases h
  | cons mark log ih =>
      unfold ticket at h
      split at h
      · cases h
      · rename_i heq
        cases heq
        split at h
        · cases h
          exact Nat.lt_succ_self _
        · exact Nat.lt_succ_of_lt (ih h)
      · rename_i heq
        cases heq
        exact Nat.lt_succ_of_lt (ih h)

theorem ticket_queued (log : List Mark) (a : Action) (id : String) :
    ticket (.enqueued a .queued :: log) id =
      if a.id = id then some (log.length, a) else ticket log id := rfl

/-- A move queues somebody new, or nobody has another ticket than before and nobody joins. -/
theorem Move.joins_or_keeps {s t : Stage} (h : Move s t) :
    (∃ a, s.Free a.id ∧ t = ⟨s.outbox.push a, s.loose, .enqueued a .queued :: s.log⟩) ∨
    ((∀ id, ticket t.log id = ticket s.log id) ∧
      ∀ c, (t.outbox.line c).Sublist (s.outbox.line c)) := by
  have leaves : ∀ {o o' : Outbox} {a : Action} {before after : List Action},
      Leaves o a before after o' → ∀ c, (o'.line c).Sublist (o.line c) := by
    intro o o' a before after hl c
    by_cases hc : c = a.chat
    · rw [hc, hl.there, hl.gone]
      exact (List.sublist_cons_self _ _).append_left _
    · rw [hl.others c hc]
  cases h with
  | refuse a => exact .inr ⟨fun _ => rfl, fun _ => .refl _⟩
  | join a hfree => exact .inl ⟨a, hfree, rfl⟩
  | turnAway a outcome hfree hq hd =>
      refine .inr ⟨fun _ => ?_, fun _ => .refl _⟩
      cases outcome <;> first | rfl | exact absurd rfl hq
  | restate o hshape hline => exact .inr ⟨fun _ => rfl, fun c => hline c ▸ .refl _⟩
  | write a rest hhead hk hcalm => exact .inr ⟨fun _ => rfl, fun _ => .refl _⟩
  | depart a rest o hleaves hk hcalm => exact .inr ⟨fun _ => rfl, leaves hleaves⟩
  | leave a before after o hleaves => exact .inr ⟨fun _ => rfl, leaves hleaves⟩
  | settle a before after log outcome =>
      refine .inr ⟨fun _ => rfl, fun c => ?_⟩
      rw [settle_line]
      exact .refl _

/-! ## 2. Lines are sorted by the time of queueing -/

/-- Everybody in a line has a ticket, and the tickets of a line rise. -/
structure Stage.Ticketed (s : Stage) : Prop where
  sound : s.Sound
  held : ∀ c, ∀ x ∈ s.outbox.line c, ∃ n a, ticket s.log x.id = some (n, a) ∧ a.initial = x
  sorted : ∀ c, (s.outbox.line c).Pairwise (fun x y => place s.log x.id < place s.log y.id)

theorem Move.ticketed {s t : Stage} (h : Move s t) (hs : s.Ticketed) : t.Ticketed := by
  have hsound := h.sound hs.sound
  rcases h.joins_or_keeps with ⟨a, hfree, rfl⟩ | ⟨hticket, hline⟩
  · -- the tickets in line are those of before, and the new one is the highest
    have hold : ∀ c, ∀ x ∈ s.outbox.line c,
        ticket (.enqueued a .queued :: s.log) x.id = ticket s.log x.id := fun c x hx => by
      rw [ticket_queued, if_neg (hfree.line c x hx).symm]
    have hnew : ticket (.enqueued a .queued :: s.log) a.id = some (s.log.length, a) := by
      rw [ticket_queued, if_pos rfl]
    refine ⟨hsound, fun c x hx => ?_, fun c => ?_⟩
    · rcases mem_line_push.mp hx with hx | ⟨rfl, rfl⟩
      · rw [hold c x hx]
        exact hs.held c x hx
      · exact ⟨s.log.length, a, hnew, rfl⟩
    · have hpairs : (s.outbox.line c).Pairwise (fun x y =>
          place (.enqueued a .queued :: s.log) x.id < place (.enqueued a .queued :: s.log) y.id) :=
        (hs.sorted c).imp_of_mem fun {x y} hx hy hxy => by
          rw [place, place, hold c x hx, hold c y hy]
          exact hxy
      rw [line_push]
      split
      · refine List.pairwise_append.mpr ⟨hpairs, List.pairwise_singleton _ _, ?_⟩
        intro x hx y hy
        obtain ⟨n, b, hn, -⟩ := hs.held c x hx
        rw [List.mem_singleton.mp hy, Action.initial_id, place_of_ticket hnew,
          place_of_ticket ((hold c x hx).trans hn)]
        exact ticket_lt hn
      · exact hpairs
  · refine ⟨hsound, fun c x hx => ?_, fun c => ?_⟩
    · rw [hticket]
      exact hs.held c x ((hline c).subset hx)
    · unfold place
      simp only [hticket]
      exact (hs.sorted c).sublist (hline c)

/-- The head of a line has the lowest ticket in it. -/
theorem Stage.Ticketed.head {s : Stage} (hs : s.Ticketed) {c : String} {x : Action}
    {rest : List Action} (hhead : s.outbox.line c = x :: rest) :
    ∃ n a, ticket s.log x.id = some (n, a) ∧ a.initial = x ∧
      ∀ y ∈ s.outbox.line c, n ≤ place s.log y.id := by
  obtain ⟨n, a, hn, ha⟩ := hs.held c x (hhead ▸ List.mem_cons_self)
  refine ⟨n, a, hn, ha, fun y hy => ?_⟩
  have hsorted := hs.sorted c
  rw [hhead] at hsorted hy
  rcases List.mem_cons.mp hy with rfl | hy
  · exact Nat.le_of_eq (place_of_ticket hn).symm
  · have hlt := (List.pairwise_cons.mp hsorted).1 y hy
    rw [place_of_ticket hn] at hlt
    exact Nat.le_of_lt hlt

/-! ## 3. What a frame leaves behind -/

/-- Action `a`, queued at `m`, was written: nobody in its line was queued earlier. If it needs an
acknowledgement, it was settled since, or stands at the head, or is on its way out. -/
structure Stage.Passed (s : Stage) (since : List Mark) (m : Nat) (a : Action) : Prop where
  ahead : ∀ x ∈ s.outbox.line a.chat, m ≤ place s.log x.id
  alone : a.kind.requiresAck = true →
    (∃ x, .settled x ∈ since ∧ x.actionId = a.id) ∨
    (∃ rest, s.outbox.line a.chat = a.initial :: rest ∧ place s.log a.id = m) ∨
    ∃ b ∈ s.loose, b.id = a.id ∧ b.kind.requiresAck = true

/-- What each frame on record leaves behind. -/
structure Stage.Orderly (s : Stage) : Prop where
  ticketed : s.Ticketed
  passed : ∀ mid pre f, s.log = mid ++ .wrote f :: pre →
    ∃ m a, ticket pre a.id = some (m, a) ∧ f = a.frame ∧ s.Passed mid m a
  ordered : WireOrdered s.log

/-- Whoever leaves a line leaves its head there, or is the head. -/
theorem Leaves.head_stays {o o' : Outbox} {a b : Action} {before after rest : List Action}
    (h : Leaves o b before after o') (hhead : o.line a.chat = a.initial :: rest) :
    (∃ rest', o'.line a.chat = a.initial :: rest') ∨ a.initial = b.initial := by
  by_cases hc : a.chat = b.chat
  · have hthere := h.there
    rw [← hc, hhead] at hthere
    cases before with
    | nil => exact .inr (List.cons.inj hthere).1
    | cons x before =>
        refine .inl ⟨before ++ after, ?_⟩
        rw [hc, h.gone, (List.cons.inj hthere).1]
        rfl
  · exact .inl ⟨rest, (h.others _ hc).trans hhead⟩

theorem Move.ahead {s t : Stage} (h : Move s t) {m : Nat} {c : String} (hm : m < s.log.length)
    (hs : ∀ x ∈ s.outbox.line c, m ≤ place s.log x.id) :
    ∀ x ∈ t.outbox.line c, m ≤ place t.log x.id := by
  rcases h.joins_or_keeps with ⟨b, hfree, rfl⟩ | ⟨hticket, hline⟩
  · intro x hx
    rcases mem_line_push.mp hx with hx | ⟨rfl, rfl⟩
    · rw [place, ticket_queued, if_neg (hfree.line c x hx).symm]
      exact hs x hx
    · rw [place, ticket_queued, Action.initial_id, if_pos rfl]
      exact Nat.le_of_lt hm
  · intro x hx
    rw [place, hticket]
    exact hs x ((hline c).subset hx)

theorem Move.passed {s t : Stage} (h : Move s t) {marks since : List Mark} {m : Nat} {a : Action}
    (hlog : t.log = marks ++ s.log) (hm : m < s.log.length) (hs : s.Passed since m a) :
    t.Passed (marks ++ since) m a := by
  refine ⟨h.ahead hm hs.ahead, fun hk => ?_⟩
  rcases hs.alone hk with ⟨x, hx, hid⟩ | ⟨rest, hhead, hplace⟩ | ⟨b, hb, hid, hbk⟩
  · exact .inl ⟨x, List.mem_append_right _ hx, hid⟩
  · -- the head stays, or it is the one who leaves
    cases h with
    | refuse b => exact .inr (.inl ⟨rest, hhead, hplace⟩)
    | join b hfree =>
        have hmem : a.initial ∈ s.outbox.line a.chat := hhead ▸ List.mem_cons_self
        have hne : b.id ≠ a.id := (hfree.line _ _ hmem).symm
        refine .inr (.inl ?_)
        rw [line_push, hhead, place, ticket_queued, if_neg hne]
        split
        · exact ⟨rest ++ [b.initial], rfl, hplace⟩
        · exact ⟨rest, rfl, hplace⟩
    | turnAway b outcome hfree hq hd =>
        refine .inr (.inl ⟨rest, hhead, ?_⟩)
        cases outcome <;> first | exact hplace | exact absurd rfl hq
    | restate o hshape hline => exact .inr (.inl ⟨rest, (hline _).trans hhead, hplace⟩)
    | write b rest' hhead' hk' hcalm => exact .inr (.inl ⟨rest, hhead, hplace⟩)
    | depart b rest' o hleaves hk' hcalm =>
        rcases hleaves.head_stays hhead with ⟨rest', hhead'⟩ | hab
        · exact .inr (.inl ⟨rest', hhead', hplace⟩)
        · have hkind : a.kind = b.kind := congrArg Intent.kind (Action.intent_of_initial hab)
          rw [hkind, hk'] at hk
          cases hk
    | leave b before after o hleaves =>
        rcases hleaves.head_stays hhead with ⟨rest', hhead'⟩ | hab
        · exact .inr (.inl ⟨rest', hhead', hplace⟩)
        · refine .inr (.inr ⟨b, List.mem_append_right _ List.mem_cons_self, ?_, ?_⟩)
          · exact (Action.id_of_initial hab).symm
          · rw [← hk]
            exact congrArg (fun i => i.kind.requiresAck) (Action.intent_of_initial hab).symm
    | settle b before after log outcome =>
        exact .inr (.inl ⟨rest, (settle_line _ b outcome _).trans hhead, hplace⟩)
  · -- whoever is on the way out stays there until it is settled
    cases h with
    | refuse _ => exact .inr (.inr ⟨b, hb, hid, hbk⟩)
    | join _ hfree => exact .inr (.inr ⟨b, hb, hid, hbk⟩)
    | turnAway _ outcome hfree hq hd =>
        exact .inr (.inr ⟨b, List.mem_append_left _ hb, hid, hbk⟩)
    | restate o hshape hline => exact .inr (.inr ⟨b, hb, hid, hbk⟩)
    | write _ rest' hhead' hk' hcalm => exact .inr (.inr ⟨b, hb, hid, hbk⟩)
    | depart _ rest' o hleaves hk' hcalm =>
        exact .inr (.inr ⟨b, List.mem_append_left _ hb, hid, hbk⟩)
    | leave _ before after o hleaves =>
        exact .inr (.inr ⟨b, List.mem_append_left _ hb, hid, hbk⟩)
    | settle d before after log outcome =>
        rcases List.mem_append.mp hb with hb | hb
        · exact .inr (.inr ⟨b, List.mem_append_left _ hb, hid, hbk⟩)
        · rcases List.mem_cons.mp hb with rfl | hb
          · obtain rfl : [.settled (b.settlement outcome)] = marks :=
              List.append_cancel_right hlog
            exact .inl ⟨b.settlement outcome, List.mem_cons_self, hid⟩
          · exact .inr (.inr ⟨b, List.mem_append_right _ hb, hid, hbk⟩)

/-! ## 4. Every run is in order -/

/-- A move writes the head of a line while nobody who needs an acknowledgement is on the way out,
or no frame at all. -/
theorem Move.writes_or_silent {s t : Stage} (h : Move s t) :
    (∃ (a : Action) (rest : List Action), t.log = .wrote a.frame :: s.log ∧
      s.outbox.line a.chat = a.initial :: rest ∧ s.Calm ∧
      (a.kind.requiresAck = true → t.outbox.line a.chat = a.initial :: rest)) ∨
    ∃ marks, t.log = marks ++ s.log ∧ ∀ f, .wrote f ∉ marks := by
  cases h with
  | refuse a => exact .inr ⟨[_], rfl, by simp⟩
  | join a hfree => exact .inr ⟨[_], rfl, by simp⟩
  | turnAway a outcome hfree hq hd => exact .inr ⟨[_], rfl, by simp⟩
  | restate o hshape hline => exact .inr ⟨[], rfl, by simp⟩
  | write a rest hhead hk hcalm => exact .inl ⟨a, rest, rfl, hhead, hcalm, fun _ => hhead⟩
  | depart a rest o hleaves hk hcalm =>
      exact .inl ⟨a, rest, rfl, hleaves.there, hcalm, fun h => absurd (hk.symm.trans h) (by simp)⟩
  | leave a before after o hleaves => exact .inr ⟨[], rfl, by simp⟩
  | settle a before after log outcome => exact .inr ⟨[_], rfl, by simp⟩

/-- **Each move keeps the order.** -/
theorem Move.orderly {s t : Stage} (h : Move s t) (hs : s.Orderly) : t.Orderly := by
  have hticketed := h.ticketed hs.ticketed
  have hold : ∀ {marks mid pre f}, t.log = marks ++ s.log → s.log = mid ++ .wrote f :: pre →
      ∃ m a, ticket pre a.id = some (m, a) ∧ f = a.frame ∧ t.Passed (marks ++ mid) m a := by
    intro marks mid pre f hlog hmid
    obtain ⟨m, a, hm, hf, hp⟩ := hs.passed mid pre f hmid
    have hlt : m < s.log.length := by
      have := ticket_lt hm
      rw [hmid, List.length_append, List.length_cons]
      omega
    exact ⟨m, a, hm, hf, h.passed hlog hlt hp⟩
  rcases h.writes_or_silent with ⟨b, rest, hlog, hhead, hcalm, hstays⟩ | ⟨marks, hlog, hsilent⟩
  · -- the frame that is written carries the action that was queued last under its id
    obtain ⟨n, q, hn, hq, hleast⟩ := hs.ticketed.head hhead
    have hqid : q.id = b.id := Action.id_of_initial hq
    have hqintent : q.intent = b.intent := Action.intent_of_initial hq
    have hqchat : q.chat = b.chat := congrArg Intent.chat hqintent
    have hqkind : q.kind = b.kind := congrArg Intent.kind hqintent
    have hqframe : b.frame = q.frame := by rw [Action.frame, Action.frame, hqid, hqintent]
    have hn : ticket s.log q.id = some (n, q) := hqid ▸ hn
    rw [← hqchat] at hleast
    refine ⟨hticketed, fun mid pre f hmid => ?_, fun post mid pre f g hpair => ?_⟩
    · rw [hlog] at hmid
      rcases List.cons_eq_append_iff.mp hmid with ⟨rfl, hnew⟩ | ⟨mid', rfl, hmid'⟩
      · obtain ⟨hf, rfl⟩ := List.cons.inj hnew
        cases hf
        refine ⟨n, q, hn, hqframe, h.ahead (ticket_lt hn) hleast, fun hk => ?_⟩
        refine .inr (.inl ⟨rest, ?_, ?_⟩)
        · rw [hqchat, hq]
          exact hstays (hqkind ▸ hk)
        · rw [hlog]
          exact place_of_ticket hn
      · have hone : t.log = [.wrote b.frame] ++ s.log := hlog
        exact hold hone hmid'
    · rw [hlog] at hpair
      rcases List.cons_eq_append_iff.mp hpair with ⟨rfl, hnew⟩ | ⟨post', rfl, hpair'⟩
      · obtain ⟨hg, hlog'⟩ := List.cons.inj hnew
        cases hg
        obtain ⟨m, a, hm, hf, hp⟩ := hs.passed mid pre f hlog'.symm
        refine ⟨m, a, n, q, hm, hf, hlog'.symm ▸ hn, hqframe, fun hchat => ⟨?_, fun hk => ?_⟩⟩
        · have := hp.ahead b.initial (by rw [hchat, hqchat, hhead]; exact List.mem_cons_self)
          rwa [Action.initial_id, ← hqid, place_of_ticket hn] at this
        · rcases hp.alone hk with hsettled | ⟨rest', hhead', hplace⟩ | ⟨d, hd, -, hdk⟩
          · exact .inr hsettled
          · rw [hchat, hqchat, hhead] at hhead'
            have hid : b.id = a.id := Action.id_of_initial (List.cons.inj hhead').1
            rw [← hid, ← hqid, place_of_ticket hn] at hplace
            exact .inl hplace.symm
          · rw [hcalm d hd] at hdk
            cases hdk
      · exact hs.ordered post' mid pre f g hpair'
  · refine ⟨hticketed, fun mid pre f hmid => ?_, fun post mid pre f g hpair => ?_⟩
    · rw [hlog] at hmid
      obtain ⟨mid', rfl, hmid'⟩ := split_behind hmid (hsilent f)
      exact hold hlog hmid'
    · rw [hlog] at hpair
      obtain ⟨post', rfl, hpair'⟩ := split_behind hpair (hsilent g)
      exact hs.ordered post' mid pre f g hpair'

/-- **In every run, with any operations in any order, the frames of each chat are written in the
order of queueing, one action at a time.** -/
theorem wire_order (settings : Settings.Queue) (retry : Backoff) (timers : Timers)
    (ops : List Operation) :
    WireOrdered ((Run.start (.new settings retry) timers).performAll ops).log := by
  have hstart : (Run.start (.new settings retry) timers).stage.Orderly :=
    ⟨⟨(new_sound settings retry).stage [], fun _ _ h => absurd h List.not_mem_nil, fun _ => .nil⟩,
      fun mid pre f h => by simp [Run.stage, Run.start] at h,
      fun post mid pre f g h => by simp [Run.stage, Run.start] at h⟩
  have hpath := performAll_path (r := Run.start (.new settings retry) timers)
    (new_sound settings retry) ops
  exact (hpath.keeps Move.orderly hstart).ordered

end RealtimeChat.Outbox
