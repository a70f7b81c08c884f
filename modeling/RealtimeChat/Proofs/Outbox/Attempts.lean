import RealtimeChat.Proofs.Outbox.Moments
/-!
# Actions keep to the rules of sending again

Every operation of an outbox writes on in the chronicle by the rules and leaves each action where
its history leads, whatever the operations before were.

* `enqueue_shed` -- what comes of an action that is to be queued;
* `Heads`, `Paced` -- how the queues change in the middle of a flush;
* **`Watched.expire`** -- deadlines that have passed;
* **`Watched.flush`** -- frames that are sent;
* **`Watched.disconnect`** and the others -- what else may be done.
-/

namespace RealtimeChat.Outbox

open Timer (Key)

variable {ackTimeout : Duration} {retry : Backoff} {m : Moment} {log : List Deed}
  {id : String} {a : Action}

/-! ## 1. Queueing, answers, ends -/

/-- No move changes the rules of sending again. -/
theorem Move.policy {s t : Stage} (hm : Move s t)
    (h : s.outbox.ackTimeout = ackTimeout ∧ s.outbox.retry = retry) :
    t.outbox.ackTimeout = ackTimeout ∧ t.outbox.retry = retry :=
  ⟨hm.settings.2.1.trans h.1, hm.settings.2.2.trans h.2⟩

/-- An operation that leaves all actions where their histories lead. -/
theorem Watched.perform (h : Watched ackTimeout retry m log) (hs : m.outbox.Sound) (op : Operation)
    {o : Outbox} {timers : Timers} {owed : List Key}
    (ho : ((Run.start m.outbox m.timers).perform op).outbox = o)
    (lives : ∀ id, Lawful ackTimeout retry ⟨o, timers, owed, m.now⟩
      (m.outbox.deeds m.timers op ++ log) id) :
    Watched ackTimeout retry ⟨o, timers, owed, m.now⟩ (m.outbox.deeds m.timers op ++ log) := by
  have hpath := perform_path (r := Run.start m.outbox m.timers) hs op
  have hpolicy := hpath.keeps (P := fun s => s.outbox.ackTimeout = ackTimeout ∧
    s.outbox.retry = retry) Move.policy h.policy
  subst ho
  exact ⟨hpolicy, lives⟩

/-- An action is queued that was not. -/
theorem Lawful.join (h : Lawful ackTimeout retry m log id)
    (hnone : ∀ b, ¬ m.outbox.Queues a.id b) (hstate : a.state = .pending)
    (hretries : a.retries = 0) :
    Lawful ackTimeout retry { m with outbox := m.outbox.push a }
      (.queued a.id a.kind.requiresAck :: log) id := by
  by_cases hid : a.id = id
  · subst hid
    refine ⟨.ready a.kind.requiresAck 0 0, ?_, a, ⟨rfl, a.chat, ?_⟩, rfl, hretries, ?_⟩
    · rw [history_cons (by simp [Deed.concerns])]
      exact .queue _ (h.of_none hnone)
    · exact mem_queue_push.mpr (.inr ⟨rfl, rfl⟩)
    · exact .inl ⟨hstate, Nat.zero_le _⟩
  · refine h.same ⟨fun b => ?_, fun _ _ => rfl, Iff.rfl, Nat.le_refl _⟩
      (history_skip (by simp [Deed.concerns, hid]))
    constructor
    · rintro ⟨hb, c, hmem⟩
      obtain hmem | ⟨-, rfl⟩ := mem_queue_push.mp hmem
      · exact ⟨hb, c, hmem⟩
      · exact absurd hb hid
    · rintro ⟨hb, c, hmem⟩
      exact ⟨hb, c, mem_queue_push.mpr (.inl hmem)⟩

/-- What comes of an action that is to be queued: it is queued, maybe in the place of another one,
or it is not queued, and settled at once unless its id is known. -/
theorem enqueue_shed {o : Outbox} (hs : o.Sound) (t : Timers) (owed : List Key) (now : Instant)
    (a : Action) :
    (∃ l, (o.enqueue t a).1 ≠ .queued ∧
      Shed l ⟨o, t, owed, now⟩ ⟨(o.enqueue t a).2.1, (o.enqueue t a).2.2, owed, now⟩) ∨
    ∃ l o' t', o.enqueue t a = (.queued, o'.push a, t') ∧ (∀ b, ¬ o'.Queues a.id b) ∧
      Shed l ⟨o, t, owed, now⟩ ⟨o', t', owed, now⟩ := by
  have hcollapsed : ∀ n, Action.Outcome.collapsed ≠ .failed n := fun _ h => by cases h
  have hdropped : ∀ n, Action.Outcome.dropped ≠ .failed n := fun _ h => by cases h
  unfold enqueue
  split
  · exact .inl ⟨[], (fun h => by cases h), .still (fun _ => rfl) rfl _ _ _⟩
  · rename_i hknown
    obtain ⟨hnew, -⟩ : o.index.get? a.id = none ∧ o.settledIds.get? a.id = none := by
      simpa [OrderedMap.contains] using hknown
    have hnone : ∀ b, ¬ o.Queues a.id b := by
      rintro b ⟨hid, c, hb⟩
      have hindex : o.index.get? b.id = some c := hs.found c b.initial (List.mem_map_of_mem hb)
      rw [hid, hnew] at hindex
      cases hindex
    dsimp only
    split
    · -- both the start and the end of typing are settled
      rename_i start _ hstart
      have hleft : Without o start ({ o with index := o.index.erase start.id }.setQueue a.chat
          ((o.queue a.chat).eraseP (·.startsTyping))) := hs.without hstart fun d => by
        rw [queue_setQueue]
        rfl
      have hstarted : Shed [start.settlement .collapsed] ⟨o, t, owed, now⟩ ⟨_, t, owed, now⟩ :=
        .leave hleft rfl (fun _ _ => rfl) hcollapsed
      refine .inl ⟨_, (fun h => by cases h), hstarted.trans (.turnAway (fun b => ?_) hcollapsed)⟩
      rintro ⟨hid, c, hb⟩
      rw [settle_queue] at hb
      exact hnone b ⟨hid, c, ((hleft c b).mp hb).1⟩
    · exact .inl ⟨_, (fun h => by cases h), .turnAway hnone hcollapsed⟩
    · unfold accept
      dsimp only
      split
      · exact .inr ⟨[], o, t, rfl, hnone, .still (fun _ => rfl) rfl _ _ _⟩
      · split
        · rename_i oldest hoffer
          have hleft : Without o oldest { o with
              index := o.index.erase oldest.id
              chats := o.chats.insert a.chat ((o.queue a.chat).eraseP (·.mayGiveWay)) } :=
            hs.without hoffer fun d => queue_insert o a.chat d _
          refine .inr ⟨_, _, _, rfl, fun b => ?_,
            .leave hleft rfl (fun id hid => ?_) hdropped⟩
          · rintro ⟨hid, c, hb⟩
            rw [settle_queue] at hb
            exact hnone b ⟨hid, c, ((hleft c b).mp hb).1⟩
          · rw [Timers.deadline?_cancel, if_neg fun heq => hid (Key.action.inj heq)]
        · exact .inl ⟨_, (fun h => by cases h), .turnAway hnone hdropped⟩

/-- **A new action** may be sent at once. -/
theorem Watched.enqueue (h : Watched ackTimeout retry m log) (hs : m.outbox.Sound)
    (hstate : a.state = .pending) (hretries : a.retries = 0) :
    Watched ackTimeout retry
      { m with
        outbox := (m.outbox.enqueue m.timers a).2.1
        timers := (m.outbox.enqueue m.timers a).2.2 }
      (m.outbox.deeds m.timers (.enqueue a) ++ log) := by
  refine h.perform hs (.enqueue a) rfl fun id => ?_
  obtain ⟨l, hrefused, hshed⟩ | ⟨l, o', t', heq, hnone, hshed⟩ :=
    enqueue_shed hs m.timers m.owed m.now a
  · simp only [deeds, if_neg hrefused, List.nil_append]
    exact (h.lives id).shed hshed
  · simp only [deeds, heq, if_true, List.append_assoc]
    have hshorter := (h.lives id).shed hshed
    exact hshorter.join hnone hstate hretries

theorem take?_settled {o o' : Outbox} (h : o.take? id = some (a, o')) : o'.settled = o.settled := by
  obtain ⟨c, -, h⟩ := Option.bind_eq_some_iff.mp h
  obtain ⟨b, -, h⟩ := Option.map_eq_some_iff.mp h
  obtain ⟨rfl, rfl⟩ := Prod.mk.inj h
  rfl

/-- **An answer** settles an action. -/
theorem Watched.acknowledge (h : Watched ackTimeout retry m log) (hs : m.outbox.Sound) (ack : Ack) :
    Watched ackTimeout retry
      { m with
        outbox := (m.outbox.acknowledge m.timers ack).2.1
        timers := (m.outbox.acknowledge m.timers ack).2.2 }
      (m.outbox.deeds m.timers (.acknowledge ack) ++ log) := by
  refine h.perform hs (.acknowledge ack) rfl fun id => ?_
  have hshed : ∃ l, Shed l m { m with
      outbox := (m.outbox.acknowledge m.timers ack).2.1
      timers := (m.outbox.acknowledge m.timers ack).2.2 } := by
    unfold Outbox.acknowledge
    split
    · exact ⟨[], .still (fun _ => rfl) rfl _ _ _⟩
    · rename_i x o' htake
      refine ⟨_, .leave (take?_without hs htake).2 (take?_settled htake) (fun id hid => ?_)
        fun n => ?_⟩
      · rw [Timers.deadline?_cancel, if_neg fun heq => hid (Key.action.inj heq)]
      · unfold outcomeOf
        split <;> exact nofun
  obtain ⟨l, hshed⟩ := hshed
  exact (h.lives id).shed hshed

/-- **Logging out** cancels all actions. -/
theorem Watched.cancelAll (h : Watched ackTimeout retry m log) (hs : m.outbox.Sound) :
    Watched ackTimeout retry
      { m with
        outbox := (m.outbox.cancelAll m.timers).1
        timers := (m.outbox.cancelAll m.timers).2 }
      (m.outbox.deeds m.timers .cancelAll ++ log) := by
  refine h.perform hs .cancelAll rfl fun id => ?_
  have hqueue : ∀ c, (m.outbox.cancelAll m.timers).1.queue c = [] :=
    queue_foldl_settle .cancelled _ _
  have hempty : ∀ id a, ¬ (m.outbox.cancelAll m.timers).1.Queues id a := by
    rintro id a ⟨-, c, ha⟩
    rw [hqueue] at ha
    cases ha
  refine (h.lives id).shed (l := m.outbox.chats.values.flatten.map (·.settlement .cancelled))
    ⟨?_, ?_, fun s _ => hempty s.actionId, fun id hothers => ?_⟩
  · show (List.foldl _ ((m.outbox.withChats ∅).withIndex ∅) _).settled = _
    rw [foldl_settle_withIndex]
    exact settleAll_settled _ _ _
  · intro s hmem n
    obtain ⟨b, -, rfl⟩ := List.mem_map.mp hmem
    exact nofun
  · have hnone : ∀ a, ¬ m.outbox.Queues id a := by
      rintro a ⟨hid, hmem⟩
      exact hothers _ (List.mem_map_of_mem (mem_values_flatten.mpr hmem)) hid
    exact ⟨fun a => iff_of_false (hempty id a) (hnone a), fun a ha => absurd ha (hnone a), Iff.rfl,
      Nat.le_refl _⟩

/-- Settlements are taken. -/
theorem Watched.takeSettled (h : Watched ackTimeout retry m log) :
    Watched ackTimeout retry { m with outbox := m.outbox.takeSettled.2 }
      (m.outbox.deeds m.timers .takeSettled ++ log) :=
  ⟨h.policy, fun id => (h.lives id).same
    ⟨fun _ => queues_of_queue fun _ => rfl, fun _ _ => rfl, Iff.rfl, Nat.le_refl _⟩ rfl⟩

/-! ## 2. Lost connections and deadlines that have passed -/

/-- **When the connection is lost**, what was in flight may be sent again at once, and what waits
goes on waiting. -/
theorem Watched.disconnect (h : Watched ackTimeout retry m log) (hs : m.outbox.Sound) :
    Watched ackTimeout retry
      { m with
        outbox := (m.outbox.disconnect m.timers).1
        timers := (m.outbox.disconnect m.timers).2 }
      (m.outbox.deeds m.timers .disconnect ++ log) := by
  refine h.perform hs .disconnect rfl fun id => ?_
  have hrecast := m.outbox.disconnect_recast m.timers
  have hqueues : ∀ {a : Action}, m.outbox.Queues id a → (m.outbox.disconnect m.timers).1.Queues id
      (if a.state = .inFlight then { a with state := .pending } else a) := by
    rintro a ⟨hid, c, ha⟩
    refine ⟨?_, c, hrecast c ▸ List.mem_map_of_mem ha⟩
    split <;> exact hid
  -- the deadline of what is not in flight stays
  have hdue : ∀ {a : Action} {deadline : Instant}, m.outbox.Queues id a → a.state ≠ .inFlight →
      m.Due id deadline → Moment.Due { m with
        outbox := (m.outbox.disconnect m.timers).1
        timers := (m.outbox.disconnect m.timers).2 } id deadline := by
    intro a deadline ha hstate hdue
    have hdeadline : (m.outbox.disconnect m.timers).2.deadline? (.action id) =
        m.timers.deadline? (.action id) := by
      refine Timers.deadline?_foldl_cancel Key.action (fun other hother heq => ?_) m.timers
      obtain ⟨b, hb, rfl⟩ := List.mem_map.mp hother
      obtain ⟨hb, hflying⟩ := List.mem_filter.mp hb
      have hsame := hs.apart.unique ha ⟨Key.action.inj heq, mem_values_flatten.mp hb⟩
      exact hstate (hsame ▸ of_decide_eq_true hflying)
    unfold Moment.Due at hdue ⊢
    rwa [hdeadline]
  obtain ⟨p, hlife, hhas⟩ := h.lives id
  unfold Lawful
  rw [show history id (m.outbox.deeds m.timers .disconnect ++ log) = .cutOff :: history id log from
    history_cons rfl]
  cases p with
  | away =>
      refine ⟨.away, .idle hlife nofun, ?_⟩
      rintro a ⟨hid, c, ha⟩
      rw [hrecast c] at ha
      obtain ⟨b, hb, rfl⟩ := List.mem_map.mp ha
      refine hhas b ⟨?_, c, hb⟩
      split at hid <;> exact hid
  | ready acked n earliest =>
      obtain ⟨a, ha, hacked, hn, hstate⟩ := hhas
      have hlanded : a.state ≠ .inFlight := by
        rcases hstate with ⟨hstate, -⟩ | ⟨hstate, -⟩ <;> simp [hstate]
      have ha' := hqueues ha
      rw [if_neg hlanded] at ha'
      exact ⟨.ready acked n earliest, .idle hlife nofun, a, ha', hacked, hn,
        hstate.imp_right fun hwaits => ⟨hwaits.1, hdue ha hlanded hwaits.2⟩⟩
  | flying n since =>
      obtain ⟨a, ha, hacked, hn, hstate, -⟩ := hhas
      have ha' := hqueues ha
      rw [if_pos hstate] at ha'
      exact ⟨.ready true n 0, .cut hlife, _, ha', hacked, hn, .inl ⟨rfl, Nat.zero_le _⟩⟩

theorem queues_modify {o : Outbox} (hs : o.Sound) (id : String) {f : Action → Action}
    (hf : ∀ a, (f a).id = a.id) :
    (∀ {a}, o.Queues id a → (o.modify id f).Queues id (f a)) ∧
      ∀ {other b}, id ≠ other → ((o.modify id f).Queues other b ↔ o.Queues other b) := by
  have hrecast := modify_recast hs id f
  constructor
  · rintro a ⟨hid, c, ha⟩
    refine ⟨(hf a).trans hid, c, ?_⟩
    rw [hrecast c]
    exact List.mem_map.mpr ⟨a, ha, if_pos hid⟩
  · intro other b hother
    have hstays : ∀ {a : Action}, a.id = other → ¬ a.id = id := fun hid heq =>
      hother (heq.symm.trans hid)
    constructor
    · rintro ⟨hid, c, hb⟩
      rw [hrecast c] at hb
      obtain ⟨a, ha, rfl⟩ := List.mem_map.mp hb
      have hold : a.id = other := by
        split at hid
        · exact (hf a).symm.trans hid
        · exact hid
      rw [if_neg (hstays hold)]
      exact ⟨hold, c, ha⟩
    · rintro ⟨hid, c, hb⟩
      refine ⟨hid, c, ?_⟩
      rw [hrecast c]
      exact List.mem_map.mpr ⟨b, hb, if_neg (hstays hid)⟩

section Expire

variable {owed : List Key} {timers : Timers}

/-- An owed key of which the action does not wait is paid by doing nothing. -/
theorem Lawful.pay {other : String} (h : Lawful ackTimeout retry m log other)
    (howed : m.owed = .action id :: owed)
    (hidle : ∀ a, m.outbox.Queues id a → a.state = .pending) :
    Lawful ackTimeout retry { m with owed } log other := by
  by_cases hother : id = other
  · subst hother
    obtain ⟨p, hlife, hhas⟩ := h
    refine ⟨p, hlife, ?_⟩
    cases p with
    | away => exact hhas
    | ready acked n earliest =>
        obtain ⟨a, ha, hacked, hn, hstate⟩ := hhas
        refine ⟨a, ha, hacked, hn, hstate.imp_right fun hwaits => ?_⟩
        simp [hidle a ha] at hwaits
    | flying n since =>
        obtain ⟨a, ha, -, -, hstate, -⟩ := hhas
        simp [hidle a ha] at hstate
  · refine h.same ⟨fun _ => Iff.rfl, fun _ _ => rfl, ?_, Nat.le_refl _⟩ rfl
    simp [howed, Ne.symm hother]

/-- The wait of an action is over. -/
theorem Lawful.rest {other : String} (h : Lawful ackTimeout retry m log other)
    (hs : m.outbox.Sound) (howed : m.owed = .action id :: owed) (ha : m.outbox.Queues id a)
    (hstate : a.state = .waiting) :
    Lawful ackTimeout retry
      { m with outbox := m.outbox.modify id (fun a => { a with state := .pending }), owed } log
      other := by
  obtain ⟨hself, hothers⟩ := queues_modify hs id
    (f := fun a => { a with state := .pending }) fun _ => rfl
  by_cases hother : id = other
  · subst hother
    obtain ⟨earliest, hlife, ⟨hpending, -⟩ | ⟨-, hdue⟩⟩ | ⟨_, _, _, hflying, _⟩ :=
      h.of_queues hs.apart ha
    · simp [hstate] at hpending
    · unfold Moment.Due at hdue
      rw [howed, if_pos List.mem_cons_self] at hdue
      exact ⟨_, hlife, _, hself ha, rfl, rfl, .inl ⟨rfl, hdue⟩⟩
    · simp [hstate] at hflying
  · refine h.same ⟨fun b => hothers hother, fun _ _ => rfl, ?_, Nat.le_refl _⟩ rfl
    simp [howed, Ne.symm hother]

/-- An action that was in flight was not acknowledged in time. -/
theorem Lawful.overdue (h : Lawful ackTimeout retry m log id) (hs : m.outbox.Sound)
    (howed : m.owed = .action id :: owed) (ha : m.outbox.Queues id a)
    (hstate : a.state = .inFlight) :
    ∃ since, Life ackTimeout retry id (history id log) (.flying a.retries since) ∧
      a.kind.requiresAck = true ∧ since + ackTimeout ≤ m.now := by
  obtain ⟨_, _, ⟨hpending, -⟩ | ⟨hwaiting, -⟩⟩ | ⟨since, hlife, hacked, -, hdue⟩ :=
    h.of_queues hs.apart ha
  · simp [hstate] at hpending
  · simp [hstate] at hwaiting
  · unfold Moment.Due at hdue
    rw [howed, if_pos List.mem_cons_self] at hdue
    exact ⟨since, hlife, hacked, hdue⟩

/-- It waits before it is sent again. -/
theorem Lawful.wait {other : String} (h : Lawful ackTimeout retry m log other)
    (hs : m.outbox.Sound) (howed : m.owed = .action id :: owed) (hid : .action id ∉ owed)
    (ha : m.outbox.Queues id a) (hstate : a.state = .inFlight)
    (hretry : retry.exhausted (a.retries + 1) = false) :
    Lawful ackTimeout retry
      ⟨m.outbox.modify id (fun b => { b with retries := a.retries + 1, state := .waiting }),
        m.timers.schedule (.action id) (m.now + retry.delay a.retries), owed, m.now⟩
      (.overdue id m.now :: log) other := by
  obtain ⟨hself, hothers⟩ := queues_modify hs id
    (f := fun b => { b with retries := a.retries + 1, state := .waiting }) fun _ => rfl
  by_cases hother : id = other
  · subst hother
    obtain ⟨since, hlife, hacked, hnow⟩ := h.overdue hs howed ha hstate
    refine ⟨.ready true (a.retries + 1) (m.now + retry.delay a.retries), ?_, _, hself ha, hacked,
      rfl, .inr ⟨rfl, ?_⟩⟩
    · rw [history_cons (by simp [Deed.concerns])]
      exact .wait hlife hnow hretry
    · unfold Moment.Due
      rw [if_neg hid]
      exact (Timers.deadline?_schedule _ _ _ _).trans (if_pos rfl)
  · refine h.same ⟨fun b => hothers hother, fun _ _ => ?_, ?_, Nat.le_refl _⟩
      (history_skip (by simp [Deed.concerns, hother]))
    · exact (Timers.deadline?_schedule _ _ _ _).trans
        (if_neg fun heq => hother (Key.action.inj heq))
    · simp [howed, Ne.symm hother]

/-- It has failed. -/
theorem Lawful.fail {other : String} (h : Lawful ackTimeout retry m log other)
    (hs : m.outbox.Sound) (howed : m.owed = .action id :: owed) (ha : m.outbox.Queues id a)
    (hstate : a.state = .inFlight) (hretry : retry.exhausted (a.retries + 1) = true) {o : Outbox}
    (hleft : Without m.outbox a o) (outcome : Action.Outcome) :
    Lawful ackTimeout retry { m with outbox := o.settle a outcome, owed }
      (.settled id (.failed (a.retries + 1)) :: .overdue id m.now :: log) other := by
  have hqueues : ∀ b, (o.settle a outcome).Queues other b ↔
      m.outbox.Queues other b ∧ b.id ≠ id := by
    intro b
    rw [queues_of_queue (settle_queue o a outcome)]
    simp only [Queues, hleft _ b, ha.1, exists_and_right, and_assoc]
  by_cases hother : id = other
  · subst hother
    obtain ⟨since, hlife, -, hnow⟩ := h.overdue hs howed ha hstate
    refine ⟨.away, ?_, fun b hb => ((hqueues b).mp hb).2 hb.1⟩
    rw [history_cons (by simp [Deed.concerns]), history_cons (by simp [Deed.concerns])]
    exact .fail hlife hnow hretry
  · have hskip : history other (.settled id (.failed (a.retries + 1)) :: .overdue id m.now :: log) =
        history other log := by
      rw [history_skip (by simp [Deed.concerns, hother]),
        history_skip (by simp [Deed.concerns, hother])]
    refine h.same ⟨fun b => (hqueues b).trans (and_iff_left_of_imp ?_), fun _ _ => rfl, ?_,
      Nat.le_refl _⟩ hskip
    · exact fun hb heq => hother (heq.symm.trans hb.1)
    · simp [howed, Ne.symm hother]

/-- **When a deadline has passed**, what was in flight waits or has failed, and what waited may be
sent. -/
theorem Watched.expire (h : Watched ackTimeout retry m log) (hs : m.outbox.Sound)
    (howed : m.owed = .action id :: owed) (hid : .action id ∉ owed) :
    Watched ackTimeout retry
      ⟨(m.outbox.expire m.timers id m.now).1, (m.outbox.expire m.timers id m.now).2, owed, m.now⟩
      (m.outbox.deeds m.timers (.expire id m.now) ++ log) := by
  refine h.perform hs (.expire id m.now) rfl fun other => ?_
  have hlawful := h.lives other
  have hsame : ∀ o : Outbox, o.settled = m.outbox.settled → m.outbox.settledSince o = [] := by
    intro o ho
    rw [settledSince, ho, List.drop_length]
    rfl
  have hsettled : ∀ f, (m.outbox.modify id f).settled = m.outbox.settled := fun f => by
    unfold modify
    split <;> rfl
  cases hget : m.outbox.get? id with
  | none =>
      have hnone : ∀ a, m.outbox.Queues id a → a.state = .pending := fun a ha => by
        rw [hs.get?_eq_some_iff.mpr ha] at hget
        cases hget
      simp only [Outbox.expire, deeds, hget, hsame]
      exact hlawful.pay howed hnone
  | some a =>
      have ha : m.outbox.Queues id a := hs.get?_eq_some_iff.mp hget
      cases hstate : a.state with
      | pending =>
          have hpending : ∀ b, m.outbox.Queues id b → b.state = .pending := fun b hb =>
            hs.apart.unique ha hb ▸ hstate
          have hcalm : (m.outbox.get? id).any (·.state = .inFlight) = false := by
            simp [hget, hstate]
          simp only [deeds, hcalm]
          simp only [Outbox.expire, hget, hstate, hsame]
          exact hlawful.pay howed hpending
      | waiting =>
          have hcalm : (m.outbox.get? id).any (·.state = .inFlight) = false := by
            simp [hget, hstate]
          simp only [deeds, hcalm]
          simp only [Outbox.expire, hget, hstate, hsame _ (hsettled _)]
          exact hlawful.rest hs howed ha hstate
      | inFlight =>
          have hflying : (m.outbox.get? id).any (·.state = .inFlight) = true := by
            simp [hget, hstate]
          simp only [deeds, hflying, if_true]
          simp only [Outbox.expire, hget, hstate]
          cases hretry : m.outbox.retry.exhausted (a.retries + 1) with
          | true =>
              obtain ⟨o, htake⟩ := exists_take? hget
              have hfailed : m.outbox.settledSince (o.settle a (.failed (a.retries + 1))) =
                  [.settled id (.failed (a.retries + 1))] := by
                rw [settledSince, settle_settled, take?_settled htake, List.drop_left, ← ha.1]
                rfl
              simp only [if_true, htake, hfailed]
              exact hlawful.fail hs howed ha hstate (h.policy.2 ▸ hretry)
                (take?_without hs htake).2 _
          | false =>
              simp only [Bool.false_eq_true, if_false, hsame _ (hsettled _), h.policy.2,
                Nat.add_sub_cancel]
              exact hlawful.wait hs howed hid ha hstate (h.policy.2 ▸ hretry)

end Expire

/-! ## 3. Sending -/

section Flush

variable {σ : Type} {send : σ → Outgoing → Except SendFault Unit × σ}

/-- The head of one queue changes, and its id stays or goes. -/
structure Heads (o : Outbox) (c : String) (a : Action) (rest q : List Action) (o' : Outbox) :
    Prop where
  before : o.queue c = a :: rest
  after : ∀ d, o'.queue d = if c = d then q else o.queue d
  others : ∀ b : Action, b.id ≠ a.id → (b ∈ q ↔ b ∈ rest)
  ids : (q.map (·.id)).Sublist ((a :: rest).map (·.id))
  pending : ∀ b ∈ q, b.state = .pending → b ∈ rest

namespace Heads

variable {o o' : Outbox} {c : String} {rest q : List Action}

theorem queues (h : Heads o c a rest q o') {b : Action} (hid : a.id ≠ id) :
    o'.Queues id b ↔ o.Queues id b := by
  refine and_congr_right fun hb => exists_congr fun d => ?_
  have hne : b.id ≠ a.id := fun heq => hid (heq.symm.trans hb)
  rw [h.after]
  split
  · rename_i hd
    have hother : b ≠ a := fun heq => hne (heq ▸ rfl)
    rw [← hd, h.before, h.others b hne, List.mem_cons, or_iff_right hother]
  · rfl

/-- No other ids than before are queued. -/
theorem exists_queued (h : Heads o c a rest q o') {d : String} {b : Action} (hb : b ∈ o'.queue d) :
    ∃ b' ∈ o.queue d, b'.id = b.id := by
  rw [h.after] at hb
  split at hb
  · rename_i hd
    rw [← hd, h.before]
    exact List.mem_map.mp (h.ids.subset (List.mem_map_of_mem hb))
  · exact ⟨b, hb, rfl⟩

theorem apart (h : Heads o c a rest q o') (ho : o.Apart) : o'.Apart := by
  constructor
  · intro d
    rw [h.after]
    split
    · exact (h.before ▸ ho.within c).sublist h.ids
    · exact ho.within d
  · intro d d' b b' hb hb' hid
    obtain ⟨x, hx, hxid⟩ := h.exists_queued hb
    obtain ⟨x', hx', hxid'⟩ := h.exists_queued hb'
    exact ho.across hx hx' (hxid.trans (hid.trans hxid'.symm))

theorem steady (h : Heads o c a rest q o') {owed : List Key} (ho : o.Steady owed) :
    o'.Steady owed := by
  intro d b hb howed hstate
  rw [h.after] at hb
  split at hb
  · rename_i hd
    refine ho d b ?_ howed hstate
    rw [← hd, h.before]
    exact List.mem_cons_of_mem a (h.pending b hb hstate)
  · exact ho d b hb howed hstate

/-- A head that leaves is queued no more. -/
theorem gone (h : Heads o c a rest rest o') (ho : o.Apart) (b : Action) : ¬ o'.Queues a.id b := by
  rintro ⟨hid, d, hb⟩
  have hhead : a ∈ o.queue c := h.before ▸ List.mem_cons_self
  rw [h.after] at hb
  split at hb
  · have hdistinct := ho.within c
    rw [h.before] at hdistinct
    exact (List.nodup_cons.mp hdistinct).1 (List.mem_map.mpr ⟨b, hb, hid⟩)
  · rename_i hd
    exact hd (ho.across hhead hb hid.symm)

end Heads

theorem sentAt_cons (now : Instant) (a : Action) (frames : List Outgoing) :
    sentAt now (a.frame :: frames) = .sent a.id now :: sentAt now frames := by
  simp [sentAt, a.frame_actionId]

/-- The actions in the middle of a flush. -/
structure Paced (ackTimeout : Duration) (retry : Backoff) (m : Moment) (log : List Deed)
    (chats : OrderedMap String (List Action)) (f : Flush (σ × List Outgoing)) : Prop where
  apart : (m.outbox.withChats chats).Apart
  steady : (m.outbox.withChats chats).Steady m.owed
  gone : ∀ a ∈ f.done, ∀ b, ¬ (m.outbox.withChats chats).Queues a.id b
  lives : ∀ id, Lawful ackTimeout retry ⟨m.outbox.withChats chats, f.timers, m.owed, m.now⟩
    (sentAt m.now f.sink.2 ++ log) id

namespace Paced

variable {chats : OrderedMap String (List Action)} {f : Flush (σ × List Outgoing)} {c : String}
  {rest : List Action} {sink : σ × List Outgoing}

/-- The head of a queue is sent and has to be acknowledged. -/
theorem fly (h : Paced ackTimeout retry m log chats f) (hc : chats.get? c = some (a :: rest))
    (ha : a.state = .pending) (hk : a.kind.requiresAck = true)
    (hsink : sink.2 = a.frame :: f.sink.2) :
    Paced ackTimeout retry m log (chats.insert c ({ a with state := .inFlight } :: rest))
      { f with
        sink, written := f.written + 1
        timers := f.timers.schedule (.action a.id) (m.now + ackTimeout) } := by
  have hheads : Heads (m.outbox.withChats chats) c a rest ({ a with state := .inFlight } :: rest)
      (m.outbox.withChats (chats.insert c ({ a with state := .inFlight } :: rest))) :=
    ⟨by simp [Outbox.queue, withChats, hc], (queue_insert (m.outbox.withChats chats) c · _),
      fun b hb => List.mem_cons.trans (or_iff_right fun heq => hb (heq ▸ rfl)), List.Sublist.refl _,
      fun b hb hstate => (List.mem_cons.mp hb).resolve_left fun heq => by simp [heq] at hstate⟩
  have hhead : a ∈ (m.outbox.withChats chats).queue c := hheads.before ▸ List.mem_cons_self
  have hfree : .action a.id ∉ m.owed := fun howed => by
    have hnone := h.steady c a hhead howed ha
    rw [hk] at hnone
    cases hnone
  refine ⟨hheads.apart h.apart, hheads.steady h.steady, fun x hx b hb => ?_, fun id => ?_⟩
  · obtain ⟨hid, d, hb⟩ := hb
    obtain ⟨b', hb', hid'⟩ := hheads.exists_queued hb
    exact h.gone x hx b' ⟨hid'.trans hid, d, hb'⟩
  · have hlawful := h.lives id
    dsimp only
    rw [hsink, sentAt_cons]
    by_cases hid : a.id = id
    · subst hid
      obtain ⟨earliest, hlife, ⟨-, hnow⟩ | ⟨hwaiting, -⟩⟩ | ⟨_, _, _, hflying, _⟩ :=
        hlawful.of_queues h.apart ⟨rfl, c, hhead⟩
      · refine ⟨.flying a.retries m.now, ?_, { a with state := .inFlight }, ⟨rfl, c, ?_⟩, hk, rfl,
          rfl, ?_⟩
        · rw [List.cons_append, history_cons (by simp [Deed.concerns])]
          rw [hk] at hlife
          exact .fly hlife hnow
        · dsimp only
          rw [hheads.after, if_pos rfl]
          exact List.mem_cons_self
        · unfold Moment.Due
          rw [if_neg hfree]
          exact (Timers.deadline?_schedule _ _ _ _).trans (if_pos rfl)
      · simp [ha] at hwaiting
      · simp [ha] at hflying
    · refine hlawful.same ⟨fun b => hheads.queues hid, fun _ _ => ?_, Iff.rfl, Nat.le_refl _⟩
        (history_skip (by simp [Deed.concerns, hid]))
      exact (Timers.deadline?_schedule _ _ _ _).trans (if_neg fun heq => hid (Key.action.inj heq))

/-- The head of a queue is sent and done with. -/
theorem land (h : Paced ackTimeout retry m log chats f) (hc : chats.get? c = some (a :: rest))
    (ha : a.state = .pending) (hk : a.kind.requiresAck = false)
    (hsink : sink.2 = a.frame :: f.sink.2) :
    Paced ackTimeout retry m log (chats.insert c rest)
      { f with sink, written := f.written + 1, done := f.done ++ [a] } := by
  have hheads : Heads (m.outbox.withChats chats) c a rest rest
      (m.outbox.withChats (chats.insert c rest)) :=
    ⟨by simp [Outbox.queue, withChats, hc], (queue_insert (m.outbox.withChats chats) c · _),
      fun _ _ => Iff.rfl, List.sublist_cons_self _ _, fun b hb _ => hb⟩
  have hhead : a ∈ (m.outbox.withChats chats).queue c := hheads.before ▸ List.mem_cons_self
  have hgone := hheads.gone h.apart
  refine ⟨hheads.apart h.apart, hheads.steady h.steady, fun x hx b hb => ?_, fun id => ?_⟩
  · obtain hx | hx := List.mem_append.mp hx
    · obtain ⟨hid, d, hb⟩ := hb
      obtain ⟨b', hb', hid'⟩ := hheads.exists_queued hb
      exact h.gone x hx b' ⟨hid'.trans hid, d, hb'⟩
    · exact hgone b (List.mem_singleton.mp hx ▸ hb)
  · have hlawful := h.lives id
    dsimp only
    rw [hsink, sentAt_cons]
    by_cases hid : a.id = id
    · subst hid
      obtain ⟨earliest, hlife, -⟩ | ⟨_, _, _, hflying, _⟩ :=
        hlawful.of_queues h.apart ⟨rfl, c, hhead⟩
      · refine ⟨.away, ?_, hgone⟩
        rw [List.cons_append, history_cons (by simp [Deed.concerns])]
        rw [hk] at hlife
        exact .land m.now hlife
      · simp [ha] at hflying
    · exact hlawful.same ⟨fun b => hheads.queues hid, fun _ _ => rfl, Iff.rfl, Nat.le_refl _⟩
        (history_skip (by simp [Deed.concerns, hid]))

variable (send) in
theorem walk (f : Flush (σ × List Outgoing)) (hf : Paced ackTimeout retry m log m.outbox.chats f) :
    Paced ackTimeout retry m log
      (m.outbox.chats.walk
        (fun f _ queue => flushQueue (recorded send) (m.now + ackTimeout) f queue) f).1
      (m.outbox.chats.walk
        (fun f _ queue => flushQueue (recorded send) (m.now + ackTimeout) f queue) f).2 := by
  refine walk_flush_rule ?_ ?_ ?_ m.outbox.chats f hf
  · intro chats f c a rest sink fault _ hsend h
    refine ⟨h.apart, h.steady, h.gone, ?_⟩
    dsimp only
    rw [frames_of_recorded hsend]
    exact h.lives
  · intro chats f c a rest sink hc ha hk hsend h
    exact h.fly hc ha hk (frames_of_recorded hsend)
  · intro chats f c a rest sink hc ha hk hsend h
    exact h.land hc ha hk (frames_of_recorded hsend)

end Paced

variable (send) in
/-- **Whatever is sent** may be sent by then, and is in flight from then on or done with. -/
theorem Watched.flush (h : Watched ackTimeout retry m log) (hs : m.outbox.Sound)
    (hsteady : m.outbox.Steady m.owed) (sink : σ) :
    Watched ackTimeout retry
      { m with
        outbox := (m.outbox.flush send sink m.now m.timers).2.1
        timers := (m.outbox.flush send sink m.now m.timers).2.2.2 }
      (m.outbox.deeds m.timers (.flush send sink m.now) ++ log) := by
  refine h.perform hs (.flush send sink m.now) rfl fun id => ?_
  obtain ⟨rfl, -⟩ := h.policy
  let w := m.outbox.chats.walk
    (fun f _ queue => flushQueue (recorded send) (m.now + m.outbox.ackTimeout) f queue)
    ⟨(sink, []), m.timers, 0, [], false⟩
  have hw : Paced m.outbox.ackTimeout retry m log w.1 w.2 := Paced.walk send _
    ⟨hs.apart, hsteady, fun _ hx => absurd hx List.not_mem_nil, h.lives⟩
  -- afterwards empty queues go, and what is done with is settled
  let kept := w.1.filter fun _ queue => !queue.isEmpty
  have houtbox : (m.outbox.flush send sink m.now m.timers).2.1 =
      (settleAll (.delivered none false) m.outbox w.2.done).withChats kept := by
    rw [flush_recorded]
    rfl
  have htimers : (m.outbox.flush send sink m.now m.timers).2.2.2 = w.2.timers := by
    rw [flush_recorded]
    rfl
  have hqueue : ∀ c, (m.outbox.flush send sink m.now m.timers).2.1.queue c =
      (m.outbox.withChats w.1).queue c := by
    rw [houtbox]
    exact queue_filter m.outbox w.1
  have hshed : Shed (w.2.done.map (·.settlement (.delivered none false)))
      ⟨m.outbox.withChats w.1, w.2.timers, m.owed, m.now⟩
      ⟨(m.outbox.flush send sink m.now m.timers).2.1,
        (m.outbox.flush send sink m.now m.timers).2.2.2, m.owed, m.now⟩ := by
    refine ⟨?_, fun s hmem n => ?_, fun s hmem b hb => ?_, fun _ _ => ?_⟩
    · rw [houtbox]
      exact settleAll_settled _ _ _
    · obtain ⟨x, -, rfl⟩ := List.mem_map.mp hmem
      exact nofun
    · obtain ⟨x, hx, rfl⟩ := List.mem_map.mp hmem
      exact hw.gone x hx b ((queues_of_queue hqueue).mp hb)
    · exact ⟨fun _ => queues_of_queue hqueue, fun _ _ => by rw [htimers], Iff.rfl, Nat.le_refl _⟩
  have hdone := (hw.lives id).shed hshed
  rw [← List.append_assoc] at hdone
  exact hdone

end Flush

end RealtimeChat.Outbox
