import RealtimeChat.Proofs.Outbox.Chronicle
import RealtimeChat.Proofs.Outbox.Deadlines
/-!
# Where the history of an action leads

Operations on an outbox happen at instants, none earlier than the one before. At each moment an
action is where its history leads: if it may be sent from some instant on, then that instant has
come, or the action waits and the instant is its deadline; if it was sent and has to be
acknowledged, then it is in flight, and its deadline is the end of the time for that. Deadlines that
have passed are owed.

* `Moment` -- an outbox with its deadlines at an instant, `Moment.Has` -- where an action is;
* **`Watched`** -- all actions are where their histories lead;
* `Same` -- moments that do not differ in one action;
* `Shed`, **`Lawful.shed`** -- moments that differ by actions that were settled.
-/

namespace RealtimeChat.Outbox

open Timer (Key)
open Timers (SameBut PaidBut)

/-! ## 1. Moments -/

/-- An outbox at some instant, with the timers and the keys that are owed. -/
structure Moment where
  outbox : Outbox
  timers : Timers
  owed : List Key
  now : Instant

/-- The action of this id is queued. -/
def Queues (o : Outbox) (id : String) (a : Action) : Prop := a.id = id ∧ ∃ c, a ∈ o.queue c

namespace Moment

/-- The action of this id has the deadline, which is armed or has passed. -/
def Due (m : Moment) (id : String) (deadline : Instant) : Prop :=
  if .action id ∈ m.owed then deadline ≤ m.now
  else m.timers.deadline? (.action id) = some deadline

/-- The action of this id is so far. -/
def Has (ackTimeout : Duration) (m : Moment) (id : String) : Progress → Prop
  | .away => ∀ a, ¬ m.outbox.Queues id a
  | .ready acked n earliest => ∃ a, m.outbox.Queues id a ∧ a.kind.requiresAck = acked ∧
      a.retries = n ∧ (a.state = .pending ∧ earliest ≤ m.now ∨
        a.state = .waiting ∧ m.Due id earliest)
  | .flying n since => ∃ a, m.outbox.Queues id a ∧ a.kind.requiresAck = true ∧ a.retries = n ∧
      a.state = .inFlight ∧ m.Due id (since + ackTimeout)

end Moment

/-- The moments do not differ in the action of this id, but the later one may be later. -/
structure Same (id : String) (m m' : Moment) : Prop where
  queues : ∀ a, m'.outbox.Queues id a ↔ m.outbox.Queues id a
  deadline : ∀ a, m.outbox.Queues id a →
    m'.timers.deadline? (.action id) = m.timers.deadline? (.action id)
  owed : .action id ∈ m'.owed ↔ .action id ∈ m.owed
  now : m.now ≤ m'.now

theorem Moment.Due.same {m m' : Moment} {id : String} {deadline : Instant} (h : m.Due id deadline)
    (hsame : Same id m m') {a : Action} (ha : m.outbox.Queues id a) : m'.Due id deadline := by
  unfold Moment.Due at *
  by_cases howed : .action id ∈ m.owed
  · rw [if_pos howed] at h
    rw [if_pos (hsame.owed.mpr howed)]
    exact Nat.le_trans h hsame.now
  · rw [if_neg howed] at h
    rw [if_neg (hsame.owed.not.mpr howed), hsame.deadline a ha]
    exact h

theorem Moment.Has.same {ackTimeout : Duration} {m m' : Moment} {id : String} {p : Progress}
    (h : m.Has ackTimeout id p) (hsame : Same id m m') : m'.Has ackTimeout id p := by
  cases p with
  | away => exact fun a ha => h a ((hsame.queues a).mp ha)
  | ready acked n earliest =>
      obtain ⟨a, ha, hacked, hn, hstate⟩ := h
      refine ⟨a, (hsame.queues a).mpr ha, hacked, hn, hstate.imp ?_ ?_⟩
      · exact fun ⟨hpending, hnow⟩ => ⟨hpending, Nat.le_trans hnow hsame.now⟩
      · exact fun ⟨hwaiting, hdue⟩ => ⟨hwaiting, hdue.same hsame ha⟩
  | flying n since =>
      obtain ⟨a, ha, hacked, hn, hstate, hdue⟩ := h
      exact ⟨a, (hsame.queues a).mpr ha, hacked, hn, hstate, hdue.same hsame ha⟩

/-- The history of the action leads to where it is. -/
def Lawful (ackTimeout : Duration) (retry : Backoff) (m : Moment) (log : List Deed)
    (id : String) : Prop :=
  ∃ p, Life ackTimeout retry id (history id log) p ∧ m.Has ackTimeout id p

/-- All actions are where their histories lead, and the rules are those of the outbox. -/
structure Watched (ackTimeout : Duration) (retry : Backoff) (m : Moment) (log : List Deed) :
    Prop where
  policy : m.outbox.ackTimeout = ackTimeout ∧ m.outbox.retry = retry
  lives : ∀ id, Lawful ackTimeout retry m log id

variable {ackTimeout : Duration} {retry : Backoff} {m m' : Moment} {log log' : List Deed}
  {id : String} {a : Action}

theorem Lawful.same (h : Lawful ackTimeout retry m log id) (hsame : Same id m m')
    (hlog : history id log' = history id log) : Lawful ackTimeout retry m' log' id := by
  obtain ⟨p, hlife, hhas⟩ := h
  exact ⟨p, hlog ▸ hlife, hhas.same hsame⟩

theorem history_cons {d : Deed} (h : d.concerns id = true) :
    history id (d :: log) = d :: history id log := List.filter_cons_of_pos h

/-- What concerns others only plays no part. -/
theorem history_skip {d : Deed} (h : d.concerns id = false) :
    history id (d :: log) = history id log := List.filter_cons_of_neg (by simp [h])

/-- Time passes. -/
theorem Watched.later (h : Watched ackTimeout retry m log) {now : Instant} (hnow : m.now ≤ now) :
    Watched ackTimeout retry { m with now } log :=
  ⟨h.policy, fun id =>
    (h.lives id).same ⟨fun _ => Iff.rfl, fun _ _ => rfl, Iff.rfl, hnow⟩ rfl⟩

/-- The keys of another part of a client play no part. -/
theorem Watched.frame (h : Watched ackTimeout retry m log) {owner : Timer.Owner} {timers : Timers}
    {owed : List Key} (hsame : SameBut owner m.timers timers) (hpaid : PaidBut owner m.owed owed)
    (howner : owner ≠ .outbox) : Watched ackTimeout retry { m with timers, owed } log :=
  ⟨h.policy, fun id => (h.lives id).same
    ⟨fun _ => Iff.rfl, fun _ _ => hsame (.action id) howner.symm, hpaid (.action id) howner.symm,
      Nat.le_refl _⟩ rfl⟩

/-- Keys that have passed are taken out of the timers and owed. -/
theorem Watched.drain (h : Watched ackTimeout retry m log) (howed : m.owed = []) :
    Watched ackTimeout retry
      { m with timers := (m.timers.drain m.now).2, owed := m.timers.due m.now } log := by
  have due : ∀ {id : String} {deadline : Instant}, m.Due id deadline → Moment.Due
      { m with timers := (m.timers.drain m.now).2, owed := m.timers.due m.now } id deadline := by
    intro id deadline hdue
    unfold Moment.Due at hdue ⊢
    rw [howed, if_neg List.not_mem_nil] at hdue
    split
    · rename_i hpassed
      obtain ⟨_, hd, hnow⟩ := Timers.mem_due.mp hpassed
      rw [hdue] at hd
      exact Option.some.inj hd ▸ hnow
    · rename_i hahead
      rw [Timers.deadline?_drain, if_neg hahead]
      exact hdue
  refine ⟨h.policy, fun id => ?_⟩
  obtain ⟨p, hlife, hhas⟩ := h.lives id
  refine ⟨p, hlife, ?_⟩
  cases p with
  | away => exact hhas
  | ready acked n earliest =>
      obtain ⟨a, ha, hacked, hn, hstate⟩ := hhas
      exact ⟨a, ha, hacked, hn, hstate.imp_right fun h => ⟨h.1, due h.2⟩⟩
  | flying n since =>
      obtain ⟨a, ha, hacked, hn, hstate, hdue⟩ := hhas
      exact ⟨a, ha, hacked, hn, hstate, due hdue⟩

/-! ## 2. One action -/

/-- No two queued actions have the same id. -/
structure Apart (o : Outbox) : Prop where
  within : ∀ c, ((o.queue c).map (·.id)).Nodup
  across : ∀ {c d a b}, a ∈ o.queue c → b ∈ o.queue d → a.id = b.id → c = d

theorem Sound.apart {o : Outbox} (hs : o.Sound) : o.Apart where
  within c := by
    have hline := hs.distinct c
    rwa [line, List.map_map] at hline
  across ha hb hid := (hs.unique ha hb hid).1

theorem Apart.unique {o : Outbox} (h : o.Apart) {a b : Action} (ha : o.Queues id a)
    (hb : o.Queues id b) : a = b := by
  obtain ⟨hida, c, ha⟩ := ha
  obtain ⟨hidb, d, hb⟩ := hb
  obtain rfl := h.across ha hb (hida.trans hidb.symm)
  exact List.inj_on_of_nodup_map (h.within c) ha hb (hida.trans hidb.symm)

theorem queues_of_queue {o o' : Outbox} (hq : ∀ c, o'.queue c = o.queue c) :
    o'.Queues id a ↔ o.Queues id a := by simp only [Queues, hq]

/-- Where an action is whose own state is known. -/
theorem Lawful.of_queues (h : Lawful ackTimeout retry m log id) (hapart : m.outbox.Apart)
    (ha : m.outbox.Queues id a) :
    (∃ earliest, Life ackTimeout retry id (history id log)
        (.ready a.kind.requiresAck a.retries earliest) ∧
      (a.state = .pending ∧ earliest ≤ m.now ∨ a.state = .waiting ∧ m.Due id earliest)) ∨
    ∃ since, Life ackTimeout retry id (history id log) (.flying a.retries since) ∧
      a.kind.requiresAck = true ∧ a.state = .inFlight ∧ m.Due id (since + ackTimeout) := by
  obtain ⟨p, hlife, hhas⟩ := h
  cases p with
  | away => exact absurd ha (hhas a)
  | ready acked n earliest =>
      obtain ⟨b, hb, rfl, rfl, hstate⟩ := hhas
      obtain rfl := hapart.unique ha hb
      exact .inl ⟨earliest, hlife, hstate⟩
  | flying n since =>
      obtain ⟨b, hb, hacked, rfl, hstate⟩ := hhas
      obtain rfl := hapart.unique ha hb
      exact .inr ⟨since, hlife, hacked, hstate⟩

/-- An action that is not queued is away. -/
theorem Lawful.of_none (h : Lawful ackTimeout retry m log id)
    (hnone : ∀ a, ¬ m.outbox.Queues id a) : Life ackTimeout retry id (history id log) .away := by
  obtain ⟨p, hlife, hhas⟩ := h
  cases p with
  | away => exact hlife
  | ready acked n earliest => exact absurd hhas.choose_spec.1 (hnone _)
  | flying n since => exact absurd hhas.choose_spec.1 (hnone _)

/-! ## 3. What is settled -/

/-- The moments differ by actions that were settled and are not queued, none of them since it was
not acknowledged too often. -/
structure Shed (l : List Settlement) (m m' : Moment) : Prop where
  settled : m'.outbox.settled = m.outbox.settled ++ l
  plain : ∀ s ∈ l, ∀ n, s.outcome ≠ .failed n
  gone : ∀ s ∈ l, ∀ a, ¬ m'.outbox.Queues s.actionId a
  kept : ∀ id, (∀ s ∈ l, s.actionId ≠ id) → Same id m m'

/-- Settling ends a life, whether the action was queued or not. -/
theorem Life.settled {p : Progress} (h : Life ackTimeout retry id (history id log) p)
    {l : List Settlement} (hplain : ∀ s ∈ l, ∀ n, s.outcome ≠ .failed n) :
    ∃ q, Life ackTimeout retry id (history id (deedsOf l ++ log)) q ∧
      (q = p ∧ (∀ s ∈ l, s.actionId ≠ id) ∨ q = .away ∧ ∃ s ∈ l, s.actionId = id) := by
  induction l generalizing log p with
  | nil => exact ⟨p, h, .inl ⟨rfl, fun s hs => absurd hs List.not_mem_nil⟩⟩
  | cons s rest ih =>
      obtain ⟨hfirst, hrest⟩ := List.forall_mem_cons.mp hplain
      have hcons : deedsOf (s :: rest) ++ log =
          deedsOf rest ++ .settled s.actionId s.outcome :: log := by
        simp [deedsOf]
      rw [hcons]
      by_cases hid : s.actionId = id
      · have hended : Life ackTimeout retry id
            (history id (.settled s.actionId s.outcome :: log)) .away := by
          rw [history_cons (by simp [Deed.concerns, hid]), hid]
          exact .settle h hfirst
        obtain ⟨q, hq, hcases⟩ := ih hended hrest
        refine ⟨q, hq, .inr ⟨?_, s, List.mem_cons_self, hid⟩⟩
        exact hcases.elim And.left And.left
      · have hother : history id (.settled s.actionId s.outcome :: log) = history id log :=
          history_skip (by simp [Deed.concerns, hid])
        obtain ⟨q, hq, hcases⟩ := ih (hother ▸ h) hrest
        refine ⟨q, hq, hcases.imp ?_ ?_⟩
        · exact fun ⟨heq, hall⟩ => ⟨heq, List.forall_mem_cons.mpr ⟨hid, hall⟩⟩
        · exact fun ⟨heq, x, hx, hxid⟩ => ⟨heq, x, List.mem_cons_of_mem s hx, hxid⟩

theorem Lawful.shed (h : Lawful ackTimeout retry m log id) {l : List Settlement}
    (hshed : Shed l m m') :
    Lawful ackTimeout retry m' (m.outbox.settledSince m'.outbox ++ log) id := by
  obtain ⟨p, hlife, hhas⟩ := h
  have hdeeds : m.outbox.settledSince m'.outbox = deedsOf l := by
    rw [settledSince, hshed.settled, List.drop_left]
  obtain ⟨q, hq, ⟨rfl, hothers⟩ | ⟨rfl, s, hs, rfl⟩⟩ := hlife.settled hshed.plain
  · exact ⟨q, hdeeds ▸ hq, hhas.same (hshed.kept id hothers)⟩
  · exact ⟨.away, hdeeds ▸ hq, hshed.gone s hs⟩

namespace Shed

variable {l l' : List Settlement} {m'' : Moment}

/-- Nothing is settled, and the queues stay as they are. -/
theorem still {o o' : Outbox} (hq : ∀ c, o'.queue c = o.queue c) (hs : o'.settled = o.settled)
    (t : Timers) (owed : List Key) (now : Instant) :
    Shed [] ⟨o, t, owed, now⟩ ⟨o', t, owed, now⟩ where
  settled := hs.trans (List.append_nil _).symm
  plain _ h := absurd h List.not_mem_nil
  gone _ h := absurd h List.not_mem_nil
  kept _ _ := ⟨fun _ => queues_of_queue hq, fun _ _ => rfl, Iff.rfl, Nat.le_refl _⟩

theorem trans (h : Shed l m m') (h' : Shed l' m' m'') : Shed (l ++ l') m m'' where
  settled := by rw [h'.settled, h.settled, List.append_assoc]
  plain s hs := (List.mem_append.mp hs).elim (h.plain s) (h'.plain s)
  gone s hs a ha := by
    by_cases hlater : ∀ s' ∈ l', s'.actionId ≠ s.actionId
    · have hold := ((h'.kept s.actionId hlater).queues a).mp ha
      obtain hs | hs := List.mem_append.mp hs
      · exact h.gone s hs a hold
      · exact absurd rfl (hlater s hs)
    · simp only [not_forall, not_not] at hlater
      obtain ⟨s', hs', heq⟩ := hlater
      exact h'.gone s' hs' a (heq ▸ ha)
  kept id hothers := by
    have hfirst := h.kept id fun s hs => hothers s (List.mem_append_left _ hs)
    have hsecond := h'.kept id fun s hs => hothers s (List.mem_append_right _ hs)
    refine ⟨fun a => (hsecond.queues a).trans (hfirst.queues a), fun a ha => ?_,
      hsecond.owed.trans hfirst.owed, Nat.le_trans hfirst.now hsecond.now⟩
    exact (hsecond.deadline a ((hfirst.queues a).mpr ha)).trans (hfirst.deadline a ha)

variable {o o' : Outbox} {t t' : Timers} {owed : List Key} {now : Instant} {x : Action}
  {outcome : Action.Outcome}

/-- An action leaves its queue and is settled. -/
theorem leave (h : Without o x o') (hs : o'.settled = o.settled)
    (ht : ∀ id, x.id ≠ id → t'.deadline? (.action id) = t.deadline? (.action id))
    (hplain : ∀ n, outcome ≠ .failed n) : Shed [x.settlement outcome] ⟨o, t, owed, now⟩
      ⟨o'.settle x outcome, t', owed, now⟩ where
  settled := by
    dsimp only
    rw [settle_settled, hs]
  plain s hmem := List.mem_singleton.mp hmem ▸ hplain
  gone s hmem a := by
    obtain rfl := List.mem_singleton.mp hmem
    rintro ⟨hid, c, ha⟩
    rw [settle_queue] at ha
    exact ((h c a).mp ha).2 hid
  kept id hothers := by
    have hid : x.id ≠ id := hothers _ (List.mem_singleton_self _)
    refine ⟨fun a => ?_, fun _ _ => ht id hid, Iff.rfl, Nat.le_refl _⟩
    simp only [Queues, settle_queue, h _ a]
    exact ⟨fun ⟨heq, c, ha, _⟩ => ⟨heq, c, ha⟩,
      fun ⟨heq, c, ha⟩ => ⟨heq, c, ha, fun hx => hid (hx.symm.trans heq)⟩⟩

/-- An action that is not queued is settled. -/
theorem turnAway (hnone : ∀ b, ¬ o.Queues x.id b) (hplain : ∀ n, outcome ≠ .failed n) :
    Shed [x.settlement outcome] ⟨o, t, owed, now⟩ ⟨o.settle x outcome, t, owed, now⟩ where
  settled := settle_settled o x outcome
  plain s hmem := List.mem_singleton.mp hmem ▸ hplain
  gone s hmem a := by
    obtain rfl := List.mem_singleton.mp hmem
    exact fun ha => hnone a ((queues_of_queue (settle_queue o x outcome)).mp ha)
  kept id _ := ⟨fun _ => queues_of_queue (settle_queue o x outcome), fun _ _ => rfl, Iff.rfl,
    Nat.le_refl _⟩

end Shed

end RealtimeChat.Outbox
