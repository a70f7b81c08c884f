import RealtimeChat.Proofs.Outbox.Run
/-!
# What becomes of an action, and when

What an outbox does with an action takes time: the action is queued, sent, not acknowledged in time,
sent again, and settled at last. That is put down in a chronicle, with the instants that matter; the
newest entry stands in front. And it is said what the chronicle of one action may look like.

* `Deed` -- an entry of the chronicle, `deeds` -- what one operation adds to it;
* `chronicle`, `history` -- the chronicle of some operations, and what of it concerns one action;
* `Life` -- a history that keeps to the rules of sending again, and where it leads;
* **`Life.between`** -- what there is between two attempts;
* **`Life.failed`**, **`Life.overdue`** -- an action fails when it was overdue too often, and only
  then.
-/

namespace RealtimeChat.Outbox

/-! ## 1. The chronicle -/

/-- What becomes of actions. -/
inductive Deed where
  /-- The action is queued, and whether it has to be acknowledged. -/
  | queued (id : String) (acked : Bool)
  | sent (id : String) (now : Instant)
  /-- The action was in flight and was not acknowledged in time. -/
  | overdue (id : String) (now : Instant)
  /-- The session is not active any more. -/
  | cutOff
  | settled (id : String) (outcome : Action.Outcome)
deriving DecidableEq

/-- Whether the entry is about the action of this id. -/
def Deed.concerns (id : String) : Deed → Bool
  | .queued other _ => other = id
  | .sent other _ => other = id
  | .overdue other _ => other = id
  | .cutOff => true
  | .settled other _ => other = id

/-- Settlements, the last one in front. -/
def deedsOf (settlements : List Settlement) : List Deed :=
  (settlements.map fun s => .settled s.actionId s.outcome).reverse

/-- The settlements by which two outboxes differ. -/
def settledSince (o o' : Outbox) : List Deed := deedsOf (o'.settled.drop o.settled.length)

/-- Actions that were sent at one instant, by their frames. -/
def sentAt (now : Instant) (frames : List Outgoing) : List Deed :=
  frames.filterMap fun frame => frame.actionId?.map (.sent · now)

/-- What an operation does to actions, the last of it in front. -/
def deeds (o : Outbox) (timers : Timers) : Operation → List Deed
  | .enqueue a =>
    let (outcome, o', _) := o.enqueue timers a
    (if outcome = .queued then [.queued a.id a.kind.requiresAck] else []) ++ o.settledSince o'
  | .flush send sink now =>
    o.settledSince (o.flush send sink now timers).2.1 ++
      sentAt now (o.framesOf send sink now timers)
  | .acknowledge ack => o.settledSince (o.acknowledge timers ack).2.1
  | .expire id now =>
    o.settledSince (o.expire timers id now).1 ++
      (if (o.get? id).any (·.state = .inFlight) then [.overdue id now] else [])
  | .disconnect => [.cutOff]
  | .cancelAll => o.settledSince (o.cancelAll timers).1
  | .takeSettled => []

/-- What operations do to actions, one after the other. -/
def Run.chronicle : Run → List Operation → List Deed
  | _, [] => []
  | r, op :: rest => (r.perform op).chronicle rest ++ r.outbox.deeds r.timers op

/-- What of a chronicle concerns one action. -/
def history (id : String) (log : List Deed) : List Deed := log.filter (·.concerns id)

/-- The timers play no part. -/
theorem deeds_timeless (o : Outbox) (timers timers' : Timers) (op : Operation) :
    o.deeds timers' op = o.deeds timers op := by
  cases op with
  | enqueue a =>
      obtain ⟨houtcome, houtbox⟩ := o.enqueue_timeless timers timers' a
      simp only [deeds, houtcome, houtbox]
  | flush send sink now =>
      have houtbox := (@flush_timeless _ send o sink now timers timers').1
      have hframes : o.framesOf send sink now timers' = o.framesOf send sink now timers :=
        congrArg Prod.snd (@flush_timeless _ (recorded send) o (sink, []) now timers timers').2
      simp only [deeds, houtbox, hframes]
  | acknowledge ack => simp only [deeds, o.acknowledge_timeless timers timers' ack]
  | expire id now => simp only [deeds, o.expire_timeless timers timers' id now]
  | disconnect => rfl
  | cancelAll => rfl
  | takeSettled => rfl

/-- Runs that are alike do the same. -/
theorem Run.Alike.chronicle {r r' : Run} {base : List Mark} (h : r.Alike r' base)
    (ops : List Operation) : r.chronicle ops = r'.chronicle ops := by
  induction ops generalizing r r' with
  | nil => rfl
  | cons op rest ih =>
      have hfirst : r.outbox.deeds r.timers op = r'.outbox.deeds r'.timers op := by
        rw [h.outbox]
        exact deeds_timeless _ _ _ op
      rw [Run.chronicle, Run.chronicle, ih (h.perform op), hfirst]

theorem Run.chronicle_append (r : Run) (ops ops' : List Operation) :
    r.chronicle (ops ++ ops') = (r.performAll ops).chronicle ops' ++ r.chronicle ops := by
  induction ops generalizing r with
  | nil => exact (List.append_nil _).symm
  | cons op rest ih =>
      rw [List.cons_append, Run.chronicle, Run.chronicle, ih, List.append_assoc]
      rfl

/-! ## 2. The rules of sending again -/

/-- Where an action is. -/
inductive Progress where
  /-- It is not queued. -/
  | away
  /-- It may be sent from some instant on, after it was overdue so often. -/
  | ready (acked : Bool) (timeouts : Nat) (earliest : Instant)
  /-- It was sent at that instant and has to be acknowledged. -/
  | flying (timeouts : Nat) (since : Instant)

section Life

variable (ackTimeout : Duration) (retry : Backoff) (id : String)

/--
The history of an action that keeps to the rules, and where it leads. A lost connection makes an
action that is in flight ready again at once. One that is not acknowledged in time is ready again
after the delay, or fails if that happened too often. Nothing else makes an action ready again, and
an action that needs no acknowledgement is done with when it was sent.
-/
inductive Life : List Deed → Progress → Prop where
  | unborn : Life [] .away
  | queue {log : List Deed} (acked : Bool) (h : Life log .away) :
      Life (.queued id acked :: log) (.ready acked 0 0)
  | fly {log : List Deed} {n : Nat} {earliest now : Instant} (h : Life log (.ready true n earliest))
      (hnow : earliest ≤ now) : Life (.sent id now :: log) (.flying n now)
  | land {log : List Deed} {n : Nat} {earliest : Instant} (now : Instant)
      (h : Life log (.ready false n earliest)) : Life (.sent id now :: log) .away
  | cut {log : List Deed} {n : Nat} {since : Instant} (h : Life log (.flying n since)) :
      Life (.cutOff :: log) (.ready true n 0)
  | idle {log : List Deed} {p : Progress} (h : Life log p) (hp : ∀ n since, p ≠ .flying n since) :
      Life (.cutOff :: log) p
  | wait {log : List Deed} {n : Nat} {since now : Instant} (h : Life log (.flying n since))
      (hnow : since + ackTimeout ≤ now) (hn : retry.exhausted (n + 1) = false) :
      Life (.overdue id now :: log) (.ready true (n + 1) (now + retry.delay n))
  | fail {log : List Deed} {n : Nat} {since now : Instant} (h : Life log (.flying n since))
      (hnow : since + ackTimeout ≤ now) (hn : retry.exhausted (n + 1) = true) :
      Life (.settled id (.failed (n + 1)) :: .overdue id now :: log) .away
  | settle {log : List Deed} {p : Progress} {outcome : Action.Outcome} (h : Life log p)
      (ho : ∀ n, outcome ≠ .failed n) : Life (.settled id outcome :: log) .away

end Life

/-- How often an action was overdue since it was queued. -/
def timeouts : List Deed → Nat
  | [] => 0
  | .queued .. :: _ => 0
  | .overdue .. :: log => timeouts log + 1
  | _ :: log => timeouts log

/-- Whether the action has to be acknowledged, as it was queued last. -/
def acked? : List Deed → Option Bool
  | [] => none
  | .queued _ acked :: _ => some acked
  | _ :: log => acked? log

/-- How often an action was sent since it was queued. -/
def attempts : List Deed → Nat
  | [] => 0
  | .queued .. :: _ => 0
  | .sent .. :: log => attempts log + 1
  | _ :: log => attempts log

/-- How often an action may be overdue. -/
def attemptLimit (retry : Backoff) : Nat := max 1 retry.maxAttempts

theorem lt_attemptLimit {retry : Backoff} {n : Nat} (h : retry.exhausted (n + 1) = false) :
    n + 1 < attemptLimit retry := by
  simp only [Backoff.exhausted, decide_eq_false_iff_not] at h
  unfold attemptLimit
  omega

/-- An action that was not overdue too often so far is overdue too often now. -/
theorem eq_attemptLimit {retry : Backoff} {n : Nat} (hbefore : n < attemptLimit retry)
    (h : retry.exhausted (n + 1) = true) : n + 1 = attemptLimit retry := by
  simp only [Backoff.exhausted, decide_eq_true_eq] at h
  unfold attemptLimit at *
  omega

/-- The action was overdue as often as may be at the most, and if it was, it failed right after. -/
structure Concluded (retry : Backoff) (id : String) (newer log : List Deed) : Prop where
  limit : timeouts log ≤ attemptLimit retry
  fails : timeouts log = attemptLimit retry →
    ∃ rest, newer = rest ++ [.settled id (.failed (attemptLimit retry))]

theorem Concluded.cons {retry : Backoff} {id : String} {newer log : List Deed}
    (h : Concluded retry id newer log) (d : Deed) : Concluded retry id (d :: newer) log := by
  refine ⟨h.limit, fun heq => ?_⟩
  obtain ⟨rest, rfl⟩ := h.fails heq
  exact ⟨d :: rest, rfl⟩

namespace Life

variable {ackTimeout : Duration} {retry : Backoff} {id : String} {log newer older mid : List Deed}
  {p : Progress} {start : Instant}

/-- The times that an action was overdue are counted, and they are not too many. -/
theorem counted (h : Life ackTimeout retry id log p) :
    (∀ acked n earliest, p = .ready acked n earliest →
      timeouts log = n ∧ n < attemptLimit retry) ∧
    ∀ n since, p = .flying n since → timeouts log = n ∧ n < attemptLimit retry := by
  induction h with
  | unborn => simp
  | queue acked h ih =>
      have hlimit : 0 < attemptLimit retry := by
        unfold attemptLimit
        omega
      simpa [timeouts] using hlimit
  | fly h hnow ih => simpa [timeouts] using ih.1 _ _ _ rfl
  | land now h ih => simp
  | cut h ih => simpa [timeouts] using ih.2 _ _ rfl
  | idle h hp ih => exact ih
  | wait h hnow hn ih => simpa [timeouts, (ih.2 _ _ rfl).1] using lt_attemptLimit hn
  | fail h hnow hn ih => simp
  | settle h ho ih => simp

/-- What is sent and waits for an answer was queued so. -/
theorem answered (h : Life ackTimeout retry id log p) :
    (∀ acked n earliest, p = .ready acked n earliest → acked? log = some acked) ∧
      ∀ n since, p = .flying n since → acked? log = some true := by
  induction h with
  | unborn => simp
  | queue acked h ih => simp [acked?]
  | fly h hnow ih => simpa [acked?] using ih.1 _ _ _ rfl
  | land now h ih => simp
  | cut h ih => simpa [acked?] using ih.2 _ _ rfl
  | idle h hp ih => exact ih
  | wait h hnow hn ih => simpa [acked?] using ih.2 _ _ rfl
  | fail h hnow hn ih => simp
  | settle h ho ih => simp

/-- What needs no acknowledgement is sent once at the most, and is not queued afterwards. -/
theorem once (h : Life ackTimeout retry id log p) (hacked : acked? log = some false) :
    attempts log ≤ 1 ∧ ∀ acked n earliest, p = .ready acked n earliest → attempts log = 0 := by
  induction h with
  | unborn => simp [attempts]
  | queue acked h ih => simp [attempts]
  | fly h hnow ih =>
      have hneeds := h.answered.1 _ _ _ rfl
      simp [acked?, hneeds] at hacked
  | land now h ih => simpa [attempts] using (ih hacked).2 _ _ _ rfl
  | cut h ih =>
      have hneeds := h.answered.2 _ _ rfl
      simp [acked?, hneeds] at hacked
  | idle h hp ih => exact ih hacked
  | wait h hnow hn ih =>
      have hneeds := h.answered.2 _ _ rfl
      simp [acked?, hneeds] at hacked
  | fail h hnow hn ih => simpa [attempts] using (ih hacked).1
  | settle h ho ih => simpa [attempts] using (ih hacked).1

/-- What was so far kept to the rules as well, if the last of it is not that the action was
overdue: what comes of that belongs to it. -/
theorem behind (h : Life ackTimeout retry id (newer ++ log) p)
    (hlog : ∀ now older, log ≠ .overdue id now :: older) : ∃ q, Life ackTimeout retry id log q := by
  generalize hall : newer ++ log = all at h
  -- either all of it is meant or what is meant is behind the last entry
  have step : ∀ {newer d all q}, Life ackTimeout retry id (d :: all) q →
      (∀ {newer}, newer ++ log = all → ∃ q, Life ackTimeout retry id log q) →
      newer ++ log = d :: all → ∃ q, Life ackTimeout retry id log q := by
    intro newer d all q hwhole hrest heq
    obtain ⟨-, rfl⟩ | ⟨newer, -, hnewer⟩ := List.append_eq_cons_iff.mp heq
    · exact ⟨q, hwhole⟩
    · exact hrest hnewer.symm
  induction h generalizing newer with
  | unborn =>
      obtain ⟨-, rfl⟩ := List.append_eq_nil_iff.mp hall
      exact ⟨_, .unborn⟩
  | queue acked h ih => exact step (.queue acked h) ih hall
  | fly h hnow ih => exact step (.fly h hnow) ih hall
  | land now h ih => exact step (.land now h) ih hall
  | cut h ih => exact step (.cut h) ih hall
  | idle h hp ih => exact step (.idle h hp) ih hall
  | wait h hnow hn ih => exact step (.wait h hnow hn) ih hall
  | settle h ho ih => exact step (.settle h ho) ih hall
  | fail h hnow hn ih =>
      refine step (.fail h hnow hn) (fun {newer} heq => ?_) hall
      obtain ⟨-, rfl⟩ | ⟨newer, -, hnewer⟩ := List.append_eq_cons_iff.mp heq
      · exact absurd rfl (hlog _ _)
      · exact ih hnewer.symm

/-- What there may be since an action was sent: nothing, and it is in flight; or first of all the
connection was lost or the action was overdue, and then it is ready. -/
theorem since (h : Life ackTimeout retry id (mid ++ .sent id start :: older) p)
    (hmid : ∀ d ∈ mid, (∀ acked, d ≠ .queued id acked) ∧ ∀ now, d ≠ .sent id now) :
    p = .away ∨ (∃ n, p = .flying n start ∧ mid = []) ∨
      ∃ n earliest rest first, p = .ready true n earliest ∧ mid = rest ++ [first] ∧
        (first = .cutOff ∨ ∃ now, first = .overdue id now ∧ start + ackTimeout ≤ now ∧
          1 ≤ n ∧ earliest = now + retry.delay (n - 1)) := by
  generalize hall : mid ++ .sent id start :: older = all at h
  -- what was so far, as long as the last entry is not the one that is meant
  have behind : ∀ {mid : List Deed} {d : Deed} {log : List Deed},
      (∀ d ∈ mid, (∀ acked, d ≠ .queued id acked) ∧ ∀ now, d ≠ .sent id now) →
      mid ++ .sent id start :: older = d :: log → d ≠ .sent id start →
      ∃ mid', mid = d :: mid' ∧ mid' ++ .sent id start :: older = log ∧
        ∀ d ∈ mid', (∀ acked, d ≠ .queued id acked) ∧ ∀ now, d ≠ .sent id now := by
    intro mid d log hmid heq hd
    obtain ⟨-, hother⟩ | ⟨mid', rfl, hmid'⟩ := List.append_eq_cons_iff.mp heq
    · exact absurd (List.cons.inj hother).1.symm hd
    · exact ⟨mid', rfl, hmid'.symm, fun d hd => hmid d (List.mem_cons_of_mem _ hd)⟩
  induction h generalizing mid with
  | unborn => simp at hall
  | queue acked h ih =>
      obtain ⟨mid', rfl, -⟩ := behind hmid hall nofun
      exact absurd rfl ((hmid _ List.mem_cons_self).1 acked)
  | @fly log n earliest now h hnow ih =>
      obtain ⟨hnil, heq⟩ | ⟨mid', rfl, -⟩ := List.append_eq_cons_iff.mp hall
      · cases (List.cons.inj heq).1
        exact .inr (.inl ⟨n, rfl, hnil⟩)
      · exact absurd rfl ((hmid _ List.mem_cons_self).2 now)
  | land now h ih => exact .inl rfl
  | @cut log n since h ih =>
      obtain ⟨mid', rfl, hrest, hmid'⟩ := behind hmid hall nofun
      obtain haway | ⟨m, hflying, rfl⟩ | ⟨m, earliest, rest, first, hready, -⟩ := ih hmid' hrest
      · cases haway
      · exact .inr (.inr ⟨n, 0, [], .cutOff, rfl, rfl, .inl rfl⟩)
      · cases hready
  | @idle log p h hp ih =>
      obtain ⟨mid', rfl, hrest, hmid'⟩ := behind hmid hall nofun
      obtain haway | ⟨m, hflying, rfl⟩ | ⟨m, earliest, rest, first, hready, rfl, hfirst⟩ :=
        ih hmid' hrest
      · exact .inl haway
      · exact absurd hflying (hp m start)
      · exact .inr (.inr ⟨m, earliest, .cutOff :: rest, first, hready, rfl, hfirst⟩)
  | @wait log n since now h hnow hn ih =>
      obtain ⟨mid', rfl, hrest, hmid'⟩ := behind hmid hall nofun
      obtain haway | ⟨m, hflying, rfl⟩ | ⟨m, earliest, rest, first, hready, -⟩ := ih hmid' hrest
      · cases haway
      · cases hflying
        exact .inr (.inr ⟨n + 1, _, [], _, rfl, rfl, .inr ⟨now, rfl, hnow, by omega, rfl⟩⟩)
      · cases hready
  | fail h hnow hn ih => exact .inl rfl
  | settle h ho ih => exact .inl rfl

/-- **What there is between two attempts.** Whatever is sent twice has to be acknowledged. First of
all since the first attempt the connection was lost, or the action was overdue; and if it was, the
second one waited for the delay. -/
theorem between {first second : Instant}
    (h : Life ackTimeout retry id
      (newer ++ .sent id second :: (mid ++ .sent id first :: older)) p)
    (hmid : ∀ d ∈ mid, (∀ acked, d ≠ .queued id acked) ∧ ∀ now, d ≠ .sent id now) :
    acked? (mid ++ .sent id first :: older) = some true ∧
      ∃ rest d, mid = rest ++ [d] ∧ (d = .cutOff ∨ ∃ now, d = .overdue id now ∧
        first + ackTimeout ≤ now ∧
          now + retry.delay (timeouts (mid ++ .sent id first :: older) - 1) ≤ second) := by
  have hbehind : ∃ q, Life ackTimeout retry id
      (.sent id second :: (mid ++ .sent id first :: older)) q := h.behind nofun
  obtain ⟨q, hsecond⟩ := hbehind
  cases hsecond with
  | land _ h =>
      obtain haway | ⟨n, hflying, -⟩ | ⟨n, earliest, rest, d, hready, -⟩ := h.since hmid
      · cases haway
      · cases hflying
      · cases hready
  | fly h hnow =>
      have hcounted := h.counted.1 _ _ _ rfl
      obtain haway | ⟨n, hflying, -⟩ | ⟨n, earliest, rest, d, hready, rfl, hd⟩ := h.since hmid
      · cases haway
      · cases hflying
      · cases hready
        refine ⟨h.answered.1 _ _ _ rfl, rest, d, rfl, hd.imp_right ?_⟩
        intro ⟨now, hoverdue, htimeout, hn, hearliest⟩
        refine ⟨now, hoverdue, htimeout, ?_⟩
        rw [hcounted.1, ← hearliest]
        exact hnow

/-- **An action fails** when it was overdue too often, at once. -/
theorem failed {n : Nat}
    (h : Life ackTimeout retry id (newer ++ .settled id (.failed n) :: older) p) :
    n = attemptLimit retry ∧ timeouts older = n ∧
      ∃ now rest, older = .overdue id now :: rest := by
  have hbehind : ∃ q, Life ackTimeout retry id (.settled id (.failed n) :: older) q :=
    h.behind nofun
  obtain ⟨q, hfailed⟩ := hbehind
  cases hfailed with
  | settle h ho => exact absurd rfl (ho n)
  | fail hflying hnow hn =>
      obtain ⟨hcounted, hlimit⟩ := hflying.counted.2 _ _ rfl
      exact ⟨eq_attemptLimit hlimit hn, by rw [timeouts, hcounted], _, _, rfl⟩

/-- **An action is not overdue too often**, and when it was as often as may be, it has failed. -/
theorem overdue {now : Instant}
    (h : Life ackTimeout retry id (newer ++ .overdue id now :: older) p) :
    Concluded retry id newer (.overdue id now :: older) := by
  generalize hall : newer ++ .overdue id now :: older = all at h
  have later : ∀ {newer : List Deed} {d : Deed} {log : List Deed},
      (∀ {newer}, newer ++ .overdue id now :: older = log →
        Concluded retry id newer (.overdue id now :: older)) →
      newer ++ .overdue id now :: older = d :: log → d ≠ .overdue id now →
      Concluded retry id newer (.overdue id now :: older) := by
    intro newer d log hbefore heq hd
    obtain ⟨-, hother⟩ | ⟨newer, rfl, hnewer⟩ := List.append_eq_cons_iff.mp heq
    · exact absurd (List.cons.inj hother).1.symm hd
    · exact (hbefore hnewer.symm).cons d
  induction h generalizing newer with
  | unborn => simp at hall
  | queue acked h ih => exact later ih hall nofun
  | fly h hnow ih => exact later ih hall nofun
  | land now h ih => exact later ih hall nofun
  | cut h ih => exact later ih hall nofun
  | idle h hp ih => exact later ih hall nofun
  | settle h ho ih => exact later ih hall nofun
  | @wait log n since now' h hnow hn ih =>
      obtain ⟨rfl, heq⟩ | ⟨newer, rfl, hnewer⟩ := List.append_eq_cons_iff.mp hall
      · obtain ⟨-, rfl⟩ := List.cons.inj heq
        have hcounted := (h.counted.2 _ _ rfl).1
        have hlimit := lt_attemptLimit hn
        have hless : timeouts (.overdue id now :: older) < attemptLimit retry := by
          rw [timeouts, hcounted]
          exact hlimit
        exact ⟨Nat.le_of_lt hless, fun hall => absurd hall (Nat.ne_of_lt hless)⟩
      · exact (ih hnewer.symm).cons _
  | @fail log n since now' h hnow hn ih =>
      obtain ⟨-, heq⟩ | ⟨newer, rfl, hnewer⟩ := List.append_eq_cons_iff.mp hall
      · cases (List.cons.inj heq).1
      · obtain ⟨rfl, heq⟩ | ⟨others, rfl, hothers⟩ := List.append_eq_cons_iff.mp hnewer.symm
        · obtain ⟨-, rfl⟩ := List.cons.inj heq
          obtain ⟨hcounted, hlimit⟩ := h.counted.2 _ _ rfl
          have hlast := eq_attemptLimit hlimit hn
          have hall : timeouts (.overdue id now :: older) = attemptLimit retry := by
            rw [timeouts, hcounted, hlast]
          exact ⟨Nat.le_of_eq hall, fun _ => ⟨[], by rw [hlast]; rfl⟩⟩
        · exact ((ih hothers.symm).cons _).cons _

end Life

end RealtimeChat.Outbox
