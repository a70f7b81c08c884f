import RealtimeChat.Proofs.Outbox.Apart
import RealtimeChat.Proofs.Outbox.Sending
/-!
# What a flush does to each action

A flush offers frames to its sink until the sink refuses one. What it does to the actions can be
read off the frames that were offered and which of them was refused.

* `Offer`, `offersOf` -- the frames that a flush offers to its sink;
* `afterFlush` -- what becomes of a queued action;
* `Accounting` -- what a flush that is on its way has done so far;
* **`flush_accounted`** -- what it has done in the end: to the queues, the settlements, the
  deadlines and the count that it returns.
-/

namespace RealtimeChat.Outbox

open Timer (Key)

/-! ## 1. Offers -/

/-- A frame that a sink was offered, and whether the sink took it. -/
structure Offer where
  frame : Outgoing
  taken : Bool
deriving DecidableEq, Repr

/-- A sink that writes down what it is offered, the newest offer in front. -/
def offering {σ : Type} (send : σ → Outgoing → Except SendFault Unit × σ) :
    σ × List Offer → Outgoing → Except SendFault Unit × (σ × List Offer)
  | (sink, offers), frame =>
    ((send sink frame).1, (send sink frame).2, ⟨frame, (send sink frame).1.isOk⟩ :: offers)

/-- What the sink is offered during a flush, the newest offer in front. -/
def offersOf {σ : Type} (o : Outbox) (send : σ → Outgoing → Except SendFault Unit × σ) (sink : σ)
    (now : Instant) (timers : Timers) : List Offer :=
  (o.flush (offering send) (sink, []) now timers).2.2.1.2

/-- The sink took the frame of the action. -/
def Sent (offers : List Offer) (a : Action) : Prop := ⟨a.frame, true⟩ ∈ offers

/-- The sink refused the frame of the action. -/
def Refused (offers : List Offer) (a : Action) : Prop := ⟨a.frame, false⟩ ∈ offers

instance (offers : List Offer) (a : Action) : Decidable (Sent offers a) :=
  inferInstanceAs (Decidable (_ ∈ offers))

/-- What becomes of a queued action: one that was sent waits for its answer or, if it needs none, is
done with; any other one stays as it is. -/
def afterFlush (offers : List Offer) (a : Action) : Option Action :=
  if Sent offers a then if a.kind.requiresAck then some { a with state := .inFlight } else none
  else some a

section Offering

variable {σ : Type} {send : σ → Outgoing → Except SendFault Unit × σ}

theorem offering_seen : Seen send (offering send) Prod.fst := fun _ _ => rfl

theorem offers_of_offering {s s' : σ × List Offer} {frame : Outgoing}
    {result : Except SendFault Unit} (h : offering send s frame = (result, s')) :
    s'.2 = ⟨frame, result.isOk⟩ :: s.2 := by
  obtain ⟨hresult, hsink⟩ := Prod.mk.inj h
  rw [← hsink, ← hresult]

end Offering

/-! ## 2. One more offer -/

section Cons

variable {offers : List Offer} {a b : Action} {x : Offer}

theorem sent_cons : Sent (x :: offers) b ↔ ⟨b.frame, true⟩ = x ∨ Sent offers b := List.mem_cons

theorem sent_cons_of_ne (h : b.frame ≠ x.frame) : Sent (x :: offers) b ↔ Sent offers b := by
  rw [sent_cons, or_iff_right]
  rintro rfl
  exact h rfl

theorem sent_cons_of_refused (h : x.taken = false) : Sent (x :: offers) b ↔ Sent offers b := by
  rw [sent_cons, or_iff_right]
  rintro rfl
  cases h

theorem afterFlush_congr {offers' : List Offer} (h : Sent offers' b ↔ Sent offers b) :
    afterFlush offers' b = afterFlush offers b := by
  simp only [afterFlush, h]

theorem id_of_afterFlush (h : afterFlush offers b = some a) : b.id = a.id := by
  unfold afterFlush at h
  split_ifs at h
  · cases h
    rfl
  · cases h
    rfl

/-- An action that may still be sent was not sent, and stays. -/
theorem eq_of_afterFlush_pending (h : afterFlush offers b = some a) (ha : a.state = .pending) :
    b = a ∧ ¬Sent offers a := by
  unfold afterFlush at h
  split_ifs at h with hsent hk
  · cases h
    cases ha
  · cases h
    exact ⟨rfl, hsent⟩

end Cons

/-! ## 3. A flush on its way -/

/-- The offers of a flush that has come so far: each is of another queued action that may be sent,
and only the newest one may have been refused. -/
structure Listed {σ : Type} (o : Outbox) (f : Flush (σ × List Offer)) : Prop where
  counted : f.written = f.sink.2.countP (·.taken)
  halted : f.halted = f.sink.2.any (!·.taken)
  last : ∀ x ∈ f.sink.2.tail, x.taken = true
  queued : ∀ x ∈ f.sink.2, ∃ c, ∃ a ∈ o.queue c, a.state = .pending ∧ a.frame = x.frame
  once : (f.sink.2.map (·.frame)).Nodup

/-- What a flush that has come so far did, read off its offers. -/
structure Accounting {σ : Type} (o : Outbox) (timers : Timers) (deadline : Instant)
    (chats : OrderedMap String (List Action)) (f : Flush (σ × List Offer)) : Prop
    extends Listed o f where
  queues : ∀ c, (chats.get? c).getD [] = (o.queue c).filterMap (afterFlush f.sink.2)
  front : ∀ c, ∀ a ∈ o.queue c, Refused f.sink.2 a → ((chats.get? c).getD []).head? = some a
  done : ∀ a, a ∈ f.done ↔
    (∃ c, a ∈ o.queue c) ∧ a.kind.requiresAck = false ∧ Sent f.sink.2 a
  doneOnce : f.done.Nodup
  armed : ∀ c, ∀ a ∈ o.queue c, a.kind.requiresAck = true → Sent f.sink.2 a →
    f.timers.deadline? (.action a.id) = some deadline
  others : ∀ key, (∀ c, ∀ a ∈ o.queue c, a.kind.requiresAck = true → Sent f.sink.2 a →
    key ≠ .action a.id) → f.timers.deadline? key = timers.deadline? key

section Steps

variable {σ : Type} {o : Outbox} {timers : Timers} {deadline : Instant}
  {chats : OrderedMap String (List Action)} {f f' : Flush (σ × List Offer)} {c d : String}
  {a b : Action} {rest before after : List Action} {offers : List Offer} {ok : Bool}

theorem Sound.eq_of_frame (hs : o.Sound) (ha : a ∈ o.queue c) (hb : b ∈ o.queue d)
    (h : a.frame = b.frame) : c = d ∧ a = b :=
  hs.unique ha hb (Action.id_of_frame h)

theorem Sound.queue_nodup (hs : o.Sound) (c : String) : (o.queue c).Nodup := by
  have hline := hs.distinct c
  rw [line, List.map_map] at hline
  exact hline.of_map

theorem Listed.all_taken (h : Listed o f) (hf : f.halted = false) :
    ∀ x ∈ f.sink.2, x.taken = true := by
  have hany := h.halted
  rw [hf] at hany
  simpa using hany.symm

/-- One more offer. -/
theorem Listed.offer (h : Listed o f) (hf : f.halted = false) (ha : a ∈ o.queue c)
    (hpending : a.state = .pending) (hnew : ∀ x ∈ f.sink.2, x.frame ≠ a.frame)
    (hsink : f'.sink.2 = ⟨a.frame, ok⟩ :: f.sink.2) (hwritten : f'.written = f.written + ok.toNat)
    (hhalted : f'.halted = !ok) : Listed o f' where
  counted := by
    rw [hwritten, hsink, List.countP_cons, h.counted]
    cases ok <;> rfl
  halted := by
    rw [hhalted, hsink, List.any_cons, ← h.halted, hf, Bool.or_false]
  last := by
    rw [hsink]
    exact h.all_taken hf
  queued := by
    rw [hsink]
    exact List.forall_mem_cons.mpr ⟨⟨c, a, ha, hpending, rfl⟩, h.queued⟩
  once := by
    rw [hsink, List.map_cons]
    refine List.nodup_cons.mpr ⟨fun hmem => ?_, h.once⟩
    obtain ⟨x, hx, hframe⟩ := List.mem_map.mp hmem
    exact hnew x hx hframe

/-- What stands in front and may be sent was not offered yet, and what stood in front of it is done
with. -/
theorem Accounting.head (h : Accounting o timers deadline chats f) (hf : f.halted = false)
    (hc : chats.get? c = some (a :: rest)) (ha : a.state = .pending) :
    ∃ before after, o.queue c = before ++ a :: after ∧
      before.filterMap (afterFlush f.sink.2) = [] ∧
      after.filterMap (afterFlush f.sink.2) = rest ∧ ∀ x ∈ f.sink.2, x.frame ≠ a.frame := by
  have hqueue := h.queues c
  rw [hc, Option.getD_some] at hqueue
  obtain ⟨before, b, after, hsplit, hbefore, hb, hafter⟩ :=
    List.filterMap_eq_cons_iff.mp hqueue.symm
  obtain ⟨rfl, hsent⟩ := eq_of_afterFlush_pending hb ha
  refine ⟨before, after, hsplit, List.filterMap_eq_nil_iff.mpr hbefore, hafter, ?_⟩
  rintro ⟨frame, taken⟩ hx rfl
  obtain rfl : taken = true := h.all_taken hf _ hx
  exact hsent hx

/-- One more frame that is taken changes the queue of its action and no other. -/
theorem Sound.filterMap_taken (hs : o.Sound) (hsplit : o.queue c = before ++ a :: after)
    (hbefore : before.filterMap (afterFlush offers) = []) (d : String) :
    (o.queue d).filterMap (afterFlush (⟨a.frame, true⟩ :: offers)) =
      if c = d then (afterFlush (⟨a.frame, true⟩ :: offers) a).toList ++
        after.filterMap (afterFlush offers)
      else (o.queue d).filterMap (afterFlush offers) := by
  have ha : a ∈ o.queue c := hsplit ▸ List.mem_append_right _ List.mem_cons_self
  have hother : ∀ b ∈ o.queue d, b ≠ a →
      afterFlush (⟨a.frame, true⟩ :: offers) b = afterFlush offers b := fun b hb hne =>
    afterFlush_congr (sent_cons_of_ne fun hframe => hne (hs.eq_of_frame hb ha hframe).2)
  split_ifs with hcd
  · subst hcd
    have hnodup := hs.queue_nodup c
    rw [hsplit] at hnodup hother
    have hapart : a ∉ before ∧ a ∉ after := by
      have hmid := List.nodup_middle.mp hnodup
      simpa using (List.nodup_cons.mp hmid).1
    have hfront : before.filterMap (afterFlush (⟨a.frame, true⟩ :: offers)) = [] := by
      rw [← hbefore]
      refine List.filterMap_congr fun b hb => ?_
      exact hother b (List.mem_append_left _ hb) (ne_of_mem_of_not_mem hb hapart.1)
    have hback : after.filterMap (afterFlush (⟨a.frame, true⟩ :: offers)) =
        after.filterMap (afterFlush offers) := by
      refine List.filterMap_congr fun b hb => ?_
      exact hother b (List.mem_append_right _ (List.mem_cons_of_mem _ hb))
        (ne_of_mem_of_not_mem hb hapart.2)
    rw [hsplit, List.filterMap_append, hfront, List.nil_append, List.filterMap_cons, hback]
    cases afterFlush (⟨a.frame, true⟩ :: offers) a <;> rfl
  · refine List.filterMap_congr fun b hb => hother b hb ?_
    rintro rfl
    exact hcd (hs.eq_of_frame ha hb rfl).1

theorem Sound.sent_taken_iff (hs : o.Sound) (ha : a ∈ o.queue c) (hb : b ∈ o.queue d) :
    Sent (⟨a.frame, true⟩ :: offers) b ↔ b = a ∨ Sent offers b := by
  rw [sent_cons]
  refine or_congr_left ⟨fun h => ?_, fun h => h ▸ rfl⟩
  exact (hs.eq_of_frame hb ha (congrArg Offer.frame h)).2

/-- With no offer refused so far, nothing is refused after one more that is taken. -/
theorem Listed.not_refused (h : Listed o f) (hf : f.halted = false) :
    ¬Refused (⟨a.frame, true⟩ :: f.sink.2) b := by
  intro hmem
  rcases List.mem_cons.mp hmem with heq | hmem
  · exact absurd (congrArg Offer.taken heq) Bool.false_ne_true
  · cases h.all_taken hf _ hmem

/-- A frame is refused: its action stays in front, and nothing else happens. -/
theorem Accounting.halt (h : Accounting o timers deadline chats f) (hs : o.Sound)
    (hf : f.halted = false) (hc : chats.get? c = some (a :: rest)) (hpending : a.state = .pending)
    {sink : σ × List Offer} (hsink : sink.2 = ⟨a.frame, false⟩ :: f.sink.2) :
    Accounting o timers deadline chats { f with sink, halted := true } := by
  obtain ⟨before, after, hsplit, -, -, hnew⟩ := h.head hf hc hpending
  have ha : a ∈ o.queue c := hsplit ▸ List.mem_append_right _ List.mem_cons_self
  have hsent : ∀ b, Sent sink.2 b ↔ Sent f.sink.2 b := fun b => by
    rw [hsink]
    exact sent_cons_of_refused rfl
  have hlisted : Listed o { f with sink, halted := true } :=
    h.offer hf ha hpending hnew hsink rfl rfl
  refine { hlisted with
    queues := fun d => ?_, front := fun d b hb hrefused => ?_, done := fun b => ?_
    doneOnce := h.doneOnce, armed := fun d b hb hk hb' => ?_, others := fun key hkey => ?_ }
  · rw [h.queues d]
    exact List.filterMap_congr fun b _ => (afterFlush_congr (hsent b)).symm
  · dsimp only at hrefused
    rw [hsink] at hrefused
    rcases List.mem_cons.mp hrefused with heq | hmem
    · obtain ⟨rfl, rfl⟩ := hs.eq_of_frame hb ha (congrArg Offer.frame heq)
      rw [hc]
      rfl
    · cases h.all_taken hf _ hmem
  · rw [h.done b, hsent]
  · exact h.armed d b hb hk ((hsent b).mp hb')
  · exact h.others key fun d b hb hk hb' => hkey d b hb hk ((hsent b).mpr hb')

/-- A frame that needs an answer is taken: its action is in flight, and its deadline is set. -/
theorem Accounting.fly (h : Accounting o timers deadline chats f) (hs : o.Sound)
    (hf : f.halted = false) (hc : chats.get? c = some (a :: rest)) (hpending : a.state = .pending)
    (hack : a.kind.requiresAck = true) {sink : σ × List Offer}
    (hsink : sink.2 = ⟨a.frame, true⟩ :: f.sink.2) :
    Accounting o timers deadline (chats.insert c ({ a with state := .inFlight } :: rest))
      { f with
        sink, written := f.written + 1
        timers := f.timers.schedule (.action a.id) deadline } := by
  obtain ⟨before, after, hsplit, hbefore, hafter, hnew⟩ := h.head hf hc hpending
  have ha : a ∈ o.queue c := hsplit ▸ List.mem_append_right _ List.mem_cons_self
  have hsent : ∀ {d b}, b ∈ o.queue d → (Sent sink.2 b ↔ b = a ∨ Sent f.sink.2 b) := fun hb => by
    rw [hsink]
    exact hs.sent_taken_iff ha hb
  have hlisted : Listed o
      { f with
        sink, written := f.written + 1
        timers := f.timers.schedule (.action a.id) deadline } :=
    h.offer hf ha hpending hnew hsink rfl hf
  refine { hlisted with
    queues := fun d => ?_, front := fun d b hb hrefused => ?_, done := fun b => ?_
    doneOnce := h.doneOnce, armed := fun d b hb hk hb' => ?_, others := fun key hkey => ?_ }
  · have hself : afterFlush sink.2 a = some { a with state := .inFlight } := by
      rw [afterFlush, if_pos ((hsent ha).mpr (.inl rfl)), if_pos hack]
    dsimp only
    rw [OrderedMap.get?_insert, hsink, hs.filterMap_taken hsplit hbefore, ← hsink, hself, hafter]
    split_ifs with hcd
    · rfl
    · exact h.queues d
  · dsimp only at hrefused
    exact absurd (hsink ▸ hrefused) (h.not_refused hf)
  · rw [h.done b]
    refine and_congr_right fun hb => and_congr_right fun hk => ?_
    obtain ⟨d, hb⟩ := hb
    rw [hsent hb, or_iff_right]
    rintro rfl
    rw [hack] at hk
    cases hk
  · rw [Timers.deadline?_schedule]
    split_ifs with hkey
    · rfl
    · refine h.armed d b hb hk (((hsent hb).mp hb').resolve_left ?_)
      rintro rfl
      exact hkey rfl
  · have hne : key ≠ .action a.id := hkey c a ha hack ((hsent ha).mpr (.inl rfl))
    rw [Timers.deadline?_schedule, if_neg hne.symm]
    exact h.others key fun d b hb hk hb' => hkey d b hb hk ((hsent hb).mpr (.inr hb'))

/-- A frame that needs no answer is taken: its action is done with. -/
theorem Accounting.land (h : Accounting o timers deadline chats f) (hs : o.Sound)
    (hf : f.halted = false) (hc : chats.get? c = some (a :: rest)) (hpending : a.state = .pending)
    (hack : a.kind.requiresAck = false) {sink : σ × List Offer}
    (hsink : sink.2 = ⟨a.frame, true⟩ :: f.sink.2) :
    Accounting o timers deadline (chats.insert c rest)
      { f with sink, written := f.written + 1, done := f.done ++ [a] } := by
  obtain ⟨before, after, hsplit, hbefore, hafter, hnew⟩ := h.head hf hc hpending
  have ha : a ∈ o.queue c := hsplit ▸ List.mem_append_right _ List.mem_cons_self
  have hsent : ∀ {d b}, b ∈ o.queue d → (Sent sink.2 b ↔ b = a ∨ Sent f.sink.2 b) := fun hb => by
    rw [hsink]
    exact hs.sent_taken_iff ha hb
  -- an action that waits for an answer is another one
  have hwaits : ∀ {b : Action}, b.kind.requiresAck = true → b ≠ a := by
    rintro b hk rfl
    rw [hack] at hk
    cases hk
  have hlisted : Listed o { f with sink, written := f.written + 1, done := f.done ++ [a] } :=
    h.offer hf ha hpending hnew hsink rfl hf
  refine { hlisted with
    queues := fun d => ?_, front := fun d b hb hrefused => ?_, done := fun b => ?_
    doneOnce := ?_, armed := fun d b hb hk hb' => ?_, others := fun key hkey => ?_ }
  · have hself : afterFlush sink.2 a = none := by
      rw [afterFlush, if_pos ((hsent ha).mpr (.inl rfl)), if_neg (by rw [hack]; decide)]
    dsimp only
    rw [OrderedMap.get?_insert, hsink, hs.filterMap_taken hsplit hbefore, ← hsink, hself, hafter]
    split_ifs with hcd
    · rfl
    · exact h.queues d
  · dsimp only at hrefused
    exact absurd (hsink ▸ hrefused) (h.not_refused hf)
  · dsimp only
    rw [List.mem_append, List.mem_singleton, h.done b]
    constructor
    · rintro (⟨⟨d, hb⟩, hk, hb'⟩ | rfl)
      · exact ⟨⟨d, hb⟩, hk, (hsent hb).mpr (.inr hb')⟩
      · exact ⟨⟨c, ha⟩, hack, (hsent ha).mpr (.inl rfl)⟩
    · rintro ⟨⟨d, hb⟩, hk, hb'⟩
      exact ((hsent hb).mp hb').symm.imp_left fun hold => ⟨⟨d, hb⟩, hk, hold⟩
  · refine List.nodup_append.mpr ⟨h.doneOnce, List.nodup_singleton a, fun b hb b' hb' heq => ?_⟩
    rw [List.mem_singleton] at hb'
    subst hb' heq
    exact hnew _ ((h.done b).mp hb).2.2 rfl
  · exact h.armed d b hb hk (((hsent hb).mp hb').resolve_left (hwaits hk))
  · exact h.others key fun d b hb hk hb' => hkey d b hb hk ((hsent hb).mpr (.inr hb'))

/-- The queues from which a flush starts, and those that it has come to at the end. -/
theorem Accounting.walk (hs : o.Sound) (send : σ → Outgoing → Except SendFault Unit × σ)
    (timers : Timers) (deadline : Instant) (sink : σ) :
    Accounting o timers deadline
      (o.chats.walk (fun f _ queue => flushQueue (offering send) deadline f queue)
        ⟨(sink, []), timers, 0, [], false⟩).1
      (o.chats.walk (fun f _ queue => flushQueue (offering send) deadline f queue)
        ⟨(sink, []), timers, 0, [], false⟩).2 := by
  have hnone : ∀ a, afterFlush [] a = some a := fun a => rfl
  refine walk_flush_steps
    (fun hf hc ha hsend h => h.halt hs hf hc ha (offers_of_offering hsend))
    (fun hf hc ha hk hsend h => h.fly hs hf hc ha hk (offers_of_offering hsend))
    (fun hf hc ha hk hsend h => h.land hs hf hc ha hk (offers_of_offering hsend)) _ _ ?_
  exact {
    counted := rfl, halted := rfl, last := nofun, queued := nofun, once := .nil
    queues := fun c => by rw [List.filterMap_congr fun a _ => hnone a, List.filterMap_some]; rfl
    front := nofun
    done := fun a => iff_of_false List.not_mem_nil fun h => absurd h.2.2 List.not_mem_nil
    doneOnce := .nil
    armed := nofun
    others := fun _ _ => rfl }

end Steps

/-! ## 4. A whole flush -/

/-- What a flush did, by what its sink was offered: `answer` is what it returned. -/
structure Accounted {σ : Type} (o : Outbox) (timers : Timers) (now : Instant)
    (offers : List Offer) (answer : Nat × Outbox × σ × Timers) : Prop where
  /-- The count is that of the frames that were taken. -/
  counted : answer.1 = offers.countP (·.taken)
  /-- After a frame was refused no other one is offered. -/
  last : ∀ x ∈ offers.tail, x.taken = true
  /-- What is offered are the frames of queued actions that may be sent. -/
  queued : ∀ x ∈ offers, ∃ c, ∃ a ∈ o.queue c, a.state = .pending ∧ a.frame = x.frame
  /-- No frame is offered twice. -/
  once : (offers.map (·.frame)).Nodup
  /-- The actions that were sent are in flight or gone; all others are as they were, and in the same
  order. -/
  queues : ∀ c, answer.2.1.queue c = (o.queue c).filterMap (afterFlush offers)
  /-- An action is newly in flight, with its deadline, iff it needs an answer and was sent. -/
  flies : ∀ c, ∀ a ∈ o.queue c,
    (a.state ≠ .inFlight ∧ { a with state := .inFlight } ∈ answer.2.1.queue c ∧
        answer.2.2.2.deadline? (.action a.id) = some (now + o.ackTimeout)) ↔
      a.kind.requiresAck = true ∧ Sent offers a
  /-- What is settled by the flush are the actions that need no answer and were sent, each once. -/
  settled : ∃ done : List Action, done.Nodup ∧
    (∀ a, a ∈ done ↔ (∃ c, a ∈ o.queue c) ∧ a.kind.requiresAck = false ∧ Sent offers a) ∧
    answer.2.1.settled = o.settled ++ done.map (·.settlement (.delivered none false))
  /-- The action whose frame was refused may still be sent, and stands in front of its queue. -/
  refused : ∀ c, ∀ a ∈ o.queue c, Refused offers a →
    a.state = .pending ∧ (answer.2.1.queue c).head? = some a
  /-- No other deadline is touched. -/
  deadlines : ∀ key, (∀ c, ∀ a ∈ o.queue c, a.kind.requiresAck = true → Sent offers a →
    key ≠ .action a.id) → answer.2.2.2.deadline? key = timers.deadline? key
  /-- If no frame was refused, no action that may be sent is in front. -/
  complete : (∀ x ∈ offers, x.taken = true) → answer.2.1.Underway
  /-- The index knows the actions that are left in the queues. -/
  indexed : ∀ id, answer.2.1.contains id = true ↔ ∃ c, ∃ a ∈ answer.2.1.queue c, a.id = id

section Flush

variable {σ : Type} (send : σ → Outgoing → Except SendFault Unit × σ) (sink : σ) (now : Instant)
  (timers : Timers)

/-- A flush is a walk through the queues; then the actions that are done with are settled. -/
theorem flush_eq (o : Outbox) :
    let walked := o.chats.walk
      (fun f _ queue => flushQueue send (now + o.ackTimeout) f queue) ⟨sink, timers, 0, [], false⟩
    o.flush send sink now timers =
      (walked.2.written,
        (settleAll (.delivered none false) o walked.2.done).withChats
          (walked.1.filter fun _ queue => !queue.isEmpty),
        walked.2.sink, walked.2.timers) := rfl

theorem flush_indexed {o : Outbox} (hs : o.Sound) (id : String) :
    (o.flush send sink now timers).2.1.contains id = true ↔
      ∃ c, ∃ a ∈ (o.flush send sink now timers).2.1.queue c, a.id = id := by
  obtain ⟨_, -, hpath⟩ := flush_way hs sink now timers []
  have hsound : (o.flush send sink now timers).2.1.Sound := (hpath.sound (hs.stage [])).outbox
  rw [hsound.contains_iff]
  simp [line]

/-- An action that was sent could be sent. -/
theorem pending_of_offered {o : Outbox} (hs : o.Sound) {offers : List Offer}
    (hqueued : ∀ x ∈ offers, ∃ c, ∃ a ∈ o.queue c, a.state = .pending ∧ a.frame = x.frame)
    {c : String} {a : Action} (ha : a ∈ o.queue c) {taken : Bool}
    (h : ⟨a.frame, taken⟩ ∈ offers) : a.state = .pending := by
  obtain ⟨d, b, hb, hpending, hframe⟩ := hqueued _ h
  rwa [← (hs.eq_of_frame hb ha hframe).2]

theorem Sound.accounted {o : Outbox} (hs : o.Sound) :
    Accounted o timers now (o.offersOf send sink now timers) (o.flush send sink now timers) := by
  have hindexed := flush_indexed send sink now timers hs
  -- an offer that was refused stays on the list
  have hcomplete := flush_underway (offering send) (R := fun s => ∃ x ∈ s.2, x.taken = false)
    (fun hsend => ⟨_, offers_of_offering hsend ▸ List.mem_cons_self, rfl⟩)
    (fun s a ⟨x, hx, htaken⟩ => ⟨x, List.mem_cons_of_mem _ hx, htaken⟩) o (sink, []) now timers
  have hwalk := Accounting.walk hs send timers (now + o.ackTimeout) sink
  rw [flush_seen offering_seen o (sink, []) now timers] at hindexed ⊢
  rw [offersOf]
  rw [flush_eq (offering send) (sink, []) now timers o] at hindexed hcomplete ⊢
  generalize o.chats.walk (fun f _ queue => flushQueue (offering send) (now + o.ackTimeout) f queue)
    ⟨(sink, []), timers, 0, [], false⟩ = walked at *
  dsimp only at *
  have hqueue : ∀ c, ((settleAll (.delivered none false) o walked.2.done).withChats
      (walked.1.filter fun _ queue => !queue.isEmpty)).queue c =
      (walked.1.get? c).getD [] := queue_filter o walked.1
  refine ⟨hwalk.counted, hwalk.last, hwalk.queued, hwalk.once,
    fun c => (hqueue c).trans (hwalk.queues c), fun c a ha => ?_,
    ⟨walked.2.done, hwalk.doneOnce, hwalk.done, settleAll_settled _ _ _⟩, fun c a ha hrefused => ?_,
    hwalk.others, fun htaken => ?_, hindexed⟩
  · rw [hqueue, hwalk.queues]
    constructor
    · rintro ⟨hstate, hmem, -⟩
      obtain ⟨b, hb, hafter⟩ := List.mem_filterMap.mp hmem
      obtain ⟨-, rfl⟩ := hs.unique hb ha (id_of_afterFlush hafter :)
      unfold afterFlush at hafter
      split_ifs at hafter with hsent hk
      · exact ⟨hk, hsent⟩
      · exact absurd (congrArg Action.state (Option.some.inj hafter)) hstate
    · rintro ⟨hk, hsent⟩
      have hpending := pending_of_offered hs hwalk.queued ha hsent
      refine ⟨by rw [hpending]; decide, List.mem_filterMap.mpr ⟨a, ha, ?_⟩,
        hwalk.armed c a ha hk hsent⟩
      rw [afterFlush, if_pos hsent, if_pos hk]
  · exact ⟨pending_of_offered hs hwalk.queued ha hrefused,
      (hqueue c).symm ▸ hwalk.front c a ha hrefused⟩
  · refine hcomplete.resolve_left ?_
    rintro ⟨x, hx, hrefused⟩
    rw [htaken x hx] at hrefused
    cases hrefused

end Flush

/-- **A flush accounts for every frame.** Whatever was done with an outbox before, whatever the
deadlines and the time are and whatever the sink refuses: what the flush returns, what it leaves in
the queues, what it settles and which deadlines it sets is what its offers say. -/
theorem flush_accounted (settings : Settings.Queue) (retry : Backoff) (earlier : Timers)
    (ops : List Operation) {σ : Type} (send : σ → Outgoing → Except SendFault Unit × σ) (sink : σ)
    (now : Instant) (timers : Timers) :
    let o := ((Run.new settings retry earlier).performAll ops).outbox
    Accounted o timers now (o.offersOf send sink now timers) (o.flush send sink now timers) :=
  (new_performAll_sound settings retry earlier ops).accounted send sink now timers

end RealtimeChat.Outbox
