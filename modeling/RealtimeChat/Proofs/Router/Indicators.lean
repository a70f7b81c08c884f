import RealtimeChat.Proofs.Router.Run
import RealtimeChat.Proofs.Router.Typing
/-!
# Typing indicators against the record

The tracker keeps a deadline for everybody who is typing. What it says about somebody is what the
last thing says that was done to their indicator: an event that was handed out, a deadline that
passed, or the end of all indicators.

* `Mark`, `Run.marks` -- what was done to the indicators in a run, as far as that is seen outside;
* `typingSince` -- since when somebody is typing, by the marks alone;
* `Shows`, **`performAll_shows`** -- in every run the tracker is in step with the marks;
* `AlikeFrom`, **`performAll_unswept`** -- a sweep changes nothing for those who ask later;
* `Indicated`, **`indicators_faithful`** -- each indicator runs out once, and who is typing is known
  whether or not the others were swept away.
-/

namespace RealtimeChat

/-- Whom a typing event is about, and whether they are typing. Without a chat it counts for the one
whose id is empty. -/
def Event.typing? (e : Event) : Option (Typist × Bool) :=
  match e.payload with
  | .typing user isTyping => some (⟨e.chat.getD "", user⟩, isTyping)
  | _ => none

namespace TypingTracker

/-- What an event that is handed out says about who is typing. -/
def hear (t : TypingTracker) (e : Event) (now : Instant) : TypingTracker :=
  match e.typing? with
  | some (who, true) => (t.start who now).2
  | some (who, false) => (t.stop who).2
  | none => t

theorem hear_expiry (t : TypingTracker) (e : Event) (now : Instant) :
    (t.hear e now).expiry = t.expiry := by
  unfold hear
  split
  · rfl
  · exact t.stop_expiry _
  · rfl

end TypingTracker

namespace Router

/-! ## 1. The record -/

/-- What was done to the typing indicators. -/
inductive Mark where
  /-- An event that was handed out says that somebody is typing, or is not any more. -/
  | reported (who : Typist) (isTyping : Bool) (time : Instant)
  /-- Somebody was said to have stopped since their indicator ran out. -/
  | ranOut (who : Typist)
  | cleared

/-- What an operation does to the indicators, by what it returns. -/
def Operation.marks (r : Router) : Operation → List Mark
  | .dispatch e now timers =>
    match (r.dispatch e now timers).1, e.typing? with
    | .delivered .., some (who, isTyping) => [.reported who isTyping now]
    | _, _ => []
  | .expireTyping now timers =>
    (r.expireTyping now timers).1.filterMap fun e => e.typing?.map fun x => .ranOut x.1
  | .clearTyping _ => [.cleared]
  | _ => []

/-- What operations do to the indicators, the newest mark in front. -/
def Run.marks (run : Run) : List Operation → List Mark
  | [] => []
  | op :: rest => (run.perform op).marks rest ++ op.marks run.router

/-- What a mark says about somebody: since when they are typing, or that they are not. -/
def Mark.about? (who : Typist) : Mark → Option (Option Instant)
  | .reported other isTyping time =>
    if other = who then some (if isTyping then some time else none) else none
  | .ranOut other => if other = who then some none else none
  | .cleared => some none

/-- Since when somebody is typing, by the newest mark that is about them. -/
def typingSince (marks : List Mark) (who : Typist) : Option Instant :=
  (marks.findSome? (Mark.about? who)).join

theorem typingSince_cons (m : Mark) (marks : List Mark) (who : Typist) :
    typingSince (m :: marks) who = (m.about? who).getD (typingSince marks who) := by
  rw [typingSince, List.findSome?_cons]
  cases m.about? who <;> rfl

/-- Whoever ran out is not typing any more, and nobody else is concerned. -/
theorem typingSince_ranOut (whos : List Typist) (marks : List Mark) (who : Typist) :
    typingSince (whos.map .ranOut ++ marks) who =
      if who ∈ whos then none else typingSince marks who := by
  induction whos with
  | nil => rfl
  | cons other rest ih =>
      rw [List.map_cons, List.cons_append, typingSince_cons, ih]
      by_cases hother : other = who
      · simp [Mark.about?, hother]
      · simp [Mark.about?, hother, Ne.symm hother]

/-! ## 2. What operations do to the tracker -/

/-- Whether an event is new, and the window with its key. -/
def admits (r : Router) (e : Event) (now : Instant) : Bool × DedupWindow :=
  match e.dedupKey? with
  | none => (true, r.dedup)
  | some key => r.dedup.insert key now

theorem trackTyping_hear (r : Router) (e : Event) (now : Instant) (timers : Timers) :
    (r.trackTyping e now timers).1 = { r with typing := r.typing.hear e now } := by
  unfold trackTyping TypingTracker.hear Event.typing?
  cases e.payload with
  | typing user isTyping => cases isTyping <;> rfl
  | message | statusChange | presence => rfl

theorem dispatch_eq (r : Router) (e : Event) (now : Instant) (timers : Timers) :
    r.dispatch e now timers =
      let r' := { r with dedup := (r.admits e now).2 }
      if (r.admits e now).1 then
        let (r', timers) := r'.trackTyping e now timers
        let (outcome, r') := r'.deliver e
        (outcome, r', timers)
      else (.duplicate, r', timers) := by
  unfold dispatch admits
  cases e.dedupKey? <;> rfl

/-- **What becomes of an event** is a matter of the window alone; one handed out is heard. -/
theorem dispatch_hear (r : Router) (e : Event) (now : Instant) (timers : Timers) :
    (r.dispatch e now timers).2.1.dedup = (r.admits e now).2 ∧
    (if (r.admits e now).1 then
      (∃ n, (r.dispatch e now timers).1 = .delivered e.kind n) ∧
        (r.dispatch e now timers).2.1.typing = r.typing.hear e now
    else (r.dispatch e now timers).1 = .duplicate ∧
      (r.dispatch e now timers).2.1.typing = r.typing) := by
  rw [dispatch_eq]
  by_cases hnew : (r.admits e now).1
  · simp [hnew, trackTyping_hear, deliver]
  · simp [hnew]

/-- Events that are handed out one after the other reach the subscribers of their kind one after the
other, and change nothing else. -/
theorem foldl_deliver_eq (events : List Event) (r : Router) :
    events.foldl (fun r e => (r.deliver e).2) r =
      { r with deliveries := r.deliveries ++
          events.flatMap fun e => (r.recipients e).map (⟨·.id, e⟩) } := by
  induction events generalizing r with
  | nil => simp
  | cons e rest ih =>
      rw [List.foldl_cons, ih, List.flatMap_cons, ← List.append_assoc]
      rfl

theorem expireTyping_eq (r : Router) (now : Instant) (timers : Timers) :
    (r.expireTyping now timers).1 = (r.typing.expire now).1.map stopEvent ∧
    (r.expireTyping now timers).2.1 =
      { r with
        typing := (r.typing.expire now).2
        deliveries := r.deliveries ++ ((r.typing.expire now).1.map stopEvent).flatMap
          fun e => (r.recipients e).map (⟨·.id, e⟩) } :=
  ⟨rfl, foldl_deliver_eq _ _⟩

/-- The event that says that somebody stopped is about them. -/
theorem stopEvent_typing? (who : Typist) : (stopEvent who).typing? = some (who, false) := by
  obtain ⟨chat, user⟩ := who
  by_cases h : chat = "" <;> simp [stopEvent, Event.typing?, h]

theorem marks_expireTyping (r : Router) (now : Instant) (timers : Timers) :
    Operation.marks r (.expireTyping now timers) = (r.typing.expire now).1.map .ranOut := by
  have hranOut : (fun e : Event => e.typing?.map fun x => Mark.ranOut x.1) ∘ stopEvent =
      some ∘ Mark.ranOut := by
    funext who
    rw [Function.comp_apply, stopEvent_typing?, Option.map_some, Function.comp_apply]
  simp only [Operation.marks, (r.expireTyping_eq now timers).1, List.filterMap_map, hranOut,
    List.filterMap_eq_map]

/-! ## 3. The tracker against the marks -/

/-- The tracker knows of somebody what the marks say about them. -/
structure Shows (span : Duration) (r : Router) (marks : List Mark) : Prop where
  expiry : r.typing.expiry = span
  deadline : ∀ who, r.typing.deadline? who = (typingSince marks who).map (· + span)

section Steps

variable {span : Duration} {run : Run} {marks : List Mark}

theorem Shows.deadline_iff {r : Router} (h : Shows span r marks) (who : Typist)
    (p : Instant → Prop) : (∃ d, r.typing.deadline? who = some d ∧ p d) ↔
      ∃ since, typingSince marks who = some since ∧ p (since + span) := by
  rw [h.deadline]
  cases typingSince marks who <;> simp

theorem Shows.of_typing {r r' : Router} (h : Shows span r marks) (hr : r'.typing = r.typing) :
    Shows span r' marks := by
  constructor
  · exact hr ▸ h.expiry
  · exact hr ▸ h.deadline

theorem Shows.dispatch {r : Router} (h : Shows span r marks) (e : Event) (now : Instant)
    (timers : Timers) : Shows span (r.dispatch e now timers).2.1
      (Operation.marks r (.dispatch e now timers) ++ marks) := by
  have hdispatch := (r.dispatch_hear e now timers).2
  split at hdispatch
  · obtain ⟨⟨n, houtcome⟩, htyping⟩ := hdispatch
    simp only [Operation.marks, houtcome]
    cases htold : e.typing? with
    | none =>
        refine h.of_typing ?_
        rw [htyping, TypingTracker.hear, htold]
    | some told =>
        obtain ⟨who, isTyping⟩ := told
        refine ⟨by rw [htyping, TypingTracker.hear_expiry, h.expiry], fun other => ?_⟩
        show _ = (typingSince (.reported who isTyping now :: marks) other).map _
        rw [typingSince_cons, htyping, TypingTracker.hear, htold]
        cases isTyping with
        | true =>
            rw [TypingTracker.deadline?_start, h.deadline, h.expiry]
            by_cases hwho : who = other <;> simp [Mark.about?, hwho]
        | false =>
            rw [TypingTracker.deadline?_stop, h.deadline]
            by_cases hwho : who = other <;> simp [Mark.about?, hwho]
  · obtain ⟨houtcome, htyping⟩ := hdispatch
    simp only [Operation.marks, houtcome]
    exact h.of_typing htyping

theorem Shows.expire {r : Router} (h : Shows span r marks) (now : Instant) (timers : Timers) :
    Shows span (r.expireTyping now timers).2.1
      (Operation.marks r (.expireTyping now timers) ++ marks) := by
  rw [marks_expireTyping, (r.expireTyping_eq now timers).2]
  refine ⟨h.expiry, fun who => ?_⟩
  show (r.typing.expire now).2.deadline? who = _
  rw [TypingTracker.deadline?_expire, typingSince_ranOut]
  have hmem : who ∈ (r.typing.expire now).1 ↔ ∃ d, r.typing.deadline? who = some d ∧ d ≤ now :=
    TypingTracker.mem_expire_iff
  cases hd : r.typing.deadline? who with
  | none =>
      rw [hd] at hmem
      rw [if_neg (by simp [hmem]), ← h.deadline, hd]
      rfl
  | some d =>
      rw [hd] at hmem
      by_cases hnow : d ≤ now
      · rw [if_pos (hmem.mpr ⟨d, rfl, hnow⟩)]
        simp [hnow]
      · rw [if_neg (by simpa [hmem] using hnow), ← h.deadline, hd]
        simp [Nat.lt_of_not_le hnow]

/-- **Every operation keeps the tracker in step with the marks.** -/
theorem perform_shows (h : Shows span run.router marks) (op : Operation) :
    Shows span (run.perform op).router (op.marks run.router ++ marks) := by
  cases op with
  | dispatch e now timers => exact h.dispatch e now timers
  | expireTyping now timers => exact h.expire now timers
  | clearTyping timers => exact ⟨h.expiry, fun who => rfl⟩
  | subscribe kind => exact h.of_typing rfl
  | unsubscribe id => exact h.of_typing rfl
  | takeDeliveries => exact h.of_typing rfl

theorem performAll_shows (h : Shows span run.router marks) (ops : List Operation) :
    Shows span (run.performAll ops).router (run.marks ops ++ marks) := by
  induction ops generalizing run marks with
  | nil => exact h
  | cons op rest ih =>
      have hrest := ih (perform_shows h op)
      rwa [← List.append_assoc] at hrest

end Steps

/-! ## 4. Runs without sweeps -/

/-- Whether an operation sweeps the indicators, not later than `now`. -/
def Operation.sweepsBy (now : Instant) : Operation → Bool
  | .expireTyping time _ => time ≤ now
  | _ => false

/-- Two routers that admit the same events and agree on who is typing, for all who ask at `now` or
later. What has run out by then may still be there in one of them. -/
structure AlikeFrom (now : Instant) (r r' : Router) : Prop where
  dedup : r'.dedup = r.dedup
  expiry : r'.typing.expiry = r.typing.expiry
  ahead : ∀ who, (r'.typing.deadline? who).filter (fun d => now < d) =
    (r.typing.deadline? who).filter (fun d => now < d)

section Alike

variable {now : Instant} {run run' : Run}

theorem AlikeFrom.rfl {r : Router} : AlikeFrom now r r := ⟨.refl _, .refl _, fun _ => .refl _⟩

theorem AlikeFrom.trans {r r' r'' : Router} (h : AlikeFrom now r r') (h' : AlikeFrom now r' r'') :
    AlikeFrom now r r'' :=
  ⟨h'.dedup.trans h.dedup, h'.expiry.trans h.expiry, fun who => (h'.ahead who).trans (h.ahead who)⟩

/-- Routers that agree hear the same. -/
theorem AlikeFrom.hear {r r' : Router} (h : AlikeFrom now r r') (e : Event) (time : Instant)
    (who : Typist) : ((r'.typing.hear e time).deadline? who).filter (fun d => now < d) =
      ((r.typing.hear e time).deadline? who).filter (fun d => now < d) := by
  unfold TypingTracker.hear
  split
  · rw [TypingTracker.deadline?_start, TypingTracker.deadline?_start, h.expiry]
    split
    · rfl
    · exact h.ahead who
  · rw [TypingTracker.deadline?_stop, TypingTracker.deadline?_stop]
    split
    · rfl
    · exact h.ahead who
  · exact h.ahead who

theorem AlikeFrom.dispatch {r r' : Router} (h : AlikeFrom now r r') (e : Event) (time : Instant)
    (timers : Timers) :
    AlikeFrom now (r.dispatch e time timers).2.1 (r'.dispatch e time timers).2.1 := by
  have hadmits : r'.admits e time = r.admits e time := by
    unfold admits
    rw [h.dedup]
  obtain ⟨hdedup, hr⟩ := r.dispatch_hear e time timers
  obtain ⟨hdedup', hr'⟩ := r'.dispatch_hear e time timers
  rw [hadmits] at hdedup' hr'
  have hsame := hdedup'.trans hdedup.symm
  split at hr'
  · rw [if_pos ‹_›] at hr
    refine ⟨hsame, ?_, fun who => ?_⟩
    · rw [hr.2, hr'.2, TypingTracker.hear_expiry, TypingTracker.hear_expiry, h.expiry]
    · rw [hr.2, hr'.2, h.hear e time who]
  · rw [if_neg ‹_›] at hr
    exact ⟨hsame, by rw [hr.2, hr'.2, h.expiry], fun who => by rw [hr.2, hr'.2, h.ahead who]⟩

theorem AlikeFrom.expire {r r' : Router} (h : AlikeFrom now r r') (time : Instant)
    (timers : Timers) :
    AlikeFrom now (r.expireTyping time timers).2.1 (r'.expireTyping time timers).2.1 := by
  rw [(r.expireTyping_eq time timers).2, (r'.expireTyping_eq time timers).2]
  refine ⟨h.dedup, h.expiry, fun who => ?_⟩
  show ((r'.typing.expire time).2.deadline? who).filter _ =
    ((r.typing.expire time).2.deadline? who).filter _
  have hwho := congrArg (Option.filter fun d => time < d) (h.ahead who)
  simp only [Option.filter_filter] at hwho
  simp only [TypingTracker.deadline?_expire, Option.filter_filter, Bool.and_comm, hwho]

/-- **A sweep changes nothing for those who ask later.** -/
theorem AlikeFrom.sweep {r : Router} {time : Instant} (htime : time ≤ now) (timers : Timers) :
    AlikeFrom now (r.expireTyping time timers).2.1 r := by
  rw [(r.expireTyping_eq time timers).2]
  refine ⟨.refl _, .refl _, fun who => ?_⟩
  show _ = ((r.typing.expire time).2.deadline? who).filter _
  rw [TypingTracker.deadline?_expire, Option.filter_filter]
  refine congrArg (Option.filter · _) (funext fun d => ?_)
  by_cases hd : now < d
  · simp [hd, Nat.lt_of_le_of_lt htime hd]
  · simp [hd]

/-- Every operation keeps two routers alike. -/
theorem AlikeFrom.perform (h : AlikeFrom now run.router run'.router) (op : Operation) :
    AlikeFrom now (run.perform op).router (run'.perform op).router := by
  cases op with
  | dispatch e time timers => exact h.dispatch e time timers
  | expireTyping time timers => exact h.expire time timers
  | clearTyping timers => exact ⟨h.dedup, h.expiry, fun _ => .refl _⟩
  | subscribe kind => exact ⟨h.dedup, h.expiry, h.ahead⟩
  | unsubscribe id => exact ⟨h.dedup, h.expiry, h.ahead⟩
  | takeDeliveries => exact ⟨h.dedup, h.expiry, h.ahead⟩

theorem performAll_alike (h : AlikeFrom now run.router run'.router) (ops : List Operation) :
    AlikeFrom now (run.performAll ops).router
      (run'.performAll (ops.filter fun op => !op.sweepsBy now)).router := by
  induction ops generalizing run run' with
  | nil => exact h
  | cons op rest ih =>
      cases hsweep : op.sweepsBy now with
      | false =>
          rw [List.filter_cons_of_pos (by simp [hsweep])]
          exact ih (h.perform op)
      | true =>
          rw [List.filter_cons_of_neg (by simp [hsweep])]
          cases op with
          | expireTyping time timers =>
              exact ih ((AlikeFrom.sweep (of_decide_eq_true hsweep) timers).trans h)
          | _ => cases hsweep

/-- **Who is typing does not depend on the sweeps so far.** -/
theorem performAll_unswept (run : Run) (ops : List Operation) (chat : String) (now : Instant) :
    (run.performAll (ops.filter fun op => !op.sweepsBy now)).router.typingUsers chat now =
      (run.performAll ops).router.typingUsers chat now :=
  TypingTracker.users_congr chat (performAll_alike AlikeFrom.rfl ops).ahead

end Alike

/-! ## 5. The subscribers -/

/-- No two subscribers have the same number, and new ones get a new one. -/
structure Distinct (r : Router) : Prop where
  ids : r.subscribers.Pairwise (fun s s' => s.id ≠ s'.id)
  new : ∀ s ∈ r.subscribers, s.id < r.nextId

theorem Distinct.subscribe {r : Router} (h : r.Distinct) (kind : Event.Kind) :
    (r.subscribe kind).2.Distinct := by
  refine ⟨List.pairwise_append.mpr ⟨h.ids, List.pairwise_singleton _ _, fun s hs s' hs' => ?_⟩,
    fun s hs => ?_⟩
  · rw [List.mem_singleton.mp hs']
    exact Nat.ne_of_lt (h.new s hs)
  · rcases List.mem_append.mp hs with hs | hs
    · exact Nat.lt_succ_of_lt (h.new s hs)
    · rw [List.mem_singleton.mp hs]
      exact Nat.lt_succ_self _

theorem perform_distinct {run : Run} (h : run.router.Distinct) (op : Operation) :
    (run.perform op).router.Distinct := by
  cases op with
  | dispatch e now timers =>
      show (run.router.dispatch e now timers).2.1.Distinct
      generalize hx : run.router.dispatch e now timers = x
      have hrouting := run.router.dispatch_routing e now timers
      rw [hx] at hrouting
      cases hrouting with
      | repeated => exact ⟨h.ids, h.new⟩
      | handed => exact ⟨h.ids, h.new⟩
  | expireTyping now timers =>
      show (run.router.expireTyping now timers).2.1.Distinct
      rw [(run.router.expireTyping_eq now timers).2]
      exact ⟨h.ids, h.new⟩
  | clearTyping timers => exact ⟨h.ids, h.new⟩
  | subscribe kind => exact h.subscribe kind
  | unsubscribe id =>
      exact ⟨h.ids.filter _, fun s hs => h.new s (List.mem_filter.mp hs |>.1)⟩
  | takeDeliveries => exact ⟨h.ids, h.new⟩

theorem performAll_distinct {run : Run} (h : run.router.Distinct) (ops : List Operation) :
    (run.performAll ops).router.Distinct := by
  induction ops generalizing run with
  | nil => exact h
  | cons op rest ih => exact ih (perform_distinct h op)

/-! ## 6. The rule -/

/-- What a router says about typing at an instant, by the marks up to then. -/
structure Indicated (span : Duration) (marks : List Mark) (r : Router) (now : Instant)
    (timers : Timers) : Prop where
  /-- Exactly the typists whose report is too old are said to have stopped, by chat and user. -/
  expired : ∃ whos : List Typist, (r.expireTyping now timers).1 = whos.map stopEvent ∧
    whos.Pairwise (fun a b => a.chat < b.chat ∨ a.chat = b.chat ∧ a.user < b.user) ∧
    ∀ who, who ∈ whos ↔ ∃ since, typingSince marks who = some since ∧ since + span ≤ now
  /-- Every one of these events is handed to each subscriber to typing events, and to nobody
  else. -/
  handed : (r.expireTyping now timers).2.1.deliveries =
    r.deliveries ++ (r.expireTyping now timers).1.flatMap fun e =>
      (r.subscribers.filter (·.kind = .typing)).map (⟨·.id, e⟩)
  /-- No subscriber is listed twice. -/
  subscribers : (r.subscribers.map (·.id)).Nodup
  users : ∀ chat, (r.typingUsers chat now).Pairwise (· < ·) ∧
    ∀ user, user ∈ r.typingUsers chat now ↔
      ∃ since, typingSince marks ⟨chat, user⟩ = some since ∧ now < since + span

theorem Shows.indicated {span : Duration} {marks : List Mark} {r : Router}
    (h : Shows span r marks) (hdistinct : r.Distinct) (now : Instant) (timers : Timers) :
    Indicated span marks r now timers where
  expired := by
    refine ⟨_, (r.expireTyping_eq now timers).1, r.typing.expire_rising now, fun who => ?_⟩
    exact TypingTracker.mem_expire_iff.trans (h.deadline_iff who (· ≤ now))
  handed := by
    rw [(r.expireTyping_eq now timers).2, (r.expireTyping_eq now timers).1,
      List.flatMap_map, List.flatMap_map]
    rfl
  subscribers := List.pairwise_map.mpr hdistinct.ids
  users chat := by
    refine ⟨r.typing.users_rising chat now, fun user => ?_⟩
    exact TypingTracker.mem_users_iff.trans (h.deadline_iff ⟨chat, user⟩ (now < ·))

/-- **Typing indicators are faithful to what was reported.** After any run somebody is said to have
stopped iff the last thing said about them is a report that they are typing, and that is too old by
now; and exactly those are typing whose report is not too old. It makes no difference whether there
were sweeps up to now. -/
theorem indicators_faithful (settings : Settings.Routing) (ops : List Operation) (now : Instant)
    (timers : Timers) :
    Indicated settings.typingExpiry ((Run.start (.new settings)).marks ops)
      ((Run.start (.new settings)).performAll ops).router now timers ∧
    ∀ chat, ((Run.start (.new settings)).performAll (ops.filter fun op =>
        !op.sweepsBy now)).router.typingUsers chat now =
      ((Run.start (.new settings)).performAll ops).router.typingUsers chat now := by
  have hstart : Shows settings.typingExpiry (.new settings) [] := ⟨rfl, fun _ => rfl⟩
  have hdistinct : (Router.new settings).Distinct := ⟨.nil, by simp [Router.new]⟩
  have hshows : Shows settings.typingExpiry ((Run.start (.new settings)).performAll ops).router
      ((Run.start (.new settings)).marks ops ++ []) := performAll_shows hstart ops
  rw [List.append_nil] at hshows
  exact ⟨hshows.indicated (performAll_distinct hdistinct ops) now timers,
    fun chat => performAll_unswept _ ops chat now⟩

end Router

end RealtimeChat
