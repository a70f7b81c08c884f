import Mathlib.Data.List.Induction
import RealtimeChat.Action
import RealtimeChat.Proofs.Router.Indicators
/-!
# Who is handed an event

An event that is handed out goes to everybody who is subscribed to its kind at that time, and so
does the end of a typing indicator. What a subscription gets can therefore be read off a list of
what happened: the events of its kind that were handed out from its beginning to its end.

* `Occurrence` -- what happens, as far as subscribers and the store are concerned;
* `attend`, `fanOut` -- who is subscribed then, and what goes to whom;
* `heard` -- the events that a subscription should get;
* **`fanOut_begun`**, `attends_begun` -- it gets them, once each and in order, and stands until it
  ends;
* `Operation.occurrences`, `Unfolds`, **`perform_unfolds`** -- what operations on a router are, as
  far as subscribers are concerned.
-/

namespace RealtimeChat

/-! ## 1. What happens -/

/-- What happens, as far as subscribers and the store are concerned. -/
inductive Occurrence where
  | subscribed (id : SubscriptionId) (kind : Event.Kind)
  | unsubscribed (id : SubscriptionId)
  /-- An event is handed out: one of the server, one from history, or the end of a typing
  indicator. -/
  | handed (event : Event)
  /-- A message is queued, and an event stands for it until the server brings it. -/
  | echoed (event : Event)
  | settled (s : Settlement)
deriving DecidableEq

namespace Occurrence

/-- The number of a subscription that begins. -/
def subscription? : Occurrence → Option SubscriptionId
  | .subscribed id _ => some id
  | _ => none

/-- The event that is handed out. -/
def event? : Occurrence → Option Event
  | .handed event => some event
  | _ => none

/-- What is settled. -/
def settlement? : Occurrence → Option Settlement
  | .settled s => some s
  | _ => none

/-- No subscription begins or ends. -/
def Quiet : Occurrence → Prop
  | .subscribed .. | .unsubscribed _ => False
  | .handed _ | .echoed _ | .settled _ => True

theorem Quiet.subscription? {x : Occurrence} (h : x.Quiet) : x.subscription? = none := by
  cases x with
  | subscribed id kind => exact h.elim
  | _ => rfl

end Occurrence

namespace Router

/-- Who is subscribed after an occurrence. -/
def attend (subscribers : List Subscriber) : Occurrence → List Subscriber
  | .subscribed id kind => subscribers ++ [⟨id, kind⟩]
  | .unsubscribed id => subscribers.filter (·.id ≠ id)
  | _ => subscribers

/-- What goes to whom with an occurrence. -/
def handOut (subscribers : List Subscriber) : Occurrence → List Delivery
  | .handed event => (subscribers.filter (·.kind = event.kind)).map (⟨·.id, event⟩)
  | _ => []

/-- What goes to whom with occurrences, one after the other. -/
def fanOut : List Subscriber → List Occurrence → List Delivery
  | _, [] => []
  | subscribers, x :: rest => handOut subscribers x ++ fanOut (attend subscribers x) rest

theorem fanOut_append (subscribers : List Subscriber) (marks marks' : List Occurrence) :
    fanOut subscribers (marks ++ marks') =
      fanOut subscribers marks ++ fanOut (marks.foldl attend subscribers) marks' := by
  induction marks generalizing subscribers with
  | nil => rfl
  | cons x rest ih => rw [List.cons_append, fanOut, ih, ← List.append_assoc]; rfl

theorem attends_quiet {marks : List Occurrence} (hmarks : ∀ x ∈ marks, x.Quiet)
    (subscribers : List Subscriber) : marks.foldl attend subscribers = subscribers := by
  induction marks with
  | nil => rfl
  | cons x rest ih =>
      obtain ⟨hx, hrest⟩ := List.forall_mem_cons.mp hmarks
      cases x with
      | subscribed id kind => exact hx.elim
      | unsubscribed id => exact hx.elim
      | handed _ | echoed _ | settled _ => exact ih hrest

/-! ## 2. One subscription -/

/-- The events of a kind that are handed out until a subscription ends. -/
def heard (id : SubscriptionId) (kind : Event.Kind) (after : List Occurrence) : List Event :=
  ((after.takeWhile (· ≠ .unsubscribed id)).filterMap Occurrence.event?).filter (·.kind = kind)

/-- The event that goes to a subscription. -/
def Delivery.toward? (id : SubscriptionId) (d : Delivery) : Option Event :=
  if d.subscription = id then some d.event else none

section Heard

variable {id : SubscriptionId} {kind : Event.Kind}

theorem heard_cons (x : Occurrence) (rest : List Occurrence) :
    heard id kind (x :: rest) = if x = .unsubscribed id then []
      else x.event?.toList.filter (·.kind = kind) ++ heard id kind rest := by
  rw [heard, List.takeWhile_cons]
  by_cases hend : x = .unsubscribed id
  · simp [hend]
  · cases hevent : x.event? with
    | none => simp [hend, hevent, heard]
    | some event => by_cases hkind : event.kind = kind <;> simp [hend, hevent, hkind, heard]

/-- Nobody else is concerned by a subscription. -/
theorem filter_attend (subscribers : List Subscriber) {x : Occurrence}
    (hx : x.subscription? ≠ some id) (hx' : x ≠ .unsubscribed id) :
    (attend subscribers x).filter (·.id = id) = subscribers.filter (·.id = id) := by
  cases x with
  | subscribed other otherKind =>
      have hother : other ≠ id := fun heq => hx (congrArg some heq)
      simp [attend, hother]
  | unsubscribed other =>
      have hother : id ≠ other := fun heq => hx' (heq ▸ rfl)
      rw [attend, List.filter_filter]
      refine List.filter_congr fun s _ => ?_
      by_cases hs : s.id = id
      · simp [hs, hother]
      · simp [hs]
  | handed _ | echoed _ | settled _ => rfl

theorem filter_attend_unsubscribed (subscribers : List Subscriber) (id : SubscriptionId) :
    (attend subscribers (.unsubscribed id)).filter (·.id = id) = [] := by
  rw [attend, List.filter_filter, List.filter_eq_nil_iff]
  simp

/-- A number that nobody has, and nobody gets, stays one. -/
theorem filter_attends {marks : List Occurrence} (hmarks : ∀ x ∈ marks, x.subscription? ≠ some id)
    {subscribers : List Subscriber} (h : subscribers.filter (·.id = id) = []) :
    (marks.foldl attend subscribers).filter (·.id = id) = [] := by
  induction marks generalizing subscribers with
  | nil => exact h
  | cons x rest ih =>
      obtain ⟨hx, hrest⟩ := List.forall_mem_cons.mp hmarks
      refine ih hrest ?_
      by_cases hend : x = .unsubscribed id
      · rw [hend]
        exact filter_attend_unsubscribed subscribers id
      · rw [filter_attend subscribers hx hend, h]

/-- A subscription stands until it ends. -/
theorem filter_attends_begun {marks : List Occurrence}
    (hmarks : ∀ x ∈ marks, x.subscription? ≠ some id) {subscribers : List Subscriber}
    (h : subscribers.filter (·.id = id) = [⟨id, kind⟩]) :
    (marks.foldl attend subscribers).filter (·.id = id) =
      if .unsubscribed id ∈ marks then [] else [⟨id, kind⟩] := by
  induction marks generalizing subscribers with
  | nil => exact h
  | cons x rest ih =>
      obtain ⟨hx, hrest⟩ := List.forall_mem_cons.mp hmarks
      by_cases hend : x = .unsubscribed id
      · rw [hend, if_pos List.mem_cons_self]
        exact filter_attends hrest (filter_attend_unsubscribed subscribers id)
      · rw [List.foldl_cons, ih hrest ((filter_attend subscribers hx hend).trans h)]
        simp [Ne.symm hend]

/-- What goes to a subscription with one event. -/
theorem handOut_toward (subscribers : List Subscriber) (event : Event) :
    (handOut subscribers (.handed event)).filterMap (Delivery.toward? id) =
      ((subscribers.filter (·.id = id)).filter (·.kind = event.kind)).map fun _ => event := by
  rw [handOut, List.filterMap_map]
  induction subscribers with
  | nil => rfl
  | cons s rest ih =>
      by_cases hid : s.id = id <;> by_cases hkind : s.kind = event.kind <;>
        simp [hid, hkind, Delivery.toward?, ih]

theorem fanOut_nobody {marks : List Occurrence} (hmarks : ∀ x ∈ marks, x.subscription? ≠ some id)
    {subscribers : List Subscriber} (h : subscribers.filter (·.id = id) = []) :
    (fanOut subscribers marks).filterMap (Delivery.toward? id) = [] := by
  induction marks generalizing subscribers with
  | nil => rfl
  | cons x rest ih =>
      obtain ⟨hx, hrest⟩ := List.forall_mem_cons.mp hmarks
      have hnone : (handOut subscribers x).filterMap (Delivery.toward? id) = [] := by
        cases x with
        | handed event => rw [handOut_toward, h]; rfl
        | _ => rfl
      have hstill : (attend subscribers x).filter (·.id = id) = [] :=
        filter_attends (List.forall_mem_singleton.mpr hx) h
      rw [fanOut, List.filterMap_append, hnone, ih hrest hstill]
      rfl

/-- **What a subscription gets from here on** are the events of its kind that are handed out until
it ends, once each and in order. -/
theorem fanOut_heard {marks : List Occurrence} (hmarks : ∀ x ∈ marks, x.subscription? ≠ some id)
    {subscribers : List Subscriber} (h : subscribers.filter (·.id = id) = [⟨id, kind⟩]) :
    (fanOut subscribers marks).filterMap (Delivery.toward? id) = heard id kind marks := by
  induction marks generalizing subscribers with
  | nil => rfl
  | cons x rest ih =>
      obtain ⟨hx, hrest⟩ := List.forall_mem_cons.mp hmarks
      rw [fanOut, List.filterMap_append]
      by_cases hend : x = .unsubscribed id
      · -- nothing is handed to it any more
        subst hend
        rw [fanOut_nobody hrest (filter_attend_unsubscribed subscribers id), heard_cons, if_pos rfl]
        rfl
      · rw [ih hrest ((filter_attend subscribers hx hend).trans h), heard_cons, if_neg hend]
        refine congrArg (· ++ heard id kind rest) ?_
        cases x with
        | handed event =>
            rw [handOut_toward, h]
            by_cases hkind : kind = event.kind
            · simp [hkind, Occurrence.event?]
            · simp [hkind, Ne.symm hkind, Occurrence.event?]
        | _ => rfl

/-- If no two subscriptions have one number, there is none with the number of one that begins, and
none gets it any more. -/
theorem begun_alone {before after : List Occurrence}
    (hnumbers : ((before ++ .subscribed id kind :: after).filterMap
      Occurrence.subscription?).Nodup) :
    (∀ x ∈ before, x.subscription? ≠ some id) ∧ (∀ x ∈ after, x.subscription? ≠ some id) ∧
      (attend (before.foldl attend []) (.subscribed id kind)).filter (·.id = id) =
        [⟨id, kind⟩] := by
  rw [List.filterMap_append, List.filterMap_cons] at hnumbers
  obtain ⟨-, hbegun, hapart⟩ := List.nodup_append.mp hnumbers
  have hbefore : ∀ x ∈ before, x.subscription? ≠ some id := fun x hx heq =>
    hapart id (List.mem_filterMap.mpr ⟨x, hx, heq⟩) id List.mem_cons_self rfl
  refine ⟨hbefore, fun x hx heq =>
    (List.nodup_cons.mp hbegun).1 (List.mem_filterMap.mpr ⟨x, hx, heq⟩), ?_⟩
  have hnobody : (before.foldl attend []).filter (·.id = id) = [] := filter_attends hbefore rfl
  rw [attend, List.filter_append, hnobody]
  simp

/-- **What a subscription gets** are the events of its kind that are handed out from its beginning
to its end. -/
theorem fanOut_begun {before after : List Occurrence}
    (hnumbers : ((before ++ .subscribed id kind :: after).filterMap
      Occurrence.subscription?).Nodup) :
    (fanOut [] (before ++ .subscribed id kind :: after)).filterMap (Delivery.toward? id) =
      heard id kind after := by
  obtain ⟨hbefore, hafter, hbegun⟩ := begun_alone hnumbers
  rw [fanOut_append, List.filterMap_append, fanOut_nobody hbefore rfl, fanOut,
    List.filterMap_append, fanOut_heard hafter hbegun]
  rfl

/-- **It stands** as long as it has not ended. -/
theorem attends_begun {before after : List Occurrence}
    (hnumbers : ((before ++ .subscribed id kind :: after).filterMap
      Occurrence.subscription?).Nodup) :
    ((before ++ .subscribed id kind :: after).foldl attend []).filter (·.id = id) =
      if .unsubscribed id ∈ after then [] else [⟨id, kind⟩] := by
  obtain ⟨-, hafter, hbegun⟩ := begun_alone hnumbers
  rw [List.foldl_append, List.foldl_cons]
  exact filter_attends_begun hafter hbegun

end Heard

/-- Something goes only to somebody who has begun to be subscribed. -/
theorem mem_fanOut {d : Delivery} {marks : List Occurrence} (h : d ∈ fanOut [] marks) :
    d.subscription ∈ marks.filterMap Occurrence.subscription? := by
  by_contra hno
  have hmarks : ∀ x ∈ marks, x.subscription? ≠ some d.subscription := fun x hx heq =>
    hno (List.mem_filterMap.mpr ⟨x, hx, heq⟩)
  have hmem : d.event ∈ (fanOut [] marks).filterMap (Delivery.toward? d.subscription) :=
    List.mem_filterMap.mpr ⟨d, h, if_pos rfl⟩
  rw [fanOut_nobody hmarks rfl] at hmem
  exact List.not_mem_nil hmem

/-! ## 3. Operations on a router -/

/-- What an operation is to subscribers, by what it returns. -/
def Operation.occurrences (r : Router) : Operation → List Occurrence
  | .dispatch e now timers =>
    match (r.dispatch e now timers).1 with
    | .delivered .. => [.handed e]
    | _ => []
  | .expireTyping now timers => (r.expireTyping now timers).1.map .handed
  | .subscribe kind => [.subscribed (r.subscribe kind).1 kind]
  | .unsubscribe id => [.unsubscribed id]
  | .clearTyping _ | .takeDeliveries => []

theorem Operation.occurrences_settlement (r : Router) (op : Operation) :
    (op.occurrences r).filterMap Occurrence.settlement? = [] := by
  cases op with
  | dispatch e now timers =>
      dsimp only [occurrences]
      split <;> rfl
  | expireTyping now timers =>
      rw [occurrences, List.filterMap_map]
      exact List.filterMap_eq_nil_iff.mpr fun _ _ => rfl
  | _ => rfl

/-- What operations are to subscribers, one after the other. -/
def occurrences : Router → List Operation → List Occurrence
  | _, [] => []
  | r, op :: rest => op.occurrences r ++ occurrences ((Run.start r).perform op).router rest

theorem occurrences_append (r : Router) (ops ops' : List Operation) :
    r.occurrences (ops ++ ops') =
      r.occurrences ops ++ ((Run.start r).performAll ops).router.occurrences ops' := by
  induction ops generalizing r with
  | nil => rfl
  | cons op rest ih =>
      have hrouter : (((Run.start r).perform op).performAll rest).router =
          ((Run.start ((Run.start r).perform op).router).performAll rest).router := by
        have hlog := Run.performAll_eq ((Run.start r).perform op).router
          ((Run.start r).perform op).log rest
        rw [hlog]
        rfl
      show op.occurrences r ++ occurrences _ (rest ++ ops') = (op.occurrences r ++ _) ++
        (((Run.start r).perform op).performAll rest).router.occurrences ops'
      rw [ih, hrouter, List.append_assoc]

/-- The operation has to do with events, and neither with subscribing nor with what was handed out
before. -/
def Operation.Inner : Operation → Prop
  | .dispatch .. | .expireTyping .. | .clearTyping _ => True
  | .subscribe _ | .unsubscribe _ | .takeDeliveries => False

/-- Between two routers these things happened, and nobody began or ended a subscription. What was
handed out is known by them. -/
structure Unfolds (r : Router) (marks : List Occurrence) (r' : Router) : Prop where
  quiet : ∀ x ∈ marks, x.Quiet
  subscribers : r'.subscribers = r.subscribers
  nextId : r'.nextId = r.nextId
  deliveries : r'.deliveries = r.deliveries ++ fanOut r.subscribers marks

namespace Unfolds

variable {r r' r'' : Router} {marks marks' : List Occurrence}

/-- Nothing that concerns subscribers. -/
theorem still (hs : r'.subscribers = r.subscribers) (hn : r'.nextId = r.nextId)
    (hd : r'.deliveries = r.deliveries) : Unfolds r [] r' :=
  ⟨fun _ hx => absurd hx List.not_mem_nil, hs, hn, hd.trans (List.append_nil _).symm⟩

theorem trans (h : Unfolds r marks r') (h' : Unfolds r' marks' r'') :
    Unfolds r (marks ++ marks') r'' where
  quiet x hx := (List.mem_append.mp hx).elim (h.quiet x) (h'.quiet x)
  subscribers := h'.subscribers.trans h.subscribers
  nextId := h'.nextId.trans h.nextId
  deliveries := by
    rw [h'.deliveries, h.deliveries, h.subscribers, fanOut_append, attends_quiet h.quiet,
      List.append_assoc]

end Unfolds

theorem fanOut_handed (subscribers : List Subscriber) (events : List Event) :
    fanOut subscribers (events.map .handed) =
      events.flatMap fun e => (subscribers.filter (·.kind = e.kind)).map (⟨·.id, e⟩) := by
  induction events with
  | nil => rfl
  | cons e rest ih => rw [List.flatMap_cons, ← ih]; rfl

/-- Events are handed out, one after the other. -/
theorem Unfolds.handed {r r' : Router} {events : List Event}
    (hs : r'.subscribers = r.subscribers) (hn : r'.nextId = r.nextId)
    (hd : r'.deliveries = r.deliveries ++ events.flatMap fun e =>
      (r.recipients e).map (⟨·.id, e⟩)) : Unfolds r (events.map .handed) r' := by
  refine ⟨fun x hx => ?_, hs, hn, ?_⟩
  · obtain ⟨e, -, rfl⟩ := List.mem_map.mp hx
    trivial
  · rw [hd, fanOut_handed]
    rfl

/-- **An operation is what it returns**, as far as subscribers are concerned. -/
theorem perform_unfolds (run : Run) {op : Operation} (hop : op.Inner) :
    Unfolds run.router (op.occurrences run.router) (run.perform op).router := by
  cases op with
  | dispatch e now timers =>
      show Unfolds run.router _ (run.router.dispatch e now timers).2.1
      dsimp only [Operation.occurrences]
      have hrouting := run.router.dispatch_routing e now timers
      generalize run.router.dispatch e now timers = x at hrouting
      cases hrouting with
      | repeated key dedup hkey hinsert => exact .still rfl rfl rfl
      | handed dedup typing timers' hdedup =>
          show Unfolds run.router ([e].map .handed) _
          refine .handed rfl rfl ?_
          rw [List.flatMap_singleton]
  | expireTyping now timers =>
      show Unfolds run.router _ (run.router.expireTyping now timers).2.1
      obtain ⟨hstops, hrouter⟩ := run.router.expireTyping_eq now timers
      rw [Operation.occurrences, hstops, hrouter]
      exact .handed rfl rfl rfl
  | clearTyping timers => exact .still rfl rfl rfl
  | subscribe kind => exact hop.elim
  | unsubscribe id => exact hop.elim
  | takeDeliveries => exact hop.elim

end Router

end RealtimeChat
