import Mathlib.Data.List.Nodup
import Mathlib.Data.List.TakeWhile
import RealtimeChat.Proofs.Router.Run
/-!
# The window of delivered events against the record

The window keeps some keys only, and drops them by age and by number, each time from its order and
from its set. What it says about an event is nevertheless what the whole record says: an event is a
repetition if its key was handed out not too long ago and not too many others were since.

* `DedupWindow.Agree` -- the set and the order hold the same keys, **`Agree.evictFrom`** -- also
  when the oldest ones have left;
* `Repeats` -- a repetition, by the record alone;
* `DedupWindow.Recalls` -- the window holds the newest keys of the record, and those that it could
  hold but does not are too old;
* `Recalls.forget`, `Recalls.contains_iff`, `Recalls.push` -- the parts of `DedupWindow.insert`;
* **`performAll_windowed`** -- a run keeps the window in step with the record;
* `Faithful`, **`dispatch_faithful`** -- the router drops exactly the repetitions.
-/

namespace RealtimeChat

/-! ## 1. The set and the order -/

namespace DedupWindow

/-- The set holds the keys that stand in the order, and no key stands there twice. -/
structure Agree (seen : OrderedMap String Unit) (order : List (Instant × String)) : Prop where
  distinct : (order.map (·.2)).Nodup
  contains_iff : ∀ key, seen.contains key = true ↔ key ∈ order.map (·.2)

namespace Agree

variable {seen : OrderedMap String Unit} {order : List (Instant × String)}

/-- The first key leaves both. -/
theorem tail {x : Instant × String} (h : Agree seen (x :: order)) :
    Agree (seen.erase x.2) order := by
  obtain ⟨hfirst, hdistinct⟩ := List.nodup_cons.mp h.distinct
  refine ⟨hdistinct, fun key => ?_⟩
  have hkey := h.contains_iff key
  rw [OrderedMap.contains] at hkey ⊢
  rw [OrderedMap.get?_erase]
  by_cases hx : x.2 = key
  · subst hx
    simpa using hfirst
  · rw [if_neg hx, hkey, List.map_cons, List.mem_cons]
    exact or_iff_right (Ne.symm hx)

/-- **Whatever leaves the window**, set and order agree on what is left. -/
theorem evictFrom (h : Agree seen order)
    (gone : Instant × String → List (Instant × String) → Bool) :
    Agree (evictFrom gone seen order).1 (evictFrom gone seen order).2 := by
  induction order generalizing seen with
  | nil => exact h
  | cons x rest ih =>
      rw [DedupWindow.evictFrom]
      split
      · exact ih h.tail
      · exact h

/-- A new key comes to both. -/
theorem push (h : Agree seen order) {key : String} (hkey : seen.contains key = false)
    (now : Instant) : Agree (seen.insert key ()) (order ++ [(now, key)]) := by
  have hnew : key ∉ order.map (·.2) := by
    rw [← h.contains_iff, hkey]
    exact Bool.false_ne_true
  constructor
  · rw [List.map_append, List.map_singleton, ← List.concat_eq_append]
    exact h.distinct.concat hnew
  · intro key'
    have hkey' := h.contains_iff key'
    rw [OrderedMap.contains] at hkey' ⊢
    rw [OrderedMap.get?_insert, List.map_append, List.mem_append, ← hkey', List.map_singleton,
      List.mem_singleton]
    by_cases heq : key = key'
    · simp [heq]
    · simp [heq, Ne.symm heq]

end Agree

/-- What leaves by its age are the first ones, up to one that is not old. -/
theorem evictFrom_old (p : Instant × String → Bool) (seen : OrderedMap String Unit)
    (order : List (Instant × String)) :
    (evictFrom (fun x _ => p x) seen order).2 = order.dropWhile p := by
  induction order generalizing seen with
  | nil => rfl
  | cons x rest ih =>
      rw [evictFrom, List.dropWhile_cons]
      split
      · exact ih _
      · rfl

/-- What leaves by number are as many as there are too many. -/
theorem evictFrom_many (n : Nat) (seen : OrderedMap String Unit)
    (order : List (Instant × String)) :
    (evictFrom (fun _ rest => n ≤ rest.length) seen order).2 = order.drop (order.length - n) := by
  induction order generalizing seen with
  | nil => exact List.drop_nil.symm
  | cons x rest ih =>
      rw [evictFrom, List.length_cons]
      split
      · rename_i hmany
        rw [ih, Nat.succ_sub (of_decide_eq_true hmany), List.drop_succ_cons]
      · rename_i hfew
        have hfew : rest.length < n := by simpa using hfew
        rw [Nat.sub_eq_zero_of_le hfew, List.drop_zero]

/-! ## 2. The window and the record -/

/-- The keys of events handed out, newest in front, as of an instant: the window holds the newest
of them, and what it has room for and does not hold is too old. -/
structure Recalls (w : DedupWindow) (past : List (Instant × String)) (now : Instant) : Prop where
  agree : Agree w.seen w.order
  newest : w.order.reverse <+: past
  bounded : w.size ≤ w.capacity
  gone : ∀ n x, w.size ≤ n → n < w.capacity → past[n]? = some x → w.ttl ≤ now - x.1
  falling : past.Pairwise (fun x y => y.1 ≤ x.1)
  earlier : ∀ x ∈ past, x.1 ≤ now

/-- A key was handed out, not too long ago, and not too many were since. -/
def Recent (past : List (Instant × String)) (capacity : Nat) (ttl : Duration) (key : String)
    (now : Instant) : Prop :=
  ∃ t later earlier, past = later ++ (t, key) :: earlier ∧ (∀ x ∈ later, x.2 ≠ key) ∧
    now - t < ttl ∧ later.length < capacity

variable {w : DedupWindow} {past : List (Instant × String)} {now now' : Instant}

@[simp] theorem forget_capacity (w : DedupWindow) (now : Instant) :
    (w.forget now).capacity = w.capacity := rfl

@[simp] theorem forget_ttl (w : DedupWindow) (now : Instant) : (w.forget now).ttl = w.ttl := rfl

theorem order_forget (w : DedupWindow) (now : Instant) :
    (w.forget now).order = w.order.dropWhile fun x => w.ttl ≤ now - x.1 :=
  evictFrom_old _ _ _

theorem order_shrink (w : DedupWindow) :
    w.shrink.order = w.order.drop (w.order.length - w.capacity) :=
  evictFrom_many _ _ _

theorem insert_eq (w : DedupWindow) (key : String) (now : Instant) :
    w.insert key now =
      if (w.forget now).contains key then (false, w.forget now)
      else (true, ((w.forget now).put key now).shrink) := rfl

theorem insert_capacity (w : DedupWindow) (key : String) (now : Instant) :
    (w.insert key now).2.capacity = w.capacity ∧ (w.insert key now).2.ttl = w.ttl := by
  rw [insert_eq]
  split <;> exact ⟨rfl, rfl⟩

theorem recalls_new (capacity : Nat) (ttl : Duration) (now : Instant) :
    (DedupWindow.new capacity ttl).Recalls [] now where
  agree := ⟨.nil, fun _ => by simp [DedupWindow.new, OrderedMap.contains]⟩
  newest := List.prefix_rfl
  bounded := Nat.zero_le _
  gone n x _ _ hx := by simp at hx
  falling := .nil
  earlier x hx := absurd hx List.not_mem_nil

namespace Recalls

/-- In a list in the order of time, what is left after the old ones is not old. -/
theorem kept_fresh {ttl : Duration} {entries : List (Instant × String)}
    (h : entries.Pairwise (fun x y => x.1 ≤ y.1)) :
    ∀ x ∈ entries.dropWhile (fun x => ttl ≤ now - x.1), now - x.1 < ttl := by
  induction h with
  | nil => exact fun x hx => absurd hx List.not_mem_nil
  | @cons y rest hy hrest ih =>
      intro x hx
      rw [List.dropWhile_cons] at hx
      split at hx
      · exact ih x hx
      · rename_i hold
        rcases List.mem_cons.mp hx with rfl | hx
        · simpa using hold
        · have hyoung : now - y.1 < ttl := by simpa using hold
          exact Nat.lt_of_le_of_lt (Nat.sub_le_sub_left (hy x hx) now) hyoung

theorem contains_eq_true_iff (h : w.Recalls past now) (key : String) :
    w.contains key = true ↔ ∃ t, (t, key) ∈ w.order :=
  (h.agree.contains_iff key).trans (by simp)

/-- As far as the window goes, it is the record. -/
theorem getElem?_eq (h : w.Recalls past now) {n : Nat} (hn : n < w.size) :
    w.order.reverse[n]? = past[n]? := by
  have hlt : n < w.order.reverse.length := by rwa [List.length_reverse]
  rw [List.prefix_iff_getElem?.mp h.newest n hlt, List.getElem?_eq_getElem hlt]

theorem forget (h : w.Recalls past now) (hnow : now ≤ now') :
    (w.forget now').Recalls past now' ∧ ∀ x ∈ (w.forget now').order, now' - x.1 < w.ttl := by
  have hsplit : w.order = w.order.takeWhile (fun x => w.ttl ≤ now' - x.1) ++
      (w.forget now').order := by
    rw [order_forget, List.takeWhile_append_dropWhile]
  have hnewest : (w.forget now').order.reverse <+: w.order.reverse := by
    rw [List.reverse_prefix, hsplit]
    exact List.suffix_append _ _
  have hshort : (w.forget now').size ≤ w.size := by
    rw [size, order_forget]
    exact (List.dropWhile_sublist _).length_le
  refine ⟨⟨h.agree.evictFrom _, hnewest.trans h.newest, hshort.trans h.bounded, ?_, h.falling,
    fun x hx => (h.earlier x hx).trans hnow⟩, ?_⟩
  · intro n x hn hcapacity hx
    by_cases hold : w.size ≤ n
    · exact (h.gone n x hold hcapacity hx).trans (Nat.sub_le_sub_right hnow _)
    · -- it was in the window, and is not any more
      have hmem : x ∈ (w.order.takeWhile (fun x => w.ttl ≤ now' - x.1)).reverse := by
        have hat : w.order.reverse[n]? = some x :=
          (h.getElem?_eq (Nat.lt_of_not_le hold)).trans hx
        rw [hsplit, List.reverse_append,
          List.getElem?_append_right (by rw [List.length_reverse]; exact hn)] at hat
        exact List.mem_of_getElem? hat
      have hold := List.mem_takeWhile_imp (List.mem_reverse.mp hmem)
      simpa using hold
  · rw [order_forget]
    refine kept_fresh ?_
    rw [← List.pairwise_reverse]
    exact h.falling.sublist h.newest.sublist

/-- A key that is not too old, and not too far back, is held. -/
theorem holds (h : w.Recalls past now) {later earlier : List (Instant × String)} {t : Instant}
    {key : String} (hpast : past = later ++ (t, key) :: earlier) (hage : now - t < w.ttl)
    (hfew : later.length < w.capacity) : w.contains key = true := by
  have hat : past[later.length]? = some (t, key) := by rw [hpast]; simp
  refine (h.contains_eq_true_iff key).mpr ⟨t, ?_⟩
  by_cases hin : later.length < w.size
  · rw [← h.getElem?_eq hin] at hat
    exact List.mem_reverse.mp (List.mem_of_getElem? hat)
  · have hgone : w.ttl ≤ now - t := h.gone later.length (t, key) (Nat.le_of_not_lt hin) hfew hat
    exact absurd hage (Nat.not_lt_of_le hgone)

/-- After the old keys are gone, the window holds exactly the recent ones. -/
theorem contains_iff (h : w.Recalls past now) (hfresh : ∀ x ∈ w.order, now - x.1 < w.ttl)
    (key : String) : w.contains key = true ↔ Recent past w.capacity w.ttl key now := by
  rw [h.contains_eq_true_iff]
  constructor
  · rintro ⟨t, ht⟩
    obtain ⟨later, earlier, hsplit⟩ := List.append_of_mem (List.mem_reverse.mpr ht)
    obtain ⟨rest, hrest⟩ := h.newest
    have hkeys : (w.order.reverse.map (·.2)).Nodup := by
      rw [List.map_reverse, List.nodup_reverse]
      exact h.agree.distinct
    have hlength : w.order.length = (later ++ (t, key) :: earlier).length := by
      rw [← hsplit, List.length_reverse]
    refine ⟨t, later, earlier ++ rest, ?_, ?_, hfresh _ ht, ?_⟩
    · rw [← hrest, hsplit, List.append_assoc, List.cons_append]
    · intro x hx heq
      rw [hsplit, List.map_append, List.map_cons] at hkeys
      exact (List.nodup_append.mp hkeys).2.2 x.2 (List.mem_map_of_mem hx) key
        List.mem_cons_self heq
    · have hbounded := h.bounded
      rw [size, hlength, List.length_append, List.length_cons] at hbounded
      omega
  · rintro ⟨t, later, earlier, hpast, -, hage, hfew⟩
    exact (h.contains_eq_true_iff key).mp (h.holds hpast hage hfew)

/-- A key that the window does not hold is put into it. -/
theorem push (h : w.Recalls past now) {key : String} (hkey : w.contains key = false) :
    (w.put key now).shrink.Recalls ((now, key) :: past) now := by
  have hlength : (w.order ++ [(now, key)]).length = w.size + 1 := List.length_append
  have horder : (w.put key now).shrink.order =
      (w.order ++ [(now, key)]).drop (w.size + 1 - w.capacity) := by
    rw [order_shrink, ← hlength]
    rfl
  have hsize : (w.put key now).shrink.size = w.size + 1 - (w.size + 1 - w.capacity) := by
    rw [size, horder, List.length_drop, hlength]
  have hcapacity : (w.put key now).shrink.capacity = w.capacity := rfl
  constructor
  · exact (h.agree.push hkey now).evictFrom _
  · rw [horder]
    refine (List.reverse_prefix.mpr (List.drop_suffix _ _)).trans ?_
    rw [List.reverse_append]
    exact List.cons_prefix_cons.mpr ⟨rfl, h.newest⟩
  · omega
  · intro n x hn hroom hx
    obtain ⟨m, rfl⟩ : ∃ m, n = m + 1 := ⟨n - 1, by omega⟩
    exact h.gone m x (by omega) (by omega) (by simpa using hx)
  · exact .cons h.earlier h.falling
  · intro x hx
    rcases List.mem_cons.mp hx with rfl | hx
    · exact Nat.le_refl _
    · exact h.earlier x hx

/-- A key that was handed out recently was so most recently. -/
theorem recent (h : w.Recalls past now) (hnow : now ≤ now')
    {later earlier : List (Instant × String)} {t : Instant} {key : String}
    (hpast : past = later ++ (t, key) :: earlier) (hage : now' - t < w.ttl)
    (hfew : later.length < w.capacity) : Recent past w.capacity w.ttl key now' := by
  obtain ⟨hforget, hfresh⟩ := h.forget hnow
  exact (hforget.contains_iff hfresh key).mp (hforget.holds hpast hage hfew)

/-- **What the window answers is what the record says**, and it goes on with the record. -/
theorem insert (h : w.Recalls past now) (hnow : now ≤ now') (key : String) :
    ((w.insert key now').1 = false ↔ Recent past w.capacity w.ttl key now') ∧
      (w.insert key now').2.Recalls
        (if (w.insert key now').1 then (now', key) :: past else past) now' := by
  obtain ⟨hforget, hfresh⟩ := h.forget hnow
  have hcontains := hforget.contains_iff hfresh key
  rw [insert_eq]
  by_cases hc : (w.forget now').contains key = true
  · rw [if_pos hc]
    exact ⟨by simpa using hcontains.mp hc, hforget⟩
  · rw [if_neg hc]
    refine ⟨?_, hforget.push (by simpa using hc)⟩
    simpa using fun hr => hc (hcontains.mpr hr)

end Recalls

end DedupWindow

/-! ## 3. Runs -/

namespace Router

/-- An event whose key the record shows among those handed out, not too long ago and not too many
before. -/
def Repeats (capacity : Nat) (ttl : Duration) (log : List Routed) (e : Event) (now : Instant) :
    Prop :=
  ∃ key, e.dedupKey? = some key ∧
    DedupWindow.Recent (delivered log) (max capacity 1) ttl key now

/-- The window of a run is in step with the record. -/
structure Windowed (capacity : Nat) (ttl : Duration) (run : Run) (now : Instant) : Prop where
  capacity : run.router.dedup.capacity = max capacity 1
  ttl : run.router.dedup.ttl = ttl
  recalls : run.router.dedup.Recalls (delivered run.log) now

namespace Windowed

variable {capacity : Nat} {ttl : Duration} {run : Run} {now now' : Instant}

theorem later (h : Windowed capacity ttl run now) (hnow : now ≤ now') :
    Windowed capacity ttl run now' where
  capacity := h.capacity
  ttl := h.ttl
  recalls := {
    h.recalls with
    gone := fun n x hn hcapacity hx =>
      (h.recalls.gone n x hn hcapacity hx).trans (Nat.sub_le_sub_right hnow _)
    earlier := fun x hx => (h.recalls.earlier x hx).trans hnow }

/-- Only events that are routed concern the window. -/
theorem of_dedup {router : Router} (h : Windowed capacity ttl run now)
    (hdedup : router.dedup = run.router.dedup) :
    Windowed capacity ttl { run with router } now := by
  constructor
  · exact hdedup ▸ h.capacity
  · exact hdedup ▸ h.ttl
  · exact hdedup ▸ h.recalls

theorem repeats_iff (h : Windowed capacity ttl run now) (hnow : now ≤ now') {e : Event}
    {key : String} (hkey : e.dedupKey? = some key) :
    (run.router.dedup.insert key now').1 = false ↔ Repeats capacity ttl run.log e now' := by
  rw [(h.recalls.insert hnow key).1, h.capacity, h.ttl, Repeats, hkey]
  constructor
  · exact fun hr => ⟨key, rfl, hr⟩
  · rintro ⟨_, ⟨⟩, hr⟩
    exact hr

theorem dispatch (h : Windowed capacity ttl run now) (hnow : now ≤ now') (e : Event)
    (timers : Timers) : Windowed capacity ttl (run.perform (.dispatch e now' timers)) now' := by
  have hrouting := dispatch_routing run.router e now' timers
  dsimp only [Run.perform]
  generalize run.router.dispatch e now' timers = answer at hrouting
  -- the window after a key was looked up, in either case
  have hlooked : ∀ {key : String} {new : Bool} {dedup : DedupWindow},
      run.router.dedup.insert key now' = (new, dedup) →
      dedup.capacity = max capacity 1 ∧ dedup.ttl = ttl ∧
        dedup.Recalls (if new then (now', key) :: delivered run.log else delivered run.log)
          now' := by
    intro key new dedup hinsert
    have hrecalls := (h.recalls.insert hnow key).2
    have hsame := run.router.dedup.insert_capacity key now'
    rw [hinsert] at hrecalls hsame
    exact ⟨hsame.1.trans h.capacity, hsame.2.trans h.ttl, hrecalls⟩
  cases hrouting with
  | repeated key dedup hkey hinsert =>
      obtain ⟨hcapacity, httl, hrecalls⟩ := hlooked hinsert
      exact ⟨hcapacity, httl, by simpa [delivered, Routed.delivered?] using hrecalls⟩
  | handed dedup typing timers' hdedup =>
      rcases hdedup with ⟨hkey, rfl⟩ | ⟨key, hkey, hinsert⟩
      · refine ⟨h.capacity, h.ttl, ?_⟩
        simpa [delivered, Routed.delivered?, hkey] using (h.later hnow).recalls
      · obtain ⟨hcapacity, httl, hrecalls⟩ := hlooked hinsert
        exact ⟨hcapacity, httl, by simpa [delivered, Routed.delivered?, hkey] using hrecalls⟩

/-- A repetition is dropped, and nothing but the window is touched; any other event is handed to
the subscribers of its kind. -/
theorem outcome (h : Windowed capacity ttl run now) (hnow : now ≤ now') (e : Event)
    (timers : Timers) :
    (Repeats capacity ttl run.log e now' ∧ ∃ dedup,
      run.router.dispatch e now' timers = (.duplicate, { run.router with dedup }, timers)) ∨
    (¬ Repeats capacity ttl run.log e now' ∧ ∃ dedup typing timers',
      run.router.dispatch e now' timers = (.delivered e.kind (run.router.recipients e).length,
        { run.router with
          dedup, typing
          deliveries := run.router.deliveries ++ (run.router.recipients e).map (⟨·.id, e⟩) },
        timers')) := by
  have hrouting := dispatch_routing run.router e now' timers
  generalize run.router.dispatch e now' timers = answer at hrouting
  cases hrouting with
  | repeated key dedup hkey hinsert =>
      exact .inl ⟨(h.repeats_iff hnow hkey).mp (by rw [hinsert]), dedup, rfl⟩
  | handed dedup typing timers' hdedup =>
      refine .inr ⟨?_, dedup, typing, timers', rfl⟩
      rcases hdedup with ⟨hkey, -⟩ | ⟨key, hkey, hinsert⟩
      · simp [Repeats, hkey]
      · rw [← h.repeats_iff hnow hkey, hinsert]
        exact nofun

end Windowed

theorem foldl_deliver_dedup (events : List Event) (r : Router) :
    (events.foldl (fun r e => (r.deliver e).2) r).dedup = r.dedup := by
  induction events generalizing r with
  | nil => rfl
  | cons e rest ih => exact ih (r.deliver e).2

theorem expireTyping_dedup (r : Router) (now : Instant) (timers : Timers) :
    (r.expireTyping now timers).2.1.dedup = r.dedup :=
  foldl_deliver_dedup _ _

section Steps

variable {capacity : Nat} {ttl : Duration} {run : Run} {now : Instant}

/-- **Every operation keeps the window in step with the record.** -/
theorem perform_windowed (h : Windowed capacity ttl run now) (op : Operation)
    (hop : ∀ t, op.time? = some t → now ≤ t) :
    Windowed capacity ttl (run.perform op) (op.time?.getD now) := by
  cases op with
  | dispatch e t timers => exact h.dispatch (hop t rfl) e timers
  | expireTyping t timers => exact h.of_dedup (expireTyping_dedup run.router t timers)
  | clearTyping timers => exact h.of_dedup rfl
  | subscribe kind => exact h.of_dedup rfl
  | unsubscribe id => exact h.of_dedup rfl
  | takeDeliveries => exact h.of_dedup rfl

theorem performAll_windowed (h : Windowed capacity ttl run now) (ops : List Operation)
    (now' : Instant)
    (hrising : (now :: (ops.filterMap Operation.time? ++ [now'])).Pairwise (· ≤ ·)) :
    Windowed capacity ttl (run.performAll ops) now' := by
  induction ops generalizing run now with
  | nil => exact h.later (List.rel_of_pairwise_cons hrising List.mem_cons_self)
  | cons op rest ih =>
      have hop := perform_windowed h op
      cases ht : op.time? with
      | none =>
          rw [ht] at hop
          rw [List.filterMap_cons_none ht] at hrising
          exact ih (hop nofun) hrising
      | some t =>
          rw [List.filterMap_cons_some ht] at hrising
          rw [ht] at hop
          refine ih (hop ?_) hrising.of_cons
          rintro _ ⟨⟩
          exact List.rel_of_pairwise_cons hrising List.mem_cons_self

end Steps

/-- Nothing was handed out before a run begins. -/
theorem start_windowed (r : Router) (capacity : Nat) (ttl : Duration) :
    Windowed capacity ttl (Run.start { r with dedup := .new capacity ttl }) 0 :=
  ⟨rfl, rfl, DedupWindow.recalls_new capacity ttl 0⟩

/-! ## 4. The next event -/

/-- What becomes of the next event is what the record says. -/
structure Faithful (capacity : Nat) (ttl : Duration) (run : Run) (e : Event) (now : Instant)
    (timers : Timers) : Prop where
  /-- Exactly the repetitions are dropped. -/
  dropped : (run.router.dispatch e now timers).1 = .duplicate ↔ Repeats capacity ttl run.log e now
  /-- All other events are handed to every subscriber of their kind. -/
  handed : ¬ Repeats capacity ttl run.log e now →
    (run.router.dispatch e now timers).1 = .delivered e.kind (run.router.recipients e).length ∧
    (run.router.dispatch e now timers).2.1.deliveries =
      run.router.deliveries ++ (run.router.recipients e).map (⟨·.id, e⟩)
  /-- A repetition is seen by nobody, changes nothing about who is typing, and no deadline. -/
  unseen : Repeats capacity ttl run.log e now → ∃ dedup,
    (run.router.dispatch e now timers).2 = ({ run.router with dedup }, timers)
  /-- The window never holds too many keys, no key twice, and the same keys in its set and in its
  order. -/
  bounded : (run.router.dispatch e now timers).2.1.dedup.size ≤ max capacity 1
  distinct : ((run.router.dispatch e now timers).2.1.dedup.order.map (·.2)).Nodup
  agree : ∀ key, (run.router.dispatch e now timers).2.1.dedup.seen.contains key = true ↔
    ∃ t, (t, key) ∈ (run.router.dispatch e now timers).2.1.dedup.order

/-- **In every run the router drops exactly the events that the record of the run shows to be
repetitions**, as long as time does not run backwards. -/
theorem dispatch_faithful (capacity : Nat) (ttl : Duration) (r : Router) (ops : List Operation)
    (e : Event) (now : Instant) (timers : Timers)
    (hrising : (ops.filterMap Operation.time? ++ [now]).Pairwise (· ≤ ·)) :
    Faithful capacity ttl ((Run.start { r with dedup := .new capacity ttl }).performAll ops) e now
      timers := by
  have h := performAll_windowed (start_windowed r capacity ttl) ops now
    (.cons (fun _ _ => Nat.zero_le _) hrising)
  generalize (Run.start { r with dedup := .new capacity ttl }).performAll ops = run at h
  have hafter := h.dispatch (Nat.le_refl now) e timers
  have hbounded := hafter.recalls.bounded
  rw [hafter.capacity] at hbounded
  have hdistinct := hafter.recalls.agree.distinct
  have hagree := fun key => hafter.recalls.contains_eq_true_iff key
  rcases h.outcome (Nat.le_refl now) e timers with
    ⟨hrepeats, dedup, heq⟩ | ⟨hnew, dedup, typing, timers', heq⟩
  · refine ⟨?_, fun hnew => absurd hrepeats hnew, fun _ => ⟨dedup, congrArg Prod.snd heq⟩,
      hbounded, hdistinct, hagree⟩
    rw [heq]
    exact ⟨fun _ => hrepeats, fun _ => rfl⟩
  · refine ⟨?_, fun _ => ?_, fun hrepeats => absurd hrepeats hnew, hbounded, hdistinct, hagree⟩
    · rw [heq]
      exact ⟨nofun, fun hrepeats => absurd hrepeats hnew⟩
    · rw [heq]
      exact ⟨rfl, rfl⟩

/-- An event that was handed out is dropped when it comes again soon. -/
theorem dispatch_faithful_again :
    let e : Event := ⟨some "e1", none, .presence "u1" .online, none, false⟩
    let run := (Run.start { Router.new {} with dedup := .new 1 10 }).performAll
      [.dispatch e 0 .empty]
    (run.router.dispatch e 5 .empty).1 = .duplicate := by
  intro e run
  have hrepeats : Repeats 1 10 run.log e 5 :=
    ⟨"evt:e1", rfl, 0, [], [], rfl, nofun, by decide, by decide⟩
  exact (dispatch_faithful 1 10 (.new {}) [.dispatch e 0 .empty] e 5 .empty
    (by decide)).dropped.mpr hrepeats

end Router

end RealtimeChat
