import RealtimeChat.Proofs.Client.Run
/-!
# Tickets and the answers to them

Who submits an action is given a ticket, and waits. When the action is settled, all who wait for it
are told how, and do not wait any more.

* `Ledger` -- each ticket is for one action, and nobody waits who was told;
* `Waits`, `Told` -- the owner of a ticket waits, or was told;
* `Ledger.enter` -- one more waits;
* **`fares_foldl`** -- whoever waits for an action is told of the first settlement of it.
-/

namespace RealtimeChat.Client

variable {τ : Type}

/-- The tickets of those who wait for an action. -/
def tickets (c : Client τ) (id : String) : List Ticket := (c.waiting.get? id).getD []

/-! ## 1. Tickets -/

/-- Each ticket is for one action, and nobody waits for an answer who has it. -/
structure Ledger (c : Client τ) : Prop where
  once : ∀ id, (c.tickets id).Nodup
  apart : ∀ id id' t, t ∈ c.tickets id → t ∈ c.tickets id' → id = id'
  given : ∀ id t, t ∈ c.tickets id → t < c.nextTicket
  answered : ∀ r ∈ c.resolutions, r.ticket < c.nextTicket ∧ ∀ id, r.ticket ∉ c.tickets id

/-- The owner of this ticket waits for an action and was told nothing. -/
structure Waits (t : Ticket) (id : String) (c : Client τ) : Prop where
  waits : t ∈ c.tickets id
  untold : c.answers t = []

/-- The owner of this ticket does not wait, and there are these answers. -/
structure Told (t : Ticket) (answers : List Resolution) (c : Client τ) : Prop where
  given : t < c.nextTicket
  gone : ∀ id, t ∉ c.tickets id
  told : c.answers t = answers

section Tickets

variable {c c' : Client τ} {t : Ticket} {id : String}

theorem tickets_of_eq (h : c'.waiting = c.waiting) (id : String) :
    c'.tickets id = c.tickets id := by
  rw [tickets, h, tickets]

theorem contains_of_mem_tickets (h : t ∈ c.tickets id) : c.waiting.contains id = true := by
  unfold tickets at h
  cases hget : c.waiting.get? id with
  | none => simp [hget] at h
  | some l => simp [OrderedMap.contains, hget]

theorem answers_of_eq (h : c'.resolutions = c.resolutions) (t : Ticket) :
    c'.answers t = c.answers t := by
  rw [answers, h, answers]

theorem Ledger.of_eq (h : c.Ledger) (hw : c'.waiting = c.waiting)
    (hn : c'.nextTicket = c.nextTicket) (hr : ∀ r ∈ c'.resolutions, r ∈ c.resolutions) :
    c'.Ledger where
  once id := tickets_of_eq hw id ▸ h.once id
  apart id id' t := by
    rw [tickets_of_eq hw, tickets_of_eq hw]
    exact h.apart id id' t
  given id t := by
    rw [tickets_of_eq hw, hn]
    exact h.given id t
  answered r hmem := by
    obtain ⟨hlt, hnone⟩ := h.answered r (hr r hmem)
    exact ⟨hn ▸ hlt, fun id => tickets_of_eq hw id ▸ hnone id⟩

theorem Waits.of_eq (h : Waits t id c) (hw : c'.waiting = c.waiting)
    (hr : c'.resolutions = c.resolutions) : Waits t id c' :=
  ⟨tickets_of_eq hw id ▸ h.waits, (answers_of_eq hr t).trans h.untold⟩

theorem Told.of_eq {answers : List Resolution} (h : Told t answers c) (hw : c'.waiting = c.waiting)
    (hn : c'.nextTicket = c.nextTicket) (hr : c'.resolutions = c.resolutions) : Told t answers c' :=
  ⟨hn ▸ h.given, fun id => tickets_of_eq hw id ▸ h.gone id, (answers_of_eq hr t).trans h.told⟩

/-- A ticket that is given out now has no answers yet. -/
theorem Ledger.unanswered (h : c.Ledger) : c.answers c.nextTicket = [] := by
  refine List.filter_eq_nil_iff.mpr fun r hr => ?_
  simpa using Nat.ne_of_lt (h.answered r hr).1

/-- One more waits for an action. -/
def enter (c : Client τ) (id : String) : Client τ :=
  { c with
    waiting := c.waiting.insert id (c.tickets id ++ [c.nextTicket])
    nextTicket := c.nextTicket + 1 }

theorem mem_tickets_enter {id' : String} :
    t ∈ (c.enter id).tickets id' ↔ t ∈ c.tickets id' ∨ id = id' ∧ t = c.nextTicket := by
  unfold tickets enter
  rw [OrderedMap.get?_insert]
  by_cases hid : id = id'
  · subst hid
    simp [tickets]
  · simp [hid]

theorem Ledger.enter (h : c.Ledger) (id : String) : (c.enter id).Ledger := by
  have hnew : ∀ id', c.nextTicket ∉ c.tickets id' := fun id' hmem =>
    Nat.lt_irrefl _ (h.given id' _ hmem)
  refine ⟨fun id' => ?_, fun id' id'' t h' h'' => ?_, fun id' t ht => ?_, fun r hr => ?_⟩
  · unfold tickets Client.enter
    rw [OrderedMap.get?_insert]
    split
    · refine List.nodup_append.mpr ⟨h.once id, List.nodup_singleton _, fun x hx y hy hxy => ?_⟩
      exact hnew id (List.mem_singleton.mp hy ▸ hxy ▸ hx)
    · exact h.once id'
  · rcases mem_tickets_enter.mp h' with h' | ⟨rfl, rfl⟩ <;>
      rcases mem_tickets_enter.mp h'' with h'' | ⟨rfl, ht⟩
    · exact h.apart _ _ _ h' h''
    · exact absurd (ht ▸ h') (hnew _)
    · exact absurd h'' (hnew _)
    · rfl
  · rcases mem_tickets_enter.mp ht with ht | ⟨-, rfl⟩
    · exact Nat.lt_succ_of_lt (h.given id' t ht)
    · exact Nat.lt_succ_self _
  · obtain ⟨hlt, hnone⟩ := h.answered r hr
    refine ⟨Nat.lt_succ_of_lt hlt, fun id' hmem => ?_⟩
    rcases mem_tickets_enter.mp hmem with hmem | ⟨-, heq⟩
    · exact hnone id' hmem
    · exact Nat.lt_irrefl _ (heq ▸ hlt)

/-- Whoever enters waits. -/
theorem Ledger.waits (h : c.Ledger) (id : String) : Waits c.nextTicket id (c.enter id) :=
  ⟨mem_tickets_enter.mpr (.inr ⟨rfl, rfl⟩), h.unanswered⟩

end Tickets

/-! ## 2. To tell how an action ended -/

section Resolve

variable {c : Client τ} {t : Ticket} {id : String}

theorem tickets_resolve (c : Client τ) (s : Settlement) (id : String) :
    (c.resolve s).tickets id = if s.actionId = id then [] else c.tickets id := by
  unfold tickets resolve
  rw [OrderedMap.get?_erase]
  split <;> rfl

/-- Each who waits for the action is told once, and nobody else is. -/
theorem answers_resolve (h : c.Ledger) (s : Settlement) (t : Ticket) :
    (c.resolve s).answers t = c.answers t ++
      if t ∈ c.tickets s.actionId then [⟨t, s.actionId, .ok s.outcome⟩] else [] := by
  have hnew : ∀ l : List Ticket, l.Nodup →
      (l.map (⟨·, s.actionId, .ok s.outcome⟩)).filter (fun r : Resolution => r.ticket = t) =
        if t ∈ l then [⟨t, s.actionId, .ok s.outcome⟩] else [] := by
    intro l hl
    rw [List.filter_map]
    have hfilter : l.filter ((fun r : Resolution => decide (r.ticket = t)) ∘
        (⟨·, s.actionId, .ok s.outcome⟩)) = List.replicate (l.count t) t :=
      List.filter_beq t
    rw [hfilter]
    split
    · rename_i hmem
      rw [List.count_eq_one_of_mem hl hmem]
      rfl
    · rename_i hmem
      rw [List.count_eq_zero_of_not_mem hmem]
      rfl
  unfold answers
  rw [← hnew _ (h.once s.actionId)]
  exact List.filter_append _ _

theorem Ledger.resolve (h : c.Ledger) (s : Settlement) : (c.resolve s).Ledger := by
  have hold : ∀ id t, t ∈ (c.resolve s).tickets id → s.actionId ≠ id ∧ t ∈ c.tickets id := by
    intro id t ht
    rw [tickets_resolve] at ht
    split at ht
    · cases ht
    · exact ⟨‹_›, ht⟩
  refine ⟨fun id => ?_, fun id id' t ht ht' => ?_, fun id t ht => ?_, fun r hr => ?_⟩
  · rw [tickets_resolve]
    split
    · exact .nil
    · exact h.once id
  · exact h.apart id id' t (hold id t ht).2 (hold id' t ht').2
  · exact h.given id t (hold id t ht).2
  · rcases List.mem_append.mp hr with hr | hr
    · obtain ⟨hlt, hnone⟩ := h.answered r hr
      exact ⟨hlt, fun id hmem => hnone id (hold id _ hmem).2⟩
    · obtain ⟨t, ht, rfl⟩ := List.mem_map.mp hr
      refine ⟨h.given s.actionId t ht, fun id hmem => ?_⟩
      exact (hold id t hmem).1 (h.apart s.actionId id t ht (hold id t hmem).2)

theorem Told.resolve {answers : List Resolution} (ht : Told t answers c) (h : c.Ledger)
    (s : Settlement) : Told t answers (c.resolve s) := by
  refine ⟨ht.given, fun id hmem => ?_, ?_⟩
  · rw [tickets_resolve] at hmem
    split at hmem
    · cases hmem
    · exact ht.gone id hmem
  · rw [answers_resolve h, if_neg (ht.gone s.actionId), List.append_nil]
    exact ht.told

theorem Waits.resolve (hw : Waits t id c) (h : c.Ledger) {s : Settlement} (hs : s.actionId ≠ id) :
    Waits t id (c.resolve s) := by
  have hother : t ∉ c.tickets s.actionId := fun hmem => hs (h.apart _ _ t hmem hw.waits)
  refine ⟨?_, ?_⟩
  · rw [tickets_resolve, if_neg hs]
    exact hw.waits
  · rw [answers_resolve h, if_neg hother, List.append_nil]
    exact hw.untold

theorem Waits.told (hw : Waits t id c) (h : c.Ledger) {s : Settlement} (hs : s.actionId = id) :
    Told t [⟨t, id, .ok s.outcome⟩] (c.resolve s) := by
  subst hs
  refine ⟨h.given _ t hw.waits, fun id' hmem => ?_, ?_⟩
  · rw [tickets_resolve] at hmem
    split at hmem
    · cases hmem
    · rename_i hne
      exact hne (h.apart _ _ t hw.waits hmem)
  · rw [answers_resolve h, if_pos hw.waits, hw.untold]
    rfl

/-- What becomes of one who waits when this is settled. -/
def Fares (t : Ticket) (id : String) (found : Option Settlement) (c : Client τ) : Prop :=
  match found with
  | none => Waits t id c
  | some s => Told t [⟨t, id, .ok s.outcome⟩] c

theorem ledger_foldl (h : c.Ledger) (l : List Settlement) : (l.foldl Client.resolve c).Ledger := by
  induction l generalizing c with
  | nil => exact h
  | cons s rest ih => exact ih (h.resolve s)

theorem told_foldl {answers : List Resolution} (ht : Told t answers c) (h : c.Ledger)
    (l : List Settlement) : Told t answers (l.foldl Client.resolve c) := by
  induction l generalizing c with
  | nil => exact ht
  | cons s rest ih => exact ih (ht.resolve h s) (h.resolve s)

/-- **Those who wait for an action are told of the first settlement of it.** -/
theorem fares_foldl (hw : Waits t id c) (h : c.Ledger) (l : List Settlement) :
    Fares t id (l.find? (·.actionId = id)) (l.foldl Client.resolve c) := by
  induction l generalizing c with
  | nil => exact hw
  | cons s rest ih =>
      rw [List.find?_cons, List.foldl_cons]
      by_cases hs : s.actionId = id
      · simp only [hs, decide_true]
        exact told_foldl (hw.told h hs) (h.resolve s) rest
      · simp only [hs, decide_false]
        exact ih (hw.resolve h hs) (h.resolve s)

end Resolve

end RealtimeChat.Client
