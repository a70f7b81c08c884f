import RealtimeChat.Proofs.Outbox.Paths
/-!
# A flush leaves nothing behind

A flush goes through all queues and sends what stands in front, up to the first frame that its sink
refuses. So if none is refused, whatever stands in front of a queue afterwards was sent and waits
for its answer, or waits for its next attempt.

* `Underway` -- in no queue the first action could be sent;
* **`flush_underway`** -- so it is after a flush, unless the sink refused a frame.
-/

namespace RealtimeChat.Outbox

/-- In no queue the first action could be sent. -/
def Underway (o : Outbox) : Prop := ∀ c a rest, o.queue c = a :: rest → a.state ≠ .pending

theorem Underway.of_queue {o o' : Outbox} (h : o.Underway) (hq : ∀ c, o'.queue c = o.queue c) :
    o'.Underway := fun c a rest hc => h c a rest (hq c ▸ hc)

section Flush

variable {σ : Type} {send : σ → Outgoing → Except SendFault Unit × σ} {R : σ → Prop}

/-- A flush that has come so far was refused a frame if it has come to a halt, and what was refused
before is still known. -/
structure Flush.Goes (R : σ → Prop) (f f' : Flush σ) : Prop where
  refused : f'.halted = true → R f'.sink
  kept : R f.sink → R f'.sink

variable
  (refused : ∀ {sink a fault sink'}, send sink (Action.frame a) = (.error fault, sink') → R sink')
  (kept : ∀ sink a, R sink → R (send sink (Action.frame a)).2)

include refused kept

/-- What a flush leaves in front of a queue could not be sent, or a frame was refused. -/
theorem flushQueue_underway (deadline : Instant) (queue : List Action) (f : Flush σ)
    (hf : f.halted = true → R f.sink) :
    f.Goes R (flushQueue send deadline f queue).2 ∧
      (R (flushQueue send deadline f queue).2.sink ∨
        ∀ a rest, (flushQueue send deadline f queue).1 = a :: rest → a.state ≠ .pending) := by
  induction queue generalizing f with
  | nil => exact ⟨⟨hf, id⟩, .inr nofun⟩
  | cons a rest ih =>
      by_cases hstop : f.halted = true ∨ a.state ≠ .pending
      · rw [flushQueue_stop hstop]
        refine ⟨⟨hf, id⟩, hstop.imp hf fun ha b rest' heq => ?_⟩
        rwa [← (List.cons.inj heq).1]
      · obtain ⟨hh, ha⟩ : f.halted = false ∧ a.state = .pending := by simpa using hstop
        have hsent := kept f.sink a
        cases hsend : send f.sink a.frame with
        | mk result sink =>
            rw [hsend] at hsent
            cases result with
            | error fault =>
                rw [flushQueue_fail hh ha hsend]
                have hrefused := refused hsend
                exact ⟨⟨fun _ => hrefused, fun _ => hrefused⟩, .inl hrefused⟩
            | ok _ =>
                have hgoes : f.halted = true → R sink := fun h => by simp [hh] at h
                cases hk : a.kind.requiresAck with
                | true =>
                    rw [flushQueue_fly hh ha hsend hk]
                    refine ⟨⟨hgoes, hsent⟩, .inr fun b rest' heq => ?_⟩
                    rw [← (List.cons.inj heq).1]
                    exact nofun
                | false =>
                    rw [flushQueue_land hh ha hsend hk]
                    obtain ⟨hrest, hleft⟩ := ih
                      { f with sink, written := f.written + 1, done := f.done ++ [a] } hgoes
                    exact ⟨⟨hrest.refused, fun h => hrest.kept (hsent h)⟩, hleft⟩

theorem walk_underway (deadline : Instant) (entries : List (String × List Action)) (f : Flush σ)
    (hf : f.halted = true → R f.sink) :
    let walked :=
      OrderedMap.walkEntries (fun f _ queue => flushQueue send deadline f queue) f entries
    (R f.sink → R walked.2.sink) ∧ (R walked.2.sink ∨
      ∀ c a rest, (c, a :: rest) ∈ walked.1 → a.state ≠ .pending) := by
  induction entries generalizing f with
  | nil => exact ⟨id, .inr fun _ _ _ hmem => absurd hmem List.not_mem_nil⟩
  | cons entry others ih =>
      obtain ⟨hgoes, hfront⟩ := flushQueue_underway refused kept deadline entry.2 f hf
      obtain ⟨hkept, hothers⟩ := ih (flushQueue send deadline f entry.2).2 hgoes.refused
      refine ⟨fun h => hkept (hgoes.kept h), ?_⟩
      rcases hfront with hrefused | hfront
      · exact .inl (hkept hrefused)
      · refine hothers.imp_right fun hothers c a rest hmem => ?_
        obtain heq | hmem := List.mem_cons.mp hmem
        · exact hfront a rest (Prod.mk.inj heq).2.symm
        · exact hothers c a rest hmem

variable (send) in
/-- **After a flush nothing is left that could be sent**, unless a frame was refused. -/
theorem flush_underway (o : Outbox) (sink : σ) (now : Instant) (timers : Timers) :
    R (o.flush send sink now timers).2.2.1 ∨ (o.flush send sink now timers).2.1.Underway := by
  obtain ⟨-, hwalk⟩ := walk_underway refused kept (now + o.ackTimeout) o.chats.entries
    ⟨sink, timers, 0, [], false⟩ nofun
  refine hwalk.imp_right fun hfront c a rest hc => ?_
  let walked := o.chats.walk (fun f _ queue => flushQueue send (now + o.ackTimeout) f queue)
    ⟨sink, timers, 0, [], false⟩
  have hqueue : (o.flush send sink now timers).2.1.queue c = (walked.1.get? c).getD [] :=
    queue_filter o _ c
  have hget : walked.1.get? c = some (a :: rest) := by
    rw [hqueue] at hc
    exact (Option.getD_eq_iff.mp hc).resolve_right (by simp)
  exact hfront c a rest (OrderedMap.get?_eq_some_iff.mp hget)

end Flush

end RealtimeChat.Outbox
