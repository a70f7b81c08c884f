import RealtimeChat.Proofs.Store.Run
import Mathlib.Data.List.Induction
/-!
# How often an id stands in a chat

A message that the server named should stand in its chat once, from then on. The store gives a new
message the place of the first one in the chat with its id or with its client id, and of no other
one. So an id is lost where a message with another id stood at this place, and stands there twice
where a second copy stood behind.

* `Exact` -- each id that the server gave stands in one message of the chat;
* `Fits` -- what a message takes the place of is a copy with its id, or an echo and no copy of the
  message is there;
* **`exact_iff_fits`** -- ids are neither lost nor doubled in the course of a run iff each message
  fits when it arrives.
-/

namespace RealtimeChat.ChatStore

/-! ## 1. The two properties -/

/-- Each id that the server gave to a message of a chat stands in one message of the chat. -/
def Exact (ops : List Operation) : Prop :=
  ∀ chat, ∀ id ∈ named chat empty ops, (run ops).copies chat id = 1

/-- A message of the event displaces nothing but a copy with its id, or an echo while no copy of
it is there. -/
def Fits (s : ChatStore) (e : Event) : Prop :=
  ∀ chat m old, e.chat = some chat → e.payload = .message m →
    (s.messages chat).find? (ChatLog.isCopyOf m) = some old →
    old.id = m.id ∨ (old.id = none ∧ m.id ∉ s.ids chat)

/-! ## 2. One operation -/

variable {s : ChatStore} {chat id : String} {op : Operation} {ids' : List (Option String)}

theorem named?_message {e : Event} {m : Message} (hchat : e.chat = some chat)
    (hm : e.payload = .message m) : s.named? chat (.apply e) = m.id := by
  simp [named?, hchat, Event.message?, hm]

/-- An id that stands in a chat after an operation stood there before or was given by it. -/
theorem Effect.origin (h : Effect s chat op ids') (hid : some id ∈ ids') :
    s.named? chat op = some id ∨ some id ∈ s.ids chat := by
  cases h with
  | none => exact .inr hid
  | put e m _ hchat hm _ hids =>
      rcases List.mem_cons.mp (hids.mem_iff.mp hid) with h | h
      · exact .inl ((named?_message hchat hm).trans h.symm)
      · exact .inr h
  | replace e m old rest _ hchat hm _ hbefore hids =>
      rcases List.mem_cons.mp (hids.mem_iff.mp hid) with h | h
      · exact .inl ((named?_message hchat hm).trans h.symm)
      · exact .inr (hbefore.mem_iff.mpr (List.mem_cons_of_mem _ h))
  | complete clientId i rest _ hnamed _ hbefore hids =>
      rcases List.mem_cons.mp (hids.mem_iff.mp hid) with h | h
      · exact .inl (hnamed.trans h.symm)
      · exact .inr (hbefore.mem_iff.mpr (List.mem_cons_of_mem _ h))
  | drop clientId i _ hnamed hthere hbefore =>
      exact .inr (hbefore.mem_iff.mpr (List.mem_cons_of_mem _ hid))

/-- A message that nothing in the chat is a copy of brings an id that is not there. -/
theorem not_mem_ids_of_new {m : Message}
    (h : (s.messages chat).find? (ChatLog.isCopyOf m) = none) (hm : m.id = some id) :
    some id ∉ s.ids chat := by
  intro hid
  obtain ⟨old, hold, hidold⟩ := List.mem_map.mp hid
  exact List.find?_eq_none.mp h old hold (by simp [ChatLog.isCopyOf, hm, hidold])

theorem count_of_perm {l rest : List (Option String)} {a b : Option String}
    (h : l.Perm (a :: rest)) : l.count b = rest.count b + if a = b then 1 else 0 := by
  rw [h.count_eq, List.count_cons]
  simp only [beq_iff_eq]

/-- **What fits is counted right**: after it the id that it gave stands in the chat once, and any
other one as often as before. -/
theorem Effect.count (h : Effect s chat op ids') (hfits : ∀ e, op = .apply e → s.Fits e)
    (hone : s.copies chat id ≤ 1) :
    ids'.count (some id) = if s.named? chat op = some id then 1 else s.copies chat id := by
  cases h with
  | none _ hnamed => rw [hnamed]; rfl
  | put e m _ hchat hm hnew hids =>
      rw [count_of_perm hids, named?_message hchat hm, ← copies]
      split
      · rename_i hid
        rw [copies, List.count_eq_zero.mpr (not_mem_ids_of_new hnew hid)]
      · rfl
  | replace e m old rest _ hchat hm hold hbefore hids =>
      have hcount : s.copies chat id = rest.count (some id) + if old.id = some id then 1 else 0 :=
        count_of_perm hbefore
      rw [count_of_perm hids, named?_message hchat hm]
      rcases hfits e rfl chat m old hchat hm hold with hsame | ⟨hecho, hfree⟩
      · rw [hsame] at hcount
        by_cases hid : m.id = some id
        · rw [if_pos hid] at hcount ⊢
          rw [if_pos hid]
          omega
        · rw [if_neg hid] at hcount ⊢
          rw [if_neg hid, hcount]
      · rw [hecho, if_neg (Option.some_ne_none id).symm, Nat.add_zero] at hcount
        split
        · rename_i hid
          rw [← hcount, copies, List.count_eq_zero.mpr (hid ▸ hfree)]
        · exact hcount.symm
  | complete clientId i rest _ hnamed hfree hbefore hids =>
      have hcount : s.copies chat id = rest.count (some id) := count_of_perm hbefore
      rw [count_of_perm hids, hnamed, ← hcount]
      split
      · rename_i hid
        rw [copies, List.count_eq_zero.mpr (hid ▸ hfree)]
      · rfl
  | drop clientId i _ hnamed hthere hbefore =>
      have hcount : s.copies chat id = ids'.count (some id) := count_of_perm hbefore
      rw [hnamed, ← hcount]
      split
      · rename_i hid
        have hpos : 0 < s.copies chat id := List.count_pos_iff.mpr (hid ▸ hthere)
        omega
      · rfl

/-! ## 3. Runs -/

/-- An id that stands in a chat was given by the server to a message there. -/
theorem named_of_mem_ids {ops : List Operation} (h : some id ∈ (run ops).ids chat) :
    id ∈ named chat empty ops := by
  induction ops using List.reverseRecOn with
  | nil => exact absurd h List.not_mem_nil
  | append_singleton past op ih =>
      rw [run_concat] at h
      rw [named_concat]
      rcases (perform_effect (run past) chat op).origin h with hgiven | hbefore
      · exact List.mem_append_right _ (Option.mem_toList.mpr hgiven)
      · exact List.mem_append_left _ (ih hbefore)

/-- Where all messages fit, the ids that stand in a chat are those that the server gave. -/
theorem copies_of_fits {ops : List Operation}
    (hfits : ∀ past e, past ++ [.apply e] <+: ops → (run past).Fits e) (chat id : String) :
    (run ops).copies chat id = if id ∈ named chat empty ops then 1 else 0 := by
  induction ops using List.reverseRecOn with
  | nil => rfl
  | append_singleton past op ih =>
      have hpast := ih fun past' e h => hfits past' e (h.trans (List.prefix_append past [op]))
      have hone : (run past).copies chat id ≤ 1 := by
        rw [hpast]
        split <;> omega
      have hcount := (perform_effect (run past) chat op).count
        (fun e he => hfits past e (he ▸ List.prefix_refl _)) hone
      rw [run_concat, copies, hcount, hpast, named_concat]
      simp only [List.mem_append, Option.mem_toList]
      by_cases hgiven : (run past).named? chat op = some id
      · rw [if_pos hgiven, if_pos (.inr hgiven)]
      · have hiff : (id ∈ named chat empty past ∨ (empty.performAll past).named? chat op = some id)
            ↔ id ∈ named chat empty past := or_iff_left hgiven
        simp only [if_neg hgiven, hiff]

/-- A message that does not fit makes an id that stands in the chat go, or stand there twice. -/
theorem fits_of_exact {past : List Operation} {e : Event} (hpast : Exact past)
    (h : Exact (past ++ [.apply e])) : (run past).Fits e := by
  intro chat m old hchat hm hold
  have hbefore := (ChatLog.eraseP_perm hold).map Message.id
  rw [List.map_cons] at hbefore
  -- what stands in the chat was given, so it is counted once before and after the message
  have hcounts : ∀ id, some id ∈ (run past).ids chat →
      (old.id = some id ↔ m.id = some id) := by
    intro id hid
    have hgiven := named_of_mem_ids hid
    have hone := hpast chat id hgiven
    have hone' := h chat id (named_concat .. ▸ List.mem_append_left _ hgiven)
    rw [copies, ids, count_of_perm hbefore] at hone
    rw [run_concat, copies, perform, count_of_perm (ids_apply hchat hm)] at hone'
    by_cases hold : old.id = some id <;> by_cases hnew : m.id = some id <;>
      simp only [hold, hnew, if_true, if_false] at hone hone' ⊢ <;> omega
  cases hid : old.id with
  | some id =>
      have hmem : some id ∈ (run past).ids chat := by
        rw [ids, hbefore.mem_iff, hid]
        exact List.mem_cons_self
      exact .inl ((hcounts id hmem).mp hid).symm
  | none =>
      cases hmid : m.id with
      | none => exact .inl rfl
      | some id =>
          refine .inr ⟨rfl, fun hmem => ?_⟩
          rw [(hcounts id hmem).mpr hmid] at hid
          cases hid

/-- **Ids are neither lost nor doubled in the course of a run iff each message fits when it
arrives.** -/
theorem exact_iff_fits (ops : List Operation) :
    (∀ past, past <+: ops → Exact past) ↔
      ∀ past e, past ++ [.apply e] <+: ops → (run past).Fits e := by
  constructor
  · intro h past e hpre
    exact fits_of_exact (h past ((List.prefix_append past _).trans hpre)) (h _ hpre)
  · intro h past hpre chat id hid
    rw [copies_of_fits (fun past' e hpre' => h past' e (hpre'.trans hpre)), if_pos hid]

/-- A text of chat 42, with what the event says about its ids. -/
def told (id clientId : Option String) : Operation :=
  .apply ⟨none, some "42", .message { Message.plain "text" with id, clientId }, none, false⟩

/-- A second message for the same action drives the first one out. And of two entries that a message
answers to, an echo and a copy that did not name its action, only the echo makes room. -/
theorem id_lost_id_doubled :
    (let lost := [told (some "m1") (some "a1"), told (some "m2") (some "a1")]
     "m1" ∈ named "42" empty lost ∧ (run lost).copies "42" "m1" = 0) ∧
    (let doubled := [told none (some "a1"), told (some "m9") none, told (some "m9") (some "a1")]
     "m9" ∈ named "42" empty doubled ∧ (run doubled).copies "42" "m9" = 2) := by
  decide

end RealtimeChat.ChatStore
