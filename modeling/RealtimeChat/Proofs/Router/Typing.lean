import Mathlib.Data.List.Nodup
import Mathlib.Order.Defs.LinearOrder
import RealtimeChat.Proofs.OrderedMap
import RealtimeChat.Router.Typing
/-!
# The tracker at one typist

The tracker holds one map for each chat. What its operations do is said here for somebody in a
chat, so that nothing has to look at the two levels again, nor at the order of the chats.

* `deadline?_start`, `deadline?_stop`, `deadline?_expire` -- the deadline of somebody after each
  operation;
* `mem_expire_iff`, **`expire_rising`**, **`expire_congr`** -- who has run out, by chat and user;
* `mem_users_iff`, `users_rising`, `users_congr` -- who is typing in a chat;
* **`next?_eq_some_iff`** -- the earliest deadline is the least deadline of anybody.
-/

namespace RealtimeChat

theorem Typist.compare_eq_lt {a b : Typist} :
    compare a b = .lt ↔ a.chat < b.chat ∨ a.chat = b.chat ∧ a.user < b.user := by
  have hchat : compare a.chat b.chat = .lt ↔ a.chat < b.chat := compareOfLessAndEq_eq_lt
  have huser : compare a.user b.user = .lt ↔ a.user < b.user := compareOfLessAndEq_eq_lt
  have hlex : compare a b = (compare a.chat b.chat).then (compare a.user b.user) := rfl
  rw [hlex, Ordering.then_eq_lt, hchat, huser, Std.compare_eq_iff_eq]

namespace TypingTracker

variable {t t' : TypingTracker} {now : Instant}

/-! ## 1. One typist -/

theorem stop_expiry (t : TypingTracker) (who : Typist) : (t.stop who).2.expiry = t.expiry := by
  unfold stop
  split <;> rfl

theorem deadline?_eq_some_iff {who : Typist} {d : Instant} :
    t.deadline? who = some d ↔
      ∃ users, (who.chat, users) ∈ t.chats.entries ∧ users.get? who.user = some d := by
  simp only [deadline?, typists, ← Table.get?_eq_some_iff]
  cases t.chats.get? who.chat <;> simp

theorem typists_start (t : TypingTracker) (who : Typist) (now : Instant) (chat : String) :
    (t.start who now).2.typists chat =
      if who.chat = chat then (t.typists who.chat).insert who.user (now + t.expiry)
      else t.typists chat := by
  simp only [typists, start, Table.get?_insert]
  split <;> rfl

theorem typists_stop (t : TypingTracker) (who : Typist) (chat : String) :
    (t.stop who).2.typists chat =
      if who.chat = chat then (t.typists who.chat).erase who.user else t.typists chat := by
  unfold stop
  cases hchat : t.chats.get? who.chat with
  | none =>
      by_cases h : who.chat = chat
      · subst h
        rw [if_pos rfl, typists, hchat]
        rfl
      · rw [if_neg h]
  | some users =>
      have husers : t.typists who.chat = users := by rw [typists, hchat, Option.getD_some]
      rw [husers]
      dsimp only
      split
      · rename_i hleft
        have hnobody : users.erase who.user = ∅ :=
          OrderedMap.ext_entries (List.isEmpty_iff.mp hleft)
        simp only [typists, Table.get?_erase, hnobody]
        split <;> rfl
      · simp only [typists, Table.get?_insert]
        split <;> rfl

theorem typists_expire (t : TypingTracker) (now : Instant) (chat : String) :
    (t.expire now).2.typists chat = (t.typists chat).filter (fun _ d => now < d) := by
  simp only [typists, expire, Table.get?_retain]
  cases t.chats.get? chat with
  | none => rfl
  | some users =>
      rw [Option.bind_some]
      split
      · rename_i hleft
        exact (OrderedMap.ext_entries (List.isEmpty_iff.mp hleft)).symm
      · rfl

/-- What changes one user of one chat changes the deadline of nobody else. -/
theorem deadline?_of_typists {who : Typist} {users : OrderedMap String Instant}
    {d : Option Instant}
    (hchats : ∀ chat, t'.typists chat = if who.chat = chat then users else t.typists chat)
    (husers : ∀ user, users.get? user =
      if who.user = user then d else (t.typists who.chat).get? user) (other : Typist) :
    t'.deadline? other = if who = other then d else t.deadline? other := by
  obtain ⟨chat, user⟩ := who
  obtain ⟨chat', user'⟩ := other
  rw [deadline?, hchats]
  by_cases hchat : chat = chat'
  · subst hchat
    rw [if_pos rfl, husers]
    simp [deadline?]
  · simp [hchat, deadline?]

theorem deadline?_start (t : TypingTracker) (who other : Typist) (now : Instant) :
    (t.start who now).2.deadline? other =
      if who = other then some (now + t.expiry) else t.deadline? other :=
  deadline?_of_typists (t.typists_start who now) (fun _ => OrderedMap.get?_insert ..) other

theorem deadline?_stop (t : TypingTracker) (who other : Typist) :
    (t.stop who).2.deadline? other = if who = other then none else t.deadline? other :=
  deadline?_of_typists (t.typists_stop who) (fun _ => OrderedMap.get?_erase ..) other

theorem deadline?_expire (t : TypingTracker) (now : Instant) (who : Typist) :
    (t.expire now).2.deadline? who = (t.deadline? who).filter (fun d => now < d) := by
  rw [deadline?, typists_expire, OrderedMap.get?_filter, deadline?]

/-! ## 2. Who has run out -/

theorem mem_due_iff {who : Typist} :
    who ∈ t.due now ↔ ∃ d, t.deadline? who = some d ∧ d ≤ now := by
  simp only [due, List.mem_flatMap, List.mem_map, OrderedMap.mem_keys_iff, OrderedMap.get?_filter,
    Option.filter_eq_some_iff, decide_eq_true_eq, deadline?_eq_some_iff]
  constructor
  · rintro ⟨⟨chat, users⟩, hmem, user, ⟨d, hd, hnow⟩, rfl⟩
    exact ⟨d, ⟨users, hmem, hd⟩, hnow⟩
  · rintro ⟨d, ⟨users, hmem, hd⟩, hnow⟩
    exact ⟨(who.chat, users), hmem, who.user, ⟨d, hd, hnow⟩, rfl⟩

/-- Nobody is listed twice: no chat is, and no user within a chat. -/
theorem nodup_due (t : TypingTracker) (now : Instant) : (t.due now).Nodup := by
  refine List.nodup_flatMap.mpr ⟨fun x _ => ?_, t.chats.distinct.imp fun {x y} hxy who hx hy => ?_⟩
  · have hkeys : (x.2.filter fun _ d => d ≤ now).keys.Nodup :=
      List.pairwise_map.mpr (OrderedMap.distinct_keys _)
    exact hkeys.map fun _ _ h => congrArg Typist.user h
  · obtain ⟨_, -, rfl⟩ := List.mem_map.mp hx
    obtain ⟨_, -, h⟩ := List.mem_map.mp hy
    exact hxy (congrArg Typist.chat h).symm

theorem mem_expire_iff {who : Typist} :
    who ∈ (t.expire now).1 ↔ ∃ d, t.deadline? who = some d ∧ d ≤ now :=
  List.mem_mergeSort.trans mem_due_iff

theorem nodup_expire (t : TypingTracker) (now : Instant) : (t.expire now).1.Nodup :=
  (List.mergeSort_perm _ _).nodup_iff.mpr (t.nodup_due now)

/-- **Those who have run out are listed by chat and user**, and nobody twice. -/
theorem expire_rising (t : TypingTracker) (now : Instant) :
    (t.expire now).1.Pairwise fun a b => a.chat < b.chat ∨ a.chat = b.chat ∧ a.user < b.user := by
  have hsorted : (t.expire now).1.Pairwise fun a b => (compare a b).isLE = true := by
    refine List.pairwise_mergeSort (fun a b c => Std.TransCmp.isLE_trans) (fun a b => ?_) _
    have hswap : compare b a = (compare a b).swap := Std.OrientedCmp.eq_swap
    rw [hswap]
    cases compare a b <;> rfl
  refine (hsorted.and (t.nodup_expire now)).imp fun {a b} ⟨hle, hne⟩ => Typist.compare_eq_lt.mp ?_
  cases hab : compare a b with
  | lt => rfl
  | eq => exact absurd (Std.LawfulEqCmp.eq_of_compare hab) hne
  | gt => simp [hab] at hle

/-- **Who has run out, and in which order, is a matter of the deadlines**, and not of how the chats
come. -/
theorem expire_congr (h : ∀ who, t'.deadline? who = t.deadline? who) :
    (t'.expire now).1 = (t.expire now).1 := by
  have hperm : (t'.expire now).1.Perm (t.expire now).1 :=
    (List.perm_ext_iff_of_nodup (t'.nodup_expire now) (t.nodup_expire now)).mpr fun who => by
      rw [mem_expire_iff, mem_expire_iff, h]
  refine hperm.eq_of_pairwise (fun a b _ _ hab hba => ?_) (t'.expire_rising now)
    (t.expire_rising now)
  have hgt : compare a b = .gt := Std.OrientedCmp.gt_of_lt (Typist.compare_eq_lt.mpr hba)
  rw [Typist.compare_eq_lt.mpr hab] at hgt
  cases hgt

/-! ## 3. Who is typing -/

theorem mem_users_iff {chat user : String} :
    user ∈ t.users chat now ↔ ∃ d, t.deadline? ⟨chat, user⟩ = some d ∧ now < d := by
  simp [users, deadline?, OrderedMap.mem_keys_iff, OrderedMap.get?_filter,
    Option.filter_eq_some_iff]

theorem users_rising (t : TypingTracker) (chat : String) (now : Instant) :
    (t.users chat now).Pairwise (· < ·) :=
  List.pairwise_map.mpr
    ((OrderedMap.rising _).imp fun h => compareOfLessAndEq_eq_lt.mp h)

/-- Who is typing is a matter of the deadlines to come. -/
theorem users_congr (chat : String)
    (h : ∀ who, (t'.deadline? who).filter (fun d => now < d) =
      (t.deadline? who).filter (fun d => now < d)) : t'.users chat now = t.users chat now := by
  refine congrArg OrderedMap.keys (OrderedMap.ext_get? fun user => ?_)
  rw [OrderedMap.get?_filter, OrderedMap.get?_filter]
  exact h ⟨chat, user⟩

/-! ## 4. The earliest deadline -/

theorem mem_deadlines_iff {d : Instant} :
    d ∈ t.chats.values.flatMap (·.values) ↔ ∃ who, t.deadline? who = some d := by
  simp only [List.mem_flatMap, Table.values, List.mem_map, OrderedMap.mem_values_iff,
    deadline?_eq_some_iff]
  constructor
  · rintro ⟨users, ⟨⟨chat, _⟩, hmem, rfl⟩, user, hd⟩
    exact ⟨⟨chat, user⟩, _, hmem, hd⟩
  · rintro ⟨who, users, hmem, hd⟩
    exact ⟨users, ⟨_, hmem, rfl⟩, who.user, hd⟩

/-- **The earliest deadline is the least deadline of anybody.** -/
theorem next?_eq_some_iff {d : Instant} : t.next? = some d ↔
    (∃ who, t.deadline? who = some d) ∧ ∀ who d', t.deadline? who = some d' → d ≤ d' := by
  rw [next?, List.min?_eq_some_iff, mem_deadlines_iff]
  refine and_congr_right fun _ => ⟨fun h who d' hd' => h d' (mem_deadlines_iff.mpr ⟨who, hd'⟩), ?_⟩
  intro h d' hd'
  obtain ⟨who, hwho⟩ := mem_deadlines_iff.mp hd'
  exact h who d' hwho

/-- There is an earliest deadline iff anybody has one. -/
theorem isSome_next?_iff : t.next?.isSome = true ↔ ∃ who d, t.deadline? who = some d := by
  rw [next?, List.isSome_min?_iff]
  constructor
  · intro hne
    obtain ⟨d, hmem⟩ := List.exists_mem_of_ne_nil _ hne
    obtain ⟨who, hwho⟩ := mem_deadlines_iff.mp hmem
    exact ⟨who, d, hwho⟩
  · rintro ⟨who, d, hwho⟩
    exact List.ne_nil_of_mem (mem_deadlines_iff.mpr ⟨who, hwho⟩)

end TypingTracker

end RealtimeChat
