import RealtimeChat.History.Rest
import RealtimeChat.Proofs.Timestamp
import RealtimeChat.Proofs.Url
/-!
# Which messages an address is the address of

The messages of a chat are fetched from an address that is made of the configured one, the name of
the chat and the time to begin at. Names come from outside and can be any text. Most of them get a
part of the path for themselves. Those that do not share an address with others.

* `front` -- the path that the address begins with, `stem` the one that it should begin with;
* `partsBelow` -- what follows, for each way in which the name of a chat can land;
* **`messagesUrl_names`** -- for which names the address is the one that it should be, and which
  names and times share an address.
-/

namespace RealtimeChat.RestHistory

open Url (Landing Plain landing pathText queryText unrooted)
open Url.Percent (decode encode pathSegment)

/-! ## 1. The path -/

/-- A path without the slash at its end. -/
def stem (path : List (List Char)) : List (List Char) :=
  if path.getLast? = some [] then path.dropLast else path

/-- The path that the parts for a chat are put below. -/
def front (path : List (List Char)) : List (List Char) := unrooted (Url.popEmpty path)

/-- The two are the same, but for a path that is nothing but two slashes: both of them go. -/
theorem front_eq (path : List (List Char)) :
    front path = if path = [[], []] then [] else stem path := by
  match path with
  | [] => rfl
  | [part] =>
      rw [if_neg (by simp), front, Url.popEmpty, if_neg (by simp), unrooted, stem]
      by_cases h : part = [] <;> simp [h]
  | part :: part' :: rest =>
      rw [front, Url.popEmpty, stem]
      by_cases hlast : (part :: part' :: rest).getLast? = some []
      · rw [if_pos ⟨by simp, hlast⟩, if_pos hlast, unrooted]
        cases rest with
        | nil =>
            have hempty : part' = [] := by simpa using hlast
            subst hempty
            by_cases h : part = [] <;> simp [h]
        | cons part'' rest => rw [if_neg (by simp), if_neg (by simp)]
      · rw [if_neg (fun h => hlast h.2), if_neg hlast, unrooted, if_neg (by simp), if_neg]
        rintro h
        exact hlast (h ▸ rfl)

theorem front_eq_stem_iff {path : List (List Char)} : front path = stem path ↔ path ≠ [[], []] := by
  rw [front_eq]
  split_ifs with h
  · subst h
    decide
  · exact iff_of_true rfl h

theorem length_front_le (path : List (List Char)) : (front path).length ≤ (stem path).length := by
  rw [front_eq]
  split_ifs
  · exact Nat.zero_le _
  · exact le_rfl

/-- What is put below the configured path, by what the name of the chat comes to. -/
def partsBelow (path : List (List Char)) : Landing → List (List Char)
  | .nowhere => ["chats".toList, "messages".toList]
  | .above => if path = [] then ["messages".toList] else [[], "messages".toList]
  | .part name => ["chats".toList, encode pathSegment name, "messages".toList]

theorem messagesUrl_path (h : RestHistory) (chat : String) (since : Option Timestamp) :
    (h.messagesUrl chat since).path =
      front h.base.path ++ partsBelow (front h.base.path) (landing chat) := by
  have hpath : (h.messagesUrl chat since).path =
      (h.base.appendPath ["chats", chat, "messages"]).path := by
    cases since <;> rfl
  have hchats : landing "chats" = .part "chats".toList := by decide +kernel
  have hmessages : landing "messages" = .part "messages".toList := by decide +kernel
  have hdrive : Url.parentPath (front h.base.path ++ ["chats".toList]) = front h.base.path := by
    rw [Url.parentPath, List.getLast?_concat, if_neg (by decide), List.dropLast_concat]
  have hplain : encode pathSegment "chats".toList = "chats".toList ∧
      encode pathSegment "messages".toList = "messages".toList := by decide +kernel
  rw [hpath, Url.appendPath]
  simp only [List.foldl_cons, List.foldl_nil, Url.extendPath_eq, hchats, hmessages, hplain]
  change unrooted (match landing chat with
    | .nowhere => front h.base.path ++ ["chats".toList]
    | .above => Url.parentPath (unrooted (front h.base.path ++ ["chats".toList])) ++ [[]]
    | .part name =>
      unrooted (front h.base.path ++ ["chats".toList]) ++ [encode pathSegment name]) ++
      ["messages".toList] = _
  rw [Url.unrooted_append (by decide), hdrive]
  cases landing chat with
  | nowhere =>
      rw [partsBelow, Url.unrooted_append (by decide), List.append_assoc]
      rfl
  | above =>
      rw [partsBelow, unrooted]
      by_cases hroot : front h.base.path = []
      · rw [hroot]
        rfl
      · rw [if_neg hroot, if_neg, List.append_assoc]
        · rfl
        · simpa using hroot
  | part name =>
      change unrooted (front h.base.path ++ ["chats".toList] ++ [encode pathSegment name]) ++
        ["messages".toList] = _
      rw [partsBelow, List.append_assoc, List.singleton_append, Url.unrooted_append (by decide),
        List.append_assoc]
      rfl

/-- How a name lands can be told from the parts. -/
theorem partsBelow_injective (path : List (List Char)) : Function.Injective (partsBelow path) := by
  have hnowhere_above : partsBelow path .nowhere ≠ partsBelow path .above := by
    rw [partsBelow, partsBelow]
    split_ifs <;> decide
  -- only a name that gets a part for itself makes three of them
  have hnowhere_part : ∀ name, partsBelow path .nowhere ≠ partsBelow path (.part name) := by
    intro name h
    simpa [partsBelow] using congrArg List.length h
  have habove_part : ∀ name, partsBelow path .above ≠ partsBelow path (.part name) := by
    intro name h
    rw [partsBelow, partsBelow] at h
    split_ifs at h <;> simpa using congrArg List.length h
  intro l l' h
  cases l with
  | nowhere =>
      cases l' with
      | nowhere => rfl
      | above => exact absurd h hnowhere_above
      | part name => exact absurd h (hnowhere_part name)
  | above =>
      cases l' with
      | nowhere => exact absurd h.symm hnowhere_above
      | above => rfl
      | part name => exact absurd h (habove_part name)
  | part name =>
      cases l' with
      | nowhere => exact absurd h.symm (hnowhere_part name)
      | above => exact absurd h.symm (habove_part name)
      | part name' =>
          have hname := (List.cons.inj (List.cons.inj h).2).1
          rw [Url.Percent.encode_injective (by decide) hname]

/-- No sign that separates parts of an address stands in an encoded name. -/
theorem not_mem_encode {d : Char} (hd : d ∈ ['/', '?', '#']) (name : List Char) :
    d ∉ encode pathSegment name := by
  have hall : ∀ d ∈ ['/', '?', '#'],
      pathSegment d = true ∧ d ≠ '%' ∧ d.isAlphanum = false := by
    rw [List.forall_mem_cons, List.forall_mem_cons, List.forall_mem_singleton]
    decide
  obtain ⟨hset, hpercent, hdigit⟩ := hall d hd
  exact Url.Percent.not_mem_encode hset hpercent hdigit name

theorem not_mem_partsBelow {d : Char} (hd : d ∈ ['/', '?', '#']) (path : List (List Char))
    (l : Landing) : ∀ part ∈ partsBelow path l, d ∉ part := by
  have hall : ∀ d ∈ ['/', '?', '#'], d ∉ "chats".toList ∧ d ∉ "messages".toList := by
    rw [List.forall_mem_cons, List.forall_mem_cons, List.forall_mem_singleton]
    decide
  obtain ⟨hchats, hmessages⟩ := hall d hd
  have hlast : ∀ part ∈ ["messages".toList], d ∉ part := List.forall_mem_singleton.mpr hmessages
  cases l with
  | nowhere => exact List.forall_mem_cons.mpr ⟨hchats, hlast⟩
  | above =>
      rw [partsBelow]
      split_ifs
      · exact hlast
      · exact List.forall_mem_cons.mpr ⟨List.not_mem_nil, hlast⟩
  | part name =>
      exact List.forall_mem_cons.mpr
        ⟨hchats, List.forall_mem_cons.mpr ⟨not_mem_encode hd name, hlast⟩⟩

theorem messagesUrl_path_eq_iff (h : RestHistory) (chat : String) (since : Option Timestamp) :
    (h.messagesUrl chat since).path =
        stem h.base.path ++ ["chats".toList, encode pathSegment chat.toList, "messages".toList] ↔
      Plain chat ∧ h.base.path ≠ [[], []] := by
  have hle := length_front_le h.base.path
  have hinj : Function.Injective (encode pathSegment) := Url.Percent.encode_injective (by decide)
  rw [messagesUrl_path, ← Url.landing_eq_part_iff, ← front_eq_stem_iff]
  constructor
  · intro heq
    have hlength := congrArg List.length heq
    rw [List.length_append, List.length_append] at hlength
    cases hland : landing chat with
    | nowhere =>
        rw [hland] at hlength
        simp only [partsBelow, List.length_cons, List.length_nil] at hlength
        omega
    | above =>
        rw [hland] at hlength
        simp only [partsBelow, List.length_cons, List.length_nil] at hlength
        split_ifs at hlength with hroot
        · simp only [List.length_cons, List.length_nil] at hlength
          omega
        · simp only [List.length_cons, List.length_nil] at hlength
          omega
    | part name =>
        rw [hland] at heq
        obtain ⟨hfront, hparts⟩ := List.append_inj' heq rfl
        have hname := hinj (List.cons.inj (List.cons.inj hparts).2).1
        exact ⟨congrArg _ hname, hfront⟩
  · rintro ⟨hland, hfront⟩
    rw [hland, hfront, partsBelow]

/-! ## 2. The query -/

/-- The time to begin at, as an entry of the query. -/
def sinceEntry (t : Timestamp) : List Char :=
  Url.formEncode "since" ++ '=' :: Url.formEncode t.offsetText

/-- The query of the address. -/
def queryFrom (query : Option (List Char)) : Option Timestamp → Option (List Char)
  | none => query
  | some t => some (Url.addEntry query (sinceEntry t))

theorem queryFrom_injective (query : Option (List Char)) :
    Function.Injective (queryFrom query) := by
  have hne : ∀ t, some (Url.addEntry query (sinceEntry t)) ≠ query := fun t =>
    Url.addEntry_ne (by simp [sinceEntry])
  rintro (_ | t) (_ | t') h
  · rfl
  · exact absurd h.symm (hne t')
  · exact absurd h (hne t)
  · have hentry := Url.addEntry_injective query (Option.some.inj h)
    have htext := (List.cons.inj (List.append_cancel_left hentry)).2
    rw [Timestamp.offsetText_injective (Url.formEncode_injective htext)]

theorem messagesUrl_eq (h : RestHistory) (chat : String) (since : Option Timestamp) :
    h.messagesUrl chat since =
      { h.base with
        path := front h.base.path ++ partsBelow (front h.base.path) (landing chat)
        query := queryFrom h.base.query since } := by
  rw [← messagesUrl_path h chat since]
  cases since <;> rfl

/-! ## 3. Shared addresses -/

/-- The written address tells how the name lands, and the time. -/
theorem messagesUrl_text_eq_iff (h : RestHistory) (chat chat' : String)
    (since since' : Option Timestamp) :
    (h.messagesUrl chat since).text = (h.messagesUrl chat' since').text ↔
      landing chat = landing chat' ∧ since = since' := by
  rw [messagesUrl_eq, messagesUrl_eq, Url.text_eq_iff, Url.pathText_append, Url.pathText_append,
    List.append_assoc, List.append_assoc, List.append_cancel_left_eq]
  constructor
  · intro heq
    obtain ⟨hpath, hquery⟩ := Url.append_inj_at
      (Url.not_mem_pathText (by decide) (not_mem_partsBelow (by decide) _ _))
      (Url.not_mem_pathText (by decide) (not_mem_partsBelow (by decide) _ _))
      (Url.head?_queryText _) (Url.head?_queryText _) heq
    have hparts := Url.pathText_injective (not_mem_partsBelow (by decide) _ _)
      (not_mem_partsBelow (by decide) _ _) hpath
    exact ⟨partsBelow_injective _ hparts, queryFrom_injective _ (Url.queryText_injective hquery)⟩
  · rintro ⟨hland, rfl⟩
    rw [hland]

/-- What a source that was accepted fetches from is an address of the web. -/
theorem parse_eq_of_new {apiUrl : String} {h : RestHistory} (hnew : new apiUrl = .ok h) :
    Address.parse apiUrl = .ok (.web h.base) := by
  rw [new, Settings.checkApiUrl, Settings.checkUrl] at hnew
  split at hnew
  · cases hnew
  · cases hnew
  · split_ifs at hnew
    · cases hnew
      assumption
    · cases hnew

/-- **Which messages an address is the address of.** Below every address that is accepted there is
one for every chat and every time, and it differs from it in path and query only. The path is the
configured one followed by `chats`, the encoded name and `messages` exactly if the name is not one
or two dots, has no tab and no end of a line, and the configured path is not two slashes alone. The
name reads back and is a single part. Two addresses are the same exactly if the names land in the
same way and the times are the same; so names that are put in as they are never share one. -/
theorem messagesUrl_names {apiUrl : String} {h : RestHistory} (hnew : new apiUrl = .ok h) :
    Address.parse apiUrl = .ok (.web h.base) ∧
      (∀ chat since, ∃ path query,
        h.messagesUrl chat since = { h.base with path := path, query := query } ∧
        (path = stem h.base.path ++
            ["chats".toList, encode pathSegment chat.toList, "messages".toList] ↔
          Plain chat ∧ h.base.path ≠ [[], []])) ∧
      (∀ chat : String,
        decode (encode pathSegment chat.toList) = chat.toList.flatMap String.utf8EncodeChar ∧
        ∀ d ∈ ['/', '?', '#'], d ∉ encode pathSegment chat.toList) ∧
      (∀ chat chat' since since',
        (h.messagesUrl chat since).text = (h.messagesUrl chat' since').text ↔
          landing chat = landing chat' ∧ since = since') ∧
      ∀ chat chat' since since', Plain chat → Plain chat' →
        ((h.messagesUrl chat since).text = (h.messagesUrl chat' since').text ↔
          chat = chat' ∧ since = since') := by
  refine ⟨parse_eq_of_new hnew, fun chat since => ?_, fun chat => ⟨?_, fun d hd => ?_⟩,
    messagesUrl_text_eq_iff h, fun chat chat' since since' hplain hplain' => ?_⟩
  · refine ⟨_, _, messagesUrl_eq h chat since, ?_⟩
    rw [← messagesUrl_path h chat since]
    exact messagesUrl_path_eq_iff h chat since
  · exact Url.Percent.decode_encode (by decide) _
  · exact not_mem_encode hd _
  · rw [messagesUrl_text_eq_iff, Url.landing_eq_part_iff.mpr hplain,
      Url.landing_eq_part_iff.mpr hplain', Landing.part.injEq, String.toList_inj]

/-- A service in a folder of its host. -/
def folder : RestHistory where
  base := {
    scheme := "https", userinfo := [], host := .domain "chat.example", portNumber := none
    path := ["api".toList, []], query := none, fragment := none }

theorem new_folder : new "https://chat.example/api/" = .ok folder := by
  have hcheck : (Settings.checkApiUrl "https://chat.example/api/").toOption = some folder.base := by
    decide +kernel
  rw [new]
  cases hresult : Settings.checkApiUrl "https://chat.example/api/" with
  | error fault =>
      rw [hresult] at hcheck
      cases hcheck
  | ok u =>
      rw [hresult] at hcheck
      cases hcheck
      rfl

/-- A name with a slash and a percent sign has a part of the path and an address for itself. -/
theorem messagesUrl_names_slash :
    (folder.messagesUrl "a/b%2Fc" none).path =
        ["api".toList, "chats".toList, encode pathSegment "a/b%2Fc".toList, "messages".toList] ∧
      (folder.messagesUrl "a/b%2Fc" none).text ≠ (folder.messagesUrl "a" none).text := by
  have hplain : Plain "a/b%2Fc" ∧ Plain "a" := by decide +kernel
  obtain ⟨-, hpath, -, -, hshared⟩ := messagesUrl_names new_folder
  constructor
  · obtain ⟨path, query, hurl, hiff⟩ := hpath "a/b%2Fc" none
    rw [hurl]
    exact hiff.mpr ⟨hplain.1, by decide⟩
  · intro heq
    have hnames := (hshared _ _ none none hplain.1 hplain.2).mp heq
    exact absurd hnames.1 (by decide)

/-- Names that share an address: one and two dots are both left out, and a tab is dropped. -/
theorem messagesUrl_shared : new "https://chat.example/api/" = .ok folder ∧
    (folder.messagesUrl "." none).path = ["api".toList, "chats".toList, "messages".toList] ∧
    (folder.messagesUrl "." none).text = (folder.messagesUrl ".." none).text ∧
    (folder.messagesUrl "4\t2" none).text = (folder.messagesUrl "42" none).text :=
  ⟨new_folder, by decide +kernel, by decide +kernel, by decide +kernel⟩

end RealtimeChat.RestHistory
