import Mathlib.Data.List.Perm.Basic
import Mathlib.Data.List.Nodup
import SecretRefs.Dict

/-! Maps by what they hold under each key. An insertion changes one key, so of the entries written into a map
the last one of a key stays, and a list without repeated keys becomes the map that holds just its entries.
Entries and members are listed in increasing order, so a map is determined by what it holds, and a set by
what belongs to it. -/

namespace SecretRefs

open Std (TransOrd LawfulEqOrd)

section Increasing

variable {κ β : Type} [Ord κ] [TransOrd κ] (key : β → κ)

theorem nodup_of_increasing {l : List β} (h : l.Pairwise fun a b => compare (key a) (key b) = .lt) :
    l.Nodup :=
  h.imp fun {a b} hlt heq => by
    rw [heq] at hlt
    simp at hlt

/-- A list in increasing order is determined by its members. -/
theorem eq_of_increasing {l m : List β} (hl : l.Pairwise fun a b => compare (key a) (key b) = .lt)
    (hm : m.Pairwise fun a b => compare (key a) (key b) = .lt) (hmem : ∀ b, b ∈ l ↔ b ∈ m) : l = m := by
  have hperm : l.Perm m :=
    (List.perm_ext_iff_of_nodup (nodup_of_increasing key hl) (nodup_of_increasing key hm)).2 hmem
  refine hperm.eq_of_pairwise (fun a b _ _ hab hba => ?_) hl hm
  exact absurd hba (by rw [Std.OrientedCmp.gt_of_lt hab]; simp)

/-- What is found in a list in increasing order is the least that passes the test. -/
theorem find?_eq_some_iff_of_increasing {l : List β} (hl : l.Pairwise fun a b => compare (key a) (key b) = .lt)
    {p : β → Bool} {b : β} :
    l.find? p = some b ↔ b ∈ l ∧ p b = true ∧ ∀ c ∈ l, p c = true → c ≠ b → compare (key b) (key c) = .lt := by
  have hleast {found : β} (h : l.find? p = some found) :
      ∀ c ∈ l, p c = true → c ≠ found → compare (key found) (key c) = .lt := by
    obtain ⟨-, before, after, rfl, hbefore⟩ := List.find?_eq_some_iff_append.1 h
    intro c hc hpass hne
    rcases List.mem_append.1 hc with hc | hc
    · have hfail := hbefore c hc
      rw [hpass] at hfail
      cases hfail
    · obtain ⟨-, hlater, -⟩ := List.pairwise_append.1 hl
      exact (List.pairwise_cons.1 hlater).1 c ((List.mem_cons.1 hc).resolve_left hne)
  constructor
  · intro h
    exact ⟨List.mem_of_find?_eq_some h, List.find?_some h, hleast h⟩
  · rintro ⟨hb, hpass, hall⟩
    cases h : l.find? p with
    | none => exact absurd hpass (List.find?_eq_none.1 h b hb)
    | some found =>
        by_contra hne
        have hfound : b ≠ found := fun heq => hne (by rw [heq])
        have hlt := hleast h b hb hpass hfound
        have hgt := hall found (List.mem_of_find?_eq_some h) (List.find?_some h) hfound.symm
        rw [Std.OrientedCmp.gt_of_lt hlt] at hgt
        cases hgt

end Increasing

namespace Dict

section Lookup

variable {κ α : Type} [DecidableEq κ]

theorem lookup_cons_of_ne {k key : κ} (hkey : key ≠ k) (v : α) (l : List (κ × α)) :
    ((k, v) :: l).lookup key = l.lookup key := by
  rw [List.lookup_cons, show (key == k) = false by simpa using hkey]

theorem lookup_eq_some_iff_mem {l : List (κ × α)} (hnodup : (l.map Prod.fst).Nodup) {key : κ} {v : α} :
    l.lookup key = some v ↔ (key, v) ∈ l := by
  induction l with
  | nil => simp
  | cons e rest ih =>
      obtain ⟨k, w⟩ := e
      rw [List.map_cons, List.nodup_cons] at hnodup
      rw [List.mem_cons]
      by_cases hkey : key = k
      · subst hkey
        have hnot : (key, v) ∉ rest := fun h => hnodup.1 (List.mem_map.2 ⟨(key, v), h, rfl⟩)
        simp [hnot, eq_comm]
      · rw [lookup_cons_of_ne hkey, ih hnodup.2]
        simp [hkey]

theorem lookup_reverse_eq_some_iff_mem {l : List (κ × α)} (hnodup : (l.map Prod.fst).Nodup) {key : κ} {v : α} :
    l.reverse.lookup key = some v ↔ (key, v) ∈ l := by
  have hreverse : (l.reverse.map Prod.fst).Nodup := by
    rw [List.map_reverse]
    exact List.nodup_reverse.2 hnodup
  rw [lookup_eq_some_iff_mem hreverse, List.mem_reverse]

theorem exists_lookup_eq_some_iff {l : List (κ × α)} {key : κ} :
    (∃ v, l.lookup key = some v) ↔ key ∈ l.map Prod.fst := by
  induction l with
  | nil => simp
  | cons e rest ih =>
      obtain ⟨k, v⟩ := e
      rw [List.map_cons, List.mem_cons]
      by_cases hkey : key = k
      · simp [hkey]
      · rw [lookup_cons_of_ne hkey, ih]
        simp [hkey]

end Lookup

theorem keys_mapValues {κ α β : Type} [Ord κ] (d : Dict κ α) (f : κ → α → β) : (d.mapValues f).keys = d.keys :=
  List.map_map

variable {κ α : Type} [Ord κ] [LawfulEqOrd κ] [DecidableEq κ]

theorem get?_eq_lookup (d : Dict κ α) (key : κ) : d.get? key = d.entries.lookup key := by
  rw [get?]
  induction d.entries with
  | nil => rfl
  | cons e rest ih =>
      obtain ⟨k, v⟩ := e
      by_cases hkey : key = k
      · simp [hkey]
      · rw [List.find?_cons_of_neg (by simpa using hkey), ih, lookup_cons_of_ne hkey]

theorem lookup_insertEntry (k key : κ) (v : α) (l : List (κ × α)) :
    (insertEntry k v l).lookup key = if key = k then some v else l.lookup key := by
  induction l with
  | nil => by_cases hkey : key = k <;> simp [insertEntry, lookup_cons_of_ne, hkey]
  | cons e rest ih =>
      obtain ⟨k', v'⟩ := e
      rw [insertEntry]
      split
      · by_cases hkey : key = k <;> simp [lookup_cons_of_ne, hkey]
      · next heq =>
        obtain rfl : k = k' := by simpa using heq
        by_cases hkey : key = k <;> simp [lookup_cons_of_ne, hkey]
      · next hgt =>
        have hk : k ≠ k' := by
          rintro rfl
          simp at hgt
        by_cases hkey : key = k'
        · subst hkey
          rw [List.lookup_cons_self, if_neg (Ne.symm hk), List.lookup_cons_self]
        · rw [lookup_cons_of_ne hkey, ih, lookup_cons_of_ne hkey]

theorem get?_insert [TransOrd κ] (d : Dict κ α) (k key : κ) (v : α) :
    (d.insert k v).get? key = if key = k then some v else d.get? key := by
  rw [get?_eq_lookup, get?_eq_lookup]
  exact lookup_insertEntry k key v d.entries

theorem get?_insertAll [TransOrd κ] (d : Dict κ α) (entries : List (κ × α)) (key : κ) :
    (d.insertAll entries).get? key = (entries.reverse.lookup key).or (d.get? key) := by
  induction entries generalizing d with
  | nil => rfl
  | cons e rest ih =>
      obtain ⟨k, v⟩ := e
      change ((d.insert k v).insertAll rest).get? key = _
      rw [ih, get?_insert, List.reverse_cons, List.lookup_append, Option.or_assoc]
      by_cases hkey : key = k <;> simp [lookup_cons_of_ne, hkey]

/-- The last entry of a key stays. -/
theorem get?_ofList [TransOrd κ] (entries : List (κ × α)) (key : κ) :
    (ofList entries).get? key = entries.reverse.lookup key := by
  rw [ofList, get?_insertAll]
  exact Option.or_none

omit [LawfulEqOrd κ] [DecidableEq κ] in
theorem nodup_keys [TransOrd κ] (d : Dict κ α) : (d.entries.map Prod.fst).Nodup :=
  nodup_of_increasing id (List.pairwise_map.2 d.increasing)

theorem get?_eq_some_iff [TransOrd κ] (d : Dict κ α) {key : κ} {v : α} :
    d.get? key = some v ↔ (key, v) ∈ d.entries := by
  rw [get?_eq_lookup, lookup_eq_some_iff_mem d.nodup_keys]

/-- Entries without a repeated key all stay. -/
theorem get?_ofList_eq_some_iff [TransOrd κ] {entries : List (κ × α)}
    (hnodup : (entries.map Prod.fst).Nodup) {key : κ} {v : α} :
    (ofList entries).get? key = some v ↔ (key, v) ∈ entries := by
  rw [get?_ofList, lookup_reverse_eq_some_iff_mem hnodup]

theorem mem_keys_iff [TransOrd κ] (d : Dict κ α) {key : κ} : key ∈ d.keys ↔ ∃ v, d.get? key = some v := by
  simp only [keys, List.mem_map, get?_eq_some_iff, Prod.exists, exists_and_right, exists_eq_right]

theorem mem_keys_ofList [TransOrd κ] {entries : List (κ × α)} {key : κ} :
    key ∈ (ofList entries).keys ↔ key ∈ entries.map Prod.fst := by
  rw [mem_keys_iff, get?_ofList, exists_lookup_eq_some_iff, List.map_reverse, List.mem_reverse]

theorem get?_mapValues [TransOrd κ] {β : Type} (d : Dict κ α) (f : κ → α → β) (key : κ) :
    (d.mapValues f).get? key = (d.get? key).map (f key) := by
  ext v
  rw [get?_eq_some_iff, mapValues, List.mem_map, Option.map_eq_some_iff]
  simp only [get?_eq_some_iff, Prod.exists, Prod.mk.injEq]
  constructor
  · rintro ⟨_, value, hmem, rfl, rfl⟩
    exact ⟨value, hmem, rfl⟩
  · rintro ⟨value, hmem, rfl⟩
    exact ⟨key, value, hmem, rfl, rfl⟩

/-- A map is determined by what it holds under each key. -/
theorem ext_get? [TransOrd κ] {d e : Dict κ α} (h : ∀ key, d.get? key = e.get? key) : d = e := by
  refine ext_entries (eq_of_increasing Prod.fst d.increasing e.increasing ?_)
  rintro ⟨key, v⟩
  rw [← get?_eq_some_iff, ← get?_eq_some_iff, h key]

omit [LawfulEqOrd κ] [DecidableEq κ] in
theorem keys_eq_of_mem_iff [TransOrd κ] {β : Type} {d : Dict κ α} {e : Dict κ β}
    (h : ∀ key, key ∈ d.keys ↔ key ∈ e.keys) : d.keys = e.keys :=
  eq_of_increasing id (List.pairwise_map.2 d.increasing) (List.pairwise_map.2 e.increasing) h

theorem keys_ofList_eq [TransOrd κ] {β : Type} {entries : List (κ × α)} {entries' : List (κ × β)}
    (h : entries.map Prod.fst = entries'.map Prod.fst) : (ofList entries).keys = (ofList entries').keys := by
  apply keys_eq_of_mem_iff
  intro key
  rw [mem_keys_ofList, mem_keys_ofList, h]

/-- The last entry of a key in a map is its only one. -/
theorem lookup_reverse_entries [TransOrd κ] (d : Dict κ α) (key : κ) : d.entries.reverse.lookup key = d.get? key := by
  ext v
  rw [lookup_reverse_eq_some_iff_mem d.nodup_keys, get?_eq_some_iff]

/-- Under a key that both maps have stands the entry of the second. -/
theorem get?_overriddenBy [TransOrd κ] (d e : Dict κ α) (key : κ) :
    (d.overriddenBy e).get? key = (e.get? key).or (d.get? key) := by
  rw [overriddenBy, get?_insertAll, lookup_reverse_entries]

theorem overriddenBy_self [TransOrd κ] (d : Dict κ α) : d.overriddenBy d = d := by
  apply ext_get?
  intro key
  rw [get?_overriddenBy, Option.or_self]

theorem get?_filter [TransOrd κ] (d : Dict κ α) (p : κ → α → Bool) (key : κ) :
    (d.filter p).get? key = (d.get? key).filter (p key) := by
  ext v
  rw [get?_eq_some_iff, Option.filter_eq_some_iff, get?_eq_some_iff, filter, List.mem_filter]

omit [LawfulEqOrd κ] [DecidableEq κ] in
theorem contains_iff (d : Dict κ α) {key : κ} :
    d.contains key = true ↔ ∃ v, d.get? key = some v := by
  rw [contains, Option.isSome_iff_exists]

theorem isEmpty_iff [TransOrd κ] (d : Dict κ α) : d.isEmpty = true ↔ ∀ key, d.get? key = none := by
  rw [isEmpty, List.isEmpty_iff]
  constructor
  · intro h key
    rw [get?_eq_lookup, h]
    rfl
  · intro h
    rw [List.eq_nil_iff_forall_not_mem]
    rintro ⟨key, v⟩ hmem
    rw [← get?_eq_some_iff, h key] at hmem
    cases hmem

theorem eq_empty_iff [TransOrd κ] (d : Dict κ α) : d = ∅ ↔ ∀ key, d.get? key = none := by
  rw [← isEmpty_iff, isEmpty, List.isEmpty_iff]
  exact ⟨fun h => by rw [h]; rfl, fun h => ext_entries h⟩

theorem mem_values_iff [TransOrd κ] (d : Dict κ α) {v : α} : v ∈ d.values ↔ ∃ key, d.get? key = some v := by
  simp only [values, List.mem_map, get?_eq_some_iff, Prod.exists, exists_eq_right]

/-- The map of some entries without a repeated key lists just these, in its own order. -/
theorem entries_ofList_perm [TransOrd κ] {entries : List (κ × α)} (hnodup : (entries.map Prod.fst).Nodup) :
    (ofList entries).entries.Perm entries := by
  rw [List.perm_ext_iff_of_nodup (List.Nodup.of_map _ (ofList entries).nodup_keys) (List.Nodup.of_map _ hnodup)]
  rintro ⟨key, v⟩
  rw [← get?_eq_some_iff, get?_ofList_eq_some_iff hnodup]

theorem size_ofList [TransOrd κ] {entries : List (κ × α)} (hnodup : (entries.map Prod.fst).Nodup) :
    (ofList entries).size = entries.length := (entries_ofList_perm hnodup).length_eq

theorem ofList_filter [TransOrd κ] (d : Dict κ α) (p : κ → α → Bool) :
    ofList (d.entries.filter fun e => p e.1 e.2) = d.filter p := by
  have hnodup := d.nodup_keys.sublist (List.Sublist.map Prod.fst (List.filter_sublist (p := fun e => p e.1 e.2)))
  apply ext_get?
  intro key
  ext v
  rw [get?_ofList_eq_some_iff hnodup, get?_eq_some_iff, filter]

/-- Of two lists written one after the other the second one counts for more. -/
theorem ofList_append [TransOrd κ] (entries later : List (κ × α)) :
    ofList (entries ++ later) = (ofList entries).overriddenBy (ofList later) := by
  apply ext_get?
  intro key
  rw [get?_overriddenBy, get?_ofList, get?_ofList, get?_ofList, List.reverse_append, List.lookup_append]

/-- Without a repeated key the order of the entries does not matter. -/
theorem ofList_perm [TransOrd κ] {entries others : List (κ × α)} (hnodup : (entries.map Prod.fst).Nodup)
    (hperm : entries.Perm others) : ofList entries = ofList others := by
  have hnodup' : (others.map Prod.fst).Nodup := (hperm.map Prod.fst).nodup_iff.1 hnodup
  apply ext_get?
  intro key
  ext v
  rw [get?_ofList_eq_some_iff hnodup, get?_ofList_eq_some_iff hnodup', hperm.mem_iff]

theorem ofList_of_perm [TransOrd κ] {entries : List (κ × α)} {d : Dict κ α} (hperm : entries.Perm d.entries) :
    ofList entries = d := by
  have hnodup : (entries.map Prod.fst).Nodup := (hperm.map Prod.fst).nodup_iff.2 d.nodup_keys
  apply ext_get?
  intro key
  ext v
  rw [get?_ofList_eq_some_iff hnodup, get?_eq_some_iff, hperm.mem_iff]

/-! ### Entries under other keys -/

/-- The entries that a route takes to a new key, under that. -/
def rekeyed [TransOrd κ] (d : Dict κ α) (route : κ → Option κ) : Dict κ α :=
  .ofList (d.entries.filterMap fun e => (route e.1).map fun key => (key, e.2))

omit [Ord κ] [LawfulEqOrd κ] [DecidableEq κ] in
theorem map_fst_filterMap_route (route : κ → Option κ) (entries : List (κ × α)) :
    (entries.filterMap fun e => (route e.1).map fun key => (key, e.2)).map Prod.fst =
      (entries.map Prod.fst).filterMap route := by
  rw [List.map_filterMap, List.filterMap_map]
  congr 1
  funext e
  cases h : route e.1 <;> simp [h]

section Rekeyed

variable [TransOrd κ] {route : κ → Option κ}
  (hroute : ∀ a b key, route a = some key → route b = some key → a = b)
include hroute

omit [LawfulEqOrd κ] [DecidableEq κ] in
theorem nodup_filterMap_route (d : Dict κ α) :
    ((d.entries.filterMap fun e => (route e.1).map fun key => (key, e.2)).map Prod.fst).Nodup := by
  rw [map_fst_filterMap_route]
  exact d.nodup_keys.filterMap fun a b key ha hb => hroute a b key ha hb

theorem get?_rekeyed (d : Dict κ α) {key : κ} {v : α} :
    (d.rekeyed route).get? key = some v ↔ ∃ old, route old = some key ∧ d.get? old = some v := by
  rw [rekeyed, get?_ofList_eq_some_iff (nodup_filterMap_route hroute d), List.mem_filterMap]
  simp only [get?_eq_some_iff]
  constructor
  · rintro ⟨⟨old, w⟩, hmem, hsome⟩
    obtain ⟨new, hnew, heq⟩ := Option.map_eq_some_iff.1 hsome
    obtain ⟨rfl, rfl⟩ := Prod.mk.inj heq
    exact ⟨old, hnew, hmem⟩
  · rintro ⟨old, hnew, hmem⟩
    exact ⟨(old, v), hmem, by rw [hnew]; rfl⟩

theorem size_rekeyed (d : Dict κ α) : (d.rekeyed route).size = (d.keys.filterMap route).length := by
  rw [rekeyed, size_ofList (nodup_filterMap_route hroute d), keys, ← map_fst_filterMap_route, List.length_map]

end Rekeyed

end Dict

/-! ### Sets -/

theorem KeySet.members_increasing {κ : Type} [Ord κ] (s : KeySet κ) :
    s.members.Pairwise fun a b => compare a b = .lt := List.pairwise_map.2 s.increasing

theorem KeySet.mem_members_ofMembers {κ : Type} [Ord κ] [TransOrd κ] [LawfulEqOrd κ] [DecidableEq κ]
    {members : List κ} {key : κ} : key ∈ (KeySet.ofMembers members).members ↔ key ∈ members := by
  rw [KeySet.members, KeySet.ofMembers, Dict.mem_keys_ofList, List.map_map, Function.comp_def, List.map_id']

theorem KeySet.mem_members_iff {κ : Type} [Ord κ] [TransOrd κ] [LawfulEqOrd κ] [DecidableEq κ] {s : KeySet κ}
    {key : κ} : key ∈ s.members ↔ Dict.get? s key = some () :=
  (Dict.mem_keys_iff s).trans Unique.exists_iff

theorem KeySet.ext_members {κ : Type} [Ord κ] [TransOrd κ] [LawfulEqOrd κ] [DecidableEq κ] {s t : KeySet κ}
    (h : ∀ key, key ∈ s.members ↔ key ∈ t.members) : s = t := by
  apply Dict.ext_get?
  intro key
  ext u
  exact mem_members_iff.symm.trans ((h key).trans mem_members_iff)

theorem KeySet.isEmpty_iff {κ : Type} [Ord κ] {s : KeySet κ} :
    Dict.isEmpty s = true ↔ ∀ key, key ∉ s.members := by
  rw [Dict.isEmpty, List.isEmpty_iff, members, Dict.keys, ← List.eq_nil_iff_forall_not_mem, List.map_eq_nil_iff]

/-- The members of one set or the other. -/
def KeySet.union {κ : Type} [Ord κ] [TransOrd κ] (s t : KeySet κ) : KeySet κ := Dict.overriddenBy s t

theorem KeySet.mem_members_union {κ : Type} [Ord κ] [TransOrd κ] [LawfulEqOrd κ] [DecidableEq κ] {s t : KeySet κ}
    {key : κ} : key ∈ (s.union t).members ↔ key ∈ s.members ∨ key ∈ t.members := by
  rw [mem_members_iff, mem_members_iff, mem_members_iff, union, Dict.get?_overriddenBy, Option.or_eq_some_iff]
  cases Dict.get? t key <;> simp

theorem KeySet.size_ofMembers {κ : Type} [Ord κ] [TransOrd κ] [LawfulEqOrd κ] [DecidableEq κ] {members : List κ}
    (hnodup : members.Nodup) : (KeySet.ofMembers members).size = members.length := by
  rw [KeySet.ofMembers, Dict.size_ofList, List.length_map]
  rwa [List.map_map, Function.comp_def, List.map_id']

theorem mem_distinctNames {names : List String} {name : String} :
    name ∈ distinctNames names ↔ name ∈ names := KeySet.mem_members_ofMembers

theorem distinctNames_increasing (names : List String) :
    (distinctNames names).Pairwise fun a b => compare a b = .lt := (KeySet.ofMembers names).members_increasing

theorem nodup_distinctNames (names : List String) : (distinctNames names).Nodup :=
  (KeySet.ofMembers names).nodup_keys

end SecretRefs
