/-! Maps listed in the order of their keys. Parameter sets, updates and reports are such maps; each
key occurs once, and what is listed comes in increasing order, which for strings is the order of
their code points. A set is a map to `Unit`. -/

namespace SecretRefs

open Std (TransOrd LawfulEqOrd)

/-- Entries with strictly increasing keys. -/
structure Dict (κ : Type) (α : Type) [Ord κ] where
  entries : List (κ × α) := []
  increasing : entries.Pairwise (fun a b => compare a.1 b.1 = .lt) := by simp

namespace Dict

variable {κ α β : Type} [Ord κ]

/-- Puts an entry in its place; an entry that has the key already is replaced. -/
def insertEntry (k : κ) (v : α) : List (κ × α) → List (κ × α)
  | [] => [(k, v)]
  | e :: rest =>
    match compare k e.1 with
    | .lt => (k, v) :: e :: rest
    | .eq => (k, v) :: rest
    | .gt => e :: insertEntry k v rest

theorem mem_insertEntry {k : κ} {v : α} {e : κ × α} {l : List (κ × α)}
    (h : e ∈ insertEntry k v l) : e = (k, v) ∨ e ∈ l := by
  induction l with
  | nil => exact .inl (List.mem_singleton.1 h)
  | cons x rest ih =>
    rw [insertEntry] at h
    split at h
    · simpa using h
    · rcases List.mem_cons.1 h with h | h
      · exact .inl h
      · exact .inr (List.mem_cons_of_mem _ h)
    · rcases List.mem_cons.1 h with h | h
      · exact .inr (h ▸ List.mem_cons_self)
      · exact (ih h).imp_right (List.mem_cons_of_mem _)

theorem insertEntry_increasing [TransOrd κ] {k : κ} {v : α} {l : List (κ × α)}
    (h : l.Pairwise (fun a b => compare a.1 b.1 = .lt)) :
    (insertEntry k v l).Pairwise (fun a b => compare a.1 b.1 = .lt) := by
  induction l with
  | nil => simp [insertEntry]
  | cons x rest ih =>
    obtain ⟨hx, hrest⟩ := List.pairwise_cons.1 h
    rw [insertEntry]
    split
    · next hlt =>
      refine List.pairwise_cons.2 ⟨fun e he => ?_, h⟩
      rcases List.mem_cons.1 he with rfl | he
      · exact hlt
      · exact Std.TransCmp.lt_trans hlt (hx e he)
    · next heq =>
      refine List.pairwise_cons.2 ⟨fun e he => ?_, hrest⟩
      exact Std.TransCmp.lt_of_eq_of_lt heq (hx e he)
    · next hgt =>
      refine List.pairwise_cons.2 ⟨fun e he => ?_, ih hrest⟩
      rcases mem_insertEntry he with rfl | he
      · exact Std.OrientedCmp.lt_of_gt hgt
      · exact hx e he

instance : EmptyCollection (Dict κ α) := ⟨{}⟩

instance : Inhabited (Dict κ α) := ⟨∅⟩

theorem ext_entries {d e : Dict κ α} (h : d.entries = e.entries) : d = e := by
  cases d; cases e; cases h; rfl

instance [DecidableEq κ] [DecidableEq α] : DecidableEq (Dict κ α) := fun d e =>
  if h : d.entries = e.entries then isTrue (ext_entries h) else isFalse fun he => h (he ▸ rfl)

def size (d : Dict κ α) : Nat := d.entries.length

def isEmpty (d : Dict κ α) : Bool := d.entries.isEmpty

/-- The keys, in increasing order. -/
def keys (d : Dict κ α) : List κ := d.entries.map (·.1)

/-- The values, in the order of their keys. -/
def values (d : Dict κ α) : List α := d.entries.map (·.2)

def get? (d : Dict κ α) (k : κ) : Option α :=
  (d.entries.find? fun e => compare k e.1 == .eq).map (·.2)

def contains (d : Dict κ α) (k : κ) : Bool := (d.get? k).isSome

def insert [TransOrd κ] (d : Dict κ α) (k : κ) (v : α) : Dict κ α where
  entries := insertEntry k v d.entries
  increasing := insertEntry_increasing d.increasing

def erase (d : Dict κ α) (k : κ) : Dict κ α where
  entries := d.entries.filter fun e => compare k e.1 != .eq
  increasing := d.increasing.sublist List.filter_sublist

/-- Keeps the entries that pass a test. -/
def filter (d : Dict κ α) (p : κ → α → Bool) : Dict κ α where
  entries := d.entries.filter fun e => p e.1 e.2
  increasing := d.increasing.sublist List.filter_sublist

/-- Changes the values and keeps the keys. -/
def mapValues (d : Dict κ α) (f : κ → α → β) : Dict κ β where
  entries := d.entries.map fun e => (e.1, f e.1 e.2)
  increasing := List.pairwise_map.2 d.increasing

/-- Writes the entries of a list one after the other; the last one with a key stays. -/
def insertAll [TransOrd κ] (d : Dict κ α) (entries : List (κ × α)) : Dict κ α :=
  entries.foldl (fun d e => d.insert e.1 e.2) d

def ofList [TransOrd κ] (entries : List (κ × α)) : Dict κ α :=
  (∅ : Dict κ α).insertAll entries

/-- The entries of both; on a common key those of the second. -/
def overriddenBy [TransOrd κ] (d e : Dict κ α) : Dict κ α :=
  d.insertAll e.entries

end Dict

/-- The members of a set are the keys of a map to `Unit`. -/
abbrev KeySet (κ : Type) [Ord κ] := Dict κ Unit

namespace KeySet

variable {κ : Type} [Ord κ]

def ofMembers [TransOrd κ] (members : List κ) : KeySet κ :=
  Dict.ofList (members.map fun k => (k, ()))

/-- The members, in increasing order. -/
def members (s : KeySet κ) : List κ := Dict.keys s

end KeySet

/-- The distinct names of a list, in increasing order. -/
def distinctNames (names : List String) : List String :=
  (KeySet.ofMembers names).members

end SecretRefs
