/-!
Values under distinct names, in the order in which the names were first written. Looking up sees
the first entry of a name, writing replaces its value in place, and removing one fills its place
with the last entry.
-/

namespace DocumentCatalog

abbrev Entries (α : Type) := List (String × α)

namespace Entries

variable {α : Type}

def keys (entries : Entries α) : List String :=
  entries.map (·.1)

def get? (entries : Entries α) (key : String) : Option α :=
  entries.lookup key

/-- Writes a value under a key, in place of its former value or as the last entry, and returns the
former value. -/
def put (key : String) (value : α) : Entries α → Option α × Entries α
  | [] => (none, [(key, value)])
  | entry :: rest =>
      if entry.1 = key then (some entry.2, (key, value) :: rest)
      else
        let (former, written) := put key value rest
        (former, entry :: written)

def insert (key : String) (value : α) (entries : Entries α) : Entries α :=
  (put key value entries).2

/-- Writes the entries of the second one by one into the first. -/
def merge (entries other : Entries α) : Entries α :=
  other.foldl (fun written entry => insert entry.1 entry.2 written) entries

/-- Removes a key; the last entry moves into its place. -/
def swapErase (key : String) : Entries α → Entries α
  | [] => []
  | entry :: rest =>
      if entry.1 = key then
        match rest.getLast? with
        | none => []
        | some last => last :: rest.dropLast
      else entry :: swapErase key rest

theorem insert_nil (key : String) (value : α) : insert key value [] = [(key, value)] :=
  rfl

theorem insert_cons (key : String) (value : α) (entry : String × α) (rest : Entries α) :
    insert key value (entry :: rest) =
      if entry.1 = key then (key, value) :: rest else entry :: insert key value rest := by
  unfold insert
  rw [put]
  split <;> rfl

theorem keys_insert (key : String) (value : α) (entries : Entries α) :
    keys (insert key value entries) =
      if key ∈ keys entries then keys entries else keys entries ++ [key] := by
  induction entries with
  | nil => simp [insert_nil, keys]
  | cons entry rest ih =>
      rw [insert_cons]
      by_cases h : entry.1 = key
      · simp [keys, h]
      · have hne : key ≠ entry.1 := fun e => h e.symm
        simp only [h, if_false]
        simp only [keys, List.map_cons, List.mem_cons, hne, false_or] at ih ⊢
        rw [ih]
        by_cases hk : key ∈ rest.map (·.1) <;> simp [hk]

theorem nodup_keys_insert (key : String) (value : α) {entries : Entries α}
    (h : (keys entries).Nodup) : (keys (insert key value entries)).Nodup := by
  rw [keys_insert]
  split
  · exact h
  · next hnew =>
      exact List.nodup_append.2
        ⟨h, by simp, fun a ha b hb => by
          rw [List.mem_singleton] at hb
          exact fun e => hnew (hb ▸ e ▸ ha)⟩

theorem nodup_keys_merge {entries : Entries α} (other : Entries α)
    (h : (keys entries).Nodup) : (keys (merge entries other)).Nodup := by
  induction other generalizing entries with
  | nil => exact h
  | cons entry rest ih => exact ih (nodup_keys_insert entry.1 entry.2 h)

end Entries
end DocumentCatalog
