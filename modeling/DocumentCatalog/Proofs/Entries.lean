import DocumentCatalog.Entries
import Mathlib.Data.List.Induction
import Mathlib.Data.List.Nodup

/-!
Looking up in entries that were written one by one. The value under a key is the one that was
written last, which is the first one in the reversed list of writes. Entries under distinct keys
are a map and an order: looking up decides them up to a permutation, and with the order of the keys
entirely.
-/

namespace DocumentCatalog
namespace Entries

variable {α β : Type}

theorem get?_nil (key : String) : get? ([] : Entries α) key = none :=
  rfl

theorem get?_cons (entry : String × α) (rest : Entries α) (key : String) :
    get? (entry :: rest) key = if entry.1 = key then some entry.2 else get? rest key := by
  unfold get?
  rw [List.lookup_cons]
  by_cases h : entry.1 = key
  · simp [h]
  · have hne : (key == entry.1) = false := beq_eq_false_iff_ne.mpr (Ne.symm h)
    simp [h, hne]

theorem get?_append (entries other : Entries α) (key : String) :
    get? (entries ++ other) key = (get? entries key).or (get? other key) :=
  List.lookup_append

theorem get?_singleton (entry : String × α) (key : String) :
    get? [entry] key = if entry.1 = key then some entry.2 else none := by
  rw [get?_cons, get?_nil]

theorem get?_insert (key : String) (value : α) (entries : Entries α) (other : String) :
    get? (insert key value entries) other =
      if key = other then some value else get? entries other := by
  induction entries with
  | nil => rw [insert_nil, get?_cons]
  | cons entry rest ih =>
      rw [insert_cons]
      by_cases h : entry.1 = key
      · subst h
        rw [if_pos rfl, get?_cons, get?_cons]
        by_cases hk : entry.1 = other <;> simp [hk]
      · rw [if_neg h, get?_cons, ih, get?_cons]
        by_cases hk : key = other
        · simp [← hk, h]
        · simp [hk]

theorem get?_eq_none_iff (entries : Entries α) (key : String) :
    get? entries key = none ↔ key ∉ keys entries := by
  induction entries with
  | nil => simp [get?_nil, keys]
  | cons entry rest ih =>
      rw [get?_cons, keys, List.map_cons, List.mem_cons, not_or, ← keys, ← ih]
      by_cases hk : entry.1 = key
      · simp [hk]
      · simp [hk, Ne.symm hk]

theorem fst_put (key : String) (value : α) (entries : Entries α) :
    (put key value entries).1 = get? entries key := by
  induction entries with
  | nil => rfl
  | cons entry rest ih =>
      rw [put, get?_cons]
      split
      · rfl
      · exact ih

theorem merge_append (entries writes more : Entries α) :
    merge entries (writes ++ more) = merge (merge entries writes) more :=
  List.foldl_append

theorem merge_concat (entries writes : Entries α) (write : String × α) :
    merge entries (writes ++ [write]) = insert write.1 write.2 (merge entries writes) :=
  merge_append entries writes [write]

theorem keys_concat (entries : Entries α) (entry : String × α) :
    keys (entries ++ [entry]) = keys entries ++ [entry.1] :=
  List.map_append

/-- The last value of a key counts; a key without any keeps the value that it had. -/
theorem get?_merge (entries writes : Entries α) (key : String) :
    get? (merge entries writes) key = (get? writes.reverse key).or (get? entries key) := by
  induction writes generalizing entries with
  | nil => rfl
  | cons write writes ih =>
      have hstep : merge entries (write :: writes) = merge (insert write.1 write.2 entries) writes :=
        rfl
      rw [hstep, ih, get?_insert, List.reverse_cons, get?_append, get?_singleton]
      cases get? writes.reverse key with
      | some value => rfl
      | none => by_cases h : write.1 = key <;> simp [h]

/-- The keys stand in the order in which they were first written. -/
theorem keys_merge_nil (writes : Entries α) : keys (merge [] writes) = (keys writes).eraseDups := by
  induction writes using List.reverseRecOn with
  | nil => rfl
  | append_singleton writes write ih =>
      rw [merge_concat, keys_insert, ih, keys_concat, List.eraseDups_append]
      by_cases h : write.1 ∈ keys writes <;> simp [h, List.removeAll, List.eraseDups_cons]

/-- What is looked up in the reversed list of writes was written there last. -/
theorem get?_reverse_eq_some_iff (writes : Entries α) (key : String) (value : α) :
    get? writes.reverse key = some value ↔
      ∃ before after, writes = before ++ (key, value) :: after ∧ key ∉ keys after := by
  have habsent : ∀ entries : Entries α,
      (∀ entry ∈ entries, (key != entry.1) = true) ↔ key ∉ keys entries := by
    intro entries
    simp only [keys, List.mem_map, not_exists, not_and, bne_iff_ne]
    exact forall₂_congr fun _ _ => ne_comm
  unfold get?
  simp only [List.lookup_eq_some_iff, habsent]
  constructor
  · rintro ⟨later, earlier, hreverse, hlater⟩
    refine ⟨earlier.reverse, later.reverse, ?_, by simpa [keys] using hlater⟩
    simpa using congrArg List.reverse hreverse
  · rintro ⟨before, after, rfl, hafter⟩
    exact ⟨after.reverse, before.reverse, by simp, by simpa [keys] using hafter⟩

/-- Where the keys are distinct, the entries are what looking up finds. -/
theorem mem_iff_get? {entries : Entries α} (h : (keys entries).Nodup) (key : String) (value : α) :
    (key, value) ∈ entries ↔ get? entries key = some value := by
  induction entries with
  | nil => simp [get?_nil]
  | cons entry rest ih =>
      obtain ⟨hnew, hrest⟩ := List.nodup_cons.mp h
      rw [List.mem_cons, ih hrest, get?_cons]
      by_cases hk : entry.1 = key
      · have habsent : get? rest key ≠ some value := by
          intro hget
          apply hnew
          exact List.mem_map.mpr ⟨(key, value), (ih hrest).mpr hget, hk.symm⟩
        simp [hk, habsent, Prod.ext_iff, eq_comm]
      · have hne : (key, value) ≠ entry := fun e => hk (e ▸ rfl)
        simp [hk, hne]

theorem mem_of_get? {entries : Entries α} {key : String} {value : α}
    (h : get? entries key = some value) : (key, value) ∈ entries := by
  obtain ⟨before, after, hentries, -⟩ := List.lookup_eq_some_iff.mp h
  simp [hentries]

theorem get?_filter (kept : String → Bool) (entries : Entries α) (key : String) :
    get? (entries.filter fun entry => kept entry.1) key =
      if kept key then get? entries key else none := by
  induction entries with
  | nil => simp [get?_nil]
  | cons entry rest ih =>
      rw [List.filter_cons, get?_cons]
      cases hkept : kept entry.1 with
      | true =>
          rw [if_pos rfl, get?_cons, ih]
          by_cases hk : entry.1 = key
          · simp [← hk, hkept]
          · simp [hk]
      | false =>
          rw [if_neg Bool.false_ne_true, ih]
          by_cases hk : entry.1 = key
          · simp [← hk, hkept]
          · simp [hk]

theorem get?_perm {entries other : Entries α} (h : (keys entries).Nodup)
    (hperm : entries.Perm other) (key : String) : get? entries key = get? other key := by
  have hother : (keys other).Nodup := (hperm.map _).nodup_iff.mp h
  apply Option.ext
  intro value
  rw [← mem_iff_get? h, ← mem_iff_get? hother]
  exact hperm.mem_iff

theorem get?_merge_of_nodup (entries : Entries α) {other : Entries α} (h : (keys other).Nodup)
    (key : String) :
    get? (merge entries other) key = (get? other key).or (get? entries key) := by
  rw [get?_merge, get?_perm h (List.reverse_perm other).symm]

/-- Entries under distinct keys that answer alike are the same in another order. -/
theorem perm_of_get? {entries other : Entries α} (h : (keys entries).Nodup)
    (hother : (keys other).Nodup) (hget : ∀ key, get? entries key = get? other key) :
    entries.Perm other := by
  rw [List.perm_ext_iff_of_nodup (List.Nodup.of_map _ h) (List.Nodup.of_map _ hother)]
  rintro ⟨key, value⟩
  rw [mem_iff_get? h, mem_iff_get? hother, hget]

/-- Entries under distinct keys are known from the order of the keys and from what looking up
finds. -/
theorem eq_of_get? {entries other : Entries α} (h : (keys entries).Nodup)
    (hkeys : keys entries = keys other) (hget : ∀ key, get? entries key = get? other key) :
    entries = other := by
  induction entries generalizing other with
  | nil => exact (List.map_eq_nil_iff.mp hkeys.symm).symm
  | cons entry rest ih =>
      obtain ⟨entry', rest', rfl, hentry, hrest⟩ := List.map_eq_cons_iff.mp hkeys.symm
      obtain ⟨hnew, hnodup⟩ := List.nodup_cons.mp h
      have hvalue : entry.2 = entry'.2 := by
        have hat := hget entry.1
        rw [get?_cons, get?_cons, if_pos rfl, if_pos hentry] at hat
        exact Option.some.inj hat
      have htail : ∀ key, get? rest key = get? rest' key := by
        intro key
        have hat := hget key
        rw [get?_cons, get?_cons, hentry] at hat
        by_cases hk : entry.1 = key
        · have hnew' : entry.1 ∉ keys rest' := fun hmem => hnew (hrest ▸ hmem)
          rw [← hk, (get?_eq_none_iff rest _).mpr hnew, (get?_eq_none_iff rest' _).mpr hnew']
        · simpa [hk] using hat
      rw [ih hnodup hrest.symm htail, Prod.ext hentry.symm hvalue]

/-- The new keys come after the old ones, in their own order. -/
theorem keys_merge (entries : Entries α) {other : Entries α} (h : (keys other).Nodup) :
    keys (merge entries other) =
      keys entries ++ (keys other).filter fun key => decide (key ∉ keys entries) := by
  induction other using List.reverseRecOn with
  | nil => simp [merge, keys]
  | append_singleton writes write ih =>
      rw [keys_concat] at h ⊢
      obtain ⟨hwrites, -, hnew⟩ := List.nodup_append.mp h
      rw [merge_concat, keys_insert, ih hwrites]
      by_cases hold : write.1 ∈ keys entries
      · simp [hold]
      · have hfresh : write.1 ∉ keys writes := fun hmem => hnew _ hmem _ (by simp) rfl
        simp [hold, hfresh]

theorem merge_nil_of_nodup {entries : Entries α} (h : (keys entries).Nodup) :
    merge [] entries = entries := by
  apply eq_of_get? (nodup_keys_merge entries (by simp [keys]))
  · rw [keys_merge [] h]
    simp [keys]
  · intro key
    rw [get?_merge_of_nodup [] h, get?_nil, Option.or_none]

theorem nodup_keys_of_perm_filter {entries kept : Entries α} {keeps : String × α → Bool}
    (h : (keys entries).Nodup) (hperm : kept.Perm (entries.filter keeps)) : (keys kept).Nodup :=
  (hperm.map _).nodup_iff.mpr (h.sublist (List.filter_sublist.map _))

/-- Removing a key moves an entry but leaves out no other key. -/
theorem swapErase_perm (key : String) {entries : Entries α} (h : (keys entries).Nodup) :
    (swapErase key entries).Perm (entries.filter (·.1 != key)) := by
  induction entries with
  | nil => exact .refl _
  | cons entry rest ih =>
      obtain ⟨hnew, hrest⟩ := List.nodup_cons.mp h
      rw [swapErase]
      by_cases hk : entry.1 = key
      · have hkept : rest.filter (·.1 != key) = rest := by
          rw [List.filter_eq_self]
          intro other hother
          have hne : other.1 ≠ key := by
            intro e
            exact hnew (List.mem_map.mpr ⟨other, hother, e.trans hk.symm⟩)
          simp [hne]
        rw [if_pos hk, List.filter_cons_of_neg (by simp [hk]), hkept]
        cases hlast : rest.getLast? with
        | none =>
            rw [List.getLast?_eq_none_iff.mp hlast]
        | some last =>
            obtain ⟨others, hsnoc⟩ := List.getLast?_eq_some_iff.mp hlast
            rw [hsnoc, List.dropLast_concat]
            exact (List.perm_append_singleton last others).symm
      · rw [if_neg hk, List.filter_cons_of_pos (by simp [hk])]
        exact (ih hrest).cons entry

theorem foldl_swapErase_perm (erased : List String) {entries : Entries α}
    (h : (keys entries).Nodup) :
    (erased.foldl (fun kept key => swapErase key kept) entries).Perm
      (entries.filter fun entry => decide (entry.1 ∉ erased)) := by
  induction erased generalizing entries with
  | nil => exact .of_eq (List.filter_eq_self.mpr fun _ _ => by simp).symm
  | cons key erased ih =>
      have hperm := swapErase_perm key h
      have hfilter : entries.filter (fun entry => decide (entry.1 ∉ key :: erased)) =
          (entries.filter (·.1 != key)).filter fun entry => decide (entry.1 ∉ erased) := by
        rw [List.filter_filter]
        apply List.filter_congr
        intro entry _
        by_cases hk : entry.1 = key <;> simp [hk]
      rw [hfilter]
      exact (ih (nodup_keys_of_perm_filter h hperm)).trans (hperm.filter _)

theorem swapErase_of_not_mem {key : String} {entries : Entries α} (h : key ∉ keys entries) :
    swapErase key entries = entries := by
  induction entries with
  | nil => rfl
  | cons entry rest ih =>
      obtain ⟨hne, hrest⟩ := List.ne_and_not_mem_of_not_mem_cons h
      rw [swapErase, if_neg (Ne.symm hne), ih hrest]

theorem foldl_swapErase_of_not_mem {erased : List String} {entries : Entries α}
    (h : ∀ key ∈ erased, key ∉ keys entries) :
    erased.foldl (fun kept key => swapErase key kept) entries = entries := by
  induction erased with
  | nil => rfl
  | cons key erased ih =>
      obtain ⟨hkey, herased⟩ := List.forall_mem_cons.mp h
      rw [List.foldl_cons, swapErase_of_not_mem hkey, ih herased]

/-- The entries before the removed one stay where they are. -/
theorem swapErase_append {key : String} {before : Entries α} (h : key ∉ keys before)
    (rest : Entries α) : swapErase key (before ++ rest) = before ++ swapErase key rest := by
  induction before with
  | nil => rfl
  | cons entry before ih =>
      obtain ⟨hne, hbefore⟩ := List.ne_and_not_mem_of_not_mem_cons h
      rw [List.cons_append, swapErase, if_neg (Ne.symm hne), ih hbefore, List.cons_append]

theorem swapErase_cons_self (key : String) (value : α) (rest : Entries α) :
    swapErase key ((key, value) :: rest) = rest.getLast?.toList ++ rest.dropLast := by
  rw [swapErase, if_pos rfl]
  cases hlast : rest.getLast? with
  | none => simp [List.getLast?_eq_none_iff.mp hlast]
  | some last => rfl

/-- What is written last under a key comes from the last item that writes under it. -/
theorem get?_reverse_filterMap (write? : β → Option (String × α)) (items : List β) (key : String) :
    get? (items.filterMap write?).reverse key =
      (items.filter fun item => (write? item).any (·.1 == key)).getLast?.bind
        fun item => (write? item).map (·.2) := by
  rw [List.getLast?_filter, ← List.filterMap_reverse]
  induction items.reverse with
  | nil => rfl
  | cons item rest ih =>
      cases hw : write? item with
      | none => simp [hw, ih]
      | some write =>
          rw [List.filterMap_cons_some hw, get?_cons, ih, List.find?_cons]
          by_cases hk : write.1 = key
          · simp [hw, hk]
          · have hne : (write.1 == key) = false := beq_eq_false_iff_ne.mpr hk
            simp [hw, hk, hne]

end Entries
end DocumentCatalog
