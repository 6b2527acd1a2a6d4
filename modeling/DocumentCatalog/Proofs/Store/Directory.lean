import DocumentCatalog.Proofs.Entries
import DocumentCatalog.Proofs.Json.Reader
import DocumentCatalog.Proofs.Text.Utf8
import DocumentCatalog.Store.Directory
import Mathlib.Data.List.Forall2
import Mathlib.Data.List.TakeWhile

/-!
Loading the files of a directory. Each file of a collection gives a collection of its own, whatever
the order in which the directory lists its entries, and one of them that cannot be read is enough to
make the load fail.
-/

namespace DocumentCatalog

theorem Text.FileName.splitExtension_eq_some_iff {name stem extension : List Nat} :
    splitExtension name = (stem, some extension) ↔
      stem ≠ [] ∧ point ∉ extension ∧ name = stem ++ point :: extension := by
  have hparts := List.takeWhile_append_dropWhile (p := (· != point)) (l := name.reverse)
  unfold splitExtension
  constructor
  · intro h
    cases hdrop : name.reverse.dropWhile (· != point) with
    | nil => simp [hdrop] at h
    | cons octet rest =>
        have hoctet : octet = point := by
          have hhead := List.head?_dropWhile_not (· != point) name.reverse
          simpa [hdrop] using hhead
        rw [hdrop, hoctet] at hparts
        simp only [hdrop, List.drop_succ_cons, List.drop_zero] at h
        split at h
        · simp at h
        · next hstem =>
            cases h
            refine ⟨by simpa using hstem, ?_, ?_⟩
            · intro hmem
              simpa using List.mem_takeWhile_imp (List.mem_reverse.mp hmem)
            · simpa using (congrArg List.reverse hparts).symm
  · rintro ⟨hstem, hpoint, rfl⟩
    have hall : ∀ octet ∈ extension.reverse, (octet != point) = true := by
      intro octet hoctet
      rw [bne_iff_ne]
      rintro rfl
      exact hpoint (List.mem_reverse.mp hoctet)
    have hreverse : (stem ++ point :: extension).reverse =
        extension.reverse ++ point :: stem.reverse := by simp
    dsimp only
    rw [hreverse, List.dropWhile_append_of_pos hall, List.takeWhile_append_of_pos hall]
    simp [hstem]

namespace Store

/-- Whether a file of this name belongs to the collection: it has the extension of collections, and
the text before is the name of the collection. A point at the very start separates nothing. -/
def BelongsTo (name : List Nat) (collection : String) : Prop :=
  ∃ stem, stem ≠ [] ∧ name = stem ++ Text.FileName.point :: collectionExtension ∧
    stem = Text.Utf8.encode collection

/-- Whether a file can be read and holds these documents, as the items of one array. -/
def Holds (content : Content) (items : List Json) : Prop :=
  ∃ text, content = .ok (Text.Utf8.encode text) ∧ Json.readArray? text = some items

/-- Whether a file of this name belongs to any collection. -/
def IsEligible (name : List Nat) : Prop :=
  ∃ collection, BelongsTo name collection

variable {name : List Nat} {collection path : String} {content : Content} {items : List Json}
  {child : List Nat × Content} {children : List (List Nat × Content)} {loaded c : Collections}

theorem collectionName?_eq_some_iff :
    collectionName? name = some collection ↔ BelongsTo name collection := by
  have hpoint : Text.FileName.point ∉ collectionExtension := by decide
  unfold collectionName?
  constructor
  · intro h
    split at h
    · next stem extension hsplit =>
        obtain ⟨hstem, -, rfl⟩ := Text.FileName.splitExtension_eq_some_iff.mp hsplit
        split at h
        · next hextension =>
            exact ⟨stem, hstem, by rw [hextension], Text.Utf8.text?_eq_some_iff.mp h⟩
        · cases h
    · cases h
  · rintro ⟨stem, hstem, rfl, htext⟩
    rw [Text.FileName.splitExtension_eq_some_iff.mpr ⟨hstem, hpoint, rfl⟩]
    exact (if_pos rfl).trans (Text.Utf8.text?_eq_some_iff.mpr htext)

instance : DecidablePred IsEligible := fun name =>
  decidable_of_iff ((collectionName? name).isSome = true) <| by
    simp only [Option.isSome_iff_exists, collectionName?_eq_some_iff, IsEligible]

theorem documents_eq_ok_iff : documents path content = .ok items ↔ Holds content items := by
  cases content with
  | error error => simp [documents, Holds]
  | ok octets =>
      have hholds : Holds (.ok octets) items ↔
          ∃ text, Text.Utf8.text? octets = some text ∧ Json.readArray? text = some items := by
        simp only [Holds, Except.ok.injEq, Text.Utf8.text?_eq_some_iff]
      rw [hholds, documents]
      cases Text.Utf8.text? octets with
      | none => simp
      | some text =>
          simp only [Option.some.injEq, exists_eq_left', ← Json.readArray_eq_ok_iff]
          cases Json.readArray text <;> simp [Except.mapError]

/-- A collection's file has only one name. -/
theorem BelongsTo.name_eq {other : List Nat} (h : BelongsTo name collection)
    (hother : BelongsTo other collection) : name = other := by
  obtain ⟨_, -, rfl, rfl⟩ := h
  obtain ⟨_, -, rfl, rfl⟩ := hother
  rfl

/-- Whether an entry of a directory does not make the load fail. -/
def IsLoadable (child : List Nat × Content) : Prop :=
  ∀ name, BelongsTo child.1 name → ∃ items, Holds child.2 items

/-- What an entry of a directory adds to the collections. -/
def added? (path : String) (child : List Nat × Content) : Option (String × List Json) :=
  (collectionName? child.1).bind fun name =>
    (documents (Text.FileName.join path (name ++ ".json")) child.2).toOption.map (name, ·)

theorem added?_eq_some_iff {entry : String × List Json} :
    added? path child = some entry ↔ BelongsTo child.1 entry.1 ∧ Holds child.2 entry.2 := by
  obtain ⟨collection, items⟩ := entry
  have htoOption : ∀ result : Except LoadError (List Json),
      result.toOption = some items ↔ result = .ok items := by
    intro result
    cases result <;> simp [Except.toOption]
  simp [added?, Option.bind_eq_some_iff, Option.map_eq_some_iff, collectionName?_eq_some_iff,
    htoOption, documents_eq_ok_iff]

/-- The collections after more of them were added, one after the other. -/
def Collections.extended (c : Collections) (added : Entries (List Json)) : Collections :=
  ⟨Entries.merge c.entries added, Entries.nodup_keys_merge added c.distinct⟩

theorem Collections.extended_append (c : Collections) (added more : Entries (List Json)) :
    c.extended (added ++ more) = (c.extended added).extended more := by
  simp only [extended, Entries.merge_append]

theorem loadChild_of_isLoadable (h : IsLoadable child) (path : String) (loaded : Collections) :
    loadChild path loaded child = .ok (loaded.extended (added? path child).toList) := by
  unfold loadChild added?
  cases hname : collectionName? child.1 with
  | none => rfl
  | some name =>
      obtain ⟨items, hitems⟩ := h name (collectionName?_eq_some_iff.mp hname)
      simp only [documents_eq_ok_iff.mpr hitems]
      rfl

theorem exists_error_of_not_isLoadable (h : ¬ IsLoadable child) (path : String)
    (loaded : Collections) :
    ∃ name error, BelongsTo child.1 name ∧
      documents (Text.FileName.join path (name ++ ".json")) child.2 = .error error ∧
      loadChild path loaded child = .error error := by
  simp only [IsLoadable, not_forall, not_exists] at h
  obtain ⟨name, hname, hitems⟩ := h
  cases hdocuments : documents (Text.FileName.join path (name ++ ".json")) child.2 with
  | ok items => exact absurd (documents_eq_ok_iff.mp hdocuments) (hitems items)
  | error error =>
      refine ⟨name, error, hname, hdocuments, ?_⟩
      simp only [loadChild, collectionName?_eq_some_iff.mpr hname, hdocuments]
      rfl

theorem foldlM_loadChild (h : ∀ child ∈ children, IsLoadable child) (path : String)
    (loaded : Collections) :
    children.foldlM (loadChild path) loaded =
      .ok (loaded.extended (children.filterMap (added? path))) := by
  induction children generalizing loaded with
  | nil => rfl
  | cons child children ih =>
      obtain ⟨hchild, hchildren⟩ := List.forall_mem_cons.mp h
      rw [List.foldlM_cons, loadChild_of_isLoadable hchild]
      refine (ih hchildren _).trans ?_
      rw [← Collections.extended_append]
      cases hadded : added? path child <;> simp [hadded]

/-- The first entry that cannot be loaded makes the load fail. -/
theorem foldlM_loadChild_error (h : ¬ ∀ child ∈ children, IsLoadable child) (path : String)
    (loaded : Collections) :
    ∃ child ∈ children, ∃ name error, BelongsTo child.1 name ∧
      documents (Text.FileName.join path (name ++ ".json")) child.2 = .error error ∧
      children.foldlM (loadChild path) loaded = .error error := by
  induction children generalizing loaded with
  | nil => simp at h
  | cons child children ih =>
      rw [List.foldlM_cons]
      by_cases hchild : IsLoadable child
      · have hchildren : ¬ ∀ child ∈ children, IsLoadable child :=
          fun hall => h (List.forall_mem_cons.mpr ⟨hchild, hall⟩)
        rw [loadChild_of_isLoadable hchild]
        obtain ⟨other, hother, hfailed⟩ := ih hchildren (loaded.extended (added? path child).toList)
        exact ⟨other, List.mem_cons_of_mem _ hother, hfailed⟩
      · obtain ⟨name, error, hname, hdocuments, hload⟩ :=
          exists_error_of_not_isLoadable hchild path loaded
        rw [hload]
        exact ⟨child, List.mem_cons_self, name, error, hname, hdocuments, rfl⟩

theorem nodup_keys_added (h : (children.map (·.1)).Nodup) (path : String) :
    (Entries.keys (children.filterMap (added? path))).Nodup := by
  unfold Entries.keys List.Nodup at *
  rw [List.pairwise_map, List.pairwise_filterMap]
  refine (List.pairwise_map.mp h).imp ?_
  intro child other hne entry hentry entry' hentry' hsame
  obtain ⟨hbelongs, -⟩ := added?_eq_some_iff.mp hentry
  obtain ⟨hbelongs', -⟩ := added?_eq_some_iff.mp hentry'
  exact hne (hbelongs.name_eq (hsame ▸ hbelongs'))

theorem forall₂_added (h : ∀ child ∈ children, IsLoadable child) (path : String) :
    List.Forall₂ (fun child entry => BelongsTo child.1 entry.1 ∧ Holds child.2 entry.2)
      (children.filter fun child => decide (IsEligible child.1))
      (children.filterMap (added? path)) := by
  induction children with
  | nil => exact .nil
  | cons child children ih =>
      obtain ⟨hchild, hchildren⟩ := List.forall_mem_cons.mp h
      by_cases heligible : IsEligible child.1
      · obtain ⟨name, hname⟩ := heligible
        obtain ⟨items, hitems⟩ := hchild name hname
        have hadded : added? path child = some (name, items) :=
          added?_eq_some_iff.mpr ⟨hname, hitems⟩
        rw [List.filter_cons_of_pos (by simpa using ⟨name, hname⟩), List.filterMap_cons_some hadded]
        exact .cons ⟨hname, hitems⟩ (ih hchildren)
      · have hadded : added? path child = none := by
          rw [Option.eq_none_iff_forall_ne_some]
          intro entry hentry
          exact heligible ⟨entry.1, (added?_eq_some_iff.mp hentry).1⟩
        rw [List.filter_cons_of_neg (by simpa using heligible), List.filterMap_cons_none hadded]
        exact ih hchildren

theorem Collections.names_eq_of_perm {other : Collections} (h : c.entries.Perm other.entries) :
    c.names = other.names := by
  have htotal : ∀ x y : String, ((compare x y).isLE || (compare y x).isLE) = true := by
    intro x y
    have hswap : compare y x = (compare x y).swap := Std.OrientedCmp.eq_swap
    rw [hswap]
    cases compare x y <;> rfl
  have hsorted : ∀ names : List String,
      (names.mergeSort fun x y => (compare x y).isLE).Pairwise fun x y => (compare x y).isLE :=
    List.pairwise_mergeSort (fun _ _ _ => Std.TransCmp.isLE_trans) htotal
  refine List.Perm.eq_of_pairwise ?_ (hsorted _) (hsorted _)
    ((List.mergeSort_perm _ _).trans ((h.map _).trans (List.mergeSort_perm _ _).symm))
  intro x y _ _ hxy hyx
  exact Std.LawfulEqCmp.eq_of_compare (Std.OrientedCmp.isLE_antisymm hxy hyx)

theorem loadListing_of_isLoadable (h : (children.map (·.1)).Nodup)
    (hchildren : ∀ child ∈ children, IsLoadable child) (path : String) :
    ∃ c, loadListing path (.ok children) = .ok c ∧
      c.entries = children.filterMap (added? path) :=
  ⟨_, foldlM_loadChild hchildren path .empty,
    Entries.merge_nil_of_nodup (nodup_keys_added h path)⟩

theorem isLoadable_of_loadListing (hload : loadListing path (.ok children) = .ok c) :
    ∀ child ∈ children, IsLoadable child := by
  by_contra h
  obtain ⟨_, _, _, error, _, _, herror⟩ := foldlM_loadChild_error h path .empty
  cases hload.symm.trans herror

theorem entries_of_loadListing (h : (children.map (·.1)).Nodup)
    (hload : loadListing path (.ok children) = .ok c) :
    c.entries = children.filterMap (added? path) := by
  obtain ⟨_, hload', hentries⟩ := loadListing_of_isLoadable h (isLoadable_of_loadListing hload) path
  cases hload.symm.trans hload'
  exact hentries

theorem loadListing_of_perm {others : List (List Nat × Content)} (h : (children.map (·.1)).Nodup)
    (hperm : others.Perm children) (hload : loadListing path (.ok children) = .ok c) :
    ∃ c', loadListing path (.ok others) = .ok c' ∧ c'.entries.Perm c.entries := by
  have hothers : ∀ child ∈ others, IsLoadable child := fun child hchild =>
    isLoadable_of_loadListing hload child (hperm.mem_iff.mp hchild)
  obtain ⟨c', hload', hentries⟩ :=
    loadListing_of_isLoadable ((hperm.map _).nodup_iff.mpr h) hothers path
  refine ⟨c', hload', ?_⟩
  rw [hentries, entries_of_loadListing h hload]
  exact hperm.filterMap _

theorem exists_error_of_loadListing {error : LoadError} (h : (children.map (·.1)).Nodup)
    (hload : loadListing path (.ok children) = .error error) :
    ∃ child ∈ children, ∃ name, BelongsTo child.1 name ∧
      documents (Text.FileName.join path (name ++ ".json")) child.2 = .error error := by
  have hchildren : ¬ ∀ child ∈ children, IsLoadable child := by
    intro hchildren
    obtain ⟨_, hload', -⟩ := loadListing_of_isLoadable h hchildren path
    cases hload.symm.trans hload'
  obtain ⟨child, hchild, name, _, hname, hdocuments, hload'⟩ :=
    foldlM_loadChild_error hchildren path .empty
  cases hload.symm.trans hload'
  exact ⟨child, hchild, name, hname, hdocuments⟩

/-- A directory of entries with distinct names, in whatever order they are listed, is loaded exactly
if every file of a collection can be read, else one that cannot is what the error is about. Loading
gives exactly one collection for each of these files, no two of which belong to one collection. What
is listed for a directory are the contents of its files, and none for the directories in it. -/
theorem load_complete (path : String) (children : List (List Nat × Content))
    (h : (children.map (·.1)).Nodup) :
    ((∃ c, loadListing path (.ok children) = .ok c) ↔
      ∀ child ∈ children, ∀ name, BelongsTo child.1 name → ∃ items, Holds child.2 items) ∧
    (∀ c, loadListing path (.ok children) = .ok c →
      List.Forall₂ (fun child entry => BelongsTo child.1 entry.1 ∧ Holds child.2 entry.2)
        (children.filter fun child => decide (IsEligible child.1)) c.entries ∧
      (∀ name items, c.get? name = some items ↔
        ∃ child ∈ children, BelongsTo child.1 name ∧ Holds child.2 items) ∧
      ∀ others : List (List Nat × Content), others.Perm children →
        ∃ c', loadListing path (.ok others) = .ok c' ∧ c'.names = c.names ∧
          ∀ name, c'.get? name = c.get? name) ∧
    (∀ child ∈ children, ∀ other ∈ children, ∀ name,
      BelongsTo child.1 name → BelongsTo other.1 name → child = other) ∧
    (∀ child ∈ children, ∀ name, BelongsTo child.1 name → (∀ items, ¬ Holds child.2 items) →
      ∀ others : List (List Nat × Content), others.Perm children →
        ∃ error, loadListing path (.ok others) = .error error) ∧
    (∀ error, loadListing path (.ok children) = .error error →
      ∃ child ∈ children, ∃ name, BelongsTo child.1 name ∧
        documents (Text.FileName.join path (name ++ ".json")) child.2 = .error error) ∧
    ∀ nodes : List (List Nat × Node),
      (nodes.map fun child => (child.1, child.2.content)) = children →
        load path (some (.directory nodes)) = loadListing path (.ok children) := by
  refine ⟨⟨?_, ?_⟩, ?_, ?_, ?_, fun _ => exists_error_of_loadListing h, ?_⟩
  · rintro ⟨c, hload⟩
    exact isLoadable_of_loadListing hload
  · intro hchildren
    obtain ⟨c, hload, -⟩ := loadListing_of_isLoadable h hchildren path
    exact ⟨c, hload⟩
  · intro c hload
    have hentries := entries_of_loadListing h hload
    refine ⟨hentries ▸ forall₂_added (isLoadable_of_loadListing hload) path, ?_, ?_⟩
    · intro name items
      rw [Collections.get?, ← Entries.mem_iff_get? c.distinct, hentries, List.mem_filterMap]
      simp only [added?_eq_some_iff]
    · intro others hperm
      obtain ⟨c', hload', hsame⟩ := loadListing_of_perm h hperm hload
      exact ⟨c', hload', Collections.names_eq_of_perm hsame, Entries.get?_perm c'.distinct hsame⟩
  · intro child hchild other hother name hname hname'
    exact List.inj_on_of_nodup_map h hchild hother (hname.name_eq hname')
  · intro child hchild name hname hitems others hperm
    cases hload : loadListing path (.ok others) with
    | error error => exact ⟨error, rfl⟩
    | ok c =>
        obtain ⟨items, hholds⟩ :=
          isLoadable_of_loadListing hload child (hperm.mem_iff.mpr hchild) name hname
        exact absurd hholds (hitems items)
  · rintro nodes rfl
    rfl

/-- Two collections among entries that are passed over, then also a directory and a link that leads
nowhere with the names of collections. -/
theorem load_complete_mixed :
    let text := Text.Utf8.encode
    let nodes : List (List Nat × Node) :=
      [(text "b.json", .file (text "[\"x\"]")), (0xFF :: text ".json", .directory []),
        (text ".json", .file []), (text "a.b.json", .file (text "[]")), (text "b.txt", .file [0xFF])]
    let children := nodes.map fun child => (child.1, child.2.content)
    let within := (text "c.json", Node.content (.directory [])) :: children
    let linked := (text "d.json", .error (.opening .missing)) :: children
    (children.map (·.1)).Nodup ∧ (within.map (·.1)).Nodup ∧ (linked.map (·.1)).Nodup ∧
      (∃ c, load "data" (some (.directory nodes.reverse)) = .ok c ∧
        c.get? "b" = some [.string "x"] ∧ c.get? "a.b" = some [] ∧ c.get? "" = none) ∧
      (∃ error, loadListing "data" (.ok within.reverse) = .error error) ∧
      ∃ error, loadListing "data" (.ok linked.reverse) = .error error := by
  intro text nodes children within linked
  have h : (children.map (·.1)).Nodup := by decide
  have hreverse : (children.reverse.map (·.1)).Nodup := by decide
  have hwithin : (within.map (·.1)).Nodup := by decide
  have hlinked : (linked.map (·.1)).Nodup := by decide
  have hload : loadListing "data" (.ok children) =
      .ok ((Collections.empty.insert "b" [.string "x"]).insert "a.b" []) := rfl
  obtain ⟨-, hloaded, -⟩ := load_complete "data" children h
  obtain ⟨-, -, -, -, -, hnodes⟩ := load_complete "data" children.reverse hreverse
  obtain ⟨-, -, -, hdirectory, -⟩ := load_complete "data" within hwithin
  obtain ⟨-, -, -, hlink, -⟩ := load_complete "data" linked hlinked
  refine ⟨h, hwithin, hlinked, ?_, ?_, ?_⟩
  · obtain ⟨c, hlisting, -, hget⟩ := (hloaded _ hload).2.2 _ (List.reverse_perm children)
    refine ⟨c, (hnodes nodes.reverse List.map_reverse).trans hlisting, ?_⟩
    rw [hget, hget, hget]
    exact ⟨rfl, rfl, rfl⟩
  · refine hdirectory _ List.mem_cons_self "c" ⟨text "c", by decide, rfl, rfl⟩ ?_ _
      (List.reverse_perm within)
    rintro items ⟨_, hcontent, -⟩
    cases hcontent
  · refine hlink _ List.mem_cons_self "d" ⟨text "d", by decide, rfl, rfl⟩ ?_ _
      (List.reverse_perm linked)
    rintro items ⟨_, hcontent, -⟩
    cases hcontent

end Store
end DocumentCatalog
