import Restyle.Proofs.Document.Merge

/-!
# Paths into documents

A path of keys leads through mappings to what stands at its end: a section, which is a mapping
again, or a plain value.  Whatever stands at a path of a merged document comes from one of the
two, or is a section of both, merged in turn.  So merging three documents may be bracketed either
way, unless a plain value of the middle one stands between sections of the outer two.

* `at?` — what stands at a path.
* `Proper` — documents in which no mapping has a key twice.
* `Follows`, `Consistent` — documents whose sections are those of a layout, and of one another.
* `at?_mergeFields` — what stands at a path after a merge.
* `mergeFields_assoc` — merging three documents.
-/

set_option autoImplicit false

namespace Restyle.Document

open Restyle.Assoc

/-! ## Sections and paths -/

/-- Whether a document is a section. -/
def isSection : Document → Bool
  | .mapping _ => true
  | _ => false

/-- What stands at a path. -/
def at? : Document → List String → Option Document
  | d, [] => some d
  | d, key :: rest => (get? (fieldsOf (some d)) key).bind fun entry => at? entry rest

/-- No mapping on any path has a key twice. -/
def Proper (d : Document) : Prop :=
  ∀ path fields, d.at? path = some (.mapping fields) → (keys fields).Nodup

/-- The sections of a document are those of a layout. -/
def Follows (layout : List String → Prop) (d : Document) : Prop :=
  ∀ path e, d.at? path = some e → (e.isSection = true ↔ layout path)

variable {a b c base update fields : Fields} {key : String} {path : List String} {d e : Document}
  {layout : List String → Prop}

theorem isSection_iff : d.isSection = true ↔ ∃ fields, d = .mapping fields := by
  cases d <;> simp [isSection]

theorem at?_mapping_cons (fields : Fields) (key : String) (rest : List String) :
    (mapping fields).at? (key :: rest) = (get? fields key).bind fun entry => entry.at? rest := rfl

/-- A path through an entry. -/
theorem at?_of_get? (h : get? fields key = some d) (rest : List String) :
    (mapping fields).at? (key :: rest) = d.at? rest := by
  rw [at?_mapping_cons, h]
  rfl

/-- What stands at a path stands in an entry, or is the mapping itself. -/
theorem at?_mapping_iff :
    (mapping fields).at? path = some e ↔
      (path = [] ∧ e = .mapping fields) ∨
        ∃ key rest d, path = key :: rest ∧ get? fields key = some d ∧ d.at? rest = some e := by
  cases path with
  | nil => simp [at?, eq_comm]
  | cons key rest =>
    rw [at?_mapping_cons, Option.bind_eq_some_iff]
    constructor
    · rintro ⟨d, hd, he⟩
      exact .inr ⟨key, rest, d, rfl, hd, he⟩
    · rintro (⟨hpath, -⟩ | ⟨key', rest', d, hpath, hd, he⟩)
      · cases hpath
      · cases hpath
        exact ⟨d, hd, he⟩

/-- A plain value stands at the empty path alone. -/
theorem at?_of_plain (h : d.isSection = false) (he : d.at? path = some e) : path = [] ∧ e = d := by
  cases path with
  | nil =>
    cases he
    exact ⟨rfl, rfl⟩
  | cons key rest =>
    cases d with
    | mapping fields => cases h
    | _ => cases he

theorem Proper.nodup (h : Proper (.mapping fields)) : (keys fields).Nodup := h [] fields rfl

theorem Proper.entry (h : Proper (.mapping fields)) (hd : get? fields key = some d) :
    Proper d := by
  intro path inner hi
  exact h (key :: path) inner ((at?_of_get? hd path).trans hi)

/-- A mapping is proper when its keys are different and its entries are proper. -/
theorem proper_mapping (hn : (keys fields).Nodup)
    (h : ∀ key d, get? fields key = some d → Proper d) : Proper (.mapping fields) := by
  intro path inner hi
  rcases at?_mapping_iff.1 hi with ⟨-, he⟩ | ⟨key, rest, d, -, hd, he⟩
  · cases he
    exact hn
  · exact h key d hd rest inner he

theorem proper_of_plain (h : d.isSection = false) : Proper d := by
  intro path inner hi
  obtain ⟨-, rfl⟩ := at?_of_plain h hi
  cases h

theorem proper_nil : Proper (.mapping []) := proper_mapping List.nodup_nil (by simp)

/-- The document itself is a section. -/
theorem Follows.root (h : Follows layout (.mapping fields)) : layout [] := (h [] _ rfl).1 rfl

/-- A mapping follows a layout when its entries follow those of their keys. -/
theorem follows_mapping (hroot : layout [])
    (h : ∀ key d, get? fields key = some d → Follows (fun rest => layout (key :: rest)) d) :
    Follows layout (.mapping fields) := by
  intro path e he
  rcases at?_mapping_iff.1 he with ⟨rfl, rfl⟩ | ⟨key, rest, d, rfl, hd, he⟩
  · exact ⟨fun _ => hroot, fun _ => rfl⟩
  · exact h key d hd rest e he

theorem follows_of_plain (h : d.isSection = false) (hroot : ¬layout []) : Follows layout d := by
  intro path e he
  obtain ⟨rfl, rfl⟩ := at?_of_plain h he
  rw [h]
  exact ⟨fun hs => (Bool.false_ne_true hs).elim, fun hl => absurd hl hroot⟩

theorem follows_nil (h : layout []) : Follows layout (.mapping []) := follows_mapping h (by simp)

/-- No path is a section of one mapping and a plain value of another one. -/
def Consistent (all : List Fields) : Prop :=
  ∀ a ∈ all, ∀ b ∈ all, ∀ path x y, (mapping a).at? path = some x →
    (mapping b).at? path = some y → x.isSection = y.isSection

/-- The paths that are sections of some mapping. -/
def sectionsOf (all : List Fields) (path : List String) : Prop :=
  ∃ a ∈ all, ∃ x, (mapping a).at? path = some x ∧ x.isSection = true

/-- Mappings of one layout are consistent. -/
theorem consistent_of_follows {all : List Fields} (h : ∀ a ∈ all, Follows layout (.mapping a)) :
    Consistent all := by
  intro a ha b hb path x y hx hy
  rw [Bool.eq_iff_iff, h a ha path x hx, h b hb path y hy]

/-- Consistent mappings have one layout. -/
theorem Consistent.follows {all : List Fields} (h : Consistent all) (ha : a ∈ all) :
    Follows (sectionsOf all) (.mapping a) := by
  intro path e he
  constructor
  · intro hs
    exact ⟨a, ha, e, he, hs⟩
  · rintro ⟨b, hb, x, hx, hs⟩
    rw [h a ha b hb path e x he hx]
    exact hs

/-! ## Values -/

theorem mergeValue_sections (base update : Fields) :
    mergeValue (some (.mapping base)) (.mapping update) = .mapping (mergeFields base update) := by
  rw [mergeValue]

/-- A plain value replaces what was there. -/
theorem mergeValue_of_plain (h : d.isSection = false) (old : Option Document) :
    mergeValue old d = d := by
  cases d with
  | mapping fields => cases h
  | _ => rw [mergeValue]; simp

/-- What was there is replaced unless it is a section. -/
theorem mergeValue_of_no_section {old : Option Document}
    (h : ∀ fields, old ≠ some (.mapping fields)) (d : Document) : mergeValue old d = d := by
  cases d with
  | mapping fields =>
    rw [mergeValue]
    intro base
    exact h base
  | _ => rw [mergeValue]; simp

/-- Sections are merged, and anything else is replaced. -/
theorem mergeValue_cases (old : Option Document) (d : Document) :
    (∃ base update, old = some (.mapping base) ∧ d = .mapping update ∧
      mergeValue old d = .mapping (mergeFields base update)) ∨ mergeValue old d = d := by
  by_cases hold : ∃ base, old = some (.mapping base)
  · obtain ⟨base, rfl⟩ := hold
    cases hd : d.isSection with
    | false => exact .inr (mergeValue_of_plain hd _)
    | true =>
      obtain ⟨update, rfl⟩ := isSection_iff.1 hd
      exact .inl ⟨base, update, rfl, rfl, mergeValue_sections base update⟩
  · exact .inr (mergeValue_of_no_section (fun base hb => hold ⟨base, hb⟩) d)

/-! ## What stands at a path after a merge -/

theorem nodup_keys_mergeFields (h : (keys base).Nodup) (update : Fields) :
    (keys (mergeFields base update)).Nodup := by
  induction update generalizing base with
  | nil =>
    rw [mergeFields_nil]
    exact h
  | cons entry rest ih =>
    obtain ⟨k, d⟩ := entry
    rw [mergeFields_cons]
    exact ih (nodup_keys_put h k _)

/-- **What stands at a path after a merge** stood there before, comes from the update, or is a
section of both. -/
theorem at?_mergeFields (h : Proper (.mapping update))
    (hd : (mapping (mergeFields base update)).at? path = some d) :
    (mapping base).at? path = some d ∨ (mapping update).at? path = some d ∨
      ∃ x y, (mapping base).at? path = some (.mapping x) ∧
        (mapping update).at? path = some (.mapping y) ∧ d = .mapping (mergeFields x y) := by
  induction path generalizing base update with
  | nil =>
    cases hd
    exact .inr (.inr ⟨base, update, rfl, rfl, rfl⟩)
  | cons key rest ih =>
    rw [at?_mapping_cons, get?_mergeFields h.nodup] at hd
    cases hu : get? update key with
    | none =>
      rw [hu] at hd
      exact .inl hd
    | some e =>
      rw [hu, Option.bind_some] at hd
      rcases mergeValue_cases (get? base key) e with ⟨x, y, hx, rfl, hm⟩ | hm
      · rw [hm] at hd
        rw [at?_of_get? hx, at?_of_get? hu]
        exact ih (h.entry hu) hd
      · rw [hm] at hd
        exact .inr (.inl ((at?_of_get? hu rest).trans hd))

theorem proper_mergeFields (hb : Proper (.mapping base)) (hu : Proper (.mapping update)) :
    Proper (.mapping (mergeFields base update)) := by
  intro path fields hf
  rcases at?_mergeFields hu hf with h | h | ⟨x, y, hx, -, he⟩
  · exact hb path fields h
  · exact hu path fields h
  · cases he
    exact nodup_keys_mergeFields (hb path x hx) y

/-- Merging keeps to a layout. -/
theorem follows_mergeFields (hp : Proper (.mapping update)) (hb : Follows layout (.mapping base))
    (hu : Follows layout (.mapping update)) :
    Follows layout (.mapping (mergeFields base update)) := by
  intro path e he
  rcases at?_mergeFields hp he with h | h | ⟨x, y, hx, -, rfl⟩
  · exact hb path e h
  · exact hu path e h
  · exact hb path (.mapping x) hx

/-! ## Merging three documents -/

/-- At some path the middle one of three mappings has a plain value, and the outer ones have
sections. -/
def Separates (a b c : Fields) : Prop :=
  ∃ path x y z, (mapping a).at? path = some x ∧ x.isSection = true ∧
    (mapping b).at? path = some y ∧ y.isSection = false ∧
    (mapping c).at? path = some z ∧ z.isSection = true

/-- Nothing separates documents of one layout. -/
theorem not_separates (ha : Follows layout (.mapping a)) (hb : Follows layout (.mapping b)) :
    ¬Separates a b c := by
  rintro ⟨path, x, y, z, hx, hxs, hy, hys, -, -⟩
  have hlayout := (ha path x hx).1 hxs
  rw [(hb path y hy).2 hlayout] at hys
  cases hys

/-- What separates entries separates the mappings. -/
theorem Separates.of_entries {x y z : Fields} (h : Separates x y z)
    (ha : get? a key = some (.mapping x)) (hb : get? b key = some (.mapping y))
    (hc : get? c key = some (.mapping z)) : Separates a b c := by
  obtain ⟨path, u, v, w, hu, hus, hv, hvs, hw, hws⟩ := h
  exact ⟨key :: path, u, v, w, (at?_of_get? ha path).trans hu, hus,
    (at?_of_get? hb path).trans hv, hvs, (at?_of_get? hc path).trans hw, hws⟩

/-- Three mappings are merged either way when the values of each key of the last one are. -/
theorem mergeFields_assoc_of_entries (hb : (keys b).Nodup) (hc : (keys c).Nodup)
    (h : ∀ k d, get? c k = some d →
      mergeValue (get? (mergeFields a b) k) d = mergeValue (get? a k) (mergeValue (get? b k) d)) :
    mergeFields (mergeFields a b) c = mergeFields a (mergeFields b c) := by
  induction c generalizing b with
  | nil => rw [mergeFields_nil, mergeFields_nil]
  | cons entry rest ih =>
    obtain ⟨k, d⟩ := entry
    rw [keys_cons, List.nodup_cons] at hc
    have hk := h k d (by rw [get?_cons, if_pos rfl])
    have hput := mergeFields_put hb a k (mergeValue (get? b k) d)
    rw [mergeFields_cons, mergeFields_cons, hk, ← hput]
    apply ih (nodup_keys_put hb k _) hc.2
    intro k' d' hd'
    have hne : k' ≠ k := by
      rintro rfl
      rw [get?_of_not_mem hc.1] at hd'
      cases hd'
    have hrest := h k' d' (by rw [get?_cons, if_neg hne]; exact hd')
    rwa [hput, get?_put, get?_put, if_neg hne, if_neg hne]

theorem sizeOf_lt_of_get? (h : get? c key = some (.mapping fields)) : sizeOf fields < sizeOf c := by
  obtain ⟨before, after, rfl, -⟩ := List.lookup_eq_some_iff.1 h
  have hmem : (key, Document.mapping fields) ∈ before ++ (key, .mapping fields) :: after := by simp
  have hlt := List.sizeOf_lt_of_mem hmem
  simp only [Prod.mk.sizeOf_spec, mapping.sizeOf_spec] at hlt
  omega

/-- Three values of one key are merged either way when sections among them are. -/
theorem mergeValue_assoc {old : Option Document}
    (hs : ∀ x z, old = some (.mapping x) → d = .mapping z → e.isSection = true)
    (h : ∀ x y z, old = some (.mapping x) → e = .mapping y → d = .mapping z →
      mergeFields (mergeFields x y) z = mergeFields x (mergeFields y z)) :
    mergeValue (some (mergeValue old e)) d = mergeValue old (mergeValue (some e) d) := by
  cases hd : d.isSection with
  | false => rw [mergeValue_of_plain hd, mergeValue_of_plain hd, mergeValue_of_plain hd]
  | true =>
    obtain ⟨z, rfl⟩ := isSection_iff.1 hd
    by_cases hold : ∃ x, old = some (.mapping x)
    · obtain ⟨x, rfl⟩ := hold
      obtain ⟨y, rfl⟩ := isSection_iff.1 (hs x z rfl rfl)
      simp only [mergeValue_sections, h x y z rfl rfl rfl]
    · have hnone : ∀ x, old ≠ some (.mapping x) := fun x hx => hold ⟨x, hx⟩
      rw [mergeValue_of_no_section hnone, mergeValue_of_no_section hnone]

/-- **Merging three documents** may be bracketed either way. -/
theorem mergeFields_assoc {a b c : Fields} (hb : Proper (.mapping b)) (hc : Proper (.mapping c))
    (h : ¬Separates a b c) :
    mergeFields (mergeFields a b) c = mergeFields a (mergeFields b c) := by
  apply mergeFields_assoc_of_entries hb.nodup hc.nodup
  intro k d hd
  rw [get?_mergeFields hb.nodup]
  cases hk : get? b k with
  | none => rw [mergeValue_none]
  | some e =>
    apply mergeValue_assoc
    · rintro x z hx rfl
      cases hes : e.isSection with
      | true => rfl
      | false =>
        exact absurd ⟨[k], .mapping x, e, .mapping z, at?_of_get? hx [], rfl,
          at?_of_get? hk [], hes, at?_of_get? hd [], rfl⟩ h
    · rintro x y z hx rfl rfl
      -- the entries of a key are part of their mappings
      have hsize := sizeOf_lt_of_get? hd
      exact mergeFields_assoc (hb.entry hk) (hc.entry hd) fun hs => h (hs.of_entries hx hk hd)
termination_by sizeOf c
decreasing_by exact hsize

end Restyle.Document
