import Restyle.Proofs.Document.Paths

/-!
# Merging as an operation

The empty mapping changes nothing on either side of a merge, an update that was merged already
changes nothing when it is merged again, and three mappings may be merged either way unless a
plain value of the middle one separates sections of the outer two.

* `mergeFields_of_entries` — an update whose entries are all there already.
* `mergeFields_self`, `mergeFields_twice` — the same update again.
* `merge_laws` — all laws of merging documents.
-/

set_option autoImplicit false

namespace Restyle.Document

open Restyle.Assoc

variable {a b c base update fields : Fields}

/-- An update changes nothing when each of its entries leaves the value that is there as it is. -/
theorem mergeFields_of_entries (hu : (keys update).Nodup)
    (h : ∀ key d, get? update key = some d →
      ∃ e, get? base key = some e ∧ mergeValue (some e) d = e) :
    mergeFields base update = base := by
  induction update with
  | nil => exact mergeFields_nil base
  | cons entry rest ih =>
    obtain ⟨k, d⟩ := entry
    rw [keys_cons, List.nodup_cons] at hu
    obtain ⟨e, he, hm⟩ := h k d (by rw [get?_cons, if_pos rfl])
    rw [mergeFields_cons, he, hm, put_of_get? he]
    apply ih hu.2
    intro key d' hd'
    have hne : key ≠ k := by
      rintro rfl
      rw [get?_of_not_mem hu.1] at hd'
      cases hd'
    exact h key d' (by rw [get?_cons, if_neg hne]; exact hd')

/-- A mapping with one more key. -/
theorem proper_cons {key : String} {d : Document} (hk : key ∉ keys fields) (hd : Proper d)
    (h : Proper (.mapping fields)) : Proper (.mapping ((key, d) :: fields)) := by
  refine proper_mapping (List.nodup_cons.2 ⟨hk, h.nodup⟩) fun other e he => ?_
  rw [get?_cons] at he
  split at he
  · cases he
    exact hd
  · exact h.entry he

/-- A mapping that is merged into itself. -/
theorem mergeFields_self {fields : Fields} (h : Proper (.mapping fields)) :
    mergeFields fields fields = fields := by
  apply mergeFields_of_entries h.nodup
  intro key d hd
  refine ⟨d, hd, ?_⟩
  cases hs : d.isSection with
  | false => exact mergeValue_of_plain hs _
  | true =>
    obtain ⟨inner, rfl⟩ := isSection_iff.1 hs
    -- a section of the mapping is smaller than the mapping
    have hsize := sizeOf_lt_of_get? hd
    rw [mergeValue_sections, mergeFields_self (h.entry hd)]
termination_by sizeOf fields
decreasing_by exact hsize

/-- Nothing separates a mapping from itself. -/
theorem not_separates_self (a u : Fields) : ¬Separates a u u := by
  rintro ⟨path, x, y, z, -, -, hy, hys, hz, hzs⟩
  cases hy.symm.trans hz
  rw [hys] at hzs
  cases hzs

/-- Sections lead to a section. -/
theorem isSection_of_at? {d e : Document} {path : List String} (h : d.at? path = some e)
    (he : e.isSection = true) : d.isSection = true := by
  cases hd : d.isSection with
  | true => rfl
  | false =>
    obtain ⟨-, rfl⟩ := at?_of_plain hd h
    rwa [hd] at he

/-- What separates mappings stands in entries of one key, at once or farther down. -/
theorem separates_iff : Separates a b c ↔ ∃ key x y z, get? a key = some (.mapping x) ∧
    get? b key = some y ∧ get? c key = some (.mapping z) ∧
      (y.isSection = false ∨ ∃ u, y = .mapping u ∧ Separates x u z) := by
  constructor
  · rintro ⟨path, x, y, z, hx, hxs, hy, hys, hz, hzs⟩
    cases path with
    | nil =>
      cases hy
      cases hys
    | cons key rest =>
      obtain ⟨d, hd, hx⟩ := Option.bind_eq_some_iff.1 hx
      obtain ⟨e, he, hy⟩ := Option.bind_eq_some_iff.1 hy
      obtain ⟨f, hf, hz⟩ := Option.bind_eq_some_iff.1 hz
      obtain ⟨x', rfl⟩ := isSection_iff.1 (isSection_of_at? hx hxs)
      obtain ⟨z', rfl⟩ := isSection_iff.1 (isSection_of_at? hz hzs)
      refine ⟨key, x', e, z', hd, he, hf, ?_⟩
      cases hes : e.isSection with
      | false => exact .inl rfl
      | true =>
        obtain ⟨u, rfl⟩ := isSection_iff.1 hes
        exact .inr ⟨u, rfl, rest, x, y, z, hx, hxs, hy, hys, hz, hzs⟩
  · rintro ⟨key, x, y, z, hx, hy, hz, hys | ⟨u, rfl, h⟩⟩
    · exact ⟨[key], .mapping x, y, .mapping z, at?_of_get? hx [], rfl, at?_of_get? hy [], hys,
        at?_of_get? hz [], rfl⟩
    · exact h.of_entries hx hy hz

/-- **The same update again** changes nothing. -/
theorem mergeFields_twice (hu : Proper (.mapping update)) (base : Fields) :
    mergeFields (mergeFields base update) update = mergeFields base update := by
  rw [mergeFields_assoc hu hu (not_separates_self base update), mergeFields_self hu]

theorem merge_mapping (base update : Fields) :
    merge (.mapping base) (.mapping update) = .ok (.mapping (mergeFields base update)) := rfl

/-- **The laws of merging**, for mappings without a key twice: the empty mapping changes nothing on
either side, the same update changes nothing a second time, and three mappings may be merged either
way, unless there is a path at which the first and the last one have sections while the middle one
has a plain value. -/
theorem merge_laws (ha : Proper (.mapping a)) (hb : Proper (.mapping b))
    (hc : Proper (.mapping c)) :
    (merge (.mapping []) (.mapping a) = .ok (.mapping a) ∧
      merge (.mapping a) (.mapping []) = .ok (.mapping a)) ∧
    (∃ once, merge (.mapping a) (.mapping b) = .ok once ∧ merge once (.mapping b) = .ok once) ∧
    (¬Separates a b c → ∃ first last all,
      merge (.mapping a) (.mapping b) = .ok first ∧ merge first (.mapping c) = .ok all ∧
        merge (.mapping b) (.mapping c) = .ok last ∧ merge (.mapping a) last = .ok all) := by
  refine ⟨⟨?_, ?_⟩, ?_, fun h => ?_⟩
  · rw [merge_mapping, mergeFields_nil_left ha.nodup]
  · rw [merge_mapping, mergeFields_nil]
  · refine ⟨_, merge_mapping a b, ?_⟩
    rw [merge_mapping, mergeFields_twice hb]
  · refine ⟨_, _, _, merge_mapping a b, merge_mapping _ c, merge_mapping b c, ?_⟩
    rw [merge_mapping, mergeFields_assoc hb hc h]

/-- A plain value stands where the mapping before it has a section, but not the one after it. -/
theorem merge_laws_spacing :
    let a : Fields := [("spacing", .mapping [("gap", .text "1rem")]),
      ("colors", .mapping [("primary", .text "red")])]
    let b : Fields := [("spacing", .text "none"), ("colors", .mapping [("accent", .text "blue")])]
    let c : Fields := [("colors", .mapping [("primary", .text "green")]), ("mode", .text "dark")]
    (Proper (.mapping a) ∧ Proper (.mapping b) ∧ Proper (.mapping c) ∧ ¬Separates a b c) ∧
      ∃ first last all,
        merge (.mapping a) (.mapping b) = .ok first ∧ merge first (.mapping c) = .ok all ∧
          merge (.mapping b) (.mapping c) = .ok last ∧ merge (.mapping a) last = .ok all := by
  intro a b c
  have htext : ∀ t, Proper (.text t) := fun t => proper_of_plain rfl
  have hone : ∀ key t, Proper (.mapping [(key, .text t)]) := fun key t =>
    proper_cons (by simp [keys]) (htext t) proper_nil
  have ha : Proper (.mapping a) :=
    proper_cons (by decide) (hone _ _) (proper_cons (by simp [keys]) (hone _ _) proper_nil)
  have hb : Proper (.mapping b) :=
    proper_cons (by decide) (htext _) (proper_cons (by simp [keys]) (hone _ _) proper_nil)
  have hc : Proper (.mapping c) :=
    proper_cons (by decide) (hone _ _) (proper_cons (by simp [keys]) (htext _) proper_nil)
  have hs : ¬Separates a b c := by
    rw [separates_iff]
    rintro ⟨key, x, y, z, -, hy, hz, hsep⟩
    -- the colours are the only section of the last mapping
    have hkey : key = "colors" ∧ z = [("primary", .text "green")] := by
      rw [get?_cons, get?_cons] at hz
      split at hz
      · rename_i hk
        cases hz
        exact ⟨hk, rfl⟩
      · split at hz <;> cases hz
    obtain ⟨rfl, rfl⟩ := hkey
    cases hy
    obtain hplain | ⟨u, hu, hinner⟩ := hsep
    · cases hplain
    · obtain ⟨key, x, y, z, -, -, hz, -⟩ := separates_iff.1 hinner
      rw [get?_cons] at hz
      split at hz <;> cases hz
  exact ⟨⟨ha, hb, hc, hs⟩, (merge_laws ha hb hc).2.2 hs⟩

-- Where a plain value separates two sections, the first one is lost or kept.
example :
    mergeFields (mergeFields [("colors", .mapping [("primary", .null)])] [("colors", .null)])
        [("colors", .mapping [])] = [("colors", .mapping [])] ∧
      mergeFields [("colors", .mapping [("primary", .null)])]
        (mergeFields [("colors", .null)] [("colors", .mapping [])]) =
          [("colors", .mapping [("primary", .null)])] := ⟨rfl, rfl⟩

end Restyle.Document
