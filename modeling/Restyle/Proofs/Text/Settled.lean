import Restyle.Proofs.Text.Rows
import Restyle.Vocabulary.Table

/-!
# Lower case is settled

What comes of putting a text in lower case is not changed by doing it again: no character that
lowering gives is one that it changes.

* `caseRuns_apart` — no image of a run is covered by a run.
* `lower_lower` — lowering twice.
* `toList_of_isSmall` — texts whose characters are their bytes.
* `tableKey_tableKey` — the form in which tables are searched is searched as it is.
-/

set_option autoImplicit false

namespace Restyle.Text

open Restyle.Vocabulary

/-- Everything that lowering changes: the two characters that are treated apart, and the runs of
the table. -/
def caseRuns : List CaseRun := ⟨0x130, 0x130, 1, 0⟩ :: ⟨0x3A3, 0x3A3, 1, 0⟩ :: lowerRuns

/-- Whether a run covers nothing in a stretch of code points, or every second one from the second
on where the stretch has every second one from the first on. -/
def CaseRun.leavesOut (s : CaseRun) (first last stride : Nat) : Bool :=
  Nat.blt last s.first || Nat.blt s.last first ||
    (s.stride == 2 && (stride == 2 || first == last) && Nat.ble s.first first &&
      (first - s.first) % 2 == 1)

theorem caseRuns_apart : (lowerRuns.all fun r => caseRuns.all fun s =>
    s.leavesOut (r.first + r.offset).toNat (r.last + r.offset).toNat r.stride) = true := by
  decide +kernel

/-- A code point that lowering leaves alone. -/
def Settled (n : Nat) : Prop := ∀ s ∈ caseRuns, s.covers n = false

theorem settled_mapByRuns {n : Nat} (h130 : n ≠ 0x130) (h3A3 : n ≠ 0x3A3) :
    Settled (mapByRuns lowerRuns n) := by
  intro s hs
  rcases mapByRuns_cases lowerRuns n with ⟨r, hr, hc, he⟩ | ⟨hnone, he⟩
  · obtain ⟨-, b, -, hfirst, -⟩ := lowerRuns_blocks r hr
    obtain ⟨hcl, hch, hcm⟩ := covers_iff.1 hc
    have hout := List.all_eq_true.1 (List.all_eq_true.1 caseRuns_apart r hr) s hs
    simp only [CaseRun.leavesOut, Nat.blt_eq, Nat.ble_eq, Bool.or_eq_true, Bool.and_eq_true,
      beq_iff_eq] at hout
    rw [he, ← Bool.not_eq_true, covers_iff]
    rintro ⟨hlow, hhigh, hmod⟩
    rcases hout with (hout | hout) | ⟨⟨⟨hs2, hr2⟩, hle⟩, hodd⟩
    · omega
    · omega
    · rw [hs2] at hmod
      rcases hr2 with hr2 | hone
      · rw [hr2] at hcm
        omega
      · omega
  · rw [he]
    simp only [caseRuns, List.mem_cons] at hs
    rcases hs with rfl | rfl | hs
    · simp [CaseRun.covers]; omega
    · simp [CaseRun.covers]; omega
    · exact hnone s hs

/-- Below the first letters beyond ASCII, only the capitals are covered. -/
theorem caseRuns_ascii : ∀ s ∈ caseRuns, s = ⟨0x41, 0x5A, 1, 32⟩ ∨ 0x80 ≤ s.first := by
  decide +kernel

/-- A class without letters is left alone. -/
theorem Caseless.settled {P : Nat → Prop} (h : Caseless P) {n : Nat} (hn : P n) : Settled n := by
  intro s hs
  have hblock : ∃ b ∈ letterBlocks, b.1 ≤ s.first ∧ s.last ≤ b.2 := by
    simp only [caseRuns, List.mem_cons] at hs
    rcases hs with rfl | rfl | hs
    · exact ⟨(0xC0, 0x586), by decide, by decide, by decide⟩
    · exact ⟨(0xC0, 0x586), by decide, by decide, by decide⟩
    · exact (lowerRuns_blocks s hs).1
  obtain ⟨b, hb, hfirst, hlast⟩ := hblock
  rw [← Bool.not_eq_true]
  intro hc
  simp only [CaseRun.covers, Bool.and_eq_true, decide_eq_true_eq] at hc
  exact h.of_block hb (hfirst.trans hc.1.1) (hc.1.2.trans hlast) hn

theorem settled_of_ascii {n : Nat} (hn : n < 0x80) (h : n < 0x41 ∨ 0x5A < n) : Settled n := by
  intro s hs
  rcases caseRuns_ascii s hs with rfl | hfirst
  · simp [CaseRun.covers]; omega
  · simp [CaseRun.covers]; omega

theorem settled_toLower {c : Char} (hc : c.toNat < 0x80) : Settled c.toLower.toNat := by
  have hall : ∀ n < 0x80, (Char.ofNat n).toLower.toNat < 0x80 ∧
      ((Char.ofNat n).toLower.toNat < 0x41 ∨ 0x5A < (Char.ofNat n).toLower.toNat) := by
    decide +kernel
  have hlow := hall c.toNat hc
  rw [Char.ofNat_toNat] at hlow
  exact settled_of_ascii hlow.1 hlow.2

theorem settled_ofNat {n : Nat} (h : Settled n) : Settled (Char.ofNat n).toNat := by
  by_cases hv : n.isValidChar
  · rw [Char.ofNat, dif_pos hv]
    exact h
  · rw [Char.ofNat, dif_neg hv]
    exact settled_of_ascii (by decide) (by decide)

/-- What is written where a character is treated apart: the dot above and the two small sigmas. -/
theorem settled_marks : ∀ n ∈ [0x307, 0x3C2, 0x3C3], Settled n := by
  have hrows : ∀ n ∈ [0x307, 0x3C2, 0x3C3], ∀ s ∈ caseRuns, s.covers n = false := by
    decide +kernel
  exact hrows

theorem settled_lowerChar {c : Char} (hc : c.toNat ≠ 0x3A3) :
    ∀ d ∈ lowerChar c, Settled d.toNat := by
  cases lowerChar_cases c with
  | ascii small lowered =>
    rw [lowered]
    exact List.forall_mem_singleton.2 (settled_toLower small)
  | dotted point lowered =>
    rw [lowered, List.forall_mem_cons, List.forall_mem_singleton]
    exact ⟨settled_of_ascii (by decide) (by decide), settled_marks 0x307 (by decide)⟩
  | listed beyond undotted lowered =>
    rw [lowered]
    exact List.forall_mem_singleton.2 (settled_ofNat (settled_mapByRuns undotted hc))

/-- **Every character of a text in lower case is settled.** -/
theorem settled_lowerFrom (after : Bool) (cs : List Char) :
    ∀ d ∈ lowerFrom after cs, Settled d.toNat := by
  induction cs generalizing after with
  | nil => exact List.forall_mem_nil _
  | cons c rest ih =>
    rw [lowerFrom]
    refine List.forall_mem_append.2 ⟨?_, ih _⟩
    split
    · refine List.forall_mem_singleton.2 (settled_marks _ ?_)
      split <;> decide
    · rename_i hc
      exact settled_lowerChar hc

theorem lowerChar_of_settled {c : Char} (h : Settled c.toNat) : lowerChar c = [c] := by
  have hcapital := h ⟨0x41, 0x5A, 1, 32⟩
    (List.mem_cons_of_mem _ (List.mem_cons_of_mem _ List.mem_cons_self))
  have hdotted := h ⟨0x130, 0x130, 1, 0⟩ List.mem_cons_self
  simp only [CaseRun.covers, Nat.mod_one, beq_self_eq_true, Bool.and_true, Bool.and_eq_false_iff,
    decide_eq_false_iff_not] at hcapital hdotted
  cases lowerChar_cases c with
  | ascii small lowered => rw [lowered, toLower_of_small (by omega)]
  | dotted point lowered => omega
  | listed beyond undotted lowered =>
    rcases mapByRuns_cases lowerRuns c.toNat with ⟨r, hr, hc, -⟩ | ⟨-, he⟩
    · have hout := h r (List.mem_cons_of_mem _ (List.mem_cons_of_mem _ hr))
      rw [hc] at hout
      cases hout
    · rw [lowered, he, Char.ofNat_toNat]

/-- Settled characters are in lower case. -/
theorem lowerFrom_of_settled {cs : List Char} (h : ∀ c ∈ cs, Settled c.toNat) (after : Bool) :
    lowerFrom after cs = cs := by
  induction cs generalizing after with
  | nil => rfl
  | cons c rest ih =>
    obtain ⟨hc, hrest⟩ := List.forall_mem_cons.1 h
    have hsigma : c.toNat ≠ 0x3A3 := by
      intro heq
      have hout := hc ⟨0x3A3, 0x3A3, 1, 0⟩ (List.mem_cons_of_mem _ List.mem_cons_self)
      rw [heq] at hout
      cases hout
    rw [lowerFrom, ih hrest, if_neg hsigma, lowerChar_of_settled hc, List.singleton_append]

theorem lower_of_settled {s : String} (h : ∀ c ∈ s.toList, Settled c.toNat) : lower s = s := by
  rw [lower, lowerChars, lowerFrom_of_settled h, String.ofList_toList]

theorem settled_lower (s : String) : ∀ c ∈ (lower s).toList, Settled c.toNat := by
  rw [lower, String.toList_ofList]
  exact settled_lowerFrom false s.toList

/-- **Lowering twice is lowering once.** -/
theorem lower_lower (s : String) : lower (lower s) = lower s := lower_of_settled (settled_lower s)

/-! ## Small ASCII letters -/

/-- The bytes of a text, each read as a character. -/
def byteChars (s : String) : List Char := s.toByteArray.data.toList.map fun b => Char.ofNat b.toNat

/-- Whether a text has ASCII characters only, and no capitals.  A text is its bytes, so bytes are
looked at: characters would have to be decoded first. -/
def isSmall (s : String) : Bool :=
  s.toByteArray.data.toList.all fun b =>
    Nat.blt b.toNat 0x80 && (Nat.blt b.toNat 0x41 || Nat.blt 0x5A b.toNat)

/-- A character whose bytes are ASCII is its byte: a longer encoding begins with 192 or more. -/
theorem utf8EncodeChar_of_ascii {c : Char} (h : ∀ b ∈ String.utf8EncodeChar c, b.toNat < 0x80) :
    c.toNat < 0x80 ∧ String.utf8EncodeChar c = [UInt8.ofNat c.toNat] := by
  have hfirst : ∀ {b bs}, String.utf8EncodeChar c = b :: bs → b.toNat < 0x80 :=
    fun he => h _ (by rw [he]; exact List.mem_cons_self)
  unfold String.utf8EncodeChar at hfirst ⊢
  dsimp only at hfirst ⊢
  by_cases hone : c.val.toNat ≤ 127
  · exact ⟨Nat.lt_succ_of_le hone, if_pos hone⟩
  · rw [if_neg hone] at hfirst
    split at hfirst
    · have hbyte := hfirst rfl
      rw [UInt8.toNat_ofNat'] at hbyte
      omega
    · split at hfirst
      · have hbyte := hfirst rfl
        rw [UInt8.toNat_ofNat'] at hbyte
        omega
      · have hbyte := hfirst rfl
        rw [UInt8.toNat_ofNat'] at hbyte
        omega

theorem map_flatMap_utf8EncodeChar {cs : List Char}
    (h : ∀ b ∈ cs.flatMap String.utf8EncodeChar, b.toNat < 0x80) :
    (cs.flatMap String.utf8EncodeChar).map (fun b => Char.ofNat b.toNat) = cs := by
  induction cs with
  | nil => rfl
  | cons c rest ih =>
    rw [List.flatMap_cons, List.forall_mem_append] at h
    obtain ⟨hc, hone⟩ := utf8EncodeChar_of_ascii h.1
    have hbyte : (UInt8.ofNat c.toNat).toNat = c.toNat := by
      rw [UInt8.toNat_ofNat']
      exact Nat.mod_eq_of_lt (by omega)
    rw [List.flatMap_cons, List.map_append, ih h.2, hone, List.map_singleton, hbyte,
      Char.ofNat_toNat, List.singleton_append]

theorem toList_of_isSmall {s : String} (h : isSmall s = true) : s.toList = byteChars s := by
  have hbytes : s.toByteArray.data.toList = s.toList.flatMap String.utf8EncodeChar := by
    rw [← String.utf8Encode_toList, List.utf8Encode, List.data_toByteArray]
  simp only [isSmall, List.all_eq_true, Bool.and_eq_true, Nat.blt_eq] at h
  rw [byteChars, hbytes, map_flatMap_utf8EncodeChar fun b hb => (h b (hbytes ▸ hb)).1]

theorem small_of_isSmall {s : String} (h : isSmall s = true) :
    ∀ c ∈ s.toList, c.toNat < 0x80 ∧ (c.toNat < 0x41 ∨ 0x5A < c.toNat) := by
  rw [toList_of_isSmall h, byteChars, List.forall_mem_map]
  intro b hb
  simp only [isSmall, List.all_eq_true, Bool.and_eq_true, Bool.or_eq_true, Nat.blt_eq] at h
  have hvalid : b.toNat.isValidChar := by
    have hascii := (h b hb).1
    exact .inl (by omega)
  have hbyte : (Char.ofNat b.toNat).toNat = b.toNat := by
    rw [Char.ofNat, dif_pos hvalid]
    rfl
  rw [hbyte]
  exact h b hb

theorem foldChar_of_small {c : Char} (hc : c.toNat < 0x80) (h : c.toNat < 0x41 ∨ 0x5A < c.toNat) :
    foldChar c = c := by
  unfold foldChar
  rw [if_pos hc, toLower_of_small h]

theorem lower_of_isSmall {s : String} (h : isSmall s = true) : lower s = s := by
  have hsmall := small_of_isSmall h
  exact lower_of_settled fun c hc => settled_of_ascii (hsmall c hc).1 (hsmall c hc).2

/-- What is folded to an ASCII letter is lowered to that letter, or is a long s, but for the dotted
capital i. -/
theorem lowerFrom_letter {c : Char} (hf : (foldChar c).toNat < 0x80) (hi : foldChar c ≠ 'i')
    (after : Bool) (rest : List Char) : ∃ d next,
      lowerFrom after (c :: rest) = d :: lowerFrom next rest ∧
        (d = foldChar c ∨ foldChar c = 's' ∧ d = 'ſ') := by
  have hcons : ∀ {d}, c.toNat ≠ 0x3A3 → lowerChar c = [d] → ∃ next,
      lowerFrom after (c :: rest) = d :: lowerFrom next rest := by
    intro d hsigma hd
    rw [lowerFrom, if_neg hsigma, hd]
    exact ⟨_, rfl⟩
  cases foldChar_cases c with
  | ascii small folded =>
    obtain ⟨next, he⟩ := hcons (d := c.toLower) (by omega) (if_pos small)
    exact ⟨_, next, he, .inl folded.symm⟩
  | kelvin point folded =>
    have hc : c = Char.ofNat 0x212A := by rw [← point, Char.ofNat_toNat]
    obtain ⟨next, he⟩ := hcons (d := 'k') (by omega) (by rw [hc]; decide +kernel)
    exact ⟨_, next, he, .inl folded.symm⟩
  | longS point folded =>
    have hc : c = Char.ofNat 0x17F := by rw [← point, Char.ofNat_toNat]
    obtain ⟨next, he⟩ := hcons (d := 'ſ') (by omega) (by rw [hc]; decide +kernel)
    exact ⟨_, next, he, .inr ⟨folded, rfl⟩⟩
  | smallI point folded => exact absurd folded hi
  | kept beyond folded =>
    rw [folded] at hf
    omega

/-! ## Searching tables -/

theorem has_iff_mem_keys {t : Table} {word : String} : t.has word = true ↔ word ∈ t.keys := by
  rw [Table.has, List.lookup_isSome_iff]
  simp [Table.keys]

/-- **The form in which tables are searched is searched as it is.** -/
theorem tableKey_tableKey (s : String) : tableKey (tableKey s) = tableKey s := by
  have hsettled : ∀ c ∈ (trim (lower s)).toList, Settled c.toNat := by
    intro c hc
    rw [trim, String.toList_ofList] at hc
    exact settled_lower s c ((trimChars_isInfix _).subset hc)
  rw [tableKey, tableKey, lower_of_settled hsettled, trim_trim]

end Restyle.Text
