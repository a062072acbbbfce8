import Restyle.Proofs.Numeric.InRange
import Restyle.Settings.Read

/-!
# How bad settings are reported

Settings are read from a document in a fixed order, and the first value that does not do stops the
reading.  Most of them are reported as bad values: a text that is no number, a number that is no
number, an unknown tolerance, a pause below zero, a threshold that is no percentage.  But a section
is asked for its entries whatever it is, and a value for its number, so a list in the place of a
section, a null in the place of a number, and a number that is too large are reported as what they
are to that operation, and not as bad values.

* `SettingsError.report` — how an error is reported.
* `Settings.Reads` — the settings that a document holds.
* `Settings.Legible` — a document whose reading comes upon nothing but good and bad values.
* `bad_values_reported` — the settings of a document, or a report of a bad value.
* `null_pause_reported` — the report of a pause that is left empty.
-/

set_option autoImplicit false

namespace Restyle

open Restyle.Numeric Restyle.Text

/-! ## Reports -/

/-- How an error is reported. -/
inductive SettingsError.Report where
  | badValue
  /-- A value of this kind has no number. -/
  | wrongKind
  /-- A value of this kind has no entries. -/
  | noEntries
  | overflow
  deriving DecidableEq, Repr

/-- The report of a settings error. -/
def SettingsError.report : SettingsError → SettingsError.Report
  | .unknownTolerance _ => .badValue
  | .negativePause _ => .badValue
  | .thresholdOutOfRange _ => .badValue
  | .notSection _ => .noEntries
  | .notWhole _ => .badValue
  | .wholeOfKind _ => .wrongKind
  | .wholeOfNumber .infinite => .overflow
  | .wholeOfNumber .indefinite => .badValue
  | .notDecimal _ => .badValue
  | .decimalOfKind _ => .wrongKind
  | .tooLarge => .overflow

variable {α β : Type}

/-- If a reading stops, it reports a bad value. -/
def BadValuesOnly (x : Except SettingsError α) : Prop := ∀ e, x = .error e → e.report = .badValue

theorem badValuesOnly_ok (a : α) : BadValuesOnly (.ok a : Except SettingsError α) := nofun

theorem badValuesOnly_error {e : SettingsError} :
    BadValuesOnly (.error e : Except SettingsError α) ↔ e.report = .badValue := by
  constructor
  · intro h
    exact h e rfl
  · rintro h _ ⟨⟩
    exact h

/-- A reading goes on with what it has read. -/
theorem badValuesOnly_bind {x : Except SettingsError α} {next : α → Except SettingsError β} :
    BadValuesOnly (x >>= next) ↔ BadValuesOnly x ∧ ∀ a, x = .ok a → BadValuesOnly (next a) := by
  cases x with
  | error e =>
    have hstop : (Except.error e >>= next) = .error e := rfl
    simp [hstop, badValuesOnly_error]
  | ok a =>
    have hgo : (Except.ok a >>= next) = next a := rfl
    simp [hgo, badValuesOnly_ok]

theorem bind_eq_ok_iff {x : Except SettingsError α} {next : α → Except SettingsError β} {b : β} :
    (x >>= next) = .ok b ↔ ∃ a, x = .ok a ∧ next a = .ok b := by
  cases x with
  | error e => exact iff_of_false nofun (by rintro ⟨a, ⟨⟩, -⟩)
  | ok a =>
    have hgo : (Except.ok a >>= next) = next a := rfl
    simp [hgo]

/-! ## Sections -/

namespace Document

variable (d : Document)

/-- The entries of a mapping; any other document has none. -/
def fields : Document → Fields
  | .mapping fields => fields
  | _ => []

/-- The section of a name. -/
def part (name : String) : Document := subsection d.fields name

/-- An entry of a section. -/
def setting (part name : String) (default : Document) : Document :=
  (Assoc.get? (d.part part).fields name).getD default

/-- A document that is a section: a mapping, or an empty document. -/
def CountsAsSection : Prop := d.isEmpty = true ∨ d.kind = .mapping

/-- A document that has a whole part, or is a text that may stand for one. -/
def MayBeWhole : Document → Prop
  | .bool _ => True
  | .whole _ => True
  | .real x => ∀ negative, x ≠ .infinite negative
  | .text _ => True
  | _ => False

/-- A document that is a number of the format, or is a text that may stand for one. -/
def MayBeDecimal : Document → Prop
  | .bool _ => True
  | .whole z => z.natAbs < leastOverflow
  | .real _ => True
  | .text _ => True
  | _ => False

end Document

variable {d : Document}

theorem sectionOf_cases (d : Document) :
    d.CountsAsSection ∧ sectionOf d = .ok d.fields ∨
      ¬d.CountsAsSection ∧ sectionOf d = .error (.notSection d.kind) := by
  unfold Document.CountsAsSection sectionOf
  split
  · exact .inl ⟨.inr rfl, rfl⟩
  · rename_i hmapping
    have hkind : d.kind ≠ .mapping := by
      cases d <;> simp_all [Document.kind]
    cases hempty : d.isEmpty with
    | true =>
      have hfields : d.fields = [] := by
        cases d <;> simp_all [Document.fields]
      exact .inl ⟨.inl rfl, by simp [hfields]⟩
    | false => exact .inr ⟨by simp [hkind], rfl⟩

/-- What is read from a section. -/
theorem badValuesOnly_sectionOf {next : Fields → Except SettingsError α} :
    BadValuesOnly (sectionOf d >>= next) ↔ d.CountsAsSection ∧ BadValuesOnly (next d.fields) := by
  rw [badValuesOnly_bind]
  rcases sectionOf_cases d with ⟨hsection, hread⟩ | ⟨hsection, hread⟩
  · simp [hread, hsection, badValuesOnly_ok]
  · simp [hread, hsection, badValuesOnly_error, SettingsError.report]

theorem sectionOf_bind_eq_ok {next : Fields → Except SettingsError α} {a : α} :
    (sectionOf d >>= next) = .ok a ↔ d.CountsAsSection ∧ next d.fields = .ok a := by
  rw [bind_eq_ok_iff]
  rcases sectionOf_cases d with ⟨hsection, hread⟩ | ⟨hsection, hread⟩
  · simp [hread, hsection]
  · simp [hread, hsection]

/-! ## Numbers -/

/-- A whole number is asked of every document, and all have one or are bad values but those of
another kind and the infinite ones. -/
theorem badValuesOnly_wholeOf : BadValuesOnly (wholeOf d) ↔ d.MayBeWhole := by
  unfold wholeOf
  split
  · exact iff_of_true (badValuesOnly_ok _) trivial
  · exact iff_of_true (badValuesOnly_ok _) trivial
  · rename_i x
    cases x with
    | infinite negative =>
      simp [wholePart, badValuesOnly_error, SettingsError.report, Document.MayBeWhole]
    | indefinite =>
      simp [wholePart, badValuesOnly_error, SettingsError.report, Document.MayBeWhole]
    | finite v => simp [wholePart, badValuesOnly_ok, Document.MayBeWhole]
    | negativeZero => simp [wholePart, badValuesOnly_ok, Document.MayBeWhole]
  · split
    · exact iff_of_true (badValuesOnly_ok _) trivial
    · exact iff_of_true (badValuesOnly_error.2 rfl) trivial
  · cases d <;> simp_all [badValuesOnly_error, SettingsError.report, Document.MayBeWhole]

theorem badValuesOnly_decimalOf : BadValuesOnly (decimalOf d) ↔ d.MayBeDecimal := by
  unfold decimalOf
  split
  · exact iff_of_true (badValuesOnly_ok _) trivial
  · rename_i z
    have hlarge := Binary64.exists_ofInt_eq_infinite_iff (z := z)
    rw [← not_iff_not, not_le] at hlarge
    rw [Document.MayBeDecimal, ← hlarge]
    split
    · rename_i negative hinf
      simp [badValuesOnly_error, SettingsError.report, hinf]
    · rename_i hother
      refine iff_of_true (badValuesOnly_ok _) ?_
      rintro ⟨negative, hinf⟩
      exact hother negative hinf
  · exact iff_of_true (badValuesOnly_ok _) trivial
  · split
    · exact iff_of_true (badValuesOnly_ok _) trivial
    · exact iff_of_true (badValuesOnly_error.2 rfl) trivial
  · cases d <;> simp_all [badValuesOnly_error, SettingsError.report, Document.MayBeDecimal]

/-! ## Checks -/

/-- A number from zero to a hundred. -/
def Numeric.Binary64.IsPercentage (x : Binary64) : Prop :=
  ∃ q, x.toRat? = some q ∧ 0 ≤ q ∧ q ≤ 100

/-- Numbers are compared by their values. -/
theorem Numeric.Binary64.le_iff {x y : Binary64} {p q : ℚ} (hx : x.toRat? = some p)
    (hy : y.toRat? = some q) : x.le y = true ↔ p ≤ q := by
  have hle : x.le y = !decide (q < p) := by
    cases x with
    | infinite negative => cases hx
    | indefinite => cases hx
    | finite v => cases hx; cases y <;> cases hy <;> rfl
    | negativeZero => cases hx; cases y <;> cases hy <;> rfl
  rw [hle, Bool.not_eq_true', decide_eq_false_iff_not, not_lt]

theorem isPercentage_iff {x : Binary64} :
    ((Binary64.finite 0).le x && x.le (.finite 100)) = true ↔ x.IsPercentage := by
  unfold Binary64.IsPercentage
  cases hx : x.toRat? with
  | none =>
    refine iff_of_false ?_ (by simp)
    cases x with
    | infinite negative => cases negative <;> decide
    | indefinite => decide
    | finite v => cases hx
    | negativeZero => cases hx
  | some q =>
    rw [Bool.and_eq_true, Binary64.le_iff rfl hx, Binary64.le_iff hx rfl]
    simp

theorem ofName?_eq_some_iff {name : String} {t : Tolerance} :
    Tolerance.ofName? name = some t ↔ name = t.name := by
  constructor
  · intro h
    have hname := List.find?_some h
    exact (beq_iff_eq.1 hname).symm
  · rintro rfl
    cases t <;> decide

/-- What is refused by the check of the values is a bad value. -/
theorem badValuesOnly_check (raw : RawSettings) : BadValuesOnly raw.check := by
  unfold RawSettings.check
  dsimp only
  split
  · exact badValuesOnly_error.2 rfl
  · split
    · exact badValuesOnly_error.2 rfl
    · split
      · exact badValuesOnly_error.2 rfl
      · exact badValuesOnly_ok _

/-- The settings that come of values that are all admissible. -/
theorem check_eq_ok_iff {raw : RawSettings} {s : Settings} : raw.check = .ok s ↔
    upper raw.tolerance = s.tolerance.name ∧ raw.pause = s.pause ∧ raw.threshold.IsPercentage ∧
      s.themeFolder = raw.themeFolder ∧ s.foreground = ⟨raw.threshold, raw.dark, raw.light⟩ ∧
      s.logLevel = raw.logLevel ∧ s.logFile = raw.logFile := by
  obtain ⟨tolerance, pause, themeFolder, foreground, logLevel, logFile⟩ := s
  rw [← ofName?_eq_some_iff, ← isPercentage_iff, RawSettings.check]
  dsimp only
  cases hname : Tolerance.ofName? (upper raw.tolerance) with
  | none => simp
  | some t =>
    by_cases hpause : raw.pause < 0
    · have hother : raw.pause ≠ (pause : Int) := by omega
      simp [hpause, hother]
    · have hsame : raw.pause.toNat = pause ↔ raw.pause = (pause : Int) := by omega
      cases hthreshold : (Binary64.finite 0).le raw.threshold && raw.threshold.le (.finite 100) with
      | false => simp [hpause]
      | true =>
        simp only [if_neg hpause, Bool.not_true, Bool.false_eq_true, if_false, Except.ok.injEq,
          Settings.mk.injEq, hsame, Option.some.injEq, true_and]
        tauto

/-! ## The settings of a document -/

namespace Settings

/-- The settings that a document holds: every section is one, every value is admissible, and what
is not there has its default. -/
structure Reads (d : Document) (s : Settings) : Prop where
  document : d.CountsAsSection
  sections : ∀ name ∈ ["matching", "persistence", "foreground", "logging"],
    (d.part name).CountsAsSection
  tolerance : upper (d.setting "matching" "tolerance" (.text "DEFAULT")).shown = s.tolerance.name
  limits : s.thresholds = s.tolerance.thresholds
  pause : wholeOf (d.setting "persistence" "debounce_ms" (.whole 500)) = .ok (s.pause : Int)
  themeFolder : s.themeFolder = d.setting "persistence" "directory" .null
  threshold : decimalOf (d.setting "foreground" "threshold" (.whole 50)) =
    .ok s.foreground.threshold
  percentage : s.foreground.threshold.IsPercentage
  dark : s.foreground.dark = (d.setting "foreground" "dark" (.text "240 5.9% 10%")).shown
  light : s.foreground.light = (d.setting "foreground" "light" (.text "0 0% 98%")).shown
  logLevel : s.logLevel = upper (d.setting "logging" "level" (.text "INFO")).shown
  logFile : s.logFile = d.setting "logging" "file" .null

/-- A document whose reading comes upon good and bad values only.  It is read in a fixed order, so
what stands behind a number that is a bad value does not matter. -/
structure Legible (d : Document) : Prop where
  document : d.CountsAsSection
  matching : (d.part "matching").CountsAsSection
  persistence : (d.part "persistence").CountsAsSection
  pause : (d.setting "persistence" "debounce_ms" (.whole 500)).MayBeWhole
  foreground : ∀ n, wholeOf (d.setting "persistence" "debounce_ms" (.whole 500)) = .ok n →
    (d.part "foreground").CountsAsSection ∧
      (d.setting "foreground" "threshold" (.whole 50)).MayBeDecimal
  logging : ∀ n, wholeOf (d.setting "persistence" "debounce_ms" (.whole 500)) = .ok n →
    ∀ x, decimalOf (d.setting "foreground" "threshold" (.whole 50)) = .ok x →
      (d.part "logging").CountsAsSection

/-- **The reading stops at bad values only** exactly if nothing else comes before the first of
them. -/
theorem badValuesOnly_ofDocument (d : Document) : BadValuesOnly (ofDocument d) ↔ Legible d := by
  simp only [ofDocument, badValuesOnly_sectionOf]
  constructor
  · rintro ⟨hdocument, hmatching, hpersistence, hread⟩
    obtain ⟨hpause, hread⟩ := badValuesOnly_bind.1 hread
    have hforeground := fun n hn => badValuesOnly_sectionOf.1 (hread n hn)
    have hthreshold := fun n hn => badValuesOnly_bind.1 (hforeground n hn).2
    refine ⟨hdocument, hmatching, hpersistence, badValuesOnly_wholeOf.1 hpause, ?_, ?_⟩
    · intro n hn
      exact ⟨(hforeground n hn).1, badValuesOnly_decimalOf.1 (hthreshold n hn).1⟩
    · intro n hn x hx
      exact (badValuesOnly_sectionOf.1 ((hthreshold n hn).2 x hx)).1
  · intro h
    refine ⟨h.document, h.matching, h.persistence, badValuesOnly_bind.2
      ⟨badValuesOnly_wholeOf.2 h.pause, fun n hn => ?_⟩⟩
    obtain ⟨hforeground, hthreshold⟩ := h.foreground n hn
    refine badValuesOnly_sectionOf.2 ⟨hforeground, badValuesOnly_bind.2
      ⟨badValuesOnly_decimalOf.2 hthreshold, fun x hx => ?_⟩⟩
    exact badValuesOnly_sectionOf.2 ⟨h.logging n hn x hx, badValuesOnly_check _⟩

/-- **What is read are the settings of the document**, and they are read whenever it has any. -/
theorem ofDocument_eq_ok_iff {d : Document} {s : Settings} : ofDocument d = .ok s ↔ Reads d s := by
  simp only [ofDocument, sectionOf_bind_eq_ok, bind_eq_ok_iff (x := wholeOf _),
    bind_eq_ok_iff (x := decimalOf _), check_eq_ok_iff]
  constructor
  · rintro ⟨hdocument, hmatching, hpersistence, n, hpause, hforeground, x, hthreshold, hlogging,
      htolerance, rfl, hpercentage, hfolder, hrule, hlevel, hfile⟩
    have hx : s.foreground.threshold = x := congrArg _ hrule
    subst hx
    refine ⟨hdocument, ?_, htolerance, rfl, hpause, hfolder, hthreshold, hpercentage,
      congrArg _ hrule, congrArg _ hrule, hlevel, hfile⟩
    simp only [List.forall_mem_cons]
    exact ⟨hmatching, hpersistence, hforeground, hlogging, nofun⟩
  · intro h
    have hsections := h.sections
    simp only [List.forall_mem_cons] at hsections
    obtain ⟨hmatching, hpersistence, hforeground, hlogging, -⟩ := hsections
    have hrule : s.foreground = ⟨s.foreground.threshold, s.foreground.dark, s.foreground.light⟩ := rfl
    rw [h.dark, h.light] at hrule
    exact ⟨h.document, hmatching, hpersistence, s.pause, h.pause, hforeground,
      s.foreground.threshold, h.threshold, hlogging, h.tolerance, rfl, h.percentage, h.themeFolder,
      hrule, h.logLevel, h.logFile⟩

/-- **Settings are read or a bad value is reported**, exactly for the documents whose reading comes
upon nothing else; and what is read are the settings that the document holds. -/
theorem bad_values_reported (d : Document) :
    (((∃ s, ofDocument d = .ok s ∧ Reads d s) ∨
      ∃ e, ofDocument d = .error e ∧ e.report = .badValue) ↔ Legible d) ∧
      ∀ s, ofDocument d = .ok s ↔ Reads d s := by
  refine ⟨?_, fun s => ofDocument_eq_ok_iff⟩
  rw [← badValuesOnly_ofDocument]
  constructor
  · rintro (⟨s, hread, -⟩ | ⟨e, hread, hreport⟩)
    · rw [hread]
      exact badValuesOnly_ok s
    · rw [hread]
      exact badValuesOnly_error.2 hreport
  · intro h
    cases hread : ofDocument d with
    | ok s => exact .inl ⟨s, rfl, ofDocument_eq_ok_iff.1 hread⟩
    | error e => exact .inr ⟨e, rfl, h e hread⟩

/-- A pause that is left empty is reported as what has no number, although an empty section counts
as a section, and a pause that is a word is a bad value. -/
theorem null_pause_reported :
    ¬((∃ s, ofDocument (.mapping [("persistence", .mapping [("debounce_ms", .null)])]) = .ok s ∧
        Reads (.mapping [("persistence", .mapping [("debounce_ms", .null)])]) s) ∨
      ∃ e, ofDocument (.mapping [("persistence", .mapping [("debounce_ms", .null)])]) = .error e ∧
        e.report = .badValue) := by
  have hread : ofDocument (.mapping [("persistence", .mapping [("debounce_ms", .null)])]) =
      .error (.wholeOfKind .null) := rfl
  rintro (⟨s, hs, -⟩ | ⟨e, he, hreport⟩)
  · rw [hread] at hs
    cases hs
  · rw [hread] at he
    cases he
    cases hreport

end Settings

end Restyle
