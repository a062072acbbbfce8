import Restyle.Color.Notation
import Restyle.Proofs.Numeric.NotNegative

/-!
# Conversion from red, green and blue

The brightest and the darkest of red, green and blue give the saturation and the lightness.  The
hue counts sixths of a turn, which start at the brightest component and depend on how far the
other two are from it; below zero a whole turn is added.  All of it is rounded at every step, and
none of it leaves its range.

* `share_mono`, `share_gap` — the shares of red, green and blue.
* `hueShare_eq`, `sixths_clear`, `sixths_bounds` — the sixths of a turn.
* `turnShare_bounds`, `hueShare_bounds` — the hue as a share of the turn.
* `ofRgb_eq` — three whole numbers that are not too large.
-/

set_option autoImplicit false

namespace Restyle.Color

open Restyle.Numeric

/-! ## Rounding between whole numbers -/

theorem nearest_one : nearest 1 = 1 := by exact_mod_cast nearest_natCast (n := 1) (by norm_num)

theorem nearest_two : nearest 2 = 2 := by exact_mod_cast nearest_natCast (n := 2) (by norm_num)

theorem nearest_five : nearest 5 = 5 := by exact_mod_cast nearest_natCast (n := 5) (by norm_num)

theorem nearest_six : nearest 6 = 6 := by exact_mod_cast nearest_natCast (n := 6) (by norm_num)

theorem nearest_le {q limit : ℚ} (hlimit : nearest limit = limit) (h : q ≤ limit) :
    nearest q ≤ limit := (nearest_mono h).trans hlimit.le

theorem le_nearest {q limit : ℚ} (hlimit : nearest limit = limit) (h : limit ≤ q) :
    limit ≤ nearest q := hlimit.symm.le.trans (nearest_mono h)

theorem neg_one_le_nearest {q : ℚ} (h : -1 ≤ q) : -1 ≤ nearest q :=
  le_nearest (by rw [nearest_neg, nearest_one]) h

/-- A whole number that is not too large. -/
theorem roundedProduct_eq {x factor : ℚ} (hx : 0 ≤ x) (hx' : x ≤ 301) (hf : 0 ≤ factor)
    (hf' : factor ≤ 360) : ∃ n : Nat, roundedProduct x factor = n ∧ n ≤ 131072 := by
  have hlimit : nearest 131071 = 131071 := by
    exact_mod_cast nearest_natCast (n := 131071) (by norm_num)
  have hlimit' : nearest 131072 = 131072 := by
    exact_mod_cast nearest_natCast (n := 131072) (by norm_num)
  have hlow := nearest_nonneg (mul_nonneg hx hf)
  have hhigh : nearest (x * factor) ≤ 131071 := nearest_le hlimit (by nlinarith)
  have hsum : nearest (nearest (x * factor) + 1 / 2) ≤ 131072 := nearest_le hlimit' (by linarith)
  have hnonneg : 0 ≤ roundedProduct x factor :=
    Rat.le_floor_iff.2 (by exact_mod_cast nearest_nonneg (by linarith))
  refine ⟨(roundedProduct x factor).toNat, by omega, ?_⟩
  have hfloor : (roundedProduct x factor : ℚ) ≤ ((131072 : Int) : ℚ) := by
    have := Rat.floor_le (nearest (nearest (x * factor) + 1 / 2))
    unfold roundedProduct
    push_cast
    linarith
  have hle : roundedProduct x factor ≤ 131072 := by exact_mod_cast hfloor
  omega

/-! ## Shares -/

theorem share_mono {m n : Nat} (h : m ≤ n) : share m ≤ share n := by
  unfold share
  rw [Rat.mkRat_eq_div, Rat.mkRat_eq_div]
  apply nearest_mono
  have hmin : min (m : Int) 255 ≤ min (n : Int) 255 := by omega
  gcongr

theorem share_nonneg (n : Nat) : 0 ≤ share n := by
  unfold share
  rw [Rat.mkRat_eq_div]
  have hmin : (0 : ℚ) ≤ ((min (n : Int) 255 : Int) : ℚ) := by exact_mod_cast (by omega)
  exact nearest_nonneg (by positivity)

theorem share_le_one (n : Nat) : share n ≤ 1 := by
  unfold share
  rw [Rat.mkRat_eq_div]
  apply nearest_le nearest_one
  rw [div_le_one (by norm_num)]
  exact_mod_cast (show min (n : Int) 255 ≤ 255 by omega)

theorem share_clamp (n : Nat) : share (min n 255) = share n := by
  have hmin : min ((min n 255 : Nat) : Int) 255 = min (n : Int) 255 := by omega
  rw [share, share, hmin]

theorem share_gap_next : ∀ n < 255, share n + 1 / 300 ≤ share (n + 1) := by decide +kernel

/-- Shares that differ, differ by a three-hundredth. -/
theorem share_gap {m n : Nat} (hmn : m ≤ n) (h : share m ≠ share n) :
    share m + 1 / 300 ≤ share n := by
  have hm : m < 255 := by
    by_contra hm
    exact h (by rw [← share_clamp m, ← share_clamp n, min_eq_right (by omega),
      min_eq_right (by omega)])
  have hlt : m < n := lt_of_le_of_ne hmn (by rintro rfl; exact h rfl)
  exact (share_gap_next m hm).trans (share_mono hlt)

/-- A component that is not the brightest possible leaves room above it. -/
theorem share_of_ne {m n : Nat} (hmn : m ≤ n) (h : share m ≠ share n) : share m ≤ share 254 := by
  by_cases hm : m ≤ 254
  · exact share_mono hm
  · refine absurd ?_ h
    rw [← share_clamp m, ← share_clamp n, min_eq_right (by omega), min_eq_right (by omega)]

/-- What the saturation of a bright colour is divided by. -/
theorem room_above {low high : ℚ} (hlow : low ≤ share 254) (hhigh : high ≤ 1) :
    1 / 300 ≤ nearest (2 - nearest (high + low)) := by
  have hroom : 1 / 300 ≤ nearest (2 - nearest (1 + share 254)) := by decide +kernel
  have hsum : nearest (high + low) ≤ nearest (1 + share 254) := nearest_mono (by linarith)
  exact hroom.trans (nearest_mono (by linarith))

/-! ## Sixths of a turn -/

/-- How far a component is from the brightest one, as a share of the range. -/
def distance (high range x : ℚ) : ℚ := nearest (nearest (high - x) / range)

/-- The hue in sixths of a turn, which start at the brightest component. -/
def sixths (r g b high range : ℚ) : ℚ :=
  if r = high then nearest (distance high range b - distance high range g)
  else if g = high then nearest (nearest (2 + distance high range r) - distance high range b)
  else nearest (nearest (4 + distance high range g) - distance high range r)

/-- Sixths of a turn as a share of the turn, which begins anew below zero. -/
def turnShare (sixths : ℚ) : ℚ :=
  if nearest (sixths / 6) < 0 then nearest (nearest (sixths / 6) + 1) else nearest (sixths / 6)

variable {r g b low high x y : ℚ}

theorem distance_bounds (hlow : low ≤ x) (hhigh : x ≤ high) :
    0 ≤ distance high (nearest (high - low)) x ∧ distance high (nearest (high - low)) x ≤ 1 := by
  have h0 := nearest_nonneg (sub_nonneg.2 hhigh)
  have h1 : nearest (high - x) ≤ nearest (high - low) := nearest_mono (by linarith)
  exact ⟨nearest_nonneg (div_nonneg h0 (h0.trans h1)),
    nearest_le nearest_one (div_le_one_of_le₀ h1 (h0.trans h1))⟩

theorem distance_anti (hlow : low ≤ high) (hxy : x ≤ y) :
    distance high (nearest (high - low)) y ≤ distance high (nearest (high - low)) x :=
  nearest_mono (div_le_div_of_nonneg_right (nearest_mono (by linarith))
    (nearest_nonneg (sub_nonneg.2 hlow)))

/-- Red, green and blue lie between the darkest and the brightest of them. -/
structure Within (r g b low high : ℚ) : Prop where
  red : low ≤ r ∧ r ≤ high
  green : low ≤ g ∧ g ≤ high
  blue : low ≤ b ∧ b ≤ high

theorem within_share (r g b : Nat) : Within (share r) (share g) (share b)
    (share (min (min r g) b)) (share (max (max r g) b)) :=
  ⟨⟨share_mono (by omega), share_mono (by omega)⟩, ⟨share_mono (by omega), share_mono (by omega)⟩,
    ⟨share_mono (by omega), share_mono (by omega)⟩⟩

/-- Unless red is the brightest and blue is above green, the hue stays clear of both ends of the
turn, or begins at zero. -/
theorem sixths_clear (hw : Within r g b low high) (hclear : r ≠ high ∨ b ≤ g) :
    0 ≤ sixths r g b high (nearest (high - low)) ∧
      sixths r g b high (nearest (high - low)) ≤ 5 := by
  obtain ⟨⟨hr, hr'⟩, ⟨hg, hg'⟩, ⟨hb, hb'⟩⟩ := hw
  obtain ⟨r0, r1⟩ := distance_bounds hr hr'
  obtain ⟨g0, g1⟩ := distance_bounds hg hg'
  obtain ⟨b0, b1⟩ := distance_bounds hb hb'
  have hgb : b ≤ g → distance high (nearest (high - low)) g ≤
      distance high (nearest (high - low)) b := distance_anti (hr.trans hr')
  unfold sixths
  generalize distance high (nearest (high - low)) r = rc at *
  generalize distance high (nearest (high - low)) g = gc at *
  generalize distance high (nearest (high - low)) b = bc at *
  split
  · rename_i hred
    have := hgb (hclear.resolve_left (not_not.2 hred))
    exact ⟨nearest_nonneg (by linarith), nearest_le nearest_five (by linarith)⟩
  · split
    · have hlow := le_nearest nearest_two (show 2 ≤ 2 + rc by linarith)
      have hhigh := nearest_le nearest_five (show 2 + rc ≤ 5 by linarith)
      exact ⟨nearest_nonneg (by linarith), nearest_le nearest_five (by linarith)⟩
    · have hlow := le_nearest nearest_two (show 2 ≤ 4 + gc by linarith)
      have hhigh := nearest_le nearest_five (show 4 + gc ≤ 5 by linarith)
      exact ⟨nearest_nonneg (by linarith), nearest_le nearest_five (by linarith)⟩

theorem sixths_bounds (hw : Within r g b low high) :
    -1 ≤ sixths r g b high (nearest (high - low)) ∧
      sixths r g b high (nearest (high - low)) ≤ 6 := by
  by_cases hclear : r ≠ high ∨ b ≤ g
  · obtain ⟨h0, h5⟩ := sixths_clear hw hclear
    exact ⟨by linarith, by linarith⟩
  · obtain ⟨g0, g1⟩ := distance_bounds hw.green.1 hw.green.2
    obtain ⟨b0, b1⟩ := distance_bounds hw.blue.1 hw.blue.2
    rw [sixths, if_pos (not_not.1 (not_or.1 hclear).1)]
    exact ⟨neg_one_le_nearest (by linarith), nearest_le nearest_six (by linarith)⟩

theorem turnShare_bounds (hlow : -1 ≤ x) (hhigh : x ≤ 6) : 0 ≤ turnShare x ∧ turnShare x ≤ 1 := by
  unfold turnShare
  split
  · have := neg_one_le_nearest (show -1 ≤ x / 6 by linarith)
    exact ⟨nearest_nonneg (by linarith), nearest_le nearest_one (by linarith)⟩
  · rename_i hh
    exact ⟨not_lt.1 hh, nearest_le nearest_one (by linarith)⟩

/-- The hue begins anew where it would become negative, and goes round no more than once. -/
theorem hueShare_bounds (hw : Within r g b low high) :
    0 ≤ hueShare r g b high (nearest (high - low)) ∧
      hueShare r g b high (nearest (high - low)) ≤ 1 := by
  obtain ⟨hlow, hhigh⟩ := sixths_bounds hw
  exact turnShare_bounds hlow hhigh

/-! ## The stored text -/

/-- The degrees of the hue of red, green and blue; a grey has none. -/
def degrees (r g b : Nat) : Int :=
  let high := share (max (max r g) b)
  let low := share (min (min r g) b)
  if low = high then 0
  else roundedProduct (hueShare (share r) (share g) (share b) high (nearest (high - low))) 360

theorem degrees_eq (r g b : Nat) : ∃ h : Nat, degrees r g b = h ∧ h ≤ 131072 := by
  unfold degrees
  dsimp only
  split
  · exact ⟨0, rfl, by omega⟩
  · obtain ⟨hue0, hue1⟩ := hueShare_bounds (within_share r g b)
    exact roundedProduct_eq hue0 (by linarith) (by norm_num) (by norm_num)

/-- The lightness of red, green and blue as a share. -/
theorem light_bounds (hlow : 0 ≤ low) (hle : low ≤ high) (hhigh : high ≤ 1) :
    0 ≤ nearest (nearest (high + low) / 2) ∧ nearest (nearest (high + low) / 2) ≤ 1 := by
  have hsum0 : 0 ≤ nearest (high + low) := nearest_nonneg (by linarith)
  have hsum2 : nearest (high + low) ≤ 2 := nearest_le nearest_two (by linarith)
  exact ⟨nearest_nonneg (by linarith), nearest_le nearest_one (by linarith)⟩

/-- The saturation of a dark colour as a share. -/
theorem dark_saturation_bounds (hlow : 0 ≤ low) (hle : low ≤ high) :
    0 ≤ nearest (nearest (high - low) / nearest (high + low)) ∧
      nearest (nearest (high - low) / nearest (high + low)) ≤ 1 := by
  have hrange : 0 ≤ nearest (high - low) := nearest_nonneg (by linarith)
  have hsum : nearest (high - low) ≤ nearest (high + low) := nearest_mono (by linarith)
  have hsum0 : 0 ≤ nearest (high + low) := hrange.trans hsum
  exact ⟨nearest_nonneg (div_nonneg hrange hsum0),
    nearest_le nearest_one (div_le_one_of_le₀ hsum hsum0)⟩

/-- The saturation of a bright colour as a share: what it is divided by may be small, but not as
small as a three-hundredth. -/
theorem bright_saturation_bounds (hlow : 0 ≤ low) (hle : low ≤ high) (hhigh : high ≤ 1)
    (hroom : low ≤ share 254) :
    0 ≤ nearest (nearest (high - low) / nearest (2 - nearest (high + low))) ∧
      nearest (nearest (high - low) / nearest (2 - nearest (high + low))) ≤ 300 := by
  have hrange : 0 ≤ nearest (high - low) := nearest_nonneg (by linarith)
  have hrange1 : nearest (high - low) ≤ 1 := nearest_le nearest_one (by linarith)
  have habove := room_above hroom hhigh
  have hlimit : nearest 300 = 300 := by
    exact_mod_cast nearest_natCast (n := 300) (by norm_num)
  have hratio : nearest (high - low) / nearest (2 - nearest (high + low)) ≤ 300 := by
    rw [div_le_iff₀ (by linarith)]
    linarith
  exact ⟨nearest_nonneg (div_nonneg hrange (by linarith)), nearest_le hlimit hratio⟩

/-- Whatever red, green and blue are, three whole numbers that are not too large. -/
theorem ofRgb_eq (r g b : Nat) : ∃ h s l : Nat, ofRgb r g b = Hsl.wholeText h s l ∧
    degrees r g b = h ∧ h ≤ 131072 ∧ s ≤ 131072 ∧ l ≤ 131072 := by
  obtain ⟨h, hh, hh'⟩ := degrees_eq r g b
  have hhigh := share_le_one (max (max r g) b)
  have hlow := share_nonneg (min (min r g) b)
  have hle : share (min (min r g) b) ≤ share (max (max r g) b) := share_mono (by omega)
  have hroom := share_of_ne (show min (min r g) b ≤ max (max r g) b by omega)
  refine ⟨h, ?_⟩
  rw [← hh]
  unfold ofRgb degrees
  dsimp only
  generalize share (max (max r g) b) = high at *
  generalize share (min (min r g) b) = low at *
  have hpercent : ∀ x : ℚ, 0 ≤ x → x ≤ 301 → ∃ n : Nat, roundedProduct x 100 = n ∧ n ≤ 131072 :=
    fun x h0 h1 => roundedProduct_eq h0 h1 (by norm_num) (by norm_num)
  obtain ⟨hlight0, hlight1⟩ := light_bounds hlow hle hhigh
  obtain ⟨l, hl, hl'⟩ := hpercent _ hlight0 (by linarith)
  split
  · exact ⟨0, l, by rw [hl]; rfl, rfl, hh', by omega, hl'⟩
  · rename_i hne
    split
    · obtain ⟨hsat0, hsat1⟩ := dark_saturation_bounds hlow hle
      obtain ⟨s, hs, hs'⟩ := hpercent _ hsat0 (by linarith)
      exact ⟨s, l, by rw [hs, hl], rfl, hh', hs', hl'⟩
    · obtain ⟨hsat0, hsat1⟩ := bright_saturation_bounds hlow hle hhigh (hroom hne)
      obtain ⟨s, hs, hs'⟩ := hpercent _ hsat0 (by linarith)
      exact ⟨s, l, by rw [hs, hl], rfl, hh', hs', hl'⟩

end Restyle.Color
