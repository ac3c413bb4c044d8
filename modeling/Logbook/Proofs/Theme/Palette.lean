/-
# The entry of the palette that stands for a mix

Behind the sixteen basic colours the palette has 240 entries: a cube with six levels for each
channel, and a ramp of 24 grays (`Color.Entry`).  A mix is shown by one of them.  Its index is
computed by a linear formula in small words, where nothing overflows (`indexInWords?_eq`).

The best entry would be one that is nearest to the mix.  The formula finds it only in places, for
three reasons.

* The steps of a channel are cut evenly from its range, but the levels are not spread evenly.  So
  the nearest level is missed in five intervals (`fittingChannels`), and with it the nearest entry
  of the cube, where each channel may be mended by itself (`nearest_in_cube_iff`).
* The ramp is not looked at, unless the channels are equal.  Its gray that is nearest to a mix is
  the one that is nearest to the mean of the channels (`apart_nearestGray_le`).
* If the channels are equal, a step of the ramp is counted as somewhat wider than it is and always
  rounded down, and the grays of the cube are not looked at (`fittingGrays`).

These are all: `nearest_paletteIndex_iff` says for which mixes the entry is nearest.  For the others
it is still near, as no channel is off by more than fifty (`near_entryOf`).
-/
import Logbook.Color
import Mathlib.Data.Int.Lemmas
import Mathlib.Tactic.Linarith
import Mathlib.Tactic.Ring

namespace Logbook

namespace Color

/-! ## 1. The palette -/

/-- An amount of red, green and blue. -/
structure Mix where
  red : Int
  green : Int
  blue : Int
  deriving DecidableEq, Repr

namespace Mix

/-- The mix of three channels. -/
def ofChannels (r g b : Fin 256) : Mix := ⟨r.val, g.val, b.val⟩

/-- The mix of equal channels. -/
def ofLevel (level : Int) : Mix := ⟨level, level, level⟩

/-- The square of the distance of two mixes. -/
def apart (m n : Mix) : Int :=
  (m.red - n.red) ^ 2 + (m.green - n.green) ^ 2 + (m.blue - n.blue) ^ 2

end Mix

/-- The levels of a channel in the cube. -/
def cubeLevel : Fin 6 → Int
  | 0 => 0
  | 1 => 95
  | 2 => 135
  | 3 => 175
  | 4 => 215
  | 5 => 255

/-- The levels of the ramp. -/
def rampLevel (step : Fin 24) : Int := 8 + 10 * step.val

/-- The entries of the palette behind the basic colours. -/
inductive Entry where
  | cube (red green blue : Fin 6)
  | gray (step : Fin 24)
  deriving DecidableEq, Repr

namespace Entry

/-- Where the entry stands in the palette. -/
def index : Entry → Fin 256
  | cube r g b => ⟨16 + 36 * r.val + 6 * g.val + b.val, by omega⟩
  | gray step => ⟨232 + step.val, by omega⟩

/-- What the entry looks like. -/
def mix : Entry → Mix
  | cube r g b => ⟨cubeLevel r, cubeLevel g, cubeLevel b⟩
  | gray step => .ofLevel (rampLevel step)

theorem index_inj {e f : Entry} (h : e.index = f.index) : e = f := by
  have hval := congrArg Fin.val h
  cases e with
  | cube r g b =>
    cases f with
    | cube r' g' b' =>
      simp only [index] at hval
      simp only [cube.injEq, Fin.ext_iff]
      omega
    | gray step =>
      simp only [index] at hval
      omega
  | gray step =>
    cases f with
    | cube r g b =>
      simp only [index] at hval
      omega
    | gray step' =>
      simp only [index] at hval
      simp only [gray.injEq, Fin.ext_iff]
      omega

/-- **The entries fill the palette** behind the basic colours. -/
theorem exists_index_iff {n : Fin 256} : (∃ e : Entry, e.index = n) ↔ 16 ≤ n.val := by
  constructor
  · rintro ⟨e | e, rfl⟩
    · simp only [index]
      omega
    · simp only [index]
      omega
  · intro h
    by_cases hramp : n.val < 232
    · refine ⟨cube ⟨(n.val - 16) / 36, by omega⟩ ⟨(n.val - 16) / 6 % 6, by omega⟩
        ⟨(n.val - 16) % 6, by omega⟩, Fin.ext ?_⟩
      simp only [index]
      omega
    · refine ⟨gray ⟨n.val - 232, by omega⟩, Fin.ext ?_⟩
      simp only [index]
      omega

end Entry

/-- The palette has an entry at the index, and no entry is nearer to the mix. -/
def IsNearest (n : Fin 256) (mix : Mix) : Prop :=
  ∃ e : Entry, e.index = n ∧ ∀ other : Entry, e.mix.apart mix ≤ other.mix.apart mix

/-! ## 2. The formula in words -/

/-- The number, if a word of that many bits holds it. -/
def word? (bits n : Nat) : Option Nat := if n < 2 ^ bits then some n else none

/-- The difference, if it is not negative. -/
def minus? (m n : Nat) : Option Nat := if n ≤ m then some (m - n) else none

/-- The index of a gray, where products are in words of sixteen bits and all else is in bytes. -/
def grayInWords? (level : Nat) : Option Nat :=
  if level < 8 then word? 8 16
  else if 248 < level then word? 8 231
  else do
    let above ← minus? level 8
    let product ← word? 16 (above * 24)
    let step ← word? 8 (product / 247)
    word? 8 (232 + step)

/-- The step of a channel, with a product in a word of sixteen bits. -/
def stepInWords? (channel : Nat) : Option Nat := do
  let product ← word? 16 (channel * 5)
  word? 8 (product / 255)

/-- The index in the cube, summed up in bytes from left to right. -/
def cubeInWords? (red green blue : Nat) : Option Nat := do
  let red ← stepInWords? red
  let green ← stepInWords? green
  let blue ← stepInWords? blue
  let plane ← word? 8 (36 * red)
  let start ← word? 8 (16 + plane)
  let row ← word? 8 (6 * green)
  let start ← word? 8 (start + row)
  word? 8 (start + blue)

/-- The index of a mix, if no intermediate result overflows. -/
def indexInWords? (r g b : Fin 256) : Option Nat :=
  if r = g ∧ g = b then grayInWords? r else cubeInWords? r g b

theorem word?_of_lt {bits n : Nat} (h : n < 2 ^ bits) : word? bits n = some n := if_pos h

theorem minus?_of_le {m n : Nat} (h : n ≤ m) : minus? m n = some (m - n) := if_pos h

theorem grayInWords?_eq {level : Nat} (h : level < 256) :
    grayInWords? level = some (grayIndex level) := by
  unfold grayInWords? grayIndex
  split
  · rfl
  · split
    · rfl
    · simp only [Option.bind_eq_bind]
      rw [minus?_of_le (by omega), Option.bind_some, word?_of_lt (by omega), Option.bind_some,
        word?_of_lt (by omega), Option.bind_some, word?_of_lt (by omega)]

theorem stepInWords?_eq (channel : Fin 256) :
    stepInWords? channel = some (channel.val * 5 / 255) := by
  rw [stepInWords?, word?_of_lt (by omega), Option.bind_eq_bind, Option.bind_some,
    word?_of_lt (by omega)]

theorem cubeInWords?_eq (r g b : Fin 256) : cubeInWords? r g b = some (cubeIndex r g b) := by
  rw [cubeInWords?, stepInWords?_eq, stepInWords?_eq, stepInWords?_eq, cubeIndex]
  have hr : r.val * 5 / 255 ≤ 5 := by omega
  have hg : g.val * 5 / 255 ≤ 5 := by omega
  have hb : b.val * 5 / 255 ≤ 5 := by omega
  generalize r.val * 5 / 255 = red at hr
  generalize g.val * 5 / 255 = green at hg
  generalize b.val * 5 / 255 = blue at hb
  simp only [Option.bind_eq_bind, Option.bind_some]
  rw [word?_of_lt (by omega), Option.bind_some, word?_of_lt (by omega), Option.bind_some,
    word?_of_lt (by omega), Option.bind_some, word?_of_lt (by omega), Option.bind_some,
    word?_of_lt (by omega)]

/-- **Nothing overflows.** -/
theorem indexInWords?_eq (r g b : Fin 256) :
    indexInWords? r g b = some (paletteIndex r g b).val := by
  unfold indexInWords? paletteIndex
  split
  · exact grayInWords?_eq r.isLt
  · exact cubeInWords?_eq r g b

/-! ## 3. The entry of a mix -/

/-- The step that a channel is given in the cube. -/
def cubeStep (channel : Fin 256) : Fin 6 := ⟨channel.val * 5 / 255, by omega⟩

/-- The entry that stands for equal channels. -/
def grayEntry (level : Fin 256) : Entry :=
  if level.val < 8 then .cube 0 0 0
  else if h : 248 < level.val then .cube 5 5 5
  else .gray ⟨(level.val - 8) * 24 / 247, by omega⟩

/-- The entry that stands for a mix. -/
def entryOf (r g b : Fin 256) : Entry :=
  if r = g ∧ g = b then grayEntry r else .cube (cubeStep r) (cubeStep g) (cubeStep b)

theorem index_grayEntry (level : Fin 256) : (grayEntry level).index.val = grayIndex level := by
  unfold grayEntry grayIndex
  split
  · rfl
  · split
    · rfl
    · rfl

theorem index_entryOf (r g b : Fin 256) : (entryOf r g b).index = paletteIndex r g b := by
  unfold entryOf paletteIndex
  split
  · exact Fin.ext (index_grayEntry r)
  · exact Fin.ext rfl

/-- The palette has one entry at the index, so its distance is the one that counts. -/
theorem isNearest_paletteIndex_iff {r g b : Fin 256} {mix : Mix} :
    IsNearest (paletteIndex r g b) mix ↔
      ∀ other : Entry, (entryOf r g b).mix.apart mix ≤ other.mix.apart mix := by
  constructor
  · rintro ⟨e, hindex, hnearest⟩
    rwa [Entry.index_inj (hindex.trans (index_entryOf r g b).symm)] at hnearest
  · exact fun hnearest => ⟨_, index_entryOf r g b, hnearest⟩

/-- The level of the entry that stands for equal channels. -/
def grayTone (level : Fin 256) : Int :=
  if level.val < 8 then 0
  else if 248 < level.val then 255
  else 8 + 10 * ((level.val - 8) * 24 / 247 : Nat)

theorem mix_grayEntry (level : Fin 256) : (grayEntry level).mix = .ofLevel (grayTone level) := by
  unfold grayEntry grayTone
  split
  · rfl
  · split
    · rfl
    · rfl

/-! ## 4. Which entry is nearest -/

/-- The number is in one of the intervals. -/
def Within (intervals : List (Nat × Nat)) (n : Nat) : Prop :=
  ∃ i ∈ intervals, i.1 ≤ n ∧ n ≤ i.2

instance (intervals : List (Nat × Nat)) (n : Nat) : Decidable (Within intervals n) :=
  inferInstanceAs (Decidable (∃ i ∈ intervals, i.1 ≤ n ∧ n ≤ i.2))

/-- The channels that are given a step of the nearest level in the cube. -/
def fittingChannels : List (Nat × Nat) :=
  [(0, 47), (51, 101), (115, 152), (155, 195), (204, 235), (255, 255)]

/-- The equal channels that are given a gray of the nearest level in the palette. -/
def fittingGrays : List (Nat × Nat) :=
  [(0, 4), (8, 13), (19, 23), (29, 33), (39, 43), (50, 53), (60, 63), (70, 73), (81, 83), (91, 91),
   (101, 103), (111, 113), (122, 123), (142, 143), (153, 153), (163, 163), (183, 183), (245, 246),
   (249, 255)]

/-- The gray of the ramp that is nearest to the mean of three channels, given their sum. -/
def nearestGray (total : Nat) : Fin 24 := ⟨min 23 ((total - 9) / 30), by omega⟩

/-- A channel fits if no level is closer to it than that of its step. -/
theorem within_fittingChannels_iff (channel : Fin 256) :
    Within fittingChannels channel.val ↔
      ∀ k, (cubeLevel (cubeStep channel) - channel.val) ^ 2 ≤ (cubeLevel k - channel.val) ^ 2 := by
  simp only [← Int.natAbs_le_iff_sq_le]
  revert channel
  decide +kernel

/-- Equal channels fit if no level is closer to them than that of their gray. -/
theorem within_fittingGrays_iff (level : Fin 256) :
    Within fittingGrays level.val ↔
      (∀ k, (grayTone level - level.val) ^ 2 ≤ (cubeLevel k - level.val) ^ 2) ∧
        ∀ k, (grayTone level - level.val) ^ 2 ≤ (rampLevel k - level.val) ^ 2 := by
  simp only [← Int.natAbs_le_iff_sq_le]
  revert level
  decide +kernel

/-- **In the cube each channel may be mended by itself.**  The entry is nearest among those of the
cube exactly if each of the channels has the nearest level. -/
theorem nearest_in_cube_iff (r g b : Fin 256) :
    (∀ x y z, (Entry.cube (cubeStep r) (cubeStep g) (cubeStep b)).mix.apart (.ofChannels r g b) ≤
        (Entry.cube x y z).mix.apart (.ofChannels r g b)) ↔
      Within fittingChannels r ∧ Within fittingChannels g ∧ Within fittingChannels b := by
  rw [within_fittingChannels_iff, within_fittingChannels_iff, within_fittingChannels_iff]
  simp only [Mix.apart, Entry.mix, Mix.ofChannels]
  constructor
  · intro h
    refine ⟨fun k => ?_, fun k => ?_, fun k => ?_⟩
    · have hk := h k (cubeStep g) (cubeStep b)
      linarith
    · have hk := h (cubeStep r) k (cubeStep b)
      linarith
    · have hk := h (cubeStep r) (cubeStep g) k
      linarith
  · rintro ⟨hr, hg, hb⟩ x y z
    exact add_le_add (add_le_add (hr x) (hg y)) (hb z)

/-- **The nearest gray of the ramp** is the one that is nearest to the mean of the channels. -/
theorem apart_nearestGray_le (r g b : Fin 256) (k : Fin 24) :
    (Entry.gray (nearestGray (r.val + g.val + b.val))).mix.apart (.ofChannels r g b) ≤
      (Entry.gray k).mix.apart (.ofChannels r g b) := by
  obtain ⟨total, htotal⟩ : ∃ total, total = r.val + g.val + b.val := ⟨_, rfl⟩
  rw [← htotal]
  obtain ⟨n, hn⟩ : ∃ n : Int, n = (nearestGray total).val := ⟨_, rfl⟩
  simp only [Mix.apart, Entry.mix, Mix.ofLevel, Mix.ofChannels, rampLevel, ← hn]
  have hsum : (total : Int) = r.val + g.val + b.val := by exact_mod_cast htotal
  -- what is won by going from one gray to the other is a product of two differences
  have hgain : 0 ≤ (k.val - n) * (24 + 15 * (k.val + n) - total) := by
    simp only [nearestGray] at hn
    rcases lt_trichotomy n k.val with hlt | heq | hgt
    · exact mul_nonneg (by omega) (by omega)
    · rw [heq, sub_self, zero_mul]
    · exact mul_nonneg_of_nonpos_of_nonpos (by omega) (by omega)
  rw [hsum] at hgain
  linarith

theorem apart_ofLevel (tone : Int) (level : Fin 256) :
    (Mix.ofLevel tone).apart (.ofChannels level level level) = 3 * (tone - level.val) ^ 2 := by
  simp only [Mix.apart, Mix.ofLevel, Mix.ofChannels]
  ring

/-- **Equal channels** have the nearest entry exactly if they have the nearest level. -/
theorem nearest_gray_iff (level : Fin 256) :
    (∀ other : Entry, (grayEntry level).mix.apart (.ofChannels level level level) ≤
        other.mix.apart (.ofChannels level level level)) ↔ Within fittingGrays level := by
  rw [within_fittingGrays_iff, mix_grayEntry, apart_ofLevel]
  constructor
  · intro h
    refine ⟨fun k => ?_, fun k => ?_⟩
    · have hk : _ ≤ Mix.apart (.ofLevel (cubeLevel k)) _ := h (.cube k k k)
      rw [apart_ofLevel] at hk
      linarith
    · have hk : _ ≤ Mix.apart (.ofLevel (rampLevel k)) _ := h (.gray k)
      rw [apart_ofLevel] at hk
      linarith
  · rintro ⟨hcube, hramp⟩ other
    cases other with
    | cube x y z =>
      have hx := hcube x
      have hy := hcube y
      have hz := hcube z
      simp only [Mix.apart, Entry.mix, Mix.ofChannels]
      linarith
    | gray k =>
      have hk := hramp k
      simp only [Entry.mix, apart_ofLevel]
      linarith

/-- The mixes that are given an entry that is nearest to them. -/
inductive Fits (r g b : Fin 256) : Prop where
  | equal (h : r = g ∧ g = b) (hgray : Within fittingGrays r) : Fits r g b
  | mixed (h : ¬ (r = g ∧ g = b)) (hred : Within fittingChannels r)
      (hgreen : Within fittingChannels g) (hblue : Within fittingChannels b)
      (hgray : (Entry.cube (cubeStep r) (cubeStep g) (cubeStep b)).mix.apart (.ofChannels r g b) ≤
        (Entry.gray (nearestGray (r.val + g.val + b.val))).mix.apart (.ofChannels r g b)) :
      Fits r g b

theorem nearest_entryOf_iff (r g b : Fin 256) :
    (∀ other : Entry, (entryOf r g b).mix.apart (.ofChannels r g b) ≤
      other.mix.apart (.ofChannels r g b)) ↔ Fits r g b := by
  unfold entryOf
  split
  · rename_i hequal
    obtain ⟨rfl, rfl⟩ := hequal
    rw [nearest_gray_iff]
    refine ⟨.equal ⟨rfl, rfl⟩, fun h => ?_⟩
    cases h with
    | equal _ hgray => exact hgray
    | mixed h => exact absurd ⟨rfl, rfl⟩ h
  · rename_i hmixed
    constructor
    · intro h
      obtain ⟨hred, hgreen, hblue⟩ := (nearest_in_cube_iff r g b).mp fun x y z => h (.cube x y z)
      exact .mixed hmixed hred hgreen hblue (h _)
    · intro h other
      cases h with
      | equal h => exact absurd h hmixed
      | mixed _ hred hgreen hblue hgray =>
        cases other with
        | cube x y z => exact (nearest_in_cube_iff r g b).mpr ⟨hred, hgreen, hblue⟩ x y z
        | gray k => exact hgray.trans (apart_nearestGray_le r g b k)

/-! ## 5. The index of a mix -/

/-- No channel differs by more than fifty. -/
def Mix.Near (m n : Mix) : Prop :=
  |m.red - n.red| ≤ 50 ∧ |m.green - n.green| ≤ 50 ∧ |m.blue - n.blue| ≤ 50

/-- **The entry is always near.** -/
theorem near_entryOf (r g b : Fin 256) : (entryOf r g b).mix.Near (.ofChannels r g b) := by
  have hlevel : ∀ channel : Fin 256, |cubeLevel (cubeStep channel) - channel.val| ≤ 50 := by
    decide +kernel
  unfold entryOf
  split
  · rename_i hequal
    obtain ⟨rfl, rfl⟩ := hequal
    have htone : |grayTone r - r.val| ≤ 50 := by
      revert r
      decide +kernel
    rw [mix_grayEntry]
    exact ⟨htone, htone, htone⟩
  · exact ⟨hlevel r, hlevel g, hlevel b⟩

/-- **The index of a mix** is computed without overflow, and is that of an entry of the palette.  The
entry is near to the mix.  It is nearest to it exactly if the mix fits. -/
theorem nearest_paletteIndex_iff (r g b : Fin 256) :
    indexInWords? r g b = some (paletteIndex r g b).val ∧
      16 ≤ (paletteIndex r g b).val ∧
      (∃ e : Entry, e.index = paletteIndex r g b ∧ e.mix.Near (.ofChannels r g b)) ∧
      (IsNearest (paletteIndex r g b) (.ofChannels r g b) ↔ Fits r g b) :=
  ⟨indexInWords?_eq r g b, Entry.exists_index_iff.mp ⟨_, index_entryOf r g b⟩,
    ⟨_, index_entryOf r g b, near_entryOf r g b⟩,
    isNearest_paletteIndex_iff.trans (nearest_entryOf_iff r g b)⟩

/-- A red that is all but full is shown as a darker one, though full red is next to it. -/
theorem paletteIndex_of_red :
    paletteIndex 254 0 0 = 160 ∧ ¬ IsNearest 160 (.ofChannels 254 0 0) ∧
      IsNearest 196 (.ofChannels 254 0 0) := by
  have hindex : paletteIndex 254 0 0 = 160 := by decide
  refine ⟨hindex, fun h => ?_, .cube 5 0 0, by decide, fun other => ?_⟩
  · rw [← hindex, isNearest_paletteIndex_iff, nearest_entryOf_iff] at h
    cases h with
    | equal h => exact absurd h (by decide)
    | mixed _ hred => exact absurd hred (by decide)
  · cases other with
    | cube x y z =>
      revert x y z
      decide +kernel
    | gray k =>
      revert k
      decide +kernel

end Color

end Logbook
